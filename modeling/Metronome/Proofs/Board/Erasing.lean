import Metronome.Board.Scripted
import Metronome.Console.Bounded
import Metronome.Demo.HelloWorld
import Metronome.Proofs.Effects

/-!
# When the store is erased

An overseen board is the same board with a list of the calls on its store beside it. Bringing the
store up makes one, two or three such calls, in one of five ways (`BringUp.Orderly`), whatever the
calls come to.
-/

namespace Metronome

/-! ## Boards whose stores are overseen -/

/-- A call on the store of a board and what it came to. -/
inductive StoreCall where
  | tried (outcome : Outcome NvsInitError Unit)
  | erased (outcome : Outcome DriverError Unit)
deriving DecidableEq

/-- Whether the call asks the store to come up. -/
def StoreCall.isTry : StoreCall → Bool
  | .tried _ => true
  | .erased _ => false

/-- Whether the call asks the store to erase itself. -/
def StoreCall.isErase (call : StoreCall) : Bool := !call.isTry

@[simp]
theorem StoreCall.isTry_tried (outcome : Outcome NvsInitError Unit) :
    (StoreCall.tried outcome).isTry = true := rfl

@[simp]
theorem StoreCall.isTry_erased (outcome : Outcome DriverError Unit) :
    (StoreCall.erased outcome).isTry = false := rfl

/-- A board with the list of the calls on its store. -/
structure Overseen (β : Type) where
  board : β
  /-- The calls so far, the first one first. -/
  calls : List StoreCall

namespace Overseen

variable {β ε α : Type} [Board β]

/-- Does something with the board under its overseer, who notes nothing of it. -/
def use (x : Act β ε α) : Act (Overseen β) ε α :=
  x.on Overseen.board fun board w => { w with board }

/-- Uses the store and writes that down. -/
def useStore (x : Act β ε Unit) (call : Outcome ε Unit → StoreCall) :
    Act (Overseen β) ε Unit := fun now w =>
  let inner := x now w.board
  ⟨inner.outcome, ⟨inner.state, w.calls ++ [call inner.outcome]⟩, inner.trace⟩

instance : Board (Overseen β) where
  freeExternal := use MemoryStats.freeExternal
  minFreeHeap := use MemoryStats.minFreeHeap
  initNvs := useStore Board.initNvs .tried
  eraseNvs := useStore Board.eraseNvs .erased
  chipInfo w := Board.chipInfo w.board

end Overseen

/-! ## Bringing the store up -/

/-- What it took to bring a store up, and what it came to. -/
structure BringUp where
  calls : List StoreCall
  outcome : Outcome DriverError Unit
deriving DecidableEq

namespace BringUp

/-- How often the store is asked to come up. -/
def attempts (up : BringUp) : Nat := up.calls.countP StoreCall.isTry

/-- How often the store is asked to erase itself. -/
def erases (up : BringUp) : Nat := up.calls.countP StoreCall.isErase

/-- The ways in which a store is brought up or not. -/
inductive Orderly : BringUp → Prop where
  /-- The first attempt does. -/
  | ready : Orderly ⟨[.tried (.done ())], .done ()⟩
  | aborted (abort : Abort) : Orderly ⟨[.tried (.aborted abort)], .aborted abort⟩
  /-- It fails in a way that no erase helps. -/
  | hopeless :
    Orderly ⟨[.tried (.failed .failed)], .failed (.peripheral "NVS" "initialise")⟩
  /-- The store asks to be erased, which does not succeed. -/
  | unerased (reason : NvsInitError) (hasks : reason = .noFreePages ∨ reason = .newVersionFound)
    (outcome : Outcome DriverError Unit) (hbad : outcome ≠ .done ()) :
    Orderly ⟨[.tried (.failed reason), .erased outcome], outcome⟩
  /-- The store asks to be erased, is erased, and is tried once more. -/
  | retried (reason : NvsInitError) (hasks : reason = .noFreePages ∨ reason = .newVersionFound)
    (outcome : Outcome NvsInitError Unit) :
    Orderly ⟨[.tried (.failed reason), .erased (.done ()), .tried outcome],
      outcome.mapError fun _ => .peripheral "NVS" "initialise after erase"⟩

end BringUp

section Board

variable {β : Type} [Board β]

/-- Brings the store of a board up and notes what that takes. -/
def bringUp (now : Nat) (board : β) : BringUp :=
  ⟨(initNvs now (⟨board, []⟩ : Overseen β)).state.calls, (initNvs now board).outcome⟩

/-- Brings the store up again and again, each time on the board that the time before left. -/
def bringUps : List Nat → β → List BringUp
  | [], _ => []
  | now :: nows, board => bringUp now board :: bringUps nows (initNvs now board).state

/-! ## The ends of an attempt -/

section Ends

variable {now : Nat} {board : β}

theorem initNvs_of_done (h : (Board.initNvs now board).outcome = .done ()) :
    (initNvs now board).outcome = .done () ∧
      (initNvs now board).state = (Board.initNvs now board).state := by
  rw [initNvs, Act.orElse, h]
  exact ⟨rfl, rfl⟩

theorem initNvs_of_aborted {abort : Abort}
    (h : (Board.initNvs now board).outcome = .aborted abort) :
    (initNvs now board).outcome = .aborted abort ∧
      (initNvs now board).state = (Board.initNvs now board).state := by
  rw [initNvs, Act.orElse, h]
  exact ⟨rfl, rfl⟩

/-- A store that fails for any other reason is not tried again. -/
theorem initNvs_of_hopeless (h : (Board.initNvs now board).outcome = .failed .failed) :
    (initNvs now board).outcome = .failed (.peripheral "NVS" "initialise") ∧
      (initNvs now board).state = (Board.initNvs now board).state := by
  rw [initNvs, Act.orElse, h]
  exact ⟨rfl, rfl⟩

section Asks

variable {reason : NvsInitError} (hasks : reason = .noFreePages ∨ reason = .newVersionFound)
  (h : (Board.initNvs now board).outcome = .failed reason)
include hasks h

/-- The erase runs on what the first attempt left. -/
theorem initNvs_of_asks :
    (initNvs now board).outcome = (retryNvs reason now (Board.initNvs now board).state).outcome ∧
      (initNvs now board).state = (retryNvs reason now (Board.initNvs now board).state).state := by
  rw [initNvs, Act.orElse, h]
  rcases hasks with rfl | rfl
  · exact ⟨rfl, rfl⟩
  · exact ⟨rfl, rfl⟩

end Asks

/-- Where erasing fails, its error is that of the bring-up. -/
theorem retryNvs_of_unerased (reason : NvsInitError)
    (h : (Board.eraseNvs now board).outcome ≠ .done ()) :
    (retryNvs reason now board).outcome = (Board.eraseNvs now board).outcome ∧
      (retryNvs reason now board).state = (Board.eraseNvs now board).state := by
  rw [retryNvs, Act.bind_apply]
  simp only [Act.log, Act.emit]
  rw [Act.bind_apply]
  cases herased : (Board.eraseNvs now board).outcome with
  | done value => exact absurd herased h
  | failed e => exact ⟨rfl, rfl⟩
  | aborted abort => exact ⟨rfl, rfl⟩

/-- The second attempt runs on what the erase left. -/
theorem retryNvs_of_erased (reason : NvsInitError)
    (h : (Board.eraseNvs now board).outcome = .done ()) :
    let second := Board.initNvs now (Board.eraseNvs now board).state
    (retryNvs reason now board).outcome =
        second.outcome.mapError (fun _ => .peripheral "NVS" "initialise after erase") ∧
      (retryNvs reason now board).state = second.state := by
  intro second
  rw [retryNvs, Act.bind_apply]
  simp only [Act.log, Act.emit]
  rw [Act.bind_apply, h]
  simp only [Act.orElse]
  cases hsecond : (Board.initNvs now (Board.eraseNvs now board).state).outcome with
  | done value => exact ⟨rfl, rfl⟩
  | failed e => exact ⟨rfl, rfl⟩
  | aborted abort => exact ⟨rfl, rfl⟩

end Ends

section Orderly

variable {now : Nat} {board : β}

/-- A bring-up is orderly where the first try asks for an erase: the board and the overseen board go
through the same calls side by side. -/
theorem orderly_of_asks {reason : NvsInitError}
    (hasks : reason = .noFreePages ∨ reason = .newVersionFound)
    (h : (Board.initNvs now board).outcome = .failed reason) : (bringUp now board).Orderly := by
  let left := (Board.initNvs now board).state
  let overseen : Overseen β := ⟨left, [.tried (.failed reason)]⟩
  have hstart : (initNvs now (⟨board, []⟩ : Overseen β)).state =
      (retryNvs reason now overseen).state := by
    have hfirst : (Board.initNvs now (⟨board, []⟩ : Overseen β)).outcome = .failed reason := h
    have hleft : (Board.initNvs now (⟨board, []⟩ : Overseen β)).state =
        ⟨left, [.tried (Board.initNvs now board).outcome]⟩ := rfl
    rw [(initNvs_of_asks hasks hfirst).2, hleft, h]
  rw [bringUp, hstart, (initNvs_of_asks hasks h).1]
  have herase : (Board.eraseNvs now overseen).state =
      ⟨(Board.eraseNvs now left).state,
        [.tried (.failed reason), .erased (Board.eraseNvs now left).outcome]⟩ := rfl
  by_cases herased : (Board.eraseNvs now left).outcome = .done ()
  · have hoverseen : (Board.eraseNvs now overseen).outcome = .done () := herased
    rw [(retryNvs_of_erased reason herased).1, (retryNvs_of_erased reason hoverseen).2, herase,
      herased]
    exact .retried reason hasks _
  · have hoverseen : (Board.eraseNvs now overseen).outcome ≠ .done () := herased
    rw [(retryNvs_of_unerased reason herased).1, (retryNvs_of_unerased reason hoverseen).2, herase]
    exact .unerased reason hasks _ herased

/-- Every bring-up is orderly, on whatever board. -/
theorem orderly_bringUp (now : Nat) (board : β) : (bringUp now board).Orderly := by
  have hoverseen : (Board.initNvs now (⟨board, []⟩ : Overseen β)).outcome =
      (Board.initNvs now board).outcome := rfl
  have hcalls : (Board.initNvs now (⟨board, []⟩ : Overseen β)).state.calls =
      [.tried (Board.initNvs now board).outcome] := rfl
  cases hfirst : (Board.initNvs now board).outcome with
  | done value =>
    rw [bringUp, (initNvs_of_done (hoverseen.trans hfirst)).2, (initNvs_of_done hfirst).1, hcalls,
      hfirst]
    exact .ready
  | aborted abort =>
    rw [bringUp, (initNvs_of_aborted (hoverseen.trans hfirst)).2, (initNvs_of_aborted hfirst).1,
      hcalls, hfirst]
    exact .aborted abort
  | failed reason =>
    cases reason with
    | noFreePages => exact orderly_of_asks (.inl rfl) hfirst
    | newVersionFound => exact orderly_of_asks (.inr rfl) hfirst
    | failed =>
      rw [bringUp, (initNvs_of_hopeless (hoverseen.trans hfirst)).2, (initNvs_of_hopeless hfirst).1,
        hcalls, hfirst]
      exact .hopeless

end Orderly

theorem orderly_of_mem_bringUps {nows : List Nat} {board : β} {up : BringUp}
    (h : up ∈ bringUps nows board) : up.Orderly := by
  induction nows generalizing board with
  | nil => cases h
  | cons now nows ih =>
    rcases List.mem_cons.mp h with rfl | h
    · exact orderly_bringUp now board
    · exact ih h

end Board

namespace BringUp.Orderly

variable {up : BringUp} (h : up.Orderly)
include h

theorem head?_calls : ∃ outcome, up.calls.head? = some (.tried outcome) := by
  cases h <;> exact ⟨_, rfl⟩

/-- An erase is the second call, and the first one asked for it. -/
theorem asked_of_erased {i : Nat} {outcome : Outcome DriverError Unit}
    (herase : up.calls[i]? = some (.erased outcome)) :
    i = 1 ∧ ∃ reason, up.calls[0]? = some (.tried (.failed reason)) ∧
      (reason = .noFreePages ∨ reason = .newVersionFound) := by
  cases h with
  | ready | aborted | hopeless =>
    obtain ⟨hi, hcall⟩ := List.getElem?_eq_some_iff.mp herase
    have hzero : i = 0 := by simpa using hi
    subst hzero
    cases hcall
  | unerased reason hasks =>
    obtain ⟨hi, hcall⟩ := List.getElem?_eq_some_iff.mp herase
    match i, hi with
    | 0, _ => cases hcall
    | 1, _ => exact ⟨rfl, reason, rfl, hasks⟩
  | retried reason hasks =>
    obtain ⟨hi, hcall⟩ := List.getElem?_eq_some_iff.mp herase
    match i, hi with
    | 0, _ => cases hcall
    | 1, _ => exact ⟨rfl, reason, rfl, hasks⟩
    | 2, _ => cases hcall

theorem erased_of_asked {reason : NvsInitError}
    (hasks : reason = .noFreePages ∨ reason = .newVersionFound)
    (hfirst : up.calls[0]? = some (.tried (.failed reason))) :
    ∃ outcome, up.calls[1]? = some (.erased outcome) := by
  cases h with
  | ready => cases hfirst
  | aborted => cases hfirst
  | hopeless =>
    cases hfirst
    rcases hasks with hasks | hasks <;> cases hasks
  | unerased => exact ⟨_, rfl⟩
  | retried => exact ⟨_, rfl⟩

theorem erases_le : up.erases ≤ 1 := by
  cases h <;> simp [erases, StoreCall.isErase]

theorem attempts_le : up.attempts ≤ 2 := by
  cases h <;> simp [attempts, List.countP_cons]

/-- A second attempt follows exactly the erase that succeeds. -/
theorem attempts_eq_two_iff : up.attempts = 2 ↔ .erased (.done ()) ∈ up.calls := by
  cases h with
  | ready | aborted | hopeless | retried => simp [attempts, List.countP_cons]
  | unerased reason hasks outcome hbad => simp [attempts, List.countP_cons, hbad.symm]

/-- A bring-up ends well exactly when its last call is an attempt that does. -/
theorem outcome_eq_done_iff :
    up.outcome = .done () ↔ up.calls.getLast? = some (.tried (.done ())) := by
  cases h with
  | ready | aborted | hopeless => simp
  | unerased reason hasks outcome hbad => simp [hbad]
  | retried reason hasks outcome => cases outcome <;> simp [Outcome.mapError]

theorem outcome_of_unerased {e : DriverError} (herase : .erased (.failed e) ∈ up.calls) :
    up.outcome = .failed e := by
  cases h with
  | ready | aborted | hopeless | retried => simp at herase
  | unerased => simpa [eq_comm] using herase

theorem outcome_of_retried {reason : NvsInitError} (htwo : up.attempts = 2)
    (hlast : up.calls.getLast? = some (.tried (.failed reason))) :
    up.outcome = .failed (.peripheral "NVS" "initialise after erase") := by
  cases h with
  | ready | aborted | hopeless | unerased => cases htwo
  | retried =>
    simp only [List.getLast?_cons_cons, List.getLast?_singleton, Option.some_inj,
      StoreCall.tried.injEq] at hlast
    rw [hlast]
    rfl

theorem outcome_of_hopeless (hfirst : up.calls[0]? = some (.tried (.failed .failed))) :
    up.outcome = .failed (.peripheral "NVS" "initialise") ∧ up.erases = 0 := by
  cases h with
  | ready | aborted => cases hfirst
  | hopeless => exact ⟨rfl, rfl⟩
  | unerased reason hasks | retried reason hasks =>
    cases hfirst
    rcases hasks with hasks | hasks <;> cases hasks

theorem count_erased :
    up.calls.count (.erased (.done ())) = if up.attempts = 2 then 1 else 0 := by
  cases h with
  | ready | aborted | hopeless | retried => simp [attempts, List.countP_cons]
  | unerased reason hasks outcome hbad => simp [attempts, List.countP_cons, hbad]

end BringUp.Orderly

/-- Over some times that a store is brought up, as many erases succeed as there are second
attempts. -/
theorem count_erased_flatMap {ups : List BringUp} (h : ∀ up ∈ ups, up.Orderly) :
    (ups.flatMap BringUp.calls).count (.erased (.done ())) =
      ups.countP fun up => up.attempts = 2 := by
  induction ups with
  | nil => rfl
  | cons up ups ih =>
    have hup := (h up (List.mem_cons_self ..)).count_erased
    have hrest := ih fun other hother => h other (List.mem_cons_of_mem up hother)
    rw [List.flatMap_cons, List.count_append, hup, hrest, List.countP_cons, Nat.add_comm]
    simp only [decide_eq_true_eq]

/-! ## The greeting without a store -/

/-- A setup whose store does not come up does nothing else. -/
theorem HelloWorld.setUp_of_unready {β κ : Type} [Board β] [Console κ] {now : Nat}
    {h : HelloWorld β κ} {e : DriverError} (hfailed : (initNvs now h.board).outcome = .failed e) :
    setUp now h = ⟨.failed e, { h with board := (initNvs now h.board).state },
      (initNvs now h.board).trace⟩ := by
  have hstore : useBoard initNvs now h = ⟨.failed e,
      { h with board := (initNvs now h.board).state }, (initNvs now h.board).trace⟩ := by
    rw [useBoard, Act.on, hfailed]
  exact Act.bind_of_failed hstore

/-- However often a store is brought up, whatever its attempts and erases come to, each time: it is
tried first; it is erased exactly when that attempt asks for it, as the next call; there are at most
one erase and two attempts, the second one exactly when the erase succeeded; it is up exactly when
the last call is an attempt that succeeded; a failed erase is the error as it is, a failed second
attempt is the same error for every reason, and a first attempt that asks for nothing is another
error, without an erase. So there are as many successful erases as second attempts in all. When the
store does not come up, the setup of a greeting ends with its error, and nothing but the store has
been touched. -/
theorem erases_only_when_asked {β : Type} [Board β] (nows : List Nat) (board : β) :
    let ups := bringUps nows board
    (∀ up ∈ ups,
      (∃ outcome, up.calls.head? = some (.tried outcome)) ∧
      (∀ i outcome, up.calls[i]? = some (.erased outcome) →
        i = 1 ∧ ∃ reason, up.calls[0]? = some (.tried (.failed reason)) ∧
          (reason = .noFreePages ∨ reason = .newVersionFound)) ∧
      (∀ reason, reason = .noFreePages ∨ reason = .newVersionFound →
        up.calls[0]? = some (.tried (.failed reason)) →
        ∃ outcome, up.calls[1]? = some (.erased outcome)) ∧
      up.erases ≤ 1 ∧ up.attempts ≤ 2 ∧
      (up.attempts = 2 ↔ .erased (.done ()) ∈ up.calls) ∧
      (up.outcome = .done () ↔ up.calls.getLast? = some (.tried (.done ()))) ∧
      (∀ e, .erased (.failed e) ∈ up.calls → up.outcome = .failed e) ∧
      (∀ reason, up.attempts = 2 → up.calls.getLast? = some (.tried (.failed reason)) →
        up.outcome = .failed (.peripheral "NVS" "initialise after erase")) ∧
      (up.calls[0]? = some (.tried (.failed .failed)) →
        up.outcome = .failed (.peripheral "NVS" "initialise") ∧ up.erases = 0)) ∧
    (ups.flatMap BringUp.calls).count (.erased (.done ())) =
      ups.countP (fun up => up.attempts = 2) ∧
    ∀ {κ : Type} [Console κ] (now : Nat) (h : HelloWorld β κ) (e : DriverError),
      (initNvs now h.board).outcome = .failed e →
      let run := HelloWorld.setUp now h
      run.outcome = .failed e ∧ run.trace = (initNvs now h.board).trace ∧
        run.state.console = h.console ∧ run.state.countdown = h.countdown := by
  intro ups
  have horderly : ∀ up ∈ ups, up.Orderly := fun up hup => orderly_of_mem_bringUps hup
  refine ⟨fun up hup => ?_, count_erased_flatMap horderly, ?_⟩
  · have hways := horderly up hup
    exact ⟨hways.head?_calls, fun i outcome => hways.asked_of_erased,
      fun reason hasks => hways.erased_of_asked hasks, hways.erases_le, hways.attempts_le,
      hways.attempts_eq_two_iff, hways.outcome_eq_done_iff, fun e => hways.outcome_of_unerased,
      fun reason => hways.outcome_of_retried, hways.outcome_of_hopeless⟩
  · intro κ _ now h e hfailed run
    have hrun : run = _ := HelloWorld.setUp_of_unready hfailed
    rw [hrun]
    exact ⟨rfl, rfl, rfl, rfl⟩

/-- A store that is full at first, then of a newer version also after an erase, and then broken. -/
def failingStore : ScriptedBoard where
  nvs := [some .noFreePages, none, some .newVersionFound, some .newVersionFound, some .failed]

/-- A greeting on a board whose store is broken. -/
def brokenHello : HelloWorld ScriptedBoard BoundedConsole where
  board := { nvs := [some .failed] }
  console := {}
  countdown := some 3

/-- A store that runs full, then is of a newer version, then fails for another reason: it is erased
in the first two bring-ups only. -/
theorem failing_store_is_erased_twice :
    bringUps [1, 2, 3] failingStore =
      [⟨[.tried (.failed .noFreePages), .erased (.done ()), .tried (.done ())], .done ()⟩,
       ⟨[.tried (.failed .newVersionFound), .erased (.done ()), .tried (.failed .newVersionFound)],
        .failed (.peripheral "NVS" "initialise after erase")⟩,
       ⟨[.tried (.failed .failed)], .failed (.peripheral "NVS" "initialise")⟩] ∧
    ((bringUps [1, 2, 3] failingStore).flatMap BringUp.calls).count (.erased (.done ())) = 2 ∧
    (∀ up ∈ bringUps [1, 2, 3] failingStore, up.calls[0]? = some (.tried (.failed .failed)) →
      up.erases = 0) ∧
    (initNvs 5 brokenHello.board).outcome = .failed (.peripheral "NVS" "initialise") ∧
    (HelloWorld.setUp 5 brokenHello).outcome = .failed (.peripheral "NVS" "initialise") ∧
    (HelloWorld.setUp 5 brokenHello).state.countdown = some 3 := by
  have hups : bringUps [1, 2, 3] failingStore =
      [⟨[.tried (.failed .noFreePages), .erased (.done ()), .tried (.done ())], .done ()⟩,
       ⟨[.tried (.failed .newVersionFound), .erased (.done ()), .tried (.failed .newVersionFound)],
        .failed (.peripheral "NVS" "initialise after erase")⟩,
       ⟨[.tried (.failed .failed)], .failed (.peripheral "NVS" "initialise")⟩] := by
    decide +kernel
  have hbroken : (initNvs 5 brokenHello.board).outcome =
      .failed (.peripheral "NVS" "initialise") := by decide +kernel
  obtain ⟨hways, hcount, hgreeting⟩ := erases_only_when_asked [1, 2, 3] failingStore
  obtain ⟨houtcome, -, -, hcountdown⟩ := hgreeting 5 brokenHello _ hbroken
  refine ⟨hups, ?_, fun up hup hfirst => ?_, hbroken, houtcome, hcountdown⟩
  · rw [hcount, hups]
    decide
  · obtain ⟨-, -, -, -, -, -, -, -, -, hhopeless⟩ := hways up hup
    exact (hhopeless hfirst).2

end Metronome
