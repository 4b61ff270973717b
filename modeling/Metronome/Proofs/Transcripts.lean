import Metronome.Console.Bounded
import Metronome.Pin.Scripted
import Metronome.Proofs.Effects

/-!
# Transcripts of consoles

A transcribed console is the same console with the texts that it took beside it. Whatever becomes of
some pieces, those taken are a beginning of them, and all of them exactly when the whole is printed
(`Transcribed.texts_print_prefix`). A console may also be one that takes every text
(`Console.TakesAll`).
-/

namespace Metronome

/-! ## Consoles with a transcript -/

/-- A console with the texts that it took. -/
structure Transcribed (κ : Type) where
  console : κ
  /-- The texts so far, the first one first. -/
  texts : List String

namespace Transcribed

variable {κ : Type} [Console κ]

/-- Writes a text, and writes it down if the console takes it. -/
def write (text : String) : Act (Transcribed κ) WriteFault Unit := fun now w =>
  let inner := Console.write text now w.console
  let taken := if inner.outcome = .done () then [text] else []
  ⟨inner.outcome, ⟨inner.state, w.texts ++ taken⟩, inner.trace⟩

instance : Console (Transcribed κ) where
  write

variable (now : Nat) (pieces : List String) (w : Transcribed κ)

theorem mapState_writeAll :
    (Console.writeAll pieces now w).mapState console = Console.writeAll pieces now w.console := by
  induction pieces generalizing w with
  | nil => rfl
  | cons piece pieces ih => exact Act.mapState_bind (fun _ => rfl) (fun _ => ih) w

/-- The pieces that are taken are the first ones; when all are, the writing ends well. -/
theorem texts_writeAll_prefix :
    ∃ taken, taken <+: pieces ∧
      (Console.writeAll pieces now w).state.texts = w.texts ++ taken ∧
      ((Console.writeAll pieces now w).outcome = .done () ↔ taken = pieces) := by
  induction pieces generalizing w with
  | nil => exact ⟨[], List.prefix_refl [], (List.append_nil _).symm, by simp [Console.writeAll]⟩
  | cons piece pieces ih =>
    rw [Console.writeAll, Act.bind_apply]
    have htexts : (Console.write piece now w).state.texts =
        w.texts ++ if (Console.write piece now w).outcome = .done () then [piece] else [] := rfl
    cases ho : (Console.write piece now w).outcome with
    | done value =>
      obtain ⟨taken, hprefix, hrest, hiff⟩ := ih (Console.write piece now w).state
      rw [ho, if_pos rfl] at htexts
      refine ⟨piece :: taken, (List.prefix_cons_inj piece).mpr hprefix, ?_, ?_⟩
      · simp only [hrest, htexts, List.append_assoc, List.singleton_append]
      · simpa using hiff
    | failed e =>
      rw [ho, if_neg nofun] at htexts
      exact ⟨[], List.nil_prefix, htexts, by simp⟩
    | aborted abort =>
      rw [ho, if_neg nofun] at htexts
      exact ⟨[], List.nil_prefix, htexts, by simp⟩

/-- A transcript makes no difference to a print. -/
theorem mapState_print :
    (Console.print pieces now w).mapState console = Console.print pieces now w.console := by
  rw [Console.print, Console.print, Act.mapError_apply, Act.mapError_apply, ← mapState_writeAll]
  rfl

/-- A print leaves a beginning of its pieces in the transcript, which is all of them exactly when it
ends well. -/
theorem texts_print_prefix :
    ∃ taken, taken <+: pieces ∧ (Console.print pieces now w).state.texts = w.texts ++ taken ∧
      ((Console.print pieces now w).outcome = .done () ↔ taken = pieces) := by
  obtain ⟨taken, hprefix, htexts, hiff⟩ := texts_writeAll_prefix now pieces w
  refine ⟨taken, hprefix, ?_, ?_⟩
  · rw [Console.print, Act.mapError_apply]
    exact htexts
  · rw [← hiff, Console.print, Act.mapError_apply, ← Outcome.isDone_iff, ← Outcome.isDone_iff,
      Outcome.isDone_mapError]

/-- A console that takes all of some pieces has each of them in its transcript. -/
theorem texts_print (h : (Console.print pieces now w).outcome = .done ()) :
    (Console.print pieces now w).state.texts = w.texts ++ pieces := by
  obtain ⟨taken, -, htexts, hiff⟩ := texts_print_prefix now pieces w
  rw [htexts, hiff.mp h]

end Transcribed

/-! ## Consoles that take everything -/

namespace Console

variable {κ : Type} [Console κ]

/-- The console after some texts, each at its instant and whatever became of it. -/
def after : List (Nat × String) → κ → κ
  | [], c => c
  | (now, text) :: texts, c => after texts (write text now c).state

/-- The console takes every text, now and after any texts. -/
def TakesAll (c : κ) : Prop :=
  ∀ texts now text, (write text now (after texts c)).outcome = .done ()

namespace TakesAll

variable {c : κ}

theorem write (h : TakesAll c) (now : Nat) (text : String) :
    (Console.write text now c).outcome = .done () ∧ TakesAll (Console.write text now c).state :=
  ⟨h [] now text, fun texts => h ((now, text) :: texts)⟩

theorem print (h : TakesAll c) (now : Nat) (pieces : List String) :
    (Console.print pieces now c).outcome = .done () ∧
      TakesAll (Console.print pieces now c).state := by
  have hall : (writeAll pieces now c).outcome = .done () ∧
      TakesAll (writeAll pieces now c).state := by
    induction pieces generalizing c with
    | nil => exact ⟨rfl, h⟩
    | cons piece pieces ih =>
      obtain ⟨hfirst, hopen⟩ := h.write now piece
      rw [writeAll, Act.bind_apply, hfirst]
      exact ih hopen
  rw [Console.print, Act.mapError_apply, hall.1]
  exact ⟨rfl, hall.2⟩

end TakesAll

end Console

/-- A console without a limit takes everything. -/
theorem BoundedConsole.takesAll {c : BoundedConsole} (h : c.limit = none) : Console.TakesAll c := by
  have hwrite : ∀ c : BoundedConsole, c.limit = none → ∀ now text,
      (Console.write text now c).outcome = .done () ∧
        (Console.write text now c).state.limit = none := by
    intro c hc now text
    have haccepted : ∀ text, c.accepted text = text := fun _ => by rw [accepted, hc]
    show (BoundedConsole.write text now c).outcome = .done () ∧
      (BoundedConsole.write text now c).state.limit = none
    by_cases hempty : text = ""
    · simp [write, Act.bind_apply, Act.get, Act.modify, haccepted, hempty, hc]
    · simp [write, Act.bind_apply, Act.get, Act.modify, Act.emit, haccepted, hempty, hc]
  intro texts
  induction texts generalizing c with
  | nil => exact fun now text => (hwrite c h now text).1
  | cons first texts ih => exact ih (hwrite c h first.1 first.2).2

/-! ## Consoles with planned faults -/

/-- A console whose failing writes are planned by number. -/
structure PlannedConsole where
  failWrites : FaultPlan := .none
  /-- Writes so far. -/
  writes : Nat := 0

instance : Console PlannedConsole where
  write _ := do
    let console ← Act.get
    Act.modify fun console => { console with writes := console.writes + 1 }
    if console.failWrites console.writes then Act.fail .refused

end Metronome
