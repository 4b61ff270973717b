import Metronome.Proofs.Occasions
import Metronome.Proofs.RgbCycle.Steps
import Metronome.Proofs.Transcripts

/-!
# Observing a colour cycle

A noted strip is the same strip with a list of its calls, and a metered memory the same memory with
a list of its readings. A step cannot tell them from the strip and the memory themselves
(`plain_step`). `StepSeen` is all that they can have noted behind a step.
-/

namespace Metronome

/-! ## Strips and memories with observers -/

/-- A strip with the list of its calls. -/
structure Noted (τ : Type) where
  strip : τ
  /-- The calls so far, each with whether it ended well, the first one first. -/
  calls : List (StripOp × Bool)

namespace Noted

variable {τ : Type} [PixelStrip τ]

/-- Makes a call to the strip and notes how it ended. -/
def note {ε : Type} (op : StripOp) (x : Act τ ε Unit) : Act (Noted τ) ε Unit := fun now w =>
  let inner := x now w.strip
  ⟨inner.outcome, ⟨inner.state, w.calls ++ [(op, inner.outcome.isDone)]⟩, inner.trace⟩

instance : PixelStrip (Noted τ) where
  length w := PixelStrip.length w.strip
  setBrightness b := note (.setBrightness b) (PixelStrip.setBrightness b)
  setPixel index colour := note (.setPixel index colour) (PixelStrip.setPixel index colour)
  sendFrame := note .sendFrame PixelStrip.sendFrame

end Noted

/-- A memory with the list of the readings of its free external part. -/
structure Metered (μ : Type) where
  memory : μ
  /-- The readings so far, the first one first. -/
  readings : List (Outcome Empty Nat)

instance {μ : Type} [MemoryStats μ] : MemoryStats (Metered μ) where
  freeExternal now w :=
    let inner := MemoryStats.freeExternal now w.memory
    ⟨inner.outcome, ⟨inner.state, w.readings ++ [inner.outcome]⟩, inner.trace⟩
  minFreeHeap := MemoryStats.minFreeHeap.on Metered.memory fun memory w => { w with memory }

namespace RgbCycle

variable {τ μ κ : Type}

/-! ## Observed cycles -/

/-- The driver with observers at its peripherals, from now on. -/
def observed (d : RgbCycle τ μ κ) : RgbCycle (Noted τ) (Metered μ) (Transcribed κ) :=
  { d with strip := ⟨d.strip, []⟩, memory := ⟨d.memory, []⟩, console := ⟨d.console, []⟩ }

/-- The driver without its observers. -/
def plain (w : RgbCycle (Noted τ) (Metered μ) (Transcribed κ)) : RgbCycle τ μ κ :=
  { w with strip := w.strip.strip, memory := w.memory.memory, console := w.console.console }

section Plain

variable [PixelStrip τ] (now : Nat) (w : RgbCycle (Noted τ) (Metered μ) (Transcribed κ))

/-- Observers make no difference to a step. -/
theorem plain_step [MemoryStats μ] [Console κ] :
    (step now w).mapState plain = step now w.plain := by
  have hget {σ ε α : Type} (k : σ → Act σ ε α) (s : σ) : (Act.get >>= k) now s = k s now s := rfl
  rw [step_eq, step_eq, hget, hget]
  refine Act.mapState_bind (fun _ => rfl) (fun _ => ?_) w
  refine Act.mapState_bind (fun _ => rfl) fun _ => ?_
  refine Act.mapState_bind (fun _ => rfl) fun _ => ?_
  refine Act.mapState_bind (fun w => ?_) fun free => ?_
  · rw [readMemory, readMemory, Act.sure_apply, Act.sure_apply]
    rfl
  · refine Act.mapState_bind (fun w => ?_) fun _ => ?_
    · have hprint : (w.printing now free).mapState Transcribed.console = w.plain.printing now free :=
        Transcribed.mapState_print ..
      have huse : useConsole (Console.print (memoryLine free)) now w.plain =
          ⟨(w.plain.printing now free).outcome,
            { w.plain with console := (w.plain.printing now free).state },
            (w.plain.printing now free).trace⟩ := rfl
      rw [huse, ← hprint]
      rfl
    · exact Act.mapState_bind (fun _ => rfl) fun _ _ => rfl

end Plain

theorem calls_sent [PixelStrip τ] {now : Nat} {d : RgbCycle τ μ κ}
    (hset : (d.setting now).outcome = .done ()) (hsent : (d.sending now).outcome = .done ()) :
    (d.observed.sent now : RgbCycle (Noted τ) (Metered μ) (Transcribed κ)).strip.calls =
      [(.setPixel 0 d.colour.rgb, true), (.sendFrame, true)] := by
  have hcalls : (d.observed.sent now : RgbCycle (Noted τ) (Metered μ) (Transcribed κ)).strip.calls =
      [(.setPixel 0 d.colour.rgb, (d.setting now).outcome.isDone),
        (.sendFrame, (d.sending now).outcome.isDone)] := rfl
  rw [hcalls, hset, hsent]
  rfl

variable [PixelStrip τ] [MemoryStats μ] [Console κ]

section Calls

variable (o : Occasion (RgbCycle τ μ κ))

/-- The observed driver behind a call. -/
def watched : RgbCycle (Noted τ) (Metered μ) (Transcribed κ) :=
  let watching : Occasion (RgbCycle (Noted τ) (Metered μ) (Transcribed κ)) :=
    ⟨o.driver.observed, o.use⟩
  watching.effect.state

/-- The calls to the strip that a call makes, each with whether it ended well. -/
def stripCalls : List (StripOp × Bool) := (watched o).strip.calls

/-- The readings of the free external memory that a call takes. -/
def readings : List (Outcome Empty Nat) := (watched o).memory.readings

/-- The texts that get through to the console in a call. -/
def texts : List String := (watched o).console.texts

/-- Whether a frame is sent, or tried to. -/
def shows : Bool := (stripCalls o).any fun call => call.1 = .sendFrame

end Calls

/-! ## The observations of a setup -/

section SetUp

variable (now : Nat) (d : RgbCycle τ μ κ)

/-- A setup touches no pixel. -/
theorem stripCalls_setUp {call : StripOp × Bool}
    (hcall : call ∈ stripCalls (⟨d, .setUp now⟩ : Occasion (RgbCycle τ μ κ))) :
    call.1 = .setBrightness rgbBrightness := by
  have hwatched : watched ⟨d, .setUp now⟩ = (setUp now d.observed).state := rfl
  by_cases hempty : PixelStrip.length d.observed.strip = 0
  · rw [stripCalls, hwatched, setUp_of_empty hempty] at hcall
    cases hcall
  · rw [stripCalls, hwatched, setUp_of_pixel hempty] at hcall
    rw [List.mem_singleton.mp hcall]

theorem unread_setUp :
    readings (⟨d, .setUp now⟩ : Occasion (RgbCycle τ μ κ)) = [] ∧
      texts (⟨d, .setUp now⟩ : Occasion (RgbCycle τ μ κ)) = [] := by
  have hwatched : watched ⟨d, .setUp now⟩ = (setUp now d.observed).state := rfl
  rw [readings, texts, hwatched]
  by_cases hempty : PixelStrip.length d.observed.strip = 0
  · rw [setUp_of_empty hempty]
    exact ⟨rfl, rfl⟩
  · rw [setUp_of_pixel hempty]
    exact ⟨rfl, rfl⟩

end SetUp

/-! ## The observations of a step -/

/-- What is noted behind a step, by how far it gets. -/
inductive StepSeen (now : Nat) (d : RgbCycle τ μ κ) : Prop where
  /-- The pixel is not set. -/
  | unset (calls : stripCalls ⟨d, .step now⟩ = [(.setPixel 0 d.colour.rgb, false)])
    (unread : readings ⟨d, .step now⟩ = []) (unprinted : texts ⟨d, .step now⟩ = [])
    (fails : (step now d).outcome.isDone = false)
  /-- The pixel is set and the frame is not sent. -/
  | unsent
    (calls : stripCalls ⟨d, .step now⟩ = [(.setPixel 0 d.colour.rgb, true), (.sendFrame, false)])
    (unread : readings ⟨d, .step now⟩ = []) (unprinted : texts ⟨d, .step now⟩ = [])
    (fails : (step now d).outcome.isDone = false)
  /-- The frame is sent, then a reading taken; the step ends well when the line about that gets
  through. -/
  | sent
    (calls : stripCalls ⟨d, .step now⟩ = [(.setPixel 0 d.colour.rgb, true), (.sendFrame, true)])
    (read : readings ⟨d, .step now⟩ = [(d.reading now).outcome])
    (order : ∃ rest, (step now d).trace = (d.setting now).trace ++ ((d.sending now).trace ++
      (shownRecord d.colour :: ((d.reading now).trace ++ rest))))
    (printed : ∀ free, (d.reading now).outcome = .done free →
      texts ⟨d, .step now⟩ <+: memoryLine free ∧
      ((step now d).outcome.isDone ↔ texts ⟨d, .step now⟩ = memoryLine free))

section Step

variable {now : Nat} {d : RgbCycle τ μ κ}

theorem watched_step (now : Nat) (d : RgbCycle τ μ κ) :
    watched ⟨d, .step now⟩ = (step now d.observed).state := rfl

/-- Where the pixel is not set, the step ends there. -/
theorem stepSeen_of_unset (hset : (d.setting now).outcome ≠ .done ()) : StepSeen now d := by
  have hset' : (d.observed.setting now).outcome ≠ .done () := hset
  have hwatched := watched_step now d
  rw [step_of_unset hset'] at hwatched
  refine .unset ?_ ?_ ?_ ?_
  · rw [stripCalls, hwatched, ← Outcome.isDone_of_ne hset]
    rfl
  · rw [readings, hwatched]
    rfl
  · rw [texts, hwatched]
    rfl
  · rw [step_of_unset hset, Outcome.isDone_map, Outcome.isDone_of_ne hset]

section Set

variable (hset : (d.setting now).outcome = .done ())
include hset

theorem stepSeen_of_unsent (hsent : (d.sending now).outcome ≠ .done ()) : StepSeen now d := by
  have hset' : (d.observed.setting now).outcome = .done () := hset
  have hsent' : (d.observed.sending now).outcome ≠ .done () := hsent
  have hwatched := watched_step now d
  rw [step_of_unsent hset' hsent'] at hwatched
  refine .unsent ?_ ?_ ?_ ?_
  · rw [stripCalls, hwatched, ← Outcome.isDone_iff.mpr hset, ← Outcome.isDone_of_ne hsent]
    rfl
  · rw [readings, hwatched]
    rfl
  · rw [texts, hwatched]
    rfl
  · rw [step_of_unsent hset hsent, Outcome.isDone_map, Outcome.isDone_of_ne hsent]

section Sent

variable (hsent : (d.sending now).outcome = .done ())
include hsent

theorem stepSeen_of_unread (hread : ∀ free, (d.reading now).outcome ≠ .done free) :
    StepSeen now d := by
  have hset' : (d.observed.setting now).outcome = .done () := hset
  have hsent' : (d.observed.sending now).outcome = .done () := hsent
  have hread' : ∀ free, (d.observed.reading now).outcome ≠ .done free := hread
  have hwatched := watched_step now d
  rw [step_of_unread hset' hsent' hread'] at hwatched
  refine .sent ?_ ?_ ⟨[], ?_⟩ fun free h => absurd h (hread free)
  · rw [stripCalls, hwatched]
    exact calls_sent hset hsent
  · rw [readings, hwatched]
    rfl
  · rw [step_of_unread hset hsent hread, List.append_nil]

/-- With a reading the line about it is printed. The console takes a beginning of the line, and the
step is told by whether that is all of it. -/
theorem stepSeen_of_read {free : Nat} (hread : (d.reading now).outcome = .done free) :
    StepSeen now d := by
  have hset' : (d.observed.setting now).outcome = .done () := hset
  have hsent' : (d.observed.sending now).outcome = .done () := hsent
  have hread' : (d.observed.reading now).outcome = .done free := hread
  have hwatched := watched_step now d
  rw [step_of_read hset' hsent' hread'] at hwatched
  obtain ⟨taken, hfirst, htexts, hiff⟩ :=
    Transcribed.texts_print_prefix now (memoryLine free) ⟨d.console, []⟩
  have hprinted : texts ⟨d, .step now⟩ = taken := by
    rw [texts, hwatched]
    exact htexts
  have houtcome : (step now d.observed).outcome = (step now d).outcome :=
    congrArg Effect.outcome (plain_step now d.observed)
  refine .sent ?_ ?_ ⟨(d.printing now free).trace, ?_⟩ fun free' hread'' => ?_
  · rw [stripCalls, hwatched]
    exact calls_sent hset hsent
  · rw [readings, hwatched]
    rfl
  · rw [step_of_read hset hsent hread]
  · obtain rfl : free = free' := Outcome.done.inj (hread.symm.trans hread'')
    rw [hprinted, ← houtcome, step_of_read hset' hsent' hread', Outcome.isDone_map,
      Outcome.isDone_iff]
    exact ⟨hfirst, hiff⟩

end Sent

end Set

theorem stepSeen (now : Nat) (d : RgbCycle τ μ κ) : StepSeen now d := by
  by_cases hset : (d.setting now).outcome = .done ()
  · by_cases hsent : (d.sending now).outcome = .done ()
    · by_cases hread : ∃ free, (d.reading now).outcome = .done free
      · obtain ⟨free, hread⟩ := hread
        exact stepSeen_of_read hset hsent hread
      · exact stepSeen_of_unread hset hsent fun free h => hread ⟨free, h⟩
    · exact stepSeen_of_unsent hset hsent
  · exact stepSeen_of_unset hset

end Step

end RgbCycle

end Metronome
