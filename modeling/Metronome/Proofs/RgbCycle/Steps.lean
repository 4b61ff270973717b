import Metronome.Demo.RgbCycle
import Metronome.Proofs.Effects

/-!
# The steps of a colour cycle

A step sets the first pixel, sends the frame, takes a reading of the memory and prints it. Each of
these can be the last thing that it does: the pixel is not set (`step_of_unset`), the frame is not
sent (`step_of_unsent`), there is no reading (`step_of_unread`), or there is one, and then the
console decides how the step ends (`step_of_read`).
-/

namespace Metronome

namespace RgbCycle

variable {τ μ κ : Type}

/-- The record of a frame that was sent. -/
def shownRecord (colour : Colour) : Event :=
  .log { severity := .debug, source := .rgbCycle, text := s!"rgb-cycle: {colour.name}" }

/-- The pieces of the line about a reading. -/
def memoryLine (free : Nat) : List String := ["PSRAM free: ", toString free, " bytes\n"]

/-! ## The parts of a setup and of a step -/

section Parts

variable (now : Nat) (d : RgbCycle τ μ κ)

-- What each operation leaves of its peripheral.

/-- What dimming the strip comes to. -/
def dimming [PixelStrip τ] : Effect τ Empty Unit :=
  PixelStrip.setBrightness rgbBrightness now d.strip

/-- What setting the first pixel comes to. -/
def setting [PixelStrip τ] : Effect τ DriverError Unit :=
  PixelStrip.setPixel 0 d.colour.rgb now d.strip

/-- What sending the frame comes to, behind the pixel. -/
def sending [PixelStrip τ] : Effect τ DriverError Unit :=
  PixelStrip.sendFrame now (d.setting now).state

/-- What reading the free external memory comes to. -/
def reading [MemoryStats μ] : Effect μ Empty Nat := MemoryStats.freeExternal now d.memory

/-- What printing the line about the memory comes to. -/
def printing [Console κ] (free : Nat) : Effect κ DriverError Unit :=
  Console.print (memoryLine free) now d.console

-- The driver behind each of them.

/-- The driver behind the setting of the pixel. -/
def touched [PixelStrip τ] : RgbCycle τ μ κ := { d with strip := (d.setting now).state }

/-- The driver behind the sending of the frame. -/
def sent [PixelStrip τ] : RgbCycle τ μ κ := { d with strip := (d.sending now).state }

/-- The driver behind the reading of the memory. -/
def measured [PixelStrip τ] [MemoryStats μ] : RgbCycle τ μ κ :=
  { d.sent now with memory := (d.reading now).state }

/-- The driver behind its line: the next colour is up when the whole line got through. -/
def reported [PixelStrip τ] [MemoryStats μ] [Console κ] (free : Nat) : RgbCycle τ μ κ :=
  { d.measured now with
    console := (d.printing now free).state
    colour := if (d.printing now free).outcome.isDone then d.colour.next else d.colour }

theorem useStrip_set [PixelStrip τ] :
    useStrip (PixelStrip.setPixel 0 d.colour.rgb) now d =
      ⟨(d.setting now).outcome, d.touched now, (d.setting now).trace⟩ := rfl

theorem useStrip_send [PixelStrip τ] :
    useStrip PixelStrip.sendFrame now (d.touched now) =
      ⟨(d.sending now).outcome, d.sent now, (d.sending now).trace⟩ := rfl

theorem readMemory_sent [PixelStrip τ] [MemoryStats μ] :
    readMemory now (d.sent now) =
      ⟨(d.reading now).outcome.mapError nofun, d.measured now, (d.reading now).trace⟩ := by
  rw [readMemory, Act.sure_apply]
  rfl

theorem useConsole_measured [PixelStrip τ] [MemoryStats μ] [Console κ] (free : Nat) :
    useConsole (Console.print (memoryLine free)) now (d.measured now) =
      ⟨(d.printing now free).outcome,
        { d.measured now with console := (d.printing now free).state },
        (d.printing now free).trace⟩ := rfl

end Parts

/-! ## The ends of a setup -/

section SetUp

variable [PixelStrip τ] {now : Nat} {d : RgbCycle τ μ κ}

theorem setUp_of_empty (h : PixelStrip.length d.strip = 0) :
    setUp now d = ⟨.failed (.peripheral "pixel strip" "find a pixel"), d, []⟩ := by
  rw [setUp, Act.bind_apply]
  simp only [Act.get, h, if_true]
  rfl

/-- Any other setup dims the strip and goes back to red. -/
theorem setUp_of_pixel (h : PixelStrip.length d.strip ≠ 0) :
    setUp now d = ⟨(d.dimming now).outcome.mapError nofun,
      { d with
        strip := (d.dimming now).state
        colour := if (d.dimming now).outcome.isDone then .red else d.colour },
      (d.dimming now).trace⟩ := by
  have hdim : (useStrip (PixelStrip.setBrightness rgbBrightness) :
      Act (RgbCycle τ μ κ) Empty Unit).sure now d =
      (⟨(d.dimming now).outcome.mapError nofun, { d with strip := (d.dimming now).state },
        (d.dimming now).trace⟩ : Effect (RgbCycle τ μ κ) DriverError Unit) := by
    rw [Act.sure_apply]
    rfl
  rw [setUp, Act.bind_apply]
  simp only [Act.get, h, if_false, List.nil_append]
  rw [Act.bind_apply, hdim]
  cases (d.dimming now).outcome with
  | done value => simp [Outcome.mapError, Act.modify, Outcome.isDone]
  | failed e => exact e.elim
  | aborted abort => rfl

theorem colour_setUp (now : Nat) (d : RgbCycle τ μ κ) :
    (setUp now d).state.colour = if (setUp now d).outcome.isDone then .red else d.colour := by
  by_cases hempty : PixelStrip.length d.strip = 0
  · rw [setUp_of_empty hempty]
    rfl
  · rw [setUp_of_pixel hempty, Outcome.isDone_mapError]

end SetUp

variable [PixelStrip τ] [MemoryStats μ] [Console κ]

/-! ## The ends of a step -/

/-- The end of a step, behind the frame. -/
def measureAndPrint (colour : Colour) : Act (RgbCycle τ μ κ) DriverError Step := do
  Act.emit (shownRecord colour)
  let free ← readMemory
  useConsole (Console.print (memoryLine free))
  Act.modify fun cycle => { cycle with colour := colour.next }
  pure .next

theorem step_eq : (step : Act (RgbCycle τ μ κ) DriverError Step) =
    Act.get >>= fun d => useStrip (PixelStrip.setPixel 0 d.colour.rgb) >>= fun () =>
      useStrip PixelStrip.sendFrame >>= fun () => measureAndPrint d.colour := rfl

variable {now : Nat} {d : RgbCycle τ μ κ}

/-- A pixel that cannot be set is all of its step. -/
theorem step_of_unset (h : (d.setting now).outcome ≠ .done ()) :
    step now d = ⟨(d.setting now).outcome.map fun () => .next, d.touched now,
      (d.setting now).trace⟩ := by
  have hset : ∀ value, (useStrip (PixelStrip.setPixel 0 d.colour.rgb) now d).outcome ≠
      .done value := fun () => h
  rw [step_eq, Act.bind_apply]
  simp only [Act.get, List.nil_append]
  rw [Act.bind_of_not_done hset fun _ => Step.next, useStrip_set]

section Set

variable (hset : (d.setting now).outcome = .done ())
include hset

theorem step_of_set :
    step now d =
      let rest := (useStrip PixelStrip.sendFrame >>= fun () => measureAndPrint d.colour) now
        (d.touched now)
      ⟨rest.outcome, rest.state, (d.setting now).trace ++ rest.trace⟩ := by
  rw [step_eq, Act.bind_apply]
  simp only [Act.get, List.nil_append]
  rw [Act.bind_apply, useStrip_set, hset]

theorem step_of_unsent (h : (d.sending now).outcome ≠ .done ()) :
    step now d = ⟨(d.sending now).outcome.map fun () => .next, d.sent now,
      (d.setting now).trace ++ (d.sending now).trace⟩ := by
  have hsend : ∀ value, (useStrip PixelStrip.sendFrame now (d.touched now)).outcome ≠
      .done value := fun () => h
  rw [step_of_set hset, Act.bind_of_not_done hsend fun _ => Step.next, useStrip_send]

section Sent

variable (hsent : (d.sending now).outcome = .done ())
include hsent

theorem step_of_sent :
    step now d = ⟨(measureAndPrint d.colour now (d.sent now)).outcome,
      (measureAndPrint d.colour now (d.sent now)).state,
      (d.setting now).trace ++ ((d.sending now).trace ++
        (measureAndPrint d.colour now (d.sent now)).trace)⟩ := by
  rw [step_of_set hset, Act.bind_apply, useStrip_send, hsent]

/-- A reading cannot fail; when there is none the program has ended. -/
theorem step_of_unread (h : ∀ free, (d.reading now).outcome ≠ .done free) :
    step now d = ⟨((d.reading now).outcome.mapError nofun).map fun _ => .next, d.measured now,
      (d.setting now).trace ++ ((d.sending now).trace ++
        (shownRecord d.colour :: (d.reading now).trace))⟩ := by
  have hread : ∀ free, (readMemory now (d.sent now)).outcome ≠ .done free := by
    intro free
    rw [readMemory_sent]
    cases houtcome : (d.reading now).outcome with
    | done free => exact absurd houtcome (h free)
    | failed e => exact e.elim
    | aborted abort => exact nofun
  rw [step_of_sent hset hsent, measureAndPrint, Act.bind_apply]
  simp only [Act.emit]
  rw [Act.bind_of_not_done hread fun _ => Step.next, readMemory_sent]
  rfl

/-- A step whose frame is sent and whose memory is read ends as the printing of its line does. -/
theorem step_of_read {free : Nat} (h : (d.reading now).outcome = .done free) :
    step now d = ⟨(d.printing now free).outcome.map fun () => .next, d.reported now free,
      (d.setting now).trace ++ ((d.sending now).trace ++
        (shownRecord d.colour :: ((d.reading now).trace ++ (d.printing now free).trace)))⟩ := by
  rw [step_of_sent hset hsent, measureAndPrint, Act.bind_apply]
  simp only [Act.emit]
  rw [Act.bind_apply, readMemory_sent, h]
  simp only [Outcome.mapError]
  rw [Act.bind_apply, useConsole_measured, reported]
  cases (d.printing now free).outcome with
  | done value => simp [Act.bind_apply, Act.modify, Outcome.map, Outcome.isDone]
  | failed e => rfl
  | aborted abort => rfl

end Sent

end Set

/-- To prove something of what a step leaves, look at the four ways in which it can end. -/
@[elab_as_elim]
theorem step_cases {motive : Effect (RgbCycle τ μ κ) DriverError Step → Prop} (now : Nat)
    (d : RgbCycle τ μ κ)
    (unset : (d.setting now).outcome ≠ .done () →
      motive ⟨(d.setting now).outcome.map fun () => .next, d.touched now, (d.setting now).trace⟩)
    (unsent : (d.setting now).outcome = .done () → (d.sending now).outcome ≠ .done () →
      motive ⟨(d.sending now).outcome.map fun () => .next, d.sent now,
        (d.setting now).trace ++ (d.sending now).trace⟩)
    (unread : (d.setting now).outcome = .done () → (d.sending now).outcome = .done () →
      (∀ free, (d.reading now).outcome ≠ .done free) →
      motive ⟨((d.reading now).outcome.mapError nofun).map fun _ => .next, d.measured now,
        (d.setting now).trace ++ ((d.sending now).trace ++
          (shownRecord d.colour :: (d.reading now).trace))⟩)
    (read : ∀ free, (d.setting now).outcome = .done () → (d.sending now).outcome = .done () →
      (d.reading now).outcome = .done free →
      motive ⟨(d.printing now free).outcome.map fun () => .next, d.reported now free,
        (d.setting now).trace ++ ((d.sending now).trace ++
          (shownRecord d.colour :: ((d.reading now).trace ++ (d.printing now free).trace)))⟩) :
    motive (step now d) := by
  by_cases hset : (d.setting now).outcome = .done ()
  · by_cases hsent : (d.sending now).outcome = .done ()
    · by_cases hread : ∃ free, (d.reading now).outcome = .done free
      · obtain ⟨free, hread⟩ := hread
        rw [step_of_read hset hsent hread]
        exact read free hset hsent hread
      · have hunread : ∀ free, (d.reading now).outcome ≠ .done free :=
          fun free h => hread ⟨free, h⟩
        rw [step_of_unread hset hsent hunread]
        exact unread hset hsent hunread
    · rw [step_of_unsent hset hsent]
      exact unsent hset hsent
  · rw [step_of_unset hset]
    exact unset hset

/-- The colour moves on exactly when a step ends well. -/
theorem colour_step (now : Nat) (d : RgbCycle τ μ κ) :
    (step now d).state.colour =
      if (step now d).outcome.isDone then d.colour.next else d.colour := by
  refine step_cases now d (fun hunset => ?_) (fun _ hunsent => ?_) (fun _ _ hunread => ?_)
    fun free _ _ _ => ?_
  · rw [Outcome.isDone_map, Outcome.isDone_of_ne hunset]
    rfl
  · rw [Outcome.isDone_map, Outcome.isDone_of_ne hunsent]
    rfl
  · have hended : ¬ (d.reading now).outcome.isDone := fun hdone => by
      obtain ⟨free, hread⟩ := Outcome.eq_done_of_isDone hdone
      exact hunread free hread
    rw [Outcome.isDone_map, Outcome.isDone_mapError, if_neg hended]
    rfl
  · rw [Outcome.isDone_map]
    rfl

end RgbCycle

end Metronome
