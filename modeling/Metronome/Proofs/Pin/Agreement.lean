import Metronome.Pin.Edges
import Metronome.Pin.Flex
import Metronome.Pin.Logged
import Metronome.Proofs.Pin.Plain

/-!
# Pins that agree

The pin that logs, the pin that records edges while its writes succeed, and the LED on a flexible
pin all act like a plain pin. So a program that is given one of them in place of another gets the
same answers (`pins_agree`). Of the pin under the LED it is only asked that its reads find the latch
that it was driven to last (`FlexPort.ReadsBack`).
-/

namespace Metronome

/-- A logging pin is its direction and its latch. -/
theorem LoggedPin.shows :
    PlainPin.Shows (fun pin : LoggedPin => ⟨pin.direction, pin.latch⟩) fun _ => True where
  write level now pin _ := by
    obtain ⟨label, direction, latch⟩ := pin
    cases direction with
    | input => exact ⟨rfl, rfl, trivial⟩
    | output => exact ⟨rfl, rfl, trivial⟩
  isSetHigh now pin _ := ⟨rfl, rfl, trivial⟩
  isSetLow now pin _ := ⟨rfl, rfl, trivial⟩
  setDirection direction now pin _ := ⟨rfl, rfl, trivial⟩
  direction pin _ := rfl

/-- Whether or not an edge is recorded, the latch takes the level. -/
theorem EdgePin.shows :
    PlainPin.Shows (fun pin : EdgePin => ⟨pin.direction, pin.latch⟩)
      fun pin => pin.failWrites = false where
  write level now pin hsound := by
    have hwrite : (LedPin.write level : Act EdgePin Fault Unit) now pin =
        ⟨.done (), pin.driven now level, []⟩ := by
      show EdgePin.write level now pin = _
      simp [EdgePin.write, Act.bind_apply, Act.get, Act.now, Act.modify, hsound]
    rw [hwrite, EdgePin.driven]
    split <;> exact ⟨rfl, rfl, hsound⟩
  isSetHigh now pin hsound := ⟨rfl, rfl, hsound⟩
  isSetLow now pin hsound := ⟨rfl, rfl, hsound⟩
  setDirection direction now pin hsound := ⟨rfl, rfl, hsound⟩
  direction pin _ := rfl

/-- What is asked of the latch of a pin: driving sets it, no other call touches it, and reads find
it. -/
structure FlexPort.ReadsBack {φ : Type} [FlexPort φ] (latch : φ → Level) : Prop where
  drive : ∀ pin level, latch (after pin (.drive level)) = level
  enableOutput : ∀ pin on, latch (after pin (.enableOutput on)) = latch pin
  enableInput : ∀ pin on, latch (after pin (.enableInput on)) = latch pin
  configureOutput : ∀ pin, latch (after pin .configureOutput) = latch pin
  isSetHigh : ∀ pin, isSetHigh pin = (latch pin).isHigh
  isSetLow : ∀ pin, isSetLow pin = !(latch pin).isHigh

/-- A pin that is nothing but its enables and its latch is as asked. -/
theorem FlexPort.readsBack_latch : ReadsBack FlexPin.latch where
  drive _ _ := rfl
  enableOutput _ _ := rfl
  enableInput _ _ := rfl
  configureOutput _ := rfl
  isSetHigh _ := rfl
  isSetLow _ := rfl

/-- An LED is its direction and the latch of its pin, which a switch of the direction leaves
alone. -/
theorem FlexLed.shows {φ : Type} [FlexPort φ] {latch : φ → Level}
    (h : FlexPort.ReadsBack latch) :
    PlainPin.Shows (fun led : FlexLed φ => ⟨led.direction, latch led.pin⟩) fun _ => True where
  write level now led _ :=
    ⟨rfl, congrArg (PlainPin.mk led.direction) (h.drive led.pin level), trivial⟩
  isSetHigh now led _ := ⟨congrArg Outcome.done (h.isSetHigh led.pin), rfl, trivial⟩
  isSetLow now led _ := ⟨congrArg Outcome.done (h.isSetLow led.pin), rfl, trivial⟩
  setDirection direction now led _ := by
    cases direction with
    | input =>
      refine ⟨rfl, congrArg (PlainPin.mk .input) ?_, trivial⟩
      exact (h.enableInput _ true).trans (h.enableOutput led.pin false)
    | output =>
      refine ⟨rfl, congrArg (PlainPin.mk .output) ?_, trivial⟩
      exact (h.enableOutput _ true).trans
        ((h.enableInput _ false).trans (h.configureOutput led.pin))
  direction led _ := rfl

/-- Reads of the pin find a level. -/
def Remembers {π : Type} [LedPin π] (pin : π) (level : Level) : Prop :=
  ∀ now, (LedPin.isSetHigh now pin).outcome = .done level.isHigh ∧
    (LedPin.isSetLow now pin).outcome = .done !level.isHigh

/-- What the last writes and toggles came to is read back, also where the pin was an input at the
time or changed its direction since. -/
theorem PlainPin.Shows.remembers {π : Type} [LedPin π] {view : π → PlainPin} {sound : π → Prop}
    (h : Shows view sound) (uses : List PinUse) {pin : π} (hpin : sound pin) :
    Remembers (Metronome.afterPinUses uses pin)
      ((uses.map (·.op)).foldl levelAfter (view pin).level) := by
  obtain ⟨hsound, hview⟩ := h.afterPinUses uses hpin
  intro now
  rw [← level_foldl_after, ← hview]
  exact ⟨(h.isSetHigh now _ hsound).outcome, (h.isSetLow now _ hsound).outcome⟩

/-- Three new pins with a low latch under the same operations: all calls succeed, and each gives the
answer of a plain pin, which does not depend on when it is made. At any time each of the pins reads
as high exactly when it does not read as low, by what was last written, in whichever direction. -/
theorem pins_agree {φ : Type} [FlexPort φ] {latch : φ → Level} (h : FlexPort.ReadsBack latch)
    (pin : φ) (hlow : latch pin = .low) (label : String) (uses : List PinUse) :
    let logged : LoggedPin := { label }
    let recording : EdgePin := {}
    let flexible := (FlexLed.create pin).state
    let ops := uses.map (·.op)
    let answers : List (Outcome Fault PinAnswer) := (PlainPin.answers ops {}).map .done
    let level := ops.foldl PlainPin.levelAfter .low
    pinOutcomes uses logged = answers ∧ Remembers (afterPinUses uses logged) level ∧
    pinOutcomes uses recording = answers ∧ Remembers (afterPinUses uses recording) level ∧
    pinOutcomes uses flexible = answers ∧ Remembers (afterPinUses uses flexible) level := by
  intro logged recording flexible ops answers level
  have hlatch : latch flexible.pin = .low :=
    (h.enableInput _ true).trans ((h.enableOutput pin false).trans hlow)
  have hanswers : pinOutcomes uses flexible = _ := (FlexLed.shows h).pinOutcomes_eq uses trivial
  have hlevel : Remembers (afterPinUses uses flexible) _ := (FlexLed.shows h).remembers uses trivial
  rw [hlatch] at hanswers hlevel
  refine ⟨?_, ?_, ?_, ?_, hanswers, hlevel⟩
  · exact LoggedPin.shows.pinOutcomes_eq uses trivial
  · exact LoggedPin.shows.remembers uses trivial
  · exact EdgePin.shows.pinOutcomes_eq uses rfl
  · exact EdgePin.shows.remembers uses rfl

/-- A level written to an input is found when the pin is an output, on all three pins. The LED is on
a pin that comes with both enables on. -/
theorem input_remembers_write :
    let uses : List PinUse :=
      [⟨0, .write .high⟩, ⟨2, .setDirection .output⟩, ⟨7, .isSetHigh⟩, ⟨7, .toggle⟩,
       ⟨9, .isSetHigh⟩]
    let outcomes : List (Outcome Fault PinAnswer) :=
      [.done .done, .done .done, .done (.read true), .done .done, .done (.read false)]
    let flexible := (FlexLed.create (⟨true, true, .low⟩ : FlexPin)).state
    pinOutcomes uses ({ label := "led" } : LoggedPin) = outcomes ∧
    pinOutcomes uses ({} : EdgePin) = outcomes ∧
    pinOutcomes uses flexible = outcomes ∧
    Remembers (afterPinUses uses flexible) .low := by
  intro uses outcomes flexible
  have hplain : (PlainPin.answers (uses.map (·.op)) {}).map .done = outcomes := by decide
  obtain ⟨hlogged, -, hrecording, -, hflexible, hlevel⟩ :=
    pins_agree FlexPort.readsBack_latch ⟨true, true, .low⟩ rfl "led" uses
  rw [hplain] at hlogged hrecording hflexible
  exact ⟨hlogged, hrecording, hflexible, hlevel⟩

end Metronome
