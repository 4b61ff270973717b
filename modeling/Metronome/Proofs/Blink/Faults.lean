import Metronome.Pin.Scripted
import Metronome.Proofs.Blink.SquareWave
import Metronome.Proofs.Occasions

/-!
# Blinking on a pin with faults

On a pin whose reads report its latch, both styles make the same calls to the pin and fail in the
same of their own calls, whatever faults are planned. What the one keeps in its phase the other
finds in the latch: before the level of a step is driven, the latch holds the opposite one
(`Blink.Awaits`). A call that fails leaves that as it is, so the levels of the steps that end well
alternate, from high on.
-/

namespace Metronome

/-- The calls to a pin, each with whether it failed. -/
def Trace.pinCalls (l : Trace) : List (PinCall × Bool) :=
  l.filterMap fun
    | .pin call failed => some (call, failed)
    | _ => none

/-! ## The pin -/

namespace ScriptedPin

/-- Reads do not fail, and they report the latch. -/
structure Steady (pin : ScriptedPin) : Prop where
  stuck : pin.stuck = none
  reads : ∀ n, pin.failReads n = false

/-- The pin after the next write. -/
def written (level : Level) (pin : ScriptedPin) : ScriptedPin :=
  { pin with
    writes := pin.writes + 1
    latch := if pin.failWrites pin.writes then pin.latch else level }

/-- The pin after the next change of direction. -/
def turned (direction : Direction) (pin : ScriptedPin) : ScriptedPin :=
  { pin with
    turns := pin.turns + 1
    direction := if pin.failDirection pin.turns then pin.direction else direction }

/-- The pin after the next read. -/
def looked (pin : ScriptedPin) : ScriptedPin := { pin with reads := pin.reads + 1 }

variable {pin : ScriptedPin}

theorem Steady.written (h : pin.Steady) (level : Level) : (pin.written level).Steady :=
  ⟨h.stuck, h.reads⟩

theorem Steady.turned (h : pin.Steady) (direction : Direction) : (pin.turned direction).Steady :=
  ⟨h.stuck, h.reads⟩

theorem Steady.looked (h : pin.Steady) : pin.looked.Steady := ⟨h.stuck, h.reads⟩

variable (now : Nat)

theorem write_of_taken (level : Level) (h : pin.failWrites pin.writes = false) :
    LedPin.write level now pin =
      ⟨.done (), pin.written level, [.pin (.write level) false]⟩ := by
  simp [LedPin.write, write, written, h, Act.bind_apply, Act.get, Act.emit, Act.modify]

theorem write_of_refused (level : Level) (h : pin.failWrites pin.writes = true) :
    LedPin.write level now pin =
      ⟨.failed fault, pin.written level, [.pin (.write level) true]⟩ := by
  simp [LedPin.write, write, written, h, Act.bind_apply, Act.get, Act.emit, Act.modify, Act.fail]

theorem setDirection_of_taken (direction : Direction)
    (h : pin.failDirection pin.turns = false) :
    LedPin.setDirection direction now pin =
      ⟨.done (), pin.turned direction, [.pin (.direct direction) false]⟩ := by
  simp [LedPin.setDirection, setDirection, turned, h, Act.bind_apply, Act.get, Act.emit, Act.modify]

theorem setDirection_of_refused (direction : Direction)
    (h : pin.failDirection pin.turns = true) :
    LedPin.setDirection direction now pin =
      ⟨.failed fault, pin.turned direction, [.pin (.direct direction) true]⟩ := by
  simp [LedPin.setDirection, setDirection, turned, h, Act.bind_apply, Act.get, Act.emit, Act.modify,
    Act.fail]

theorem isSetLow_steady (hsteady : pin.Steady) :
    LedPin.isSetLow now pin = ⟨.done (!pin.latch.isHigh), pin.looked, []⟩ := by
  have hread : read now pin = ⟨.done pin.latch, pin.looked, []⟩ := by
    simp [read, looked, hsteady.stuck, hsteady.reads, Act.bind_apply, Act.get, Act.modify]
  show (do return !(← read).isHigh : Act ScriptedPin Fault Bool) now pin = _
  rw [Act.bind_of_done hread]
  rfl

/-- On a steady pin a toggle is a read and then a write of the level that the latch does not hold.
-/
theorem toggle_steady (hsteady : pin.Steady) :
    LedPin.toggle now pin = LedPin.write pin.latch.toggled now pin.looked := by
  have hlow := isSetLow_steady now hsteady
  unfold LedPin.toggle
  rw [Act.bind_of_done hlow]
  cases hlatch : pin.latch <;> rfl

end ScriptedPin

/-! ## The calls of a driver -/

namespace Blink

variable {d : Blink ScriptedPin} {level : Level} (now : Nat)

/-- The driver before it drives a level. The latch holds the opposite one, and so does the inverse
of the phase where the driver keeps one. -/
structure Awaits (level : Level) (d : Blink ScriptedPin) : Prop where
  steady : d.pin.Steady
  latch : d.pin.latch = level.toggled
  phase : d.style = .onOff → d.phase = level

/-- The driver after it has tried to drive a level. -/
def driven (level : Level) (d : Blink ScriptedPin) : Blink ScriptedPin :=
  match d.style with
  | .onOff =>
    { d with
      pin := d.pin.written level
      phase := if d.pin.failWrites d.pin.writes then d.phase else level.toggled }
  | .toggle => { d with pin := d.pin.looked.written level }

/-- The record of a use of the pin that failed. -/
def faultRecord (what : String) (e : Fault) : Event :=
  .log { severity := .error, source := .blink, text := s!"LED pin {what} failed: {e.name}" }

section UsePin

variable {now} (what operation : String) {x : Act ScriptedPin Fault Unit} {pin : ScriptedPin}
  {l : Trace}

theorem usePin_of_done (h : x now d.pin = ⟨.done (), pin, l⟩) :
    usePin what operation x now d = ⟨.done (), { d with pin }, l⟩ := by
  unfold usePin Act.orElse Act.on
  rw [h]

/-- A failure of the pin is logged and passed on as one of the LED pin. -/
theorem usePin_of_failed {e : Fault} (h : x now d.pin = ⟨.failed e, pin, l⟩) :
    usePin what operation x now d =
      ⟨.failed (.peripheral "LED pin" operation), { d with pin }, l ++ [faultRecord what e]⟩ := by
  unfold usePin Act.orElse Act.on
  rw [h]
  rfl

end UsePin

/-- A step drives the awaited level, in either style. A toggle reads the latch back, which counts as
a read. -/
theorem step_awaiting (h : d.Awaits level) :
    let failed := d.pin.failWrites d.pin.writes
    (Driver.step now d).outcome.isDone = !failed ∧ (Driver.step now d).state = d.driven level ∧
      (Driver.step now d).trace.pinCalls = [(.write level, failed)] := by
  intro failed
  show (step now d).outcome.isDone = !failed ∧ (step now d).state = d.driven level ∧
    (step now d).trace.pinCalls = [(.write level, failed)]
  unfold step driven
  cases hstyle : d.style with
  | onOff =>
    have hphase := h.phase hstyle
    cases hfailed : d.pin.failWrites d.pin.writes with
    | true =>
      have hdrive := usePin_of_failed s!"write {level.name}" "drive level"
        (ScriptedPin.write_of_refused now level hfailed)
      simp [stepOnOff, drive, Act.bind_apply, Act.get, hstyle, hphase, hdrive, hfailed, failed,
        Outcome.isDone, Trace.pinCalls, faultRecord]
    | false =>
      have hdrive := usePin_of_done s!"write {level.name}" "drive level"
        (ScriptedPin.write_of_taken now level hfailed)
      simp [stepOnOff, drive, Act.bind_apply, Act.get, Act.modify, Act.log, Act.emit, hstyle,
        hphase, hdrive, hfailed, failed, Outcome.isDone, Trace.pinCalls]
  | toggle =>
    have htoggle : LedPin.toggle now d.pin = LedPin.write level now d.pin.looked := by
      rw [ScriptedPin.toggle_steady now h.steady, h.latch, Level.toggled_toggled]
    cases hfailed : d.pin.failWrites d.pin.writes with
    | true =>
      have hlooked : d.pin.looked.failWrites d.pin.looked.writes = true := hfailed
      rw [ScriptedPin.write_of_refused now level hlooked] at htoggle
      simp [Act.bind_apply, Act.get, hstyle, usePin_of_failed _ _ htoggle, hfailed, failed,
        Outcome.isDone, Trace.pinCalls, faultRecord]
    | false =>
      have hlooked : d.pin.looked.failWrites d.pin.looked.writes = false := hfailed
      rw [ScriptedPin.write_of_taken now level hlooked] at htoggle
      simp [Act.bind_apply, Act.get, hstyle, usePin_of_done _ _ htoggle, hfailed, failed,
        Outcome.isDone, Trace.pinCalls]

/-- After a step the driver awaits the same level again if the write failed, else the other one. -/
theorem Awaits.driven (h : d.Awaits level) :
    (d.driven level).Awaits (if d.pin.failWrites d.pin.writes then level else level.toggled) := by
  have hlatch := h.latch
  unfold Blink.driven
  cases hstyle : d.style with
  | onOff =>
    have hphase := h.phase hstyle
    refine ⟨h.steady.written level, ?_, fun _ => ?_⟩
    · cases hfailed : d.pin.failWrites d.pin.writes <;> simp [ScriptedPin.written, hfailed, hlatch]
    · cases hfailed : d.pin.failWrites d.pin.writes <;> simp [hphase]
  | toggle =>
    refine ⟨h.steady.looked.written level, ?_, nofun⟩
    cases hfailed : d.pin.failWrites d.pin.writes <;>
      simp [ScriptedPin.written, ScriptedPin.looked, hfailed, hlatch]

/-- What a setup leaves of a driver. -/
def prepared (d : Blink ScriptedPin) : Blink ScriptedPin :=
  let pin := d.pin.turned .output
  if d.pin.failDirection d.pin.turns then { d with pin }
  else if d.pin.failWrites d.pin.writes then { d with pin := pin.written .low }
  else { d with pin := pin.written .low, phase := .high }

/-- The calls that a setup makes to the pin. -/
def setUpCalls (pin : ScriptedPin) : List (PinCall × Bool) :=
  if pin.failDirection pin.turns then [(.direct .output, true)]
  else [(.direct .output, false), (.write .low, pin.failWrites pin.writes)]

/-- A setup does the same in both styles. -/
theorem setUp_apply (d : Blink ScriptedPin) :
    (Driver.setUp now d).outcome.isDone =
        (!d.pin.failDirection d.pin.turns && !d.pin.failWrites d.pin.writes) ∧
      (Driver.setUp now d).state = d.prepared ∧
      (Driver.setUp now d).trace.pinCalls = setUpCalls d.pin := by
  show (setUp now d).outcome.isDone =
      (!d.pin.failDirection d.pin.turns && !d.pin.failWrites d.pin.writes) ∧
    (setUp now d).state = d.prepared ∧ (setUp now d).trace.pinCalls = setUpCalls d.pin
  unfold setUp prepared setUpCalls
  cases hturn : d.pin.failDirection d.pin.turns with
  | true =>
    have hdirect := usePin_of_failed "direction change" "switch to output"
      (ScriptedPin.setDirection_of_refused now .output hturn)
    simp [Act.bind_apply, hdirect, Outcome.isDone, Trace.pinCalls, faultRecord]
  | false =>
    have hdirect := usePin_of_done "direction change" "switch to output"
      (ScriptedPin.setDirection_of_taken now .output hturn)
    cases hfailed : d.pin.failWrites d.pin.writes with
    | true =>
      have hwrite : LedPin.write .low now (d.pin.turned .output) = _ :=
        ScriptedPin.write_of_refused now .low hfailed
      have hdrive := usePin_of_failed (d := { d with pin := d.pin.turned .output })
        s!"write {Level.low.name}" "drive level" hwrite
      simp [Act.bind_apply, drive, hdirect, hdrive, Outcome.isDone, Trace.pinCalls, faultRecord]
    | false =>
      have hwrite : LedPin.write .low now (d.pin.turned .output) = _ :=
        ScriptedPin.write_of_taken now .low hfailed
      have hdrive := usePin_of_done (d := { d with pin := d.pin.turned .output })
        s!"write {Level.low.name}" "drive level" hwrite
      simp [Act.bind_apply, Act.modify, drive, hdirect, hdrive, Outcome.isDone, Trace.pinCalls]

/-- A setup that fails, in either of its two calls, leaves the latch and what is awaited. -/
theorem Awaits.prepared (h : d.Awaits level) :
    d.prepared.Awaits
      (if (Driver.setUp now d).outcome.isDone then .high else level) := by
  have hlatch := h.latch
  rw [(setUp_apply now d).1]
  unfold Blink.prepared
  cases hturn : d.pin.failDirection d.pin.turns with
  | true => exact ⟨h.steady.turned .output, hlatch, h.phase⟩
  | false =>
    have hsteady := (h.steady.turned .output).written .low
    have hwrites : (d.pin.turned .output).failWrites (d.pin.turned .output).writes =
      d.pin.failWrites d.pin.writes := rfl
    cases hfailed : d.pin.failWrites d.pin.writes with
    | true =>
      refine ⟨hsteady, ?_, h.phase⟩
      simp only [ScriptedPin.written, hwrites, hfailed, if_true]
      exact hlatch
    | false =>
      refine ⟨hsteady, ?_, fun _ => rfl⟩
      simp [ScriptedPin.written, hwrites, hfailed, Level.toggled]

/-! ## Two styles on one pin -/

/-- What can be seen of a call from the pin and from its caller. -/
structure Sight where
  /-- The calls to the pin. -/
  calls : List (PinCall × Bool)
  latch : Level
  direction : Direction
  /-- Whether the call ended well. -/
  fine : Bool
deriving DecidableEq

/-- What can be seen of a call. -/
def sight (o : Occasion (Blink ScriptedPin)) : Sight :=
  ⟨o.effect.trace.pinCalls, o.effect.state.pin.latch, o.effect.state.pin.direction,
    o.effect.outcome.isDone⟩

/-- Two drivers, one of each style, that await the same level on pins that differ in no more than
how often they were read. -/
structure InStep (a b : Blink ScriptedPin) : Prop where
  onOff : a.style = .onOff
  toggle : b.style = .toggle
  awaits : ∃ level, a.Awaits level ∧ b.Awaits level
  pin : ∃ reads, b.pin = { a.pin with reads }

theorem style_prepared (d : Blink ScriptedPin) : d.prepared.style = d.style := by
  unfold prepared
  split
  · rfl
  · split <;> rfl

theorem style_driven (d : Blink ScriptedPin) (level : Level) :
    (d.driven level).style = d.style := by
  unfold driven
  split <;> rfl

section Reads

variable {a b : Blink ScriptedPin} {n : Nat}

/-- A setup looks at the pin only, and not at how often it was read. -/
theorem pin_prepared (hpin : b.pin = { a.pin with reads := n }) :
    b.prepared.pin = { a.prepared.pin with reads := n } := by
  unfold prepared
  rw [hpin]
  simp only []
  split
  · rfl
  · split <;> rfl

theorem isDone_setUp_eq (hpin : b.pin = { a.pin with reads := n }) :
    (Driver.setUp now b).outcome.isDone = (Driver.setUp now a).outcome.isDone := by
  rw [(setUp_apply now a).1, (setUp_apply now b).1, hpin]

theorem sight_setUp_eq (hpin : b.pin = { a.pin with reads := n }) :
    sight ⟨a, .setUp now⟩ = sight ⟨b, .setUp now⟩ := by
  obtain ⟨-, hstate, hcalls⟩ := setUp_apply now a
  obtain ⟨-, hstate', hcalls'⟩ := setUp_apply now b
  simp only [sight, Occasion.effect, Outcome.isDone_map, hstate, hstate', hcalls, hcalls',
    isDone_setUp_eq now hpin, pin_prepared hpin]
  rw [hpin]
  rfl

end Reads

namespace InStep

variable {a b : Blink ScriptedPin}

theorem setUp (h : InStep a b) (now : Nat) :
    sight ⟨a, .setUp now⟩ = sight ⟨b, .setUp now⟩ ∧
      InStep (Driver.setUp now a).state (Driver.setUp now b).state := by
  obtain ⟨reads, hpin⟩ := h.pin
  obtain ⟨level, ha, hb⟩ := h.awaits
  have ha' := ha.prepared now
  have hb' := hb.prepared now
  rw [isDone_setUp_eq now hpin] at hb'
  refine ⟨sight_setUp_eq now hpin, ?_⟩
  rw [(setUp_apply now a).2.1, (setUp_apply now b).2.1]
  exact ⟨(style_prepared a).trans h.onOff, (style_prepared b).trans h.toggle, ⟨_, ha', hb'⟩,
    ⟨reads, pin_prepared hpin⟩⟩

/-- A step looks the same for both styles and keeps them in step. -/
theorem step (h : InStep a b) (now : Nat) :
    sight ⟨a, .step now⟩ = sight ⟨b, .step now⟩ ∧
      InStep (Driver.step now a).state (Driver.step now b).state := by
  obtain ⟨reads, hpin⟩ := h.pin
  obtain ⟨level, ha, hb⟩ := h.awaits
  have ha' := ha.driven
  have hb' := hb.driven
  obtain ⟨houtcome, hstate, hcalls⟩ := step_awaiting now ha
  obtain ⟨houtcome', hstate', hcalls'⟩ := step_awaiting now hb
  have hfails : b.pin.failWrites b.pin.writes = a.pin.failWrites a.pin.writes := by rw [hpin]
  have hpins : (b.driven level).pin = { (a.driven level).pin with reads := reads + 1 } := by
    simp only [Blink.driven, h.onOff, h.toggle, hpin]
    rfl
  constructor
  · simp only [sight, Occasion.effect, Outcome.isDone_map, hstate, hstate', hcalls, hcalls',
      houtcome, houtcome', hfails, hpins]
  · rw [hstate, hstate']
    rw [hfails] at hb'
    exact ⟨(style_driven a level).trans h.onOff, (style_driven b level).trans h.toggle,
      ⟨_, ha', hb'⟩, ⟨reads + 1, hpins⟩⟩

end InStep

/-! ## Levels -/

/-- What a driver awaits is told by its progress. -/
theorem tracks_awaits : Tracks fun n (d : Blink ScriptedPin) => d.Awaits (waveLevel n) where
  setUp {n d} h now := by
    have hnext := h.prepared now
    rw [← (setUp_apply now d).2.1] at hnext
    cases hdone : (Driver.setUp now d).outcome.isDone with
    | true =>
      rw [hdone] at hnext
      exact hnext
    | false =>
      rw [hdone] at hnext
      exact hnext
  step {n d} h now := by
    have hnext := h.driven
    obtain ⟨houtcome, hstate, -⟩ := step_awaiting now h
    rw [houtcome, hstate]
    cases hfailed : d.pin.failWrites d.pin.writes with
    | true => simpa [hfailed] using hnext
    | false => simpa [hfailed, toggled_waveLevel] using hnext

/-- A setup that ends well makes any driver on a steady pin await high. -/
theorem awaits_of_setUp {d : Blink ScriptedPin} {now : Nat} (hsteady : d.pin.Steady)
    (h : (Driver.setUp now d).outcome = .done ()) :
    (Driver.setUp now d).state.Awaits .high ∧
      (Driver.setUp now d).state.pin = (d.pin.turned .output).written .low ∧
      (Driver.setUp now d).state.style = d.style := by
  obtain ⟨houtcome, hstate, -⟩ := setUp_apply now d
  rw [h] at houtcome
  have hturn : d.pin.failDirection d.pin.turns = false := by
    cases hturn : d.pin.failDirection d.pin.turns with
    | true => simp [hturn, Outcome.isDone] at houtcome
    | false => rfl
  have hfailed : d.pin.failWrites d.pin.writes = false := by
    cases hfailed : d.pin.failWrites d.pin.writes with
    | true => simp [hfailed, Outcome.isDone] at houtcome
    | false => rfl
  have hprepared : d.prepared =
      { d with pin := (d.pin.turned .output).written .low, phase := .high } := by
    simp [prepared, hturn, hfailed]
  rw [hstate, hprepared]
  refine ⟨⟨(hsteady.turned .output).written .low, ?_, fun _ => rfl⟩, rfl, rfl⟩
  have hwrites : (d.pin.turned .output).failWrites (d.pin.turned .output).writes = false := hfailed
  simp [ScriptedPin.written, hwrites, Level.toggled]

/-- A driver in the one style and a driver in the other, on the same pin whose reads report its
latch and never fail, while writes and changes of direction may fail in any plan. After a setup
that ends well for the one it has ended well for the other, and then, in any setups and steps, both
make the same calls to the pin, leave the same latch and direction and fail in the same of their own
calls. In both, each step that ends well since the last setup that did has made one call to the pin,
a write that succeeded, of high in the first of these steps and then of each level in turn. -/
theorem styles_agree_under_faults (pin : ScriptedPin) (hstuck : pin.stuck = none)
    (hreads : ∀ n, pin.failReads n = false) (c c' : Cadence) (phase phase' : Level) (start : Nat) :
    let onOff : Blink ScriptedPin := { pin, style := .onOff, cadence := c, phase }
    let toggle : Blink ScriptedPin := { pin, style := .toggle, cadence := c', phase := phase' }
    let ready (d : Blink ScriptedPin) := (Driver.setUp start d).state
    (Driver.setUp start onOff).outcome = .done () →
    (Driver.setUp start toggle).outcome = .done () ∧
    sight ⟨onOff, .setUp start⟩ = sight ⟨toggle, .setUp start⟩ ∧
    ∀ uses,
      (occasions uses (ready onOff)).map sight = (occasions uses (ready toggle)).map sight ∧
      ∀ d ∈ [onOff, toggle],
        (stepsSinceSetUp uses (ready d)).map (fun o => o.effect.trace.pinCalls) =
          (List.range (progress uses (ready d))).map fun i =>
            [(.write (if i % 2 = 0 then .high else .low), false)] := by
  intro onOff toggle ready hdone
  have hsteady : pin.Steady := ⟨hstuck, hreads⟩
  have hdone' : (Driver.setUp start toggle).outcome = .done () := by
    have hsame : (Driver.setUp start toggle).outcome.isDone = true := by
      rw [isDone_setUp_eq start (a := onOff) (n := pin.reads) rfl, hdone]
      rfl
    obtain ⟨value, hvalue⟩ := Outcome.eq_done_of_isDone hsame
    exact hvalue
  obtain ⟨hawaits, hpin, hstyle⟩ := awaits_of_setUp (d := onOff) hsteady hdone
  obtain ⟨hawaits', hpin', hstyle'⟩ := awaits_of_setUp (d := toggle) hsteady hdone'
  have hinStep : InStep (ready onOff) (ready toggle) := by
    refine ⟨hstyle, hstyle', ⟨_, hawaits, hawaits'⟩, ⟨pin.reads, ?_⟩⟩
    rw [hpin, hpin']
    rfl
  refine ⟨hdone', sight_setUp_eq start (n := pin.reads) rfl, fun uses => ⟨?_, ?_⟩⟩
  · refine map_occasions (fun use a b h => ?_) hinStep uses
    cases use with
    | setUp now => exact h.setUp now
    | step now => exact h.step now
  · intro d hd
    have hready : (ready d).Awaits .high := by
      rcases List.mem_cons.mp hd with rfl | hd
      · exact hawaits
      · rw [List.mem_singleton.mp hd]
        exact hawaits'
    refine map_stepsSinceSetUp tracks_awaits (fun {n d now} h hfine => ?_) hready uses
    obtain ⟨houtcome, -, hcalls⟩ := step_awaiting now h
    rw [houtcome, Bool.not_eq_true'] at hfine
    rw [hfine] at hcalls
    exact hcalls

/-- A pin that fails its second change of direction and its third and fourth write. -/
def faultyPin : ScriptedPin where
  failDirection := .ofList [1]
  failWrites := .ofList [2, 3]

/-- A driver on that pin. -/
def faultyBlink (style : BlinkStyle) : Blink ScriptedPin := { pin := faultyPin, style }

/-- The step that should drive low fails twice, and a setup between the two fails as well. -/
theorem faulty_styles_agree :
    let uses : List DriverUse := [.step 1, .step 2, .setUp 3, .step 4, .step 5, .step 6]
    let ready (style : BlinkStyle) := (Driver.setUp 0 (faultyBlink style)).state
    faultyPin.stuck = none ∧ (∀ n, faultyPin.failReads n = false) ∧
    (Driver.setUp 0 (faultyBlink .onOff)).outcome = .done () ∧
    (occasions uses (ready .onOff)).map sight = (occasions uses (ready .toggle)).map sight ∧
    (stepsSinceSetUp uses (ready .toggle)).map (fun o => o.effect.trace.pinCalls) =
      [[(.write .high, false)], [(.write .low, false)], [(.write .high, false)]] := by
  have hdone : (Driver.setUp 0 (faultyBlink .onOff)).outcome = .done () := rfl
  have hprogress : progress [.step 1, .step 2, .setUp 3, .step 4, .step 5, .step 6]
      (Driver.setUp 0 (faultyBlink .toggle)).state = 3 := by decide +kernel
  obtain ⟨-, -, hagree⟩ := styles_agree_under_faults faultyPin rfl (fun _ => rfl)
    (faultyBlink .onOff).cadence (faultyBlink .toggle).cadence .high .high 0 hdone
  obtain ⟨hsights, hlevels⟩ := hagree [.step 1, .step 2, .setUp 3, .step 4, .step 5, .step 6]
  have htoggle := hlevels (faultyBlink .toggle) (List.mem_cons_of_mem _ (List.mem_singleton_self _))
  refine ⟨rfl, fun _ => rfl, hdone, hsights, ?_⟩
  rw [show progress _ _ = 3 from hprogress] at htoggle
  exact htoggle

end Blink

end Metronome
