import Metronome.Pin.Flex
import Metronome.Proofs.Effects
import Metronome.Proofs.Pin.Uses

/-!
# The enables of a flexible pin

An LED on a flexible pin knows its direction only from what it was told last, while the pin has an
enable for its output and one for its input. Each operation makes some calls to the pin
(`FlexLed.callsOf`, `FlexLed.run_apply`), and behind these the enables again serve the direction
(`FlexLed.InStep.run`). Between two calls of an operation they may serve no direction, but at no
point are both of them on.

The pin is any that keeps its enables to their own calls (`FlexPort.Switches`). What its reads find
does not matter here: it only decides which level a toggle drives.
-/

namespace Metronome

/-! ## Calls to a pin of the chip -/

/-- The calls to pins of the chip in a trace. -/
def Trace.flexCalls (l : Trace) : List FlexCall :=
  l.filterMap fun
    | .chip (.flex call) => some call
    | _ => none

theorem Trace.flexCalls_map (calls : List FlexCall) :
    Trace.flexCalls (calls.map fun call => .chip (.flex call)) = calls := by
  induction calls with
  | nil => rfl
  | cons call calls ih => exact congrArg (call :: ·) ih

namespace FlexPin

/-- Input and output are on together. -/
def Contends (pin : FlexPin) : Prop := pin.outputEnabled = true ∧ pin.inputEnabled = true

/-- The enables are set for a direction. -/
structure Serves (pin : FlexPin) (direction : Direction) : Prop where
  output : pin.outputEnabled = true ↔ direction = .output
  input : pin.inputEnabled = true ↔ direction = .input

theorem Serves.not_contends {pin : FlexPin} {direction : Direction} (h : pin.Serves direction) :
    ¬ pin.Contends := by
  rintro ⟨hout, hin⟩
  rw [h.output] at hout
  rw [h.input, hout] at hin
  cases hin

end FlexPin

namespace FlexPort

variable {φ : Type} [FlexPort φ]

/-- What some calls make of a pin, one after the other. -/
def afterCalls (pin : φ) (calls : List FlexCall) : φ := calls.foldl after pin

theorem afterCalls_append (pin : φ) (first second : List FlexCall) :
    afterCalls pin (first ++ second) = afterCalls (afterCalls pin first) second :=
  List.foldl_append ..

/-- What is asked of the calls to a pin, where `view` tells its enables and its latch: an enable is
changed by its own call only, the configuration of the output changes nothing, and driving changes
the latch at most. -/
structure Switches (view : φ → FlexPin) : Prop where
  enableOutput : ∀ pin on,
    view (after pin (.enableOutput on)) = { view pin with outputEnabled := on }
  enableInput : ∀ pin on, view (after pin (.enableInput on)) = { view pin with inputEnabled := on }
  configureOutput : ∀ pin, view (after pin .configureOutput) = view pin
  drive : ∀ pin level, ∃ latch, view (after pin (.drive level)) = { view pin with latch }

/-- A pin that is nothing but its enables and its latch is as asked. -/
theorem switches_id : Switches (id : FlexPin → FlexPin) where
  enableOutput _ _ := rfl
  enableInput _ _ := rfl
  configureOutput _ := rfl
  drive _ level := ⟨level, rfl⟩

/-- Between any two of the calls, before the first one and after the last, the two enables are not
on together. -/
def FreeOfContention (view : φ → FlexPin) (pin : φ) (calls : List FlexCall) : Prop :=
  ∀ early, early <+: calls → ¬ (view (afterCalls pin early)).Contends

namespace FreeOfContention

variable {view : φ → FlexPin} {pin : φ}

theorem nil (h : ¬ (view pin).Contends) : FreeOfContention view pin [] := by
  intro early hearly
  rw [List.prefix_nil.mp hearly]
  exact h

theorem cons {call : FlexCall} {calls : List FlexCall} (h : ¬ (view pin).Contends)
    (hrest : FreeOfContention view (after pin call) calls) :
    FreeOfContention view pin (call :: calls) := by
  intro early hearly
  rcases List.prefix_cons_iff.mp hearly with rfl | ⟨later, rfl, hlater⟩
  · exact h
  · exact hrest later hlater

/-- One row of calls after the other is free of contention if each is where it starts. -/
theorem append {first second : List FlexCall} (hfirst : FreeOfContention view pin first)
    (hsecond : FreeOfContention view (afterCalls pin first) second) :
    FreeOfContention view pin (first ++ second) := by
  intro early hearly
  rcases List.prefix_or_prefix_of_prefix hearly (List.prefix_append first second) with hin | hout
  · exact hfirst early hin
  · obtain ⟨later, rfl⟩ := hout
    rw [afterCalls_append]
    exact hsecond later ((List.prefix_append_right_inj first).mp hearly)

end FreeOfContention

namespace Switches

variable {view : φ → FlexPin}

/-- Driving a pin leaves its enables at the direction that they serve. -/
theorem serves_drive (h : Switches view) {pin : φ} {direction : Direction}
    (hserves : (view pin).Serves direction) (level : Level) :
    (view (after pin (.drive level))).Serves direction := by
  obtain ⟨latch, hview⟩ := h.drive pin level
  rw [hview]
  exact ⟨hserves.output, hserves.input⟩

/-- Calls that do not drive the pin leave its latch. -/
theorem latch_afterCalls (h : Switches view) {calls : List FlexCall}
    (hcalls : ∀ level, .drive level ∉ calls) (pin : φ) :
    (view (afterCalls pin calls)).latch = (view pin).latch := by
  induction calls generalizing pin with
  | nil => rfl
  | cons call calls ih =>
    have hrest : ∀ level, .drive level ∉ calls := fun level hdrive =>
      hcalls level (List.mem_cons_of_mem _ hdrive)
    have hcall : (view (after pin call)).latch = (view pin).latch := by
      cases call with
      | drive level => exact absurd List.mem_cons_self (hcalls level)
      | enableOutput on => rw [h.enableOutput]
      | enableInput on => rw [h.enableInput]
      | configureOutput => rw [h.configureOutput]
    exact (ih hrest (after pin call)).trans hcall

end Switches

/-- Calls that each leave a pin of some look with that look do so one after the other. -/
theorem view_afterCalls {view : φ → FlexPin} {look : FlexPin} {calls : List FlexCall}
    (hcalls : ∀ call ∈ calls, ∀ pin : φ, view pin = look → view (after pin call) = look) {pin : φ}
    (hpin : view pin = look) : view (afterCalls pin calls) = look := by
  induction calls generalizing pin with
  | nil => exact hpin
  | cons call calls ih =>
    obtain ⟨hcall, hrest⟩ := List.forall_mem_cons.mp hcalls
    exact ih hrest (hcall pin hpin)

end FlexPort

open FlexPort (after afterCalls afterCalls_append FreeOfContention Switches)

namespace FlexLed

variable {φ : Type} [FlexPort φ]

/-! ## The calls of an operation -/

/-- The calls that an operation makes to the pin. A toggle drives what the read of the latch asks
for. -/
def callsOf (led : FlexLed φ) : PinOp → List FlexCall
  | .write level => [.drive level]
  | .toggle => [.drive (if FlexPort.isSetLow led.pin then .high else .low)]
  | .setDirection direction => switchCalls direction
  | .isSetHigh | .isSetLow | .getDirection => []

/-- The direction behind an operation. -/
def directionAfter (led : FlexLed φ) : PinOp → Direction
  | .setDirection direction => direction
  | .write _ | .toggle | .isSetHigh | .isSetLow | .getDirection => led.direction

theorem callAll_apply {ε : Type} (calls : List FlexCall) (now : Nat) (led : FlexLed φ) :
    (callAll calls : Act (FlexLed φ) ε Unit) now led =
      ⟨.done (), { led with pin := afterCalls led.pin calls },
        calls.map fun call => .chip (.flex call)⟩ := by
  induction calls generalizing led with
  | nil => rfl
  | cons c calls ih =>
    have hcall : (call c : Act (FlexLed φ) ε Unit) now led =
        ⟨.done (), { led with pin := after led.pin c }, [.chip (.flex c)]⟩ := rfl
    rw [callAll, Act.bind_of_done hcall, ih]
    rfl

/-- An operation always ends well, and all it does to the pin are its calls. -/
theorem run_apply (op : PinOp) (now : Nat) (led : FlexLed φ) :
    ∃ answer, op.run now led =
      ⟨.done answer,
        { pin := afterCalls led.pin (led.callsOf op), direction := led.directionAfter op },
        (led.callsOf op).map fun call => .chip (.flex call)⟩ := by
  cases op with
  | write level => exact ⟨.done, rfl⟩
  | toggle =>
    have hread : (LedPin.isSetLow : Act (FlexLed φ) Fault Bool) now led =
        ⟨.done (FlexPort.isSetLow led.pin), led, []⟩ := rfl
    refine ⟨.done, ?_⟩
    show (LedPin.toggle >>= fun _ => pure PinAnswer.done) now led = _
    rw [LedPin.toggle, Act.bind_assoc, Act.bind_of_done hread, callsOf]
    cases FlexPort.isSetLow led.pin <;> rfl
  | isSetHigh => exact ⟨.read (FlexPort.isSetHigh led.pin), rfl⟩
  | isSetLow => exact ⟨.read (FlexPort.isSetLow led.pin), rfl⟩
  | setDirection direction =>
    have hswitch := callAll_apply (ε := Fault) (switchCalls direction) now led
    refine ⟨.done, ?_⟩
    show (setDirection direction >>= fun _ => pure PinAnswer.done) now led = _
    rw [setDirection, Act.bind_assoc, Act.bind_of_done hswitch]
    simp [Act.bind_apply, Act.modify, callsOf, directionAfter]
  | getDirection => exact ⟨.direction led.direction, rfl⟩

theorem create_apply (pin : φ) :
    create pin = ⟨.done (), { pin := afterCalls pin (switchCalls .input), direction := .input },
      (switchCalls .input).map fun call => .chip (.flex call)⟩ := callAll_apply ..

theorem state_run (op : PinOp) (now : Nat) (led : FlexLed φ) :
    (op.run now led).state =
      { pin := afterCalls led.pin (led.callsOf op), direction := led.directionAfter op } := by
  obtain ⟨answer, hrun⟩ := run_apply op now led
  rw [hrun]

/-! ## Directions and enables -/

section Switches

variable {view : φ → FlexPin} (h : Switches view)

include h

/-- A switch sets both enables and leaves the latch. -/
theorem view_switchCalls (pin : φ) (direction : Direction) :
    view (afterCalls pin (switchCalls direction)) =
      ⟨direction = .output, direction = .input, (view pin).latch⟩ := by
  cases direction with
  | input =>
    show view (after (after pin (.enableOutput false)) (.enableInput true)) = _
    rw [h.enableInput, h.enableOutput]
    rfl
  | output =>
    show view (after (after (after pin .configureOutput) (.enableInput false))
      (.enableOutput true)) = _
    rw [h.enableOutput, h.enableInput, h.configureOutput]
    rfl

/-- Whatever the enables were, they serve the direction that is switched to. -/
theorem serves_switchCalls (pin : φ) (direction : Direction) :
    (view (afterCalls pin (switchCalls direction))).Serves direction := by
  rw [view_switchCalls h]
  constructor <;> exact decide_eq_true_iff

/-- The output goes off before the input goes on. -/
theorem not_contends_enableOutput (pin : φ) :
    ¬ (view (after pin (.enableOutput false))).Contends := by
  rw [h.enableOutput]
  rintro ⟨hout, -⟩
  cases hout

/-- The input goes off before the output goes on. -/
theorem not_contends_enableInput (pin : φ) :
    ¬ (view (after pin (.enableInput false))).Contends := by
  rw [h.enableInput]
  rintro ⟨-, hin⟩
  cases hin

/-- Between the calls of a switch one enable is off at any time. -/
theorem freeOfContention_switchCalls {pin : φ} (hpin : ¬ (view pin).Contends)
    (direction : Direction) : FreeOfContention view pin (switchCalls direction) := by
  have hlast := (serves_switchCalls h pin direction).not_contends
  cases direction with
  | input => exact .cons hpin (.cons (not_contends_enableOutput h pin) (.nil hlast))
  | output =>
    have hconfigured : ¬ (view (after pin .configureOutput)).Contends := by
      rwa [h.configureOutput]
    exact .cons hpin (.cons hconfigured (.cons (not_contends_enableInput h _) (.nil hlast)))

/-- A switch to the direction that the enables serve sets each of them to what it is. -/
theorem view_of_mem_switchCalls {look : FlexPin} {direction : Direction}
    (hserves : look.Serves direction) {call : FlexCall} (hcall : call ∈ switchCalls direction)
    (pin : φ) (hpin : view pin = look) : view (after pin call) = look := by
  obtain ⟨outputEnabled, inputEnabled, latch⟩ := look
  obtain ⟨hout, hin⟩ := hserves
  cases direction with
  | input =>
    obtain rfl : outputEnabled = false := by simpa using hout
    obtain rfl : inputEnabled = true := by simpa using hin
    simp only [switchCalls, List.mem_cons, List.not_mem_nil, or_false] at hcall
    rcases hcall with rfl | rfl
    · rw [h.enableOutput, hpin]
    · rw [h.enableInput, hpin]
  | output =>
    obtain rfl : outputEnabled = true := by simpa using hout
    obtain rfl : inputEnabled = false := by simpa using hin
    simp only [switchCalls, List.mem_cons, List.not_mem_nil, or_false] at hcall
    rcases hcall with rfl | rfl | rfl
    · rw [h.configureOutput, hpin]
    · rw [h.enableInput, hpin]
    · rw [h.enableOutput, hpin]

end Switches

theorem drive_not_mem_switchCalls (level : Level) (direction : Direction) :
    .drive level ∉ switchCalls direction := by
  cases direction <;> simp [switchCalls]

/-- The enables serve the direction that the LED knows. -/
def InStep (view : φ → FlexPin) (led : FlexLed φ) : Prop := (view led.pin).Serves led.direction

namespace InStep

variable {view : φ → FlexPin}

/-- Every operation leaves the enables in step. -/
theorem run (hport : Switches view) {led : FlexLed φ} (h : InStep view led) (op : PinOp)
    (now : Nat) : InStep view (op.run now led).state := by
  rw [state_run]
  cases op with
  | setDirection direction => exact serves_switchCalls hport led.pin direction
  | write level => exact hport.serves_drive h level
  | toggle => exact hport.serves_drive h _
  | isSetHigh => exact h
  | isSetLow => exact h
  | getDirection => exact h

theorem freeOfContention (hport : Switches view) {led : FlexLed φ} (h : InStep view led)
    (op : PinOp) : FreeOfContention view led.pin (led.callsOf op) := by
  have hpin := h.not_contends
  have hdrive (level : Level) : FreeOfContention view led.pin [.drive level] :=
    .cons hpin (.nil (hport.serves_drive h level).not_contends)
  cases op with
  | setDirection direction => exact freeOfContention_switchCalls hport hpin direction
  | write level => exact hdrive level
  | toggle => exact hdrive _
  | isSetHigh => exact .nil hpin
  | isSetLow => exact .nil hpin
  | getDirection => exact .nil hpin

end InStep

/-! ## Uses of the LED -/

/-- The calls that the pin gets on some occasions. -/
def callsOn (occasions : List (PinOccasion (FlexLed φ))) : List FlexCall :=
  occasions.flatMap fun o => o.effect.trace.flexCalls

theorem callsOn_cons (o : PinOccasion (FlexLed φ)) (occasions : List (PinOccasion (FlexLed φ))) :
    callsOn (o :: occasions) = o.effect.trace.flexCalls ++ callsOn occasions := List.flatMap_cons

theorem flexCalls_effect (o : PinOccasion (FlexLed φ)) :
    o.effect.trace.flexCalls = o.pin.callsOf o.use.op := by
  obtain ⟨answer, hrun⟩ := run_apply o.use.op o.use.now o.pin
  rw [PinOccasion.effect, PinUse.effect, hrun]
  exact Trace.flexCalls_map _

/-- The trace of an occasion holds all that happens to the pin. -/
theorem pin_effect (o : PinOccasion (FlexLed φ)) :
    o.effect.state.pin = afterCalls o.pin.pin o.effect.trace.flexCalls := by
  rw [flexCalls_effect, PinOccasion.effect, PinUse.effect, state_run]

theorem pin_afterPinUses (uses : List PinUse) (led : FlexLed φ) :
    (afterPinUses uses led).pin = afterCalls led.pin (callsOn (pinOccasions uses led)) := by
  induction uses generalizing led with
  | nil => rfl
  | cons use uses ih =>
    have hpin : (use.effect led).state.pin = _ := pin_effect ⟨led, use⟩
    rw [afterPinUses, ih, pinOccasions, callsOn_cons, afterCalls_append, hpin]

/-- At no point of any uses are both enables on. -/
theorem InStep.freeOfContention_callsOn {view : φ → FlexPin} (hport : Switches view)
    {led : FlexLed φ} (h : InStep view led) (uses : List PinUse) :
    FreeOfContention view led.pin (callsOn (pinOccasions uses led)) := by
  induction uses generalizing led with
  | nil => exact .nil h.not_contends
  | cons use uses ih =>
    have hpin : (use.effect led).state.pin = _ := pin_effect ⟨led, use⟩
    rw [pinOccasions, callsOn_cons]
    refine .append ?_ ?_
    · rw [flexCalls_effect]
      exact h.freeOfContention hport use.op
    · rw [← hpin]
      exact ih (h.run hport use.op use.now)

/-- The switch to an input that wraps a pin takes its output away first, whatever its enables
were. -/
theorem inStep_create {view : φ → FlexPin} (h : Switches view) (pin : φ) :
    InStep view (create pin).state := by
  rw [create_apply]
  exact serves_switchCalls h pin .input

/-- The first call of all takes the output away, so from then on the two enables are not on
together, even where the pin came with both on. -/
theorem not_contends_of_created {view : φ → FlexPin} (h : Switches view) (pin : φ)
    (uses : List PinUse) {early : List FlexCall}
    (hearly : early <+: (create pin).trace.flexCalls ++
      callsOn (pinOccasions uses (create pin).state)) (hne : early ≠ []) :
    ¬ (view (afterCalls pin early)).Contends := by
  have hrest := (inStep_create h pin).freeOfContention_callsOn h uses
  have hlast := (inStep_create h pin).not_contends
  generalize callsOn (pinOccasions uses (create pin).state) = rest at hearly hrest
  rw [create_apply] at hearly hrest hlast
  rw [Trace.flexCalls_map, switchCalls, List.cons_append] at hearly
  rcases List.prefix_cons_iff.mp hearly with rfl | ⟨later, rfl, hlater⟩
  · exact absurd rfl hne
  · have hswitch : FreeOfContention view (after pin (.enableOutput false)) [.enableInput true] :=
      .cons (not_contends_enableOutput h pin) (.nil hlast)
    exact hswitch.append hrest later hlater

/-- From any pin that keeps its enables to their own calls, after any uses of the LED: the direction
is that of the enables, of which one is on. They are not both on at any point behind the first call.
A switch of the direction leaves the latch alone, and where it repeats the direction it leaves the
enables alone too, at each of its calls. -/
theorem enables_follow_direction {view : φ → FlexPin} (h : Switches view) (pin : φ)
    (uses : List PinUse) :
    let created := (create pin).state
    let led := afterPinUses uses created
    let occasions := pinOccasions uses created
    let calls := (create pin).trace.flexCalls ++ callsOn occasions
    (LedPin.direction led = .output ↔ (view led.pin).outputEnabled = true) ∧
    ((view led.pin).inputEnabled = true ↔ ¬ (view led.pin).outputEnabled = true) ∧
    led.pin = afterCalls pin calls ∧
    (∀ early, early <+: calls → early ≠ [] → ¬ (view (afterCalls pin early)).Contends) ∧
    (view created.pin).latch = (view pin).latch ∧
    ∀ o ∈ occasions, ∀ direction, o.use.op = .setDirection direction →
      o.effect.state.pin = afterCalls o.pin.pin o.effect.trace.flexCalls ∧
      ∀ early, early <+: o.effect.trace.flexCalls →
        (view (afterCalls o.pin.pin early)).latch = (view o.pin.pin).latch ∧
        (LedPin.direction o.pin = direction →
          view (afterCalls o.pin.pin early) = view o.pin.pin) := by
  intro created led occasions calls
  have hcreated : InStep view created := inStep_create h pin
  have hstep (use : PinUse) (led : FlexLed φ) (hled : InStep view led) :
      InStep view (use.effect led).state := hled.run h use.op use.now
  have hled : InStep view led := holds_afterPinUses hstep hcreated uses
  have hlatch {pin : φ} {early : List FlexCall} {direction : Direction}
      (hearly : early <+: switchCalls direction) :
      (view (afterCalls pin early)).latch = (view pin).latch :=
    h.latch_afterCalls (fun level hdrive =>
      drive_not_mem_switchCalls level direction (hearly.subset hdrive)) pin
  refine ⟨hled.output.symm, ?_, ?_, fun early => not_contends_of_created h pin uses, ?_, ?_⟩
  · rw [hled.input, hled.output]
    cases led.direction <;> simp
  · have hpin : created.pin = afterCalls pin (create pin).trace.flexCalls := by
      simp only [created, create_apply, Trace.flexCalls_map]
    rw [afterCalls_append, ← hpin]
    exact pin_afterPinUses uses created
  · simp only [created, create_apply]
    exact hlatch (List.prefix_refl _)
  · intro o ho direction hop
    have hbefore : InStep view o.pin := holds_on_pinOccasions hstep hcreated uses ho
    refine ⟨pin_effect o, fun early hearly => ?_⟩
    rw [flexCalls_effect, hop] at hearly
    refine ⟨hlatch hearly, fun hsame => ?_⟩
    have hserves : (view o.pin.pin).Serves direction := hsame ▸ hbefore
    exact FlexPort.view_afterCalls
      (fun call hcall => view_of_mem_switchCalls h hserves (hearly.subset hcall)) rfl

/-- A pin that comes with both enables on, switched to an output, driven the other way and switched
to an output again. -/
theorem contending_pin_settles :
    let pin : FlexPin := ⟨true, true, .high⟩
    let uses : List PinUse := [⟨0, .setDirection .output⟩, ⟨5, .toggle⟩, ⟨9, .setDirection .output⟩]
    let led := afterPinUses uses (create pin).state
    pin.Contends ∧ LedPin.direction led = .output ∧ ¬ led.pin.inputEnabled = true ∧
    led.pin.latch = .low ∧
    ¬ (afterCalls pin [.enableOutput false, .enableInput true, .configureOutput,
      .enableInput false]).Contends := by
  intro pin uses led
  obtain ⟨hdirection, henables, -, hfree, -, -⟩ :=
    enables_follow_direction FlexPort.switches_id pin uses
  have hout : led.pin.outputEnabled = true := by decide
  refine ⟨⟨rfl, rfl⟩, hdirection.mpr hout, fun hin => henables.mp hin hout, by decide, ?_⟩
  exact hfree _ ⟨[.enableOutput true, .drive .low, .configureOutput, .enableInput false,
    .enableOutput true], by decide⟩ (List.cons_ne_nil _ _)

end FlexLed

end Metronome
