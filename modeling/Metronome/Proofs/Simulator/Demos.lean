import Metronome.Proofs.Pin.Plain
import Metronome.Proofs.Runner.Rounds
import Metronome.Proofs.Safe
import Metronome.Proofs.Scan.Reporting
import Metronome.Simulator.Run

/-!
# Demos that do not fail

With output streams that take everything, no demo of the simulator fails or aborts: what the demos
are made of is safe (`Blink.safe` and so on), and bounded runs of safe drivers end with a report
(`Driver.Safe.runFor`).
-/

namespace Metronome

/-! ## Runs of safe drivers -/

section Runs

variable {δ : Type} [Driver δ] {P : δ → Prop}

/-- On a clock that is never full, rounds end with a report. -/
theorem Driver.Safe.runSteps (h : Driver.Safe P) (name : String) (limit : Nat) (r : Runner δ)
    (hr : P r.device) (hroom : ∀ n, r.clock.Allows n) :
    ∃ report, (Runner.runSteps name limit r).outcome = .done report := by
  induction limit, r using Runner.round_induction with
  | zero r => exact ⟨_, rfl⟩
  | next limit r ho ih =>
    have hrested : ∀ n, r.rested.clock.Allows n := fun n =>
      (Runner.allows_rested ho n).mpr (hroom _)
    obtain ⟨report, hrest⟩ := ih (h.step r.clock.now r.device hr).2 hrested
    rw [Runner.runSteps_of_goesOn ho, Runner.behind, hrest]
    exact ⟨_, rfl⟩
  | cut limit r ho => exact absurd (hroom _) ho.full
  | restart limit r ho =>
    rw [Runner.runSteps_of_restart ho]
    exact ⟨_, rfl⟩
  | failed limit r cause ho =>
    have hdone : r.taken.outcome.isDone := (h.step r.clock.now r.device hr).1
    rw [ho] at hdone
    cases hdone
  | aborted limit r abort ho =>
    have hdone : r.taken.outcome.isDone := (h.step r.clock.now r.device hr).1
    rw [ho] at hdone
    cases hdone

/-- A bounded run of a new runner ends with a report, on a clock that is never full. -/
theorem Driver.Safe.runFor (h : Driver.Safe P) {r : Runner δ} (hready : r.ready = false)
    (hr : P r.device) (hroom : ∀ n, r.clock.Allows n) (limit : Nat) :
    ∃ report, (r.runFor limit).outcome = .done report := by
  obtain ⟨hdone, hsafe⟩ := h.setUp r.clock.now r.device hr
  have hprepared : r.prepared.outcome = .done () := Outcome.isDone_iff.mp hdone
  obtain ⟨report, hrest⟩ := h.runSteps r.readied.name limit r.readied hsafe hroom
  rw [Runner.runFor_of_prepared hready hprepared, Runner.behind, hrest]
  exact ⟨_, rfl⟩

end Runs

/-! ## The demos -/

theorem PlainPin.EndsWith.safe {π α : Type} {view : π → PlainPin} {sound : π → Prop}
    {e : Effect π Fault α} {a : α} {pin : PlainPin} (h : EndsWith view sound e a pin) :
    e.outcome.isDone ∧ sound e.state := by
  rw [h.outcome]
  exact ⟨rfl, h.sound⟩

namespace Blink

variable {π : Type} {view : π → PlainPin} {sound : π → Prop}

theorem safe_usePin {x : Act π Fault Unit} (hx : x.Safe sound) (what operation : String) :
    (usePin what operation x).Safe fun blink => sound blink.pin :=
  .orElse (hx.on (fun _ h => h) fun _ _ h _ => h) _

variable [LedPin π]

/-- On a pin that acts like a plain one. -/
theorem safe (h : PlainPin.Shows view sound) :
    Driver.Safe fun blink : Blink π => sound blink.pin := by
  have hwrite (level : Level) : (LedPin.write level : Act π Fault Unit).Safe sound :=
    fun now p hp => (h.write level now p hp).safe
  have htoggle : (LedPin.toggle : Act π Fault Unit).Safe sound :=
    fun now p hp => (h.toggle now hp).safe
  have hdirection : (LedPin.setDirection .output : Act π Fault Unit).Safe sound :=
    fun now p hp => (h.setDirection .output now p hp).safe
  constructor
  · refine .bind (safe_usePin hdirection _ _) fun _ => ?_
    exact .bind (safe_usePin (hwrite .low) _ _) fun _ => .modify fun _ hpin => hpin
  · refine .get_bind fun blink _ => ?_
    cases blink.style with
    | onOff =>
      refine .bind (.get_bind fun blink _ => ?_) fun _ => .pure _
      refine .bind (safe_usePin (hwrite _) _ _) fun _ => ?_
      exact .bind (.modify fun _ hpin => hpin) fun _ => .emit _
    | toggle => exact .bind (safe_usePin htoggle _ _) fun _ => .pure _

end Blink

namespace WifiScan

/-- The demo as the simulator plays it. -/
abbrev OnDesktop := WifiScan DriftingRadio OutputStream

theorem safe_useConsole (pieces : List String) :
    (useConsole (Console.print pieces) : Act OnDesktop DriverError Unit).Safe
      fun s => s.console.full = false :=
  (OutputStream.safe_print pieces).on (fun _ h => h) fun _ _ h _ => h

theorem safe_useRadio {x : Act DriftingRadio DriverError Unit} (hx : x.Safe fun _ => True) :
    (useRadio x).Safe fun s : OnDesktop => s.console.full = false :=
  hx.on (fun _ _ => trivial) fun _ _ _ h => h

/-- On an open stream the scan never fails: whatever the radio sees, it finds an answer. -/
theorem safe : Driver.Safe fun s : OnDesktop => s.console.full = false := by
  constructor
  · refine .bind (safe_useRadio (.emit _)) fun _ => .bind (safe_useRadio (.emit _)) fun _ => ?_
    exact safe_useConsole _
  · refine .bind (safe_useConsole _) fun _ => .bind (.modify fun _ h => h) fun _ => ?_
    have hscan : (scanRadio : Act OnDesktop DriverError Nat).Safe
        fun s => s.console.full = false :=
      Act.Safe.on (Q := fun _ => True) (fun _ _ _ => ⟨rfl, trivial⟩) (fun _ _ => trivial)
        fun _ _ _ h => h
    refine .bind hscan fun dropped => .bind (.modify fun _ h => h) fun _ => ?_
    refine .get_bind fun s _ => .bind (fun now s h => ?_) fun _ => ?_
    · rw [warnDropped_apply]
      exact ⟨rfl, h⟩
    · refine .bind (.modify fun _ h => h) fun _ => .get_bind fun s _ => ?_
      exact .bind (.emit _) fun _ => .bind (safe_useConsole _) fun _ => .pure _

end WifiScan

namespace RgbCycle

/-- The demo as the simulator plays it. -/
abbrev OnDesktop := RgbCycle (FrameBuffer TerminalPixels) DesktopBoard OutputStream

/-- A strip with a pixel on a terminal that takes frames. -/
structure Lit (strip : FrameBuffer TerminalPixels) : Prop where
  pixel : 0 < strip.pixels.length
  terminal : strip.writer.full = false

/-- The strip has a pixel and shows it, and the stream is open. -/
structure Displayed (d : OnDesktop) : Prop where
  strip : Lit d.strip
  console : d.console.full = false

theorem safe_useStrip {ε : Type} {x : Act (FrameBuffer TerminalPixels) ε Unit} (hx : x.Safe Lit) :
    (useStrip x : Act OnDesktop ε Unit).Safe Displayed :=
  hx.on (fun _ h => h.strip) fun _ _ hstrip h => ⟨hstrip, h.console⟩

theorem safe_useConsole (pieces : List String) :
    (useConsole (Console.print pieces) : Act OnDesktop DriverError Unit).Safe Displayed :=
  (OutputStream.safe_print pieces).on (fun _ h => h.console) fun _ _ hopen h => ⟨h.strip, hopen⟩

theorem safe_readMemory : (readMemory : Act OnDesktop DriverError Nat).Safe Displayed := by
  have hread : (MemoryStats.freeExternal : Act DesktopBoard Empty Nat).Safe fun _ => True :=
    .pure _
  exact .sure (hread.on (fun _ _ => trivial) fun _ _ _ h => ⟨h.strip, h.console⟩)

theorem safe_setPixel (colour : Rgb) :
    (FrameBuffer.setPixel 0 colour : Act (FrameBuffer TerminalPixels) DriverError Unit).Safe
      Lit := by
  refine .get_bind fun strip hstrip => ?_
  rw [if_neg (Nat.not_le_of_lt hstrip.pixel)]
  refine .modify fun b hb => ⟨?_, hb.terminal⟩
  rw [List.length_set]
  exact hb.pixel

theorem safe_sendFrame :
    (FrameBuffer.sendFrame : Act (FrameBuffer TerminalPixels) DriverError Unit).Safe Lit := by
  have hwrite (frame : List Rgb) : (FrameWriter.write frame : Act TerminalPixels Fault Unit).Safe
      fun terminal => terminal.full = false := by
    rintro now ⟨full⟩ hopen
    cases hopen
    exact ⟨rfl, rfl⟩
  refine .get_bind fun strip _ => .orElse ((hwrite _).on ?_ ?_) _
  · exact fun _ h => h.terminal
  · exact fun _ _ hopen h => ⟨h.pixel, hopen⟩

/-- On a lit strip and an open stream the cycle never fails. -/
theorem safe : Driver.Safe Displayed := by
  constructor
  · refine .get_bind fun d hd => ?_
    have hpixel : ¬ PixelStrip.length d.strip = 0 := Nat.ne_of_gt hd.strip.pixel
    rw [if_neg hpixel]
    refine .bind (.sure (safe_useStrip (.modify fun _ h => ⟨h.pixel, h.terminal⟩))) fun _ => ?_
    exact .modify fun _ h => ⟨h.strip, h.console⟩
  · refine .get_bind fun d _ => .bind (safe_useStrip (safe_setPixel _)) fun _ => ?_
    refine .bind (safe_useStrip safe_sendFrame) fun _ => .bind (.emit _) fun _ => ?_
    refine .bind safe_readMemory fun free => .bind (safe_useConsole _) fun _ => ?_
    exact .bind (.modify fun _ h => ⟨h.strip, h.console⟩) fun _ => .pure _

end RgbCycle

namespace HelloWorld

/-- The demo as the simulator plays it. -/
abbrev OnDesktop := HelloWorld DesktopBoard OutputStream

theorem safe_useConsole (pieces : List String) :
    (useConsole (Console.print pieces) : Act OnDesktop DriverError Unit).Safe
      fun h => h.console.full = false :=
  (OutputStream.safe_print pieces).on (fun _ h => h) fun _ _ h _ => h

theorem safe_useBoard {ε α : Type} {x : Act DesktopBoard ε α} (hx : x.Safe fun _ => True) :
    (useBoard x : Act OnDesktop ε α).Safe fun h => h.console.full = false :=
  hx.on (fun _ _ => trivial) fun _ _ _ h => h

/-- On an open stream the greeting never fails. -/
theorem safe : Driver.Safe fun h : OnDesktop => h.console.full = false := by
  constructor
  · refine .bind (safe_useBoard (.orElse (.emit _) _)) fun _ => ?_
    refine .bind (safe_useConsole _) fun _ => .get_bind fun h _ => ?_
    refine .bind (safe_useConsole _) fun _ => ?_
    refine .bind (.sure (safe_useBoard (.pure _))) fun _ => ?_
    exact .bind (safe_useConsole _) fun _ => .modify fun _ h => h
  · refine .get_bind fun h _ => ?_
    cases h.countdown with
    | some n =>
      refine .bind (safe_useConsole _) fun _ => ?_
      exact .bind (.modify fun _ h => h) fun _ => .pure _
    | none => exact .bind (safe_useConsole _) fun _ => .pure _

end HelloWorld

end Metronome
