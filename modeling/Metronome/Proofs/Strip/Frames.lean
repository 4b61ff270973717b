import Mathlib.Data.List.Forall2
import Mathlib.Data.List.Induction
import Metronome.Proofs.Effects
import Metronome.Strip.FrameBuffer

/-!
# Frames and the history of a buffer

Behind any operations the pixels of a buffer and its brightness are those that were set last
(`FrameBuffer.pixels_after`, `FrameBuffer.brightness_after`), so the frame that is sent next is a
function of the history. Sending reads both and changes neither.
-/

namespace Metronome

/-! ## Channels -/

/-- The three channels of a colour. -/
def Rgb.channels (p : Rgb) : List UInt8 := [p.red, p.green, p.blue]

/-- Scaling does not wrap. -/
theorem toNat_scaleChannel (b c : UInt8) :
    (scaleChannel b c).toNat = c.toNat * (b.toNat + 1) / 256 := by
  have hb := b.toNat_lt
  have hc := c.toNat_lt
  have hprod : c.toNat * (b.toNat + 1) ≤ 255 * 256 := Nat.mul_le_mul (by omega) (by omega)
  rw [scaleChannel, UInt8.toNat_ofNat']
  omega

theorem scaleChannel_le (b c : UInt8) : (scaleChannel b c).toNat ≤ min c.toNat b.toNat := by
  have hb := b.toNat_lt
  have hc := c.toNat_lt
  rw [toNat_scaleChannel]
  refine Nat.le_min.mpr ⟨?_, ?_⟩
  · have hprod : c.toNat * (b.toNat + 1) ≤ c.toNat * 256 := Nat.mul_le_mul_left _ (by omega)
    omega
  · have hprod : c.toNat * (b.toNat + 1) ≤ 255 * (b.toNat + 1) := Nat.mul_le_mul_right _ (by omega)
    omega

theorem scaleChannel_full (c : UInt8) : scaleChannel 255 c = c := by
  apply UInt8.toNat.inj
  rw [toNat_scaleChannel]
  exact Nat.mul_div_cancel _ (by decide)

/-- A channel `c` as it is sent at brightness `b`: scaled, brighter neither than it was nor than the
brightness, and itself at full brightness. -/
structure SentAs (b sent c : UInt8) : Prop where
  scaled : sent.toNat = c.toNat * (b.toNat + 1) / 256
  bounded : sent.toNat ≤ min c.toNat b.toNat
  full : b = 255 → sent = c

theorem sentAs_scaleChannel (b c : UInt8) : SentAs b (scaleChannel b c) c where
  scaled := toNat_scaleChannel b c
  bounded := scaleChannel_le b c
  full := by
    rintro rfl
    exact scaleChannel_full c

theorem Rgb.channels_scale (b : UInt8) (p : Rgb) :
    List.Forall₂ (SentAs b) (p.scale b).channels p.channels :=
  .cons (sentAs_scaleChannel b p.red)
    (.cons (sentAs_scaleChannel b p.green) (.cons (sentAs_scaleChannel b p.blue) .nil))

example : (Rgb.mk 255 128 0).scale 30 = ⟨30, 15, 0⟩ := by decide

theorem Rgb.channels_map_scale (b : UInt8) (pixels : List Rgb) :
    List.Forall₂ (SentAs b) ((pixels.map (Rgb.scale b)).flatMap Rgb.channels)
      (pixels.flatMap Rgb.channels) := by
  induction pixels with
  | nil => exact .nil
  | cons p pixels ih =>
    rw [List.map_cons, List.flatMap_cons, List.flatMap_cons]
    exact List.rel_append (p.channels_scale b) ih

/-! ## Writers with observers -/

/-- A writer with the list of the frames that it was handed. -/
structure Handed (ω : Type) where
  writer : ω
  /-- The frames so far, taken or not, the first one first. -/
  frames : List (List Rgb)

instance {ω : Type} [FrameWriter ω] : FrameWriter (Handed ω) where
  write frame now w :=
    let inner := FrameWriter.write frame now w.writer
    ⟨inner.outcome, ⟨inner.state, w.frames ++ [frame]⟩, inner.trace⟩

namespace FrameBuffer

variable {ω : Type}

/-- The buffer with an observer at its writer, from now on. -/
def observed (b : FrameBuffer ω) : FrameBuffer (Handed ω) := { b with writer := ⟨b.writer, []⟩ }

variable [FrameWriter ω]

/-! ## One operation -/

section Run

variable (now : Nat) (b : FrameBuffer ω)

theorem run_setPixel_of_lt {index : Nat} (colour : Rgb) (h : index < b.pixels.length) :
    (StripOp.setPixel index colour).run now b =
      ⟨.done (), { b with pixels := b.pixels.set index colour }, []⟩ := by
  show setPixel index colour now b = _
  simp [setPixel, Act.bind_apply, Act.get, Act.modify, Nat.not_le.mpr h]

theorem run_setPixel_of_le {index : Nat} (colour : Rgb) (h : b.pixels.length ≤ index) :
    (StripOp.setPixel index colour).run now b =
      ⟨.failed (.peripheral "pixel strip" "address pixel"), b,
        [.log { severity := .error, source := .frameBuffer,
                text := s!"pixel {index} out of range for a strip of {b.pixels.length}" }]⟩ := by
  show setPixel index colour now b = _
  simp [setPixel, Act.bind_apply, Act.get, Act.log, Act.emit, Act.fail, h]

/-- What handing the frame to the writer comes to. -/
def handing : Effect ω Fault Unit := FrameWriter.write b.frame now b.writer

/-- The record of a frame that the writer refused. -/
def refusalRecords : Outcome Fault Unit → Trace
  | .failed e =>
    [.log { severity := .error, source := .frameBuffer,
            text := s!"pixel strip write failed: {e.name}" }]
  | _ => []

/-- Nothing but the writer changes, and the writer decides how it ends. -/
theorem run_sendFrame :
    StripOp.sendFrame.run now b =
      ⟨(b.handing now).outcome.mapError fun _ => .peripheral "pixel strip" "write frame",
        { b with writer := (b.handing now).state },
        (b.handing now).trace ++ refusalRecords (b.handing now).outcome⟩ := by
  show sendFrame now b = _
  have hsend : sendFrame now b = Act.orElse
      ((FrameWriter.write b.frame).on FrameBuffer.writer fun writer b => { b with writer })
      (fun e => do
        Act.log .error .frameBuffer s!"pixel strip write failed: {e.name}"
        Act.fail (.peripheral "pixel strip" "write frame")) now b := rfl
  have hhanding : FrameWriter.write b.frame now b.writer = b.handing now := rfl
  rw [hsend]
  simp only [Act.orElse, Act.on, hhanding]
  cases (b.handing now).outcome with
  | done value => simp only [Outcome.mapError, refusalRecords, List.append_nil]
  | failed e => rfl
  | aborted abort => simp only [Outcome.mapError, refusalRecords, List.append_nil]

theorem pixels_run (op : StripOp) :
    (op.run now b).state.pixels = match op with
      | .setPixel index colour => b.pixels.set index colour
      | _ => b.pixels := by
  cases op with
  | setBrightness brightness => rfl
  | setPixel index colour =>
    by_cases h : index < b.pixels.length
    · rw [run_setPixel_of_lt now b colour h]
    · rw [run_setPixel_of_le now b colour (Nat.le_of_not_lt h)]
      exact (List.set_eq_of_length_le (Nat.le_of_not_lt h)).symm
  | sendFrame => rw [run_sendFrame]

theorem brightness_run (op : StripOp) :
    (op.run now b).state.brightness = match op with
      | .setBrightness brightness => brightness
      | _ => b.brightness := by
  cases op with
  | setBrightness brightness => rfl
  | setPixel index colour =>
    by_cases h : index < b.pixels.length
    · rw [run_setPixel_of_lt now b colour h]
    · rw [run_setPixel_of_le now b colour (Nat.le_of_not_lt h)]
  | sendFrame => rw [run_sendFrame]

end Run

/-! ## Operations in a row -/

/-- The buffer behind some operations, each at its instant and whatever became of it. -/
def after (history : List (Nat × StripOp)) (b : FrameBuffer ω) : FrameBuffer ω :=
  history.foldl (fun b call => (call.2.run call.1 b).state) b

theorem after_concat (history : List (Nat × StripOp)) (call : Nat × StripOp) (b : FrameBuffer ω) :
    after (history ++ [call]) b = (call.2.run call.1 (after history b)).state := by
  rw [after, List.foldl_append]
  rfl

/-- The frames that an operation hands to the writer. -/
def handed (op : StripOp) (now : Nat) (b : FrameBuffer ω) : List (List Rgb) :=
  (op.run now b.observed).state.writer.frames

end FrameBuffer

/-! ## The last values -/

/-- The colour that an operation sets a pixel to, if it sets it. -/
def StripOp.colourOf (i : Nat) : StripOp → Option Rgb
  | .setPixel index colour => if index = i then some colour else none
  | _ => none

/-- The brightness that an operation sets, if it does. -/
def StripOp.level : StripOp → Option UInt8
  | .setBrightness brightness => some brightness
  | _ => none

/-- The colour that a pixel was set to last; at first it is dark. -/
def lastColour (history : List (Nat × StripOp)) (i : Nat) : Rgb :=
  (history.reverse.findSome? fun call => call.2.colourOf i).getD .black

/-- The brightness that was set last; at first it is full. -/
def lastBrightness (history : List (Nat × StripOp)) : UInt8 :=
  (history.reverse.findSome? fun call => call.2.level).getD 255

theorem lastColour_concat (history : List (Nat × StripOp)) (now : Nat) (op : StripOp) (i : Nat) :
    lastColour (history ++ [(now, op)]) i = (op.colourOf i).getD (lastColour history i) := by
  rw [lastColour, List.reverse_concat, List.findSome?_cons]
  cases op.colourOf i <;> rfl

theorem lastBrightness_concat (history : List (Nat × StripOp)) (now : Nat) (op : StripOp) :
    lastBrightness (history ++ [(now, op)]) = op.level.getD (lastBrightness history) := by
  rw [lastBrightness, List.reverse_concat, List.findSome?_cons]
  cases op.level <;> rfl

namespace FrameBuffer

section Last

variable {ω : Type} [FrameWriter ω] (history : List (Nat × StripOp)) (n : Nat) (writer : ω)

/-- Each pixel has the colour it was set to last, or it is dark. -/
theorem pixels_after :
    (after history (dark n writer)).pixels = (List.range n).map (lastColour history) := by
  induction history using List.reverseRecOn with
  | nil =>
    have hdark : lastColour [] = fun _ => Rgb.black := rfl
    rw [hdark, List.map_const', List.length_range]
    rfl
  | append_singleton history call ih =>
    obtain ⟨now, op⟩ := call
    rw [after_concat, pixels_run, ih]
    cases op with
    | setPixel index colour =>
      refine List.ext_getElem (by simp) fun i hi hi' => ?_
      simp only [List.getElem_set, List.getElem_map, List.getElem_range, lastColour_concat,
        StripOp.colourOf]
      split <;> rfl
    | setBrightness brightness =>
      exact List.map_congr_left fun i _ =>
        (lastColour_concat history now (.setBrightness brightness) i).symm
    | sendFrame =>
      exact List.map_congr_left fun i _ => (lastColour_concat history now .sendFrame i).symm

/-- The brightness is what was set last, or full. -/
theorem brightness_after :
    (after history (dark n writer)).brightness = lastBrightness history := by
  induction history using List.reverseRecOn with
  | nil => rfl
  | append_singleton history call ih =>
    obtain ⟨now, op⟩ := call
    rw [after_concat, brightness_run, ih, lastBrightness_concat]
    cases op <;> rfl

end Last

section Frames

variable {ω : Type} [FrameWriter ω]

/-- Frames sent one after the other, taken or not, are all alike. -/
theorem frames_after_sends (instants : List Nat) (w : FrameBuffer (Handed ω)) :
    (after (instants.map fun now => (now, .sendFrame)) w).writer.frames =
      w.writer.frames ++ List.replicate instants.length w.frame := by
  induction instants generalizing w with
  | nil => exact (List.append_nil _).symm
  | cons now instants ih =>
    have hrest := ih (StripOp.sendFrame.run now w).state
    rw [run_sendFrame] at hrest
    show (after _ (StripOp.sendFrame.run now w).state).writer.frames = _
    rw [run_sendFrame, hrest, List.length_cons, List.replicate_succ, List.append_cons]
    rfl

/-- Only sending hands a frame to the writer, and just one. -/
theorem handed_eq (op : StripOp) (now : Nat) (b : FrameBuffer ω) :
    handed op now b = if op = .sendFrame then [b.frame] else [] := by
  unfold handed
  cases op with
  | setBrightness brightness => rfl
  | setPixel index colour =>
    by_cases h : index < b.observed.pixels.length
    · rw [run_setPixel_of_lt now b.observed colour h]
      rfl
    · rw [run_setPixel_of_le now b.observed colour (Nat.le_of_not_lt h)]
      rfl
  | sendFrame =>
    rw [run_sendFrame]
    rfl

end Frames

/-- Behind any operations on a strip of any length, each at its instant and whatever the writer
made of the frames: every pixel has the colour that it was set to last, and dark at first; the
brightness is the last one, and full at first. A pixel can be set exactly when the strip has it, and
otherwise nothing changes. Sending hands over one frame, the pixels scaled by the brightness, and
nothing else hands over any; it ends as the writer does and changes nothing but the writer, so a
frame that is sent again is the same, with its channels scaled once. -/
theorem frames_follow_history {ω : Type} [FrameWriter ω] (n : Nat) (writer : ω)
    (history : List (Nat × StripOp)) :
    let buffer := after history (dark n writer)
    let stored := (List.range n).map (lastColour history)
    let brightness := lastBrightness history
    let frame := stored.map (Rgb.scale brightness)
    buffer.pixels = stored ∧ buffer.brightness = brightness ∧
    (∀ index colour now, let set := (StripOp.setPixel index colour).run now buffer
      set.outcome = (if index < n then .done ()
        else .failed (.peripheral "pixel strip" "address pixel")) ∧
      set.state = if index < n then { buffer with pixels := stored.set index colour }
        else buffer) ∧
    (∀ op now, handed op now buffer = if op = .sendFrame then [frame] else []) ∧
    (∀ now, let written := FrameWriter.write frame now buffer.writer
      let sent := StripOp.sendFrame.run now buffer
      sent.outcome = written.outcome.mapError (fun _ => .peripheral "pixel strip" "write frame") ∧
      sent.state = { buffer with writer := written.state }) ∧
    (∀ instants : List Nat,
      (after (instants.map fun now => (now, .sendFrame)) buffer.observed).writer.frames =
        List.replicate instants.length frame) ∧
    List.Forall₂ (SentAs brightness) (frame.flatMap Rgb.channels)
      (stored.flatMap Rgb.channels) := by
  intro buffer stored brightness frame
  have hpixels : buffer.pixels = stored := pixels_after history n writer
  have hbrightness : buffer.brightness = brightness := brightness_after history n writer
  have hframe : buffer.frame = frame := by rw [FrameBuffer.frame, hpixels, hbrightness]
  have hlength : buffer.pixels.length = n := by simp [hpixels, stored]
  refine ⟨hpixels, hbrightness, fun index colour now => ?_, fun op now => ?_, fun now => ?_,
    fun instants => ?_, ?_⟩
  · rw [← hpixels]
    by_cases h : index < n
    · rw [run_setPixel_of_lt now buffer colour (hlength.symm ▸ h), if_pos h, if_pos h]
      exact ⟨rfl, rfl⟩
    · rw [run_setPixel_of_le now buffer colour (hlength.symm ▸ Nat.le_of_not_lt h), if_neg h,
        if_neg h]
      exact ⟨rfl, rfl⟩
  · rw [handed_eq, hframe]
  · rw [run_sendFrame, ← hframe]
    exact ⟨rfl, rfl⟩
  · rw [frames_after_sends]
    exact congrArg (List.replicate _) hframe
  · exact Rgb.channels_map_scale brightness stored

end FrameBuffer

end Metronome
