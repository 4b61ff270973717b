import Mathlib.Data.List.Chain
import Metronome.Board.Scripted
import Metronome.Proofs.RgbCycle.Observing
import Metronome.Proofs.Runner.Departing
import Metronome.Strip.Scripted

/-!
# No colour is skipped

The colour of a cycle moves on with the last thing that a step does, so it tells how many steps
ended well since the last setup that did (`RgbCycle.tracks_colour`), although a step that fails may
have shown its colour already.
-/

namespace Metronome

theorem Colour.next_advance (c : Colour) (n : Nat) : (c.advance n).next = c.advance (n + 1) := by
  induction n generalizing c with
  | zero => rfl
  | succ n ih => exact ih c.next

namespace RgbCycle

variable {τ μ κ : Type} [PixelStrip τ] [MemoryStats μ] [Console κ]

/-! ## The place in the cycle -/

/-- The colour is told by the number of steps since the setup, starting at red. -/
theorem tracks_colour : Tracks fun n (d : RgbCycle τ μ κ) => d.colour = Colour.red.advance n where
  setUp {n d} hplace now := by
    show (setUp now d).state.colour =
      Colour.red.advance (if (setUp now d).outcome.isDone then 0 else n)
    rw [colour_setUp, hplace]
    split <;> rfl
  step {n d} hplace now := by
    show (step now d).state.colour =
      Colour.red.advance (if (step now d).outcome.isDone then n + 1 else n)
    rw [colour_step, hplace, Colour.next_advance]
    split <;> rfl

theorem colour_of_fails (o : Occasion (RgbCycle τ μ κ)) (hfails : ¬ o.effect.outcome.isDone) :
    o.effect.state.colour = o.driver.colour := by
  obtain ⟨d, use⟩ := o
  cases use with
  | setUp now =>
    rw [Occasion.effect, Outcome.isDone_map] at hfails
    exact (colour_setUp now d).trans (if_neg hfails)
  | step now =>
    rw [Occasion.effect, Outcome.isDone_map] at hfails
    exact (colour_step now d).trans (if_neg hfails)

theorem shows_of_isDone {now : Nat} {d : RgbCycle τ μ κ} (hdone : (step now d).outcome.isDone) :
    shows ⟨d, .step now⟩ := by
  cases stepSeen now d with
  | unset calls unread unprinted fails => exact absurd hdone (ne_true_of_eq_false fails)
  | unsent calls unread unprinted fails => exact absurd hdone (ne_true_of_eq_false fails)
  | sent calls read order printed =>
    rw [shows, calls]
    rfl

/-- Unless it is a setup that ends well, a call keeps the colour or shows it and goes on to the
next one. -/
theorem colour_of_use (o : Occasion (RgbCycle τ μ κ)) (hsets : o.setsUp = false) :
    o.effect.state.colour = o.driver.colour ∨
      shows o ∧ o.effect.state.colour = o.driver.colour.next := by
  by_cases hdone : o.effect.outcome.isDone
  · obtain ⟨d, use⟩ := o
    cases use with
    | setUp now =>
      rw [Occasion.effect, Outcome.isDone_map] at hdone
      rw [Occasion.setsUp_setUp] at hsets
      exact absurd hdone (ne_true_of_eq_false hsets)
    | step now =>
      rw [Occasion.effect, Outcome.isDone_map] at hdone
      exact .inr ⟨shows_of_isDone hdone, (colour_step now d).trans (if_pos hdone)⟩
  · exact .inl (colour_of_fails o hdone)

/-! ## The colours that are shown -/

/-- The colours of the frames since the last setup that ended well, whether or not they were
sent. -/
def shownColours (uses : List DriverUse) (d : RgbCycle τ μ κ) : List Colour :=
  ((sinceSetUp uses d).filter shows).map fun o => o.driver.colour

/-- A call more shows its colour, or none. -/
theorem shownColours_concat (uses : List DriverUse) (use : DriverUse) (d : RgbCycle τ μ κ) :
    let o : Occasion (RgbCycle τ μ κ) := ⟨afterUses uses d, use⟩
    shownColours (uses ++ [use]) d =
      if o.setsUp then []
      else if shows o then shownColours uses d ++ [(afterUses uses d).colour]
      else shownColours uses d := by
  intro o
  have hsince : sinceSetUp (uses ++ [use]) d =
      if o.setsUp then [] else sinceSetUp uses d ++ [o] := sinceSetUp_concat uses use d
  rw [shownColours, hsince]
  by_cases hsets : o.setsUp
  · simp only [hsets, if_true, List.filter_nil, List.map_nil]
  · by_cases hshows : shows o
    · simp [hsets, hshows, shownColours, o]
    · simp [hsets, hshows, shownColours]

/-- From frame to frame, and to the colour that is up next, the colour stays or moves on by one. -/
theorem isChain_shownColours (uses : List DriverUse) (d : RgbCycle τ μ κ) :
    (shownColours uses d ++ [(afterUses uses d).colour]).IsChain fun a b => b = a ∨ b = a.next := by
  induction uses using List.reverseRecOn with
  | nil => exact .singleton _
  | append_singleton uses use ih =>
    let o : Occasion (RgbCycle τ μ κ) := ⟨afterUses uses d, use⟩
    have hstate : afterUses (uses ++ [use]) d = o.effect.state := by
      rw [afterUses_concat, Occasion.state_effect]
    have hshown := shownColours_concat uses use d
    rw [hstate, hshown]
    cases hsets : o.setsUp with
    | true => exact .singleton _
    | false =>
      have hcolour := colour_of_use o hsets
      simp only [Bool.false_eq_true, if_false]
      cases hshows : shows o with
      | true =>
        have hnext : o.effect.state.colour = o.driver.colour ∨
            o.effect.state.colour = o.driver.colour.next := hcolour.imp_right And.right
        rw [if_pos rfl, List.append_assoc]
        exact List.isChain_split.mpr ⟨ih, List.isChain_pair.mpr hnext⟩
      | false =>
        obtain hkept | ⟨hshown, -⟩ := hcolour
        · rw [if_neg Bool.false_ne_true, hkept]
          exact ih
        · rw [hshows] at hshown
          cases hshown

/-! ## Under a runner -/

theorem refused_of_empty {d : RgbCycle τ μ κ} (hempty : PixelStrip.length d.strip = 0)
    {r : Runner (RgbCycle τ μ κ)} (hpending : r.ready = false) (hdevice : r.device = d) :
    Runner.Refused d r where
  pending := hpending
  device := hdevice
  refuses _ := ⟨_, [], setUp_of_empty hempty⟩

/-! ## What is seen of a call -/

section Call

variable (o : Occasion (RgbCycle τ μ κ))

/-- Only the first pixel is ever set, and to the colour of the step. -/
theorem setPixel_mem_stripCalls {index : Nat} {colour : Rgb} {set : Bool}
    (hcall : (.setPixel index colour, set) ∈ stripCalls o) :
    index = 0 ∧ colour = o.driver.colour.rgb := by
  obtain ⟨d, use⟩ := o
  cases use with
  | setUp now => cases stripCalls_setUp now d hcall
  | step now =>
    cases stepSeen now d with
    | unset calls unread unprinted fails =>
      rw [calls] at hcall
      cases List.mem_singleton.mp hcall
      exact ⟨rfl, rfl⟩
    | unsent calls unread unprinted fails =>
      rw [calls] at hcall
      rcases List.mem_pair.mp hcall with hcall | hcall
      · cases hcall
        exact ⟨rfl, rfl⟩
      · cases hcall
    | sent calls read order printed =>
      rw [calls] at hcall
      rcases List.mem_pair.mp hcall with hcall | hcall
      · cases hcall
        exact ⟨rfl, rfl⟩
      · cases hcall

/-- A frame is sent only behind the first pixel, set to the colour of the step. -/
theorem stripCalls_of_send {sent : Bool} (hcall : (.sendFrame, sent) ∈ stripCalls o) :
    stripCalls o = [(.setPixel 0 o.driver.colour.rgb, true), (.sendFrame, sent)] := by
  obtain ⟨d, use⟩ := o
  cases use with
  | setUp now => cases stripCalls_setUp now d hcall
  | step now =>
    cases stepSeen now d with
    | unset calls unread unprinted fails =>
      rw [calls] at hcall
      cases List.mem_singleton.mp hcall
    | unsent calls unread unprinted fails =>
      rw [calls] at hcall ⊢
      rcases List.mem_pair.mp hcall with hcall | hcall
      · cases hcall
      · cases hcall
        rfl
    | sent calls read order printed =>
      rw [calls] at hcall ⊢
      rcases List.mem_pair.mp hcall with hcall | hcall
      · cases hcall
      · cases hcall
        rfl

/-- Nothing is read or printed before a frame is sent. -/
theorem unread_of_unsent (hcall : (.sendFrame, true) ∉ stripCalls o) :
    readings o = [] ∧ texts o = [] := by
  obtain ⟨d, use⟩ := o
  cases use with
  | setUp now => exact unread_setUp now d
  | step now =>
    cases stepSeen now d with
    | unset calls unread unprinted fails => exact ⟨unread, unprinted⟩
    | unsent calls unread unprinted fails => exact ⟨unread, unprinted⟩
    | sent calls read order printed =>
      rw [calls] at hcall
      exact absurd (List.mem_cons_of_mem _ (List.mem_singleton_self _)) hcall

/-- One reading is taken behind a frame that was sent, and the line is about that reading. -/
theorem read_of_sent (hcall : (.sendFrame, true) ∈ stripCalls o) :
    ∃ now rest, o.use = .step now ∧ readings o = [(o.driver.reading now).outcome] ∧
      o.effect.trace = (o.driver.setting now).trace ++ ((o.driver.sending now).trace ++
        (shownRecord o.driver.colour :: ((o.driver.reading now).trace ++ rest))) ∧
      ∀ free, (o.driver.reading now).outcome = .done free → texts o <+: memoryLine free ∧
        (o.effect.outcome.isDone ↔ texts o = memoryLine free) := by
  obtain ⟨d, use⟩ := o
  cases use with
  | setUp now => cases stripCalls_setUp now d hcall
  | step now =>
    cases stepSeen now d with
    | unset calls unread unprinted fails =>
      rw [calls] at hcall
      cases List.mem_singleton.mp hcall
    | unsent calls unread unprinted fails =>
      rw [calls] at hcall
      rcases List.mem_pair.mp hcall with hcall | hcall
      · cases hcall
      · cases hcall
    | sent calls read order printed =>
      obtain ⟨rest, horder⟩ := order
      refine ⟨now, rest, rfl, read, horder, fun free hfree => ?_⟩
      rw [Occasion.effect, Outcome.isDone_map]
      exact printed free hfree

end Call

/-- However setups and steps are mixed after a setup that ended well, and whatever fails in them:
the colour that is up next is as many places behind red as steps have ended well since the last
setup that did, so a call that fails leaves it. The colours of the frames since then, sent or not,
go from one to the next by one place or by none. No pixel but the first is ever set, and that to the
colour of its step; a frame is only sent behind it in the same step, and only a frame that was sent
is followed by a reading of the memory, by one, and by the line about that reading. On an empty
strip the setup fails and changes nothing, so that under a runner nothing is ever done to the
strip. -/
theorem never_skips_a_colour (cycle : RgbCycle τ μ κ) :
    (∀ start, (Driver.setUp start cycle).outcome = .done () →
      let ready := (Driver.setUp start cycle).state
      ∀ uses,
        (afterUses uses ready).colour = Colour.red.advance (progress uses ready) ∧
        (((sinceSetUp uses ready).filter shows).map fun o => o.driver.colour).IsChain
          (fun a b => b = a ∨ b = a.next) ∧
        ∀ o ∈ occasions uses ready,
          (¬ o.effect.outcome.isDone → o.effect.state.colour = o.driver.colour) ∧
          (∀ index colour set, (.setPixel index colour, set) ∈ stripCalls o →
            index = 0 ∧ colour = o.driver.colour.rgb) ∧
          (∀ sent, (.sendFrame, sent) ∈ stripCalls o →
            stripCalls o = [(.setPixel 0 o.driver.colour.rgb, true), (.sendFrame, sent)]) ∧
          ((.sendFrame, true) ∉ stripCalls o → readings o = [] ∧ texts o = []) ∧
          ((.sendFrame, true) ∈ stripCalls o →
            ∃ now rest, o.use = .step now ∧ readings o = [(o.driver.reading now).outcome] ∧
              o.effect.trace = (o.driver.setting now).trace ++ ((o.driver.sending now).trace ++
                (shownRecord o.driver.colour :: ((o.driver.reading now).trace ++ rest))) ∧
              ∀ free, (o.driver.reading now).outcome = .done free →
                texts o <+: ["PSRAM free: ", toString free, " bytes\n"] ∧
                (o.effect.outcome.isDone ↔
                  texts o = ["PSRAM free: ", toString free, " bytes\n"]))) ∧
    (PixelStrip.length cycle.strip = 0 →
      (∀ now, Driver.setUp now cycle =
        ⟨.failed (.peripheral "pixel strip" "find a pixel"), cycle, []⟩) ∧
      ∀ r : Runner (RgbCycle (Noted τ) (Metered μ) (Transcribed κ)), r.Fresh →
        r.device = cycle.observed → ∀ limits budget,
          (r.runEach limits).device.strip.calls = [] ∧
            ((r.runEach limits).run budget).state.device.strip.calls = []) := by
  constructor
  · intro start hsetUp ready uses
    have hred : ready.colour = Colour.red.advance 0 := by
      have hcolour := colour_setUp start cycle
      rw [show (setUp start cycle).outcome = .done () from hsetUp] at hcolour
      exact hcolour
    refine ⟨holds_at_progress tracks_colour hred uses,
      (isChain_shownColours uses ready).left_of_append, fun o _ => ?_⟩
    exact ⟨colour_of_fails o, fun _ _ _ => setPixel_mem_stripCalls o,
      fun _ => stripCalls_of_send o, unread_of_unsent o, read_of_sent o⟩
  · intro hempty
    refine ⟨fun now => setUp_of_empty hempty, fun r hfresh hdevice limits budget => ?_⟩
    have hrefused := (refused_of_empty (d := cycle.observed) hempty hfresh.pending hdevice).runEach
      limits
    rw [hrefused.device, hrefused.run budget]
    exact ⟨rfl, rfl⟩

/-- A cycle whose second pixel and whose second frame fail, on a console that refuses the middle of
its second line. -/
def faultyCycle : RgbCycle ScriptedStrip QuietBoard PlannedConsole where
  strip := { pixels := [.black], sets := [none, some .console], sends := [none, some .console] }
  memory := {}
  console := { failWrites := .ofList [4] }

/-- A runner of an observed cycle on a strip without pixels. -/
def darkRunner : Runner (RgbCycle (Noted ScriptedStrip) (Metered QuietBoard)
    (Transcribed PlannedConsole)) where
  device := RgbCycle.observed { strip := { pixels := [] }, memory := {}, console := {} }
  system := .noting "probe"

/-- Of five steps three fail, each in another of its parts, and green is shown until it is done. -/
theorem faulty_cycle_shows_green :
    (Driver.setUp 0 faultyCycle).outcome = .done () ∧
    (afterUses [.step 1, .step 2, .step 3, .step 4, .step 5]
      (Driver.setUp 0 faultyCycle).state).colour = .blue ∧
    PixelStrip.length darkRunner.device.strip = 0 ∧ darkRunner.Fresh ∧
    ((darkRunner.runEach [2, 1]).run 5).state.device.strip.calls = [] := by
  have hready : (Driver.setUp 0 faultyCycle).outcome = .done () := rfl
  have hprogress : progress [.step 1, .step 2, .step 3, .step 4, .step 5]
      (Driver.setUp 0 faultyCycle).state = 2 := by decide +kernel
  have hempty : PixelStrip.length darkRunner.device.strip = 0 := rfl
  have hfresh : darkRunner.Fresh := ⟨rfl, rfl⟩
  obtain ⟨hcolour, -⟩ := (never_skips_a_colour faultyCycle).1 0 hready
    [.step 1, .step 2, .step 3, .step 4, .step 5]
  obtain ⟨-, hdark⟩ := (never_skips_a_colour darkRunner.device.plain).2 hempty
  rw [show progress _ _ = 2 from hprogress] at hcolour
  exact ⟨hready, hcolour, hempty, hfresh, (hdark darkRunner hfresh rfl [2, 1] 5).2⟩

end RgbCycle

end Metronome
