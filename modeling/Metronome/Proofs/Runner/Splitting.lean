import Metronome.Proofs.Runner.History

/-!
# Cutting a bounded run in two

A bounded run of `a + b` steps does what a run of `a` steps and then one of `b` steps do: the same
states, the same trace, the same calls of the driver. Only two things can tell the cut. A report
counts the steps of its own run, and an error carries the driver's name as it was read when its run
began. When the first part ends early, the whole run is that part.
-/

namespace Metronome.Runner

variable {δ : Type} [Driver δ] {r : Runner δ} {a : Nat}

/-- Behind a run that came to its limit, a second run does what the longer run does from there on,
under the name that the driver had when the longer run began. -/
theorem runFor_add_of_limit {steps : Nat} (h : (r.runFor a).outcome = .done ⟨steps, false⟩)
    (b : Nat) :
    r.runFor (a + b) = behind a (r.runFor a).trace
      (runSteps r.ensureReady.state.name b (r.runFor a).state) := by
  obtain ⟨rfl, -⟩ := ready_of_limit h
  rw [runFor_add, resume_of_limit h]

/-- Where the first run reaches its limit, the calls of the second one follow on its own. -/
theorem calls_add_of_limit {steps : Nat} (h : (r.runFor a).outcome = .done ⟨steps, false⟩)
    (b : Nat) : r.calls (a + b) = r.calls a ++ (r.runFor a).state.calls b := by
  obtain ⟨-, hready⟩ := ready_of_limit h
  have hsetUp := ensureReady_of_ready hready
  have hcalls : (r.runFor a).state.calls b = stepCalls b (r.runFor a).state := by
    rw [calls_of_done (by rw [hsetUp]), setUpCalls_of_ready hready, hsetUp]
    rfl
  have hfirst := runFor_watched a r []
  have hw : ((r.watched []).runFor a).outcome = .done ⟨steps, false⟩ := by
    rw [hfirst]
    exact h
  rw [calls, runFor_add_of_limit hw, hfirst, hcalls]
  have hrest := runSteps_watched (r.watched []).ensureReady.state.name b (r.runFor a).state
    ([] ++ r.calls a)
  exact congrArg (fun e => e.state.device.calls) hrest

theorem calls_add_of_early (h : ∀ steps, (r.runFor a).outcome ≠ .done ⟨steps, false⟩) (b : Nat) :
    r.calls (a + b) = r.calls a := by
  have hfirst := runFor_watched a r []
  have hw : ∀ steps, ((r.watched []).runFor a).outcome ≠ .done ⟨steps, false⟩ := by
    rw [hfirst]
    exact h
  rw [calls, runFor_add, resume_of_early hw]
  rfl

/-- A bounded run may be cut anywhere. If the first `a` steps come to their limit, the run of
`a + b` steps leaves what a second run of `b` steps leaves, and does and calls what the two do one
after the other; its result is that of the second run with the steps of both in a report, and with
an error under the name that the driver had when the longer run began, so it is the same error if
the driver goes by the same name at the cut. If the first `a` steps end early, with an error, a
request for a reset or an abort, the run of `a + b` steps is the run of `a` steps. -/
theorem runFor_split (r : Runner δ) (a b : Nat) :
    let first := r.runFor a
    let second := first.state.runFor b
    let whole := r.runFor (a + b)
    (∀ steps, first.outcome = .done ⟨steps, false⟩ →
      steps = a ∧
      whole.state = second.state ∧
      whole.trace = first.trace ++ second.trace ∧
      r.calls (a + b) = r.calls a ++ first.state.calls b ∧
      whole.outcome.mapError (.under first.state.name) = second.outcome.map (·.after a) ∧
      (first.state.name = r.ensureReady.state.name →
        whole.outcome = second.outcome.map (·.after a))) ∧
    ((∀ steps, first.outcome ≠ .done ⟨steps, false⟩) →
      whole = first ∧ r.calls (a + b) = r.calls a) := by
  intro first second whole
  constructor
  · intro steps h
    obtain ⟨hsteps, hready⟩ := ready_of_limit h
    have hwhole := runFor_add_of_limit h b
    have hsecond : second = runSteps first.state.name b first.state := runFor_of_ready hready b
    have hrename := runSteps_rename r.ensureReady.state.name first.state.name b first.state
    refine ⟨hsteps, ?_, ?_, calls_add_of_limit h b, ?_, ?_⟩
    · have hstate : whole.state = _ := congrArg Effect.state hwhole
      rw [hstate, hsecond, hrename]
      rfl
    · have htrace : whole.trace = _ := congrArg Effect.trace hwhole
      rw [htrace, hsecond, hrename]
      rfl
    · have houtcome : whole.outcome = _ := congrArg Effect.outcome hwhole
      rw [houtcome, hsecond, hrename]
      exact Outcome.mapError_map ..
    · intro hname
      have houtcome : whole.outcome = _ := congrArg Effect.outcome hwhole
      rw [houtcome, hsecond, hname]
      rfl
  · intro h
    exact ⟨(runFor_add r a b).trans (resume_of_early h _), calls_add_of_early h b⟩

/-- After the setup that fails, a run that ends with the second step, cut behind the first. -/
theorem runFor_split_before_failure :
    let r := (probe.runFor 0).state
    (r.runFor 1).outcome = .done ⟨1, false⟩ ∧
    ((r.runFor 1).state.runFor 2).outcome = .failed (.step "probe" 1 .console) ∧
    (r.runFor 3).outcome = .failed (.step "probe" 1 .console) := by
  intro r
  have hfirst : (r.runFor 1).outcome = .done ⟨1, false⟩ := rfl
  have hsecond : ((r.runFor 1).state.runFor 2).outcome = .failed (.step "probe" 1 .console) := rfl
  obtain ⟨-, -, -, -, -, hwhole⟩ := (runFor_split r 1 2).1 1 hfirst
  refine ⟨hfirst, hsecond, ?_⟩
  rw [hwhole rfl, hsecond]
  rfl

end Metronome.Runner
