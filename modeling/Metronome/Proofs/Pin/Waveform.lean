import Mathlib.Data.List.Chain
import Mathlib.Data.List.Infix
import Metronome.Pin.Bench
import Metronome.Proofs.Runner.Sleeping

/-!
# The log of a pin as a waveform

At a bench a pin records edges while time passes between the operations. Each operation either
drives a level or leaves latch and log alone (`perform_of_drives`, `perform_of_idle`).

* `Timed`: the instants of the edges, which all operations keep in order.
* `Alternates`: the levels of the edges and that of the latch, which part only while the pin is an
  input.
-/

namespace Metronome

/-! ## Writes -/

namespace EdgePin

variable (pin : EdgePin) (now : Nat) (level : Level)

theorem write_eq :
    write level now pin =
      if pin.failWrites then ⟨.failed fault, pin, []⟩
      else ⟨.done (), pin.driven now level, []⟩ := by
  unfold write
  cases h : pin.failWrites with
  | true => simp [Act.bind_apply, Act.get, Act.fail, h]
  | false => simp [Act.bind_apply, Act.get, Act.now, Act.modify, h]

theorem run_write :
    (PinOp.write level).run now pin =
      if pin.failWrites then ⟨.failed fault, pin, []⟩
      else ⟨.done .done, pin.driven now level, []⟩ := by
  have hwrite : LedPin.write level now pin = _ := pin.write_eq now level
  rw [PinOp.run, Act.bind_apply, hwrite]
  cases pin.failWrites <;> rfl

/-- The latch can be read back whatever becomes of writes. -/
theorem run_toggle : PinOp.toggle.run now pin = (PinOp.write pin.latch.toggled).run now pin := by
  obtain ⟨direction, latch, edges, failWrites⟩ := pin
  cases latch <;> rfl

/-- Driving a pin records nothing, or one edge while it is an output. -/
theorem edges_driven_cases :
    (pin.driven now level).edges = pin.edges ∨
      (pin.driven now level).edges = pin.edges ++ [⟨now, level⟩] ∧ pin.direction = .output := by
  unfold driven
  split
  · next h => exact .inr ⟨rfl, h.1⟩
  · exact .inl rfl

end EdgePin

/-! ## The instants -/

/-- No edge is earlier than one before it, and none is later than some instant. -/
structure Timed (edges : List Edge) (now : Nat) : Prop where
  ordered : edges.Pairwise fun a b => a.time ≤ b.time
  past : ∀ edge ∈ edges, edge.time ≤ now

namespace Timed

variable {edges : List Edge} {now : Nat}

theorem mono {later : Nat} (h : Timed edges now) (hle : now ≤ later) : Timed edges later :=
  ⟨h.ordered, fun edge hedge => (h.past edge hedge).trans hle⟩

theorem concat (h : Timed edges now) (level : Level) : Timed (edges ++ [⟨now, level⟩]) now := by
  constructor
  · rw [List.pairwise_append]
    refine ⟨h.ordered, List.pairwise_singleton .., fun a ha b hb => ?_⟩
    obtain rfl := List.mem_singleton.mp hb
    exact h.past a ha
  · intro edge hedge
    rcases List.mem_append.mp hedge with hedge | hedge
    · exact h.past edge hedge
    · obtain rfl := List.mem_singleton.mp hedge
      exact Nat.le_refl now

theorem driven {pin : EdgePin} (h : Timed pin.edges now) (level : Level) :
    Timed (pin.driven now level).edges now := by
  rcases pin.edges_driven_cases now level with hedges | ⟨hedges, -⟩
  · rw [hedges]
    exact h
  · rw [hedges]
    exact h.concat level

end Timed

/-! ## The levels -/

/-- The level changes from each edge to the next, and the latch holds that of the last one. -/
structure Alternates (pin : EdgePin) : Prop where
  chain : pin.edges.IsChain fun a b => a.level ≠ b.level
  last : ∀ edge ∈ pin.edges.getLast?, edge.level = pin.latch

theorem Alternates.of_empty {pin : EdgePin} (h : pin.edges = []) : Alternates pin := by
  constructor
  · rw [h]
    exact .nil
  · rw [h]
    exact nofun

/-- An edge is recorded unless the latch, and so the last edge, has the level already. -/
theorem Alternates.driven {pin : EdgePin} (h : Alternates pin) (hout : pin.direction = .output)
    (now : Nat) (level : Level) : Alternates (pin.driven now level) := by
  unfold EdgePin.driven
  by_cases hedge : pin.latch ≠ level ∨ pin.edges = []
  · rw [if_pos ⟨hout, hedge⟩]
    constructor
    · rw [List.isChain_append]
      refine ⟨h.chain, .singleton _, fun a ha b hb => ?_⟩
      obtain rfl : (⟨now, level⟩ : Edge) = b := by simpa using hb
      rcases hedge with hlatch | hempty
      · rw [h.last a ha]
        exact hlatch
      · rw [hempty] at ha
        cases ha
    · intro edge hlast
      rw [List.getLast?_concat] at hlast
      cases hlast
      rfl
  · rw [if_neg fun hboth => hedge hboth.2]
    obtain ⟨hlatch, -⟩ := not_or.mp hedge
    exact ⟨h.chain, fun edge hlast => (h.last edge hlast).trans (not_not.mp hlatch)⟩

/-! ## One operation at the bench -/

/-- The level that an operation drives, given the one in the latch. -/
def BenchOp.drives? (latch : Level) : BenchOp → Option Level
  | .pin (.write level) => some level
  | .pin .toggle => some latch.toggled
  | _ => none

namespace Bench

variable {bench : Bench} {op : BenchOp}

/-- What an operation that drives a level does on the bench: it fails and leaves the pin, or drives
it. -/
theorem perform_of_drives {level : Level} (h : op.drives? bench.pin.latch = some level) :
    bench.perform op =
      if bench.pin.failWrites then (some (.failed EdgePin.fault), bench)
      else (some (.done .done),
        { bench with pin := bench.pin.driven bench.clock.now level }) := by
  unfold BenchOp.drives? at h
  split at h
  · obtain rfl := Option.some.inj h
    rw [perform, EdgePin.run_write]
    cases bench.pin.failWrites <;> rfl
  · obtain rfl := Option.some.inj h
    rw [perform, EdgePin.run_toggle, EdgePin.run_write]
    cases bench.pin.failWrites <;> rfl
  · cases h

/-- Whatever drives no level cannot fail, and only takes time or turns a switch. -/
theorem perform_of_idle (h : op.drives? bench.pin.latch = none) :
    (bench.perform op).2.pin.edges = bench.pin.edges ∧
    (bench.perform op).2.pin.latch = bench.pin.latch ∧
    bench.clock.now ≤ (bench.perform op).2.clock.now ∧
    ∀ fault, (bench.perform op).1 ≠ some (.failed fault) := by
  cases op with
  | failWrites on => exact ⟨rfl, rfl, Nat.le_refl _, nofun⟩
  | sleep call =>
    cases hsleep : bench.clock.sleep call with
    | ok clock =>
      have hslept : bench.perform (.sleep call) = (none, { bench with clock }) := by
        rw [perform, hsleep]
      rw [hslept]
      exact ⟨rfl, rfl, Clock.now_le_of_sleep hsleep, nofun⟩
    | error abort =>
      have hended : bench.perform (.sleep call) = (some (.aborted abort), bench) := by
        rw [perform, hsleep]
      rw [hended]
      exact ⟨rfl, rfl, Nat.le_refl _, nofun⟩
  | pin op =>
    cases op with
    | write level => cases h
    | toggle => cases h
    | isSetHigh => exact ⟨rfl, rfl, Nat.le_refl _, nofun⟩
    | isSetLow => exact ⟨rfl, rfl, Nat.le_refl _, nofun⟩
    | setDirection direction => exact ⟨rfl, rfl, Nat.le_refl _, nofun⟩
    | getDirection => exact ⟨rfl, rfl, Nat.le_refl _, nofun⟩

/-- Exactly the operations that drive a level fail, while writes do. -/
theorem perform_fails_iff :
    (∃ fault, (bench.perform op).1 = some (.failed fault)) ↔
      bench.pin.failWrites = true ∧ (op.drives? bench.pin.latch).isSome := by
  cases hdrives : op.drives? bench.pin.latch with
  | none =>
    obtain ⟨-, -, -, hdone⟩ := perform_of_idle hdrives
    simp [hdone]
  | some level =>
    rw [perform_of_drives hdrives]
    cases bench.pin.failWrites <;> simp

/-- No edge is recorded by an operation that fails, nor on an input. -/
theorem edges_perform (h : bench.pin.direction = .input ∨
    ∃ fault, (bench.perform op).1 = some (.failed fault)) :
    (bench.perform op).2.pin.edges = bench.pin.edges := by
  cases hdrives : op.drives? bench.pin.latch with
  | none => exact (perform_of_idle hdrives).1
  | some level =>
    rw [perform_fails_iff] at h
    rw [perform_of_drives hdrives]
    split
    · rfl
    · next hwrites =>
      have hinput : bench.pin.direction = .input := h.resolve_right fun hfails => hwrites hfails.1
      rcases bench.pin.edges_driven_cases bench.clock.now level with hedges | ⟨-, hout⟩
      · exact hedges
      · rw [hinput] at hout
        cases hout

end Bench

/-- Every operation on the bench keeps the edges timed. -/
theorem Timed.perform {bench : Bench} (h : Timed bench.pin.edges bench.clock.now) (op : BenchOp) :
    Timed (bench.perform op).2.pin.edges (bench.perform op).2.clock.now := by
  cases hdrives : op.drives? bench.pin.latch with
  | none =>
    obtain ⟨hedges, -, hnow, -⟩ := Bench.perform_of_idle hdrives
    rw [hedges]
    exact h.mono hnow
  | some level =>
    rw [Bench.perform_of_drives hdrives]
    split
    · exact h
    · exact h.driven level

/-- Every operation on an output keeps the edges alternating. -/
theorem Alternates.perform {bench : Bench} (h : Alternates bench.pin)
    (hout : bench.pin.direction = .output) (op : BenchOp) :
    Alternates (bench.perform op).2.pin := by
  cases hdrives : op.drives? bench.pin.latch with
  | none =>
    obtain ⟨hedges, hlatch, -, -⟩ := Bench.perform_of_idle hdrives
    constructor
    · rw [hedges]
      exact h.chain
    · rw [hedges, hlatch]
      exact h.last
  | some level =>
    rw [Bench.perform_of_drives hdrives]
    split
    · exact h
    · exact h.driven hout bench.clock.now level

/-! ## Many operations -/

namespace Bench

variable {bench : Bench}

theorem timed_after (h : Timed bench.pin.edges bench.clock.now) (ops : List BenchOp) :
    Timed (bench.after ops).pin.edges (bench.after ops).clock.now := by
  induction ops generalizing bench with
  | nil => exact h
  | cons op ops ih => exact ih (h.perform op)

/-- The pin is an output before, between and behind the operations. -/
def StaysOutput (bench : Bench) (ops : List BenchOp) : Prop :=
  ∀ early ∈ ops.inits, (bench.after early).pin.direction = .output

instance (bench : Bench) (ops : List BenchOp) : Decidable (bench.StaysOutput ops) :=
  inferInstanceAs (Decidable (∀ early ∈ ops.inits, _))

theorem StaysOutput.of_cons {op : BenchOp} {ops : List BenchOp}
    (h : bench.StaysOutput (op :: ops)) :
    bench.pin.direction = .output ∧ (bench.perform op).2.StaysOutput ops := by
  constructor
  · exact h [] ((List.mem_inits _ _).mpr List.nil_prefix)
  · intro early hearly
    refine h (op :: early) ((List.mem_inits _ _).mpr ?_)
    exact (List.prefix_cons_inj op).mpr ((List.mem_inits _ _).mp hearly)

theorem alternates_after (h : Alternates bench.pin) {ops : List BenchOp}
    (hstays : bench.StaysOutput ops) : Alternates (bench.after ops).pin := by
  induction ops generalizing bench with
  | nil => exact h
  | cons op ops ih =>
    obtain ⟨hout, hrest⟩ := hstays.of_cons
    exact ih (h.perform hout op) hrest

/-- Whatever is done from an empty log on, the edges are in the order of time and none is in the
future. No edge comes from an operation that fails, as all do that drive a level while writes fail,
nor from one on an input. Where the log is empty and the pin then stays an output for a while, the
level changes from each edge to the next, and the latch has that of the last one. -/
theorem log_is_waveform (start : Bench) (hempty : start.pin.edges = []) (ops : List BenchOp) :
    let bench := start.after ops
    let edges := bench.pin.edges
    edges.Pairwise (fun a b => a.time ≤ b.time) ∧ (∀ edge ∈ edges, edge.time ≤ bench.clock.now) ∧
    (∀ op, (∃ fault, (bench.perform op).1 = some (.failed fault)) ↔
      bench.pin.failWrites = true ∧ (op.drives? bench.pin.latch).isSome) ∧
    (∀ op, bench.pin.direction = .input ∨ (∃ fault, (bench.perform op).1 = some (.failed fault)) →
      (bench.perform op).2.pin.edges = edges) ∧
    ∀ stretch, edges = [] → bench.StaysOutput stretch →
      let last := bench.after stretch
      last.pin.edges.IsChain (fun a b => a.level ≠ b.level) ∧
      ∀ edge ∈ last.pin.edges.getLast?, edge.level = last.pin.latch := by
  intro bench edges
  have hnew : Timed start.pin.edges start.clock.now := by
    rw [hempty]
    exact ⟨.nil, nofun⟩
  obtain ⟨hordered, hpast⟩ := timed_after hnew ops
  refine ⟨hordered, hpast, fun op => perform_fails_iff, fun op h => edges_perform h, ?_⟩
  intro stretch hnone hstays
  obtain ⟨hchain, hlast⟩ := alternates_after (.of_empty hnone) hstays
  exact ⟨hchain, hlast⟩

/-- A pin whose latch is set while it is an input, then toggled as an output around a repeated level
and a failing write. -/
theorem toggled_pin_is_waveform :
    let setUp : List BenchOp := [.pin (.write .high), .pin (.setDirection .output)]
    let stretch : List BenchOp := [.sleep (.micros 7), .pin (.write .high), .pin (.write .high),
      .failWrites true, .pin .toggle, .failWrites false, .sleep (.millis 1), .pin .toggle]
    let bench : Bench := ({} : Bench).after setUp
    let last : Bench := bench.after stretch
    bench.pin.edges = [] ∧ bench.StaysOutput stretch ∧
    last.pin.edges = [⟨7, .high⟩, ⟨1007, .low⟩] ∧
    last.pin.edges.IsChain (fun a b => a.level ≠ b.level) ∧ last.pin.latch = .low := by
  intro setUp stretch bench last
  have hnone : bench.pin.edges = [] := by decide
  have hstays : bench.StaysOutput stretch := by decide
  have hedges : last.pin.edges = [⟨7, .high⟩, ⟨1007, .low⟩] := by decide
  obtain ⟨-, -, -, -, hstretch⟩ := log_is_waveform {} rfl setUp
  obtain ⟨hchain, hlatch⟩ := hstretch stretch hnone hstays
  refine ⟨hnone, hstays, hedges, hchain, ?_⟩
  exact (hlatch ⟨1007, .low⟩ (by rw [hedges]; rfl)).symm

end Bench

end Metronome
