import Metronome.Simulator.Run

/-!
# Processes in parts

A process can be done part by part: the setup first, then one round after the other, and at last
what closes it. What a part did is known as soon as it is done, also of a process that goes on for
ever. `Part.within` puts the parts together again.
-/

namespace Metronome

/-- A process between two rounds. -/
structure Underway (δ : Type) where
  /-- The driver's name as the run began. -/
  name : String
  /-- The steps taken so far. -/
  taken : Nat
  /-- The steps that are left, if they are limited. -/
  left : Option Nat
  /-- The runner. -/
  runner : Runner δ

/-- Where a process stands behind a part. -/
inductive Standing (δ : Type) where
  /-- It goes on. -/
  | underway (next : Underway δ)
  /-- It has exited; without a code it is gone in some other way. -/
  | exited (code : Option Nat)
  /-- It has been aborted. -/
  | aborted (abort : Abort)

/-- A part of a process. -/
structure Part (δ : Type) where
  /-- What it did. -/
  trace : Trace
  /-- Where the process stands behind it. -/
  standing : Standing δ

namespace Part

variable {δ : Type}

/-- A part with something done before it. -/
def behind (before : Trace) (part : Part δ) : Part δ := { part with trace := before ++ part.trace }

/-- The last part of a limited process, whose run has a report. -/
def closed (report : RunReport) : Part δ := ⟨[report.closing], .exited (some 0)⟩

/-- The last part of a limited process, whose run fails. -/
def failed (e : RunError) : Part δ := ⟨[simulatorRecord .error e.message], .exited (some 1)⟩

/-- The last part of a process without a limit, which leaves through a hook. -/
def left (leaving : Effect (Runner δ) Empty Departure) : Part δ :=
  match leaving.outcome with
  | .done departure => ⟨leaving.trace, .exited departure.exit?⟩
  | .failed e => nomatch e
  | .aborted abort => ⟨leaving.trace, .aborted abort⟩

variable [Driver δ]

/-- The last part of a process that an error ends. -/
def endedByError (limited : Bool) (r : Runner δ) (e : RunError) : Part δ :=
  if limited then failed e else left (r.leaveOnError e)

/-- The last part of a process that a reset ends, asked for by the last of its steps. -/
def endedByReset (limited : Bool) (r : Runner δ) (steps : Nat) : Part δ :=
  if limited then closed ⟨steps, true⟩ else left r.leaveToRestart

/-- The first part of a process: the setup. -/
def first (limit : Option Nat) (device : δ) : Part δ :=
  let setup := (processRunner device).ensureReady
  match setup.outcome with
  | .done () => ⟨setup.trace, .underway ⟨setup.state.name, 0, limit, setup.state⟩⟩
  | .failed e => (endedByError limit.isSome setup.state e).behind setup.trace
  | .aborted abort => ⟨setup.trace, .aborted abort⟩

end Part

variable {δ : Type} [Driver δ]

/-- The next part of a process: a round, or what closes it when no steps are left. -/
def Underway.part (u : Underway δ) : Part δ :=
  if u.left = some 0 then .closed ⟨u.taken, false⟩
  else
    let round := u.runner.stride u.name
    match round.outcome with
    | .done .next =>
      ⟨round.trace, .underway
        { u with taken := u.taken + 1, left := u.left.map (· - 1), runner := round.state }⟩
    | .done .restart =>
      (Part.endedByReset u.left.isSome round.state (u.taken + 1)).behind round.trace
    | .failed e => (Part.endedByError u.left.isSome round.state e).behind round.trace
    | .aborted abort => ⟨round.trace, .aborted abort⟩

/-- What a process comes to from one of its parts on, observed for some more parts. -/
def Part.within : Nat → Part δ → ProcessRun
  | parts, part =>
    match part.standing with
    | .exited code => ⟨part.trace, code⟩
    | .aborted _ => ⟨part.trace, some abortedExit⟩
    | .underway next =>
      match parts with
      | 0 => ⟨part.trace, none⟩
      | parts + 1 =>
        let rest := Part.within parts next.part
        ⟨part.trace ++ rest.trace, rest.exit⟩

end Metronome
