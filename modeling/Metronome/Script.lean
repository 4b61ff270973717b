import Metronome.Act

/-!
# Scripts

The planned outcomes of successive calls to a device. When a script is used up, every further call
succeeds.
-/

namespace Metronome

/-- The outcomes of successive calls; `none` is success. -/
abbrev Script (ε : Type) := List (Option ε)

/-- The outcome of the next call. -/
def Script.next {ε : Type} (script : Script ε) : Except ε Unit :=
  match script with
  | some e :: _ => .error e
  | _ => .ok ()

/-- Ends as the script plans and moves it on. -/
def Act.play {σ ε : Type} (script : σ → Script ε) (put : Script ε → σ → σ) : Act σ ε Unit :=
  fun now s => Act.ofExcept (script s).next now (put (script s).tail s)

end Metronome
