import Metronome.Text.Pattern.Meaning
import Metronome.Text.Pattern.Nesting
import Metronome.Text.Pattern.Reader
import Metronome.Text.Pattern.Search
import Metronome.Text.Pattern.Size

/-!
# Texts as search patterns

`Pattern.read` gives the pattern of a text, or what keeps the text from being one: the first fault
in what is written, then what is nested too deep, then the first thing that cannot be matched, and
last what cannot be searched for.
-/

namespace Metronome

namespace Pattern

/-- Whether a pattern asks for words that are not made of ASCII characters. -/
def asksForWords : Pattern → Bool
  | .anchor (.word _ ascii) => !ascii
  | .seq p q | .alt p q => p.asksForWords || q.asksForWords
  | .repeated p _ _ _ | .group _ p => p.asksForWords
  | _ => false

/-- The pattern that a text stands for. -/
def read (text : String) : Except PatternError Pattern := do
  let written ← PatternSyntax.read text.toList
  written.checkNesting 0
  let pattern ← written.meaning.run' {}
  if maxAutomatonSize < pattern.forwardSize then throw .tooLarge
  if pattern.asksForWords then throw .wordEdge
  if maxAutomatonSize < pattern.backwardSize then throw .tooLarge
  return pattern.merged

end Pattern

end Metronome
