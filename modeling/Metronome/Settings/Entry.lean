import Metronome.Settings.Lines
import Metronome.Text.Alphanumeric

/-!
# Settings files

A file of lines `KEY=VALUE`. Blank lines and lines that start with `#` say nothing, and `export` may
stand in front of a key. A value ends at a blank, after which only a comment may follow. In single
quotes all characters stand for themselves. In double quotes and outside of quotes a backslash takes
the meaning from the next one, and `$NAME` and `${NAME}` stand for the value of a name: the
environment's, or else that of the last entry before.
-/

namespace Metronome

/-- A key and its value. -/
structure Entry where
  key : String
  value : String
deriving DecidableEq

/-- The value of the last entry of a key. -/
def lastValue? (entries : List Entry) (key : String) : Option String :=
  (entries.reverse.find? (·.key = key)).map Entry.value

/-- What a line of the file says. -/
inductive SettingsLine where
  | nothing
  | entry (e : Entry)
  | malformed
deriving DecidableEq

/-! ## Values -/

/-- Where the reader of a value is. `quoted` says whether a double quote is open. -/
inductive ValuePlace where
  | plain (quoted : Bool)
  /-- Behind a backslash. -/
  | escaped (quoted : Bool)
  /-- Behind a dollar sign and some letters of a name. -/
  | name (quoted : Bool) (letters : List Char)
  /-- Behind a dollar sign, a brace and some letters of a name. -/
  | braced (quoted : Bool) (letters : List Char)
  | singleQuoted
  /-- Behind the value. -/
  | behind
  | comment
deriving DecidableEq

/-- What a character stands for behind a backslash. -/
def escaped? (c : Char) : Option Char :=
  if c = 'n' then some '\n'
  else if c ∈ [backslash, apostrophe, quotationMark, '$', ' '] then some c
  else none

namespace ValuePlace

/-- What a character adds to the value, and the place behind it. `meaning` gives the values of
names. A character that ends a name stands for itself, even a quote. -/
def step (meaning : List Char → List Char) : ValuePlace → Char → Option (List Char × ValuePlace)
  | .plain quoted, c =>
    if c = '$' then some ([], .name quoted [])
    else if c = quotationMark then some ([], .plain !quoted)
    else if c = backslash then some ([], .escaped quoted)
    else if quoted then some ([c], .plain true)
    else if c = apostrophe then some ([], .singleQuoted)
    else if c = ' ' ∨ c = '\t' then some ([], .behind)
    else some ([c], .plain false)
  | .escaped quoted, c => (escaped? c).map fun meant => ([meant], .plain quoted)
  | .name quoted letters, c =>
    if isAlphanumeric c then some ([], .name quoted (letters ++ [c]))
    else if c = openingBrace ∧ letters = [] then some ([], .braced quoted [])
    else if c = '$' then some (meaning letters, .name quoted [])
    else some (meaning letters ++ [c], .plain quoted)
  | .braced quoted letters, c =>
    if c = closingBrace then some (meaning letters, .plain quoted)
    else some ([], .braced quoted (letters ++ [c]))
  | .singleQuoted, c =>
    if c = apostrophe then some ([], .plain false) else some ([c], .singleQuoted)
  | .behind, c =>
    if c = ' ' ∨ c = '\t' then some ([], .behind)
    else if c = '#' then some ([], .comment)
    else none
  | .comment, _ => some ([], .comment)

/-- What the end of the line adds to the value. -/
def finish (meaning : List Char → List Char) : ValuePlace → Option (List Char)
  | .plain quoted | .escaped quoted => if quoted then none else some []
  | .name quoted letters => if quoted then none else some (meaning letters)
  | .braced .. | .singleQuoted => none
  | .behind | .comment => some []

end ValuePlace

/-- Reads what is left of a value at some place. -/
def readValue (meaning : List Char → List Char) (place : ValuePlace) :
    List Char → Option (List Char)
  | [] => place.finish meaning
  | c :: cs => do
    let (text, place) ← place.step meaning c
    let rest ← readValue meaning place cs
    return text ++ rest

/-! ## Lines -/

/-- Whether a key can start with a character. -/
def isKeyStart (c : Char) : Bool := c.isAlpha || c = '_'

/-- Whether a key can go on with a character. -/
def isKeyRest (c : Char) : Bool := c.isAlphanum || c = '_' || c = '.'

/-- The key at the beginning of a text, and what follows it and some blanks. -/
def readKey : List Char → Option (List Char × List Char)
  | [] => none
  | c :: cs => if isKeyStart c then some ((c :: cs).span isKeyRest |>.map id trimStart) else none

/-- The text behind an equals sign. -/
def behindEquals : List Char → Option (List Char)
  | '=' :: cs => some cs
  | _ => none

/-- The key of an entry and what follows its equals sign. -/
def readAssigned (cs : List Char) : Option (List Char × List Char) := do
  let (key, rest) ← readKey cs
  if key = "export".toList then
    match behindEquals rest with
    | some value => return (key, value)
    | none =>
      let (exported, rest) ← readKey rest
      return (exported, ← behindEquals rest)
  else
    return (key, ← behindEquals rest)

/-- The entry of a line that has neither blanks nor a comment at its ends. -/
def readEntry (meaning : List Char → List Char) (cs : List Char) : Option Entry := do
  let (key, rest) ← readAssigned cs
  let text := trimStart rest
  let value ← if text.head? = some '#' then some [] else readValue meaning (.plain false) text
  return ⟨String.ofList key, String.ofList value⟩

/-- What a line says. -/
def readLine (meaning : List Char → List Char) (line : List Char) : SettingsLine :=
  let cs := trimStart (trimEnd line)
  if cs = [] ∨ cs.head? = some '#' then .nothing
  else
    match readEntry meaning cs with
    | some e => .entry e
    | none => .malformed

/-! ## Files -/

/-- The value that a name stands for behind some entries. -/
def meaningOf (environment : String → Option String) (entries : List Entry)
    (name : List Char) : List Char :=
  let name := String.ofList name
  (((environment name).or (lastValue? entries name)).getD "").toList

/-- What some lines say behind the entries `before` of their file. -/
def readLines (environment : String → Option String) (before : List Entry) :
    List (Option (List Char)) → List (Option Entry)
  | [] => []
  | none :: lines => none :: readLines environment before lines
  | some line :: lines =>
    match readLine (meaningOf environment before) line with
    | .nothing => readLines environment before lines
    | .entry e => some e :: readLines environment (before ++ [e]) lines
    | .malformed => none :: readLines environment before lines

/-- What the lines of a file say, those left out that say nothing; `none` stands for a malformed
line. `environment` gives the readable values of the environment. -/
def readSettings (environment : String → Option String) (text : String) : List (Option Entry) :=
  readLines environment [] (splitLines .text [] text.toList)

end Metronome
