import Metronome.Settings.Entry

/-!
# Exporting settings

Before the firmware is built, its settings are handed to the build: each key in turn with the value
of the build environment or else of the settings file. The build stops at the first key that has
neither, and before any key when a line of the file is malformed.
-/

namespace Metronome

/-- The keys that are exported, in order. -/
def exportedKeys : List String :=
  ["CONFIG_PACER_PRIMARY_LEVEL", "CONFIG_PACER_SECONDARY_LEVEL", "CONFIG_PACER_BLINK_TOGGLE",
   "CONFIG_PACER_FLASH_SIZE_MB"]

/-- The name of the settings file. -/
def settingsFile : String := "sdkconfig.defaults"

/-- The variable of the environment that names the directory of the settings file. -/
def directoryVariable : String := "CARGO_MANIFEST_DIR"

/-- Where the settings file is. -/
def settingsPath (directory : String) : String :=
  if directory = "" ∨ directory.endsWith "/" then directory ++ settingsFile
  else s!"{directory}/{settingsFile}"

/-- An instruction to the build. -/
inductive BuildLine where
  /-- Build again when the file changes. -/
  | watchFile (path : String)
  /-- Build again when the environment changes a key. -/
  | watchKey (key : String)
  /-- Hand a value to the compiler. -/
  | setValue (key value : String)
  /-- Hand the linker script to the linker. -/
  | linkScript
deriving DecidableEq

/-- The text of an instruction. -/
def BuildLine.text : BuildLine → String
  | .watchFile path => s!"cargo:rerun-if-changed={path}"
  | .watchKey key => s!"cargo:rerun-if-env-changed={key}"
  | .setValue key value => s!"cargo:rustc-env={key}={value}"
  | .linkScript => "cargo:rustc-link-arg-bins=-Tlinkall.x"

/-- Why the build stops. -/
inductive ExportError where
  | noDirectory
  | noFile
  | malformedLine
  | missing (key : String)
deriving DecidableEq

/-- The text of an error. -/
def ExportError.message : ExportError → String
  | .noDirectory => s!"{directoryVariable} is set by cargo"
  | .noFile => s!"failed to open {settingsFile}"
  | .malformedLine => s!"malformed line in {settingsFile}"
  | .missing key => s!"{key} is missing from {settingsFile}"

/-- What the build is told. -/
structure Export where
  lines : List BuildLine
  /-- Why it stops, if it does. -/
  error : Option ExportError := none
deriving DecidableEq

/-- What is printed: each instruction as a line. -/
def Export.output (e : Export) : String := String.join (e.lines.map (·.text ++ "\n"))

/-- All entries, unless a line is malformed. -/
def allEntries : List (Option Entry) → Option (List Entry)
  | [] => some []
  | none :: _ => none
  | some e :: rest => (e :: ·) <$> allEntries rest

/-- Exports some keys in order. `environment` gives the readable values of the build environment. -/
def exportKeys (environment : String → Option String) (entries : List Entry) : List String → Export
  | [] => { lines := [.linkScript] }
  | key :: keys =>
    match (environment key).or (lastValue? entries key) with
    | none => { lines := [.watchKey key], error := some (.missing key) }
    | some value =>
      let rest := exportKeys environment entries keys
      { rest with lines := .watchKey key :: .setValue key value :: rest.lines }

/-- Exports the entries of the settings file. -/
def exportEntries (environment : String → Option String) (read : List (Option Entry)) : Export :=
  match allEntries read with
  | none => { lines := [], error := some .malformedLine }
  | some entries => exportKeys environment entries exportedKeys

/-- Exports the settings file of the directory that the environment names; `file` holds what its
lines are read as, if it can be opened. -/
def exportFile (environment : String → Option String) (file : Option (List (Option Entry))) :
    Export :=
  match environment directoryVariable with
  | none => { lines := [], error := some .noDirectory }
  | some directory =>
    let watch := BuildLine.watchFile (settingsPath directory)
    match file with
    | none => { lines := [watch], error := some .noFile }
    | some read =>
      let rest := exportEntries environment read
      { rest with lines := watch :: rest.lines }

/-- Exports the settings file of the directory that the environment names; `file` is its text, if it
can be read. -/
def exportSettings (environment : String → Option String) (file : Option String) : Export :=
  exportFile environment (file.map (readSettings environment))

end Metronome
