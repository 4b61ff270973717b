import Metronome.Board.Scripted
import Metronome.Demo.HelloWorld
import Metronome.Proofs.Console.Budget
import Metronome.Proofs.Effects
import Metronome.Proofs.Scan.Reporting

/-!
# Where printing stops

Reports, banners and greetings are written in many pieces, and the pieces of a greeting by several
calls. None of that shows on a console that stops taking text: it has the longest beginning of the
whole text that it had room for (`printing_stops_at_budget`).
-/

namespace Metronome

/-! ## Texts in parts -/

namespace Console

variable {κ : Type} [Console κ] (first second : List String)

theorem writeAll_append :
    (writeAll (first ++ second) : Act κ WriteFault Unit) =
      (writeAll first >>= fun _ => writeAll second) := by
  induction first with
  | nil => rfl
  | cons piece pieces ih => rw [List.cons_append, writeAll, writeAll, ih, Act.bind_assoc]

theorem print_append :
    (print (first ++ second) : Act κ DriverError Unit) =
      (print first >>= fun _ => print second) := by
  rw [print, writeAll_append, Act.mapError_bind]
  rfl

end Console

/-! ## Banners -/

/-- The lines on the chip. -/
def ChipInfo.bannerText (chip : ChipInfo) : String :=
  s!"This is {chip.model} chip with {chip.cores} CPU core(s), {chip.radios}" ++
    s!", {chip.flashMegabytes}MB flash\n"

theorem join_banner (chip : ChipInfo) : String.join chip.banner = chip.bannerText := by
  simp only [ChipInfo.banner, String.join_cons, String.join_nil, ChipInfo.bannerText,
    String.append_assoc, String.append_empty]
  rfl

/-! ## Greetings -/

/-- The pieces of a greeting. -/
def greeting (chip : ChipInfo) (free : Nat) : List String :=
  ["Hello world!\n"] ++ (chip.banner ++ ["Minimum free heap size: ", toString free, " bytes\n"])

/-- The whole greeting: the first line, those on the chip, and the free memory. -/
def greetingText (chip : ChipInfo) (free : Nat) : String :=
  "Hello world!\n" ++ chip.bannerText ++ s!"Minimum free heap size: {free} bytes\n"

theorem join_greeting (chip : ChipInfo) (free : Nat) :
    String.join (greeting chip free) = greetingText chip free := by
  simp only [greeting, String.join_append, join_banner, String.join_cons, String.join_nil,
    greetingText, String.append_assoc, String.append_empty]
  rfl

/-- The store of a board comes up, and then its lowest figure of free memory can be read. -/
structure ComesUp {β : Type} [Board β] (now : Nat) (board : β) (free : Nat) : Prop where
  store : (initNvs now board).outcome = .done ()
  memory : (MemoryStats.minFreeHeap now (initNvs now board).state).outcome = .done free

namespace HelloWorld

variable {β κ : Type}

/-- A use of the driver ends as a use of its console does, and leaves the console as that does. -/
structure EndsAs (e : Effect (HelloWorld β κ) DriverError Unit)
    (printed : Effect κ DriverError Unit) : Prop where
  outcome : e.outcome = printed.outcome
  console : e.state.console = printed.state

section EndsAs

variable {now : Nat} {h : HelloWorld β κ}

/-- What runs before the printing does not count where it ends well and prints nothing. -/
theorem EndsAs.bind_of_done {α : Type} {x : Act (HelloWorld β κ) DriverError α} {a : α}
    {h' : HelloWorld β κ} {trace : Trace} {rest : α → Act (HelloWorld β κ) DriverError Unit}
    {printed : Effect κ DriverError Unit} (hx : x now h = ⟨.done a, h', trace⟩)
    (hrest : EndsAs (rest a now h') printed) : EndsAs ((x >>= rest) now h) printed := by
  rw [Act.bind_of_done hx]
  exact ⟨hrest.outcome, hrest.console⟩

variable {x : Act κ DriverError Unit}

/-- What the rest does is of interest only behind a good end. -/
theorem EndsAs.useConsole_bind {rest : Unit → Act (HelloWorld β κ) DriverError Unit}
    {next : Unit → Act κ DriverError Unit}
    (hrest : ∀ console, EndsAs (rest () now { h with console }) (next () now console)) :
    EndsAs ((useConsole x >>= rest) now h) ((x >>= next) now h.console) := by
  rw [Act.bind_apply, Act.bind_apply, useConsole, Act.on]
  cases (x now h.console).outcome with
  | done value => exact ⟨(hrest _).outcome, (hrest _).console⟩
  | failed e => exact ⟨rfl, rfl⟩
  | aborted abort => exact ⟨rfl, rfl⟩

theorem EndsAs.useConsole_countdown (countdown : Option Nat) :
    EndsAs ((useConsole x >>= fun _ => Act.modify fun hello => { hello with countdown }) now h)
      (x now h.console) := by
  rw [Act.bind_apply, useConsole, Act.on]
  cases houtcome : (x now h.console).outcome with
  | done value => exact ⟨houtcome.symm, rfl⟩
  | failed e => exact ⟨houtcome.symm, rfl⟩
  | aborted abort => exact ⟨houtcome.symm, rfl⟩

end EndsAs

variable [Board β] [Console κ] {now free : Nat} {h : HelloWorld β κ}

/-- Where the board comes up, a setup does with the console what one print of the whole greeting
does: between the lines only the board is used, which does not touch the console. -/
theorem endsAs_setUp (hup : ComesUp now h.board free) :
    EndsAs (setUp now h) (Console.print
      (greeting (Board.chipInfo (initNvs now h.board).state) free) now h.console) := by
  let up := (initNvs now h.board).state
  let chip := Board.chipInfo up
  have hstore : useBoard initNvs now h = ⟨.done (), { h with board := up },
      (initNvs now h.board).trace⟩ := by
    rw [useBoard, Act.on, hup.store]
  have hmemory : ∀ console : κ,
      (useBoard MemoryStats.minFreeHeap).sure now { h with board := up, console } =
        (⟨.done free, { h with board := (MemoryStats.minFreeHeap now up).state, console },
          (MemoryStats.minFreeHeap now up).trace⟩ : Effect (HelloWorld β κ) DriverError Nat) := by
    intro console
    rw [Act.sure_apply, useBoard, Act.on, hup.memory]
    rfl
  rw [greeting, Console.print_append, Console.print_append]
  refine .bind_of_done hstore (.useConsole_bind fun greeted => ?_)
  refine .bind_of_done (a := { h with board := up, console := greeted }) rfl ?_
  refine .useConsole_bind fun described => ?_
  exact .bind_of_done (hmemory described) (.useConsole_countdown _)

end HelloWorld

/-! ## Taped consoles -/

/-- A console with the text that it took. -/
structure Taped (κ : Type) where
  console : κ
  text : String

namespace Taped

variable {κ : Type} [Console κ]

/-- Writes a text, and writes down what the console takes of it. -/
def write (text : String) : Act (Taped κ) WriteFault Unit := fun now w =>
  let inner := Console.write text now w.console
  ⟨inner.outcome, ⟨inner.state, w.text ++ inner.trace.printed⟩, inner.trace⟩

instance : Console (Taped κ) where
  write

variable (now : Nat) (pieces : List String) (w : Taped κ)

/-- A taped console does what the console does, and the text on it is what that printed. -/
theorem writeAll_apply :
    let inner := Console.writeAll pieces now w.console
    Console.writeAll pieces now w =
      ⟨inner.outcome, ⟨inner.state, w.text ++ inner.trace.printed⟩, inner.trace⟩ := by
  induction pieces generalizing w with
  | nil =>
    show (⟨.done (), w, []⟩ : Effect (Taped κ) WriteFault Unit) =
      ⟨.done (), ⟨w.console, w.text ++ ""⟩, []⟩
    rw [String.append_empty]
  | cons piece pieces ih =>
    let inner := Console.write piece now w.console
    have hfirst : Console.write piece now w =
        ⟨inner.outcome, ⟨inner.state, w.text ++ inner.trace.printed⟩, inner.trace⟩ := rfl
    rw [Console.writeAll, Console.writeAll, Act.bind_apply, Act.bind_apply, hfirst]
    cases inner.outcome with
    | done value =>
      simp only [ih, Trace.printed_append, String.append_assoc]
      rfl
    | failed e => rfl
    | aborted abort => rfl

/-- What is printed on a new tape is what the console prints. -/
theorem print_new (console : κ) :
    (⟨(Console.print pieces now (⟨console, ""⟩ : Taped κ)).outcome,
      (Console.print pieces now (⟨console, ""⟩ : Taped κ)).state.text⟩ : Printing) =
        .of (Console.print pieces) now console := by
  rw [Printing.of, Console.print, Console.print, Act.mapError_apply, Act.mapError_apply,
    writeAll_apply, String.empty_append]

end Taped

/-! ## Reports, banners and greetings -/

/-- What a setup prints. -/
def HelloWorld.setUpPrinting {β κ : Type} [Board β] [Console κ] (now : Nat) (h : HelloWorld β κ) :
    Printing :=
  let e := setUp now ({ h with console := ⟨h.console, ""⟩ } : HelloWorld β (Taped κ))
  ⟨e.outcome, e.state.console.text⟩

/-- On a board that comes up, a setup prints the greeting in one go: between the lines only the
board is used, which does not touch the console. -/
theorem HelloWorld.setUpPrinting_of_comesUp {β κ : Type} [Board β] [Console κ] {now free : Nat}
    {h : HelloWorld β κ} (hup : ComesUp now h.board free) :
    h.setUpPrinting now = .of (Console.print
      (greeting (Board.chipInfo (initNvs now h.board).state) free)) now h.console := by
  let taped : HelloWorld β (Taped κ) := { h with console := ⟨h.console, ""⟩ }
  have hends := endsAs_setUp (h := taped) hup
  show (⟨(setUp now taped).outcome, (setUp now taped).state.console.text⟩ : Printing) = _
  rw [hends.outcome, hends.console]
  exact Taped.print_new now _ h.console

/-- However many bytes a console has taken, and whatever number of them it still takes: a report, a
banner, and the greeting on a board that comes up end well exactly when there is room for their
whole text, which is then what the console has of them. Otherwise it is the console that failed, and
it has the longest beginning of that text that ends between two characters and fits. Consoles
without a limit have the whole text. -/
theorem printing_stops_at_budget (budget taken now : Nat) :
    let limited : BoundedConsole := { limit := some (taken + budget), taken }
    let unlimited : BoundedConsole := { limit := none, taken }
    (∀ aps : List AccessPoint,
      Printing.of (printScanReport aps) now unlimited = ⟨.done (), reportText aps⟩ ∧
      (Printing.of (printScanReport aps) now limited).StopsAt budget (reportText aps)) ∧
    (∀ chip : ChipInfo,
      Printing.of (printBanner chip) now unlimited = ⟨.done (), chip.bannerText⟩ ∧
      (Printing.of (printBanner chip) now limited).StopsAt budget chip.bannerText) ∧
    ∀ {β : Type} [Board β] (board : β) (countdown : Option Nat) (free : Nat),
      ComesUp now board free →
      let text := greetingText (Board.chipInfo (initNvs now board).state) free
      HelloWorld.setUpPrinting now ⟨board, unlimited, countdown⟩ = ⟨.done (), text⟩ ∧
      (HelloWorld.setUpPrinting now ⟨board, limited, countdown⟩).StopsAt budget text := by
  intro limited unlimited
  have hwhole : ∀ pieces, Printing.of (Console.print pieces) now unlimited =
      ⟨.done (), String.join pieces⟩ :=
    fun pieces => unlimited.printing_of_unlimited now pieces rfl
  have hstops : ∀ pieces, (Printing.of (Console.print pieces) now limited).StopsAt budget
      (String.join pieces) := fun pieces => limited.print_stopsAt now pieces rfl
  refine ⟨fun aps => ?_, fun chip => ?_, ?_⟩
  · rw [← join_scanReport]
    exact ⟨hwhole (scanReport aps), hstops (scanReport aps)⟩
  · rw [← join_banner]
    exact ⟨hwhole chip.banner, hstops chip.banner⟩
  · intro β _ board countdown free hup text
    have htext : text = String.join (greeting (Board.chipInfo (initNvs now board).state) free) :=
      (join_greeting ..).symm
    rw [HelloWorld.setUpPrinting_of_comesUp hup, HelloWorld.setUpPrinting_of_comesUp hup, htext]
    exact ⟨hwhole _, hstops _⟩

/-- A network whose name is a single character of three bytes. -/
def euroNetwork : AccessPoint := ⟨"€", -41, 6, .wpa2⟩

/-- A board whose store is full at first. -/
def fullBoard : ScriptedBoard where
  nvs := [some .noFreePages]

/-- A console that has taken four bytes and takes thirty-two more has the report up to the name that
it has only two bytes left for, and half of the line about the chip. -/
theorem wide_name_stops_report :
    let limited : BoundedConsole := { limit := some 36, taken := 4 }
    (Printing.of (printScanReport [euroNetwork]) 5 limited).outcome = .failed .console ∧
    (Printing.of (printScanReport [euroNetwork]) 5 limited).text =
      "scan done\n1 networks found\n1: " ∧
    (initNvs 5 fullBoard).outcome = .done () ∧
    (HelloWorld.setUpPrinting 5 ⟨fullBoard, limited, none⟩).text =
      "Hello world!\nThis is esp32s3 chi" := by
  intro limited
  have hup : ComesUp 5 fullBoard 300000 := ⟨by decide +kernel, by decide +kernel⟩
  obtain ⟨hreport, -, hgreeting⟩ := printing_stops_at_budget 32 4 5
  have hstops := (hreport [euroNetwork]).2
  have hlong : ¬ (reportText [euroNetwork]).utf8ByteSize ≤ 32 := by decide +kernel
  refine ⟨hstops.failed (mt hstops.done_iff.mp hlong), ?_, hup.store, ?_⟩
  · rw [longestFit_iff.mp hstops.longest]
    decide +kernel
  · rw [longestFit_iff.mp (hgreeting fullBoard none 300000 hup).2.longest]
    decide +kernel

end Metronome
