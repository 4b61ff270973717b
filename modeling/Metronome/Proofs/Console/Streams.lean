import Metronome.Proofs.Console.Budget
import Metronome.Proofs.Safe
import Metronome.Proofs.Transcripts

/-!
# Output streams that take everything

A stream that is not full takes every text, has what was printed, and stays as it is.
-/

namespace Metronome

namespace OutputStream

section Open

variable {stream : OutputStream} (h : stream.full = false) (now : Nat)
include h

/-- An open stream takes any text. Nothing is seen of an empty one. -/
theorem write_of_open (text : String) :
    Console.write text now stream =
      ⟨.done (), stream, if text = "" then [] else [.console text]⟩ := by
  obtain ⟨full⟩ := stream
  cases h
  show write text now _ = _
  by_cases hempty : text = ""
  · rw [hempty]
    rfl
  · rw [write, if_pos hempty, if_neg hempty]
    rfl

theorem print_of_open (pieces : List String) :
    (Console.print pieces now stream).outcome = .done () ∧
      (Console.print pieces now stream).state = stream := by
  have hall : (Console.writeAll pieces now stream).outcome = .done () ∧
      (Console.writeAll pieces now stream).state = stream := by
    induction pieces with
    | nil => exact ⟨rfl, rfl⟩
    | cons piece pieces ih =>
      rw [Console.writeAll, Act.bind_of_done (write_of_open h now piece)]
      exact ih
  rw [Console.print, Act.mapError_apply, hall.1]
  exact ⟨rfl, hall.2⟩

theorem printed_of_open (pieces : List String) :
    (Console.print pieces now stream).trace.printed = String.join pieces := by
  rw [Console.print, Act.mapError_apply]
  induction pieces with
  | nil => rfl
  | cons piece pieces ih =>
    have hpiece : Trace.printed (if piece = "" then [] else [.console piece]) = piece := by
      by_cases hempty : piece = ""
      · rw [if_pos hempty, hempty]
        rfl
      · rw [if_neg hempty, Trace.printed_cons]
        exact String.append_empty
    rw [Console.writeAll, Act.bind_of_done (write_of_open h now piece), Trace.printed_append,
      hpiece, ih, String.join_cons]

omit now in
theorem takesAll : Console.TakesAll stream := by
  intro texts
  induction texts with
  | nil =>
    intro now text
    rw [Console.after, write_of_open h]
  | cons first texts ih =>
    rw [Console.after, write_of_open h]
    exact ih

end Open

theorem safe_print (pieces : List String) :
    (Console.print pieces : Act OutputStream DriverError Unit).Safe fun c => c.full = false := by
  intro now c hopen
  obtain ⟨hdone, hstate⟩ := print_of_open hopen now pieces
  rw [hdone, hstate]
  exact ⟨rfl, hopen⟩

end OutputStream

end Metronome
