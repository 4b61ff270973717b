import Metronome.Console.Bounded
import Metronome.Proofs.Text.Fitting
import Metronome.Simulator.Run

/-!
# Consoles with a budget

A console that takes a limited number of bytes in all takes of the pieces of a text what it would
take of the whole text: the longest beginning that fits, however the text is cut into pieces
(`BoundedConsole.print_stopsAt`). The first piece that does not fit is the last one that anything is
taken of.
-/

namespace Metronome

/-- The text that the consoles of a trace took. -/
def Trace.printed (trace : Trace) : String := String.join (trace.map Event.outText)

theorem Trace.printed_append (first second : Trace) :
    Trace.printed (first ++ second) = first.printed ++ second.printed := by
  rw [Trace.printed, List.map_append, String.join_append]
  rfl

theorem Trace.printed_cons (event : Event) (trace : Trace) :
    Trace.printed (event :: trace) = event.outText ++ trace.printed := String.join_cons

theorem Trace.printed_of_prefix {first second : Trace} (h : first <+: second) :
    ∃ rest, second.printed = first.printed ++ rest := by
  obtain ⟨more, rfl⟩ := h
  exact ⟨Trace.printed more, printed_append ..⟩

theorem Trace.printed_delays (calls : List DelayCall) :
    Trace.printed (calls.map .delay) = "" := by
  induction calls with
  | nil => rfl
  | cons call calls ih =>
    rw [List.map_cons, printed_cons, ih]
    rfl

/-! ## Printing -/

/-- What printing a text came to: how it ended, and the text that the console took. -/
structure Printing where
  outcome : Outcome DriverError Unit
  text : String
deriving DecidableEq

/-- What an action on a console prints. -/
def Printing.of {κ : Type} (x : Act κ DriverError Unit) (now : Nat) (console : κ) : Printing :=
  ⟨(x now console).outcome, (x now console).trace.printed⟩

/-- A text was printed as far as some bytes go: all of it, or else the longest beginning that they
are enough for, and then it is the console that failed. -/
structure Printing.StopsAt (budget : Nat) (text : String) (p : Printing) : Prop where
  done_iff : p.outcome = .done () ↔ text.utf8ByteSize ≤ budget
  whole : p.outcome = .done () → p.text = text
  failed : p.outcome ≠ .done () → p.outcome = .failed .console
  longest : LongestFit budget text p.text

namespace BoundedConsole

variable (now : Nat) (c : BoundedConsole)

/-! ## Single texts -/

/-- A write takes what fits and ends well when that is everything. -/
theorem write_apply (text : String) :
    Console.write text now c =
      ⟨if c.accepted text = text then .done () else .failed .refused,
        { c with taken := c.taken + (c.accepted text).utf8ByteSize },
        if c.accepted text = "" then [] else [.console (c.accepted text)]⟩ := by
  show write text now c = _
  simp only [write, Act.bind_apply, Act.get, List.nil_append]
  generalize c.accepted text = taken
  by_cases hnone : taken = ""
  · have htaken : ¬ taken ≠ "" := fun h => h hnone
    rw [if_neg htaken, if_pos hnone]
    by_cases hall : taken = text
    · have hrest : ¬ taken ≠ text := fun h => h hall
      rw [if_neg hrest, if_pos hall]
      rfl
    · rw [if_pos hall, if_neg hall]
      rfl
  · rw [if_pos hnone, if_neg hnone]
    by_cases hall : taken = text
    · have hrest : ¬ taken ≠ text := fun h => h hall
      rw [if_neg hrest, if_pos hall]
      rfl
    · rw [if_pos hall, if_neg hall]
      rfl

theorem printed_write (text : String) :
    (Console.write text now c).trace.printed = c.accepted text := by
  rw [write_apply]
  by_cases hnone : c.accepted text = ""
  · rw [if_pos hnone, hnone]
    rfl
  · rw [if_neg hnone]
    simp [Trace.printed, Event.outText]

/-- A text is taken whole exactly when there is room for it. -/
theorem accepted_eq_iff {limit : Nat} (h : c.limit = some limit) (text : String) :
    c.accepted text = text ↔ text.utf8ByteSize ≤ limit - c.taken := by
  rw [accepted, h, ← byteCount_toList text, ← fitting_eq_self_iff, ← String.toList_inj,
    String.toList_ofList]

/-! ## Pieces -/

section Pieces

variable {piece : String} (pieces : List String)

/-- Behind a piece that is taken, what follows gets the room that is left. -/
theorem writeAll_cons_of_taken (h : c.accepted piece = piece) :
    let e := Console.writeAll (piece :: pieces) now c
    let rest := Console.writeAll pieces now { c with taken := c.taken + piece.utf8ByteSize }
    e.outcome = rest.outcome ∧ e.trace.printed = piece ++ rest.trace.printed := by
  intro e rest
  have hprinted := printed_write now c piece
  have hfirst : (Console.write piece now c).outcome = .done () := by
    rw [write_apply, h]
    exact if_pos rfl
  have hstate : (Console.write piece now c).state =
      { c with taken := c.taken + piece.utf8ByteSize } := by
    rw [write_apply, h]
  have he : e = ⟨rest.outcome, rest.state, (Console.write piece now c).trace ++ rest.trace⟩ := by
    show Console.writeAll (piece :: pieces) now c = _
    rw [Console.writeAll, Act.bind_apply, hfirst, hstate]
  rw [he, Trace.printed_append, hprinted, h]
  exact ⟨rfl, rfl⟩

/-- Nothing behind a piece that is cut counts. -/
theorem writeAll_cons_of_cut (h : c.accepted piece ≠ piece) :
    let e := Console.writeAll (piece :: pieces) now c
    e.outcome = .failed .refused ∧ e.trace.printed = c.accepted piece := by
  intro e
  have hfirst : (Console.write piece now c).outcome = .failed .refused := by
    rw [write_apply]
    exact if_neg h
  have he : e = ⟨.failed .refused, (Console.write piece now c).state,
      (Console.write piece now c).trace⟩ := by
    show Console.writeAll (piece :: pieces) now c = _
    rw [Console.writeAll, Act.bind_apply, hfirst]
  rw [he]
  exact ⟨rfl, printed_write now c piece⟩

/-- A console without a limit takes all pieces. -/
theorem writeAll_unlimited (h : c.limit = none) :
    let e := Console.writeAll pieces now c
    e.outcome = .done () ∧ e.trace.printed = String.join pieces := by
  intro e
  induction pieces generalizing c with
  | nil => exact ⟨rfl, rfl⟩
  | cons piece pieces ih =>
    have htaken : c.accepted piece = piece := by rw [accepted, h]
    obtain ⟨houtcome, hprinted⟩ := writeAll_cons_of_taken now c pieces htaken
    obtain ⟨hend, htail⟩ := ih { c with taken := c.taken + piece.utf8ByteSize } h
    exact ⟨houtcome.trans hend, by rw [hprinted, htail, String.join_cons]⟩

/-- A console that still takes some bytes takes of some pieces what fits of the whole. By induction
on the pieces over all consoles, since each piece that is taken leaves less room. -/
theorem writeAll_limited {limit : Nat} (h : c.limit = some limit) :
    let e := Console.writeAll pieces now c
    let whole := String.join pieces
    let room := limit - c.taken
    e.outcome = (if whole.utf8ByteSize ≤ room then .done () else .failed .refused) ∧
      e.trace.printed = String.ofList (fitting room whole.toList) := by
  intro e whole room
  induction pieces generalizing c with
  | nil => exact ⟨(if_pos (Nat.zero_le room)).symm, rfl⟩
  | cons piece pieces ih =>
    let rest := String.join pieces
    have hwhole : whole = piece ++ rest := String.join_cons
    have hbytes : whole.utf8ByteSize = piece.utf8ByteSize + rest.utf8ByteSize := by
      rw [hwhole, String.utf8ByteSize_append]
    by_cases hfits : piece.utf8ByteSize ≤ room
    · obtain ⟨houtcome, hprinted⟩ :=
        writeAll_cons_of_taken now c pieces ((c.accepted_eq_iff h piece).mpr hfits)
      let after : BoundedConsole := { c with taken := c.taken + piece.utf8ByteSize }
      obtain ⟨hend, htail⟩ := ih after h
      have hroom : limit - after.taken = room - piece.utf8ByteSize := Nat.sub_add_eq ..
      have hpiece : byteCount piece.toList ≤ room := by rwa [byteCount_toList]
      have hiff : rest.utf8ByteSize ≤ limit - after.taken ↔ whole.utf8ByteSize ≤ room := by
        omega
      constructor
      · rw [houtcome, hend]
        exact ite_congr (propext hiff) (fun _ => rfl) fun _ => rfl
      · rw [hprinted, htail, hroom, hwhole, String.toList_append, fitting_append_of_le hpiece,
          byteCount_toList, String.ofList_append, String.ofList_toList]
    · obtain ⟨houtcome, hprinted⟩ :=
        writeAll_cons_of_cut now c pieces (mt (c.accepted_eq_iff h piece).mp hfits)
      have hpiece : room < byteCount piece.toList := by
        rw [byteCount_toList]
        omega
      have hwide : ¬ whole.utf8ByteSize ≤ room := by omega
      constructor
      · rw [houtcome, if_neg hwide]
      · rw [hprinted, hwhole, String.toList_append, fitting_append_of_lt hpiece, accepted, h]

/-! ## Budgets -/

theorem printing_print :
    Printing.of (Console.print pieces) now c =
      ⟨(Console.writeAll pieces now c).outcome.mapError fun _ => .console,
        (Console.writeAll pieces now c).trace.printed⟩ := by
  rw [Printing.of, Console.print, Act.mapError_apply]

/-- A console without a limit prints the whole text. -/
theorem printing_of_unlimited (h : c.limit = none) :
    Printing.of (Console.print pieces) now c = ⟨.done (), String.join pieces⟩ := by
  obtain ⟨houtcome, hprinted⟩ := writeAll_unlimited now c pieces h
  rw [printing_print, houtcome, hprinted]
  rfl

/-- A console that still takes some bytes prints as far as they go. -/
theorem print_stopsAt {budget : Nat} (h : c.limit = some (c.taken + budget)) :
    (Printing.of (Console.print pieces) now c).StopsAt budget (String.join pieces) := by
  obtain ⟨houtcome, hprinted⟩ := writeAll_limited now c pieces h
  rw [Nat.add_sub_cancel_left] at houtcome hprinted
  rw [printing_print, houtcome, hprinted]
  have hlongest := longestFit_fitting budget (String.join pieces)
  by_cases hfits : (String.join pieces).utf8ByteSize ≤ budget
  · have hbytes : byteCount (String.join pieces).toList ≤ budget := by rwa [byteCount_toList]
    have hwhole : String.ofList (fitting budget (String.join pieces).toList) =
        String.join pieces := by
      rw [fitting_of_byteCount_le hbytes, String.ofList_toList]
    rw [if_pos hfits]
    exact ⟨iff_of_true rfl hfits, fun _ => hwhole, fun h => absurd rfl h, hlongest⟩
  · rw [if_neg hfits]
    exact ⟨iff_of_false nofun hfits, nofun, fun _ => rfl, hlongest⟩

end Pieces

end BoundedConsole

end Metronome
