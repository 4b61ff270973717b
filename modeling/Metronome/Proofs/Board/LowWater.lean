import Mathlib.Data.List.Range
import Mathlib.Data.List.ReduceOption
import Mathlib.Order.MinMax
import Metronome.Board.Chip

/-!
# Low-water marks and the chip's lowest free memory

A mark answers with the lowest of its first value and the readings so far (`low_after`,
`answers_eq`). The chip reports its lowest free memory through such a mark, from the reading that
the board is made with on, whatever else is asked of it in between (`ChipBoard.lowReports_eq`).
-/

namespace Metronome

/-- The lowest of a number and some others. -/
def lowestOf (first : Nat) (others : List Nat) : Nat :=
  (first :: others).min (List.cons_ne_nil first others)

theorem lowestOf_eq_iff {first n : Nat} {others : List Nat} :
    lowestOf first others = n ↔ n ∈ first :: others ∧ ∀ m ∈ first :: others, n ≤ m :=
  List.min_eq_iff _

theorem lowestOf_perm {others others' : List Nat} (h : others.Perm others') (first : Nat) :
    lowestOf first others = lowestOf first others' := by
  have hmem (m : Nat) : m ∈ first :: others ↔ m ∈ first :: others' := (h.cons first).mem_iff
  rw [lowestOf_eq_iff]
  simp only [hmem]
  exact lowestOf_eq_iff.mp rfl

theorem lowestOf_cons (first next : Nat) (others : List Nat) :
    lowestOf first (next :: others) = lowestOf (min first next) others := rfl

namespace LowWaterMark

/-- The mark behind some uses. -/
def after (mark : LowWaterMark) (uses : List Use) : LowWaterMark := uses.foldl use mark

/-- The readings among some uses. -/
def readings (uses : List Use) : List Nat := uses.reduceOption

theorem readings_map_some (values : List Nat) : readings (values.map some) = values := by
  rw [readings, List.reduceOption, List.filterMap_map]
  exact List.filterMap_some

variable (mark : LowWaterMark)

/-- The mark is the lowest of what it was and of all readings since. -/
theorem low_after (uses : List Use) :
    (mark.after uses).low = lowestOf mark.low (readings uses) := by
  induction uses generalizing mark with
  | nil => rfl
  | cons u uses ih =>
    show ((mark.use u).after uses).low = _
    rw [ih]
    cases u with
    | none =>
      rw [readings, readings, List.reduceOption_cons_of_none]
      rfl
    | some reading =>
      rw [readings, readings, List.reduceOption_cons_of_some, lowestOf_cons]
      rfl

/-- An answer is the value of the mark that the use leaves. -/
theorem answers_eq_map_after (uses : List Use) :
    mark.answers uses =
      (List.range uses.length).map fun i => (mark.after (uses.take (i + 1))).low := by
  induction uses generalizing mark with
  | nil => rfl
  | cons u uses ih =>
    rw [answers, ih, List.length_cons, List.range_succ_eq_map, List.map_cons, List.map_map]
    rfl

/-- Each answer is the lowest of what the mark was and of the readings up to then. -/
theorem answers_eq (uses : List Use) :
    mark.answers uses =
      (List.range uses.length).map fun i => lowestOf mark.low (readings (uses.take (i + 1))) := by
  rw [answers_eq_map_after]
  exact List.map_congr_left fun i _ => mark.low_after _

theorem low_use_le (u : Use) : (mark.use u).low ≤ mark.low := by
  cases u with
  | none => exact Nat.le_refl _
  | some reading => exact Nat.min_le_left ..

theorem le_low_of_mem_answers {uses : List Use} {answer : Nat} (h : answer ∈ mark.answers uses) :
    answer ≤ mark.low := by
  induction uses generalizing mark with
  | nil => cases h
  | cons u uses ih =>
    have hle := mark.low_use_le u
    rcases List.mem_cons.mp h with rfl | h
    · exact hle
    · exact (ih _ h).trans hle

theorem pairwise_answers (uses : List Use) : (mark.answers uses).Pairwise (· ≥ ·) := by
  induction uses generalizing mark with
  | nil => exact .nil
  | cons u uses ih => exact .cons (fun _ => le_low_of_mem_answers _) (ih _)

end LowWaterMark

/-! ## Reports of the chip -/

/-- The next readings, one after the other. -/
def Readings.take : Nat → Readings → List Nat
  | 0, _ => []
  | n + 1, r => r.current :: take n r.advance

theorem Readings.length_take (n : Nat) (r : Readings) : (r.take n).length = n := by
  induction n generalizing r with
  | zero => rfl
  | succ n ih => rw [take, List.length_cons, ih]

/-- Readings that were taken first are found again among those taken later. -/
theorem Readings.take_take {m n : Nat} (h : m ≤ n) (r : Readings) :
    (r.take n).take m = r.take m := by
  induction n generalizing m r with
  | zero =>
    obtain rfl : m = 0 := by omega
    rfl
  | succ n ih =>
    cases m with
    | zero => rfl
    | succ m => rw [take, List.take_succ_cons, ih (by omega), ← take]

/-- An operation on a board at some instant. -/
structure BoardUse where
  now : Nat
  op : BoardOp
deriving DecidableEq

/-- What a use of a board comes to. -/
def BoardUse.effect {β : Type} [Board β] (use : BoardUse) (board : β) :
    Effect β Empty BoardAnswer := use.op.run use.now board

namespace ChipBoard

/-- What the reports of the lowest free memory come to among some operations. -/
def lowReports : List BoardUse → ChipBoard → List (Outcome Empty BoardAnswer)
  | [], _ => []
  | use :: uses, board =>
    let e := use.effect board
    if use.op = .minFreeHeap then e.outcome :: lowReports uses e.state else lowReports uses e.state

/-- The number of such reports. -/
def lowCount (uses : List BoardUse) : Nat := uses.countP (·.op = .minFreeHeap)

/-- The board after a report. -/
def reported (board : ChipBoard) : ChipBoard where
  heap := { board.heap with free := board.heap.free.advance }
  lowest := board.lowest.observe board.heap.free.current

/-- Nothing but a report moves the mark or takes a reading of the free memory. -/
theorem keeps_of_ne {use : BoardUse} (h : use.op ≠ .minFreeHeap) (board : ChipBoard) :
    (use.effect board).state.lowest = board.lowest ∧
      (use.effect board).state.heap.free = board.heap.free := by
  obtain ⟨now, op⟩ := use
  cases op with
  | minFreeHeap => exact absurd rfl h
  | initNvs => exact ⟨rfl, rfl⟩
  | eraseNvs => exact ⟨rfl, rfl⟩
  | freeExternal => exact ⟨rfl, rfl⟩
  | chipInfo => exact ⟨rfl, rfl⟩

theorem lowReports_cons_of_ne {use : BoardUse} (h : use.op ≠ .minFreeHeap) (uses : List BoardUse)
    (board : ChipBoard) :
    lowReports (use :: uses) board = lowReports uses (use.effect board).state := if_neg h

theorem lowReports_cons_report (now : Nat) (uses : List BoardUse) (board : ChipBoard) :
    lowReports (⟨now, .minFreeHeap⟩ :: uses) board =
      .done (.bytes board.reported.lowest.low) :: lowReports uses board.reported := rfl

/-- The reports are the answers of the board's mark to the readings that they take. -/
theorem lowReports_eq (uses : List BoardUse) (board : ChipBoard) :
    lowReports uses board =
      (board.lowest.answers ((board.heap.free.take (lowCount uses)).map some)).map
        fun low => .done (.bytes low) := by
  induction uses generalizing board with
  | nil => rfl
  | cons use uses ih =>
    by_cases h : use.op = .minFreeHeap
    · obtain ⟨now, op⟩ := use
      obtain rfl : op = .minFreeHeap := h
      have hcount : lowCount (⟨now, .minFreeHeap⟩ :: uses) = lowCount uses + 1 :=
        List.countP_cons_of_pos (by simp)
      rw [lowReports_cons_report, ih, hcount]
      rfl
    · obtain ⟨hlowest, hfree⟩ := keeps_of_ne h board
      have hcount : lowCount (use :: uses) = lowCount uses :=
        List.countP_cons_of_neg (by simpa using h)
      rw [lowReports_cons_of_ne h, ih, hlowest, hfree, hcount]

/-- Asking for the external memory is no report. -/
theorem lowCount_filter (uses : List BoardUse) :
    lowCount (uses.filter (·.op ≠ .freeExternal)) = lowCount uses := by
  unfold lowCount
  rw [List.countP_filter]
  refine List.countP_congr fun use _ => ?_
  cases use.op <;> simp

/-- The reports of a new board are lowest readings, the first of which is taken with the board. -/
theorem lowReports_create (heap : ChipHeap) (uses : List BoardUse) :
    lowReports uses (create heap) = (List.range (lowCount uses)).map fun i =>
      .done (.bytes (lowestOf heap.free.current (heap.free.advance.take (i + 1)))) := by
  rw [lowReports_eq, LowWaterMark.answers_eq, List.map_map, List.length_map, Readings.length_take]
  refine List.map_congr_left fun i hi => ?_
  have hle : i + 1 ≤ lowCount uses := List.mem_range.mp hi
  have hreadings : LowWaterMark.readings
      (((heap.free.advance.take (lowCount uses)).map some).take (i + 1)) =
        heap.free.advance.take (i + 1) := by
    rw [← List.map_take, Readings.take_take hle, LowWaterMark.readings_map_some]
  rw [Function.comp_apply, create, hreadings]

end ChipBoard

namespace LowWaterMark

/-- Each use of a mark answers the lowest of the first value and the readings so far, this one
included. So answers never rise, and where a mark ends does not depend on the order of its readings.
Each report of the chip's lowest free memory is the lowest of the reading that the board was made
with and those that the reports so far took. What the external memory reads, and whether it is read
at all, makes no difference. -/
theorem answers_lowest_so_far :
    (∀ (mark : LowWaterMark) (uses : List Use),
      mark.answers uses = ((List.range uses.length).map fun i =>
        lowestOf mark.low (readings (uses.take (i + 1)))) ∧
      (mark.answers uses).Pairwise (· ≥ ·) ∧
      ∀ others, (readings uses).Perm (readings others) → mark.after uses = mark.after others) ∧
    ∀ (heap : ChipHeap) (uses : List BoardUse),
      let reports := ChipBoard.lowReports uses (ChipBoard.create heap)
      (reports = (List.range (ChipBoard.lowCount uses)).map fun i =>
        .done (.bytes (lowestOf heap.free.current (heap.free.advance.take (i + 1))))) ∧
      (∀ external,
        ChipBoard.lowReports uses (ChipBoard.create { heap with external }) = reports) ∧
      ChipBoard.lowReports (uses.filter (·.op ≠ .freeExternal)) (ChipBoard.create heap) =
        reports := by
  refine ⟨fun mark uses => ⟨mark.answers_eq uses, mark.pairwise_answers uses,
    fun others hperm => ?_⟩, fun heap uses => ?_⟩
  · have hlow : (mark.after uses).low = (mark.after others).low := by
      rw [low_after, low_after, lowestOf_perm hperm]
    exact congrArg LowWaterMark.mk hlow
  · refine ⟨ChipBoard.lowReports_create heap uses, fun external => ?_, ?_⟩
    · rw [ChipBoard.lowReports_create, ChipBoard.lowReports_create]
    · rw [ChipBoard.lowReports_create, ChipBoard.lowReports_create, ChipBoard.lowCount_filter]

/-- A dip that is looked at only later, and a chip whose memory recovers from one. -/
theorem dips_are_kept :
    let mark : LowWaterMark := ⟨300⟩
    let uses : List Use := [some 280, none, some 310, some 150, none]
    let others : List Use := [some 150, none, some 310, some 280]
    let heap : ChipHeap := ⟨⟨100, [40, 70, 90]⟩, ⟨5, []⟩⟩
    let asked : List BoardUse := [⟨0, .minFreeHeap⟩, ⟨3, .freeExternal⟩, ⟨3, .minFreeHeap⟩]
    (readings uses).Perm (readings others) ∧ mark.after uses = mark.after others ∧
    mark.answers uses = [280, 280, 280, 150, 150] ∧
    ChipBoard.lowReports asked (ChipBoard.create heap) =
      [.done (.bytes 40), .done (.bytes 40)] := by
  intro mark uses others heap asked
  obtain ⟨hmarks, hchips⟩ := answers_lowest_so_far
  obtain ⟨hanswers, -, hperm⟩ := hmarks mark uses
  obtain ⟨hreports, -, -⟩ := hchips heap asked
  have hsame : (readings uses).Perm (readings others) := by decide
  refine ⟨hsame, hperm others hsame, ?_, ?_⟩
  · rw [hanswers]
    decide
  · rw [hreports]
    decide

end LowWaterMark

end Metronome
