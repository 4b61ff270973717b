import Metronome.Radio.AccessPoint

/-!
# Scan results

A buffer of at most 32 access points that keeps the strongest of those pushed into it.
-/

namespace Metronome

/-- The result buffer of a scan. -/
structure ScanResults where
  entries : List AccessPoint
  /-- There is room for so many entries only. -/
  length_le : entries.length ≤ maxAccessPoints
deriving DecidableEq

namespace ScanResults

/-- The buffer before a scan. -/
def empty : ScanResults := ⟨[], Nat.zero_le _⟩

/-- The number of entries. -/
def size (r : ScanResults) : Nat := r.entries.length

/-- The place of the first entry that no other is weaker than. -/
def weakest? (entries : List AccessPoint) : Option Nat :=
  (entries.map AccessPoint.rssi).min?.bind fun least => entries.findIdx? (·.rssi = least)

/-- The entries with the weakest one replaced by a stronger newcomer. -/
def replaceWeakest (entries : List AccessPoint) (ap : AccessPoint) : List AccessPoint :=
  match weakest? entries with
  | none => entries
  | some i =>
    match entries[i]? with
    | none => entries
    | some weakest => if weakest.rssi < ap.rssi then entries.set i ap else entries

@[simp]
theorem length_replaceWeakest (entries : List AccessPoint) (ap : AccessPoint) :
    (replaceWeakest entries ap).length = entries.length := by
  unfold replaceWeakest
  grind

/-- Adds an entry. When the buffer is full, the weaker of its weakest entry and the newcomer is
discarded. Answers whether nothing had to be discarded. -/
def pushStrongest (r : ScanResults) (ap : AccessPoint) : ScanResults × Bool :=
  if h : r.entries.length < maxAccessPoints then
    (⟨r.entries ++ [ap], by simpa [Nat.succ_le_iff] using h⟩, true)
  else
    (⟨replaceWeakest r.entries ap, by simpa using r.length_le⟩, false)

/-- Adds some entries one after the other and counts those discarded. -/
def pushAll (r : ScanResults) : List AccessPoint → ScanResults × Nat
  | [] => (r, 0)
  | ap :: aps =>
    let pushed := r.pushStrongest ap
    let rest := pushAll pushed.1 aps
    (rest.1, rest.2 + if pushed.2 then 0 else 1)

/-- The last entry and the buffer without it. -/
def pop (r : ScanResults) : Option AccessPoint × ScanResults :=
  (r.entries.getLast?, ⟨r.entries.dropLast, by
    have := r.length_le
    simp only [List.length_dropLast]
    omega⟩)

/-- Changes the signal strength of the entry at a place. -/
def setRssi (r : ScanResults) (i : Nat) (rssi : Int) : ScanResults :=
  ⟨r.entries.modify i fun ap => { ap with rssi }, by simpa using r.length_le⟩

/-! ## Operations as data -/

/-- One operation on a buffer. -/
inductive Edit where
  | push (ap : AccessPoint)
  | clear
  | pop
  | setRssi (i : Nat) (rssi : Int)
deriving DecidableEq

/-- What an operation answers. -/
inductive EditAnswer where
  | done
  /-- Whether nothing had to be discarded. -/
  | pushed (kept : Bool)
  | popped (last : Option AccessPoint)
deriving DecidableEq

/-- Does an operation. -/
def edit (r : ScanResults) : Edit → ScanResults × EditAnswer
  | .push ap => ((r.pushStrongest ap).1, .pushed (r.pushStrongest ap).2)
  | .clear => (.empty, .done)
  | .pop => (r.pop.2, .popped r.pop.1)
  | .setRssi i rssi => (r.setRssi i rssi, .done)

end ScanResults

end Metronome
