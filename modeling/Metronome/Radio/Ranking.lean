import Metronome.Radio.ScanResults

/-!
# Rankings

An order of access points in which none comes before a stronger one. Entries of one strength may
come in any order, so there are many rankings; the stable one leaves them as they were found.
-/

namespace Metronome

/-- A way to put access points in order, the strongest first. -/
structure Ranking where
  order : List AccessPoint → List AccessPoint
  /-- Nothing is added and nothing is lost. -/
  perm : ∀ aps, (order aps).Perm aps
  /-- No entry is stronger than one before it. -/
  sorted : ∀ aps, (order aps).Pairwise fun a b => b.rssi ≤ a.rssi

/-- The ranking that keeps entries of one strength in their order. -/
def Ranking.stable : Ranking where
  order aps := aps.mergeSort fun a b => b.rssi ≤ a.rssi
  perm aps := List.mergeSort_perm aps _
  sorted aps := by
    refine List.Pairwise.imp (fun h => of_decide_eq_true h) (List.pairwise_mergeSort ?_ ?_ aps)
    · intro a b c hab hbc
      simp only [decide_eq_true_eq] at hab hbc ⊢
      omega
    · intro a b
      simp only [Bool.or_eq_true, decide_eq_true_eq]
      omega

/-- The buffer in the order of a ranking. -/
def ScanResults.ranked (ranking : Ranking) (r : ScanResults) : ScanResults :=
  ⟨ranking.order r.entries, by rw [(ranking.perm r.entries).length_eq]; exact r.length_le⟩

/-- A ranking leaves as many entries as there were. -/
theorem ScanResults.size_ranked (ranking : Ranking) (r : ScanResults) :
    (r.ranked ranking).size = r.size := (ranking.perm r.entries).length_eq

end Metronome
