import Metronome.Radio.Ranking

/-!
# The strongest of all that were seen

A buffer that access points are pushed into holds the strongest of all that were ever in it or
pushed: as many as fit, none of them changed, and none weaker than one that was left out.
`KeepsStrongest` is that invariant. It fixes the signals in the buffer, though not the access
points, since of several with the weakest signal any may stay.

* `replaceWeakest_cases`: all that the replacement in a full buffer can come to.
* `KeepsStrongest.pushStrongest` and `KeepsStrongest.pushAll`: pushing keeps the invariant.
* `KeepsStrongest.perm_signals`: the order of the pushes does not show in the signals.
-/

namespace Metronome

/-- The access points `kept` are the strongest of those `seen`, as many as fit. -/
structure KeepsStrongest (seen kept : List AccessPoint) : Prop where
  /-- As many are kept as fit. -/
  length_eq : kept.length = min maxAccessPoints seen.length
  /-- The others are left out, and none of these is stronger than one that is kept. -/
  exists_leftOut : ∃ leftOut, (kept ++ leftOut).Perm seen ∧
    ∀ out ∈ leftOut, ∀ ap ∈ kept, out.rssi ≤ ap.rssi

namespace ScanResults

/-! ## The weakest entry -/

theorem weakest?_eq_some {entries : List AccessPoint} {i : Nat} (h : weakest? entries = some i) :
    ∃ weakest, entries[i]? = some weakest ∧ ∀ ap ∈ entries, weakest.rssi ≤ ap.rssi := by
  obtain ⟨least, hleast, hfind⟩ := Option.bind_eq_some_iff.mp h
  obtain ⟨-, hle⟩ := List.min?_eq_some_iff.mp hleast
  obtain ⟨hi, hat, -⟩ := List.findIdx?_eq_some_iff_getElem.mp hfind
  refine ⟨entries[i], List.getElem?_eq_getElem hi, ?_⟩
  intro ap hap
  rw [of_decide_eq_true hat]
  exact hle ap.rssi (List.mem_map_of_mem hap)

/-- Only an empty buffer has no weakest entry. -/
theorem weakest?_eq_none {entries : List AccessPoint} (h : weakest? entries = none) :
    entries = [] := by
  have hfound := Option.bind_eq_none_iff.mp h
  cases hmin : (entries.map AccessPoint.rssi).min? with
  | none => exact List.map_eq_nil_iff.mp (List.min?_eq_none_iff.mp hmin)
  | some least =>
    obtain ⟨hmem, -⟩ := List.min?_eq_some_iff.mp hmin
    obtain ⟨ap, hap, hrssi⟩ := List.mem_map.mp hmem
    have hnot := List.findIdx?_eq_none_iff.mp (hfound least hmin) ap hap
    exact absurd hrssi (of_decide_eq_false hnot)

/-- In a buffer that is not empty, a newcomer takes the place of a weakest entry that is weaker
than it, or is no stronger than any entry and changes nothing. -/
theorem replaceWeakest_cases {entries : List AccessPoint} (hne : entries ≠ []) (ap : AccessPoint) :
    (∃ before weakest after, entries = before ++ weakest :: after ∧
      replaceWeakest entries ap = before ++ ap :: after ∧ weakest.rssi < ap.rssi ∧
      ∀ kept ∈ entries, weakest.rssi ≤ kept.rssi) ∨
    (replaceWeakest entries ap = entries ∧ ∀ kept ∈ entries, ap.rssi ≤ kept.rssi) := by
  cases hweakest : weakest? entries with
  | none => exact absurd (weakest?_eq_none hweakest) hne
  | some i =>
    obtain ⟨weakest, hat, hle⟩ := weakest?_eq_some hweakest
    have hreplace : replaceWeakest entries ap =
        if weakest.rssi < ap.rssi then entries.set i ap else entries := by
      simp only [replaceWeakest, hweakest, hat]
    by_cases hlt : weakest.rssi < ap.rssi
    · left
      obtain ⟨hi, rfl⟩ := List.getElem?_eq_some_iff.mp hat
      obtain ⟨before, after, hentries, -, hset⟩ : ∃ before after,
          entries = before ++ entries[i] :: after ∧ before.length = i ∧
            entries.set i ap = before ++ ap :: after := List.exists_of_set hi
      refine ⟨before, entries[i], after, hentries, ?_, hlt, hle⟩
      rw [hreplace, if_pos hlt, hset]
    · right
      refine ⟨by rw [hreplace, if_neg hlt], fun kept hkept => ?_⟩
      have := hle kept hkept
      omega

end ScanResults

namespace KeepsStrongest

open ScanResults

variable {seen kept : List AccessPoint}

/-! ## Pushing -/

/-- A buffer holds the strongest of its own entries. -/
theorem refl (r : ScanResults) : KeepsStrongest r.entries r.entries where
  length_eq := (Nat.min_eq_right r.length_le).symm
  exists_leftOut := ⟨[], by rw [List.append_nil], nofun⟩

/-- While there is room, nothing has been left out, and the newcomer is kept as well. -/
theorem append_of_fits (h : KeepsStrongest seen kept) (hfits : kept.length < maxAccessPoints)
    (ap : AccessPoint) : KeepsStrongest (seen ++ [ap]) (kept ++ [ap]) := by
  obtain ⟨leftOut, hperm, hweaker⟩ := h.exists_leftOut
  have hnone : leftOut = [] := by
    have hkept := h.length_eq
    have hall := hperm.length_eq
    rw [List.length_append] at hall
    exact List.length_eq_zero_iff.mp (by omega)
  subst hnone
  rw [List.append_nil] at hperm
  refine ⟨?_, [], ?_, nofun⟩
  · have hall := hperm.length_eq
    simp only [List.length_append, List.length_singleton]
    omega
  · rw [List.append_nil]
    exact hperm.append_right [ap]

/-- When the buffer is full, the newcomer takes the place of the weakest entry if it is stronger,
and what was left out before is no stronger than that entry. -/
theorem replaceWeakest_of_full (h : KeepsStrongest seen kept)
    (hfull : maxAccessPoints ≤ kept.length) (ap : AccessPoint) :
    KeepsStrongest (seen ++ [ap]) (replaceWeakest kept ap) := by
  obtain ⟨leftOut, hperm, hweaker⟩ := h.exists_leftOut
  have hlength := h.length_eq
  have hne : kept ≠ [] := by
    have hroom : 0 < maxAccessPoints := by decide
    exact List.ne_nil_of_length_pos (by omega)
  constructor
  · simp only [length_replaceWeakest, List.length_append, List.length_singleton]
    omega
  · rcases replaceWeakest_cases hne ap with
      ⟨before, weakest, after, hkept, hnew, hlt, hle⟩ | ⟨hsame, hle⟩
    · refine ⟨weakest :: leftOut, ?_, ?_⟩
      · rw [hkept] at hperm
        rw [hnew]
        calc before ++ ap :: after ++ weakest :: leftOut
            _ |>.Perm (ap :: (before ++ after) ++ weakest :: leftOut) :=
              List.perm_middle.append_right _
            _ |>.Perm (weakest :: (ap :: (before ++ after) ++ leftOut)) := List.perm_middle
            _ |>.Perm (ap :: weakest :: (before ++ after ++ leftOut)) := List.Perm.swap ..
            _ |>.Perm (ap :: seen) :=
              ((List.perm_middle.symm.append_right leftOut).trans hperm).cons ap
            _ |>.Perm (seen ++ [ap]) := (List.perm_append_singleton ap seen).symm
      · have hmem : weakest ∈ kept := by
          rw [hkept]
          exact List.mem_append_right before (List.mem_cons_self ..)
        have hnewer : ∀ entry ∈ replaceWeakest kept ap, weakest.rssi ≤ entry.rssi := by
          intro entry hentry
          rw [hnew] at hentry
          rcases List.mem_append.mp hentry with hin | hin
          · exact hle entry (by rw [hkept]; exact List.mem_append_left _ hin)
          · rcases List.mem_cons.mp hin with rfl | hin
            · exact Int.le_of_lt hlt
            · exact hle entry (by
                rw [hkept]; exact List.mem_append_right _ (List.mem_cons_of_mem _ hin))
        intro out hout entry hentry
        rcases List.mem_cons.mp hout with rfl | hout
        · exact hnewer entry hentry
        · exact Int.le_trans (hweaker out hout weakest hmem) (hnewer entry hentry)
    · refine ⟨ap :: leftOut, ?_, ?_⟩
      · rw [hsame]
        exact (List.perm_middle.trans (hperm.cons ap)).trans
          (List.perm_append_singleton ap seen).symm
      · rw [hsame]
        intro out hout entry hentry
        rcases List.mem_cons.mp hout with rfl | hout
        · exact hle entry hentry
        · exact hweaker out hout entry hentry

/-- One push keeps the strongest of all seen before and the newcomer. -/
theorem pushStrongest {r : ScanResults} (h : KeepsStrongest seen r.entries) (ap : AccessPoint) :
    KeepsStrongest (seen ++ [ap]) (r.pushStrongest ap).1.entries := by
  by_cases hfits : r.entries.length < maxAccessPoints
  · rw [ScanResults.pushStrongest, dif_pos hfits]
    exact h.append_of_fits hfits ap
  · rw [ScanResults.pushStrongest, dif_neg hfits]
    exact h.replaceWeakest_of_full (Nat.le_of_not_lt hfits) ap

theorem pushAll {r : ScanResults} (h : KeepsStrongest seen r.entries) (aps : List AccessPoint) :
    KeepsStrongest (seen ++ aps) (r.pushAll aps).1.entries := by
  induction aps generalizing r seen with
  | nil => rwa [List.append_nil]
  | cons ap aps ih =>
    have hrest := ih (h.pushStrongest ap)
    rwa [List.append_assoc] at hrest

/-! ## What the invariant fixes -/

/-- The strongest stay the strongest in any order. -/
theorem perm {kept' : List AccessPoint} (h : KeepsStrongest seen kept) (hperm : kept'.Perm kept) :
    KeepsStrongest seen kept' := by
  obtain ⟨leftOut, hall, hweaker⟩ := h.exists_leftOut
  refine ⟨hperm.length_eq.trans h.length_eq, leftOut, (hperm.append_right leftOut).trans hall, ?_⟩
  intro out hout ap hap
  exact hweaker out hout ap (hperm.mem_iff.mp hap)

/-- All that was seen can be ranked with what is kept in front. -/
theorem exists_ranked (h : KeepsStrongest seen kept) :
    ∃ strong weak : List AccessPoint, strong.Perm kept ∧ (strong ++ weak).Perm seen ∧
      (strong ++ weak).Pairwise fun a b => b.rssi ≤ a.rssi := by
  obtain ⟨leftOut, hperm, hweaker⟩ := h.exists_leftOut
  let rank := Ranking.stable
  refine ⟨rank.order kept, rank.order leftOut, rank.perm kept, ?_, ?_⟩
  · exact ((rank.perm kept).append (rank.perm leftOut)).trans hperm
  · refine List.pairwise_append.mpr ⟨rank.sorted kept, rank.sorted leftOut, ?_⟩
    intro ap hap out hout
    exact hweaker out ((rank.perm leftOut).mem_iff.mp hout) ap ((rank.perm kept).mem_iff.mp hap)

/-- Whatever is kept of the same access points, its signals are the same: all the signals have one
order only, and as many of them are kept in both. -/
theorem perm_signals {seen' kept' : List AccessPoint} (h : KeepsStrongest seen kept)
    (h' : KeepsStrongest seen' kept') (hseen : seen.Perm seen') :
    (kept.map AccessPoint.rssi).Perm (kept'.map AccessPoint.rssi) := by
  obtain ⟨strong, weak, hkept, hall, hranked⟩ := h.exists_ranked
  obtain ⟨strong', weak', hkept', hall', hranked'⟩ := h'.exists_ranked
  have heq : (strong ++ weak).map AccessPoint.rssi = (strong' ++ weak').map AccessPoint.rssi := by
    have hperm := ((hall.trans hseen).trans hall'.symm).map AccessPoint.rssi
    have hsorted : ((strong ++ weak).map AccessPoint.rssi).Pairwise (· ≥ ·) :=
      List.pairwise_map.mpr hranked
    have hsorted' : ((strong' ++ weak').map AccessPoint.rssi).Pairwise (· ≥ ·) :=
      List.pairwise_map.mpr hranked'
    exact hperm.eq_of_pairwise (fun a b _ _ hab hba => Int.le_antisymm hba hab) hsorted hsorted'
  have hlength : (strong.map AccessPoint.rssi).length = (strong'.map AccessPoint.rssi).length := by
    rw [List.length_map, List.length_map, hkept.length_eq, hkept'.length_eq, h.length_eq,
      h'.length_eq, hseen.length_eq]
  rw [List.map_append, List.map_append] at heq
  have hsame := (List.append_inj heq hlength).1
  calc (kept.map AccessPoint.rssi)
      _ |>.Perm (strong.map AccessPoint.rssi) := (hkept.map _).symm
      _ |>.Perm (strong'.map AccessPoint.rssi) := List.Perm.of_eq hsame
      _ |>.Perm (kept'.map AccessPoint.rssi) := hkept'.map _

end KeepsStrongest

namespace ScanResults

/-! ## Counting the discarded -/

/-- One push keeps one more entry or discards one. -/
theorem size_pushStrongest (r : ScanResults) (ap : AccessPoint) :
    (r.pushStrongest ap).1.size + (if (r.pushStrongest ap).2 then 0 else 1) = r.size + 1 := by
  by_cases hfits : r.entries.length < maxAccessPoints
  · rw [pushStrongest, dif_pos hfits]
    simp only [size, List.length_append, List.length_singleton, if_true]
  · rw [pushStrongest, dif_neg hfits]
    simp only [size, length_replaceWeakest]
    rfl

/-- Of all entries and newcomers, those that are not kept are counted as discarded. -/
theorem size_pushAll (r : ScanResults) (aps : List AccessPoint) :
    (r.pushAll aps).1.size + (r.pushAll aps).2 = r.size + aps.length := by
  induction aps generalizing r with
  | nil => rfl
  | cons ap aps ih =>
    have hfirst := r.size_pushStrongest ap
    have hrest := ih (r.pushStrongest ap).1
    simp only [pushAll, List.length_cons]
    omega

/-- Into a buffer with any entries, any access points are pushed one after the other. As many are
stored then as fit, and as many have been discarded as are missing. Those stored are some of the
entries and newcomers, each as it was and as often as it was there; none of the others, discarded at
once or replaced later, is stronger than one that is stored. And in whatever order the same access
points are pushed, the signals stored are the same. -/
theorem pushAll_keeps_strongest (r : ScanResults) (aps : List AccessPoint) :
    let final := (r.pushAll aps).1
    let discarded := (r.pushAll aps).2
    final.size = min maxAccessPoints (r.size + aps.length) ∧
    final.size + discarded = r.size + aps.length ∧
    (∃ leftOut, (final.entries ++ leftOut).Perm (r.entries ++ aps) ∧
      ∀ out ∈ leftOut, ∀ ap ∈ final.entries, out.rssi ≤ ap.rssi) ∧
    (∀ shuffled, shuffled.Perm aps →
      ((r.pushAll shuffled).1.entries.map AccessPoint.rssi).Perm
        (final.entries.map AccessPoint.rssi)) := by
  intro final discarded
  have hkeeps : KeepsStrongest (r.entries ++ aps) final.entries :=
    (KeepsStrongest.refl r).pushAll aps
  refine ⟨?_, r.size_pushAll aps, hkeeps.exists_leftOut, ?_⟩
  · have hlength := hkeeps.length_eq
    rwa [List.length_append] at hlength
  · intro shuffled hshuffled
    have hother := (KeepsStrongest.refl r).pushAll shuffled
    exact hother.perm_signals hkeeps (hshuffled.append_left r.entries)

end ScanResults

end Metronome
