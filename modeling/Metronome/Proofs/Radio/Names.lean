import Metronome.Proofs.Text.Fitting
import Metronome.Radio.AccessPoint

/-!
# The stored names of networks

A name is stored up to the first character that ends past the 32nd byte. Since a character takes at
most four bytes, no more than three of the 32 are left over when a name is cut.
-/

namespace Metronome

theorem fittingSsid_of_le {name : String} (h : name.utf8ByteSize ≤ maxSsidBytes) :
    fittingSsid name = name := by
  rw [← byteCount_toList] at h
  rw [fittingSsid, fitting_of_byteCount_le h, String.ofList_toList]

theorem longestFit_fittingSsid (name : String) :
    LongestFit maxSsidBytes name (fittingSsid name) := longestFit_fitting maxSsidBytes name

/-- A name is kept as it is exactly when it fits. -/
theorem fittingSsid_eq_self_iff {name : String} :
    fittingSsid name = name ↔ name.utf8ByteSize ≤ maxSsidBytes := by
  refine ⟨fun h => ?_, fittingSsid_of_le⟩
  rw [← h]
  exact (longestFit_fittingSsid name).bytes_le

/-- A stored name fits, so it is stored as it is. -/
theorem fittingSsid_fittingSsid (name : String) :
    fittingSsid (fittingSsid name) = fittingSsid name :=
  fittingSsid_of_le (longestFit_fittingSsid name).bytes_le

/-- A name that is cut was cut in front of a character that would not have fitted. -/
theorem exists_next_of_cut {name : String} (h : maxSsidBytes < name.utf8ByteSize) :
    ∃ next rest, name.toList = (fittingSsid name).toList ++ next :: rest ∧
      maxSsidBytes < (fittingSsid name).utf8ByteSize + next.utf8Size := by
  rw [← byteCount_toList] at h
  obtain ⟨next, rest, hname, hnext⟩ := exists_next_of_lt h
  refine ⟨next, rest, ?_, ?_⟩
  · rwa [fittingSsid, String.toList_ofList]
  · rwa [fittingSsid, utf8ByteSize_ofList]

/-- Whatever name a network is heard under, the longest beginning of it that takes at most 32 bytes
is stored. This is the name itself exactly when it takes no more. A longer name is stored in 29 to
32 bytes, and with the next character it would take more than 32; of the characters from the first
one on that ends past the 32nd byte none is stored, however short. A stored name is stored again as
it is, and nothing but the name is ever changed. -/
theorem heard_keeps_longest_name (name : String) (rssi : Int) (channel : Nat) (auth : AuthMode) :
    let ap := AccessPoint.heard name rssi channel auth
    (∀ kept, LongestFit 32 name kept ↔ kept = ap.ssid) ∧
    (ap.ssid = name ↔ name.utf8ByteSize ≤ 32) ∧
    (32 < name.utf8ByteSize →
      29 ≤ ap.ssid.utf8ByteSize ∧ ap.ssid.utf8ByteSize ≤ 32 ∧
      ∃ next rest, name.toList = ap.ssid.toList ++ next :: rest ∧
        32 < ap.ssid.utf8ByteSize + next.utf8Size) ∧
    (∀ before dropped after, name.toList = before ++ dropped :: after →
      32 < byteCount before + dropped.utf8Size → ap.ssid.toList <+: before) ∧
    (∀ rssi' channel' auth', (AccessPoint.heard ap.ssid rssi' channel' auth').ssid = ap.ssid) ∧
    AccessPoint.heard ap.ssid rssi channel auth = ap ∧
    ap.rssi = rssi ∧ ap.channel = channel ∧ ap.auth = auth := by
  intro ap
  have hssid : ap.ssid = fittingSsid name := rfl
  have hagain : ∀ rssi' channel' auth',
      (AccessPoint.heard ap.ssid rssi' channel' auth').ssid = ap.ssid := by
    intro _ _ _
    exact fittingSsid_fittingSsid name
  refine ⟨fun kept => longestFit_iff, fittingSsid_eq_self_iff, fun hlong => ?_, ?_, hagain, ?_, rfl,
    rfl, rfl⟩
  · obtain ⟨next, rest, hname, hnext⟩ := exists_next_of_cut hlong
    have hle := (longestFit_fittingSsid name).bytes_le
    have hfour := next.utf8Size_le_four
    have hmax : maxSsidBytes = 32 := rfl
    rw [hmax] at hnext hle
    rw [hssid]
    exact ⟨by omega, hle, next, rest, hname, hnext⟩
  · intro before dropped after hname hdropped
    rw [hssid, fittingSsid, String.toList_ofList, hname]
    exact fitting_prefix_of_lt hdropped
  · exact congrArg (AccessPoint.mk · rssi channel auth) (fittingSsid_fittingSsid name)

/-- Thirty letters, a character of three bytes and one more letter. -/
def wideName : String := String.ofList (List.replicate 30 'a' ++ ['€', 'b'])

/-- The wide character is dropped, and the letter behind it as well, though there is room for it. -/
theorem wide_name_is_cut :
    32 < wideName.utf8ByteSize ∧
    (AccessPoint.heard wideName (-40) 6 .wpa2).ssid = String.ofList (List.replicate 30 'a') ∧
    29 ≤ (AccessPoint.heard wideName (-40) 6 .wpa2).ssid.utf8ByteSize ∧
    (AccessPoint.heard wideName (-40) 6 .wpa2).ssid.toList <+: List.replicate 30 'a' := by
  have hlong : 32 < wideName.utf8ByteSize := by decide +kernel
  have hname : wideName.toList = List.replicate 30 'a' ++ '€' :: ['b'] := by decide +kernel
  obtain ⟨-, -, hcut, hdropped, -⟩ := heard_keeps_longest_name wideName (-40) 6 .wpa2
  exact ⟨hlong, by decide +kernel, (hcut hlong).1, hdropped _ _ _ hname (by decide +kernel)⟩

end Metronome
