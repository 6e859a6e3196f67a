import ConnectedDevice.Proofs.Text.Utf8
import ConnectedDevice.Text.Limited

/-!
A cut leaves the longest front of a text, in whole characters, that fits the limit. The places that
the search for a cut takes for boundaries are those between two characters, so that it cannot pass
by a longer front, and the front of the text ends every search.
-/

namespace ConnectedDevice.Text

/-! ## Boundaries -/

theorem continues_eq {b : UInt8} (low : b < 0xF8) : continues b = !decide b.IsUTF8FirstByte := by
  have all : ∀ n < 0xF8, continues (.ofNat n) = !decide (UInt8.ofNat n).IsUTF8FirstByte := by
    decide +kernel
  rw [← UInt8.ofNat_toNat (x := b)]
  exact all b.toNat (UInt8.lt_iff_toNat_lt.mp low)

/-- A place is found to be a boundary exactly if it is one between two characters. -/
theorem isBoundary_iff_isValid {s : String} {n : Nat} :
    isBoundary s.toUTF8.data.toList n ↔ String.Pos.Raw.IsValid s ⟨n⟩ := by
  have size : s.toUTF8.data.toList.length = s.utf8ByteSize := rfl
  rw [← String.Pos.Raw.isValid_eq_true_iff]
  by_cases front : n = 0
  · subst front
    simp [isBoundary]
  · have behind : (n == 0) = false := by simpa using front
    by_cases inside : n < s.utf8ByteSize
    · have byte : s.toUTF8.data.toList[n]? = some (s.getUTF8Byte ⟨n⟩ inside) := by
        rw [List.getElem?_eq_getElem (size ▸ inside)]
        rfl
      have low := lt_of_mem_utf8 (List.mem_of_getElem? byte)
      have place : (⟨n⟩ : String.Pos.Raw) < s.rawEndPos := inside
      simp only [isBoundary, behind, Bool.false_or, byte, continues_eq low, Bool.not_not,
        String.Pos.Raw.isValid, dif_pos place]
    · have beyond : s.toUTF8.data.toList[n]? = none :=
        List.getElem?_eq_none (size ▸ Nat.le_of_not_lt inside)
      have place : ¬(⟨n⟩ : String.Pos.Raw) < s.rawEndPos := inside
      simp only [isBoundary, behind, Bool.false_or, beyond, size, String.Pos.Raw.isValid,
        dif_neg place]
      simp [String.Pos.Raw.ext_iff]

/-- The boundaries are where a text can be taken apart into two texts. -/
theorem isBoundary_iff {s : String} {n : Nat} : isBoundary s.toUTF8.data.toList n ↔
    ∃ front rest : String, s = front ++ rest ∧ n = front.utf8ByteSize := by
  rw [isBoundary_iff_isValid, String.Pos.Raw.isValid_iff_exists_append]
  simp [String.Pos.Raw.ext_iff]

/-- The search ends, at the last boundary that is not beyond its start. -/
theorem boundaryBefore?_greatest (utf8 : Bytes) (n : Nat) :
    ∃ m, boundaryBefore? utf8 n = some m ∧ m ≤ n ∧ isBoundary utf8 m ∧
      ∀ k ≤ n, isBoundary utf8 k → k ≤ m := by
  induction n with
  | zero => exact ⟨0, if_pos rfl, Nat.le_refl 0, rfl, fun _ within _ => within⟩
  | succ n ih =>
      by_cases here : isBoundary utf8 (n + 1)
      · exact ⟨n + 1, if_pos here, Nat.le_refl _, here, fun _ within _ => within⟩
      · obtain ⟨m, found, before, boundary, greatest⟩ := ih
        refine ⟨m, (if_neg here).trans found, Nat.le_succ_of_le before, boundary, ?_⟩
        intro k within other
        have earlier : k ≠ n + 1 := fun same => here (same ▸ other)
        exact greatest k (by omega) other

/-! ## The longest front that fits -/

/-- `w` is the longest front of `s`, in whole characters, that has at most `limit` bytes. -/
structure LongestFront (limit : Nat) (s w : String) : Prop where
  front : w.toList <+: s.toList
  fits : w.utf8ByteSize ≤ limit
  longest : ∀ v : String, v.toList <+: s.toList → v.utf8ByteSize ≤ limit → v.toList <+: w.toList

theorem exists_append {w s : String} (front : w.toList <+: s.toList) : ∃ rest, s = w ++ rest := by
  obtain ⟨rest, whole⟩ := front
  refine ⟨String.ofList rest, String.toList_inj.mp ?_⟩
  rw [String.toList_append, String.toList_ofList, whole]

theorem utf8ByteSize_le_of_front {w s : String} (front : w.toList <+: s.toList) :
    w.utf8ByteSize ≤ s.utf8ByteSize := by
  obtain ⟨rest, rfl⟩ := exists_append front
  rw [String.utf8ByteSize_append]
  exact Nat.le_add_right _ _

/-- Fronts of one text are ordered by their sizes. -/
theorem front_of_size_le {v w s : String} (hv : v.toList <+: s.toList) (hw : w.toList <+: s.toList)
    (size : v.utf8ByteSize ≤ w.utf8ByteSize) : v.toList <+: w.toList := by
  rcases List.prefix_or_prefix_of_prefix hv hw with shorter | longer
  · exact shorter
  · obtain ⟨rest, rfl⟩ := exists_append longer
    rw [String.utf8ByteSize_append] at size
    have nothing : rest = "" := String.utf8ByteSize_eq_zero_iff.mp (by omega)
    simp [nothing]

namespace LongestFront

variable {limit : Nat} {s v w : String}

theorem unique (hv : LongestFront limit s v) (hw : LongestFront limit s w) : v = w := by
  have shorter : v.toList <+: w.toList := hw.longest v hv.front hv.fits
  have longer : w.toList <+: v.toList := hv.longest w hw.front hw.fits
  exact String.toList_inj.mp (shorter.eq_of_length_le longer.length_le)

theorem whole (fits : s.utf8ByteSize ≤ limit) : LongestFront limit s s where
  front := List.prefix_refl _
  fits := fits
  longest _ front _ := front

theorem trans {k : Nat} (hv : LongestFront limit s v) (hw : LongestFront k v w) :
    LongestFront (min limit k) s w where
  front := hw.front.trans hv.front
  fits := Nat.le_min.mpr ⟨Nat.le_trans (utf8ByteSize_le_of_front hw.front) hv.fits, hw.fits⟩
  longest u front fits :=
    have ⟨inLimit, inK⟩ := Nat.le_min.mp fits
    hw.longest u (hv.longest u front inLimit) inK

/-- The next character would not fit, and no character has more than four bytes. -/
theorem le_add_three (hw : LongestFront limit s w) (long : limit < s.utf8ByteSize) :
    limit ≤ w.utf8ByteSize + 3 := by
  obtain ⟨rest, rfl⟩ := exists_append hw.front
  cases next : rest.toList with
  | nil =>
      have nothing : rest = "" := String.toList_inj.mp next
      have fits := hw.fits
      rw [nothing, String.append_empty] at long
      omega
  | cons c cs =>
      have atMost := c.utf8Size_le_four
      have front : (w ++ String.singleton c).toList <+: (w ++ rest).toList := by
        rw [String.toList_append, String.toList_append, next]
        exact ⟨cs, by simp⟩
      by_cases fits : (w ++ String.singleton c).utf8ByteSize ≤ limit
      · have positive := c.utf8Size_pos
        have within := utf8ByteSize_le_of_front (hw.longest _ front fits)
        rw [String.utf8ByteSize_append, String.utf8ByteSize_singleton] at within
        omega
      · rw [String.utf8ByteSize_append, String.utf8ByteSize_singleton] at fits
        omega

end LongestFront

/-! ## Cuts -/

variable {limit : Nat} {s : String}

theorem take_utf8_append (front rest : String) :
    (front ++ rest).toUTF8.data.toList.take front.utf8ByteSize = front.toUTF8.data.toList := by
  have bytes : (front ++ rest).toUTF8.data.toList =
      front.toUTF8.data.toList ++ rest.toUTF8.data.toList := by simp
  rw [bytes]
  exact List.take_left

/-- A text that is too long is cut at a boundary, behind its longest front. -/
theorem limited?_of_lt (long : limit < s.utf8ByteSize) :
    ∃ w, boundaryBefore? s.toUTF8.data.toList limit = some w.utf8ByteSize ∧
      limited? limit s = some w ∧ LongestFront limit s w := by
  obtain ⟨n, found, before, boundary, greatest⟩ :=
    boundaryBefore?_greatest s.toUTF8.data.toList limit
  obtain ⟨w, rest, rfl, rfl⟩ := isBoundary_iff.mp boundary
  have cut : limited? limit (w ++ rest) = some w := by
    rw [limited?, if_neg (Nat.not_le_of_lt long)]
    simp only [found, Option.bind_eq_bind, Option.bind_some, take_utf8_append]
    exact fromUTF8?_eq_some.mpr rfl
  have front : w.toList <+: (w ++ rest).toList := ⟨rest.toList, String.toList_append.symm⟩
  refine ⟨w, found, cut, front, before, fun v other fits => ?_⟩
  obtain ⟨behind, whole⟩ := exists_append other
  exact front_of_size_le other front (greatest _ fits (isBoundary_iff.mpr ⟨v, behind, whole, rfl⟩))

theorem limited_of_le (fits : s.utf8ByteSize ≤ limit) : limited limit s = s := by
  rw [limited, limited?, if_pos fits, Option.getD_some]

theorem limited_of_some {w : String} (cut : limited? limit s = some w) : limited limit s = w := by
  rw [limited, cut, Option.getD_some]

theorem longestFront_limited (limit : Nat) (s : String) :
    limited? limit s = some (limited limit s) ∧ LongestFront limit s (limited limit s) := by
  by_cases fits : s.utf8ByteSize ≤ limit
  · rw [limited_of_le fits, limited?, if_pos fits]
    exact ⟨rfl, .whole fits⟩
  · obtain ⟨w, -, cut, longest⟩ := limited?_of_lt (Nat.lt_of_not_le fits)
    rw [limited_of_some cut]
    exact ⟨cut, longest⟩

theorem utf8ByteSize_limited (limit : Nat) (s : String) :
    (limited limit s).utf8ByteSize ≤ limit :=
  (longestFront_limited limit s).2.fits

/-- A text is cut to the longest front of whole characters that fits the limit. The search for the
place of the cut ends at a boundary, and after three bytes at most. Cuts in sequence are one cut to
the least limit. -/
theorem limited_longest (limit : Nat) (s : String) :
    (limit < s.utf8ByteSize →
      boundaryBefore? s.toUTF8.data.toList limit = some (limited limit s).utf8ByteSize ∧
        limit ≤ (limited limit s).utf8ByteSize + 3) ∧
    limited? limit s = some (limited limit s) ∧ LongestFront limit s (limited limit s) ∧
    (s.utf8ByteSize ≤ limit → limited limit s = s) ∧
    ∀ k, limited k (limited limit s) = limited (min limit k) s := by
  obtain ⟨cut, longest⟩ := longestFront_limited limit s
  refine ⟨fun long => ⟨?_, longest.le_add_three long⟩, cut, longest, limited_of_le, fun k => ?_⟩
  · obtain ⟨w, found, same, -⟩ := limited?_of_lt long
    rw [limited_of_some same]
    exact found
  · have both := longest.trans (longestFront_limited k (limited limit s)).2
    exact both.unique (longestFront_limited (min limit k) s).2

/-- Characters of one, two, three and four bytes, cut inside the last. -/
theorem limited_longest_mixed :
    9 < "aé€😀".utf8ByteSize ∧ boundaryBefore? "aé€😀".toUTF8.data.toList 9 = some 6 ∧
      limited 9 "aé€😀" = "aé€" ∧ limited 5 (limited 9 "aé€😀") = "aé" := by
  have long : 9 < "aé€😀".utf8ByteSize := by decide +kernel
  obtain ⟨search, cut, -, -, again⟩ := limited_longest 9 "aé€😀"
  have found := (search long).1
  have first : limited 9 "aé€😀" = "aé€" := by decide +kernel
  have second : limited 5 "aé€😀" = "aé" := by decide +kernel
  refine ⟨long, ?_, first, (again 5).trans second⟩
  rw [found, first]
  decide +kernel

end ConnectedDevice.Text
