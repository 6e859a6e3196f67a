import ConnectedDevice.Proofs.Json.Grammar
import ConnectedDevice.Proofs.Text.Utf8

/-!
The readers of texts against their grammar. Both stop at the first quote that is not escaped, so
that what they take is the content of a text, and no more.
-/

namespace ConnectedDevice.Json

variable {input rest seen bs piece bytes raw : Bytes}

/-! ## Texts that are read -/

theorem isLowSurrogate_of_high {n : Nat} (isHigh : isHighSurrogate n = true) :
    isLowSurrogate n = false := by
  simp only [isHighSurrogate, Bool.and_eq_true, decide_eq_true_eq] at isHigh
  simp only [isLowSurrogate, Bool.and_eq_false_iff, decide_eq_false_iff_not]
  omega

theorem unescape_piece (spelled : Piece piece bytes) (seen input : Bytes) :
    unescape seen (piece ++ input) = unescape (bytes.reverse ++ seen) input := by
  cases spelled with
  | plain shown unquoted unescaped =>
      rw [List.cons_append, unescape.eq_def]
      simp [unquoted, unescaped, UInt8.not_lt.mpr shown]
  | @letter e b escape =>
      have notUnit : e ≠ 0x75 := by
        rintro rfl
        cases escape
      rw [List.cons_append, unescape.eq_def]
      simp [notUnit, escape]
  | unit digits notHigh notLow => simp [unescape, digits, notHigh, notLow]
  | pair first isHigh second isLow =>
      simp [unescape, first, isHigh, isLowSurrogate_of_high isHigh, second, isLow]

/-- Bytes that need no escape stand for themselves. -/
theorem content_self (plain : ∀ b ∈ bs, 0x20 ≤ b ∧ b ≠ 0x22 ∧ b ≠ 0x5C) : Content bs bs := by
  induction bs with
  | nil => exact .nil
  | cons b bs ih =>
      obtain ⟨⟨shown, unquoted, unescaped⟩, plain⟩ := List.forall_mem_cons.mp plain
      exact .cons (.plain shown unquoted unescaped) (ih plain)

theorem unescape_content (spelled : Content raw bs) (seen rest : Bytes) :
    unescape seen (raw ++ 0x22 :: rest) = .ok (seen.reverse ++ bs, rest) := by
  induction spelled generalizing seen with
  | nil =>
      rw [List.nil_append, unescape.eq_def]
      simp
  | cons first _ ih =>
      rw [List.append_assoc, unescape_piece first, ih]
      simp

/-- The input begins with a content and a quote, and `bs` is what was seen before and is spelled
there. -/
def Unescapes (seen input bs rest : Bytes) : Prop :=
  ∃ raw content, Content raw content ∧ bs = seen.reverse ++ content ∧ input = raw ++ 0x22 :: rest

theorem Unescapes.cons (first : Piece piece bytes)
    (later : Unescapes (bytes.reverse ++ seen) input bs rest) :
    Unescapes seen (piece ++ input) bs rest := by
  obtain ⟨raw, content, spelled, rfl, rfl⟩ := later
  exact ⟨piece ++ raw, bytes ++ content, .cons first spelled, by simp, by simp⟩

theorem unescapes_of_unescape (read : unescape seen input = .ok (bs, rest)) :
    Unescapes seen input bs rest := by
  fun_induction unescape with
  | case2 seen input =>
      cases read
      exact ⟨[], [], .nil, by simp, rfl⟩
  | case4 seen b input unquoted notControl unescaped ih =>
      exact .cons (.plain (UInt8.not_lt.mp notControl) unquoted unescaped) (ih read)
  | case6 seen b unquoted notControl escaped e input notUnit c escape ih =>
      obtain rfl := not_not.mp escaped
      exact .cons (.letter escape) (ih read)
  | case10 seen b unquoted notControl escaped e unit d1 d2 d3 d4 input n digits notLow notHigh ih =>
      obtain rfl := not_not.mp escaped
      obtain rfl := not_not.mp unit
      exact .cons (.unit digits (by simpa using notHigh) (by simpa using notLow)) (ih read)
  | case15 seen b unquoted notControl escaped e unit d1 d2 d3 d4 high first notLow isHigh b' u'
      again e1 e2 e3 e4 input low second isLow ih =>
      obtain rfl := not_not.mp escaped
      obtain rfl := not_not.mp unit
      obtain ⟨rfl, rfl⟩ : b' = 0x5C ∧ u' = 0x75 := by simpa using again
      exact .cons (.pair first (by simpa using isHigh) second isLow) (ih read)
  | _ => cases read

theorem readText_eq_ok {s : String} :
    readText input = .ok (s, rest) ↔
      ∃ raw, Content raw s.toUTF8.data.toList ∧ input = raw ++ 0x22 :: rest := by
  constructor
  · intro read
    simp only [readText] at read
    split at read
    next => cases read
    next bytes rest unescaped =>
      split at read
      next s valid =>
        cases read
        obtain ⟨raw, content, spelled, same, rfl⟩ := unescapes_of_unescape unescaped
        rw [Text.fromUTF8?_eq_some.mp valid, List.reverse_nil, List.nil_append] at same
        exact ⟨raw, same ▸ spelled, rfl⟩
      next => cases read
  · rintro ⟨raw, spelled, rfl⟩
    have valid := Text.fromUTF8?_eq_some.mpr (rfl : s.toUTF8.data.toList = _)
    simp only [readText, unescape_content spelled, List.reverse_nil, List.nil_append, valid]

/-! ## Texts that are skipped -/

theorem skipText_piece (spelled : LoosePiece piece) (input : Bytes) :
    skipText (piece ++ input) = skipText input := by
  cases spelled with
  | plain shown unquoted unescaped =>
      rw [List.cons_append, skipText.eq_def]
      simp [unquoted, unescaped, UInt8.not_lt.mpr shown]
  | @letter e escape =>
      have notUnit : e ≠ 0x75 := by
        rintro rfl
        cases escape
      rw [List.cons_append, skipText.eq_def]
      simp [notUnit, escape]
  | unit digits => simp [skipText, digits]

/-- The input begins with the content of a text that is skipped, and a quote. -/
def SkipsText (input rest : Bytes) : Prop := ∃ raw, LooseContent raw ∧ input = raw ++ 0x22 :: rest

theorem SkipsText.cons (first : LoosePiece piece) (later : SkipsText input rest) :
    SkipsText (piece ++ input) rest := by
  obtain ⟨raw, spelled, rfl⟩ := later
  exact ⟨piece ++ raw, .cons first spelled, by simp⟩

theorem skips_of_skipText (skipped : skipText input = .ok rest) : SkipsText input rest := by
  fun_induction skipText with
  | case2 input =>
      cases skipped
      exact ⟨[], .nil, rfl⟩
  | case4 b input unquoted notControl unescaped ih =>
      exact .cons (.plain (UInt8.not_lt.mp notControl) unquoted unescaped) (ih skipped)
  | case6 b unquoted notControl escaped e input notUnit escape ih =>
      obtain rfl := not_not.mp escaped
      exact .cons (.letter escape) (ih skipped)
  | case8 b unquoted notControl escaped e unit d1 d2 d3 d4 input digits ih =>
      obtain rfl := not_not.mp escaped
      obtain rfl := not_not.mp unit
      exact .cons (.unit digits) (ih skipped)
  | _ => cases skipped

theorem skipText_eq_ok : skipText input = .ok rest ↔ SkipsText input rest := by
  refine ⟨skips_of_skipText, ?_⟩
  rintro ⟨raw, spelled, rfl⟩
  induction spelled with
  | nil =>
      rw [List.nil_append, skipText.eq_def]
      simp
  | cons first _ ih => rw [List.append_assoc, skipText_piece first, ih]

/-- A text that can be read can be skipped. -/
theorem Content.loose (content : Content raw bs) : LooseContent raw := by
  induction content with
  | nil => exact .nil
  | cons first _ ih =>
      cases first with
      | plain shown unquoted unescaped => exact .cons (.plain shown unquoted unescaped) ih
      | letter escape => exact .cons (.letter (by simp [escape])) ih
      | unit digits => exact .cons (.unit (by simp [digits])) ih
      | @pair d1 d2 d3 d4 e1 e2 e3 e4 _ _ high _ low _ =>
          have back : LooseContent ([0x5C, 0x75, e1, e2, e3, e4] ++ _) :=
            .cons (.unit (by simp [low])) ih
          have both : LooseContent ([0x5C, 0x75, d1, d2, d3, d4] ++ _) :=
            .cons (.unit (by simp [high])) back
          exact both

end ConnectedDevice.Json
