import ConnectedDevice.Json.Writer
import ConnectedDevice.Proofs.Json.Object

/-!
What is written is spelled: a text in its quotes, a value with its members, each in its place.
-/

namespace ConnectedDevice.Json

open Text (encode encode_cons encode_append utf8EncodeChar_of_ascii high_of_mem_utf8EncodeChar)

theorem Content.append {raw raw' bs bs' : Bytes} (first : Content raw bs)
    (second : Content raw' bs') : Content (raw ++ raw') (bs ++ bs') := by
  induction first with
  | nil => exact second
  | cons piece _ ih =>
      rw [List.append_assoc, List.append_assoc]
      exact .cons piece ih

/-- A control without a letter of its own is written by its number. -/
theorem content_control {n : Nat} (control : n < 0x20) :
    Content (encode ('\\' :: 'u' :: '0' :: '0' :: Hex.lower n.toUInt8)) [n.toUInt8] := by
  have each : ∀ n < 0x20, ∃ d e, encode (Hex.lower n.toUInt8) = [d, e] ∧
      Hex.value4? 0x30 0x30 d e = some n ∧ utf8 n = [n.toUInt8] ∧
        isHighSurrogate n = false ∧ isLowSurrogate n = false := by
    intro n control
    refine ⟨(Hex.lowerDigit (n / 16)).toNat.toUInt8, (Hex.lowerDigit (n % 16)).toNat.toUInt8, ?_⟩
    revert n
    decide
  obtain ⟨d, e, written, value, same, notHigh, notLow⟩ := each n control
  have piece : Content ([0x5C, 0x75, 0x30, 0x30, d, e] ++ []) (utf8 n ++ []) :=
    .cons (.unit value notHigh notLow) .nil
  rw [same] at piece
  rw [encode_cons, encode_cons, encode_cons, encode_cons, written]
  exact piece

theorem content_shown {c : Char} (shown : ¬c.toNat < 0x20) (unquoted : c ≠ '"')
    (unescaped : c ≠ '\\') : Content (String.utf8EncodeChar c) (String.utf8EncodeChar c) := by
  refine content_self fun b within => ?_
  by_cases ascii : c.toNat < 0x80
  · rw [utf8EncodeChar_of_ascii ascii, List.mem_singleton] at within
    have same : b.toNat = c.toNat := by
      rw [within]
      exact UInt8.toNat_ofNat_of_lt' (by simp only [UInt8.size]; omega)
    have apart {d : Char} (other : c ≠ d) : b.toNat ≠ d.toNat := fun this =>
      other (Char.toNat_inj.mp (same.symm.trans this))
    refine ⟨UInt8.le_iff_toNat_le.mpr (by simp only [UInt8.reduceToNat]; omega), ?_, ?_⟩
    · rintro rfl
      exact apart unquoted rfl
    · rintro rfl
      exact apart unescaped rfl
  · have high := UInt8.le_iff_toNat_le.mp (high_of_mem_utf8EncodeChar (by omega) within)
    simp only [UInt8.reduceToNat] at high
    refine ⟨UInt8.le_iff_toNat_le.mpr (by simp only [UInt8.reduceToNat]; omega), ?_, ?_⟩ <;>
      · rintro rfl
        simp only [UInt8.reduceToNat] at high
        omega

theorem content_escapeChar (c : Char) :
    Content (encode (escapeChar c)) (String.utf8EncodeChar c) := by
  have letter (e : UInt8) {b : UInt8} (escape : plainEscape? e = some b) :
      Content [0x5C, e] [b] :=
    .cons (.letter escape) .nil
  unfold escapeChar
  split_ifs with quote backslash backspace formFeed newline carriage tab control
  · subst quote
    exact letter 0x22 rfl
  · subst backslash
    exact letter 0x5C rfl
  · subst backspace
    exact letter 0x62 rfl
  · subst formFeed
    exact letter 0x66 rfl
  · subst newline
    exact letter 0x6E rfl
  · subst carriage
    exact letter 0x72 rfl
  · subst tab
    exact letter 0x74 rfl
  · rw [utf8EncodeChar_of_ascii (by omega)]
    exact content_control control
  · rw [encode_cons, encode, List.flatMap_nil, List.append_nil]
    exact content_shown control quote backslash

theorem content_flatMap (cs : List Char) :
    Content (encode (cs.flatMap escapeChar)) (encode cs) := by
  induction cs with
  | nil => exact .nil
  | cons c cs ih =>
      rw [List.flatMap_cons, encode_append, encode_cons]
      exact (content_escapeChar c).append ih

theorem encode_quote (s : String) :
    encode (quote s) = inQuotes (encode (s.toList.flatMap escapeChar)) := by
  rw [quote, List.cons_append, encode_cons, encode_append]
  rfl

theorem content_quote (s : String) :
    Content (encode (s.toList.flatMap escapeChar)) s.toUTF8.data.toList := by
  rw [Text.utf8_eq_encode]
  exact content_flatMap s.toList

/-! ## Values -/

theorem encode_text (s : String) : SpellsText s (encode (Value.text s).write) :=
  ⟨_, content_quote s, by rw [Value.write, encode_quote]⟩

theorem encode_flag (b : Bool) : encode (Value.flag b).write = flagText b := by
  cases b <;> rfl

/-- A member as it is written. -/
def written (m : String × Value) : Member := ⟨m.1, encode m.2.write⟩

theorem encode_member (m : String × Value) : encode (quote m.1 ++ ':' :: m.2.write) =
    inQuotes (encode (m.1.toList.flatMap escapeChar)) ++ ([0x3A] ++ (written m).value) := by
  rw [encode_append, encode_quote, encode_cons]
  rfl

theorem spells_written {m : String × Value} (grammatical : Grammatical (written m).value) :
    (written m).Spells (encode (quote m.1 ++ ':' :: m.2.write)) := by
  rw [encode_member]
  exact Member.spells_of_content grammatical (content_quote m.1)

theorem encode_object (ms : List (String × Value)) :
    encode (Value.object ms).write = 0x7B :: (encode (writeMembers ms) ++ [0x7D]) := by
  rw [Value.write, List.cons_append, encode_cons, encode_append]
  rfl

mutual

theorem grammatical_write : (v : Value) → Grammatical (encode v.write)
  | .flag b => by
      rw [encode_flag]
      exact .scalar (.flag b)
  | .text s => by
      obtain ⟨raw, content, same⟩ := encode_text s
      rw [same]
      exact .scalar (.text content.loose)
  | .object ms =>
      grammatical_of_members (series_writeMembers ms) ⟨[0x7D], led_self _, encode_object ms⟩

theorem series_writeMembers : (ms : List (String × Value)) →
    Series Member.Spells (ms.map written) (encode (writeMembers ms))
  | [] => rfl
  | [(key, value)] =>
      ⟨_, [], spells_written (grammatical_write value), .nil, by rw [writeMembers, List.append_nil]⟩
  | (key, value) :: m :: ms => by
      obtain ⟨first, rest, spelled, later, same⟩ := series_writeMembers (m :: ms)
      refine ⟨_, _, spells_written (grammatical_write value), .cons (led_self [0x2C]) spelled later,
        ?_⟩
      rw [writeMembers, encode_append, encode_cons, same]
      · rfl
      · simp

end

/-- The members of a written object are the written members. -/
theorem objectText_write (ms : List (String × Value)) :
    ObjectText (encode (Value.object ms).write) (ms.map written) :=
  ⟨_, series_writeMembers ms, [0x7B], [0x7D], [], led_self _, led_self _, by simp [Blank],
    by rw [encode_object, List.append_nil]; rfl⟩

end ConnectedDevice.Json
