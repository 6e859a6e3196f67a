import ConnectedDevice.EasyLink.ExtraData
import ConnectedDevice.Proofs.Bytes

/-!
What the second stage of a discovery delivers, read back from what a peer sends. The two forms of
the payload overlap: a long one whose gateway ends with the delimiter is a short one as well, and is
read as such. Every other payload has the one reading that its sender meant.
-/

namespace ConnectedDevice.ExtraData

def Word.bytes (w : Word) : Bytes := [w.b0, w.b1, w.b2, w.b3]

def shortForm (auth : Bytes) (identifier : UInt32) : Bytes :=
  auth ++ delimiter :: Bytes.ofWord32 identifier

def longForm (auth : Bytes) (identifier : UInt32) (localIp netmask gateway dns : Word) : Bytes :=
  auth ++ delimiter ::
    (Bytes.ofWord32 identifier ++ localIp.bytes ++ netmask.bytes ++ gateway.bytes ++ dns.bytes)

/-- The byte with `t` bytes after it is a delimiter. -/
def Delimits (data : Bytes) (t : Nat) : Prop := data.reverse[t]? = some delimiter

instance (data : Bytes) (t : Nat) : Decidable (Delimits data t) :=
  inferInstanceAs (Decidable (_ = _))

theorem find?_tails_eq_some (p : Nat → Bool) (after t : Nat) (bs : Bytes) :
    (tails after bs).find? p = some t ↔
      ∃ i, t = after + i ∧ bs[i]? = some delimiter ∧ p t = true ∧
        ∀ j < i, bs[j]? = some delimiter → p (after + j) = false := by
  induction bs generalizing after with
  | nil => simp [tails]
  | cons b rest ih =>
      have shifted := ih (after + 1)
      constructor
      · intro found
        by_cases here : b = delimiter ∧ p after = true
        · simp [tails, here] at found
          exact ⟨0, by omega, by simp [here.1], found ▸ here.2, by omega⟩
        · have later : (tails (after + 1) rest).find? p = some t := by
            grind [tails]
          obtain ⟨i, rfl, delimits, holds, first⟩ := shifted.mp later
          refine ⟨i + 1, by omega, by simpa using delimits, holds, ?_⟩
          intro j below isDelimiter
          cases j with
          | zero => grind
          | succ j =>
              have := first j (by omega) (by simpa using isDelimiter)
              grind
      · rintro ⟨i, rfl, delimits, holds, first⟩
        cases i with
        | zero =>
            have isDelimiter : b = delimiter := by simpa using delimits
            grind [tails]
        | succ i =>
            have later : (tails (after + 1) rest).find? p = some (after + (i + 1)) := by
              refine shifted.mpr ⟨i, by omega, by simpa using delimits, holds, ?_⟩
              intro j below isDelimiter
              have := first (j + 1) (by omega) (by simpa using isDelimiter)
              grind
            have := first 0 (by omega)
            grind [tails]

/-- The search from the end stops at the first delimiter whose tail is wanted. -/
theorem find?_tails_reverse (p : Nat → Bool) (data : Bytes) (t : Nat) :
    (tails 0 data.reverse).find? p = some t ↔
      Delimits data t ∧ p t = true ∧ ∀ j < t, Delimits data j → p j = false := by
  simp [find?_tails_eq_some, Delimits]

theorem delimits_append (auth tail : Bytes) : Delimits (auth ++ delimiter :: tail) tail.length := by
  simp [Delimits]

/-- The reading of a payload is that of its shortest tail of a wanted length. -/
theorem parse_append (auth tail : Bytes) (wanted : tail.length = 4 ∨ tail.length = 20)
    (shortest : tail.length = 20 → ¬Delimits (auth ++ delimiter :: tail) 4) :
    parse (auth ++ delimiter :: tail) = ofWords auth (words tail) := by
  have found : (tails 0 (auth ++ delimiter :: tail).reverse).find?
      (fun t => t == 4 || t == 20) = some tail.length := by
    refine (find?_tails_reverse _ _ _).mpr ⟨delimits_append auth tail, by simpa using wanted, ?_⟩
    intro j below delimits
    have notFour : j = 4 → tail.length ≠ 20 := fun h long => shortest long (h ▸ delimits)
    have : ¬(j = 4 ∨ j = 20) := by omega
    simpa using this
  have length : (auth ++ delimiter :: tail).length = auth.length + 1 + tail.length := by
    simp
    omega
  have front : (auth ++ delimiter :: tail).take
      ((auth ++ delimiter :: tail).length - tail.length - 1) = auth := by
    rw [length, Nat.add_sub_cancel, Nat.add_sub_cancel, List.take_left]
  have back : (auth ++ delimiter :: tail).drop
      ((auth ++ delimiter :: tail).length - tail.length) = tail := by
    rw [length, Nat.add_sub_cancel, List.append_cons, List.drop_left' (by simp)]
  simp only [parse, found, front, back]

theorem parse_shortForm (auth : Bytes) (identifier : UInt32) :
    parse (shortForm auth identifier) = .ok ⟨auth, identifier, none⟩ := by
  rw [shortForm, parse_append auth _ (.inl (Bytes.length_ofWord32 identifier)) (by simp)]
  simp only [Bytes.ofWord32, words, ofWords, Word.number, Bytes.word32_ofWord32]

/-- The delimiter that could be taken for that of a short form is the last byte of the gateway. -/
theorem delimits_longForm (auth : Bytes) (identifier : UInt32)
    (localIp netmask gateway dns : Word) :
    Delimits (longForm auth identifier localIp netmask gateway dns) 4 ↔
      gateway.b3 = delimiter := by
  simp [Delimits, longForm, Word.bytes]

theorem parse_longForm (auth : Bytes) (identifier : UInt32) (localIp netmask gateway dns : Word)
    (unambiguous : gateway.b3 ≠ delimiter) :
    parse (longForm auth identifier localIp netmask gateway dns) =
      .ok ⟨auth, identifier,
        some ⟨localIp.dotted, netmask.dotted, gateway.dotted, dns.dotted⟩⟩ := by
  have notShort := mt (delimits_longForm auth identifier localIp netmask gateway dns).mp unambiguous
  rw [longForm, parse_append auth _ (.inr (by simp [Word.bytes])) (fun _ => notShort)]
  simp only [Bytes.ofWord32, Word.bytes, List.cons_append, List.nil_append, words, ofWords,
    Word.number, Bytes.word32_ofWord32]

theorem Word.ofWord32_number (w : Word) : Bytes.ofWord32 w.number = w.bytes :=
  Bytes.ofWord32_word32 w.b0 w.b1 w.b2 w.b3

/-- The forms overlap, so that no reader could tell these two payloads apart. -/
theorem longForm_eq_shortForm (auth : Bytes) (identifier : UInt32)
    (localIp netmask gateway dns : Word) (ambiguous : gateway.b3 = delimiter) :
    longForm auth identifier localIp netmask gateway dns =
      shortForm (auth ++ delimiter ::
        (Bytes.ofWord32 identifier ++ localIp.bytes ++ netmask.bytes ++
          [gateway.b0, gateway.b1, gateway.b2])) dns.number := by
  rw [shortForm, Word.ofWord32_number]
  simp [longForm, Word.bytes, ambiguous]

/-- Each form gives back what was sent, except where the long form is a short one as well. -/
theorem parse_forms (auth : Bytes) (identifier : UInt32) (localIp netmask gateway dns : Word) :
    parse (shortForm auth identifier) = .ok ⟨auth, identifier, none⟩ ∧
      parse (longForm auth identifier localIp netmask gateway dns) =
        if gateway.b3 = delimiter then
          .ok ⟨auth ++ delimiter :: (Bytes.ofWord32 identifier ++ localIp.bytes ++
            netmask.bytes ++ [gateway.b0, gateway.b1, gateway.b2]), dns.number, none⟩
        else
          .ok ⟨auth, identifier,
            some ⟨localIp.dotted, netmask.dotted, gateway.dotted, dns.dotted⟩⟩ := by
  refine ⟨parse_shortForm auth identifier, ?_⟩
  split
  · rename_i ambiguous
    rw [longForm_eq_shortForm auth identifier localIp netmask gateway dns ambiguous,
      parse_shortForm]
  · rename_i unambiguous
    exact parse_longForm auth identifier localIp netmask gateway dns unambiguous

/-- The gateway 192.168.1.35 ends with the delimiter, and its payload loses the addresses. -/
theorem parse_longForm_gateway_35 :
    parse (longForm [0x61] 1 ⟨192, 168, 1, 20⟩ ⟨255, 255, 255, 0⟩ ⟨192, 168, 1, 35⟩
        ⟨8, 8, 4, 4⟩) ≠
      .ok ⟨[0x61], 1, some ⟨Word.dotted ⟨192, 168, 1, 20⟩, Word.dotted ⟨255, 255, 255, 0⟩,
        Word.dotted ⟨192, 168, 1, 35⟩, Word.dotted ⟨8, 8, 4, 4⟩⟩⟩ := by
  rw [longForm_eq_shortForm _ _ _ _ _ _ rfl, parse_shortForm]
  simp

end ConnectedDevice.ExtraData
