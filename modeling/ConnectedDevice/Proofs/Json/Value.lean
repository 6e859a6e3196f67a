import ConnectedDevice.Proofs.Json.Number
import ConnectedDevice.Proofs.Json.Text

/-!
The readers of values of known kind against their spellings. Each reader takes a spelling off its
input and nothing else, and takes every spelling that is followed by what may follow a value.
-/

namespace ConnectedDevice.Json

variable {α β : Type} {input rest bs : Bytes}

theorem readIdent_eq_ok {word : Bytes} :
    readIdent word input = .ok rest ↔ input = word ++ rest := by
  induction word generalizing input with
  | nil => simp [readIdent, eq_comm]
  | cons c word ih =>
      cases input with
      | nil => simp [readIdent]
      | cons b input =>
          simp only [readIdent, List.cons_append, List.cons.injEq]
          split
          next same => simp [ih, same]
          next other => simp [other]

/-- The reader takes the spellings of its value, as long as what follows them may follow a value. -/
structure Reads (read : Bytes → Except JsonError (α × Bytes)) (Spells : α → Bytes → Prop) :
    Prop where
  sound : ∀ {input rest : Bytes} {x : α}, read input = .ok (x, rest) →
    ∃ bs, Spells x bs ∧ input = bs ++ rest
  complete : ∀ {bs rest : Bytes} {x : α}, Spells x bs → Ended rest →
    read (bs ++ rest) = .ok (x, rest)

variable {read : Bytes → Except JsonError (α × Bytes)} {Spells : α → Bytes → Prop}

theorem Reads.of_iff
    (same : ∀ {input rest x}, read input = .ok (x, rest) ↔ ∃ bs, Spells x bs ∧ input = bs ++ rest) :
    Reads read Spells :=
  ⟨same.mp, fun spelled _ => same.mpr ⟨_, spelled, rfl⟩⟩

theorem Reads.map (reads : Reads read Spells) (f : α → β) {Spells' : β → Bytes → Prop}
    (same : ∀ y bs, Spells' y bs ↔ ∃ x, Spells x bs ∧ f x = y) :
    Reads (fun input => (read input).map fun (x, rest) => (f x, rest)) Spells' where
  sound := by
    intro input rest y mapped
    obtain ⟨⟨x, left⟩, given, ends⟩ := map_eq_ok.mp mapped
    cases ends
    obtain ⟨bs, spelled, rfl⟩ := reads.sound given
    exact ⟨bs, (same _ bs).mpr ⟨x, spelled, rfl⟩, rfl⟩
  complete := by
    intro bs rest y spelled ended
    obtain ⟨x, spelling, rfl⟩ := (same y bs).mp spelled
    exact map_eq_ok.mpr ⟨(x, rest), reads.complete spelling ended, rfl⟩

/-- Every spelling begins with a byte that is no blank and not the first letter of null. -/
def Distinct (Spells : α → Bytes → Prop) : Prop :=
  ∀ {x bs}, Spells x bs → ∃ b tail, bs = b :: tail ∧ isBlank b = false ∧ b ≠ 0x6E

theorem Reads.optional (reads : Reads read Spells) (distinct : Distinct Spells) :
    Reads (readOptional read) fun o led => ∃ bs, SpellsOptional Spells o bs ∧ Led bs led where
  sound := by
    intro input rest o taken
    unfold readOptional at taken
    split at taken
    next => cases taken
    next left first =>
      obtain ⟨-, gap, blank, rfl⟩ := skipBlanks_eq_cons.mp first
      obtain ⟨left', null, ends⟩ := map_eq_ok.mp taken
      cases ends
      obtain rfl := readIdent_eq_ok.mp null
      exact ⟨_, ⟨nullText, rfl, gap, blank, rfl⟩, by simp [nullText]⟩
    next left nonempty notNull =>
      obtain ⟨⟨x, left'⟩, given, ends⟩ := map_eq_ok.mp taken
      cases ends
      obtain ⟨bs, spelled, same⟩ := reads.sound given
      obtain ⟨b, tail, rfl, -⟩ := distinct spelled
      obtain ⟨-, gap, blank, rfl⟩ := skipBlanks_eq_cons.mp same
      exact ⟨_, ⟨_, spelled, gap, blank, rfl⟩, by simp⟩
  complete := by
    rintro led rest o ⟨bs, spelled, gap, blank, rfl⟩ ended
    cases o with
    | none =>
        obtain rfl := spelled
        have front : skipBlanks (gap ++ nullText ++ rest) = 0x6E :: (nullRest ++ rest) :=
          skipBlanks_eq_cons.mpr ⟨rfl, gap, blank, by simp [nullText]⟩
        rw [readOptional, front]
        exact map_eq_ok.mpr ⟨rest, readIdent_eq_ok.mpr rfl, rfl⟩
    | some x =>
        obtain ⟨b, tail, rfl, shown, notNull⟩ := distinct spelled
        have front : skipBlanks (gap ++ (b :: tail) ++ rest) = b :: (tail ++ rest) :=
          skipBlanks_eq_cons.mpr ⟨shown, gap, blank, by simp⟩
        rw [readOptional, front]
        split
        next none => cases none
        next null => exact absurd (List.cons.inj null).1 notNull
        next =>
          exact map_eq_ok.mpr ⟨(x, rest), reads.complete spelled ended, rfl⟩

/-! ## The kinds -/

theorem distinct_text : Distinct SpellsText := by
  rintro s _ ⟨raw, -, rfl⟩
  exact ⟨0x22, raw ++ [0x22], rfl, rfl, by decide⟩

theorem distinct_flag : Distinct fun b bs => bs = flagText b := by
  rintro b _ rfl
  cases b with
  | true => exact ⟨0x74, trueRest, rfl, rfl, by decide⟩
  | false => exact ⟨0x66, falseRest, rfl, rfl, by decide⟩

theorem distinct_word : Distinct SpellsWord := by
  rintro n bs ⟨whole, -⟩
  obtain ⟨d, ds, rfl⟩ := List.exists_cons_of_ne_nil whole.1.1
  have digit : isDigit d = true := whole.1.2 d (by simp)
  refine ⟨d, ds, rfl, isBlank_of_digit digit, ?_⟩
  rintro rfl
  cases digit

theorem reads_text : Reads readTextValue SpellsText := by
  refine .of_iff fun {input rest s} => ?_
  unfold readTextValue
  split
  next input =>
    rw [readText_eq_ok]
    constructor
    · rintro ⟨raw, spelled, rfl⟩
      exact ⟨_, ⟨raw, spelled, rfl⟩, by simp [inQuotes]⟩
    · rintro ⟨_, ⟨raw, spelled, rfl⟩, same⟩
      exact ⟨raw, spelled, by simpa [inQuotes] using same⟩
  next noQuote =>
    refine ⟨fun read => (nomatch read), ?_⟩
    rintro ⟨_, ⟨raw, spelled, rfl⟩, rfl⟩
    exact absurd (by simp [inQuotes]) (noQuote (raw ++ 0x22 :: rest))

theorem reads_flag : Reads readFlag fun b bs => bs = flagText b := by
  refine .of_iff fun {input rest b} => ?_
  simp only [exists_eq_left]
  unfold readFlag
  split
  next input => cases b <;> simp [map_eq_ok, readIdent_eq_ok, flagText]
  next input => cases b <;> simp [map_eq_ok, readIdent_eq_ok, flagText]
  next notTrue notFalse =>
    refine ⟨fun read => (nomatch read), ?_⟩
    rintro rfl
    cases b with
    | true => exact absurd rfl (notTrue (trueRest ++ rest))
    | false => exact absurd rfl (notFalse (falseRest ++ rest))

theorem readNumber_of_readWord {n : UInt32} (read : readWord input = .ok (n, rest)) :
    readNumber input = .ok (.integer n.toNat, rest) := by
  unfold readWord at read
  split at read
  next =>
    split at read
    next =>
      split at read
      next => cases read
      next i left number =>
        split at read
        next fits =>
          cases read
          have same : (i.toNat.toUInt32.toNat : Int) = i := by
            rw [UInt32.toNat_ofNat_of_lt' fits.2]
            omega
          rw [number, same]
        next => cases read
      next => cases read
    next => cases read
  next => cases read

theorem reads_word : Reads readWord SpellsWord where
  sound := by
    intro input rest n read
    have number := readNumber_of_readWord read
    unfold readNumber at number
    split at number
    next => cases number
    next => cases number
    next m left numeral =>
      split at number
      next value =>
        cases number
        obtain ⟨positive, noFraction, noExponent, same⟩ :=
          Numeral.whole_of_value? value (Int.natCast_nonneg _)
        obtain ⟨_, ⟨whole, fraction, exponent, point, letter, rfl⟩, rfl⟩ :=
          Numeral.read_sound numeral
        rw [noFraction] at point
        rw [noExponent] at letter
        obtain rfl := point
        obtain rfl := letter
        exact ⟨m.whole, ⟨whole, by omega⟩, by simp [positive, Numeral.sign]⟩
      next => cases number
  complete := by
    rintro bs rest n ⟨whole, same⟩ ended
    have spelled := Numeral.spells_whole whole
    have fits : Numeral.naturalOf bs < UInt64.size := by
      have word := n.toNat_lt
      simp only [UInt64.size]
      omega
    have number : readNumber (bs ++ rest) = .ok (.integer n.toNat, rest) := by
      simp only [readNumber, Numeral.read_complete spelled ended, Numeral.value?_whole fits, same]
    obtain ⟨d, ds, rfl⟩ := List.exists_cons_of_ne_nil whole.1.1
    have digit : d = 0x2D ∨ isDigit d = true := .inr (whole.1.2 d (by simp))
    have word : 0 ≤ (n.toNat : Int) ∧ (n.toNat : Int).toNat < UInt32.size :=
      ⟨by omega, by simpa using n.toNat_lt⟩
    rw [List.cons_append] at number ⊢
    simp only [readWord, if_pos digit, number, if_pos word]
    simp

end ConnectedDevice.Json
