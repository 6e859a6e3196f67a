import ConnectedDevice.Proofs.Json.Grammar

/-!
The readers of numbers against their grammar. A number has no end of its own: it is read as far as
it goes, so that what follows it must not continue it.
-/

namespace ConnectedDevice.Json

variable {input rest bs digits : Bytes}

/-- The text does not begin with a digit. -/
def NoDigit (rest : Bytes) : Prop := rest.head?.any isDigit = false

theorem noDigit_cons {b : UInt8} : NoDigit (b :: rest) ↔ isDigit b = false := Iff.rfl

theorem isBlank_of_digit {b : UInt8} (digit : isDigit b = true) : isBlank b = false := by
  cases blank : isBlank b with
  | false => rfl
  | true =>
      simp only [isBlank, Bool.or_eq_true, beq_iff_eq] at blank
      rcases blank with ((rfl | rfl) | rfl) | rfl <;> cases digit

theorem takeWhile_of_noDigit (stops : NoDigit rest) : rest.takeWhile isDigit = [] := by
  cases rest with
  | nil => rfl
  | cons b rest => simp [noDigit_cons.mp stops]

theorem dropWhile_of_noDigit (stops : NoDigit rest) : rest.dropWhile isDigit = rest := by
  cases rest with
  | nil => rfl
  | cons b rest => simp [noDigit_cons.mp stops]

theorem noDigit_dropWhile (input : Bytes) : NoDigit (input.dropWhile isDigit) := by
  have stops := List.head?_dropWhile_not isDigit input
  cases left : input.dropWhile isDigit with
  | nil => rfl
  | cons b rest =>
      rw [left] at stops
      exact stops

theorem Ended.apart {b : UInt8} (ended : Ended rest) (first : b ∈ rest.head?) :
    isDigit b = false ∧ b ≠ 0x2E ∧ b ≠ 0x65 ∧ b ≠ 0x45 := by
  have cases := ended b first
  simp only [isBlank, Bool.or_eq_true, beq_iff_eq, Bracket.closing, List.mem_cons, List.not_mem_nil,
    or_false] at cases
  rcases cases with (((rfl | rfl) | rfl) | rfl) | rfl | rfl | rfl <;> decide

theorem Ended.noDigit (ended : Ended rest) : NoDigit rest := by
  cases rest with
  | nil => rfl
  | cons b rest => exact (ended.apart rfl).1

namespace Numeral

theorem readDigits_eq_ok :
    readDigits input = .ok (digits, rest) ↔
      Digits digits ∧ NoDigit rest ∧ input = digits ++ rest := by
  constructor
  · intro read
    cases input with
    | nil => cases read
    | cons b input =>
        simp only [readDigits] at read
        split at read
        next digit =>
          cases read
          refine ⟨⟨by simp, ?_⟩, noDigit_dropWhile input, by simp⟩
          intro d within
          rcases List.mem_cons.mp within with rfl | later
          · exact digit
          · exact List.all_eq_true.mp List.all_takeWhile d later
        next => cases read
  · rintro ⟨⟨nonempty, all⟩, stops, rfl⟩
    cases digits with
    | nil => exact absurd rfl nonempty
    | cons d ds =>
        obtain ⟨first, others⟩ := List.forall_mem_cons.mp all
        simp only [List.cons_append, readDigits, if_pos first, List.takeWhile_append_of_pos others,
          List.dropWhile_append_of_pos others, takeWhile_of_noDigit stops,
          dropWhile_of_noDigit stops, List.append_nil]

theorem readWhole_zero :
    readWhole (0x30 :: input) = .ok (digits, rest) ↔
      digits = [0x30] ∧ NoDigit rest ∧ input = rest := by
  simp only [readWhole]
  split
  next more =>
    refine ⟨fun read => (nomatch read), ?_⟩
    rintro ⟨-, stops, rfl⟩
    rw [NoDigit, more] at stops
    cases stops
  next stops =>
    simp only [Except.ok.injEq, Prod.mk.injEq]
    constructor
    · rintro ⟨rfl, rfl⟩
      exact ⟨rfl, by simpa [NoDigit] using stops, rfl⟩
    · rintro ⟨rfl, -, rfl⟩
      exact ⟨rfl, rfl⟩

theorem readWhole_eq_ok :
    readWhole input = .ok (digits, rest) ↔
      Whole digits ∧ NoDigit rest ∧ input = digits ++ rest := by
  by_cases leads : input.head? = some 0x30
  · obtain ⟨input, rfl⟩ := List.head?_eq_some_iff.mp leads
    rw [readWhole_zero]
    constructor
    · rintro ⟨rfl, stops, rfl⟩
      exact ⟨⟨⟨by simp, List.forall_mem_singleton.mpr rfl⟩, fun _ => rfl⟩, stops, rfl⟩
    · rintro ⟨⟨⟨nonempty, -⟩, alone⟩, stops, same⟩
      have first : digits.head? = some 0x30 := by
        cases digits with
        | nil => exact absurd rfl nonempty
        | cons d ds => simp_all
      rw [alone first] at same ⊢
      exact ⟨rfl, stops, List.tail_eq_of_cons_eq same⟩
  · have other : readWhole input = readDigits input := by
      rw [readWhole.eq_def]
      split
      next => exact absurd rfl leads
      next => rfl
    rw [other, readDigits_eq_ok]
    constructor
    · rintro ⟨all, stops, rfl⟩
      refine ⟨⟨all, fun same => absurd ?_ leads⟩, stops, rfl⟩
      rw [List.head?_append, same, Option.some_or]
    · rintro ⟨⟨all, -⟩, stops, same⟩
      exact ⟨all, stops, same⟩

theorem readFraction_sound {fraction : Option Bytes}
    (read : readFraction input = .ok (fraction, rest)) :
    ∃ bs, SpellsFraction fraction bs ∧ input = bs ++ rest := by
  unfold readFraction at read
  split at read
  next input =>
    obtain ⟨⟨digits, left⟩, point, ends⟩ := map_eq_ok.mp read
    obtain ⟨all, -, rfl⟩ := readDigits_eq_ok.mp point
    cases ends
    exact ⟨_, ⟨all, rfl⟩, rfl⟩
  next =>
    cases read
    exact ⟨[], rfl, rfl⟩

theorem readFraction_complete {fraction : Option Bytes} (spelled : SpellsFraction fraction bs)
    (stops : NoDigit rest) (noPoint : rest.head? ≠ some 0x2E) :
    readFraction (bs ++ rest) = .ok (fraction, rest) := by
  cases fraction with
  | none =>
      obtain rfl := spelled
      rw [List.nil_append, readFraction.eq_def]
      split
      next => exact absurd rfl noPoint
      next => rfl
  | some digits =>
      obtain ⟨all, rfl⟩ := spelled
      exact map_eq_ok.mpr ⟨(digits, rest), readDigits_eq_ok.mpr ⟨all, stops, rfl⟩, rfl⟩

theorem readExponentDigits_eq_ok {negative : Bool} {exponent : Option (Bool × Bytes)} :
    readExponentDigits negative input = .ok (exponent, rest) ↔
      ∃ digits, exponent = some (negative, digits) ∧ Digits digits ∧ NoDigit rest ∧
        input = digits ++ rest := by
  simp only [readExponentDigits, map_eq_ok, Prod.exists, Prod.mk.injEq, readDigits_eq_ok]
  constructor
  · rintro ⟨digits, left, found, rfl, rfl⟩
    exact ⟨digits, rfl, found⟩
  · rintro ⟨digits, rfl, found⟩
    exact ⟨digits, rest, found, rfl, rfl⟩

theorem readExponent_sound {exponent : Option (Bool × Bytes)}
    (read : readExponent input = .ok (exponent, rest)) :
    ∃ bs, SpellsExponent exponent bs ∧ input = bs ++ rest := by
  unfold readExponent at read
  split at read
  next e input =>
    split at read
    next letter =>
      have known : e ∈ [0x65, 0x45] := by simpa using letter
      split at read
      next input =>
        obtain ⟨digits, rfl, all, -, rfl⟩ := readExponentDigits_eq_ok.mp read
        exact ⟨e :: 0x2B :: digits, ⟨all, e, known, [0x2B], by simp, rfl⟩, rfl⟩
      next input =>
        obtain ⟨digits, rfl, all, -, rfl⟩ := readExponentDigits_eq_ok.mp read
        exact ⟨e :: 0x2D :: digits, ⟨all, e, known, [], by simp, rfl⟩, rfl⟩
      next =>
        obtain ⟨digits, rfl, all, -, rfl⟩ := readExponentDigits_eq_ok.mp read
        exact ⟨e :: digits, ⟨all, e, known, [], by simp, rfl⟩, rfl⟩
    next =>
      cases read
      exact ⟨[], rfl, rfl⟩
  next =>
    cases read
    exact ⟨[], rfl, rfl⟩

theorem readExponent_complete {exponent : Option (Bool × Bytes)}
    (spelled : SpellsExponent exponent bs) (stops : NoDigit rest)
    (noLetter : ∀ e ∈ rest.head?, e ≠ 0x65 ∧ e ≠ 0x45) :
    readExponent (bs ++ rest) = .ok (exponent, rest) := by
  match exponent, spelled with
  | none, rfl =>
      cases rest with
      | nil => rfl
      | cons b rest => simp [readExponent, noLetter b rfl]
  | some (negative, digits), ⟨all, e, known, plus, signs, rfl⟩ =>
      have letter : e = 0x65 ∨ e = 0x45 := by simpa using known
      have read : readExponentDigits negative (digits ++ rest) =
          .ok (some (negative, digits), rest) :=
        readExponentDigits_eq_ok.mpr ⟨digits, rfl, all, stops, rfl⟩
      simp only [List.cons_append, List.append_assoc, readExponent, if_pos letter]
      cases negative with
      | true => exact read
      | false =>
          obtain rfl | rfl : plus = [] ∨ plus = [0x2B] := by simpa using signs
          · obtain ⟨d, ds, rfl⟩ := List.exists_cons_of_ne_nil all.1
            have digit : isDigit d = true := all.2 d (by simp)
            simp only [Bool.false_eq_true, if_false, List.nil_append, List.cons_append] at read ⊢
            split
            next same =>
              cases same
              cases digit
            next same =>
              cases same
              cases digit
            next => exact read
          · exact read

theorem readUnsigned_eq_ok {negative : Bool} {n : Numeral} :
    readUnsigned negative input = .ok (n, rest) ↔ n.negative = negative ∧
      ∃ afterWhole afterFraction, readWhole input = .ok (n.whole, afterWhole) ∧
        readFraction afterWhole = .ok (n.fraction, afterFraction) ∧
          readExponent afterFraction = .ok (n.exponent, rest) := by
  simp only [readUnsigned, bind_eq_ok, Prod.exists]
  constructor
  · rintro ⟨whole, afterWhole, first, fraction, afterFraction, second, exponent, left, third, ends⟩
    cases ends
    exact ⟨rfl, _, _, first, second, third⟩
  · rintro ⟨rfl, afterWhole, afterFraction, first, second, third⟩
    exact ⟨_, _, first, _, _, second, _, _, third, rfl⟩

theorem read_sound {n : Numeral} (read : Numeral.read input = .ok (n, rest)) :
    ∃ bs, n.Spells bs ∧ input = bs ++ rest := by
  have unsigned {negative : Bool} {input : Bytes}
      (read : readUnsigned negative input = .ok (n, rest)) :
      ∃ bs, n.Spells bs ∧ sign negative ++ input = bs ++ rest := by
    obtain ⟨rfl, _, _, first, second, third⟩ := readUnsigned_eq_ok.mp read
    obtain ⟨whole, -, rfl⟩ := readWhole_eq_ok.mp first
    obtain ⟨fraction, spelled, rfl⟩ := readFraction_sound second
    obtain ⟨exponent, spelled', rfl⟩ := readExponent_sound third
    exact ⟨_, ⟨whole, _, _, spelled, spelled', rfl⟩, by simp⟩
  unfold Numeral.read at read
  split at read
  next => exact unsigned read
  next => exact unsigned read

/-- Neither the fraction nor the exponent begins with a digit. -/
theorem noDigit_exponent {exponent : Option (Bool × Bytes)} (spelled : SpellsExponent exponent bs)
    (stops : NoDigit rest) : NoDigit (bs ++ rest) := by
  match exponent, spelled with
  | none, rfl => exact stops
  | some _, ⟨_, e, known, _, _, rfl⟩ =>
      obtain rfl | rfl : e = 0x65 ∨ e = 0x45 := by simpa using known
      · rfl
      · rfl

theorem noDigit_fraction {fraction : Option Bytes} (spelled : SpellsFraction fraction bs)
    (stops : NoDigit rest) : NoDigit (bs ++ rest) := by
  match fraction, spelled with
  | none, rfl => exact stops
  | some _, ⟨_, rfl⟩ => rfl

theorem read_unsigned {digits rest : Bytes} (whole : Whole digits) :
    Numeral.read (digits ++ rest) = readUnsigned false (digits ++ rest) := by
  obtain ⟨d, ds, rfl⟩ := List.exists_cons_of_ne_nil whole.1.1
  have digit : isDigit d = true := whole.1.2 d (by simp)
  rw [Numeral.read.eq_def]
  split
  next same =>
    cases same
    cases digit
  next => rfl

theorem read_complete {n : Numeral} (spelled : n.Spells bs) (ended : Ended rest) :
    Numeral.read (bs ++ rest) = .ok (n, rest) := by
  obtain ⟨whole, fraction, exponent, point, letter, rfl⟩ := spelled
  have third : readExponent (exponent ++ rest) = .ok (n.exponent, rest) :=
    readExponent_complete letter (ended.noDigit) fun e first => (ended.apart first).2.2
  have noPoint : (exponent ++ rest).head? ≠ some 0x2E := by
    match n.exponent, letter with
    | none, rfl => exact fun first => (ended.apart first).2.1 rfl
    | some _, ⟨_, e, known, _, _, rfl⟩ =>
        rintro same
        cases same
        simp at known
  have stops : NoDigit (exponent ++ rest) := noDigit_exponent letter (ended.noDigit)
  have second : readFraction (fraction ++ (exponent ++ rest)) =
      .ok (n.fraction, exponent ++ rest) :=
    readFraction_complete point stops noPoint
  have first : readWhole (n.whole ++ (fraction ++ (exponent ++ rest))) =
      .ok (n.whole, fraction ++ (exponent ++ rest)) :=
    readWhole_eq_ok.mpr ⟨whole, noDigit_fraction point stops, rfl⟩
  have unsigned : readUnsigned n.negative (n.whole ++ (fraction ++ (exponent ++ rest))) =
      .ok (n, rest) :=
    readUnsigned_eq_ok.mpr ⟨rfl, _, _, first, second, third⟩
  rw [List.append_assoc, List.append_assoc, List.append_assoc]
  cases signed : n.negative with
  | true => rwa [signed] at unsigned
  | false =>
      rw [signed] at unsigned
      exact (read_unsigned whole).trans unsigned

/-! ## The value of a whole number -/

theorem spells_whole (whole : Whole digits) : (Numeral.mk false digits none none).Spells digits :=
  ⟨whole, [], [], rfl, rfl, by simp [sign]⟩

theorem le_foldl_digits (digits : Bytes) (n : Nat) :
    n ≤ digits.foldl (fun n b => n * 10 + (b.toNat - 0x30)) n := by
  induction digits generalizing n with
  | nil => exact le_rfl
  | cons b digits ih =>
      have later := ih (n * 10 + (b.toNat - 0x30))
      rw [List.foldl_cons]
      omega

theorem full_foldl_whole (digits : Bytes) {g : Gathered} (full : g.full = true) :
    (digits.foldl Gathered.whole g).full = true := by
  induction digits generalizing g with
  | nil => exact full
  | cons b digits ih =>
      rw [List.foldl_cons]
      exact ih (by simp [Gathered.whole, full])

/-- A whole number is gathered exactly, unless it is too large for a significand. -/
theorem foldl_whole (digits : Bytes) (n : Nat) :
    (digits.foldl Gathered.whole ⟨n, 0, false⟩).full = true ∨
      digits.foldl Gathered.whole ⟨n, 0, false⟩ =
        ⟨digits.foldl (fun n b => n * 10 + (b.toNat - 0x30)) n, 0, false⟩ := by
  induction digits generalizing n with
  | nil => exact .inr rfl
  | cons b digits ih =>
      simp only [List.foldl_cons, Gathered.whole]
      split
      next => exact .inl (full_foldl_whole digits rfl)
      next => exact ih _

theorem foldl_whole_of_lt {digits : Bytes} {n : Nat}
    (fits : digits.foldl (fun n b => n * 10 + (b.toNat - 0x30)) n < UInt64.size) :
    digits.foldl Gathered.whole ⟨n, 0, false⟩ =
      ⟨digits.foldl (fun n b => n * 10 + (b.toNat - 0x30)) n, 0, false⟩ := by
  induction digits generalizing n with
  | nil => rfl
  | cons b digits ih =>
      have next := le_foldl_digits digits (n * 10 + (b.toNat - 0x30))
      rw [List.foldl_cons] at fits
      rw [List.foldl_cons, List.foldl_cons, ← ih fits, Gathered.whole, if_neg]
      simp only [Bool.false_eq_true, false_or]
      omega

theorem value?_whole (fits : naturalOf digits < UInt64.size) :
    (Numeral.mk false digits none none).value? = some (.integer (naturalOf digits)) := by
  have gathered : digits.foldl Gathered.whole ⟨0, 0, false⟩ = ⟨naturalOf digits, 0, false⟩ :=
    foldl_whole_of_lt fits
  simp [value?, gathered]

theorem whole_of_value? {n : Numeral} {i : Int} (value : n.value? = some (.integer i))
    (natural : 0 ≤ i) :
    n.negative = false ∧ n.fraction = none ∧ n.exponent = none ∧ i = naturalOf n.whole := by
  unfold value? at value
  simp only at value
  split at value
  next integral =>
    obtain ⟨noFraction, noExponent, notFull, sign⟩ := integral
    have gathered := (foldl_whole n.whole 0).resolve_left (by simpa using notFull)
    rw [gathered] at value sign
    have positive : n.negative = false := by
      cases negative : n.negative with
      | false => rfl
      | true =>
          simp only [negative, Bool.not_true, Bool.false_eq_true, false_or] at sign
          simp only [negative, if_true, Option.some.injEq, Found.integer.injEq] at value
          omega
    simp only [positive, Bool.false_eq_true, if_false, Option.some.injEq,
      Found.integer.injEq] at value
    exact ⟨positive, by simpa using noFraction, by simpa using noExponent, value.symm⟩
  next =>
    split at value
    next =>
      split at value
      next => cases value
      next => cases value
    next => cases value

end Numeral
end ConnectedDevice.Json
