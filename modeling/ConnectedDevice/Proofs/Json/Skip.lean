import ConnectedDevice.Proofs.Json.Value

/-!
The machine that skips a value against the grammar. It keeps the brackets that are open, so what it
does from a value on is to take that value and to go on behind it.
-/

namespace ConnectedDevice.Json

variable {α : Type} {input rest bs v : Bytes}

/-! ## Scalars -/

theorem Numeral.Spells.front {n : Numeral} (spelled : n.Spells bs) :
    ∃ b tail, bs = b :: tail ∧ (b = 0x2D ∨ isDigit b = true) := by
  obtain ⟨whole, fraction, exponent, -, -, rfl⟩ := spelled
  cases signed : n.negative with
  | true => exact ⟨0x2D, _, rfl, .inl rfl⟩
  | false =>
      obtain ⟨d, ds, same⟩ := List.exists_cons_of_ne_nil whole.1.1
      refine ⟨d, ds ++ fraction ++ exponent, by simp [Numeral.sign, same], .inr ?_⟩
      exact whole.1.2 d (by simp [same])

/-- The first byte of a value is neither a blank nor a bracket. -/
theorem Scalar.front (scalar : Scalar v) :
    ∃ b tail, v = b :: tail ∧ isBlank b = false ∧
      ∀ bracket : Bracket, b ≠ bracket.opening ∧ b ≠ bracket.closing := by
  cases scalar with
  | null => exact ⟨0x6E, nullRest, rfl, rfl, by rintro (_ | _) <;> decide⟩
  | flag b =>
      cases b with
      | true => exact ⟨0x74, trueRest, rfl, rfl, by rintro (_ | _) <;> decide⟩
      | false => exact ⟨0x66, falseRest, rfl, rfl, by rintro (_ | _) <;> decide⟩
  | text => exact ⟨0x22, _, rfl, rfl, by rintro (_ | _) <;> decide⟩
  | number spelled =>
      obtain ⟨b, tail, rfl, rfl | digit⟩ := spelled.front
      · exact ⟨0x2D, tail, rfl, rfl, by rintro (_ | _) <;> decide⟩
      · refine ⟨b, tail, rfl, isBlank_of_digit digit, ?_⟩
        rintro (_ | _) <;> constructor <;> rintro rfl <;> cases digit

theorem skipScalar_sound (skipped : skipScalar input = .ok rest) :
    ∃ v, Scalar v ∧ input = v ++ rest := by
  unfold skipScalar at skipped
  split at skipped
  next =>
    obtain rfl := readIdent_eq_ok.mp skipped
    exact ⟨nullText, .null, rfl⟩
  next =>
    obtain rfl := readIdent_eq_ok.mp skipped
    exact ⟨flagText true, .flag true, rfl⟩
  next =>
    obtain rfl := readIdent_eq_ok.mp skipped
    exact ⟨flagText false, .flag false, rfl⟩
  next =>
    obtain ⟨raw, loose, rfl⟩ := skipText_eq_ok.mp skipped
    exact ⟨inQuotes raw, .text loose, by simp [inQuotes]⟩
  next =>
    split at skipped
    next =>
      split at skipped
      next number =>
        cases skipped
        obtain ⟨v, spelled, same⟩ := Numeral.read_sound number
        exact ⟨v, .number spelled, same⟩
      next => cases skipped
    next => cases skipped
  next => cases skipped

theorem skipScalar_complete (scalar : Scalar v) (ended : Ended rest) :
    skipScalar (v ++ rest) = .ok rest := by
  cases scalar with
  | null => exact readIdent_eq_ok.mpr rfl
  | flag b =>
      cases b with
      | true => exact readIdent_eq_ok.mpr rfl
      | false => exact readIdent_eq_ok.mpr rfl
  | @text raw loose => exact skipText_eq_ok.mpr ⟨raw, loose, by simp⟩
  | number spelled =>
      have number := Numeral.read_complete spelled ended
      obtain ⟨b, tail, rfl, front⟩ := spelled.front
      rw [List.cons_append] at number ⊢
      unfold skipScalar
      split
      next same =>
        cases same
        simp [isDigit] at front
      next same =>
        cases same
        simp [isDigit] at front
      next same =>
        cases same
        simp [isDigit] at front
      next same =>
        cases same
        simp [isDigit] at front
      next same =>
        cases same
        simp only [if_pos front, number]
      next none => cases none

/-! ## Single steps -/

def Bracket.entry : Bracket → Expecting
  | .array => .value
  | .object => .member

variable {fuel : Nat} {opened : List Bracket} {b : Bracket} {after : Bool} {out : Bytes}

theorem Bracket.isBlank_opening (b : Bracket) : isBlank b.opening = false := by cases b <;> rfl

theorem Bracket.isBlank_closing (b : Bracket) : isBlank b.closing = false := by cases b <;> rfl

section

attribute [local simp] skip

theorem skip_next : skip (fuel + 1) (b :: opened) (.next after) input =
    match skipBlanks input with
    | [] => .error (match b with | .array => .arrayEnds | .object => .objectEnds)
    | c :: rest =>
      if c = b.closing then skip fuel opened (.next true) rest
      else if !after then skip fuel (b :: opened) b.entry (c :: rest)
      else if c = 0x2C then skip fuel (b :: opened) b.entry rest
      else
        .error (match b with
          | .array => .expectedCommaInArray
          | .object => .expectedCommaInObject) := by
  cases b <;> simp [Bracket.closing, Bracket.entry] <;> split <;> grind

theorem skip_opening {first : Bytes} (opens : Led [b.opening] first) :
    skip (fuel + 1) opened .value (first ++ rest) =
      skip fuel (b :: opened) (.next false) rest := by
  rw [skip, opens.front b.isBlank_opening]
  cases b <;> rfl

theorem skip_closing {last : Bytes} (closes : Led [b.closing] last) :
    skip (fuel + 1) (b :: opened) (.next after) (last ++ rest) =
      skip fuel opened (.next true) rest := by
  rw [skip_next, closes.front b.isBlank_closing]
  simp

theorem skip_comma {comma : Bytes} (follows : Led [0x2C] comma) :
    skip (fuel + 1) (b :: opened) (.next true) (comma ++ rest) =
      skip fuel (b :: opened) b.entry rest := by
  have other : (0x2C : UInt8) ≠ b.closing := by cases b <;> decide
  rw [skip_next, follows.front rfl]
  simp [other]

theorem skip_scalar {led : Bytes} (scalar : Scalar v) (before : Led v led) (ended : Ended rest) :
    skip (fuel + 1) opened .value (led ++ rest) = skip fuel opened (.next true) rest := by
  obtain ⟨c, tail, rfl, shown, noBracket⟩ := scalar.front
  have taken : skipScalar (c :: (tail ++ rest)) = .ok rest := skipScalar_complete scalar ended
  rw [skip, before.front shown]
  split
  next same => exact absurd (List.cons.inj same).1 (noBracket .array).1
  next same => exact absurd (List.cons.inj same).1 (noBracket .object).1
  next => rw [taken]

theorem skip_member {raw name colon : Bytes} (loose : LooseContent raw)
    (named : Led (inQuotes raw) name) (follows : Led [0x3A] colon) :
    skip (fuel + 1) opened .member (name ++ (colon ++ rest)) = skip fuel opened .value rest := by
  have taken : skipText (raw ++ 0x22 :: (colon ++ rest)) = .ok (colon ++ rest) :=
    skipText_eq_ok.mpr ⟨raw, loose, by simp⟩
  simp [named.front rfl, taken, follows.front rfl]

theorem skip_skipBlanks :
    skip fuel opened b.entry (skipBlanks input) = skip fuel opened b.entry input := by
  cases fuel with
  | zero => rfl
  | succ => cases b <;> simp [Bracket.entry]

end

/-! What a step must have been, where the machine comes to an end. -/

theorem of_skip_value (skipped : skip (fuel + 1) opened .value input = .ok out) :
    (∃ b first rest, Led [Bracket.opening b] first ∧ input = first ++ rest ∧
        skip fuel (b :: opened) (.next false) rest = .ok out) ∨
      ∃ v led rest, Scalar v ∧ Led v led ∧ input = led ++ rest ∧
        skip fuel opened (.next true) rest = .ok out := by
  rw [skip] at skipped
  split at skipped
  next rest front =>
    obtain ⟨first, opens, rfl⟩ := led_of_skipBlanks front
    exact .inl ⟨.array, first, rest, opens, rfl, skipped⟩
  next rest front =>
    obtain ⟨first, opens, rfl⟩ := led_of_skipBlanks front
    exact .inl ⟨.object, first, rest, opens, rfl, skipped⟩
  next =>
    split at skipped
    next rest taken =>
      obtain ⟨v, scalar, same⟩ := skipScalar_sound taken
      obtain ⟨gap, blank, whole⟩ := eq_gap_append_skipBlanks input
      exact .inr ⟨v, gap ++ v, rest, scalar, ⟨gap, blank, rfl⟩, by rw [whole, same]; simp, skipped⟩
    next => cases skipped

theorem of_skip_member (skipped : skip (fuel + 1) opened .member input = .ok out) :
    ∃ raw name colon rest, LooseContent raw ∧ Led (inQuotes raw) name ∧ Led [0x3A] colon ∧
      input = name ++ (colon ++ rest) ∧ skip fuel opened .value rest = .ok out := by
  rw [skip] at skipped
  split at skipped
  next => cases skipped
  next front =>
    split at skipped
    next => cases skipped
    next taken =>
      obtain ⟨-, gap, blank, rfl⟩ := skipBlanks_eq_cons.mp front
      obtain ⟨raw, loose, rfl⟩ := skipText_eq_ok.mp taken
      split at skipped
      next => cases skipped
      next rest back =>
        obtain ⟨colon, follows, rfl⟩ := led_of_skipBlanks back
        exact ⟨raw, gap ++ inQuotes raw, colon, rest, loose, ⟨gap, blank, rfl⟩, follows,
          by simp [inQuotes], skipped⟩
      next => cases skipped
  next => cases skipped

theorem of_skip_next (skipped : skip (fuel + 1) (b :: opened) (.next after) input = .ok out) :
    (∃ last rest, Led [b.closing] last ∧ input = last ++ rest ∧
        skip fuel opened (.next true) rest = .ok out) ∨
      (after = false ∧ skip fuel (b :: opened) b.entry input = .ok out) ∨
        after = true ∧ ∃ comma rest, Led [0x2C] comma ∧ input = comma ++ rest ∧
          skip fuel (b :: opened) b.entry rest = .ok out := by
  rw [skip_next] at skipped
  split at skipped
  next => cases skipped
  next c rest front =>
    obtain ⟨led, before, same⟩ := led_of_skipBlanks front
    split at skipped
    next closes => exact .inl ⟨led, rest, closes ▸ before, same, skipped⟩
    next =>
      cases after with
      | false =>
          rw [← front] at skipped
          exact .inr (.inl ⟨rfl, skip_skipBlanks.symm.trans skipped⟩)
      | true =>
          split at skipped
          next absurd => cases absurd
          next =>
            split at skipped
            next comma => exact .inr (.inr ⟨rfl, led, rest, comma ▸ before, same, skipped⟩)
            next => cases skipped

/-! ## What is skipped is grammatical -/

/-- With less fuel than `bound`, the machine takes an entry between the brackets and goes on. -/
def Takes (b : Bracket) (opened : List Bracket) (bound : Nat) (Spells : α → Bytes → Prop) : Prop :=
  ∀ fuel < bound, ∀ input out, skip fuel (b :: opened) b.entry input = .ok out →
    ∃ x bs rest, Spells x bs ∧ input = bs ++ rest ∧
      ∃ less < fuel, skip less (b :: opened) (.next true) rest = .ok out

theorem later_of_skip {Spells : α → Bytes → Prop} {bound : Nat}
    (takes : Takes b opened bound Spells) (within : fuel ≤ bound)
    (skipped : skip fuel (b :: opened) (.next true) input = .ok out) :
    ∃ xs bs last rest, Later Spells xs bs ∧ Led [b.closing] last ∧ input = bs ++ (last ++ rest) ∧
      ∃ less < fuel, skip less opened (.next true) rest = .ok out := by
  induction fuel using Nat.strongRecOn generalizing input with
  | _ fuel ih =>
      cases fuel with
      | zero => cases skipped
      | succ fuel =>
          rcases of_skip_next skipped with ⟨last, rest, closes, rfl, on⟩ | ⟨no, -⟩ |
            ⟨-, comma, more, follows, rfl, on⟩
          · exact ⟨[], [], last, rest, .nil, closes, rfl, fuel, Nat.lt_succ_self fuel, on⟩
          · cases no
          · obtain ⟨x, bs, rest, spelled, rfl, less, lower, on⟩ := takes fuel (by omega) _ _ on
            obtain ⟨xs, later, last, rest, spelled', closes, rfl, less', lower', on⟩ :=
              ih less (by omega) (by omega) on
            exact ⟨x :: xs, _, last, rest, .cons follows spelled spelled', closes, by simp, less',
              by omega, on⟩

theorem series_of_skip {Spells : α → Bytes → Prop} {bound : Nat}
    (takes : Takes b opened bound Spells) (within : fuel ≤ bound)
    (skipped : skip fuel (b :: opened) (.next false) input = .ok out) :
    ∃ xs bs last rest, Series Spells xs bs ∧ Led [b.closing] last ∧
      input = bs ++ (last ++ rest) ∧
        ∃ less < fuel, skip less opened (.next true) rest = .ok out := by
  cases fuel with
  | zero => cases skipped
  | succ fuel =>
      rcases of_skip_next skipped with ⟨last, rest, closes, rfl, on⟩ | ⟨-, on⟩ | ⟨no, -⟩
      · exact ⟨[], [], last, rest, rfl, closes, rfl, fuel, Nat.lt_succ_self fuel, on⟩
      · obtain ⟨x, first, rest, spelled, rfl, less, lower, on⟩ := takes fuel (by omega) _ _ on
        obtain ⟨xs, later, last, rest, spelled', closes, rfl, less', lower', on⟩ :=
          later_of_skip takes (by omega) on
        exact ⟨x :: xs, _, last, rest, ⟨first, later, spelled, spelled', rfl⟩, closes, by simp,
          less', by omega, on⟩
      · cases no

section

variable {β : Type} {Spells : α → Bytes → Prop} {Spells' : β → Bytes → Prop} {P : β → Prop}
  {xs : List α}

/-- Entries are read anew where each of them can be. -/
theorem Later.choose (each : ∀ x bs, Spells x bs → ∃ y, P y ∧ Spells' y bs)
    (later : Later Spells xs bs) : ∃ ys, (∀ y ∈ ys, P y) ∧ Later Spells' ys bs := by
  induction later with
  | nil => exact ⟨[], by simp, .nil⟩
  | cons follows spelled _ ih =>
      obtain ⟨y, here, spelled'⟩ := each _ _ spelled
      obtain ⟨ys, all, later⟩ := ih
      exact ⟨y :: ys, List.forall_mem_cons.mpr ⟨here, all⟩, .cons follows spelled' later⟩

theorem Series.choose (each : ∀ x bs, Spells x bs → ∃ y, P y ∧ Spells' y bs)
    (list : Series Spells xs bs) : ∃ ys, (∀ y ∈ ys, P y) ∧ Series Spells' ys bs := by
  cases xs with
  | nil => exact ⟨[], by simp, list⟩
  | cons x xs =>
      obtain ⟨first, rest, spelled, later, same⟩ := list
      obtain ⟨y, here, spelled'⟩ := each _ _ spelled
      obtain ⟨ys, all, later⟩ := later.choose each
      exact ⟨y :: ys, List.forall_mem_cons.mpr ⟨here, all⟩, first, rest, spelled', later, same⟩

end

theorem grammatical_of_skip (skipped : skip fuel opened .value input = .ok out) :
    ∃ v led rest, Grammatical v ∧ Led v led ∧ input = led ++ rest ∧
      ∃ less < fuel, skip less opened (.next true) rest = .ok out := by
  -- every value inside is taken with less fuel
  induction fuel using Nat.strongRecOn generalizing opened input out with
  | _ fuel ih =>
      cases fuel with
      | zero => cases skipped
      | succ fuel =>
          rcases of_skip_value skipped with ⟨b, first, rest, opens, rfl, on⟩ |
            ⟨v, led, rest, scalar, before, rfl, on⟩
          · cases b with
            | array =>
                have takes : Takes .array opened fuel fun v bs => Grammatical v ∧ Led v bs := by
                  intro less lower input out skipped
                  obtain ⟨v, led, rest, grammatical, before, same, on⟩ :=
                    ih less (by omega) skipped
                  exact ⟨v, led, rest, ⟨grammatical, before⟩, same, on⟩
                obtain ⟨vs, inner, last, rest, list, closes, rfl, less, lower, on⟩ :=
                  series_of_skip takes le_rfl on
                obtain ⟨_, each, list⟩ := list.choose fun x _ both => ⟨x, both⟩
                obtain ⟨v, enclosed, before⟩ := led_enclosed.mpr ⟨first, last, opens, closes, rfl⟩
                exact ⟨v, _, rest, .array each list enclosed, before, by simp, less, by omega, on⟩
            | object =>
                have takes : Takes .object opened fuel fun (m : Bytes × Bytes) bs =>
                    (LooseContent m.1 ∧ Grammatical m.2) ∧ Labelled m.1 m.2 bs := by
                  intro less lower input out skipped
                  cases less with
                  | zero => cases skipped
                  | succ less =>
                      obtain ⟨raw, name, colon, rest, loose, named, follows, rfl, on⟩ :=
                        of_skip_member skipped
                      obtain ⟨v, led, rest, grammatical, before, rfl, less', lower', on⟩ :=
                        ih less (by omega) on
                      exact ⟨(raw, v), _, rest, ⟨⟨loose, grammatical⟩, name, colon, led, named,
                        follows, before, rfl⟩, by simp, less', by omega, on⟩
                obtain ⟨ms, inner, last, rest, list, closes, rfl, less, lower, on⟩ :=
                  series_of_skip takes le_rfl on
                obtain ⟨_, each, list⟩ := list.choose fun x _ both => ⟨x, both⟩
                obtain ⟨v, enclosed, before⟩ := led_enclosed.mpr ⟨first, last, opens, closes, rfl⟩
                exact ⟨v, _, rest, .object (fun m within => (each m within).1)
                  (fun m within => (each m within).2) list enclosed, before, by simp, less,
                  by omega, on⟩
          · exact ⟨v, led, rest, .scalar scalar, before, rfl, fuel, Nat.lt_succ_self fuel, on⟩

/-! ## What is grammatical is skipped -/

/-- With `n` steps or more the machine comes to its end and leaves `out`. -/
def Settles (n : Nat) (opened : List Bracket) (e : Expecting) (input out : Bytes) : Prop :=
  ∀ fuel, n ≤ fuel → skip fuel opened e input = .ok out

variable {n m : Nat} {e e' : Expecting} {opened' : List Bracket} {input' : Bytes}

theorem Settles.mono (settles : Settles n opened e input out) (more : n ≤ m) :
    Settles m opened e input out :=
  fun fuel enough => settles fuel (more.trans enough)

theorem Settles.step (on : Settles n opened' e' input' out)
    (same : ∀ fuel, skip (fuel + 1) opened e input = skip fuel opened' e' input') :
    Settles (n + 1) opened e input out := by
  intro fuel enough
  obtain ⟨fuel, rfl⟩ := Nat.exists_eq_succ_of_ne_zero (by omega : fuel ≠ 0)
  rw [same, on fuel (by omega)]

/-- An entry between brackets takes two steps for each of its bytes at most. -/
structure Passes (b : Bracket) (opened : List Bracket) (out bs : Bytes) : Prop where
  front : ∃ c tail, Led (c :: tail) bs ∧ isBlank c = false ∧ c ≠ b.closing
  pass : ∀ {rest n}, Ended rest → Settles n (b :: opened) (.next true) rest out →
    Settles (n + 2 * bs.length) (b :: opened) b.entry (bs ++ rest) out

theorem Passes.first (passes : Passes b opened out bs) (ended : Ended rest)
    (on : Settles n (b :: opened) (.next true) rest out) :
    Settles (n + 2 * bs.length + 1) (b :: opened) (.next false) (bs ++ rest) out := by
  refine (passes.pass ended on).step fun fuel => ?_
  obtain ⟨c, tail, before, shown, other⟩ := passes.front
  have front := before.front shown rest
  rw [skip_next, front]
  simp only [if_neg other, Bool.not_false, if_true]
  rw [← front, skip_skipBlanks]

theorem ended_of_led {led : Bytes} {c : UInt8} (before : Led [c] led)
    (ends : c ∈ [0x2C, Bracket.array.closing, Bracket.object.closing]) : Ended (led ++ rest) := by
  obtain ⟨gap, blank, rfl⟩ := before
  intro d first
  cases gap with
  | nil =>
      obtain rfl : c = d := by simpa using first
      exact .inr ends
  | cons g gap =>
      obtain rfl : g = d := by simpa using first
      exact .inl (blank g (by simp))

theorem ended_later {Spells : α → Bytes → Prop} {xs : List α} {last : Bytes}
    (later : Later Spells xs bs) (closes : Led [b.closing] last) :
    Ended (bs ++ (last ++ rest)) := by
  cases later with
  | nil =>
      rw [List.nil_append]
      exact ended_of_led closes (by cases b <;> simp)
  | cons follows =>
      rw [List.append_assoc]
      exact ended_of_led follows (by simp)

section

variable {Spells : α → Bytes → Prop} {xs : List α} {last : Bytes}

theorem settles_later (later : Later Spells xs bs)
    (each : ∀ x ∈ xs, ∀ bs, Spells x bs → Passes b opened out bs) (closes : Led [b.closing] last)
    (on : Settles n opened (.next true) rest out) :
    Settles (n + 1 + 2 * bs.length) (b :: opened) (.next true) (bs ++ (last ++ rest)) out := by
  induction later with
  | nil => exact on.step fun fuel => skip_closing closes
  | @cons x xs comma bs more follows spelled later ih =>
      obtain ⟨passes, each⟩ := List.forall_mem_cons.mp each
      have entry := (passes bs spelled).pass (ended_later later closes) (ih each)
      refine .mono (entry.step fun fuel => ?_) ?_
      · rw [← skip_comma follows]
        simp
      · have nonempty := follows.length_pos
        simp only [List.length_append]
        omega

theorem settles_series (list : Series Spells xs bs)
    (each : ∀ x ∈ xs, ∀ bs, Spells x bs → Passes b opened out bs) (closes : Led [b.closing] last)
    (on : Settles n opened (.next true) rest out) :
    Settles (n + 2 + 2 * bs.length) (b :: opened) (.next false) (bs ++ (last ++ rest)) out := by
  cases xs with
  | nil =>
      obtain rfl := list
      exact (on.step fun fuel => skip_closing closes).mono (by omega)
  | cons x xs =>
      obtain ⟨first, more, spelled, later, rfl⟩ := list
      obtain ⟨passes, each⟩ := List.forall_mem_cons.mp each
      have entry := (passes first spelled).first (ended_later later closes)
        (settles_later later each closes on)
      rw [List.append_assoc]
      refine entry.mono ?_
      simp only [List.length_append]
      omega

theorem settles_enclosed {inner led : Bytes} (list : Series Spells xs inner)
    (enclosed : Enclosed b inner v) (each : ∀ x ∈ xs, ∀ bs, Spells x bs → Passes b opened out bs)
    (before : Led v led) (on : Settles n opened (.next true) rest out) :
    Settles (n + 2 * led.length) opened .value (led ++ rest) out := by
  obtain ⟨first, last, opens, closes, rfl⟩ := led_enclosed.mp ⟨v, enclosed, before⟩
  refine .mono ((settles_series list each closes on).step fun fuel => ?_) ?_
  · rw [← skip_opening opens]
    simp
  · have front := opens.length_pos
    have back := closes.length_pos
    simp only [List.length_append]
    omega

end

theorem Grammatical.front (grammatical : Grammatical v) :
    ∃ c tail, v = c :: tail ∧ isBlank c = false ∧ ∀ b : Bracket, c ≠ b.closing := by
  cases grammatical with
  | scalar scalar =>
      obtain ⟨c, tail, same, shown, noBracket⟩ := scalar.front
      exact ⟨c, tail, same, shown, fun b => (noBracket b).2⟩
  | array _ _ enclosed =>
      obtain ⟨last, -, rfl⟩ := enclosed
      exact ⟨_, _, rfl, rfl, by rintro (_ | _) <;> decide⟩
  | object _ _ _ enclosed =>
      obtain ⟨last, -, rfl⟩ := enclosed
      exact ⟨_, _, rfl, rfl, by rintro (_ | _) <;> decide⟩

theorem Labelled.front {raw value : Bytes} (labelled : Labelled raw value bs) :
    ∃ tail, Led (0x22 :: tail) bs := by
  obtain ⟨_, colon, led, ⟨gap, blank, rfl⟩, -, -, rfl⟩ := labelled
  exact ⟨raw ++ [0x22] ++ (colon ++ led), gap, blank, by simp [inQuotes]⟩

theorem settles_value {led : Bytes} (grammatical : Grammatical v) (before : Led v led)
    (ended : Ended rest) (on : Settles n opened (.next true) rest out) :
    Settles (n + 2 * led.length) opened .value (led ++ rest) out := by
  induction grammatical generalizing led rest n opened with
  | scalar scalar =>
      refine (on.step fun fuel => skip_scalar scalar before ended).mono ?_
      obtain ⟨c, tail, rfl, -⟩ := scalar.front
      have nonempty := before.length_pos
      omega
  | array each list enclosed ih =>
      refine settles_enclosed list enclosed (fun v within bs led => ?_) before on
      obtain ⟨c, tail, rfl, shown, other⟩ := (each v within).front
      exact ⟨⟨c, tail, led, shown, other .array⟩, ih _ within led⟩
  | object names each list enclosed ih =>
      refine settles_enclosed list enclosed (fun m within bs labelled => ?_) before on
      obtain ⟨tail, front⟩ := labelled.front
      obtain ⟨name, colon, led, named, follows, before, rfl⟩ := labelled
      refine ⟨⟨0x22, tail, front, rfl, by decide⟩, fun {rest n} ended on => ?_⟩
      refine .mono ((ih m within before ended on).step fun fuel => ?_) ?_
      · rw [← skip_member (names m within) named follows]
        simp [Bracket.entry]
      · have nonempty := named.length_pos
        simp only [List.length_append]
        omega

theorem skipValue_sound (skipped : skipValue input = .ok rest) :
    ∃ v led, Grammatical v ∧ Led v led ∧ input = led ++ rest := by
  obtain ⟨v, led, left, grammatical, before, rfl, less, -, on⟩ := grammatical_of_skip skipped
  cases less with
  | zero => cases on
  | succ =>
      cases on
      exact ⟨v, led, grammatical, before, rfl⟩

theorem skipValue_complete {led : Bytes} (grammatical : Grammatical v) (before : Led v led)
    (ended : Ended rest) : skipValue (led ++ rest) = .ok rest := by
  have last : Settles 1 [] (.next true) rest rest := by
    intro fuel enough
    obtain ⟨fuel, rfl⟩ := Nat.exists_eq_succ_of_ne_zero (by omega : fuel ≠ 0)
    rfl
  refine settles_value grammatical before ended last _ ?_
  simp only [List.length_append]
  omega

end ConnectedDevice.Json
