import ConnectedDevice.Proofs.Update.Fields

/-!
The readers of members and of elements against the grammar. They take a list entry by entry, and
what they gather of the fields is what the entries say of them.
-/

namespace ConnectedDevice.Update

open Json

variable {input rest bs : Bytes} {seen seen' : List Field} {u u' : Update} {m : Member}

/-! ## Lists from the front -/

section

variable {α : Type} {Spells : α → Bytes → Prop} {first : Bool} {x : α} {xs : List α}

/-- A series of entries, or those that follow others. -/
def Listed (first : Bool) (Spells : α → Bytes → Prop) (xs : List α) (bs : Bytes) : Prop :=
  if first then Series Spells xs bs else Later Spells xs bs

/-- What stands before an entry. -/
def Comma (first : Bool) (bs : Bytes) : Prop := if first then bs = [] else Led [0x2C] bs

theorem listed_nil : Listed first Spells [] bs ↔ bs = [] := by
  cases first with
  | true => exact Iff.rfl
  | false =>
      constructor
      · rintro ⟨⟩
        rfl
      · rintro rfl
        exact Later.nil

theorem listed_cons : Listed first Spells (x :: xs) bs ↔
    ∃ comma entry rest, Comma first comma ∧ Spells x entry ∧ Listed false Spells xs rest ∧
      bs = comma ++ (entry ++ rest) := by
  cases first with
  | true =>
      constructor
      · rintro ⟨entry, rest, spelled, later, rfl⟩
        exact ⟨[], entry, rest, rfl, spelled, later, rfl⟩
      · rintro ⟨_, entry, rest, rfl, spelled, later, rfl⟩
        exact ⟨entry, rest, spelled, later, rfl⟩
  | false =>
      constructor
      · intro later
        obtain _ | ⟨follows, spelled, later⟩ := later
        exact ⟨_, _, _, follows, spelled, later, rfl⟩
      · rintro ⟨_, _, _, follows, spelled, later, rfl⟩
        exact Later.cons follows spelled later

end

/-! ## Members -/

theorem readColon_eq_ok :
    readColon input = .ok rest ↔ ∃ colon, Led [0x3A] colon ∧ input = colon ++ rest := by
  unfold readColon
  constructor
  · intro read
    split at read
    next => cases read
    next front =>
      cases read
      exact led_of_skipBlanks front
    next => cases read
  · rintro ⟨colon, follows, rfl⟩
    simp [follows.front rfl]

/-- The name comes first; whether it is known decides how its value is read. -/
theorem readMember_eq_ok : readMember seen u input = .ok ((seen', u'), rest) ↔
    ∃ label left value, readText input = .ok (label, left) ∧ readColon left = .ok value ∧
      ((∃ f, Field.ofLabel? label = some f ∧ f ∉ seen ∧ seen' = f :: seen ∧
          f.read u value = .ok (u', rest)) ∨
        Field.ofLabel? label = none ∧ seen' = seen ∧ u' = u ∧ skipValue value = .ok rest) := by
  simp only [readMember, bind_eq_ok, Prod.exists]
  constructor
  · rintro ⟨label, left, text, read⟩
    split at read
    next f known =>
      split at read
      next => cases read
      next fresh =>
        simp only [bind_eq_ok, pure, Except.pure, Prod.exists] at read
        obtain ⟨value, colon, _, _, taken, ends⟩ := read
        cases ends
        exact ⟨label, left, value, text, colon, .inl ⟨f, known, fresh, rfl, taken⟩⟩
    next unknown =>
      simp only [bind_eq_ok, pure, Except.pure] at read
      obtain ⟨value, colon, _, taken, ends⟩ := read
      cases ends
      exact ⟨label, left, value, text, colon, .inr ⟨unknown, rfl, rfl, taken⟩⟩
  · rintro ⟨label, left, value, text, colon, ⟨f, known, fresh, rfl, taken⟩ |
      ⟨unknown, rfl, rfl, taken⟩⟩ <;> refine ⟨label, left, text, ?_⟩
    · simp [known, fresh, colon, taken, bind, Except.bind, pure, Except.pure]
    · simp [unknown, colon, taken, bind, Except.bind, pure, Except.pure]

/-- A member behind the opening quote of its name. -/
def Behind (m : Member) (bs : Bytes) : Prop :=
  Grammatical m.value ∧ ∃ raw colon led, Content raw m.name.toUTF8.data.toList ∧
    Led [0x3A] colon ∧ Led m.value led ∧ bs = raw ++ 0x22 :: (colon ++ led)

theorem spells_iff_behind : m.Spells bs ↔
    ∃ quote behind, Led [0x22] quote ∧ Behind m behind ∧ bs = quote ++ behind := by
  constructor
  · rintro ⟨grammatical, raw, content, _, colon, led, ⟨gap, blank, rfl⟩, follows, before, rfl⟩
    exact ⟨gap ++ [0x22], _, ⟨gap, blank, rfl⟩,
      ⟨grammatical, raw, colon, led, content, follows, before, rfl⟩, by simp [inQuotes]⟩
  · rintro ⟨_, _, ⟨gap, blank, rfl⟩, ⟨grammatical, raw, colon, led, content, follows, before, rfl⟩,
      rfl⟩
    exact ⟨grammatical, raw, content, gap ++ inQuotes raw, colon, led, ⟨gap, blank, rfl⟩, follows,
      before, by simp [inQuotes]⟩

theorem readMember_sound (read : readMember seen u input = .ok ((seen', u'), rest)) :
    ∃ m bs, Behind m bs ∧ input = bs ++ rest ∧ Step seen u m seen' u' := by
  obtain ⟨label, left, value, text, punctuated, how⟩ := readMember_eq_ok.mp read
  obtain ⟨raw, content, rfl⟩ := readText_eq_ok.mp text
  obtain ⟨colon, follows, rfl⟩ := readColon_eq_ok.mp punctuated
  have behind {v led : Bytes} (grammatical : Grammatical v) (before : Led v led) :
      Behind ⟨label, v⟩ (raw ++ 0x22 :: (colon ++ led)) :=
    ⟨grammatical, raw, colon, led, content, follows, before, rfl⟩
  rcases how with ⟨f, known, fresh, rfl, taken⟩ | ⟨unknown, rfl, rfl, taken⟩
  · obtain ⟨led, ⟨⟨v, spelled, before⟩, frame⟩, rfl⟩ := (f.reads u).sound taken
    refine ⟨_, _, behind (grammatical_of_entry spelled) before, by simp, .inl ?_⟩
    exact ⟨f, Field.ofLabel?_eq_some.mp known, fresh, rfl, spelled, frame⟩
  · obtain ⟨v, led, grammatical, before, rfl⟩ := skipValue_sound taken
    refine ⟨_, _, behind grammatical before, by simp, .inr ?_⟩
    exact ⟨Field.ofLabel?_eq_none.mp unknown, rfl, rfl⟩

theorem readMember_complete (behind : Behind m bs) (step : Step seen u m seen' u')
    (ended : Ended rest) : readMember seen u (bs ++ rest) = .ok ((seen', u'), rest) := by
  obtain ⟨grammatical, raw, colon, led, content, follows, before, rfl⟩ := behind
  refine readMember_eq_ok.mpr ⟨m.name, colon ++ (led ++ rest), led ++ rest,
    readText_eq_ok.mpr ⟨raw, content, by simp⟩, readColon_eq_ok.mpr ⟨colon, follows, rfl⟩, ?_⟩
  rcases step with ⟨f, known, fresh, rfl, spelled, frame⟩ | ⟨unknown, rfl, rfl⟩
  · exact .inl ⟨f, Field.ofLabel?_eq_some.mpr known, fresh, rfl,
      (f.reads u).complete ⟨⟨m.value, spelled, before⟩, frame⟩ ended⟩
  · exact .inr ⟨Field.ofLabel?_eq_none.mpr unknown, rfl, rfl,
      skipValue_complete grammatical before ended⟩

/-! ## Objects -/

theorem nextMember_true {first : Bool} : nextMember first input = .ok (true, rest) ↔
    ∃ comma quote, Comma first comma ∧ Led [0x22] quote ∧ input = comma ++ (quote ++ rest) := by
  unfold nextMember
  constructor
  · intro read
    split at read
    next => cases read
    next => cases read
    next b left front =>
      split at read
      next isFirst =>
        split at read
        next same =>
          cases read
          obtain ⟨quote, opens, rfl⟩ := led_of_skipBlanks (same ▸ front)
          exact ⟨[], quote, by simp [Comma, isFirst], opens, rfl⟩
        next => cases read
      next notFirst =>
        split at read
        next same =>
          obtain ⟨comma, follows, rfl⟩ := led_of_skipBlanks (same ▸ front)
          split at read
          next => cases read
          next front =>
            cases read
            obtain ⟨quote, opens, rfl⟩ := led_of_skipBlanks front
            exact ⟨comma, quote, by simp [Comma, notFirst, follows], opens, rfl⟩
          next => cases read
          next => cases read
        next => cases read
  · rintro ⟨comma, quote, before, opens, rfl⟩
    cases first with
    | true =>
        obtain rfl : comma = [] := before
        simp [opens.front rfl]
    | false =>
        have follows : Led [0x2C] comma := before
        simp [follows.front rfl, opens.front rfl]

theorem nextMember_false {first : Bool} : nextMember first input = .ok (false, rest) ↔
    ∃ last, Led [Bracket.object.closing] last ∧ input = last ++ rest := by
  unfold nextMember
  constructor
  · intro read
    split at read
    next => cases read
    next front =>
      cases read
      exact led_of_skipBlanks front
    next =>
      split at read
      next => split at read <;> cases read
      next =>
        split at read
        next => split at read <;> cases read
        next => cases read
  · rintro ⟨last, closes, rfl⟩
    simp only [closes.front rfl]
    rfl

theorem readMembers_sound {fuel : Nat} {first : Bool}
    (read : readMembers fuel first seen u input = .ok (u', rest)) :
    ∃ ms bs last, Listed first Member.Spells ms bs ∧ Led [Bracket.object.closing] last ∧
      input = bs ++ (last ++ rest) ∧ Gathers seen u ms u' := by
  induction fuel generalizing first seen u input with
  | zero => cases read
  | succ fuel ih =>
      rw [readMembers] at read
      split at read
      next => cases read
      next next =>
        cases read
        obtain ⟨last, closes, rfl⟩ := nextMember_false.mp next
        exact ⟨[], [], last, listed_nil.mpr rfl, closes, rfl, .nil⟩
      next next =>
        obtain ⟨comma, quote, before, opens, rfl⟩ := nextMember_true.mp next
        split at read
        next => cases read
        next taken =>
          obtain ⟨m, behind, spelled, rfl, step⟩ := readMember_sound taken
          obtain ⟨ms, bs, last, later, closes, rfl, gathers⟩ := ih read
          have spelled : m.Spells (quote ++ behind) :=
            spells_iff_behind.mpr ⟨quote, behind, opens, spelled, rfl⟩
          exact ⟨m :: ms, _, last, listed_cons.mpr ⟨comma, _, bs, before, spelled, later, rfl⟩,
            closes, by simp, .cons step gathers⟩

theorem readMembers_complete {fuel : Nat} {first : Bool} {ms : List Member} {last : Bytes}
    (gathers : Gathers seen u ms u') (list : Listed first Member.Spells ms bs)
    (closes : Led [Bracket.object.closing] last) (enough : ms.length < fuel) :
    readMembers fuel first seen u (bs ++ (last ++ rest)) = .ok (u', rest) := by
  induction gathers generalizing fuel first bs with
  | nil =>
      obtain ⟨fuel, rfl⟩ := Nat.exists_eq_succ_of_ne_zero (by omega : fuel ≠ 0)
      obtain rfl := listed_nil.mp list
      rw [readMembers, List.nil_append, nextMember_false.mpr ⟨last, closes, rfl⟩]
  | @cons seen seen' u u' u'' m ms step _ ih =>
      obtain ⟨fuel, rfl⟩ := Nat.exists_eq_succ_of_ne_zero (by omega : fuel ≠ 0)
      obtain ⟨comma, entry, more, before, spelled, later, rfl⟩ := listed_cons.mp list
      obtain ⟨quote, behind, opens, taken, rfl⟩ := spells_iff_behind.mp spelled
      have next : nextMember first (comma ++ (quote ++ (behind ++ (more ++ (last ++ rest))))) =
          .ok (true, behind ++ (more ++ (last ++ rest))) :=
        nextMember_true.mpr ⟨comma, quote, before, opens, rfl⟩
      have ended : Ended (more ++ (last ++ rest)) := ended_later later closes
      have others := ih later (by simpa using enough)
      simp only [List.append_assoc, readMembers, next, readMember_complete taken step ended, others]

/-! ## Arrays -/

theorem closeArray_eq_ok : closeArray input = .ok rest ↔
    ∃ last, Led [Bracket.array.closing] last ∧ input = last ++ rest := by
  unfold closeArray
  constructor
  · intro read
    split at read
    next => cases read
    next front =>
      cases read
      exact led_of_skipBlanks front
    next => cases read
    next => cases read
  · rintro ⟨last, closes, rfl⟩
    simp only [closes.front rfl]
    rfl

theorem nextElement_sound {first : Bool} (next : nextElement first input = .ok (some rest)) :
    ∃ comma behind, Comma first comma ∧ input = comma ++ behind ∧ rest = skipBlanks behind := by
  unfold nextElement at next
  split at next
  next => cases next
  next => cases next
  next b left notClosing front =>
    split at next
    next isFirst =>
      cases next
      exact ⟨[], input, by simp [Comma, isFirst], rfl, front.symm⟩
    next notFirst =>
      split at next
      next same =>
        obtain ⟨comma, follows, rfl⟩ := led_of_skipBlanks (same ▸ front)
        split at next
        next => cases next
        next => cases next
        next =>
          cases next
          exact ⟨comma, left, by simp [Comma, notFirst, follows], rfl, rfl⟩
      next => cases next

theorem nextElement_complete {first : Bool} {comma led v : Bytes} (before : Comma first comma)
    (grammatical : Grammatical v) (spelled : Led v led) :
    nextElement first (comma ++ (led ++ rest)) = .ok (some (skipBlanks (led ++ rest))) := by
  obtain ⟨c, tail, rfl, shown, other⟩ := grammatical.front
  have front := spelled.front shown rest
  have notClosing : c ≠ 0x5D := other .array
  cases first with
  | true =>
      obtain rfl : comma = [] := before
      simp [nextElement, front]
  | false =>
      have follows : Led [0x2C] comma := before
      simp [nextElement, follows.front rfl, front, notClosing]

theorem readElements_sound {fields : List Field} {index : Nat} (distinct : fields.Nodup)
    (read : readElements index u input fields = .ok (u', rest)) :
    ∃ bs last, Listed (index == 0) (SpellsField u') fields bs ∧ Led [Bracket.array.closing] last ∧
      input = bs ++ (last ++ rest) ∧ ∀ g ∉ fields, u'.entry? g = u.entry? g := by
  induction fields generalizing index u input with
  | nil =>
      obtain ⟨_, closed, ends⟩ := map_eq_ok.mp read
      cases ends
      obtain ⟨last, closes, rfl⟩ := closeArray_eq_ok.mp closed
      exact ⟨[], last, listed_nil.mpr rfl, closes, rfl, fun _ _ => rfl⟩
  | cons f fields ih =>
      obtain ⟨apart, distinct⟩ := List.nodup_cons.mp distinct
      rw [readElements] at read
      split at read
      next => cases read
      next => cases read
      next next =>
        obtain ⟨comma, behind, before, rfl, rfl⟩ := nextElement_sound next
        split at read
        next => cases read
        next taken =>
          rw [Field.read_skipBlanks] at taken
          obtain ⟨entry, ⟨spelled, frame⟩, rfl⟩ := (f.reads u).sound taken
          obtain ⟨bs, last, later, closes, rfl, kept⟩ := ih distinct read
          have spelled : SpellsField u' f entry := by rwa [SpellsField, kept f apart]
          refine ⟨_, last, listed_cons.mpr ⟨comma, entry, bs, before, spelled, later, rfl⟩, closes,
            by simp, fun g outside => ?_⟩
          obtain ⟨other, outside⟩ := List.ne_and_not_mem_of_not_mem_cons outside
          rw [kept g outside, frame g other]

theorem readElements_complete {fields : List Field} {index : Nat} {last : Bytes}
    (list : Listed (index == 0) (SpellsField u') fields bs)
    (closes : Led [Bracket.array.closing] last)
    (kept : ∀ g ∉ fields, u'.entry? g = u.entry? g) :
    readElements index u (bs ++ (last ++ rest)) fields = .ok (u', rest) := by
  induction fields generalizing index u bs with
  | nil =>
      obtain rfl := listed_nil.mp list
      obtain rfl : u' = u := ext_entry fun g => kept g (by simp)
      exact map_eq_ok.mpr ⟨rest, closeArray_eq_ok.mpr ⟨last, closes, rfl⟩, rfl⟩
  | cons f fields ih =>
      obtain ⟨comma, entry, more, before, ⟨v, spelled, led⟩, later, rfl⟩ := listed_cons.mp list
      obtain ⟨w, frame, same⟩ := exists_frame f u u'
      have ended : Ended (more ++ (last ++ rest)) := ended_later later closes
      have taken : f.read u (entry ++ (more ++ (last ++ rest))) = .ok (w, more ++ (last ++ rest)) :=
        (f.reads u).complete ⟨⟨v, same ▸ spelled, led⟩, frame⟩ ended
      have next : nextElement (index == 0) (comma ++ (entry ++ (more ++ (last ++ rest)))) =
          .ok (some (skipBlanks (entry ++ (more ++ (last ++ rest))))) :=
        nextElement_complete before (grammatical_of_entry spelled) led
      have others : readElements (index + 1) w (more ++ (last ++ rest)) fields =
          .ok (u', rest) := by
        refine ih later fun g outside => ?_
        by_cases this : g = f
        · rw [this, same]
        · rw [kept g (by simp [this, outside]), frame g this]
      simp only [List.append_assoc, readElements, next, Field.read_skipBlanks, taken, others]

end ConnectedDevice.Update
