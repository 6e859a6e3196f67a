import ConnectedDevice.Proofs.Json.Skip

/-!
Objects whose names are texts, member by member. The text of an object has its members in one way
only, so that one can speak of the members and of the value under a name.
-/

namespace ConnectedDevice.Json

structure Member where
  name : String
  value : Bytes
deriving DecidableEq, Repr

/-- The name stands there in any spelling, the value as it is. -/
def Member.Spells (m : Member) (bs : Bytes) : Prop :=
  Grammatical m.value ∧ ∃ raw, Content raw m.name.toUTF8.data.toList ∧ Labelled raw m.value bs

/-- A text of one value in brackets, and blanks around it. -/
def Document (b : Bracket) (inner body : Bytes) : Prop :=
  ∃ first last gap, Led [b.opening] first ∧ Led [b.closing] last ∧ Blank gap ∧
    body = first ++ (inner ++ (last ++ gap))

def ObjectText (body : Bytes) (ms : List Member) : Prop :=
  ∃ inner, Series Member.Spells ms inner ∧ Document .object inner body

/-- A member without blanks. -/
theorem Member.spells_of_content {m : Member} {raw : Bytes} (grammatical : Grammatical m.value)
    (content : Content raw m.name.toUTF8.data.toList) :
    m.Spells (inQuotes raw ++ ([0x3A] ++ m.value)) :=
  ⟨grammatical, raw, content, _, _, _, led_self _, led_self _, led_self _, rfl⟩

/-- An object with texts for names is a value. -/
theorem grammatical_of_members {ms : List Member} {inner bs : Bytes}
    (list : Series Member.Spells ms inner) (enclosed : Enclosed .object inner bs) :
    Grammatical bs := by
  have each (m : Member) (bs : Bytes) (spelled : m.Spells bs) : ∃ p : Bytes × Bytes,
      (LooseContent p.1 ∧ Grammatical p.2) ∧ Labelled p.1 p.2 bs := by
    obtain ⟨grammatical, raw, content, labelled⟩ := spelled
    exact ⟨(raw, m.value), ⟨content.loose, grammatical⟩, labelled⟩
  obtain ⟨_, all, list⟩ := list.choose each
  exact .object (fun p within => (all p within).1) (fun p within => (all p within).2) list enclosed

/-! ## Each text is taken apart in one way -/

variable {bs bs' rest rest' v v' led led' : Bytes}

theorem front_unique {b b' : UInt8} (same : led ++ rest = led' ++ rest') (before : Led (b :: v) led)
    (before' : Led (b' :: v') led') (shown : isBlank b = false) (shown' : isBlank b' = false) :
    b :: v ++ rest = b' :: v' ++ rest' := by
  obtain ⟨gap, blank, rfl⟩ := before
  obtain ⟨gap', blank', rfl⟩ := before'
  have front : skipBlanks (gap ++ b :: v ++ rest) = b :: v ++ rest :=
    skipBlanks_eq_cons.mpr ⟨shown, gap, blank, by simp⟩
  have front' : skipBlanks (gap' ++ b' :: v' ++ rest') = b' :: v' ++ rest' :=
    skipBlanks_eq_cons.mpr ⟨shown', gap', blank', by simp⟩
  rw [← front, ← front', same]

theorem value_unique (grammatical : Grammatical v) (grammatical' : Grammatical v')
    (before : Led v led) (before' : Led v' led') (ended : Ended rest) (ended' : Ended rest')
    (same : led ++ rest = led' ++ rest') : v = v' ∧ rest = rest' := by
  have first := skipValue_complete grammatical before ended
  rw [same, skipValue_complete grammatical' before' ended'] at first
  obtain rfl := Except.ok.inj first
  obtain ⟨b, tail, rfl, shown, -⟩ := grammatical.front
  obtain ⟨b', tail', rfl, shown', -⟩ := grammatical'.front
  exact ⟨List.append_cancel_right (front_unique same before before' shown shown'), rfl⟩

theorem Member.Spells.unique {m m' : Member} (spelled : m.Spells bs) (spelled' : m'.Spells bs')
    (ended : Ended rest) (ended' : Ended rest') (same : bs ++ rest = bs' ++ rest') :
    m = m' ∧ rest = rest' := by
  obtain ⟨grammatical, raw, content, name, colon, led, named, follows, before, rfl⟩ := spelled
  obtain ⟨grammatical', raw', content', name', colon', led', named', follows', before', rfl⟩ :=
    spelled'
  simp only [List.append_assoc] at same
  have inside := List.tail_eq_of_cons_eq (front_unique same named named' rfl rfl)
  have text : readText (raw ++ [0x22] ++ (colon ++ (led ++ rest))) =
      .ok (m.name, colon ++ (led ++ rest)) :=
    readText_eq_ok.mpr ⟨raw, content, by simp⟩
  have text' : readText (raw' ++ [0x22] ++ (colon' ++ (led' ++ rest'))) =
      .ok (m'.name, colon' ++ (led' ++ rest')) :=
    readText_eq_ok.mpr ⟨raw', content', by simp⟩
  have both := text.symm.trans ((congrArg readText inside).trans text')
  obtain ⟨sameName, behind⟩ := Prod.mk.inj (Except.ok.inj both)
  have behind := List.tail_eq_of_cons_eq (front_unique behind follows follows' rfl rfl)
  obtain ⟨sameValue, left⟩ :=
    value_unique grammatical grammatical' before before' ended ended' behind
  cases m
  cases m'
  cases sameName
  cases sameValue
  exact ⟨rfl, left⟩

/-- The first member begins with a quote, so that it is not mistaken for the closing brace. -/
theorem Member.Spells.front {m : Member} (spelled : m.Spells bs) :
    ∃ tail, Led (0x22 :: tail) bs := by
  obtain ⟨-, raw, -, labelled⟩ := spelled
  exact labelled.front

theorem later_unique {ms ms' : List Member} {last last' : Bytes}
    (later : Later Member.Spells ms bs) (later' : Later Member.Spells ms' bs')
    (closes : Led [Bracket.object.closing] last) (closes' : Led [Bracket.object.closing] last')
    (same : bs ++ (last ++ rest) = bs' ++ (last' ++ rest')) : ms = ms' := by
  induction later generalizing bs' ms' with
  | nil =>
      cases later' with
      | nil => rfl
      | cons follows =>
          rw [List.nil_append, List.append_assoc] at same
          cases (List.cons.inj (front_unique same closes follows rfl rfl)).1
  | cons follows spelled later ih =>
      cases later' with
      | nil =>
          rw [List.nil_append, List.append_assoc] at same
          cases (List.cons.inj (front_unique same follows closes' rfl rfl)).1
      | cons follows' spelled' later' =>
          simp only [List.append_assoc] at same
          have behind := List.tail_eq_of_cons_eq (front_unique same follows follows' rfl rfl)
          obtain ⟨rfl, left⟩ := spelled.unique spelled' (ended_later later closes)
            (ended_later later' closes') behind
          rw [ih later' left]

theorem ObjectText.unique {body : Bytes} {ms ms' : List Member} (object : ObjectText body ms)
    (object' : ObjectText body ms') : ms = ms' := by
  obtain ⟨inner, list, first, last, gap, opens, closes, -, rfl⟩ := object
  obtain ⟨inner', list', first', last', gap', opens', closes', -, same⟩ := object'
  have opened := front_unique same opens opens' rfl rfl
  have inside : inner ++ (last ++ gap) = inner' ++ (last' ++ gap') :=
    List.tail_eq_of_cons_eq opened
  cases ms with
  | nil =>
      obtain rfl := list
      cases ms' with
      | nil => rfl
      | cons m' ms' =>
          obtain ⟨entry', more', spelled', -, rfl⟩ := list'
          obtain ⟨tail, front⟩ := spelled'.front
          rw [List.nil_append, List.append_assoc] at inside
          cases (List.cons.inj (front_unique inside closes front rfl rfl)).1
  | cons m ms =>
      obtain ⟨entry, more, spelled, later, rfl⟩ := list
      cases ms' with
      | nil =>
          obtain rfl := list'
          obtain ⟨tail, front⟩ := spelled.front
          rw [List.nil_append, List.append_assoc] at inside
          cases (List.cons.inj (front_unique inside front closes' rfl rfl)).1
      | cons m' ms' =>
          obtain ⟨entry', more', spelled', later', rfl⟩ := list'
          rw [List.append_assoc, List.append_assoc] at inside
          obtain ⟨rfl, left⟩ := spelled.unique spelled' (ended_later later closes)
            (ended_later later' closes') inside
          rw [later_unique later later' closes closes' left]

end ConnectedDevice.Json
