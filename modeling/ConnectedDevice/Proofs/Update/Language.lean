import ConnectedDevice.Proofs.Update.Reading
import Mathlib.Data.List.Forall2

/-!
The language of updates. A body is read exactly if it is a document that gives the fields their
values, and what it is read as depends on these values alone.
-/

namespace ConnectedDevice.Update

open Json

variable {input rest bs : Bytes} {u : Update}

/-- A body of one value for every field, in their order. -/
def ArrayText (body : Bytes) (u : Update) : Prop :=
  ∃ inner, Series (SpellsField u) Field.all inner ∧ Document .array inner body

/-- Nothing but blanks may be left. -/
theorem whole_eq_ok {x : Except JsonError (Update × Bytes)} :
    (x >>= fun p => if (skipBlanks p.2).isEmpty then pure p.1 else throw .trailingCharacters) =
      .ok u ↔ ∃ gap, Blank gap ∧ x = .ok (u, gap) := by
  simp only [bind_eq_ok, Prod.exists, ← skipBlanks_eq_nil]
  constructor
  · rintro ⟨v, gap, read, ends⟩
    split at ends
    next nothing =>
      cases ends
      exact ⟨gap, by simpa using nothing, read⟩
    next => cases ends
  · rintro ⟨gap, nothing, read⟩
    exact ⟨u, gap, read, by simp [nothing, pure, Except.pure]⟩

theorem ofJson_array {first left : Bytes} (opens : Led [Bracket.array.opening] first) :
    ofJson (first ++ left) = .ok u ↔
      ∃ gap, Blank gap ∧ readElements 0 empty left Field.all = .ok (u, gap) := by
  have front : skipBlanks (first ++ left) = 0x5B :: left := opens.front rfl left
  rw [ofJson, front]
  exact whole_eq_ok

theorem ofJson_object {first left : Bytes} (opens : Led [Bracket.object.opening] first) :
    ofJson (first ++ left) = .ok u ↔
      ∃ gap, Blank gap ∧ readMembers (left.length + 1) true [] empty left = .ok (u, gap) := by
  have front : skipBlanks (first ++ left) = 0x7B :: left := opens.front rfl left
  rw [ofJson, front]
  exact whole_eq_ok

theorem exists_opening_of_ofJson {body : Bytes} (read : ofJson body = .ok u) :
    ∃ b first left, Led [Bracket.opening b] first ∧ body = first ++ left := by
  unfold ofJson at read
  split at read
  next => cases read
  next left front =>
    obtain ⟨first, opens, same⟩ := led_of_skipBlanks front
    exact ⟨.array, first, left, opens, same⟩
  next left front =>
    obtain ⟨first, opens, same⟩ := led_of_skipBlanks front
    exact ⟨.object, first, left, opens, same⟩
  next => cases read

theorem length_le_of_later {α : Type} {Spells : α → Bytes → Prop} {xs : List α}
    (later : Later Spells xs bs) : xs.length ≤ bs.length := by
  induction later with
  | nil => exact le_rfl
  | cons follows =>
      have nonempty := follows.length_pos
      simp only [List.length_append, List.length_cons]
      omega

/-- Every member takes a byte at least. -/
theorem length_le_of_series {ms : List Member} (list : Series Member.Spells ms bs) :
    ms.length ≤ bs.length := by
  cases ms with
  | nil => simp
  | cons m ms =>
      obtain ⟨first, rest, spelled, later, rfl⟩ := list
      obtain ⟨tail, gap, -, rfl⟩ := spelled.front
      have others := length_le_of_later later
      simp only [List.length_append, List.length_cons]
      omega

theorem ofJson_of_objectText {body : Bytes} {ms : List Member} (object : ObjectText body ms)
    (gives : Gives ms u) : ofJson body = .ok u := by
  obtain ⟨inner, list, first, last, gap, opens, closes, blank, rfl⟩ := object
  refine (ofJson_object opens).mpr ⟨gap, blank, ?_⟩
  refine readMembers_complete (gathers_iff_gives.mpr gives) list closes ?_
  have enough := length_le_of_series list
  simp only [List.length_append]
  omega

theorem ofJson_of_arrayText {body : Bytes} (array : ArrayText body u) : ofJson body = .ok u := by
  obtain ⟨inner, list, first, last, gap, opens, closes, blank, rfl⟩ := array
  refine (ofJson_array opens).mpr ⟨gap, blank, ?_⟩
  exact readElements_complete list closes fun g outside => absurd g.mem_all outside

theorem text_of_ofJson {body : Bytes} (read : ofJson body = .ok u) :
    (∃ ms, ObjectText body ms ∧ Gives ms u) ∨ ArrayText body u := by
  obtain ⟨b, first, left, opens, rfl⟩ := exists_opening_of_ofJson read
  cases b with
  | array =>
      obtain ⟨gap, blank, read⟩ := (ofJson_array opens).mp read
      obtain ⟨inner, last, list, closes, rfl, -⟩ := readElements_sound (by decide) read
      exact .inr ⟨inner, list, first, last, gap, opens, closes, blank, rfl⟩
  | object =>
      obtain ⟨gap, blank, read⟩ := (ofJson_object opens).mp read
      obtain ⟨ms, inner, last, list, closes, rfl, gathers⟩ := readMembers_sound read
      exact .inl ⟨ms, ⟨inner, list, first, last, gap, opens, closes, blank, rfl⟩,
        gathers_iff_gives.mp gathers⟩

theorem gives_of_ofJson {body : Bytes} {ms : List Member} (object : ObjectText body ms)
    (read : ofJson body = .ok u) : Gives ms u := by
  rcases text_of_ofJson read with ⟨ms', object', gives⟩ | ⟨_, -, _, _, _, opens, -, -, same⟩
  · rwa [object.unique object']
  · obtain ⟨_, -, _, _, _, opens', -, -, rfl⟩ := object
    cases (List.cons.inj (front_unique same opens' opens rfl rfl)).1

/-- For every field, the members of its name have values that spell the same. Their order among
members of other names does not count, nor do members of other names. -/
def Alike (ms ms' : List Member) : Prop :=
  ∀ f, List.Forall₂ (fun m m' : Member => ∀ o, SpellsOptional Entry.Spells o m.value ↔
    SpellsOptional Entry.Spells o m'.value) (named f ms) (named f ms')

theorem Alike.symm {ms ms' : List Member} (alike : Alike ms ms') : Alike ms' ms := fun f =>
  (alike f).flip.imp fun _ _ same o => (same o).symm

theorem Alike.gives {ms ms' : List Member} (alike : Alike ms ms') (gives : Gives ms u) :
    Gives ms' u := by
  intro f
  have pairs := alike f
  rcases gives f with ⟨none, value⟩ | ⟨m, only, spelled⟩
  · rw [none, List.forall₂_nil_left_iff] at pairs
    exact .inl ⟨pairs, value⟩
  · rw [only, List.forall₂_cons_left_iff] at pairs
    obtain ⟨m', more, same, others, only'⟩ := pairs
    rw [List.forall₂_nil_left_iff.mp others] at only'
    exact .inr ⟨m', only', (same _).mp spelled⟩

/-- A body is read as an update exactly if it is an object with texts for names, in which each known
name stands at most once and with a value of its field or null, or an array of such values for all
fields in order. The update has these values and no others. So it makes no difference where blanks
stand, how names and values are spelled, in which order the members come, and what stands under
unknown names. -/
theorem ofJson_accepts (body : Bytes) :
    (∀ u, ofJson body = .ok u ↔ (∃ ms, ObjectText body ms ∧ Gives ms u) ∨ ArrayText body u) ∧
      ∀ ms body' ms', ObjectText body ms → ObjectText body' ms' → Alike ms ms' →
        ∀ u, ofJson body = .ok u ↔ ofJson body' = .ok u := by
  constructor
  · refine fun u => ⟨text_of_ofJson, ?_⟩
    rintro (⟨ms, object, gives⟩ | array)
    · exact ofJson_of_objectText object gives
    · exact ofJson_of_arrayText array
  · intro ms body' ms' object object' alike u
    constructor
    · exact fun read => ofJson_of_objectText object' (alike.gives (gives_of_ofJson object read))
    · exact fun read =>
        ofJson_of_objectText object (alike.symm.gives (gives_of_ofJson object' read))

/-- Two fields, in the shortest form. -/
def plainBody : Bytes := "\x7b\"DHCP\":true,\"SSID\":\"a\"\x7d".toUTF8.data.toList

def plainMembers : List Member := [⟨"DHCP", flagText true⟩, ⟨"SSID", inQuotes [0x61]⟩]

/-- The same fields in another order, with blanks, an escaped letter in a name and an unknown
member. -/
def respelledBody : Bytes :=
  " \x7b\"x\" :[ ], \"\\u0053SID\":\"a\",\"DHCP\":true\x7d\n".toUTF8.data.toList

def respelledMembers : List Member :=
  [⟨"x", [0x5B, 0x20, 0x5D]⟩, ⟨"SSID", inQuotes [0x61]⟩, ⟨"DHCP", flagText true⟩]

theorem grammatical_letter : Grammatical (inQuotes [0x61]) :=
  .scalar (.text (content_self (by decide +kernel)).loose)

theorem objectText_plain : ObjectText plainBody plainMembers := by
  have dhcp : Member.Spells ⟨"DHCP", flagText true⟩ _ :=
    Member.spells_of_content (.scalar (.flag true)) (content_self (by decide +kernel))
  have ssid : Member.Spells ⟨"SSID", inQuotes [0x61]⟩ _ :=
    Member.spells_of_content grammatical_letter (content_self (by decide +kernel))
  exact ⟨_, ⟨_, _, dhcp, .cons (led_self _) ssid .nil, rfl⟩, [0x7B], [0x7D], [], led_self _,
    led_self _, by simp [Blank], by decide +kernel⟩

theorem objectText_respelled : ObjectText respelledBody respelledMembers := by
  have behind (bs : Bytes) : Led bs (0x20 :: bs) := ⟨[0x20], by simp [Blank, isBlank], rfl⟩
  have noValue : ∀ v ∈ ([] : List Bytes), Grammatical v := by simp
  have nothing : Grammatical [0x5B, 0x20, 0x5D] :=
    .array noValue (rfl : Series Led [] []) ⟨[0x20, 0x5D], behind _, rfl⟩
  have unknown : Member.Spells ⟨"x", [0x5B, 0x20, 0x5D]⟩ _ :=
    ⟨nothing, _, content_self (by decide +kernel), _, _, _, led_self _, behind _, led_self _, rfl⟩
  have letter : Piece [0x5C, 0x75, 0x30, 0x30, 0x35, 0x33] (utf8 0x53) := .unit rfl rfl rfl
  have letters : Content [0x53, 0x49, 0x44] [0x53, 0x49, 0x44] := content_self (by decide +kernel)
  have name : Content ([0x5C, 0x75, 0x30, 0x30, 0x35, 0x33] ++ [0x53, 0x49, 0x44])
      "SSID".toUTF8.data.toList := .cons letter letters
  have ssid : Member.Spells ⟨"SSID", inQuotes [0x61]⟩ _ :=
    ⟨grammatical_letter, _, name, _, _, _, behind _, led_self _, led_self _, rfl⟩
  have dhcp : Member.Spells ⟨"DHCP", flagText true⟩ _ :=
    Member.spells_of_content (.scalar (.flag true)) (content_self (by decide +kernel))
  exact ⟨_, ⟨_, _, unknown, .cons (led_self _) ssid (.cons (led_self _) dhcp .nil), rfl⟩,
    [0x20, 0x7B], [0x7D], [0x0A], behind _, led_self _, by simp [Blank, isBlank], by decide +kernel⟩

theorem alike_respelled : Alike plainMembers respelledMembers := by
  intro f
  cases f with
  | ssid | dhcp => exact .cons (fun _ => Iff.rfl) .nil
  | _ => exact .nil

theorem ofJson_accepts_respelled :
    ofJson respelledBody = .ok { empty with dhcp := some true, ssid := some "a" } := by
  have read : ofJson plainBody = .ok { empty with dhcp := some true, ssid := some "a" } := by
    decide +kernel
  obtain ⟨-, alike⟩ := ofJson_accepts plainBody
  exact (alike _ _ _ objectText_plain objectText_respelled alike_respelled _).mp read

end ConnectedDevice.Update
