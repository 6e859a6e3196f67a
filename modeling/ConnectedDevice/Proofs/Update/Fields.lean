import ConnectedDevice.Proofs.Json.Object
import ConnectedDevice.Update.Reader

/-!
The fields of an update, all in one form: each has a value of its kind or none. What an object says
of the fields is what its members say one after the other, in any order.
-/

namespace ConnectedDevice.Update

open Json

/-- A value of a field. -/
inductive Entry where
  | text (s : String)
  | flag (b : Bool)
  | word (n : UInt32)
deriving DecidableEq, Repr

def Entry.Spells : Entry → Bytes → Prop
  | .text s => SpellsText s
  | .flag b => (· = flagText b)
  | .word n => SpellsWord n

def entry? (u : Update) : Field → Option Entry
  | .name => u.name.map .text
  | .ssid => u.ssid.map .text
  | .password => u.password.map .text
  | .dhcp => u.dhcp.map .flag
  | .identifier => u.identifier.map .word
  | .ip => u.ip.map .text
  | .netmask => u.netmask.map .text
  | .gateway => u.gateway.map .text
  | .dns1 => u.dns1.map .text
  | .rfPowerSave => u.rfPowerSave.map .flag
  | .mcuPowerSave => u.mcuPowerSave.map .flag

variable {u u' : Update} {f g : Field} {bs : Bytes}

theorem ext_entry (same : ∀ f, u.entry? f = u'.entry? f) : u = u' := by
  have text {o p : Option String} : o.map Entry.text = p.map .text → o = p :=
    fun same => Option.map_injective (fun _ _ => Entry.text.inj) same
  have flag {o p : Option Bool} : o.map Entry.flag = p.map .flag → o = p :=
    fun same => Option.map_injective (fun _ _ => Entry.flag.inj) same
  have word {o p : Option UInt32} : o.map Entry.word = p.map .word → o = p :=
    fun same => Option.map_injective (fun _ _ => Entry.word.inj) same
  cases u
  cases u'
  simp only [mk.injEq]
  exact ⟨text (same .name), text (same .ssid), text (same .password), flag (same .dhcp),
    word (same .identifier), text (same .ip), text (same .netmask), text (same .gateway),
    text (same .dns1), flag (same .rfPowerSave), flag (same .mcuPowerSave)⟩

/-! ## Reading one field -/

/-- Two updates have the same value in every field but one. -/
def Frame (f : Field) (u u' : Update) : Prop := ∀ g, g ≠ f → u'.entry? g = u.entry? g

/-- The value that an update has in a field, spelled with blanks before it. -/
def SpellsField (u : Update) (f : Field) (led : Bytes) : Prop :=
  ∃ v, SpellsOptional Entry.Spells (u.entry? f) v ∧ Led v led

/-- How a field is stored, and how it is read. -/
structure Slot (f : Field) where
  α : Type
  kind : α → Entry
  reader : Bytes → Except JsonError (α × Bytes)
  get : Update → Option α
  put : Update → Option α → Update
  reads : Reads reader fun x => (kind x).Spells
  distinct : Distinct fun x => (kind x).Spells
  got : ∀ u x, get (put u x) = x
  value : ∀ u, u.entry? f = (get u).map kind
  frame : ∀ u x, Frame f u (put u x)
  read : ∀ u input,
    f.read u input = (readOptional reader input).map fun (x, rest) => (put u x, rest)

theorem Field.slot (f : Field) : Nonempty (Slot f) := by
  have text {f : Field} (get put) (got value frame read) : Nonempty (Slot f) :=
    ⟨String, .text, readTextValue, get, put, reads_text, distinct_text, got, value, frame, read⟩
  have flag {f : Field} (get put) (got value frame read) : Nonempty (Slot f) :=
    ⟨Bool, .flag, readFlag, get, put, reads_flag, distinct_flag, got, value, frame, read⟩
  have word {f : Field} (get put) (got value frame read) : Nonempty (Slot f) :=
    ⟨UInt32, .word, readWord, get, put, reads_word, distinct_word, got, value, frame, read⟩
  cases f
  case' name => refine text (·.name) ({ · with name := · }) ?_ ?_ ?_ ?_
  case' ssid => refine text (·.ssid) ({ · with ssid := · }) ?_ ?_ ?_ ?_
  case' password => refine text (·.password) ({ · with password := · }) ?_ ?_ ?_ ?_
  case' dhcp => refine flag (·.dhcp) ({ · with dhcp := · }) ?_ ?_ ?_ ?_
  case' identifier => refine word (·.identifier) ({ · with identifier := · }) ?_ ?_ ?_ ?_
  case' ip => refine text (·.ip) ({ · with ip := · }) ?_ ?_ ?_ ?_
  case' netmask => refine text (·.netmask) ({ · with netmask := · }) ?_ ?_ ?_ ?_
  case' gateway => refine text (·.gateway) ({ · with gateway := · }) ?_ ?_ ?_ ?_
  case' dns1 => refine text (·.dns1) ({ · with dns1 := · }) ?_ ?_ ?_ ?_
  case' rfPowerSave => refine flag (·.rfPowerSave) ({ · with rfPowerSave := · }) ?_ ?_ ?_ ?_
  case' mcuPowerSave => refine flag (·.mcuPowerSave) ({ · with mcuPowerSave := · }) ?_ ?_ ?_ ?_
  all_goals first | exact fun _ _ => rfl | exact fun _ => rfl | skip
  -- what is put into one field shows in no other
  all_goals
    intro u x g other
    cases g <;> first | rfl | exact absurd rfl other

theorem Field.reads (u : Update) (f : Field) :
    Reads (fun input => f.read u input) fun u' led => SpellsField u' f led ∧ Frame f u u' := by
  obtain ⟨slot⟩ := f.slot
  have spells (u' : Update) (v : Bytes) : SpellsOptional Entry.Spells (u'.entry? f) v ↔
      SpellsOptional (fun x => (slot.kind x).Spells) (slot.get u') v := by
    rw [slot.value]
    cases slot.get u' <;> rfl
  simp only [slot.read]
  refine (slot.reads.optional slot.distinct).map (slot.put u) fun u' led => ?_
  simp only [SpellsField, spells]
  constructor
  · rintro ⟨spelled, same⟩
    refine ⟨slot.get u', spelled, ext_entry fun g => ?_⟩
    by_cases this : g = f
    · rw [this, slot.value, slot.value, slot.got]
    · rw [slot.frame u _ g this, same g this]
  · rintro ⟨x, spelled, rfl⟩
    rw [slot.got]
    exact ⟨spelled, slot.frame u x⟩

/-- A field can take over its value from another update. -/
theorem exists_frame (f : Field) (u u' : Update) : ∃ v, Frame f u v ∧ v.entry? f = u'.entry? f := by
  obtain ⟨slot⟩ := f.slot
  refine ⟨slot.put u (slot.get u'), slot.frame u _, ?_⟩
  rw [slot.value, slot.value, slot.got]

theorem Field.read_skipBlanks (u : Update) (f : Field) (input : Bytes) :
    f.read u (skipBlanks input) = f.read u input := by
  cases f <;> simp only [Field.read, readOptional, skipBlanks_skipBlanks]

/-- What is spelled for a field is a value like any other. -/
theorem grammatical_of_entry {o : Option Entry} {v : Bytes}
    (spelled : SpellsOptional Entry.Spells o v) : Grammatical v := by
  cases o with
  | none =>
      obtain rfl := spelled
      exact .scalar .null
  | some e =>
      cases e with
      | text s =>
          obtain ⟨raw, content, rfl⟩ := spelled
          exact .scalar (.text content.loose)
      | flag b =>
          obtain rfl := spelled
          exact .scalar (.flag b)
      | word n =>
          obtain ⟨whole, -⟩ := spelled
          exact .scalar (.number (Numeral.spells_whole whole))

/-! ## The names of fields -/

theorem Field.mem_all (f : Field) : f ∈ all := by cases f <;> decide

theorem Field.ofLabel?_eq_none {s : String} : ofLabel? s = none ↔ ∀ f : Field, s ≠ f.label := by
  simp only [ofLabel?, List.find?_eq_none, beq_iff_eq]
  exact ⟨fun none f same => none f f.mem_all same.symm, fun none f _ same => none f same.symm⟩

theorem Field.label_of_ofLabel? {s : String} (found : ofLabel? s = some f) : s = f.label := by
  rw [ofLabel?] at found
  have same := List.find?_some found
  exact (beq_iff_eq.mp same).symm

theorem Field.label_injective : Function.Injective label := by
  have known (f : Field) : ofLabel? f.label = some f := by cases f <;> decide
  intro f g same
  exact Option.some.inj ((known f).symm.trans (same ▸ known g))

theorem Field.ofLabel?_eq_some {s : String} : ofLabel? s = some f ↔ s = f.label := by
  refine ⟨label_of_ofLabel?, ?_⟩
  rintro rfl
  cases found : ofLabel? f.label with
  | none => exact absurd rfl (ofLabel?_eq_none.mp found f)
  | some g => rw [label_injective (label_of_ofLabel? found)]

/-! ## What members say of the fields -/

def named (f : Field) (ms : List Member) : List Member := ms.filter (·.name == f.label)

/-- Each field has the value of the only member of its name, or none if there is no such member. -/
def Gives (ms : List Member) (u : Update) : Prop :=
  ∀ f, (named f ms = [] ∧ u.entry? f = none) ∨
    ∃ m, named f ms = [m] ∧ SpellsOptional Entry.Spells (u.entry? f) m.value

/-- One member is taken, after those of the fields `seen`. -/
def Step (seen : List Field) (u : Update) (m : Member) (seen' : List Field) (u' : Update) : Prop :=
  (∃ f, m.name = Field.label f ∧ f ∉ seen ∧ seen' = f :: seen ∧
      SpellsOptional Entry.Spells (u'.entry? f) m.value ∧ Frame f u u') ∨
    (∀ f, m.name ≠ Field.label f) ∧ seen' = seen ∧ u' = u

inductive Gathers : List Field → Update → List Member → Update → Prop
  | nil {seen : List Field} {u : Update} : Gathers seen u [] u
  | cons {seen seen' : List Field} {u u' u'' : Update} {m : Member} {ms : List Member}
      (first : Step seen u m seen' u') (rest : Gathers seen' u' ms u'') :
      Gathers seen u (m :: ms) u''

variable {seen : List Field} {ms : List Member} {m : Member}

theorem named_cons_of_ne (other : m.name ≠ f.label) : named f (m :: ms) = named f ms :=
  List.filter_cons_of_neg (by simpa using other)

theorem named_cons_of_eq (same : m.name = f.label) : named f (m :: ms) = m :: named f ms :=
  List.filter_cons_of_pos (by simpa using same)

/-- In a run over members, a field keeps its value or has that of its only member; the latter only
if it was not seen before. -/
theorem gathers_iff : Gathers seen u ms u' ↔
    ∀ f, (named f ms = [] ∧ u'.entry? f = u.entry? f) ∨
      f ∉ seen ∧ ∃ m, named f ms = [m] ∧ SpellsOptional Entry.Spells (u'.entry? f) m.value := by
  induction ms generalizing seen u with
  | nil =>
      constructor
      · rintro ⟨⟩ f
        exact .inl ⟨rfl, rfl⟩
      · intro all
        obtain rfl : u' = u := ext_entry fun f => by
          rcases all f with ⟨-, same⟩ | ⟨-, m, more, -⟩
          · exact same
          · cases more
        exact .nil
  | cons m ms ih =>
      constructor
      · intro gathers g
        obtain _ | ⟨⟨f, name, fresh, rfl, spelled, frame⟩ | ⟨unknown, rfl, rfl⟩, rest⟩ := gathers
        · have later := ih.mp rest g
          by_cases same : g = f
          · subst same
            obtain ⟨none, kept⟩ : named g ms = [] ∧ u'.entry? g = _ := by simpa using later
            refine .inr ⟨fresh, m, by rw [named_cons_of_eq name, none], ?_⟩
            rwa [kept]
          · have other : m.name ≠ g.label := fun this =>
              same (Field.label_injective (this.symm.trans name))
            rw [named_cons_of_ne other]
            simpa [same, frame g same] using later
        · rw [named_cons_of_ne (unknown g)]
          exact ih.mp rest g
      · intro all
        by_cases known : ∃ f, m.name = Field.label f
        · obtain ⟨f, name⟩ := known
          obtain ⟨fresh, m', only, spelled⟩ : f ∉ seen ∧ ∃ m', named f (m :: ms) = [m'] ∧
              SpellsOptional Entry.Spells (u'.entry? f) m'.value := by
            simpa [named_cons_of_eq name] using all f
          obtain ⟨rfl, none⟩ := List.cons.inj ((named_cons_of_eq name).symm.trans only)
          obtain ⟨v, frame, kept⟩ := exists_frame f u u'
          refine .cons (.inl ⟨f, name, fresh, rfl, kept ▸ spelled, frame⟩) (ih.mpr fun g => ?_)
          by_cases same : g = f
          · subst same
            exact .inl ⟨none, kept.symm⟩
          · have other : m.name ≠ g.label := fun this =>
              same (Field.label_injective (this.symm.trans name))
            rw [← named_cons_of_ne other, frame g same]
            simpa [same] using all g
        · have unknown (f) : m.name ≠ Field.label f := fun name => known ⟨f, name⟩
          refine .cons (.inr ⟨unknown, rfl, rfl⟩) (ih.mpr fun f => ?_)
          rw [← named_cons_of_ne (unknown f)]
          exact all f

/-- Run from the start, members give the fields what they say of them, in whatever order. -/
theorem gathers_iff_gives : Gathers [] empty ms u ↔ Gives ms u := by
  have none (f) : empty.entry? f = none := by cases f <;> rfl
  simp only [gathers_iff, Gives, none, List.not_mem_nil, not_false_eq_true, true_and]

end ConnectedDevice.Update
