import ConnectedDevice.Proofs.Codec.Reader
import ConnectedDevice.Proofs.Text.Utf8
import Mathlib.Computability.Language

/-!
What the readers of fields accept. A number has several spellings, as it may be written with
needless zero groups within its width; every other field has one after its length or position.
Readers in sequence accept the product of what each of them accepts, which carries the spellings
of single fields to whole records.
-/

namespace ConnectedDevice

namespace Varint

/-- The groups of seven bits of a number, least significant first, all bytes but the last with
their high bit set. The last groups may be zero. -/
inductive Groups : Bytes → Nat → Prop
  | last {b : UInt8} (low : b.toNat < 128) : Groups [b] b.toNat
  | more {b : UInt8} {bs : Bytes} {n : Nat} (high : 128 ≤ b.toNat) (rest : Groups bs n) :
      Groups (b :: bs) (b.toNat - 128 + 128 * n)

/-- The spellings of a number below `bound` in at most `limit` bytes. -/
def spellings (limit bound n : Nat) : Language UInt8 :=
  {bs | Groups bs n ∧ bs.length ≤ limit ∧ n < bound}

theorem Groups.length_pos {bs : Bytes} {n : Nat} (groups : Groups bs n) : 0 < bs.length := by
  cases groups <;> simp

theorem capacity_pos (top limit : Nat) : 0 < capacity top (limit + 1) := by
  induction limit with
  | zero => simp [capacity]
  | succ limit ih =>
      simp only [capacity]
      omega

theorem decode_of_spelling {top limit n : Nat} {bs : Bytes} (rest : Bytes)
    (spelled : bs ∈ spellings limit (capacity top limit) n) :
    decode top limit (bs ++ rest) = some (n, rest) := by
  obtain ⟨groups, length, fits⟩ := spelled
  induction groups generalizing limit with
  | @last b low =>
      cases limit with
      | zero => simp at length
      | succ limit =>
          have inTop : ¬(limit = 0 ∧ top < b.toNat) := by
            rintro ⟨rfl, above⟩
            simp only [capacity] at fits
            omega
          simp only [List.cons_append, List.nil_append, decode, if_pos low, if_neg inTop]
  | @more b bs n high groups ih =>
      cases limit with
      | zero => simp at length
      | succ limit =>
          have nonempty := groups.length_pos
          simp only [List.length_cons] at length
          cases limit with
          | zero => omega
          | succ limit =>
              have continues : ¬b.toNat < 128 := by omega
              simp only [capacity] at fits
              have later : decode top (limit + 1) (bs ++ rest) = some (n, rest) :=
                ih (by omega) (by omega)
              simp only [List.cons_append, decode, if_neg continues, later]

theorem spelling_of_decode {top limit n : Nat} {input rest : Bytes}
    (read : decode top limit input = some (n, rest)) :
    ∃ bs ∈ spellings limit (capacity top limit) n, input = bs ++ rest := by
  induction limit generalizing input n with
  | zero => simp [decode] at read
  | succ limit ih =>
      cases input with
      | nil => simp [decode] at read
      | cons b input =>
          have positive := capacity_pos top limit
          simp only [decode] at read
          split at read
          next low =>
            split at read
            next => cases read
            next inTop =>
              cases read
              refine ⟨[b], ⟨.last low, by simp, ?_⟩, rfl⟩
              cases limit with
              | zero =>
                  simp only [capacity]
                  omega
              | succ limit =>
                  have below := capacity_pos top limit
                  simp only [capacity]
                  omega
          next continues =>
            split at read
            next high rest' later =>
              cases read
              obtain ⟨bs, ⟨groups, length, fits⟩, rfl⟩ := ih later
              refine ⟨b :: bs, ⟨.more (by omega) groups, by simpa using length, ?_⟩, rfl⟩
              cases limit with
              | zero => simp [capacity] at fits
              | succ limit =>
                  have byte := b.toNat_lt
                  simp only [capacity]
                  omega
            next => cases read

theorem decode_eq_some {top limit n : Nat} {input rest : Bytes} :
    decode top limit input = some (n, rest) ↔
      ∃ bs ∈ spellings limit (capacity top limit) n, input = bs ++ rest := by
  refine ⟨spelling_of_decode, ?_⟩
  rintro ⟨bs, spelled, rfl⟩
  exact decode_of_spelling rest spelled

end Varint

/-! ## Spellings of fields -/

namespace Spelling

def word16 (w : UInt16) : Language UInt8 := Varint.spellings 3 UInt16.size w.toNat

def word32 (w : UInt32) : Language UInt8 := Varint.spellings 5 UInt32.size w.toNat

def size (n : Nat) : Language UInt8 := Varint.spellings 10 UInt64.size n

def flag (b : Bool) : Language UInt8 := {[if b then 1 else 0]}

def blob (data : Bytes) : Language UInt8 := size data.length * {data}

def text (s : String) : Language UInt8 := blob s.toUTF8.data.toList

/-- The positions of `x` in the list of all choices. -/
def choice {α : Type} (choices : List α) (x : α) : Language UInt8 :=
  {bs | ∃ i, choices[i]? = some x ∧ bs ∈ Varint.spellings 5 UInt32.size i}

end Spelling

namespace Reader

variable {α σ : Type}

@[simp] theorem mem_singleton {bs cs : Bytes} : bs ∈ ({cs} : Language UInt8) ↔ bs = cs := Iff.rfl

/-- The reader gives a value exactly if that is among the known ones and its input begins with a
spelling of it, and leaves what follows. -/
def AcceptsAmong (known : α → Prop) (r : Reader α) (spellings : α → Language UInt8) : Prop :=
  ∀ input x rest, r input = some (x, rest) ↔ known x ∧ ∃ bs ∈ spellings x, input = bs ++ rest

def Accepts (r : Reader α) (spellings : α → Language UInt8) : Prop :=
  ∀ input x rest, r input = some (x, rest) ↔ ∃ bs ∈ spellings x, input = bs ++ rest

theorem Accepts.of_among {r : Reader α} {spellings : α → Language UInt8}
    (all : AcceptsAmong (fun _ => True) r spellings) : Accepts r spellings :=
  fun input x rest => by simpa using all input x rest

theorem AcceptsAmong.pure {known : α → Prop} {x : α} (only : ∀ y, known y ↔ y = x) :
    AcceptsAmong known (Pure.pure x) fun _ => 1 := by
  intro input y rest
  have given : (Pure.pure x : Reader α) input = some (x, input) := rfl
  simp [given, only, eq_comm]

/-- A record is read field by field: the first field is spelled first, and what is read after it
has that field. -/
theorem AcceptsAmong.bind {r : Reader α} {f : α → Reader σ} {known : σ → Prop}
    {spellings : α → Language UInt8} {later : σ → Language UInt8} (field : σ → α)
    (first : Accepts r spellings)
    (rest : ∀ x, AcceptsAmong (fun s => known s ∧ field s = x) (f x) later) :
    AcceptsAmong known (r >>= f) fun s => spellings (field s) * later s := by
  intro input s behind
  change (r input).bind (fun p => f p.1 p.2) = some (s, behind) ↔ _
  simp only [Option.bind_eq_some_iff, Prod.exists, first _ _ _, rest _ _ _ _, Language.mem_mul]
  constructor
  · rintro ⟨x, middle, ⟨front, spelled, rfl⟩, ⟨known, rfl⟩, back, spelled', rfl⟩
    exact ⟨known, _, ⟨front, spelled, back, spelled', rfl⟩, by simp⟩
  · rintro ⟨known, _, ⟨front, spelled, back, spelled', rfl⟩, rfl⟩
    exact ⟨field s, back ++ behind, ⟨front, spelled, by simp⟩, ⟨known, rfl⟩, back, spelled', rfl⟩

theorem accepts_byte : Accepts byte fun b => {[b]} := by
  intro input b rest
  cases input <;> simp [byte]

theorem accepts_array {n : Nat} : Accepts (array n) fun v => {v.toList} := by
  intro input v rest
  simp only [mem_singleton, exists_eq_left]
  constructor
  · intro read
    simp only [array, Option.dite_none_right_eq_some, Option.some.injEq, Prod.mk.injEq] at read
    obtain ⟨enough, rfl, rfl⟩ := read
    simp [Vector.toList]
  · rintro rfl
    exact undoes_array v rest

theorem accepts_word16 : Accepts word16 Spelling.word16 := by
  intro input w rest
  simp only [word16, Option.map_eq_some_iff, Prod.exists, Prod.mk.injEq]
  constructor
  · rintro ⟨n, _, read, rfl, rfl⟩
    obtain ⟨bs, spelled, rfl⟩ := Varint.spelling_of_decode read
    have whole : n.toUInt16.toNat = n := UInt16.toNat_ofNat_of_lt' spelled.2.2
    exact ⟨bs, by rwa [Spelling.word16, whole], rfl⟩
  · rintro ⟨bs, spelled, rfl⟩
    exact ⟨w.toNat, rest, Varint.decode_of_spelling rest spelled, by simp, rfl⟩

theorem accepts_word32 : Accepts word32 Spelling.word32 := by
  intro input w rest
  simp only [word32, Option.map_eq_some_iff, Prod.exists, Prod.mk.injEq]
  constructor
  · rintro ⟨n, _, read, rfl, rfl⟩
    obtain ⟨bs, spelled, rfl⟩ := Varint.spelling_of_decode read
    have whole : n.toUInt32.toNat = n := UInt32.toNat_ofNat_of_lt' spelled.2.2
    exact ⟨bs, by rwa [Spelling.word32, whole], rfl⟩
  · rintro ⟨bs, spelled, rfl⟩
    exact ⟨w.toNat, rest, Varint.decode_of_spelling rest spelled, by simp, rfl⟩

theorem accepts_size : Accepts size Spelling.size := fun _ _ _ => Varint.decode_eq_some

theorem accepts_flag : Accepts flag Spelling.flag := by
  intro input b rest
  simp only [Spelling.flag, mem_singleton, exists_eq_left]
  constructor
  · intro read
    cases input with
    | nil => cases read
    | cons c input =>
        simp only [flag, byte, Option.bind_eq_bind, Option.bind_some] at read
        split at read
        next zero =>
          cases read
          simp [zero]
        next =>
          split at read
          next one =>
            cases read
            simp [one]
          next => cases read
  · rintro rfl
    exact undoes_flag b rest

theorem accepts_blob : Accepts blob Spelling.blob := by
  refine .of_among (.bind List.length accepts_size fun n input data rest => ?_)
  simp only [bytes, mem_singleton, exists_eq_left, true_and]
  constructor
  · intro read
    simp only [Option.ite_none_right_eq_some, Option.some.injEq, Prod.mk.injEq] at read
    obtain ⟨enough, rfl, rfl⟩ := read
    simp [enough]
  · rintro ⟨rfl, rfl⟩
    exact undoes_bytes data rest

theorem accepts_text : Accepts text Spelling.text := by
  have both :
      AcceptsAmong (fun _ => True) text fun s => Spelling.blob s.toUTF8.data.toList * 1 := by
    refine .bind (fun s : String => s.toUTF8.data.toList) accepts_blob fun data => ?_
    have form (s : String) : s.toUTF8.data.toList = data ↔
        String.fromUTF8? (ByteArray.mk data.toArray) = some s := by
      rw [Text.fromUTF8?_eq_some, eq_comm]
    simp only [true_and, form]
    cases String.fromUTF8? (ByteArray.mk data.toArray) with
    | none => exact fun input s rest => ⟨fun read => (nomatch read), fun known => (nomatch known.1)⟩
    | some t => exact .pure fun s => by rw [Option.some.injEq, eq_comm]
  intro input s rest
  simpa only [Spelling.text, mul_one, true_and] using both input s rest

theorem accepts_choice (choices : List α) : Accepts (choice choices) (Spelling.choice choices) := by
  intro input x rest
  simp only [choice, Option.bind_eq_bind, Option.bind_eq_some_iff, Prod.exists]
  constructor
  · rintro ⟨n, _, read, y, found, given⟩
    cases given
    obtain ⟨bs, spelled, rfl⟩ := Varint.spelling_of_decode read
    exact ⟨bs, ⟨n, found, spelled⟩, rfl⟩
  · rintro ⟨bs, ⟨n, found, spelled⟩, rfl⟩
    exact ⟨n, rest, Varint.decode_of_spelling rest spelled, x, found, rfl⟩

end Reader
end ConnectedDevice
