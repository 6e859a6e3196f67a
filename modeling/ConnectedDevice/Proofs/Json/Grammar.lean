import ConnectedDevice.Json.Value
import Mathlib.Data.List.TakeWhile

/-!
The grammar of JSON texts, over their bytes. Blanks may stand before every token. Texts come in two
strengths: one that is read spells its characters, one that is skipped need only end. Numbers and
names carry what they stand for, so that a reader can be compared with the grammar in both
directions.
-/

namespace ConnectedDevice.Json

/-! ## Readers that succeed -/

section

variable {ε α β : Type} {x : Except ε α} {y : β}

theorem map_eq_ok {f : α → β} : x.map f = .ok y ↔ ∃ a, x = .ok a ∧ f a = y := by
  cases x <;> simp [Except.map]

theorem bind_eq_ok {f : α → Except ε β} : x >>= f = .ok y ↔ ∃ a, x = .ok a ∧ f a = .ok y := by
  cases x <;> simp [bind, Except.bind]

end

/-! ## Blanks -/

def Blank (bs : Bytes) : Prop := ∀ b ∈ bs, isBlank b = true

theorem skipBlanks_eq_nil {input : Bytes} : skipBlanks input = [] ↔ Blank input :=
  List.dropWhile_eq_nil_iff

theorem skipBlanks_append {gap input : Bytes} (blank : Blank gap) :
    skipBlanks (gap ++ input) = skipBlanks input := by
  rw [skipBlanks, List.dropWhile_append_of_pos blank, skipBlanks]

theorem eq_gap_append_skipBlanks (input : Bytes) :
    ∃ gap, Blank gap ∧ input = gap ++ skipBlanks input :=
  ⟨input.takeWhile isBlank, fun _ within => List.all_eq_true.mp List.all_takeWhile _ within,
    List.takeWhile_append_dropWhile.symm⟩

@[simp] theorem skipBlanks_skipBlanks (input : Bytes) :
    skipBlanks (skipBlanks input) = skipBlanks input := by
  obtain ⟨gap, blank, same⟩ := eq_gap_append_skipBlanks input
  rw [← skipBlanks_append blank, ← same]

/-- What is left after the blanks begins with the first byte that is none. -/
theorem skipBlanks_eq_cons {input rest : Bytes} {b : UInt8} :
    skipBlanks input = b :: rest ↔
      isBlank b = false ∧ ∃ gap, Blank gap ∧ input = gap ++ b :: rest := by
  constructor
  · intro left
    obtain ⟨gap, blank, same⟩ := eq_gap_append_skipBlanks input
    have stops := List.head?_dropWhile_not isBlank input
    rw [← skipBlanks, left] at stops
    rw [left] at same
    exact ⟨stops, gap, blank, same⟩
  · rintro ⟨shown, gap, blank, rfl⟩
    rw [skipBlanks_append blank, skipBlanks, List.dropWhile_cons_of_neg (by simp [shown])]

/-- Something and the blanks before it. -/
def Led (bs led : Bytes) : Prop := ∃ gap, Blank gap ∧ led = gap ++ bs

theorem led_self (bs : Bytes) : Led bs bs := ⟨[], by simp [Blank], rfl⟩

theorem Led.front {b : UInt8} {v led : Bytes} (before : Led (b :: v) led)
    (shown : isBlank b = false) (rest : Bytes) : skipBlanks (led ++ rest) = b :: (v ++ rest) := by
  obtain ⟨gap, blank, rfl⟩ := before
  exact skipBlanks_eq_cons.mpr ⟨shown, gap, blank, by simp⟩

theorem Led.length_pos {b : UInt8} {v led : Bytes} (before : Led (b :: v) led) :
    0 < led.length := by
  obtain ⟨gap, -, rfl⟩ := before
  rw [List.length_append, List.length_cons]
  omega

theorem led_of_skipBlanks {input rest : Bytes} {b : UInt8} (front : skipBlanks input = b :: rest) :
    ∃ led, Led [b] led ∧ input = led ++ rest := by
  obtain ⟨-, gap, blank, rfl⟩ := skipBlanks_eq_cons.mp front
  exact ⟨gap ++ [b], ⟨gap, blank, rfl⟩, by simp⟩

/-! ## Texts -/

/-- A part of a text between its quotes, and the bytes that it stands for. Characters that need two
code units are given by both of them, in order. -/
inductive Piece : Bytes → Bytes → Prop
  | plain {b : UInt8} (shown : 0x20 ≤ b) (unquoted : b ≠ 0x22) (unescaped : b ≠ 0x5C) :
      Piece [b] [b]
  | letter {e b : UInt8} (escape : plainEscape? e = some b) : Piece [0x5C, e] [b]
  | unit {d1 d2 d3 d4 : UInt8} {n : Nat} (digits : Hex.value4? d1 d2 d3 d4 = some n)
      (notHigh : isHighSurrogate n = false) (notLow : isLowSurrogate n = false) :
      Piece [0x5C, 0x75, d1, d2, d3, d4] (utf8 n)
  | pair {d1 d2 d3 d4 e1 e2 e3 e4 : UInt8} {high low : Nat}
      (first : Hex.value4? d1 d2 d3 d4 = some high) (isHigh : isHighSurrogate high = true)
      (second : Hex.value4? e1 e2 e3 e4 = some low) (isLow : isLowSurrogate low = true) :
      Piece [0x5C, 0x75, d1, d2, d3, d4, 0x5C, 0x75, e1, e2, e3, e4] (utf8 (ofSurrogates high low))

inductive Content : Bytes → Bytes → Prop
  | nil : Content [] []
  | cons {piece bytes raw bs : Bytes} (first : Piece piece bytes) (rest : Content raw bs) :
      Content (piece ++ raw) (bytes ++ bs)

/-- A part of a text that is skipped: any code unit may stand alone. -/
inductive LoosePiece : Bytes → Prop
  | plain {b : UInt8} (shown : 0x20 ≤ b) (unquoted : b ≠ 0x22) (unescaped : b ≠ 0x5C) :
      LoosePiece [b]
  | letter {e : UInt8} (escape : (plainEscape? e).isSome) : LoosePiece [0x5C, e]
  | unit {d1 d2 d3 d4 : UInt8} (digits : (Hex.value4? d1 d2 d3 d4).isSome) :
      LoosePiece [0x5C, 0x75, d1, d2, d3, d4]

inductive LooseContent : Bytes → Prop
  | nil : LooseContent []
  | cons {piece raw : Bytes} (first : LoosePiece piece) (rest : LooseContent raw) :
      LooseContent (piece ++ raw)

def inQuotes (raw : Bytes) : Bytes := 0x22 :: (raw ++ [0x22])

/-- The spellings of a text. -/
def SpellsText (s : String) (bs : Bytes) : Prop :=
  ∃ raw, Content raw s.toUTF8.data.toList ∧ bs = inQuotes raw

/-! ## Numbers -/

def Digits (ds : Bytes) : Prop := ds ≠ [] ∧ ∀ d ∈ ds, isDigit d = true

/-- Digits without needless zeros in front. -/
def Whole (ds : Bytes) : Prop := Digits ds ∧ (ds.head? = some 0x30 → ds = [0x30])

namespace Numeral

def sign (negative : Bool) : Bytes := if negative then [0x2D] else []

def SpellsFraction : Option Bytes → Bytes → Prop
  | none, bs => bs = []
  | some digits, bs => Digits digits ∧ bs = 0x2E :: digits

def SpellsExponent : Option (Bool × Bytes) → Bytes → Prop
  | none, bs => bs = []
  | some (negative, digits), bs =>
    Digits digits ∧ ∃ e ∈ [0x65, 0x45], ∃ plus ∈ [[], [0x2B]],
      bs = e :: (if negative then [0x2D] else plus) ++ digits

def Spells (n : Numeral) (bs : Bytes) : Prop :=
  Whole n.whole ∧ ∃ fraction exponent,
    SpellsFraction n.fraction fraction ∧ SpellsExponent n.exponent exponent ∧
      bs = sign n.negative ++ n.whole ++ fraction ++ exponent

end Numeral

/-- The spellings of a word. -/
def SpellsWord (n : UInt32) (bs : Bytes) : Prop := Whole bs ∧ Numeral.naturalOf bs = n.toNat

/-! ## Lists -/

section

variable {α : Type} (Spells : α → Bytes → Prop)

/-- Entries that follow others, each after a comma. -/
inductive Later : List α → Bytes → Prop
  | nil : Later [] []
  | cons {x : α} {xs : List α} {comma bs rest : Bytes} (follows : Led [0x2C] comma)
      (spelled : Spells x bs) (later : Later xs rest) : Later (x :: xs) (comma ++ (bs ++ rest))

/-- Entries with commas between them. -/
def Series : List α → Bytes → Prop
  | [], bs => bs = []
  | x :: xs, bs => ∃ first rest, Spells x first ∧ Later Spells xs rest ∧ bs = first ++ rest

end

/-- A member of an object by what stands between the quotes of its name, and its value. -/
def Labelled (raw value bs : Bytes) : Prop :=
  ∃ name colon led, Led (inQuotes raw) name ∧ Led [0x3A] colon ∧ Led value led ∧
    bs = name ++ (colon ++ led)

def Bracket.opening : Bracket → UInt8
  | .array => 0x5B
  | .object => 0x7B

def Bracket.closing : Bracket → UInt8
  | .array => 0x5D
  | .object => 0x7D

/-- What stands between brackets, and the brackets. -/
def Enclosed (b : Bracket) (inner bs : Bytes) : Prop :=
  ∃ last, Led [b.closing] last ∧ bs = b.opening :: (inner ++ last)

/-- Blanks before a value in brackets stand before its opening bracket. -/
theorem led_enclosed {b : Bracket} {inner led : Bytes} :
    (∃ v, Enclosed b inner v ∧ Led v led) ↔ ∃ first last,
      Led [b.opening] first ∧ Led [b.closing] last ∧ led = first ++ (inner ++ last) := by
  constructor
  · rintro ⟨_, ⟨last, closes, rfl⟩, gap, blank, rfl⟩
    exact ⟨gap ++ [b.opening], last, ⟨gap, blank, rfl⟩, closes, by simp⟩
  · rintro ⟨_, last, ⟨gap, blank, rfl⟩, closes, rfl⟩
    exact ⟨_, ⟨last, closes, rfl⟩, gap, blank, by simp⟩

/-! ## Values -/

def nullText : Bytes := 0x6E :: nullRest

def flagText (b : Bool) : Bytes := if b then 0x74 :: trueRest else 0x66 :: falseRest

/-- A value without values in it. -/
inductive Scalar : Bytes → Prop
  | null : Scalar nullText
  | flag (b : Bool) : Scalar (flagText b)
  | number {n : Numeral} {bs : Bytes} (spelled : n.Spells bs) : Scalar bs
  | text {raw : Bytes} (loose : LooseContent raw) : Scalar (inQuotes raw)

/-- A value of any kind, nested to any depth. -/
inductive Grammatical : Bytes → Prop
  | scalar {bs : Bytes} (scalar : Scalar bs) : Grammatical bs
  | array {values : List Bytes} {inner bs : Bytes} (each : ∀ v ∈ values, Grammatical v)
      (list : Series Led values inner) (enclosed : Enclosed .array inner bs) : Grammatical bs
  | object {members : List (Bytes × Bytes)} {inner bs : Bytes}
      (names : ∀ m ∈ members, LooseContent m.1) (each : ∀ m ∈ members, Grammatical m.2)
      (list : Series (fun m => Labelled m.1 m.2) members inner)
      (enclosed : Enclosed .object inner bs) : Grammatical bs

/-- The spellings of a value that may be missing. -/
def SpellsOptional {α : Type} (Spells : α → Bytes → Prop) : Option α → Bytes → Prop
  | none, bs => bs = nullText
  | some x, bs => Spells x bs

/-- What may follow a number so that it cannot be read any further. -/
def Ended (rest : Bytes) : Prop :=
  ∀ b ∈ rest.head?, isBlank b = true ∨ b ∈ [0x2C, Bracket.array.closing, Bracket.object.closing]

end ConnectedDevice.Json
