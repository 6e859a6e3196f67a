import ConnectedDevice.Bytes
import ConnectedDevice.Json.Error

/-!
Numbers in JSON texts: their spelling, and the value that a spelling stands for. A whole number
below `2^64` is kept as it is. Any other spelling stands for a decimal whose significand keeps the
digits that fit below `2^64`.
-/

namespace ConnectedDevice.Json

def isDigit (b : UInt8) : Bool := 0x30 ≤ b && b ≤ 0x39

/-- A number in parts: digits before the point, digits after it, and the exponent. -/
structure Numeral where
  negative : Bool
  whole : Bytes
  fraction : Option Bytes
  exponent : Option (Bool × Bytes)
deriving DecidableEq, Repr

/-- A digit is missing at the end of the text, or something else stands in its place. -/
inductive NumeralFault where
  | ends
  | malformed
deriving DecidableEq, Repr

namespace Numeral

/-- Digits that are not empty, up to the first byte that is none. -/
def readDigits : Bytes → Except NumeralFault (Bytes × Bytes)
  | [] => .error .ends
  | b :: rest =>
    if isDigit b then .ok (b :: rest.takeWhile isDigit, rest.dropWhile isDigit)
    else .error .malformed

/-- A zero in front stands alone. -/
def readWhole (input : Bytes) : Except NumeralFault (Bytes × Bytes) :=
  match input with
  | 0x30 :: rest =>
    if rest.head?.any isDigit then .error .malformed else .ok ([0x30], rest)
  | _ => readDigits input

def readFraction : Bytes → Except NumeralFault (Option Bytes × Bytes)
  | 0x2E :: rest => (readDigits rest).map fun (ds, rest) => (some ds, rest)
  | input => .ok (none, input)

def readExponentDigits (negative : Bool) (input : Bytes) :
    Except NumeralFault (Option (Bool × Bytes) × Bytes) :=
  (readDigits input).map fun (ds, rest) => (some (negative, ds), rest)

def readExponent : Bytes → Except NumeralFault (Option (Bool × Bytes) × Bytes)
  | b :: rest =>
    if b = 0x65 ∨ b = 0x45 then
      match rest with
      | 0x2B :: rest => readExponentDigits false rest
      | 0x2D :: rest => readExponentDigits true rest
      | _ => readExponentDigits false rest
    else .ok (none, b :: rest)
  | [] => .ok (none, [])

/-- What follows the sign. -/
def readUnsigned (negative : Bool) (input : Bytes) : Except NumeralFault (Numeral × Bytes) := do
  let (whole, input) ← readWhole input
  let (fraction, input) ← readFraction input
  let (exponent, input) ← readExponent input
  return ({ negative, whole, fraction, exponent }, input)

def read : Bytes → Except NumeralFault (Numeral × Bytes)
  | 0x2D :: rest => readUnsigned true rest
  | input => readUnsigned false input

/-- A significand under construction. It is full once the next digit would not fit. -/
structure Gathered where
  significand : Nat
  exponent : Int
  full : Bool

/-- A digit before the point that is left out still counts for the size of the number. -/
def Gathered.whole (g : Gathered) (b : UInt8) : Gathered :=
  let next := g.significand * 10 + (b.toNat - 0x30)
  if g.full ∨ UInt64.size ≤ next then { g with exponent := g.exponent + 1, full := true }
  else { g with significand := next }

def Gathered.fraction (g : Gathered) (b : UInt8) : Gathered :=
  let next := g.significand * 10 + (b.toNat - 0x30)
  if g.full ∨ UInt64.size ≤ next then { g with full := true }
  else { g with significand := next, exponent := g.exponent - 1 }

def naturalOf (digits : Bytes) : Nat := digits.foldl (fun n b => n * 10 + (b.toNat - 0x30)) 0

/-- The bound of signed numbers of 32 bits. -/
def exponentBound : Nat := 0x80000000

/-- Exponents stay within 32 bits. -/
def clampExponent (e : Int) : Int := max (-exponentBound) (min (exponentBound - 1) e)

/-- An exponent of more than 31 bits makes a number zero, or puts it out of range. -/
def withExponent (negative : Bool) (g : Gathered) (exponent : Option (Bool × Bytes)) :
    Option Scientific :=
  match exponent with
  | none => some ⟨negative, g.significand, g.exponent⟩
  | some (down, digits) =>
    let e := naturalOf digits
    if exponentBound ≤ e then
      if g.significand ≠ 0 ∧ !down then none else some ⟨negative, 0, 0⟩
    else
      let sum := if down then g.exponent - e else g.exponent + e
      some ⟨negative, g.significand, clampExponent sum⟩

/-- The bound of signed numbers of 64 bits. -/
def integerBound : Nat := 0x8000000000000000

/-- The value of a number, `none` if it is out of range. A negative zero is no integer, nor is what
lies below `-2^63`. -/
def value? (n : Numeral) : Option Found :=
  let whole := n.whole.foldl Gathered.whole ⟨0, 0, false⟩
  if n.fraction.isNone ∧ n.exponent.isNone ∧ !whole.full ∧
      (!n.negative ∨ (0 < whole.significand ∧ whole.significand ≤ integerBound)) then
    some (.integer (if n.negative then -whole.significand else whole.significand))
  else
    let gathered :=
      match n.fraction with
      | some digits => digits.foldl Gathered.fraction { whole with full := false }
      | none => whole
    match withExponent n.negative gathered n.exponent with
    | some s => if s.magnitude?.isSome then some (.scientific s) else none
    | none => none

end Numeral
end ConnectedDevice.Json
