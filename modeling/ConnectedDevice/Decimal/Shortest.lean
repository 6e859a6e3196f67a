/-!
The fewest decimal digits that identify a 64-bit binary fraction. The numbers that round to a given
fraction form an interval around it, which holds its ends when the mantissa is even. Of the decimal
grids `10^(k-1), 10^(k-2), …` the first one with a point in that interval is taken, and of two
points the nearer one.
-/

namespace ConnectedDevice.Decimal

/-- A positive fraction `mantissa * 2^exponent`. Below a power of two the next fraction is only half
as far away as above it. -/
structure Fraction where
  mantissa : Nat
  exponent : Int
  narrowBelow : Bool

/-- The number of mantissas below the one of a full fraction: two to the power 52. -/
def fractionSize : Nat := 0x10000000000000

def Fraction.ofBits (bits : UInt64) : Fraction :=
  let biased : Nat := bits.toNat / fractionSize % 0x800
  let low := bits.toNat % fractionSize
  if biased = 0 then ⟨low, -1074, false⟩
  else ⟨fractionSize + low, (biased : Int) - 1075, low == 0 && biased > 1⟩

/-- `digits * 10^exponent` -/
structure Digits where
  digits : Nat
  exponent : Int
deriving DecidableEq, Repr

/-- A fraction, the ends of its interval and a decimal grid over one denominator, so that all of
them are natural numbers. -/
structure Scaled where
  value : Nat
  low : Nat
  high : Nat
  closed : Bool
  grid : Nat

/-- Everything is multiplied by `4 * 2^(-exponent)` and by `10^(-place)` where these are whole. -/
def Fraction.scaled (x : Fraction) (place : Int) : Scaled :=
  let up := Nat.pow 2 x.exponent.toNat * Nat.pow 10 (-place).toNat
  { value := 4 * x.mantissa * up
    low := (4 * x.mantissa - if x.narrowBelow then 1 else 2) * up
    high := (4 * x.mantissa + 2) * up
    closed := x.mantissa % 2 == 0
    grid := 4 * Nat.pow 2 (-x.exponent).toNat * Nat.pow 10 place.toNat }

def Scaled.holds (s : Scaled) (n : Nat) : Bool :=
  let point := n * s.grid
  if s.closed then s.low ≤ point && point ≤ s.high else s.low < point && point < s.high

/-- The points of the grid next to the value, if they lie in the interval; the nearer one first,
and of two equally near ones the even one. -/
def Scaled.pick (s : Scaled) : Option Nat :=
  let below := s.value / s.grid
  let above := below + 1
  match s.holds below, s.holds above with
  | true, false => some below
  | false, true => some above
  | true, true =>
    let down := s.value - below * s.grid
    let up := above * s.grid - s.value
    some (if down < up ∨ (down = up ∧ below % 2 = 0) then below else above)
  | false, false => none

/-- Grids from the place `place` downwards. -/
def Fraction.search (x : Fraction) (place : Int) : Nat → Option Digits
  | 0 => none
  | tries + 1 =>
    match (x.scaled place).pick with
    | some n => if n = 0 then x.search (place - 1) tries else some ⟨n, place⟩
    | none => x.search (place - 1) tries

/-- Zeros at the end of the digits move into the exponent. -/
def Digits.strip (d : Digits) : Nat → Digits
  | 0 => d
  | tries + 1 =>
    if d.digits ≠ 0 ∧ d.digits % 10 = 0 then strip ⟨d.digits / 10, d.exponent + 1⟩ tries else d

/-- No 64-bit fraction reaches `10^309`, and below that every one has a point within 650 places. -/
def shortest (x : Fraction) : Digits :=
  ((x.search 309 650).getD ⟨0, 0⟩).strip 20

/-- How numbers are written: positionally while the point stands from `leastPoint` to
`greatestPoint` digits after the first digit, and otherwise with an exponent. -/
structure Style where
  leastPoint : Int
  greatestPoint : Int

/-- A number whose decimal point stands `point` digits after its first digit. -/
def Style.write (f : Style) (d : Digits) : List Char :=
  let digits := Nat.toDigits 10 d.digits
  let count : Int := digits.length
  let point := count + d.exponent
  if point < f.leastPoint ∨ f.greatestPoint < point then
    let power := (toString (point - 1)).toList
    match digits with
    | [c] => c :: 'e' :: power
    | c :: cs => c :: '.' :: cs ++ 'e' :: power
    | [] => power
  else if count ≤ point then
    digits ++ List.replicate (point - count).toNat '0' ++ ['.', '0']
  else if 0 < point then
    digits.take point.toNat ++ '.' :: digits.drop point.toNat
  else
    '0' :: '.' :: List.replicate (-point).toNat '0' ++ digits

end ConnectedDevice.Decimal
