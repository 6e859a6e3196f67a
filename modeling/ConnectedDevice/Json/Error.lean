import ConnectedDevice.Decimal.Shortest
import ConnectedDevice.Text.Quoted

/-!
What can be wrong with a JSON text that is read for the fields of a known record: it ends too
early, it does not follow the grammar, or a value is not of the kind that its field wants.
-/

namespace ConnectedDevice

namespace Json

/-- A number with a fraction or an exponent: `significand * 10^exponent`, and its sign. -/
structure Scientific where
  negative : Bool
  significand : Nat
  exponent : Int
deriving DecidableEq, Repr

namespace Scientific

/-- Multiplication by a power of ten that 64-bit fractions hold, in one rounding step; greater
divisions are done in parts. The fuel is never used up: two parts bring every significand below
`2^64` to zero. `none` stands for a result out of range. -/
def scale : Nat → Float → Int → Option Float
  | 0, x, _ => some x
  | fuel + 1, x, exponent =>
    if exponent.natAbs ≤ 308 then
      let power := Float.ofScientific 1 false exponent.natAbs
      if exponent < 0 then some (x / power)
      else if (x * power).isInf then none
      else some (x * power)
    else if x == 0 then some x
    else if 0 < exponent then none
    else scale fuel (x / Float.ofScientific 1 false 308) (exponent + 308)

/-- The absolute value, `none` if it is out of range. -/
def magnitude? (n : Scientific) : Option Float :=
  scale 8 n.significand.toUInt64.toFloat n.exponent

/-- Numbers in messages are positional from `10^-5` to `10^16`. -/
def messageStyle : Decimal.Style := ⟨-4, 16⟩

def text (n : Scientific) : String :=
  let sign := if n.negative then ['-'] else []
  let digits :=
    match n.magnitude? with
    | some x =>
      if x == 0 then ['0', '.', '0']
      else messageStyle.write (Decimal.shortest (Decimal.Fraction.ofBits x.toBits))
    | none => []
  String.ofList (sign ++ digits)

end Scientific

/-- What stands where a value of another kind is wanted. -/
inductive Found where
  | integer (n : Int)
  | scientific (n : Scientific)
  | flag (b : Bool)
  | text (s : String)
  | null
  | array
  | object
deriving DecidableEq, Repr

def Found.message : Found → String
  | .integer n => s!"integer `{n}`"
  | .scientific n => s!"floating point `{n.text}`"
  | .flag b => s!"boolean `{b}`"
  | .text s => s!"string {Text.quoted s}"
  | .null => "null"
  | .array => "sequence"
  | .object => "map"

/-- What a place in a JSON text wants. -/
inductive Wanted where
  | text
  | flag
  | word
  /-- a record of the given name -/
  | record (name : String)
deriving DecidableEq, Repr

def Wanted.message : Wanted → String
  | .text => "a string"
  | .flag => "a boolean"
  | .word => "u32"
  | .record name => s!"struct {name}"

end Json

inductive JsonError where
  | valueEnds
  | stringEnds
  | arrayEnds
  | objectEnds
  | expectedValue
  | expectedIdent
  | expectedColon
  | expectedCommaInArray
  | expectedCommaInObject
  | keyNotString
  | trailingComma
  | trailingCharacters
  | invalidNumber
  | numberOutOfRange
  | invalidEscape
  | invalidCodePoint
  | controlInString
  | loneSurrogate
  | unexpectedEndOfEscape
  | invalidType (found : Json.Found) (wanted : Json.Wanted)
  | invalidValue (found : Json.Found) (wanted : Json.Wanted)
  /-- an array of `length` elements stands for a record of `fields` fields -/
  | invalidLength (length : Nat) (name : String) (fields : Nat)
  | duplicateField (name : String)
deriving DecidableEq, Repr

namespace JsonError

inductive Category where
  | ends
  | grammar
  | data
deriving DecidableEq, Repr

def category : JsonError → Category
  | .valueEnds | .stringEnds | .arrayEnds | .objectEnds => .ends
  | .invalidType .. | .invalidValue .. | .invalidLength .. | .duplicateField _ => .data
  | _ => .grammar

def message : JsonError → String
  | .valueEnds => "EOF while parsing a value"
  | .stringEnds => "EOF while parsing a string"
  | .arrayEnds => "EOF while parsing a list"
  | .objectEnds => "EOF while parsing an object"
  | .expectedValue => "expected value"
  | .expectedIdent => "expected ident"
  | .expectedColon => "expected `:`"
  | .expectedCommaInArray => "expected `,` or `]`"
  | .expectedCommaInObject => "expected `,` or `\x7d`"
  | .keyNotString => "key must be a string"
  | .trailingComma => "trailing comma"
  | .trailingCharacters => "trailing characters"
  | .invalidNumber => "invalid number"
  | .numberOutOfRange => "number out of range"
  | .invalidEscape => "invalid escape"
  | .invalidCodePoint => "invalid unicode code point"
  | .controlInString => "control character (\\u0000-\\u001F) found while parsing a string"
  | .loneSurrogate => "lone leading surrogate in hex escape"
  | .unexpectedEndOfEscape => "unexpected end of hex escape"
  | .invalidType found wanted => s!"invalid type: {found.message}, expected {wanted.message}"
  | .invalidValue found wanted => s!"invalid value: {found.message}, expected {wanted.message}"
  | .invalidLength length name fields =>
    s!"invalid length {length}, expected struct {name} with {fields} elements"
  | .duplicateField name => s!"duplicate field `{name}`"

end JsonError
end ConnectedDevice
