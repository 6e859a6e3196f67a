import ConnectedDevice.Bytes
import ConnectedDevice.Json.Error
import ConnectedDevice.Text.Hex

/-!
Strings in JSON texts, after their opening quote. A string that is read must be UTF-8 with paired
surrogates; a string that is skipped need only end, and its escapes have their letters and digits.
-/

namespace ConnectedDevice.Json

/-- The byte that a letter after a backslash stands for. -/
def plainEscape? (b : UInt8) : Option UInt8 :=
  match b with
  | 0x22 => some 0x22
  | 0x5C => some 0x5C
  | 0x2F => some 0x2F
  | 0x62 => some 0x08
  | 0x66 => some 0x0C
  | 0x6E => some 0x0A
  | 0x72 => some 0x0D
  | 0x74 => some 0x09
  | _ => none

def utf8 (n : Nat) : Bytes := String.utf8EncodeChar (Char.ofNat n)

def isHighSurrogate (n : Nat) : Bool := 0xD800 ≤ n && n ≤ 0xDBFF

def isLowSurrogate (n : Nat) : Bool := 0xDC00 ≤ n && n ≤ 0xDFFF

def ofSurrogates (high low : Nat) : Nat := (high - 0xD800) * 0x400 + (low - 0xDC00) + 0x10000

/-- The bytes of a string up to its closing quote, with its escapes replaced. `seen` holds the
bytes so far in reverse order. -/
def unescape (seen : Bytes) : Bytes → Except JsonError (Bytes × Bytes)
  | [] => .error .stringEnds
  | b :: rest =>
    if b = 0x22 then .ok (seen.reverse, rest)
    else if b < 0x20 then .error .controlInString
    else if b ≠ 0x5C then unescape (b :: seen) rest
    else
      match rest with
      | [] => .error .stringEnds
      | e :: rest =>
        if e ≠ 0x75 then
          match plainEscape? e with
          | some b => unescape (b :: seen) rest
          | none => .error .invalidEscape
        else
          match rest with
          | d1 :: d2 :: d3 :: d4 :: rest =>
            match Hex.value4? d1 d2 d3 d4 with
            | none => .error .invalidEscape
            | some n =>
              if isLowSurrogate n then .error .loneSurrogate
              else if !isHighSurrogate n then unescape ((utf8 n).reverse ++ seen) rest
              else
                match rest with
                | [] => .error .stringEnds
                | [b] => .error (if b = 0x5C then .stringEnds else .unexpectedEndOfEscape)
                | b :: u :: rest =>
                  if b ≠ 0x5C ∨ u ≠ 0x75 then .error .unexpectedEndOfEscape
                  else
                    match rest with
                    | d1 :: d2 :: d3 :: d4 :: rest =>
                      match Hex.value4? d1 d2 d3 d4 with
                      | none => .error .invalidEscape
                      | some low =>
                        if isLowSurrogate low then
                          unescape ((utf8 (ofSurrogates n low)).reverse ++ seen) rest
                        else .error .loneSurrogate
                    | _ => .error .stringEnds
          | _ => .error .stringEnds

def readText (input : Bytes) : Except JsonError (String × Bytes) :=
  match unescape [] input with
  | .error e => .error e
  | .ok (bytes, rest) =>
    match String.fromUTF8? (ByteArray.mk bytes.toArray) with
    | some s => .ok (s, rest)
    | none => .error .invalidCodePoint

def skipText : Bytes → Except JsonError Bytes
  | [] => .error .stringEnds
  | b :: rest =>
    if b = 0x22 then .ok rest
    else if b < 0x20 then .error .controlInString
    else if b ≠ 0x5C then skipText rest
    else
      match rest with
      | [] => .error .stringEnds
      | e :: rest =>
        if e ≠ 0x75 then
          if (plainEscape? e).isSome then skipText rest else .error .invalidEscape
        else
          match rest with
          | d1 :: d2 :: d3 :: d4 :: rest =>
            if (Hex.value4? d1 d2 d3 d4).isSome then skipText rest else .error .invalidEscape
          | _ => .error .stringEnds

end ConnectedDevice.Json
