import ConnectedDevice.Codec.Varint

/-!
Readers of binary fields. A reader consumes a front part of its input and leaves the rest, or
refuses the input; the writer of each kind of field stands beside its reader.
-/

namespace ConnectedDevice

abbrev Reader := StateT Bytes Option

namespace Reader

def byte : Reader UInt8
  | [] => none
  | b :: rest => some (b, rest)

def bytes (n : Nat) : Reader Bytes := fun input =>
  if n ≤ input.length then some (input.take n, input.drop n) else none

def array (n : Nat) : Reader (Vector UInt8 n) := fun input =>
  if h : n ≤ input.length then
    some (⟨(input.take n).toArray, by simp [h]⟩, input.drop n)
  else none

def word16 : Reader UInt16 := fun input =>
  (Varint.decode16 input).map fun (n, rest) => (n.toUInt16, rest)

def word32 : Reader UInt32 := fun input =>
  (Varint.decode32 input).map fun (n, rest) => (n.toUInt32, rest)

/-- A length below `2^64`. -/
def size : Reader Nat := Varint.decode64

def flag : Reader Bool := fun input => do
  match ← byte input with
  | (b, rest) => if b = 0 then some (false, rest) else if b = 1 then some (true, rest) else none

/-- Bytes after their length. -/
def blob : Reader Bytes := do bytes (← size)

/-- A text is the bytes of its UTF-8 form after their length. -/
def text : Reader String := do
  match String.fromUTF8? (ByteArray.mk (← blob).toArray) with
  | some s => return s
  | none => failure

/-- A choice is its position in the list of all choices. -/
def choice {α : Type} (choices : List α) : Reader α := fun input => do
  let (n, rest) ← Varint.decode32 input
  let x ← choices[n]?
  return (x, rest)

end Reader

namespace Writer

def word16 (w : UInt16) : Bytes := Varint.encode w.toNat

def word32 (w : UInt32) : Bytes := Varint.encode w.toNat

def flag (b : Bool) : Bytes := [if b then 1 else 0]

def blob (data : Bytes) : Bytes := Varint.encode data.length ++ data

def text (s : String) : Bytes := blob s.toUTF8.data.toList

/-- The position of `x` in the list of all choices. -/
def choice {α : Type} [BEq α] (choices : List α) (x : α) : Bytes :=
  Varint.encode (choices.idxOf x)

end Writer
end ConnectedDevice
