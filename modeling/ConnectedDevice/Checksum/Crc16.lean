import ConnectedDevice.Bytes

/-!
The checksum of firmware images: the 16-bit cyclic redundancy code with generator
`x^16 + x^12 + x^5 + 1`, most significant bit first, starting from zero. It is fed chunk by chunk
while an image arrives.
-/

namespace ConnectedDevice

/-- The remainder of the bytes fed so far, and their number. -/
structure Crc16 where
  remainder : UInt16
  size : Nat
deriving DecidableEq, Repr

namespace Crc16

def empty : Crc16 := ⟨0, 0⟩

/-- The remainder moved up by one bit. -/
def shift (r : UInt16) : UInt16 :=
  if r &&& 0x8000 ≠ 0 then (r <<< 1) ^^^ 0x1021 else r <<< 1

def feed (r : UInt16) (b : UInt8) : UInt16 :=
  let r := r ^^^ (b.toUInt16 <<< 8)
  shift (shift (shift (shift (shift (shift (shift (shift r)))))))

def update (c : Crc16) (chunk : Bytes) : Crc16 :=
  ⟨chunk.foldl feed c.remainder, c.size + chunk.length⟩

def isEmpty (c : Crc16) : Bool := c.size == 0

end Crc16

def crc16 (data : Bytes) : UInt16 := data.foldl Crc16.feed 0

end ConnectedDevice
