import ConnectedDevice.Bytes

/-!
The checksum of configuration images: the 32-bit cyclic redundancy code with the Castagnoli
generator, least significant bit first, inverted before and after.
-/

namespace ConnectedDevice

namespace Crc32

/-- The generator with its coefficients in reverse order. -/
def generator : UInt32 := 0x82F63B78

/-- The remainder moved down by one bit. -/
def shift (r : UInt32) : UInt32 :=
  if r &&& 1 ≠ 0 then (r >>> 1) ^^^ generator else r >>> 1

def feed (r : UInt32) (b : UInt8) : UInt32 :=
  let r := r ^^^ b.toUInt32
  shift (shift (shift (shift (shift (shift (shift (shift r)))))))

end Crc32

def crc32 (data : Bytes) : UInt32 := data.foldl Crc32.feed 0xFFFFFFFF ^^^ 0xFFFFFFFF

end ConnectedDevice
