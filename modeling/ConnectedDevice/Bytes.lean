/-!
Byte strings and the fixed-width words that the device's formats store in them, least significant
byte first.
-/

namespace ConnectedDevice

abbrev Bytes := List UInt8

namespace Bytes

def ofWord32 (w : UInt32) : Bytes :=
  [w.toUInt8, (w >>> 8).toUInt8, (w >>> 16).toUInt8, (w >>> 24).toUInt8]

/-- The word whose bytes, least significant first, are the four given. -/
def word32 (a b c d : UInt8) : UInt32 :=
  a.toUInt32 ||| (b.toUInt32 <<< 8) ||| (c.toUInt32 <<< 16) ||| (d.toUInt32 <<< 24)

end Bytes
end ConnectedDevice
