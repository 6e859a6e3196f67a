import ConnectedDevice.Bytes

/-!
The payload of the second stage of a discovery: authentication data of any bytes, a `#`, an
identifier, and for a static configuration four addresses. The `#` is searched from the end,
because the authentication data may hold it as well.
-/

namespace ConnectedDevice

inductive ExtraDataError where
  | missingDelimiter
  | invalidWordCount (words : Nat)
deriving DecidableEq, Repr

def ExtraDataError.message : ExtraDataError → String
  | .missingDelimiter => "extra data delimiter not found"
  | .invalidWordCount words => s!"extra data carries {words} words instead of 1 or 5"

structure StaticIp where
  localIp : String
  netmask : String
  gateway : String
  dnsServer : String
deriving DecidableEq, Repr

structure ExtraData where
  auth : Bytes
  identifier : UInt32
  /-- no static configuration stands for DHCP -/
  staticIp : Option StaticIp
deriving DecidableEq, Repr

namespace ExtraData

def delimiter : UInt8 := 0x23

/-- Four bytes in order. -/
structure Word where
  b0 : UInt8
  b1 : UInt8
  b2 : UInt8
  b3 : UInt8
deriving DecidableEq, Repr

def Word.number (w : Word) : UInt32 := Bytes.word32 w.b0 w.b1 w.b2 w.b3

def Word.dotted (w : Word) : String := s!"{w.b0}.{w.b1}.{w.b2}.{w.b3}"

def words : Bytes → List Word
  | a :: b :: c :: d :: rest => ⟨a, b, c, d⟩ :: words rest
  | _ => []

/-- The number of bytes after each delimiter, counted from `after`, for bytes in reverse order. -/
def tails (after : Nat) : Bytes → List Nat
  | [] => []
  | b :: rest => if b = delimiter then after :: tails (after + 1) rest else tails (after + 1) rest

def usesDhcp (x : ExtraData) : Bool := x.staticIp.isNone

/-- The words after the delimiter: an identifier, and four addresses in the long form. -/
def ofWords (auth : Bytes) : List Word → Except ExtraDataError ExtraData
  | [identifier] => .ok ⟨auth, identifier.number, none⟩
  | [identifier, localIp, netmask, gateway, dns] =>
    .ok ⟨auth, identifier.number,
      some ⟨localIp.dotted, netmask.dotted, gateway.dotted, dns.dotted⟩⟩
  | _ => .error .missingDelimiter

def parse (data : Bytes) : Except ExtraDataError ExtraData :=
  let tails := tails 0 data.reverse
  match tails.find? fun t => t == 4 || t == 20 with
  | none =>
    match tails.find? fun t => 0 < t && t % 4 == 0 with
    | some t => .error (.invalidWordCount (t / 4))
    | none => .error .missingDelimiter
  | some t => ofWords (data.take (data.length - t - 1)) (words (data.drop (data.length - t)))

end ExtraData
end ConnectedDevice
