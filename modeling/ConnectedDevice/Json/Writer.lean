import ConnectedDevice.Text.Hex

/-!
Values that are written as JSON texts without blanks. In strings, quotes, backslashes and controls
are escaped, the usual controls by a letter; every other character stands for itself.
-/

namespace ConnectedDevice.Json

inductive Value where
  | flag (b : Bool)
  | text (s : String)
  | object (members : List (String × Value))

def escapeChar (c : Char) : List Char :=
  if c = '"' then ['\\', '"']
  else if c = '\\' then ['\\', '\\']
  else if c = '\x08' then ['\\', 'b']
  else if c = '\x0c' then ['\\', 'f']
  else if c = '\n' then ['\\', 'n']
  else if c = '\r' then ['\\', 'r']
  else if c = '\t' then ['\\', 't']
  else if c.toNat < 0x20 then '\\' :: 'u' :: '0' :: '0' :: Hex.lower c.toNat.toUInt8
  else [c]

def quote (s : String) : List Char := '"' :: s.toList.flatMap escapeChar ++ ['"']

mutual

def Value.write : Value → List Char
  | .flag b => (if b then "true" else "false").toList
  | .text s => quote s
  | .object members => '\x7b' :: writeMembers members ++ ['\x7d']

def writeMembers : List (String × Value) → List Char
  | [] => []
  | [(key, value)] => quote key ++ ':' :: value.write
  | (key, value) :: rest => quote key ++ ':' :: value.write ++ ',' :: writeMembers rest

end

def Value.render (v : Value) : String := String.ofList v.write

end ConnectedDevice.Json
