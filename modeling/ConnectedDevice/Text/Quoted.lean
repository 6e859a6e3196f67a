import ConnectedDevice.Text.Hex
import ConnectedDevice.Text.Shown

/-!
Texts in double quotes, as they stand in messages: quotes, backslashes and the usual controls are
escaped by a letter, characters that are not shown by their number.
-/

namespace ConnectedDevice.Text

/-- Hexadecimal digits of `n` without leading zeros. -/
def hexNumber (n : Nat) : List Char := Nat.toDigits 16 n

def quotedChar (c : Char) : List Char :=
  if c = '"' then ['\\', '"']
  else if c = '\\' then ['\\', '\\']
  else if c = '\n' then ['\\', 'n']
  else if c = '\r' then ['\\', 'r']
  else if c = '\t' then ['\\', 't']
  else if c = '\x00' then ['\\', '0']
  else if isShown c then [c]
  else ['\\', 'u', '\x7b'] ++ hexNumber c.toNat ++ ['\x7d']

def quoted (s : String) : String :=
  String.ofList ('"' :: s.toList.flatMap quotedChar ++ ['"'])

end ConnectedDevice.Text
