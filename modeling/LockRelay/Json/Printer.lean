import LockRelay.Text.Utf8

/-! Compact JSON text: no white space, members in the order given. A string is written as it is,
except that quotes, backslashes and control characters are escaped. -/
namespace LockRelay.Json

/-- The bytes of a text. -/
def utf8 (text : String) : Bytes := Utf8.encode text.toList

def printNatural (n : Nat) : Bytes := utf8 (toString n)

/-- Four hexadecimal digits, for numbers below 256. -/
def smallUnit (n : Nat) : List Char :=
  ['0', '0', Nat.digitChar (n / 16), Nat.digitChar (n % 16)]

def escapeChar (c : Char) : List Char :=
  if c = '"' then ['\\', '"']
  else if c = '\\' then ['\\', '\\']
  else if c = '\x08' then ['\\', 'b']
  else if c = '\x0c' then ['\\', 'f']
  else if c = '\n' then ['\\', 'n']
  else if c = '\r' then ['\\', 'r']
  else if c = '\t' then ['\\', 't']
  else if c.toNat < 0x20 then ['\\', 'u'] ++ smallUnit c.toNat
  else [c]

def printString (text : String) : Bytes :=
  Utf8.encode ('"' :: (text.toList.flatMap escapeChar ++ ['"']))

/-- Puts a comma between texts. -/
def separate : List Bytes → Bytes
  | [] => []
  | [item] => item
  | item :: items => item ++ 0x2C :: separate items

def printArray (items : List Bytes) : Bytes := 0x5B :: (separate items ++ [0x5D])

def printObject (members : List (String × Bytes)) : Bytes :=
  0x7B :: (separate (members.map fun (key, value) => printString key ++ 0x3A :: value) ++ [0x7D])

end LockRelay.Json
