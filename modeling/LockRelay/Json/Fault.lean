import LockRelay.Decimal.Shortest
import LockRelay.Text.Basic

/-! Why a JSON text cannot be read. A text can end too early, break the grammar, or hold a value of
another shape than the reader wants. The first fault met from left to right is the one reported. -/
namespace LockRelay.Json

/-- What was being read when the text ended. -/
inductive Ending where
  | value
  | list
  | object
  | string
  deriving DecidableEq, Repr

/-- A violation of the grammar. -/
inductive Breach where
  | expectedValue
  | expectedWord
  | expectedColon
  | expectedCommaOrBracket
  | expectedCommaOrBrace
  | keyMustBeString
  | trailingComma
  | trailingCharacters
  | invalidNumber
  | numberOutOfRange
  | invalidEscape
  | invalidCodePoint
  | controlCharacter
  /-- One half of a surrogate pair without the other. -/
  | loneSurrogate
  /-- The first half of a surrogate pair with no escape after it. -/
  | brokenSurrogatePair
  | nestingTooDeep
  deriving DecidableEq, Repr

/-- A value as an error message names it. -/
inductive Found where
  | null
  | boolean (b : Bool)
  | integer (n : Int)
  | float (negative : Bool) (magnitude : Binary64)
  | string (text : String)
  | sequence
  | map
  deriving DecidableEq, Repr

/-- A value that is well formed and not the one wanted. -/
inductive Misfit where
  | missingField (name : String)
  | duplicateField (name : String)
  | unknownVariant (name : String) (known : List String)
  | invalidLength (length : Nat) (expected : String)
  | invalidType (found : Found) (expected : String)
  /-- An integer outside the range wanted. -/
  | invalidValue (n : Int) (expected : String)
  deriving DecidableEq, Repr

inductive Fault where
  | ended (during : Ending)
  | breach (breach : Breach)
  | misfit (misfit : Misfit)
  deriving DecidableEq, Repr

def Ending.message : Ending → String
  | .value => "EOF while parsing a value"
  | .list => "EOF while parsing a list"
  | .object => "EOF while parsing an object"
  | .string => "EOF while parsing a string"

/-- A name between the marks that messages put around names. -/
def marked (name : String) : String := "\x60" ++ name ++ "\x60"

def Breach.message : Breach → String
  | .expectedValue => "expected value"
  | .expectedWord => "expected ident"
  | .expectedColon => "expected " ++ marked ":"
  | .expectedCommaOrBracket => "expected " ++ marked "," ++ " or " ++ marked "]"
  | .expectedCommaOrBrace => "expected " ++ marked "," ++ " or " ++ marked "\x7d"
  | .keyMustBeString => "key must be a string"
  | .trailingComma => "trailing comma"
  | .trailingCharacters => "trailing characters"
  | .invalidNumber => "invalid number"
  | .numberOutOfRange => "number out of range"
  | .invalidEscape => "invalid escape"
  | .invalidCodePoint => "invalid unicode code point"
  | .controlCharacter => "control character (\\u0000-\\u001F) found while parsing a string"
  | .loneSurrogate => "lone leading surrogate in hex escape"
  | .brokenSurrogatePair => "unexpected end of hex escape"
  | .nestingTooDeep => "recursion limit exceeded"

def Found.describe : Found → String
  | .null => "null"
  | .boolean b => "boolean " ++ marked (toString b)
  | .integer n => "integer " ++ marked (toString n)
  | .float negative magnitude => "floating point " ++ marked (magnitude.text .standard negative)
  | .string text => "string " ++ Text.quote text
  | .sequence => "sequence"
  | .map => "map"

/-- The names that would have been taken, as a choice. -/
def oneOf : List String → String
  | [] => "there are no variants"
  | [name] => "expected " ++ marked name
  | [first, second] => "expected " ++ marked first ++ " or " ++ marked second
  | names => "expected one of " ++ ", ".intercalate (names.map marked)

def Misfit.message : Misfit → String
  | .missingField name => "missing field " ++ marked name
  | .duplicateField name => "duplicate field " ++ marked name
  | .unknownVariant name known => "unknown variant " ++ marked name ++ ", " ++ oneOf known
  | .invalidLength length expected => s!"invalid length {length}, expected {expected}"
  | .invalidType found expected => s!"invalid type: {found.describe}, expected {expected}"
  | .invalidValue n expected =>
      "invalid value: integer " ++ marked (toString n) ++ ", expected " ++ expected

def Fault.message : Fault → String
  | .ended e => e.message
  | .breach b => b.message
  | .misfit m => m.message

end LockRelay.Json
