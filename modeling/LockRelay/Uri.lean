import LockRelay.Text.Basic

/-! Addresses of requests. A text is taken as a path, when it starts with a slash, or as a scheme,
an authority and a path, where path and query may be missing. A fragment is cut off. -/
namespace LockRelay

inductive Uri where
  /-- A path and perhaps a query, with no word on where they are to be found. -/
  | path (target : String)
  | absolute (scheme authority target : String)
  deriving DecidableEq, Repr

namespace Uri

open Text (isDigit)

def isLetter (c : Char) : Bool := ('a' ≤ c && c ≤ 'z') || ('A' ≤ c && c ≤ 'Z')

def isSchemeChar (c : Char) : Bool := isLetter c || isDigit c || c ∈ ['+', '-', '.', '~']

/-- Characters of an authority without a part of their own in it. -/
def isPlainChar (c : Char) : Bool :=
  isLetter c || isDigit c ||
    c ∈ ['!', '$', '&', '\'', '(', ')', '*', '+', ',', '-', '.', ';', '=', '_', '~']

/-- Characters of a path. Quotes and braces should be escaped there, but are taken as they are. -/
def isPathChar (c : Char) : Bool :=
  c = '!' || c = '"' || ('$' ≤ c && c ≤ ';') || c = '=' || ('@' ≤ c && c ≤ '_') ||
    ('a' ≤ c && c ≤ '~') || 0x80 ≤ c.toNat

def isQueryChar (c : Char) : Bool :=
  c = '!' || ('$' ≤ c && c ≤ ';') || c = '=' || ('?' ≤ c && c ≤ '~') || 0x80 ≤ c.toNat

/-- What has been seen of an authority. -/
structure Scan where
  /-- Colons since the last `@` or `]`. -/
  colons : Nat := 0
  opened : Bool := false
  closed : Bool := false
  /-- Whether there was a percent sign since the last `@` or `]`. -/
  percent : Bool := false
  /-- Whether the last character was an `@`. -/
  afterUser : Bool := false

/-- Colons that may follow each other before it is known that they separate no port. -/
def maxColons : Nat := 8

namespace Scan

/-- Takes one more character. Percent signs are good in user information and between brackets, and
a bracket cannot follow one directly in a host name. -/
def take (s : Scan) (c : Char) : Option Scan :=
  let s := { s with afterUser := false }
  if c = ':' then
    if s.colons < maxColons then some { s with colons := s.colons + 1 } else none
  else if c = '[' then
    if s.percent || s.opened then none else some { s with opened := true }
  else if c = ']' then
    if s.opened && !s.closed then some { s with closed := true, colons := 0, percent := false }
    else none
  else if c = '@' then some { s with colons := 0, percent := false, afterUser := true }
  else if c = '%' then some { s with percent := true }
  else if isPlainChar c then some s
  else none

/-- Whether the authority can end here. -/
def complete (s : Scan) : Bool :=
  s.opened == s.closed && s.colons ≤ 1 && !s.afterUser && !s.percent

end Scan

def isAuthority (text : List Char) : Bool :=
  !text.isEmpty && (text.foldlM Scan.take {}).any Scan.complete

/-- Path and query as they are requested. An empty path is written as a slash. -/
def readTarget (text : List Char) : Option String :=
  let path := text.takeWhile fun c => c != '?' && c != '#'
  let query := (text.dropWhile fun c => c != '?' && c != '#').takeWhile (· != '#')
  if path.all isPathChar && query.all isQueryChar then
    let target := path ++ query
    some (String.ofList (if target.head? = some '/' then target else '/' :: target))
  else none

def maxSchemeLength : Nat := 64

/-- The part of an absolute address after the scheme and its colon. -/
def readAuthority (scheme : String) : List Char → Option Uri
  | '/' :: '/' :: rest =>
      let authority := rest.takeWhile fun c => c != '/' && c != '?' && c != '#'
      if isAuthority authority then
        (readTarget (rest.drop authority.length)).map (absolute scheme (String.ofList authority))
      else none
  | _ => none

def maxLength : Nat := 65534

def parse? (text : String) : Option Uri :=
  if text.utf8ByteSize > maxLength then none
  else
    match text.toList with
    | '/' :: rest => (readTarget ('/' :: rest)).map path
    | chars =>
        let scheme := chars.takeWhile isSchemeChar
        match chars.drop scheme.length with
        | ':' :: rest =>
            if scheme.length ≤ maxSchemeLength then readAuthority (String.ofList scheme) rest
            else none
        | _ => none

/-! What an authority says -/

/-- The part of a text after the last `mark`, or all of it. -/
def afterLast (mark : Char) (text : List Char) : List Char :=
  (text.reverse.takeWhile (· != mark)).reverse

/-- The host that an authority names, with the brackets if it has some. -/
def host (authority : String) : String :=
  match afterLast '@' authority.toList with
  | '[' :: rest => String.ofList ('[' :: (rest.takeWhile (· != ']') ++ [']']))
  | text => String.ofList (text.takeWhile (· != ':'))

/-- The port that an authority names. What does not read as one is no port. -/
def port? (authority : String) : Option Nat :=
  if ':' ∈ authority.toList then
    (Text.readNatural UInt16.size (afterLast ':' authority.toList)).toOption
  else none

end Uri

end LockRelay
