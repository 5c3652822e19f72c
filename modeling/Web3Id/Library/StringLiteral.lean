import Mathlib.Tactic.Common

namespace Web3Id.Library.StringLiteral

/-- A code point has one UTF-16 code unit, or a pair of surrogates. -/
def unitsOf (code : Nat) : List Nat :=
  if code < 0x10000 then [code]
  else [0xD800 + (code - 0x10000) / 0x400, 0xDC00 + (code - 0x10000) % 0x400]

/-- A string of JavaScript is a list of UTF-16 code units. -/
def encode (text : List Char) : List Nat := text.flatMap fun c => unitsOf c.toNat

/-- A digit of a hexadecimal number has either letter case. -/
def hexValue (c : Char) : Option Nat :=
  if '0' ≤ c ∧ c ≤ '9' then some (c.toNat - '0'.toNat)
  else if 'a' ≤ c ∧ c ≤ 'f' then some (c.toNat - 'a'.toNat + 10)
  else if 'A' ≤ c ∧ c ≤ 'F' then some (c.toNat - 'A'.toNat + 10)
  else none

/-- What the reader of a literal has just seen. -/
inductive Mode where
  | plain
  | backslash
  /-- Some digits of the number are still missing. -/
  | hex (missing value : Nat)
  | unicode
  | braces (started : Bool) (value : Nat)
  /-- Some further digits may follow. -/
  | octal (further value : Nat)
  | carriage
  deriving DecidableEq, Repr

/-- The reader goes on in a mode, or has seen the closing quote. -/
inductive Next where
  | mode (mode : Mode)
  | closed
  deriving DecidableEq, Repr

/-- A line break ends the script in the middle of its literal. -/
def plainStep (c : Char) : Option (List Nat × Next) :=
  if c = '\'' then some ([], .closed)
  else if c = '\\' then some ([], .mode .backslash)
  else if c = '\n' ∨ c = '\r' then none
  else some (unitsOf c.toNat, .mode .plain)

/-- The character that a single escape stands for. -/
def escaped (c : Char) : List Nat :=
  match c with
  | 'b' => [8]
  | 't' => [9]
  | 'n' => [10]
  | 'v' => [11]
  | 'f' => [12]
  | 'r' => [13]
  | _ => unitsOf c.toNat

def isOctal (c : Char) : Bool := '0' ≤ c ∧ c ≤ '7'

/-- An escaped line break continues the literal on the next line. -/
def backslashStep (c : Char) : List Nat × Next :=
  if c = 'x' then ([], .mode (.hex 2 0))
  else if c = 'u' then ([], .mode .unicode)
  else if isOctal c then
    ([], .mode (.octal (if c ≤ '3' then 2 else 1) (c.toNat - '0'.toNat)))
  else if c = '\n' ∨ c = '\u2028' ∨ c = '\u2029' then ([], .mode .plain)
  else if c = '\r' then ([], .mode .carriage)
  else (escaped c, .mode .plain)

/-- One character of a literal in single quotes, outside of strict mode. -/
def step : Mode → Char → Option (List Nat × Next)
  | .plain, c => plainStep c
  | .backslash, c => some (backslashStep c)
  | .hex missing value, c => do
      let digit ← hexValue c
      let value := value * 16 + digit
      return if missing ≤ 1 then ([value], .mode .plain) else ([], .mode (.hex (missing - 1) value))
  | .unicode, c =>
      if c = '{' then some ([], .mode (.braces false 0))
      else (hexValue c).map fun digit => ([], .mode (.hex 3 digit))
  | .braces started value, c =>
      if c = '}' then if started then some (unitsOf value, .mode .plain) else none
      else do
        let digit ← hexValue c
        let value := value * 16 + digit
        if value ≤ 0x10FFFF then return ([], .mode (.braces true value)) else none
  | .octal further value, c =>
      if 0 < further ∧ isOctal c then
        some ([], .mode (.octal (further - 1) (value * 8 + (c.toNat - '0'.toNat))))
      else (plainStep c).map fun next => (value :: next.1, next.2)
  | .carriage, c => if c = '\n' then some ([], .mode .plain) else plainStep c

/-- The reader returns the value of the literal and the text after its closing quote. -/
def read : Mode → List Char → Option (List Nat × List Char)
  | _, [] => none
  | mode, c :: rest =>
      match step mode c with
      | none => none
      | some (units, .closed) => some (units, rest)
      | some (units, .mode next) =>
          (read next rest).map fun result => (units ++ result.1, result.2)

example : read .plain "a\\x41\\u{1F600}\\101' + b".toList =
    some ([97, 65, 0xD83D, 0xDE00, 65], " + b".toList) := by decide

end Web3Id.Library.StringLiteral
