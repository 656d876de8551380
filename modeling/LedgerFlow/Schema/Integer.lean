import LedgerFlow.Decimal.Text
import LedgerFlow.Schema.Checked

namespace LedgerFlow.Schema

def withoutUnderscores? (cs : List Char) : Option (List Char) :=
  if cs.head? = some '_' || cs.getLast? = some '_' || Text.contains cs ['_', '_'] || !cs.contains '_' then
    none
  else some (cs.filter (· ≠ '_'))

namespace IntegerText

def limit : Nat := 4300

inductive Reading
  | value (n : Int)
  | tooLong
  | malformed
deriving DecidableEq, Repr

def isPlain : List Char → Bool
  | ['0'] => true
  | '0' :: _ => false
  | cs => !cs.isEmpty && cs.all Char.isDigit

/-- The plain form. How long the digits are matters before what follows them. -/
def readPlain (cs : List Char) : Reading :=
  let negative := cs.head? = some '-'
  let body := if negative then cs.drop 1 else cs
  let signLength := if negative then 1 else 0
  if body.head? ≠ some '0' && limit < signLength + (body.takeWhile Char.isDigit).length then .tooLong
  else if isPlain body then
    let n : Int := Decimal.natOfDigits body
    .value (if negative then -n else n)
  else .malformed

/-- What follows the zeros in front; `last` is the character before. Underscores may stand among the zeros,
and one of them is kept before a point or at the end. -/
def afterZeros? (last : Char) : List Char → Option (List Char)
  | [] => some [last]
  | c :: rest =>
    if c = '0' || c = '_' then afterZeros? c rest
    else if c.isDigit || c = '-' then some (c :: rest)
    else if c = '.' then some (last :: c :: rest)
    else none

def withoutZeros? : List Char → Option (List Char)
  | [] => none
  | c :: rest =>
    if c = '0' then afterZeros? c rest
    else if c.isDigit || c = '-' then some (c :: rest)
    else none

def withoutFraction? (cs : List Char) : Option (List Char) :=
  match cs.dropWhile (· ≠ '.') with
  | [] => some cs
  | _ :: fraction =>
    if !fraction.isEmpty && fraction.all (· = '0') then some (cs.takeWhile (· ≠ '.')) else none

def unsigned? (cs : List Char) : Option (List Char) := do
  let whole ← withoutFraction? (← withoutZeros? cs)
  return (withoutUnderscores? whole).getD whole

def clean? (cs : List Char) : Option (List Char) :=
  let cs := Text.trimBy Text.isSpace cs
  let cs := if cs.head? = some '+' then cs.drop 1 else cs
  match cs with
  | '-' :: rest => (unsigned? rest).map ('-' :: ·)
  | cs => unsigned? cs

def readCleaned (cs : List Char) : Reading :=
  match (clean? cs).map readPlain with
  | some (.value n) => .value n
  | _ => .malformed

def read (cs : List Char) : Reading :=
  match readPlain cs with
  | .malformed => readCleaned cs
  | r => r

example : read "0__7.00".toList = .value 7 := by decide +kernel
example : read "-0_5".toList = .value (-5) := by decide +kernel
example : read "1.".toList = .malformed := by decide +kernel

end IntegerText

def intOfText (s : String) : Checked Int :=
  if Text.hasHalf s then .issue .stringUnicode
  else match IntegerText.read s.toList with
    | .value n => .valid n
    | .tooLong => .issue .intParsingSize
    | .malformed => .issue .intParsing

end LedgerFlow.Schema
