import LedgerFlow.Schema.Integer

namespace LedgerFlow.Schema

def text : Decoder String
  | .string s => .valid s
  | _ => .issue .stringType

def nonEmptyText : Decoder String
  | .string s =>
    if Text.hasHalf s then .issue .stringUnicode
    else if s.isEmpty then .issue .stringTooShort
    else .valid s
  | _ => .issue .stringType

def lowerAscii (cs : List Char) : String :=
  String.ofList (cs.map Char.toLower)

def plainFloat? (cs : List Char) : Option Binary64 :=
  let (s, body) := Decimal.splitSign cs
  match lowerAscii body with
  | "inf" => some (.infinity s)
  | "infinity" => some (.infinity s)
  | "nan" => some .nan
  | _ => match Decimal.finite? s body with
    | some (.finite s c e) => some (Binary64.ofDecimal s c e)
    | _ => none

def floatOfText? (cs : List Char) : Option Binary64 :=
  match plainFloat? (Text.trimBy Text.isSpace cs) with
  | some x => some x
  | none => (withoutUnderscores? cs).bind plainFloat?

def floatOfInt (n : Int) : Checked Binary64 :=
  let x := Binary64.ofInt n
  if x.isFinite then .valid x else .issue .floatType

def float : Decoder Binary64
  | .float x => .valid x
  | .int n => floatOfInt n
  | .bool b => .valid (if b then 1 else 0)
  | .string s =>
    if Text.hasHalf s then .issue .stringUnicode
    else match floatOfText? s.toList with
      | some x => .valid x
      | none => .issue .floatParsing
  | _ => .issue .floatType

/-- A whole number as an integer; one of 2 ^ 63 or more counts as too large. -/
def wholeOfFloat (x : Binary64) : Checked Int :=
  match x.toInt? with
  | none => .issue .finiteNumber
  | some n =>
    if !x.isWhole then .issue .intFromFloat
    else if n.natAbs < pow2 63 then .valid n
    else .issue .intParsingSize

def int : Decoder Int
  | .int n => .valid n
  | .bool b => .valid (if b then 1 else 0)
  | .float x => wholeOfFloat x
  | .string s => intOfText s
  | _ => .issue .intType

def unknownWord {α : Type} (s : String) : Checked α :=
  if Text.hasHalf s then .issue .stringUnicode else .issue .enumValue

def boolOfText (s : String) : Checked Bool :=
  match lowerAscii s.toList with
  | "1" | "t" | "y" | "on" | "yes" | "true" => .valid true
  | "0" | "f" | "n" | "no" | "off" | "false" => .valid false
  | _ => .issue .boolParsing

def oneOf {α : Type} (ofWord? : String → Option α) : Decoder α
  | .string s => match ofWord? s with
    | some a => .valid a
    | none => unknownWord s
  | _ => .issue .enumValue

def optionalText : Decoder (Option String)
  | .null => .valid none
  | .string s => .valid (if Text.isBlankText s then none else some s)
  | _ => .issue .stringType

def mapping : Decoder Members
  | .object ms => .valid ms
  | _ => .issue .dictType

end LedgerFlow.Schema
