import LedgerFlow.Decimal.Basic
import LedgerFlow.Text.Blank
import LedgerFlow.Text.DecimalDigit

namespace LedgerFlow.Decimal

/-- The characters of a numeral: underscores dropped, digits of every script as ASCII ones. -/
def numeralChars (cs : List Char) : Option (List Char) :=
  (cs.filter (· ≠ '_')).mapM fun c =>
    if 0 < c.toNat && c.toNat < 128 then some c
    else if Text.isBlank c then some ' '
    else (Text.digitValue? c).map fun d => Char.ofNat (48 + d)

def natOfDigits (cs : List Char) : Nat :=
  cs.foldl (fun n c => 10 * n + (c.toNat - 48)) 0

def splitSign : List Char → Bool × List Char
  | '-' :: rest => (true, rest)
  | '+' :: rest => (false, rest)
  | cs => (false, cs)

def exponent? : List Char → Option Int
  | [] => some 0
  | c :: rest =>
    if c.toLower = 'e' then
      let (s, ds) := splitSign rest
      if !ds.isEmpty && ds.all Char.isDigit then
        some (if s then -(natOfDigits ds : Int) else natOfDigits ds)
      else none
    else none

def finite? (s : Bool) (cs : List Char) : Option Decimal :=
  let whole := cs.takeWhile Char.isDigit
  let rest := cs.dropWhile Char.isDigit
  let (fraction, rest) := match rest with
    | '.' :: rest => (rest.takeWhile Char.isDigit, rest.dropWhile Char.isDigit)
    | _ => ([], rest)
  if whole.isEmpty && fraction.isEmpty then none
  else do
    let e ← exponent? rest
    return .finite s (natOfDigits (whole ++ fraction)) (e - fraction.length)

def nan? (s signalling : Bool) (payload : List Char) : Option Decimal :=
  if payload.all Char.isDigit then some (.nan s signalling (natOfDigits payload)) else none

def numeral? (cs : List Char) : Option Decimal :=
  let (s, cs) := splitSign cs
  match cs.map Char.toLower with
  | ['i', 'n', 'f'] => some (.infinity s)
  | ['i', 'n', 'f', 'i', 'n', 'i', 't', 'y'] => some (.infinity s)
  | 'n' :: 'a' :: 'n' :: payload => nan? s false payload
  | 's' :: 'n' :: 'a' :: 'n' :: payload => nan? s true payload
  | _ => finite? s cs

def constructedLimit : Int := 999999999999999999

/-- A constructed number is exact or it is refused. -/
def isConstructible : Decimal → Bool
  | .finite _ c e =>
    (if c = 0 then e else adjusted c e) ≤ constructedLimit &&
      -(2 * constructedLimit - 1) ≤ e
  | _ => true

def ofText (s : String) : Except Signal Decimal :=
  match (numeralChars (Text.trimBy Text.isBlank s.toList)).bind numeral? with
  | none => .error .conversionSyntax
  | some d => if d.isConstructible then .ok d else .error .invalidOperation

def signText (s : Bool) : String := if s then "-" else ""

def scientific (c : Nat) (e : Int) : String :=
  let digits := Nat.toDigits 10 c
  let lead : Int := digits.length + e
  let point : Int := if e ≤ 0 && -6 < lead then lead else 1
  let mantissa :=
    if point ≤ 0 then '0' :: '.' :: List.replicate (-point).toNat '0' ++ digits
    else if digits.length ≤ point.toNat then digits ++ List.replicate (point.toNat - digits.length) '0'
    else digits.take point.toNat ++ '.' :: digits.drop point.toNat
  let power := lead - point
  let exponent := if power = 0 then "" else "E" ++ (if 0 < power then "+" else "") ++ toString power
  String.ofList mantissa ++ exponent

def text : Decimal → String
  | .finite s c e => signText s ++ scientific c e
  | .infinity s => signText s ++ "Infinity"
  | .nan s signalling payload =>
    signText s ++ (if signalling then "sNaN" else "NaN") ++ (if payload = 0 then "" else toString payload)

def fixed (places : Nat) : Decimal → String
  | .finite s c e =>
    let shift : Int := e + places
    let n := if 0 ≤ shift then c * pow10 shift.toNat
      else if digitCount c < (-shift).toNat then 0
      else divHalfEven c (pow10 (-shift).toNat)
    let digits := Nat.toDigits 10 n
    let digits := List.replicate (places + 1 - digits.length) '0' ++ digits
    let whole := digits.take (digits.length - places)
    let fraction := digits.drop (digits.length - places)
    signText s ++ String.ofList (if fraction.isEmpty then whole else whole ++ '.' :: fraction)
  | d => d.text

example : (ofText " 1_0.50 ").toOption.map text = some "10.50" := by decide +kernel
example : (ofText "1E3").toOption.map text = some "1E+3" := by decide +kernel
example : (ofText "0.0000001").toOption.map text = some "1E-7" := by decide +kernel
example : (ofText "-0").toOption.map text = some "-0" := by decide +kernel
example : (ofText "1.00005").toOption.map (fixed 4) = some "1.0000" := by decide +kernel

end LedgerFlow.Decimal
