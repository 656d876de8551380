import LedgerFlow.Error

namespace LedgerFlow.Log

inductive Arguments
  | list (vs : List Json)
  | mapping (ms : List (String × Json))

structure Flags where
  left : Bool
  plus : Bool
  blank : Bool
  alternate : Bool
  zero : Bool

structure Placeholder where
  flags : Flags
  width : Option Nat
  precision : Option Nat
  letter : Char
  code : Nat
  index : Nat

namespace Template

def badType {α : Type} (message : String) : Except Fault α := .error (.badType message)

/-- The values still to be used; with a mapping, it stands once for a whole value itself. -/
structure Supply where
  values : List Json
  mapping : Option (List (String × Json))

def Supply.of : Arguments → Supply
  | .list vs => ⟨vs, none⟩
  | .mapping ms => ⟨[.object ms], some ms⟩

def Supply.next (s : Supply) : Except Fault (Json × Supply) :=
  match s.values with
  | v :: rest => .ok (v, { s with values := rest })
  | [] => badType "not enough arguments for format string"

def signOf (f : Flags) (negative : Bool) : String :=
  if negative then "-" else if f.plus then "+" else if f.blank then " " else ""

def fill (p : Placeholder) (zeros : Bool) (sign body : String) : String :=
  let missing := (p.width.getD 0) - (sign.length + Text.size body)
  if p.flags.left then sign ++ body ++ String.ofList (List.replicate missing ' ')
  else if zeros && p.flags.zero then sign ++ String.ofList (List.replicate missing '0') ++ body
  else String.ofList (List.replicate missing ' ') ++ sign ++ body

def atLeastDigits (n : Nat) (digits : List Char) : List Char :=
  List.replicate (n - digits.length) '0' ++ digits

def baseOf : Char → Nat
  | 'o' => 8
  | 'x' => 16
  | 'X' => 16
  | _ => 10

def baseMark (p : Placeholder) : String :=
  if !p.flags.alternate then ""
  else match p.letter with
    | 'o' => "0o"
    | 'x' => "0x"
    | 'X' => "0X"
    | _ => ""

def digitRoom : Nat := pow2 31 - 4

def precisionTooLarge : Fault := .raised .overflow "precision too large" none

def formatInt (p : Placeholder) (n : Int) : String :=
  let digits := atLeastDigits (p.precision.getD 1) (Nat.toDigits (baseOf p.letter) n.natAbs)
  let digits := if p.letter = 'X' then digits.map Char.toUpper else digits
  fill p true (signOf p.flags (n < 0) ++ baseMark p) (String.ofList digits)

def intOf (letter : Char) : Json → Except Fault Int
  | .int n => .ok n
  | .bool b => .ok (if b then 1 else 0)
  | .float x =>
    if baseOf letter ≠ 10 then badType s!"%{letter} format: an integer is required, not float"
    else match x.toInt? with
      | some n => .ok n
      | none =>
        if x.isNaN then .error (.badValue "cannot convert float NaN to integer")
        else .error (.raised .overflow "cannot convert float infinity to integer" none)
  | v =>
    if baseOf letter ≠ 10 then badType s!"%{letter} format: an integer is required, not {v.kindName}"
    else badType s!"%{letter} format: a real number is required, not {v.kindName}"

def floatOf : Json → Except Fault Binary64
  | .float x => .ok x
  | .bool b => .ok (if b then 1 else 0)
  | .int n =>
    let x := Binary64.ofInt n
    if x.isFinite then .ok x else .error (.raised .overflow "int too large to convert to float" none)
  | v => badType s!"must be real number, not {v.kindName}"

def ratioFixed (places n d : Nat) : List Char × List Char :=
  let digits := atLeastDigits (places + 1) (Nat.toDigits 10 (divHalfEven (n * pow10 places) d))
  (digits.take (digits.length - places), digits.drop (digits.length - places))

def ratioExponent (n d : Nat) : Int :=
  let k : Int := (digitCount n : Int) - digitCount d
  if d * pow10 k.toNat ≤ n * pow10 (-k).toNat then k else k - 1

def ratioDigits (count n d : Nat) : List Char × Int :=
  if n = 0 then (List.replicate count '0', 0)
  else
    let k := ratioExponent n d
    let shift : Int := (count : Int) - 1 - k
    let q := divHalfEven (n * pow10 shift.toNat) (d * pow10 (-shift).toNat)
    if q = pow10 count then (Nat.toDigits 10 (pow10 (count - 1)), k + 1) else (Nat.toDigits 10 q, k)

def withPoint (f : Flags) (whole fraction : List Char) : List Char :=
  if fraction.isEmpty && !f.alternate then whole else whole ++ '.' :: fraction

def exponentText (upper : Bool) (e : Int) : List Char :=
  (if upper then 'E' else 'e') :: (if e < 0 then '-' else '+') :: atLeastDigits 2 (Nat.toDigits 10 e.natAbs)

def scientificBody (f : Flags) (upper : Bool) (digits : List Char) (e : Int) : List Char :=
  withPoint f (digits.take 1) (digits.drop 1) ++ exponentText upper e

def dropZeros (f : Flags) (fraction : List Char) : List Char :=
  if f.alternate then fraction else (fraction.reverse.dropWhile (· = '0')).reverse

def mostDigits : Nat := 1100

def generalBody (f : Flags) (upper : Bool) (precision n d : Nat) : List Char :=
  let count := max 1 (if f.alternate then precision else min precision mostDigits)
  let (digits, e) := ratioDigits count n d
  if e < -4 || (count : Int) ≤ e then
    scientificBody f upper (digits.take 1 ++ dropZeros f (digits.drop 1)) e
  else
    let (whole, fraction) := ratioFixed ((count : Int) - 1 - e).toNat n d
    withPoint f whole (dropZeros f fraction)

def finiteBody (p : Placeholder) (n d : Nat) : List Char :=
  let precision := p.precision.getD 6
  match p.letter with
  | 'e' => let (digits, e) := ratioDigits (precision + 1) n d; scientificBody p.flags false digits e
  | 'E' => let (digits, e) := ratioDigits (precision + 1) n d; scientificBody p.flags true digits e
  | 'g' => generalBody p.flags false precision n d
  | 'G' => generalBody p.flags true precision n d
  | _ => let (whole, fraction) := ratioFixed precision n d; withPoint p.flags whole fraction

def namedBody (p : Placeholder) (name : List Char) : List Char :=
  if p.letter.isUpper then name.map Char.toUpper else name

def formatFloat (p : Placeholder) : Binary64 → String
  | .nan => fill p true (signOf p.flags false) (String.ofList (namedBody p ['n', 'a', 'n']))
  | .infinity s => fill p true (signOf p.flags s) (String.ofList (namedBody p ['i', 'n', 'f']))
  | .finite s m e =>
    fill p true (signOf p.flags s) (String.ofList (finiteBody p (m * pow2 e.toNat) (pow2 (-e).toNat)))

def formatText (p : Placeholder) (s : String) : String :=
  fill p false "" <| match p.precision with
    | some n => Text.first n s
    | none => s

def asciiChar (c : Char) : List Char :=
  if c.toNat < 0x80 then [c]
  else if c.toNat < 0x100 then '\\' :: 'x' :: Text.hexDigits 2 c.toNat
  else if c.toNat < 0x10000 then '\\' :: 'u' :: Text.hexDigits 4 c.toNat
  else '\\' :: 'U' :: Text.hexDigits 8 c.toNat

def asciiText (s : String) : String := String.ofList (s.toList.flatMap asciiChar)

def charOf : Json → Except Fault String
  | .int n =>
    if 0 ≤ n && n < 0x110000 then .ok (Text.ofPoints [.ofCode n.toNat])
    else .error (.raised .overflow "%c arg not in range(0x110000)" none)
  | .bool b => .ok (String.singleton (Char.ofNat (if b then 1 else 0)))
  | .string s => if Text.size s = 1 then .ok s else badType "%c requires int or char"
  | _ => badType "%c requires int or char"

def hexText (n : Nat) : String := String.ofList (Nat.toDigits 16 n)

def shownLetter (p : Placeholder) : Char :=
  if 31 ≤ p.code && p.code < 127 then p.letter else '?'

def unsupported (p : Placeholder) : Fault :=
  .badValue <| "unsupported format character '" ++ String.singleton (shownLetter p) ++ "' (0x" ++
    hexText p.code ++ ") at index " ++ toString p.index

def formatValue (p : Placeholder) (v : Json) : Except Fault String :=
  match p.letter with
  | 's' => .ok (formatText p v.display)
  | 'r' => .ok (formatText p v.shown)
  | 'a' => .ok (formatText p (asciiText v.shown))
  | 'd' | 'i' | 'u' | 'o' | 'x' | 'X' => do
    let n ← intOf p.letter v
    if digitRoom < p.precision.getD 0 then throw precisionTooLarge
    return formatInt p n
  | 'e' | 'E' | 'f' | 'F' | 'g' | 'G' => formatFloat p <$> floatOf v
  | 'c' => formatText { p with precision := none } <$> charOf v
  | _ => .error (unsupported p)

def room : Nat := pow2 36

def outOfMemory : Fault := .raised .memory "" none

def placeValue (p : Placeholder) (v : Json) : Except Fault String :=
  if p.width.getD 0 < room then formatValue p v
  else formatValue { p with width := none } v >>= fun _ => .error outOfMemory

def flagsOf (cs : List Char) : Flags :=
  ⟨cs.contains '-', cs.contains '+', cs.contains ' ', cs.contains '#', cs.contains '0'⟩

def isFlag (c : Char) : Bool := ['-', '+', ' ', '#', '0'].contains c

def keyTail (depth : Nat) (acc : List Char) : List Char → Option (String × List Char)
  | [] => none
  | ')' :: rest =>
    match depth with
    | 0 => some (String.ofList acc.reverse, rest)
    | depth + 1 => keyTail depth (')' :: acc) rest
  | '(' :: rest => keyTail (depth + 1) ('(' :: acc) rest
  | c :: rest => keyTail depth (c :: acc) rest

def takeKey (s : Supply) (cs : List Char) : Except Fault (Supply × List Char) :=
  match cs with
  | '(' :: rest =>
    match s.mapping with
    | none => badType "format requires a mapping"
    | some ms => match keyTail 0 [] rest with
      | none => .error (.badValue "incomplete format key")
      | some (key, rest) => match ms.lookup key with
        | some v => .ok ({ s with values := [v] }, rest)
        | none => .error (.missingKey key)
  | cs => .ok (s, cs)

structure Bound where
  highest : Nat
  tooBig : String
  unit : String

def widthBound : Bound := ⟨pow2 63 - 1, "width too big", "ssize_t"⟩

def precisionBound : Bound := ⟨pow2 31 - 1, "precision too big", "int"⟩

def Bound.overflow (b : Bound) : Fault :=
  .raised .overflow ("Python int too large to convert to C " ++ b.unit) none

def Bound.ofValue (b : Bound) : Json → Except Fault Int
  | .int n => if -(b.highest : Int) - 1 ≤ n && n ≤ b.highest then .ok n else .error b.overflow
  | .bool v => .ok (if v then 1 else 0)
  | _ => badType "* wants int"

def takeNumber (b : Bound) (s : Supply) (cs : List Char) : Except Fault (Option Int × Supply × List Char) :=
  match cs with
  | '*' :: rest => do
    let (v, s) ← s.next
    return (some (← b.ofValue v), s, rest)
  | cs =>
    let digits := cs.takeWhile Char.isDigit
    let n := Decimal.natOfDigits digits
    if digits.isEmpty then .ok (none, s, cs)
    else if b.highest < n then .error (.badValue b.tooBig)
    else .ok (some n, s, cs.dropWhile Char.isDigit)

def takePrecision (s : Supply) (cs : List Char) : Except Fault (Option Nat × Supply × List Char) :=
  match cs with
  | '.' :: rest => do
    let (n, s, rest) ← takeNumber precisionBound s rest
    return (some (n.getD 0).toNat, s, rest)
  | cs => .ok (none, s, cs)

def incomplete : Fault := .badValue "incomplete format"

/-- A width, whose sign does not count; the lowest one has no counterpart and is no width. -/
def widthOf (n : Int) : Nat :=
  if widthBound.highest < n.natAbs then 0 else n.natAbs

def takePlaceholder (template : List Char) (s : Supply) (cs : List Char) :
    Except Fault (Placeholder × Supply × List Char) := do
  let (s, cs) ← takeKey s cs
  let flags := flagsOf (cs.takeWhile isFlag)
  let (width, s, cs) ← takeNumber widthBound s (cs.dropWhile isFlag)
  let flags := { flags with left := flags.left || width.any (· < 0) }
  let (precision, s, cs) ← takePrecision s cs
  let cs := match cs with
    | 'h' :: rest => rest
    | 'l' :: rest => rest
    | 'L' :: rest => rest
    | cs => cs
  match Text.next? cs with
  | none => throw incomplete
  | some (p, rest) =>
    let letter := match p with
      | .char c => c
      | .half _ => Text.mark
    let index := (Text.points (template.take (template.length - cs.length))).length
    return (⟨flags, width.map widthOf, precision, letter, p.code, index⟩, s, rest)

def fillFrom (template : List Char) : Nat → Supply → List Char → Except Fault (String × Supply)
  | 0, s, cs => .ok (String.ofList cs, s)
  | fuel + 1, s, cs =>
    let plain := String.ofList (cs.takeWhile (· ≠ '%'))
    match cs.dropWhile (· ≠ '%') with
    | [] => .ok (plain, s)
    | _ :: '%' :: rest => do
      let (tail, s) ← fillFrom template fuel s rest
      return (plain ++ "%" ++ tail, s)
    | _ :: rest => do
      let (p, s, rest) ← takePlaceholder template s rest
      let (v, s) ← s.next
      let piece ← placeValue p v
      let (tail, s) ← fillFrom template fuel s rest
      return (plain ++ piece ++ tail, s)

def apply (template : String) (a : Arguments) : Except Fault String := do
  let cs := template.toList
  let (text, left) ← fillFrom cs cs.length (.of a) cs
  if left.mapping.isNone && !left.values.isEmpty then
    badType "not all arguments converted during string formatting"
  return text

end Template

end LedgerFlow.Log
