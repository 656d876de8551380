import LedgerFlow.Binary64.Basic

namespace LedgerFlow.Binary64

/-- The numbers that round to a positive value, as fractions over one denominator. -/
structure Neighbourhood where
  low : Nat
  value : Nat
  high : Nat
  unit : Nat
  closed : Bool

def neighbourhood (m : Nat) (e : Int) : Neighbourhood :=
  let quarter : Int := e - 2
  let scale := pow2 quarter.toNat
  let below := if m = pow2 52 && lowestExponent < e then 1 else 2
  { low := (4 * m - below) * scale
    value := 4 * m * scale
    high := (4 * m + 2) * scale
    unit := pow2 (-quarter).toNat
    closed := m % 2 == 0 }

/-- The exponent `k` of the power of ten with `10 ^ (k - 1) ≤ n / d < 10 ^ k`. -/
def ratioPlaces (n d : Nat) : Int :=
  let k : Int := (digitCount n : Int) - (digitCount d : Int)
  if d * pow10 k.toNat ≤ n * pow10 (-k).toNat then k + 1 else k

/-- The nearest of the two neighbours on the grid of multiples of `10 ^ step` that lies inside, of two
equally near the even one. -/
def Neighbourhood.nearest? (b : Neighbourhood) (step : Int) : Option Nat :=
  let up := pow10 (-step).toNat
  let unit := b.unit * pow10 step.toNat
  let inside (d : Nat) : Bool :=
    if b.closed then b.low * up ≤ d * unit && d * unit ≤ b.high * up
    else b.low * up < d * unit && d * unit < b.high * up
  let d := b.value * up / unit
  let r := b.value * up % unit
  let below := 2 * r < unit || (2 * r == unit && d % 2 == 0)
  let first := if below then d else d + 1
  let second := if below then d + 1 else d
  if inside first then some first
  else if inside second then some second
  else none

def Neighbourhood.search (b : Neighbourhood) (places : Int) : Nat → Nat → Nat × Int
  | 0, count => (b.value * pow10 (count - places).toNat / b.unit, places - count)
  | tries + 1, count =>
    match b.nearest? (places - count) with
    | some d => (d, places - count)
    | none => b.search places tries (count + 1)

def shortest (m : Nat) (e : Int) : Nat × Int :=
  let b := neighbourhood m e
  b.search (ratioPlaces b.value b.unit) 17 1

def paddedExponent (n : Int) : String :=
  let sign := if n < 0 then "-" else "+"
  let digits := toString n.natAbs
  sign ++ (if digits.length < 2 then "0" ++ digits else digits)

def positional (digits : List Char) (lead : Int) : List Char :=
  if lead ≤ 0 then '0' :: '.' :: List.replicate (-lead).toNat '0' ++ digits
  else
    let whole := digits.take lead.toNat
    let rest := digits.drop lead.toNat
    whole ++ List.replicate (lead.toNat - whole.length) '0' ++
      '.' :: (if rest.isEmpty then ['0'] else rest)

def magnitudeText (m : Nat) (e : Int) : String :=
  if m = 0 then "0.0"
  else
    let (d, x) := shortest m e
    let digits := Nat.toDigits 10 d
    let lead : Int := digits.length + x
    let digits := (digits.reverse.dropWhile (· = '0')).reverse
    if -4 < lead && lead ≤ 16 then String.ofList (positional digits lead)
    else
      let fraction := digits.drop 1
      String.ofList (digits.take 1 ++ if fraction.isEmpty then [] else '.' :: fraction) ++
        "e" ++ paddedExponent (lead - 1)

def text : Binary64 → String
  | .nan => "nan"
  | .infinity s => if s then "-inf" else "inf"
  | .finite s m e => (if s then "-" else "") ++ magnitudeText m e

example : text 0.1 = "0.1" := by decide +kernel
example : text 100 = "100.0" := by decide +kernel
example : text 1e16 = "1e+16" := by decide +kernel
example : text 826158753180600.75 = "826158753180600.8" := by decide +kernel
example : text 1e-5 = "1e-05" := by decide +kernel
example : text 123456789012345680 = "1.2345678901234568e+17" := by decide +kernel
example : text (.finite false 1 (-1074)) = "5e-324" := by decide +kernel

end LedgerFlow.Binary64
