import LedgerFlow.Decimal.Digits

/-!
Decimal numbers that keep their exponent: a coefficient times a power of ten, an infinity, or no number.
Construction and comparison are exact; what arithmetic rounds to is in `LedgerFlow.Decimal.Arith`.
-/

namespace LedgerFlow

inductive Decimal
  | finite (negative : Bool) (coefficient : Nat) (exponent : Int)
  | infinity (negative : Bool)
  | nan (negative : Bool) (signalling : Bool) (payload : Nat)
deriving DecidableEq, Repr, Inhabited

namespace Decimal

inductive Signal
  | conversionSyntax
  | invalidOperation
  | divisionUndefined
  | divisionByZero
  | overflow
deriving DecidableEq, Repr

def Signal.name : Signal → String
  | .conversionSyntax => "ConversionSyntax"
  | .invalidOperation => "InvalidOperation"
  | .divisionUndefined => "DivisionUndefined"
  | .divisionByZero => "DivisionByZero"
  | .overflow => "Overflow"

def Signal.message (s : Signal) : String :=
  s!"[<class 'decimal.{s.name}'>]"

def ofInt (n : Int) : Decimal :=
  .finite (n < 0) n.natAbs 0

instance (n : Nat) : OfNat Decimal n where
  ofNat := .finite false n 0

def isFinite : Decimal → Bool
  | .finite .. => true
  | _ => false

def isNaN : Decimal → Bool
  | .nan .. => true
  | _ => false

def neg : Decimal → Decimal
  | .finite s c e => .finite (!s) c e
  | .infinity s => .infinity !s
  | .nan s q p => .nan (!s) q p

def adjusted (c : Nat) (e : Int) : Int :=
  digitCount c + e - 1

/-- The order of two positive values. Leading digits decide first, so that powers of ten stay small. -/
def magnitudeOrder (c : Nat) (e : Int) (d : Nat) (f : Int) : Ordering :=
  match compare (adjusted c e) (adjusted d f) with
  | .eq =>
    let unit := min e f
    compare (c * pow10 (e - unit).toNat) (d * pow10 (f - unit).toNat)
  | o => o

def finiteOrder (s : Bool) (c : Nat) (e : Int) (t : Bool) (d : Nat) (f : Int) : Ordering :=
  if c = 0 then
    if d = 0 then .eq else if t then .gt else .lt
  else if d = 0 then if s then .lt else .gt
  else match s, t with
    | false, false => magnitudeOrder c e d f
    | false, true => .gt
    | true, false => .lt
    | true, true => (magnitudeOrder c e d f).swap

def order? : Decimal → Decimal → Option Ordering
  | .nan .., _ => none
  | _, .nan .. => none
  | .infinity s, .infinity t => some (compare t s)
  | .infinity s, .finite .. => some (if s then .lt else .gt)
  | .finite .., .infinity t => some (if t then .gt else .lt)
  | .finite s c e, .finite t d f => some (finiteOrder s c e t d f)

def order (a b : Decimal) : Except Signal Ordering :=
  match a.order? b with
  | some o => .ok o
  | none => .error .invalidOperation

def isPositive (a : Decimal) : Bool :=
  a.order? 0 == some .gt

def truncateMagnitude (c : Nat) (e : Int) : Nat :=
  if 0 ≤ e then c * pow10 e.toNat
  else if digitCount c ≤ (-e).toNat then 0
  else c / pow10 (-e).toNat

def truncate (s : Bool) (c : Nat) (e : Int) : Int :=
  if s then -(truncateMagnitude c e : Int) else truncateMagnitude c e

def ceiling (s : Bool) (c : Nat) (e : Int) : Int :=
  if s then truncate s c e
  else
    let whole := truncateMagnitude c e
    let exact := 0 ≤ e || c = 0 || (digitCount c > (-e).toNat && c % pow10 (-e).toNat = 0)
    if exact then whole else whole + 1

end Decimal

end LedgerFlow
