import LedgerFlow.Decimal.Digits

/-!
Binary floating point numbers of 64 bits as exact values: a finite one is a significand below 2 ^ 53
times a power of two no smaller than 2 ^ -1074. Order and difference are those of the exact values, the
difference rounded once.
-/

namespace LedgerFlow

inductive Binary64
  | nan
  | infinity (negative : Bool)
  | finite (negative : Bool) (significand : Nat) (exponent : Int)
deriving DecidableEq, Repr, Inhabited

namespace Binary64

def lowestExponent : Int := -1074

def highestExponent : Int := 971

def zero (negative : Bool) : Binary64 :=
  .finite negative 0 lowestExponent

/-- The exponent `k` of the power of two with `2 ^ k ≤ n / d < 2 ^ (k + 1)`. -/
def ratioLog2 (n d : Nat) : Int :=
  let k : Int := (n.log2 : Int) - (d.log2 : Int)
  if d * pow2 k.toNat ≤ n * pow2 (-k).toNat then k else k - 1

/-- The number nearest to `n / d`, of two the one with the even significand. -/
def ofRatio (negative : Bool) (n d : Nat) : Binary64 :=
  if n = 0 then zero negative
  else
    let e := max lowestExponent (ratioLog2 n d - 52)
    let m := divHalfEven (n * pow2 (-e).toNat) (d * pow2 e.toNat)
    let (m, e) := if m = pow2 53 then (pow2 52, e + 1) else (m, e)
    if highestExponent < e then .infinity negative else .finite negative m e

def ofInt (n : Int) : Binary64 :=
  ofRatio (n < 0) n.natAbs 1

/-- The number nearest to `digits * 10 ^ exponent`. Beyond 400 places the power itself is not formed. -/
def ofDecimal (negative : Bool) (digits : Nat) (exponent : Int) : Binary64 :=
  let places := digitCount digits + exponent
  if digits = 0 then zero negative
  else if 400 < places then .infinity negative
  else if places < -400 then zero negative
  else ofRatio negative (digits * pow10 exponent.toNat) (pow10 (-exponent).toNat)

instance : OfScientific Binary64 where
  ofScientific m s e := ofDecimal false m (if s then -(e : Int) else e)

instance (n : Nat) : OfNat Binary64 n where
  ofNat := ofInt n

def isNaN : Binary64 → Bool
  | .nan => true
  | _ => false

def isFinite : Binary64 → Bool
  | .finite .. => true
  | _ => false

def signed (negative : Bool) (n : Nat) : Int :=
  if negative then -(n : Int) else n

/-- The significand with its sign, in units of `2 ^ unit`; exact for `unit ≤ exponent`. -/
def scaled (negative : Bool) (m : Nat) (e unit : Int) : Int :=
  signed negative (m * pow2 (e - unit).toNat)

def order? : Binary64 → Binary64 → Option Ordering
  | .nan, _ => none
  | _, .nan => none
  | .infinity s, .infinity t => some (compare t s)
  | .infinity s, .finite .. => some (if s then .lt else .gt)
  | .finite .., .infinity t => some (if t then .gt else .lt)
  | .finite s m e, .finite t n f =>
    let unit := min e f
    some (compare (scaled s m e unit) (scaled t n f unit))

def lt (a b : Binary64) : Bool := a.order? b == some .lt

def eq (a b : Binary64) : Bool := a.order? b == some .eq

def neg : Binary64 → Binary64
  | .nan => .nan
  | .infinity s => .infinity !s
  | .finite s m e => .finite (!s) m e

def add : Binary64 → Binary64 → Binary64
  | .nan, _ => .nan
  | _, .nan => .nan
  | .infinity s, .infinity t => if s = t then .infinity s else .nan
  | .infinity s, .finite .. => .infinity s
  | .finite .., .infinity t => .infinity t
  | .finite s m e, .finite t n f =>
    let unit := min e f
    let sum := scaled s m e unit + scaled t n f unit
    if sum = 0 then zero (s && t)
    else ofRatio (sum < 0) (sum.natAbs * pow2 unit.toNat) (pow2 (-unit).toNat)

def sub (a b : Binary64) : Binary64 := a.add b.neg

def toInt? : Binary64 → Option Int
  | .finite s m e => some (signed s (m * pow2 e.toNat / pow2 (-e).toNat))
  | _ => none

def isWhole : Binary64 → Bool
  | .finite _ m e => m % pow2 (-e).toNat == 0
  | _ => false

end Binary64

end LedgerFlow
