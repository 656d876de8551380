import LedgerFlow.Decimal.Basic

/-!
Decimal arithmetic with 28 digits, a half to the even neighbour, and exponents from -999999 to 999999.
An invalid operation, a division by zero and an overflow give a signal in place of a value; what is too
small is rounded towards the least exponent.
-/

namespace LedgerFlow.Decimal

def precision : Nat := 28

def highestAdjusted : Int := 999999

def lowestExponent : Int := -1000026

def dropDigits (c k : Nat) : Nat :=
  if digitCount c < k then 0 else divHalfEven c (pow10 k)

/-- The value as it is kept: at most 28 digits and an exponent in range. -/
def finish (s : Bool) (c : Nat) (e : Int) : Except Signal Decimal :=
  if c = 0 then .ok (.finite s 0 (min (max e lowestExponent) highestAdjusted))
  else
    let unit := max e (max (digitCount c + e - precision) lowestExponent)
    let d := if unit = e then c else dropDigits c (unit - e).toNat
    let (d, unit) := if d = pow10 precision then (pow10 (precision - 1), unit + 1) else (d, unit)
    if highestAdjusted < adjusted d unit then .error .overflow else .ok (.finite s d unit)

def propagate (s signalling : Bool) (payload : Nat) : Except Signal Decimal :=
  if signalling then .error .invalidOperation else .ok (.nan s false (payload % pow10 precision))

def signedCoefficient (s : Bool) (c : Nat) (shift : Nat) : Int :=
  if s then -((c * pow10 shift : Nat) : Int) else (c * pow10 shift : Nat)

def addAligned (s : Bool) (c : Nat) (e : Int) (t : Bool) (d : Nat) (f : Int) : Except Signal Decimal :=
  let sum := signedCoefficient s c (e - f).toNat + signedCoefficient t d 0
  finish (if sum = 0 then s && t else sum < 0) sum.natAbs f

/-- The place below which a second operand only tells the rounding that something is there. -/
def stickyExponent (c : Nat) (e : Int) : Int :=
  if digitCount c ≤ precision then e + digitCount c - precision - 2 else e - 1

def addOrdered (s : Bool) (c : Nat) (e : Int) (t : Bool) (d : Nat) (f : Int) : Except Signal Decimal :=
  if c = 0 then finish (if d = 0 then s && t else t) d f
  else
    let sticky := stickyExponent c e
    if f < e && adjusted d f < sticky then addAligned s c e t (if d = 0 then 0 else 1) sticky
    else addAligned s c e t d f

def add : Decimal → Decimal → Except Signal Decimal
  | .nan s true p, _ => propagate s true p
  | _, .nan s true p => propagate s true p
  | .nan s false p, _ => propagate s false p
  | _, .nan s false p => propagate s false p
  | .infinity s, .infinity t => if s = t then .ok (.infinity s) else .error .invalidOperation
  | .infinity s, .finite .. => .ok (.infinity s)
  | .finite .., .infinity t => .ok (.infinity t)
  | .finite s c e, .finite t d f =>
    if f ≤ e then addOrdered s c e t d f else addOrdered t d f s c e

def sub (a b : Decimal) : Except Signal Decimal :=
  if b.isNaN then a.add b else a.add b.neg

def abs : Decimal → Except Signal Decimal
  | .nan s q p => propagate s q p
  | .infinity _ => .ok (.infinity false)
  | .finite _ c e => finish false c e

def mul : Decimal → Decimal → Except Signal Decimal
  | .nan s true p, _ => propagate s true p
  | _, .nan s true p => propagate s true p
  | .nan s false p, _ => propagate s false p
  | _, .nan s false p => propagate s false p
  | .infinity s, .infinity t => .ok (.infinity (s != t))
  | .infinity s, .finite t d _ => if d = 0 then .error .invalidOperation else .ok (.infinity (s != t))
  | .finite s c _, .infinity t => if c = 0 then .error .invalidOperation else .ok (.infinity (s != t))
  | .finite s c e, .finite t d f => finish (s != t) (c * d) (e + f)

/-- Moves trailing zeros into the exponent while it stays at most `ideal`. -/
def absorbZeros (ideal : Int) : Nat → Nat → Int → Nat × Int
  | 0, c, e => (c, e)
  | k + 1, c, e =>
    if e < ideal && c % 10 == 0 && c != 0 then absorbZeros ideal k (c / 10) (e + 1) else (c, e)

/-- The quotient: exact with an exponent as near to the difference as can be, or else rounded. -/
def divFinite (s : Bool) (c : Nat) (e : Int) (d : Nat) (f : Int) : Except Signal Decimal :=
  let ideal := e - f
  if c = 0 then finish s 0 ideal
  else
    let shift : Int := (digitCount d : Int) - digitCount c + precision + 1
    let n := c * pow10 shift.toNat
    let m := d * pow10 (-shift).toNat
    let q := n / m
    if n % m = 0 then
      let (q, x) := absorbZeros ideal (digitCount q) q (ideal - shift)
      finish s q x
    else finish s (if q % 5 = 0 then q + 1 else q) (ideal - shift)

def div : Decimal → Decimal → Except Signal Decimal
  | .nan s true p, _ => propagate s true p
  | _, .nan s true p => propagate s true p
  | .nan s false p, _ => propagate s false p
  | _, .nan s false p => propagate s false p
  | .infinity _, .infinity _ => .error .invalidOperation
  | .infinity s, .finite t _ _ => .ok (.infinity (s != t))
  | .finite s _ _, .infinity t => .ok (.finite (s != t) 0 lowestExponent)
  | .finite s c e, .finite t d f =>
    if d = 0 then .error (if c = 0 then .divisionUndefined else .divisionByZero)
    else divFinite (s != t) c e d f

def tenPow (n : Int) : Except Signal Decimal :=
  if 0 ≤ n && n < precision then .ok (.finite false (pow10 n.toNat) 0)
  else if highestAdjusted < n then .error .overflow
  else if 0 ≤ n then .ok (.finite false (pow10 (precision - 1)) (n - (precision - 1)))
  else finish false 1 n

def maximum (a b : Decimal) : Except Signal Decimal := do
  return if (← b.order a) == .gt then b else a

end LedgerFlow.Decimal
