import LedgerFlow.Error

/-!
Amounts as people write them and as the ledger counts them. A ledger counts whole base units, `10 ^ d` of
them to one; an amount is brought to base units by dropping what lies below the smallest unit.
-/

namespace LedgerFlow.Amount

def toInt : Decimal → Except Fault Int
  | .finite s c e => .ok (Decimal.truncate s c e)
  | .infinity _ => .error (.raised .overflow "cannot convert Infinity to integer" none)
  | .nan .. => .error (.badValue "cannot convert NaN to integer")

def ofResult {α : Type} (r : Except Decimal.Signal α) : Except Fault α :=
  r.mapError Fault.ofSignal

def toUnits (decimals : Int) (amount : Decimal) : Except Fault Int := do
  let unit ← ofResult (Decimal.tenPow decimals)
  let scaled ← ofResult (amount.mul unit)
  toInt scaled

def unscaled (decimals : Int) (d : Decimal) : Except Fault Decimal := do
  let unit ← ofResult (Decimal.tenPow decimals)
  ofResult (d.div unit)

def ofUnits (decimals : Int) (n : Int) : Except Fault Decimal := unscaled decimals (.ofInt n)

def unconvertible (kindName : String) : Fault :=
  .badType s!"conversion from {kindName} to Decimal is not supported"

def given : Option Decimal → Except Fault Decimal
  | some d => .ok d
  | none => .error (unconvertible "NoneType")

def ofBinary64 : Binary64 → Decimal
  | .nan => .nan false false 0
  | .infinity s => .infinity s
  | .finite s m e =>
    if m = 0 then .finite s 0 0
    else if 0 ≤ e then .finite s (m * pow2 e.toNat) 0
    else
      let twos := min (-e).toNat (trailingTwos 53 m)
      let places := (-e).toNat - twos
      .finite s (m / pow2 twos * pow5 places) (-places)
where
  trailingTwos : Nat → Nat → Nat
    | 0, _ => 0
    | limit + 1, m => if m % 2 = 0 then trailingTwos limit (m / 2) + 1 else 0
  pow5 (n : Nat) : Nat := pow10 n / pow2 n

def ofJson : Json → Except Fault Decimal
  | .string s => ofResult (Decimal.ofText s)
  | .int n => .ok (.ofInt n)
  | .bool b => .ok (if b then 1 else 0)
  | .float x => .ok (ofBinary64 x)
  | .array _ => .error (.badValue "argument must be a sequence of length 3")
  | v => .error (unconvertible v.kindName)

def textOf (n : Int) : Except Fault String :=
  if pow10 Text.digitLimit ≤ n.natAbs then .error Fault.unshowable else .ok (toString n)

end LedgerFlow.Amount
