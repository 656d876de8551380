import LedgerFlow.Proofs.Exchange
import LedgerFlow.Token

namespace LedgerFlow

namespace Decimal

def IsUnsigned (x : Decimal) : Prop := ∃ c e, x = .finite false c e

theorem unsigned_finish {c : Nat} {e : Int} {x : Decimal} (h : finish false c e = .ok x) : x.IsUnsigned := by
  unfold finish at h
  split at h
  · cases h
    exact ⟨_, _, rfl⟩
  · extract_lets unit d at h
    -- first the pair that the digits may run over into, then the overflow
    split at h
    split at h
    · cases h
    · cases h
      exact ⟨_, _, rfl⟩

theorem unsigned_tenPow {n : Int} {x : Decimal} (h : tenPow n = .ok x) : x.IsUnsigned := by
  unfold tenPow at h
  split at h
  · cases h
    exact ⟨_, _, rfl⟩
  · split at h
    · cases h
    · split at h
      · cases h
        exact ⟨_, _, rfl⟩
      · exact unsigned_finish h

theorem of_isPositive {x : Decimal} (h : x.isPositive = true) : x.IsUnsigned ∨ x = .infinity false := by
  cases x with
  | finite s c e =>
    have h : (some (finiteOrder s c e false 0 0) == some .gt) = true := h
    cases s with
    | false => exact .inl ⟨c, e, rfl⟩
    | true =>
      by_cases hc : c = 0 <;> simp [finiteOrder, hc] at h
  | infinity s =>
    cases s with
    | false => exact .inr rfl
    | true => exact absurd h (by decide)
  | nan s q p => cases h

end Decimal

namespace Amount

theorem ofResult_eq_ok {α : Type} {x : Except Decimal.Signal α} {a : α} : ofResult x = .ok a ↔ x = .ok a :=
  mapError_eq_ok

theorem toInt_nonneg {x : Decimal} {n : Int} (hx : x.IsUnsigned) (h : toInt x = .ok n) : 0 ≤ n := by
  obtain ⟨c, e, rfl⟩ := hx
  cases h
  exact Int.natCast_nonneg _

theorem toUnits_nonneg {decimals n : Int} {amount : Decimal} (ha : amount.isPositive = true)
    (h : toUnits decimals amount = .ok n) : 0 ≤ n := by
  obtain ⟨unit, hunit, h₁⟩ := except_bind_eq_ok.1 h
  obtain ⟨scaled, hscaled, hn⟩ := except_bind_eq_ok.1 h₁
  obtain ⟨c, e, rfl⟩ := Decimal.unsigned_tenPow (ofResult_eq_ok.1 hunit)
  have hscaled := ofResult_eq_ok.1 hscaled
  obtain ⟨d, f, rfl⟩ | rfl := Decimal.of_isPositive ha
  · exact toInt_nonneg (Decimal.unsigned_finish hscaled) hn
  · -- an infinite amount comes to no number of units
    simp only [Decimal.mul] at hscaled
    split at hscaled
    · cases hscaled
    · cases hscaled
      cases hn

end Amount

end LedgerFlow
