import LedgerFlow.Decimal.Digits
import Mathlib.Algebra.Order.Field.Power
import Mathlib.Data.Int.Log
import Mathlib.Data.Rat.Floor
import Mathlib.Tactic.Linarith
import Mathlib.Tactic.Positivity
import Mathlib.Tactic.Ring

namespace LedgerFlow

namespace Decimal

def roundEven (x : ℚ) : ℤ :=
  if x - ⌊x⌋ < 1 / 2 then ⌊x⌋ else if 1 / 2 < x - ⌊x⌋ then ⌊x⌋ + 1 else ⌊x⌋ + ⌊x⌋ % 2

variable {x y : ℚ} {c d : Nat}

theorem roundEven_bounds (x : ℚ) : ⌊x⌋ ≤ roundEven x ∧ roundEven x ≤ ⌊x⌋ + 1 := by
  have := Int.emod_two_eq ⌊x⌋
  unfold roundEven
  split
  · omega
  · split <;> omega

@[simp] theorem roundEven_intCast (n : ℤ) : roundEven n = n := by
  simp [roundEven]

theorem roundEven_mono (h : x ≤ y) : roundEven x ≤ roundEven y := by
  obtain hlt | heq := lt_or_eq_of_le (Int.floor_le_floor h)
  · have := (roundEven_bounds x).2
    have := (roundEven_bounds y).1
    omega
  · -- Both lie above one integer, and the larger one is not nearer to it.
    have := Int.emod_two_eq ⌊y⌋
    unfold roundEven
    rw [heq]
    split_ifs <;> first | omega | linarith

theorem roundEven_of_lt (h : (⌊2 * x⌋ : ℚ) < 2 * x) : roundEven x = (⌊2 * x⌋ + 1) / 2 := by
  have hhigh := Int.lt_floor_add_one (2 * x)
  have hfloor : ⌊x⌋ = ⌊2 * x⌋ / 2 := by
    have hlow : 2 * ⌊x⌋ ≤ ⌊2 * x⌋ := by
      rw [Int.le_floor]
      push_cast
      linarith [Int.floor_le x]
    have hup : ⌊2 * x⌋ < 2 * ⌊x⌋ + 2 := by
      rw [Int.floor_lt]
      push_cast
      linarith [Int.lt_floor_add_one x]
    omega
  unfold roundEven
  rw [hfloor]
  obtain hj | hj := Int.emod_two_eq ⌊2 * x⌋
  · have hk : (⌊2 * x⌋ : ℚ) = 2 * (⌊2 * x⌋ / 2 : ℤ) := by exact_mod_cast (by omega : ⌊2 * x⌋ = 2 * (⌊2 * x⌋ / 2))
    rw [if_pos (by linarith)]
    omega
  · have hk : (⌊2 * x⌋ : ℚ) = 2 * (⌊2 * x⌋ / 2 : ℤ) + 1 := by
      exact_mod_cast (by omega : ⌊2 * x⌋ = 2 * (⌊2 * x⌋ / 2) + 1)
    rw [if_neg (by linarith), if_pos (by linarith)]
    omega

theorem roundEven_div (hd : 0 < d) (c : Nat) : roundEven ((c : ℚ) / d) = divHalfEven c d := by
  have hdpos : (0 : ℚ) < d := Nat.cast_pos.2 hd
  have hfloor : ⌊(c : ℚ) / d⌋ = (c / d : Nat) := Rat.floor_natCast_div_natCast c d
  have hrest : (c : ℚ) / d - (c / d : Nat) = (c % d : Nat) / d := by
    rw [sub_eq_iff_eq_add, ← sub_eq_zero]
    field_simp
    exact_mod_cast sub_eq_zero.2 (congrArg (Nat.cast (R := ℤ)) ((Nat.mod_add_div c d).symm.trans (by ring)))
  have hhalf : (c : ℚ) / d - (⌊(c : ℚ) / d⌋ : ℤ) < 1 / 2 ↔ 2 * (c % d) < d := by
    rw [hfloor, Int.cast_natCast, hrest, div_lt_div_iff₀ hdpos two_pos, one_mul, mul_comm]
    exact_mod_cast Iff.rfl
  have hover : 1 / 2 < (c : ℚ) / d - (⌊(c : ℚ) / d⌋ : ℤ) ↔ d < 2 * (c % d) := by
    rw [hfloor, Int.cast_natCast, hrest, div_lt_div_iff₀ two_pos hdpos, one_mul, mul_comm]
    exact_mod_cast Iff.rfl
  unfold roundEven divHalfEven
  simp only [hhalf, hover]
  rw [hfloor]
  split_ifs <;> omega

theorem roundEven_nonneg (h : 0 ≤ x) : 0 ≤ roundEven x := by
  rw [← roundEven_intCast 0, Int.cast_zero]
  exact roundEven_mono h

end Decimal

namespace Grid

open Decimal (roundEven roundEven_mono roundEven_nonneg roundEven_intCast)

variable (base digits : ℕ) (low : ℤ)

def unitOf (q : ℚ) : ℤ := max (Int.log base q + 1 - digits) low

def roundMagnitude (q : ℚ) : ℚ := roundEven (q / base ^ unitOf base digits low q) * base ^ unitOf base digits low q

def round (q : ℚ) : ℚ := if q < 0 then -roundMagnitude base digits low (-q) else roundMagnitude base digits low q

variable {base digits : ℕ} {low : ℤ} {p q : ℚ}

theorem unitOf_mono (base digits : ℕ) (low : ℤ) (hp : 0 < p) (h : p ≤ q) :
    unitOf base digits low p ≤ unitOf base digits low q :=
  max_le_max_right _ (sub_le_sub_right (add_le_add_left (Int.log_mono_right hp h) 1) _)

theorem roundEven_unit_le (digits : ℕ) (low : ℤ) (hbase : 1 < base) (hp : 0 < p) :
    roundEven (p / base ^ unitOf base digits low p) ≤ (base : ℤ) ^ digits := by
  have hpos : (0 : ℚ) < base := Nat.cast_pos.2 (by omega)
  rw [← roundEven_intCast ((base : ℤ) ^ digits)]
  apply roundEven_mono
  rw [div_le_iff₀ (zpow_pos hpos _), Int.cast_pow, Int.cast_natCast, ← zpow_natCast, ← zpow_add₀ hpos.ne']
  apply le_of_lt
  apply (Int.lt_zpow_iff_log_lt hbase hp).2
  have hunit : Int.log base p + 1 - digits ≤ unitOf base digits low p := le_max_left _ _
  omega

theorem le_roundEven_unit (k : ℕ) (hbase : 1 < base) (hq : 0 < q) (hlow : low < unitOf base (k + 1) low q) :
    (base : ℤ) ^ k ≤ roundEven (q / base ^ unitOf base (k + 1) low q) := by
  have hpos : (0 : ℚ) < base := Nat.cast_pos.2 (by omega)
  rw [← roundEven_intCast ((base : ℤ) ^ k)]
  apply roundEven_mono
  rw [le_div_iff₀ (zpow_pos hpos _), Int.cast_pow, Int.cast_natCast, ← zpow_natCast, ← zpow_add₀ hpos.ne']
  apply (Int.zpow_le_iff_le_log hbase hq).2
  unfold unitOf at *
  omega

theorem roundMagnitude_nonneg (h : 0 ≤ q) : 0 ≤ roundMagnitude base digits low q :=
  mul_nonneg (Int.cast_nonneg (roundEven_nonneg (by positivity))) (by positivity)

theorem roundMagnitude_mono (hbase : 1 < base) (hdigits : digits ≠ 0) (hp : 0 < p) (h : p ≤ q) :
    roundMagnitude base digits low p ≤ roundMagnitude base digits low q := by
  obtain ⟨k, rfl⟩ := Nat.exists_eq_succ_of_ne_zero hdigits
  have hpos : (0 : ℚ) < base := Nat.cast_pos.2 (by omega)
  unfold roundMagnitude
  obtain hlt | heq := lt_or_eq_of_le (unitOf_mono base (k + 1) low hp h)
  · -- the first power that has one digit more at the unit of the smaller number lies between the two
    have hsmall := roundEven_unit_le (k + 1) low hbase hp
    have hlarge := le_roundEven_unit k hbase (hp.trans_le h) ((le_max_right _ _).trans_lt hlt)
    calc (roundEven (p / base ^ unitOf base (k + 1) low p) : ℚ) * base ^ unitOf base (k + 1) low p
        ≤ ((base : ℤ) ^ (k + 1) : ℤ) * base ^ unitOf base (k + 1) low p := by
          gcongr
      _ = (base : ℚ) ^ ((k : ℤ) + (unitOf base (k + 1) low p + 1)) := by
          rw [Int.cast_pow, Int.cast_natCast, ← zpow_natCast, ← zpow_add₀ hpos.ne']
          congr 1
          push_cast
          ring
      _ ≤ (base : ℚ) ^ ((k : ℤ) + unitOf base (k + 1) low q) :=
          zpow_le_zpow_right₀ (by exact_mod_cast hbase.le) (by omega)
      _ = ((base : ℤ) ^ k : ℤ) * base ^ unitOf base (k + 1) low q := by
          rw [Int.cast_pow, Int.cast_natCast, ← zpow_natCast, ← zpow_add₀ hpos.ne']
      _ ≤ roundEven (q / base ^ unitOf base (k + 1) low q) * base ^ unitOf base (k + 1) low q := by
          gcongr
  · rw [heq]
    have hround := roundEven_mono (div_le_div_of_nonneg_right h (zpow_pos hpos (unitOf base (k + 1) low q)).le)
    gcongr

theorem round_of_nonneg (h : 0 ≤ q) : round base digits low q = roundMagnitude base digits low q :=
  if_neg (not_lt.2 h)

@[simp] theorem round_zero : round base digits low 0 = 0 := by
  rw [round_of_nonneg le_rfl, roundMagnitude, zero_div]
  simp [roundEven]

theorem round_neg (q : ℚ) : round base digits low (-q) = -round base digits low q := by
  obtain hlt | rfl | hgt := lt_trichotomy q 0
  · rw [round_of_nonneg (neg_nonneg.2 hlt.le), round, if_pos hlt, neg_neg]
  · simp
  · rw [round_of_nonneg hgt.le, round, if_pos (neg_neg_of_pos hgt), neg_neg]

theorem round_nonneg (h : 0 ≤ q) : 0 ≤ round base digits low q := by
  rw [round_of_nonneg h]
  exact roundMagnitude_nonneg h

theorem round_mono_of_nonneg (hbase : 1 < base) (hdigits : digits ≠ 0) (hp : 0 ≤ p) (h : p ≤ q) :
    round base digits low p ≤ round base digits low q := by
  obtain rfl | hpos := hp.eq_or_lt
  · rw [round_zero]
    exact round_nonneg h
  · rw [round_of_nonneg hp, round_of_nonneg (hp.trans h)]
    exact roundMagnitude_mono hbase hdigits hpos h

theorem round_mono (hbase : 1 < base) (hdigits : digits ≠ 0) : Monotone (round base digits low) := by
  intro p q h
  obtain hp | hp := le_total 0 p
  · exact round_mono_of_nonneg hbase hdigits hp h
  · obtain hq | hq := le_total 0 q
    · refine le_trans ?_ (round_nonneg hq)
      rw [← neg_nonneg, ← round_neg]
      exact round_nonneg (neg_nonneg.2 hp)
    · rw [← neg_le_neg_iff, ← round_neg, ← round_neg]
      exact round_mono_of_nonneg hbase hdigits (neg_nonneg.2 hq) (neg_le_neg h)

end Grid

end LedgerFlow
