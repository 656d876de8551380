import LedgerFlow.Decimal.Arith
import Mathlib.Algebra.Order.Field.Power
import Mathlib.Algebra.Order.Ring.Rat
import Mathlib.Data.Int.Log
import Mathlib.Data.Rat.Floor
import Mathlib.Order.Compare

namespace LedgerFlow.Decimal

def ratio (negative : Bool) (coefficient : Nat) (exponent : Int) : ℚ :=
  (if negative then -(coefficient : ℚ) else coefficient) * 10 ^ exponent

def value? : Decimal → Option ℚ
  | .finite s c e => some (ratio s c e)
  | _ => none

section

variable {s : Bool} {c d : Nat} {e f : Int} {a b : Decimal} {p q : ℚ}

theorem ten_zpow_pos (e : Int) : (0 : ℚ) < 10 ^ e := zpow_pos (by norm_num) e

@[simp] theorem value?_finite : (finite s c e).value? = some (ratio s c e) := rfl

theorem value?_eq_some : a.value? = some q ↔ ∃ s c e, a = .finite s c e ∧ ratio s c e = q := by
  cases a with
  | finite s c e => simp
  | infinity s => simp [value?]
  | nan s signalling payload => simp [value?]

@[simp] theorem ratio_false : ratio false c e = c * 10 ^ e := rfl

@[simp] theorem ratio_true : ratio true c e = -(c * 10 ^ e) := by
  simp [ratio]

theorem ratio_not : ratio (!s) c e = -ratio s c e := by
  cases s <;> simp

@[simp] theorem ratio_zero : ratio s 0 e = 0 := by
  cases s <;> simp

theorem value?_neg (ha : a.value? = some p) : a.neg.value? = some (-p) := by
  obtain ⟨s, c, e, rfl, rfl⟩ := value?_eq_some.1 ha
  exact congrArg some ratio_not

theorem value?_zero : (0 : Decimal).value? = some 0 := congrArg some ratio_zero

theorem value?_ofInt (n : Int) : (ofInt n).value? = some (n : ℚ) := by
  rw [ofInt, value?_finite, Option.some_inj]
  by_cases hn : n < 0
  · simp [hn, Nat.cast_natAbs, abs_of_neg hn]
  · simp [hn, Nat.cast_natAbs, abs_of_nonneg (Int.not_lt.1 hn)]

theorem cast_pow10 (k : Nat) : ((pow10 k : Nat) : ℚ) = 10 ^ (k : Int) := by
  rw [pow10, Nat.pow_eq, Nat.cast_pow, Nat.cast_ofNat, zpow_natCast]

theorem mul_pow10 (h : f ≤ e) (c : Nat) : ((c * pow10 (e - f).toNat : Nat) : ℚ) * 10 ^ f = c * 10 ^ e := by
  rw [Nat.cast_mul, cast_pow10, Int.toNat_of_nonneg (Int.sub_nonneg.2 h), mul_assoc, ← zpow_add₀ (by norm_num),
    Int.sub_add_cancel]

theorem signedCoefficient_mul (h : f ≤ e) (s : Bool) (c : Nat) :
    (signedCoefficient s c (e - f).toNat : ℚ) * 10 ^ f = ratio s c e := by
  cases s with
  | false => rw [ratio_false, ← mul_pow10 h c]; rfl
  | true =>
    rw [ratio_true, ← mul_pow10 h c, ← neg_mul]
    rfl

theorem ten_zpow_le_iff (hq : 0 < q) : (10 : ℚ) ^ e ≤ q ↔ e ≤ Int.log 10 q := Int.zpow_le_iff_le_log (by decide) hq

theorem lt_ten_zpow_iff (hq : 0 < q) : q < (10 : ℚ) ^ e ↔ Int.log 10 q < e := Int.lt_zpow_iff_log_lt (by decide) hq

theorem log_eq_iff (hq : 0 < q) : Int.log 10 q = e ↔ (10 : ℚ) ^ e ≤ q ∧ q < 10 ^ (e + 1) := by
  rw [ten_zpow_le_iff hq, lt_ten_zpow_iff hq]
  omega

theorem log_mul_zpow (hc : c ≠ 0) (e : Int) : Int.log 10 ((c : ℚ) * 10 ^ e) = adjusted c e := by
  have hpos : (0 : ℚ) < c := Nat.cast_pos.2 (Nat.pos_of_ne_zero hc)
  have hlow : (10 : ℚ) ^ ((digitCount c : Int) - 1) ≤ c := by
    have hcount : (digitCount c : Int) - 1 = (digitCount c - 1 : Nat) := by
      have := digitCountBelow_pos (c.log2.log2 + 1) c
      rw [digitCount]
      omega
    rw [hcount, ← cast_pow10]
    exact Nat.cast_le.2 (pow10_le_of_digitCount hc)
  have hhigh : (c : ℚ) < 10 ^ (digitCount c : Int) := by
    rw [← cast_pow10]
    exact Nat.cast_lt.2 (lt_pow10_digitCount c)
  rw [log_eq_iff (mul_pos hpos (ten_zpow_pos e)), adjusted]
  have hlead : (digitCount c : Int) + e - 1 = digitCount c - 1 + e := by omega
  constructor
  · rw [hlead, zpow_add₀ (by norm_num)]
    exact mul_le_mul_of_nonneg_right hlow (ten_zpow_pos e).le
  · rw [Int.sub_add_cancel, zpow_add₀ (by norm_num)]
    exact mul_lt_mul_of_pos_right hhigh (ten_zpow_pos e)

theorem magnitudeOrder_eq (hc : c ≠ 0) (hd : d ≠ 0) (e f : Int) :
    magnitudeOrder c e d f = compare ((c : ℚ) * 10 ^ e) (d * 10 ^ f) := by
  have hcpos : (0 : ℚ) < c * 10 ^ e := mul_pos (Nat.cast_pos.2 (Nat.pos_of_ne_zero hc)) (ten_zpow_pos e)
  have hdpos : (0 : ℚ) < d * 10 ^ f := mul_pos (Nat.cast_pos.2 (Nat.pos_of_ne_zero hd)) (ten_zpow_pos f)
  have hlogs : compare (adjusted c e) (adjusted d f) =
      compare (Int.log 10 ((c : ℚ) * 10 ^ e)) (Int.log 10 ((d : ℚ) * 10 ^ f)) := by
    rw [log_mul_zpow hc, log_mul_zpow hd]
  unfold magnitudeOrder
  rw [hlogs]
  obtain hlt | heq | hgt := lt_trichotomy (Int.log 10 ((c : ℚ) * 10 ^ e)) (Int.log 10 ((d : ℚ) * 10 ^ f))
  · -- The leading digits differ in place.
    have hvalues : (c : ℚ) * 10 ^ e < d * 10 ^ f :=
      lt_of_not_ge fun h => not_lt_of_ge (Int.log_mono_right hdpos h) hlt
    rw [compare_lt_iff_lt.2 hlt, compare_lt_iff_lt.2 hvalues]
  · rw [compare_eq_iff_eq.2 heq]
    dsimp only
    -- On a common grid the coefficients compare as the values do.
    have hunit := ten_zpow_pos (min e f)
    rw [← mul_pow10 (min_le_left e f) c, ← mul_pow10 (min_le_right e f) d, ← cmp_eq_compare, ← cmp_eq_compare,
      cmp_mul_pos_right hunit]
    exact (Nat.strictMono_cast.cmp_map_eq _ _).symm
  · have hvalues : (d : ℚ) * 10 ^ f < c * 10 ^ e :=
      lt_of_not_ge fun h => not_lt_of_ge (Int.log_mono_right hcpos h) hgt
    rw [compare_gt_iff_gt.2 hgt, compare_gt_iff_gt.2 hvalues]

theorem order?_eq_compare (ha : a.value? = some p) (hb : b.value? = some q) : a.order? b = some (compare p q) := by
  obtain ⟨s, c, e, rfl, rfl⟩ := value?_eq_some.1 ha
  obtain ⟨t, d, f, rfl, rfl⟩ := value?_eq_some.1 hb
  rw [order?, Option.some_inj]
  unfold finiteOrder
  have hpos : ∀ {n : Nat} {k : Int}, n ≠ 0 → (0 : ℚ) < n * 10 ^ k := fun hn =>
    mul_pos (Nat.cast_pos.2 (Nat.pos_of_ne_zero hn)) (ten_zpow_pos _)
  by_cases hc : c = 0
  · subst hc
    by_cases hd : d = 0
    · subst hd
      simp
    · have := hpos hd (k := f)
      cases t with
      | false => simpa [hd] using (compare_lt_iff_lt.2 this).symm
      | true => simpa [hd] using (compare_gt_iff_gt.2 (neg_neg_of_pos this)).symm
  · by_cases hd : d = 0
    · subst hd
      have := hpos hc (k := e)
      cases s with
      | false => simpa [hc] using (compare_gt_iff_gt.2 this).symm
      | true => simpa [hc] using (compare_lt_iff_lt.2 (neg_neg_of_pos this)).symm
    · have hcpos := hpos hc (k := e)
      have hdpos := hpos hd (k := f)
      rw [if_neg hc, if_neg hd]
      cases s <;> cases t <;> simp only [ratio_false, ratio_true]
      · exact magnitudeOrder_eq hc hd e f
      · exact (compare_gt_iff_gt.2 ((neg_neg_of_pos hdpos).trans hcpos)).symm
      · exact (compare_lt_iff_lt.2 ((neg_neg_of_pos hcpos).trans hdpos)).symm
      · rw [magnitudeOrder_eq hc hd, ← cmp_eq_compare, ← cmp_eq_compare, cmp_swap]
        exact (StrictAnti.cmp_map_eq (f := fun x : ℚ => -x) (fun _ _ => neg_lt_neg) _ _).symm

theorem isPositive_iff (ha : a.value? = some p) : a.isPositive = true ↔ 0 < p := by
  rw [isPositive, order?_eq_compare ha value?_zero, beq_iff_eq, Option.some_inj]
  exact compare_gt_iff_gt

theorem value?_of_isPositive (h : a.isPositive = true) : a = .infinity false ∨ ∃ q, a.value? = some q ∧ 0 < q := by
  cases a with
  | finite s c e => exact .inr ⟨_, rfl, (isPositive_iff rfl).1 h⟩
  | infinity s =>
    cases s with
    | false => exact .inl rfl
    | true => exact absurd h (by decide)
  | nan s signalling payload => cases h

end

end LedgerFlow.Decimal
