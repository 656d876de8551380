import LedgerFlow.Proofs.Assembly.Outlays

namespace LedgerFlow

namespace Decimal

theorem tenPow_of_neg {n : Int} (hn : n < 0) : tenPow n = finish false 1 n := by
  have hsmall : ¬highestAdjusted < n := by
    simp only [highestAdjusted]
    omega
  simp [tenPow, not_le.2 hn, hsmall]

theorem tenPow_of_lt {n : Int} (hn : n < lowestExponent) : tenPow n = .ok (.finite false 0 lowestExponent) := by
  have hneg : n < 0 := by
    simp only [lowestExponent] at hn
    omega
  have hone : digitCount 1 = 1 := rfl
  have hunit : max n (max (digitCount 1 + n - precision) lowestExponent) = lowestExponent := by
    rw [hone]
    simp only [precision]
    omega
  have hdropped : dropDigits 1 (lowestExponent - n).toNat = 0 := by
    unfold dropDigits
    split
    · rfl
    · have hlast : (lowestExponent - n).toNat = 1 := by
        rw [hone] at *
        omega
      rw [hlast]
      rfl
  have hne : lowestExponent ≠ n := ne_of_gt hn
  have hfew : ¬0 = pow10 precision := (pow10_pos _).ne
  have hrange : ¬highestAdjusted < adjusted 0 lowestExponent := by decide
  rw [tenPow_of_neg hneg, finish, if_neg one_ne_zero]
  simp only [hunit, hne, hdropped, hfew, hrange, if_false]

theorem Rounds.ok_of_abs_le {r s : Except Signal Decimal} {p q : ℚ} {x : Decimal} (hr : Rounds r p) (hx : r = .ok x)
    (hs : Rounds s q) (hle : |q| ≤ |p|) : ∃ y, s = .ok y := by
  have hround : |round q| ≤ |round p| := by
    have habs : ∀ z : ℚ, |round z| = round |z| := by
      intro z
      obtain hz | hz := le_total 0 z
      · rw [abs_of_nonneg hz, abs_of_nonneg (round_nonneg hz)]
      · rw [abs_of_nonpos hz, round_neg, abs_of_nonpos]
        simpa [round_neg] using round_nonneg (neg_nonneg.2 hz)
    rw [habs, habs]
    exact round_mono hle
  have hrange : |round p| < 10 ^ (highestAdjusted + 1) := by
    by_contra hlarge
    rw [Rounds, if_neg hlarge] at hr
    cases hx.symm.trans hr
  rw [Rounds, if_pos (hround.trans_lt hrange)] at hs
  obtain ⟨y, hy, -⟩ := hs
  exact ⟨y, hy⟩

theorem value?_tenPow_of_ok {n : Int} {x : Decimal} (h : tenPow n = .ok x) (hn : lowestExponent ≤ n) :
    n ≤ highestAdjusted ∧ x.value? = some (10 ^ n) := by
  by_cases hneg : 0 ≤ n
  · by_cases hle : n ≤ highestAdjusted
    · obtain ⟨y, hy, hvalue⟩ := value?_tenPow hneg hle
      cases h.symm.trans hy
      exact ⟨hle, hvalue⟩
    · have hoverflow : tenPow n = .error .overflow := by
        have hlarge : ¬n < precision := by
          simp only [highestAdjusted, precision] at *
          omega
        simp [tenPow, hneg, hlarge, not_le.1 hle]
      cases h.symm.trans hoverflow
  · have hfinish := tenPow_of_neg (not_le.1 hneg)
    have hround : round (10 ^ n) = 10 ^ n := by simpa using round_eq_self (n := 1) (by decide) hn
    have hvalue := (rounds_finish false 1 n).value? (hfinish.symm.trans h)
    rw [ratio_false, Nat.cast_one, one_mul, hround] at hvalue
    refine ⟨?_, hvalue⟩
    simp only [highestAdjusted]
    omega

end Decimal

namespace Token

variable {t : Token} {n m : Int} {d : Decimal}

theorem unit_of_shown (h : t.fromBaseUnits n = .ok d) :
    t.decimals ≤ Decimal.highestAdjusted ∧
      ∃ unit, Decimal.tenPow t.decimals = .ok unit ∧ unit.value? = some (10 ^ t.decimals) := by
  obtain ⟨unit, hunit, hdiv⟩ := except_bind_eq_ok.1 h
  have hunit := Amount.ofResult_eq_ok.1 hunit
  have hdiv := Amount.ofResult_eq_ok.1 hdiv
  by_cases hlow : Decimal.lowestExponent ≤ t.decimals
  · obtain ⟨hhigh, hvalue⟩ := Decimal.value?_tenPow_of_ok hunit hlow
    exact ⟨hhigh, unit, hunit, hvalue⟩
  · cases hunit.symm.trans (Decimal.tenPow_of_lt (not_le.1 hlow))
    cases hdiv

theorem rounds_fromBaseUnits (h : t.fromBaseUnits n = .ok d) (m : Int) :
    ∃ r, t.fromBaseUnits m = Amount.ofResult r ∧ Decimal.Rounds r (t.quantity m) := by
  obtain ⟨-, unit, hunit, hvalue⟩ := unit_of_shown h
  refine ⟨(Decimal.ofInt m).div unit, ?_, ?_⟩
  · rw [fromBaseUnits, Amount.ofUnits, Amount.unscaled, hunit]
    rfl
  · exact Decimal.rounds_div (Decimal.value?_ofInt m) hvalue (Decimal.ten_zpow_pos _).ne'

theorem value?_of_shown (h : t.fromBaseUnits n = .ok d) : d.value? = some (Decimal.round (t.quantity n)) := by
  obtain ⟨r, hr, hrounds⟩ := rounds_fromBaseUnits h n
  exact hrounds.value? (Amount.ofResult_eq_ok.1 (hr.symm.trans h))

theorem lowestExponent_le (h : t.fromBaseUnits n = .ok d) : Decimal.lowestExponent ≤ -t.decimals := by
  have := (unit_of_shown h).1
  simp only [Decimal.highestAdjusted, Decimal.lowestExponent] at *
  omega

theorem value?_of_lt (h : t.fromBaseUnits n = .ok d) (hn : n.natAbs < 10 ^ 28) : d.value? = some (t.quantity n) := by
  rw [value?_of_shown h, quantity_eq_mul, Decimal.round_eq_self hn (lowestExponent_le h)]

theorem quantity_inj : t.quantity n = t.quantity m ↔ n = m := by
  rw [quantity, quantity, div_left_inj' (Decimal.ten_zpow_pos _).ne', Int.cast_inj]

theorem quantity_lt_iff : t.quantity n < t.quantity m ↔ n < m := by
  rw [quantity, quantity, div_lt_div_iff_of_pos_right (Decimal.ten_zpow_pos _), Int.cast_lt]

theorem lt_of_shown (h : t.fromBaseUnits n = .ok d) (hd : ∀ q, d.value? = some q → q < t.quantity (10 ^ 28)) :
    n < 10 ^ 28 := by
  by_contra hle
  have hshift : t.quantity (10 ^ 28) = ((10 ^ 27 : ℤ) : ℚ) * 10 ^ (-t.decimals + 1) := by
    rw [quantity_eq_mul, zpow_add_one₀ (by norm_num)]
    push_cast
    ring
  have hround : t.quantity (10 ^ 28) ≤ Decimal.round (t.quantity n) := by
    rw [hshift]
    apply Decimal.le_round_of_le (by decide)
    · have := lowestExponent_le h
      omega
    · rw [← hshift]
      exact not_lt.1 (mt quantity_lt_iff.1 hle)
  exact absurd (hd _ (value?_of_shown h)) (not_lt.2 hround)

theorem spans_of_shown (h : t.fromBaseUnits n = .ok d) : t.Spans n.natAbs := by
  intro m hm
  obtain ⟨r, hr, hrounds⟩ := rounds_fromBaseUnits h m
  obtain ⟨r₀, hr₀, hrounds₀⟩ := rounds_fromBaseUnits h n
  have hsize : |t.quantity m| ≤ |t.quantity n| := by
    rw [quantity_eq_mul, quantity_eq_mul, abs_mul, abs_mul, ← Int.cast_abs, ← Int.cast_abs, Int.abs_eq_natAbs,
      Int.abs_eq_natAbs]
    exact mul_le_mul_of_nonneg_right (Int.cast_le.2 (Int.ofNat_le.2 hm)) (abs_nonneg _)
  obtain ⟨x, hx⟩ := hrounds₀.ok_of_abs_le (Amount.ofResult_eq_ok.1 (hr₀.symm.trans h)) hrounds hsize
  exact ⟨x, hr.trans (Amount.ofResult_eq_ok.2 hx)⟩

end Token

end LedgerFlow
