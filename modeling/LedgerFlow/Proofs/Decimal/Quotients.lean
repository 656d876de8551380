import LedgerFlow.Proofs.Decimal.Operations

namespace LedgerFlow.Decimal

section

variable {s : Bool} {c d : Nat} {e f : Int} {a b : Decimal} {p q : ℚ}

theorem absorbZeros_value (ideal : Int) (k c : Nat) (e : Int) :
    ((absorbZeros ideal k c e).1 : ℚ) * 10 ^ (absorbZeros ideal k c e).2 = c * 10 ^ e := by
  induction k generalizing c e with
  | zero => rfl
  | succ k ih =>
    unfold absorbZeros
    split
    · next h =>
      simp only [Bool.and_eq_true, decide_eq_true_eq, beq_iff_eq, bne_iff_ne] at h
      have hten : (c : ℚ) = (c / 10 : Nat) * 10 := by
        exact_mod_cast (Nat.div_mul_cancel (Nat.dvd_of_mod_eq_zero h.1.2)).symm
      rw [ih, zpow_add_one₀ (by norm_num), hten]
      ring
    · rfl

theorem le_quotient (hc : c ≠ 0) (hd : d ≠ 0) {shift : Int}
    (hshift : shift = (digitCount d : Int) - digitCount c + precision + 1) :
    10 ^ 28 ≤ c * pow10 shift.toNat / (d * pow10 (-shift).toNat) := by
  have hdpos : 0 < d * pow10 (-shift).toNat := Nat.mul_pos (Nat.pos_of_ne_zero hd) (pow10_pos _)
  rw [Nat.le_div_iff_mul_le hdpos]
  have hexp : 28 + (digitCount d + (-shift).toNat) = digitCount c - 1 + shift.toNat := by
    have := digitCount_pos c
    simp only [precision] at hshift
    omega
  calc 10 ^ 28 * (d * pow10 (-shift).toNat) ≤ pow10 28 * (pow10 (digitCount d) * pow10 (-shift).toNat) :=
        Nat.mul_le_mul_left _ (Nat.mul_le_mul_right _ (lt_pow10_digitCount d).le)
    _ = pow10 (digitCount c - 1) * pow10 shift.toNat := by rw [← pow10_add, ← pow10_add, ← pow10_add, hexp]
    _ ≤ c * pow10 shift.toNat := Nat.mul_le_mul_right _ (pow10_le_of_digitCount hc)

theorem quotient_value (c : Nat) (e : Int) (d : Nat) (f shift : Int) :
    (c * 10 ^ e : ℚ) / (d * 10 ^ f) =
      (c * pow10 shift.toNat : Nat) / (d * pow10 (-shift).toNat : Nat) * 10 ^ (e - f - shift) := by
  have hpow : ((pow10 shift.toNat : Nat) : ℚ) = 10 ^ shift * (pow10 (-shift).toNat : Nat) := by
    rw [cast_pow10, cast_pow10, ← zpow_add₀ (by norm_num)]
    congr 1
    omega
  have hpos : ((pow10 (-shift).toNat : Nat) : ℚ) ≠ 0 := Nat.cast_ne_zero.2 (pow10_pos _).ne'
  rw [Nat.cast_mul, Nat.cast_mul, hpow, zpow_sub₀ (by norm_num), zpow_sub₀ (by norm_num), mul_div_mul_comm,
    mul_div_assoc (c : ℚ), mul_div_mul_comm]
  field_simp

theorem round_quotient {n m : Nat} (hlarge : 10 ^ 28 ≤ n / m) (hrest : n % m ≠ 0) (e : Int) :
    roundMagnitude ((if n / m % 5 = 0 then n / m + 1 else n / m : Nat) * 10 ^ e) = roundMagnitude (n / m * 10 ^ e) := by
  have hm : 0 < m := Nat.pos_of_ne_zero fun h => by simp [h] at hlarge
  have hmpos : (0 : ℚ) < m := Nat.cast_pos.2 hm
  have hunit := ten_zpow_pos e
  have hscale : ∀ z : ℚ, z * 10 ^ e / (5 * 10 ^ e) = z / 5 := fun z => mul_div_mul_right z 5 hunit.ne'
  have hcell := Nat.div_add_mod (n / m) 5
  have hmod := Nat.mod_lt (n / m) (show 0 < 5 by decide)
  refine roundMagnitude_of_inCell (?_ : InCell (n / m / 5) e _) ?_ (by omega)
  · rw [InCell, hscale, lt_div_iff₀ (by norm_num), div_lt_iff₀ (by norm_num)]
    generalize hq' : (if n / m % 5 = 0 then n / m + 1 else n / m) = q'
    have : n / m / 5 * 5 < q' ∧ q' < (n / m / 5 + 1) * 5 := by
      rw [← hq']
      split <;> omega
    exact_mod_cast this
  · rw [InCell, hscale, lt_div_iff₀ (by norm_num), div_lt_iff₀ (by norm_num), lt_div_iff₀ hmpos, div_lt_iff₀ hmpos]
    have hn := Nat.div_add_mod n m
    have hmod' := Nat.mod_lt n hm
    constructor
    · have : n / m / 5 * 5 * m ≤ m * (n / m) := by
        rw [mul_comm m]
        exact Nat.mul_le_mul_right _ (by omega)
      exact_mod_cast (by omega : n / m / 5 * 5 * m < n)
    · have : m * (n / m) + m ≤ (n / m / 5 + 1) * 5 * m := by
        calc m * (n / m) + m = (n / m + 1) * m := by ring
          _ ≤ (n / m / 5 + 1) * 5 * m := Nat.mul_le_mul_right _ (by omega)
      exact_mod_cast (by omega : n < (n / m / 5 + 1) * 5 * m)

theorem rounds_divFinite (hd : d ≠ 0) : Rounds (divFinite s c e d f) (ratio s c e / (d * 10 ^ f)) := by
  unfold divFinite
  extract_lets ideal shift n m q
  have hsign : ∀ z : ℚ, z = c * 10 ^ e / (d * 10 ^ f) →
      (if s then -z else z) = ratio s c e / (d * 10 ^ f) := by
    rintro z rfl
    cases s <;> simp [neg_div]
  split
  · next hc => simpa [hc] using rounds_finish s 0 ideal
  · next hc =>
    have hvalue := quotient_value c e d f shift
    have hm : (m : ℚ) ≠ 0 := Nat.cast_ne_zero.2 (Nat.mul_pos (Nat.pos_of_ne_zero hd) (pow10_pos _)).ne'
    split
    · next hexact =>
      have hq : (n : ℚ) / m = q := by
        rw [div_eq_iff hm]
        exact_mod_cast (Nat.div_mul_cancel (Nat.dvd_of_mod_eq_zero hexact)).symm
      have habsorb := absorbZeros_value ideal (digitCount q) q (ideal - shift)
      generalize absorbZeros ideal (digitCount q) q (ideal - shift) = kept at habsorb
      convert rounds_finish s kept.1 kept.2 using 1
      rw [← hsign (kept.1 * 10 ^ kept.2) (by rw [habsorb, hvalue, ← hq])]
      cases s <;> simp
    · next hrest =>
      refine (rounds_finish s _ (ideal - shift)).congr ?_
      have hround := round_quotient (le_quotient hc hd rfl) hrest (ideal - shift)
      have hdigits : ∀ k : Nat, (0 : ℚ) ≤ k * 10 ^ (ideal - shift) := fun k =>
        mul_nonneg (Nat.cast_nonneg k) (ten_zpow_pos _).le
      have hexact : (0 : ℚ) ≤ n / m * 10 ^ (ideal - shift) :=
        mul_nonneg (div_nonneg (Nat.cast_nonneg n) (Nat.cast_nonneg m)) (ten_zpow_pos _).le
      rw [← round_of_nonneg (hdigits _), ← round_of_nonneg hexact] at hround
      rw [← hsign _ hvalue.symm]
      cases s with
      | false => exact hround
      | true =>
        rw [ratio_true, round_neg, hround, ← round_neg]
        rfl

theorem rounds_div (ha : a.value? = some p) (hb : b.value? = some q) (hq : q ≠ 0) : Rounds (a.div b) (p / q) := by
  obtain ⟨s, c, e, rfl, rfl⟩ := value?_eq_some.1 ha
  obtain ⟨t, d, f, rfl, rfl⟩ := value?_eq_some.1 hb
  have hd : d ≠ 0 := by
    rintro rfl
    exact hq ratio_zero
  rw [div, if_neg hd]
  convert rounds_divFinite hd using 1
  cases s <;> cases t <;> simp [neg_div, div_neg]

theorem value?_tenPow {n : Int} (hn : 0 ≤ n) (hle : n ≤ highestAdjusted) :
    ∃ x, tenPow n = .ok x ∧ x.value? = some (10 ^ n) := by
  unfold tenPow
  split
  · refine ⟨_, rfl, ?_⟩
    rw [value?_finite, ratio_false, cast_pow10, Int.toNat_of_nonneg hn, zpow_zero, mul_one]
  · rw [if_neg (not_lt.2 hle)]
    refine ⟨_, rfl, ?_⟩
    rw [value?_finite, ratio_false, cast_pow10, ← zpow_add₀ (by norm_num)]
    congr 2
    simp only [precision]
    omega

theorem floor_mul_zpow (c : Nat) (e : Int) : ⌊(c * 10 ^ e : ℚ)⌋ = truncateMagnitude c e := by
  unfold truncateMagnitude
  split
  · next he =>
    have hwhole : (c * 10 ^ e : ℚ) = (c * pow10 e.toNat : Nat) := by
      rw [Nat.cast_mul, cast_pow10, Int.toNat_of_nonneg he]
    rw [hwhole, Int.floor_natCast]
  · next he =>
    have hfraction : (c * 10 ^ e : ℚ) = c / (pow10 (-e).toNat : Nat) := by
      rw [cast_pow10, Int.toNat_of_nonneg (by omega), zpow_neg, div_inv_eq_mul]
    rw [hfraction, Rat.floor_natCast_div_natCast]
    split
    · next hdigits =>
      exact congrArg _ (Nat.div_eq_of_lt ((lt_pow10_digitCount c).trans_le (pow10_le_pow10 hdigits)))
    · rfl

theorem truncate_of_nonneg (h : 0 ≤ ratio s c e) : truncate s c e = ⌊ratio s c e⌋ := by
  cases s with
  | false => exact (floor_mul_zpow c e).symm
  | true =>
    -- The only one with a minus sign is zero.
    have hnonneg : (0 : ℚ) ≤ c * 10 ^ e := mul_nonneg (Nat.cast_nonneg c) (ten_zpow_pos e).le
    rw [ratio_true] at *
    have hzero : (c * 10 ^ e : ℚ) = 0 := by linarith
    have hfloor := floor_mul_zpow c e
    rw [hzero, Int.floor_zero] at hfloor
    rw [truncate, hzero, ← hfloor]
    simp

theorem truncateMagnitude_eq_iff (hc : c ≠ 0) :
    (truncateMagnitude c e : ℚ) = c * 10 ^ e ↔
      (0 ≤ e || c = 0 || (digitCount c > (-e).toNat && c % pow10 (-e).toNat = 0)) = true := by
  simp only [hc, Bool.or_eq_true, Bool.and_eq_true, decide_eq_true_eq, or_false]
  unfold truncateMagnitude
  by_cases he : 0 ≤ e
  · simp [he, cast_pow10]
  · have hpos := pow10_pos (-e).toNat
    have hpow : (10 : ℚ) ^ e * (pow10 (-e).toNat : Nat) = 1 := by
      rw [cast_pow10, ← zpow_add₀ (by norm_num), show e + ((-e).toNat : Int) = 0 by omega, zpow_zero]
    have hscale : ∀ k : Nat, (k : ℚ) = c * 10 ^ e ↔ k * pow10 (-e).toNat = c := by
      intro k
      rw [← mul_left_inj' (Nat.cast_ne_zero.2 hpos.ne' : ((pow10 (-e).toNat : Nat) : ℚ) ≠ 0), mul_assoc (c : ℚ), hpow]
      rw [mul_one]
      exact_mod_cast Iff.rfl
    rw [if_neg he, hscale, or_iff_right he]
    split
    · next hdigits =>
      rw [zero_mul]
      exact iff_of_false hc.symm fun h => not_lt.2 hdigits h.1
    · next hdigits =>
      rw [and_iff_right (not_le.1 hdigits)]
      exact ⟨fun h => h ▸ Nat.mul_mod_left _ _, fun h => Nat.div_mul_cancel (Nat.dvd_of_mod_eq_zero h)⟩

theorem ceiling_of_nonneg (h : 0 ≤ ratio s c e) : ceiling s c e = ⌈ratio s c e⌉ := by
  have hfloor := floor_mul_zpow c e
  by_cases hc : c = 0
  · subst hc
    have hzero : truncateMagnitude 0 e = 0 := by simpa using hfloor.symm
    cases s <;> simp [ceiling, truncate, hzero]
  · have hpos : (0 : ℚ) < c * 10 ^ e := mul_pos (Nat.cast_pos.2 (Nat.pos_of_ne_zero hc)) (ten_zpow_pos e)
    cases s with
    | true =>
      rw [ratio_true] at h
      linarith
    | false =>
      obtain ⟨hlow, hhigh⟩ := Int.floor_eq_iff.1 hfloor
      rw [Int.cast_natCast] at hlow hhigh
      have hexact := truncateMagnitude_eq_iff (e := e) hc
      unfold ceiling
      simp only [Bool.false_eq_true, if_false, ratio_false]
      split
      · next h => rw [← hexact.2 h, Int.ceil_natCast]
      · next h =>
        rw [eq_comm, Int.ceil_eq_iff]
        push_cast
        refine ⟨?_, hhigh.le⟩
        rw [add_sub_cancel_right]
        exact lt_of_le_of_ne hlow (mt hexact.1 h)

end

end LedgerFlow.Decimal
