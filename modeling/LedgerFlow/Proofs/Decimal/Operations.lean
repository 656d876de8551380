import LedgerFlow.Proofs.Decimal.Rounding

namespace LedgerFlow.Decimal

/-- What an operation gives when its exact result is known. -/
def Rounds (r : Except Signal Decimal) (q : ℚ) : Prop :=
  if |round q| < 10 ^ (highestAdjusted + 1) then ∃ x, r = .ok x ∧ x.value? = some (round q) else r = .error .overflow

section

variable {s t : Bool} {c d : Nat} {e f : Int} {a b x : Decimal} {p q : ℚ} {g : Signal} {r : Except Signal Decimal}

theorem Rounds.value? (h : Rounds r q) (hr : r = .ok x) : x.value? = some (round q) := by
  unfold Rounds at h
  split at h
  · obtain ⟨y, hy, hvalue⟩ := h
    cases hr.symm.trans hy
    exact hvalue
  · cases hr.symm.trans h

theorem Rounds.overflow (h : Rounds r q) (hr : r = .error g) : g = .overflow := by
  unfold Rounds at h
  split at h
  · obtain ⟨y, hy, -⟩ := h
    cases hr.symm.trans hy
  · cases hr.symm.trans h
    rfl

theorem Rounds.ok_of_le (h : Rounds r q) (hq : |q| ≤ 10 ^ highestAdjusted) :
    ∃ x, r = .ok x ∧ x.value? = some (round q) := by
  have hpow : round (10 ^ highestAdjusted) = 10 ^ highestAdjusted := by
    simpa using round_eq_self (n := 1) (u := highestAdjusted) (by decide) (by decide)
  have hround : |round q| ≤ 10 ^ highestAdjusted := by
    rw [abs_le] at hq ⊢
    rw [← hpow, ← round_neg]
    exact ⟨round_mono hq.1, round_mono hq.2⟩
  rw [Rounds, if_pos] at h
  · exact h
  · exact hround.trans_lt (zpow_lt_zpow_right₀ (by norm_num) (lt_add_one _))

theorem Rounds.exact {n : ℤ} {u : Int} (h : Rounds r ((n : ℚ) * 10 ^ u)) (hn : n.natAbs < pow10 precision)
    (hlow : lowestExponent ≤ u) (hhigh : u ≤ highestAdjusted - precision) :
    ∃ x, r = .ok x ∧ x.value? = some ((n : ℚ) * 10 ^ u) := by
  have hcast : |(n : ℚ)| ≤ 10 ^ (precision : ℤ) := by
    rw [← cast_pow10, ← Int.cast_abs, Int.abs_eq_natAbs]
    exact_mod_cast hn.le
  have hle : |(n : ℚ) * 10 ^ u| ≤ 10 ^ highestAdjusted := by
    rw [abs_mul, abs_of_pos (ten_zpow_pos u)]
    calc |(n : ℚ)| * 10 ^ u ≤ 10 ^ (precision : ℤ) * 10 ^ u := mul_le_mul_of_nonneg_right hcast (ten_zpow_pos u).le
      _ = 10 ^ (precision + u) := (zpow_add₀ (by norm_num) _ _).symm
      _ ≤ 10 ^ highestAdjusted := zpow_le_zpow_right₀ (by norm_num) (by omega)
  rw [← round_eq_self hn hlow]
  exact h.ok_of_le hle

theorem Rounds.congr (h : Rounds r p) (heq : round p = round q) : Rounds r q := by
  unfold Rounds at *
  rwa [← heq]

theorem ratio_natAbs (n : ℤ) (e : Int) : ratio (decide (n < 0)) n.natAbs e = n * 10 ^ e := by
  by_cases hn : n < 0
  · simp [hn, Nat.cast_natAbs, abs_of_neg hn]
  · simp [hn, Nat.cast_natAbs, abs_of_nonneg (Int.not_lt.1 hn)]

theorem abs_ratio : |ratio s c e| = c * 10 ^ e := by
  have : (0 : ℚ) ≤ c * 10 ^ e := mul_nonneg (Nat.cast_nonneg c) (ten_zpow_pos e).le
  cases s <;> simp [abs_of_nonneg this]

theorem dropDigits_eq (c k : Nat) : dropDigits c k = divHalfEven c (pow10 k) := by
  unfold dropDigits
  split
  · next hk =>
    -- There are only zeros in the places that are kept.
    have hc : c < pow10 (k - 1) := (lt_pow10_digitCount c).trans_le (pow10_le_pow10 (by omega))
    have hpow : pow10 k = pow10 (k - 1) * 10 := by rw [← pow10_succ, Nat.sub_add_cancel (by omega)]
    rw [divHalfEven, Nat.div_eq_of_lt (by omega), Nat.mod_eq_of_lt (by omega), if_pos (by omega)]
  · rfl

theorem roundMagnitude_mul_zpow (hc : c ≠ 0) {unit : Int}
    (hunit : unit = max e (max (digitCount c + e - precision) lowestExponent)) :
    roundMagnitude (c * 10 ^ e) = (if unit = e then c else dropDigits c (unit - e).toNat : Nat) * 10 ^ unit := by
  have hplace : unit = max e (unitOf (c * 10 ^ e)) := by
    rw [hunit, unitOf, log_mul_zpow hc, adjusted]
    congr 2
    omega
  split
  · next heq =>
    rw [heq, ← Int.cast_natCast]
    apply roundMagnitude_eq_self
    rw [Int.cast_natCast]
    omega
  · have hgrid : unitOf ((c : ℚ) * 10 ^ e) = unit := by omega
    have hscale : (c * 10 ^ e : ℚ) / 10 ^ unit = c / (pow10 (unit - e).toNat : Nat) := by
      rw [cast_pow10, Int.toNat_of_nonneg (by omega), zpow_sub₀ (by norm_num)]
      field_simp
    rw [roundMagnitude, hgrid, hscale, roundEven_div (pow10_pos _), dropDigits_eq]
    rfl

theorem round_ratio_eq (hd : (d * 10 ^ f : ℚ) = roundMagnitude (c * 10 ^ e)) : ratio s d f = round (ratio s c e) := by
  have hnonneg : (0 : ℚ) ≤ c * 10 ^ e := mul_nonneg (Nat.cast_nonneg c) (ten_zpow_pos e).le
  cases s with
  | false => rw [ratio_false, ratio_false, round_of_nonneg hnonneg, hd]
  | true => rw [ratio_true, ratio_true, round_neg, round_of_nonneg hnonneg, hd]

theorem rounds_of_kept (hd : d ≠ 0 ∨ f ≤ highestAdjusted) (hvalue : (d * 10 ^ f : ℚ) = roundMagnitude (c * 10 ^ e)) :
    Rounds (if highestAdjusted < adjusted d f then .error .overflow else .ok (.finite s d f)) (ratio s c e) := by
  have hrange : |round (ratio s c e)| < 10 ^ (highestAdjusted + 1) ↔ ¬highestAdjusted < adjusted d f := by
    rw [← round_ratio_eq hvalue, abs_ratio]
    by_cases hzero : d = 0
    · subst hzero
      have hf := hd.resolve_left (by simp)
      have hsmall : ¬highestAdjusted < adjusted 0 f := by
        rw [adjusted, show digitCount 0 = 1 from rfl]
        omega
      simp only [Nat.cast_zero, zero_mul, hsmall, not_false_iff, iff_true]
      exact ten_zpow_pos _
    · have hpos : (0 : ℚ) < d * 10 ^ f := mul_pos (Nat.cast_pos.2 (Nat.pos_of_ne_zero hzero)) (ten_zpow_pos f)
      rw [lt_ten_zpow_iff hpos, log_mul_zpow hzero]
      omega
  unfold Rounds
  split
  · next h =>
    rw [if_neg (hrange.1 h)]
    exact ⟨_, rfl, congrArg some (round_ratio_eq hvalue)⟩
  · next h => rw [if_pos (not_not.1 (mt hrange.2 h))]

theorem rounds_finish (s : Bool) (c : Nat) (e : Int) : Rounds (finish s c e) (ratio s c e) := by
  unfold finish
  split
  · next hc =>
    rw [hc, Rounds, ratio_zero, round_zero, abs_zero, if_pos (ten_zpow_pos _)]
    exact ⟨_, rfl, congrArg some ratio_zero⟩
  · next hc =>
    extract_lets unit kept
    have hvalue : (kept * 10 ^ unit : ℚ) = roundMagnitude (c * 10 ^ e) := (roundMagnitude_mul_zpow hc rfl).symm
    by_cases hfull : kept = pow10 precision
    · simp only [hfull, if_true]
      apply rounds_of_kept (.inl (pow10_pos _).ne')
      rw [← hvalue, hfull, cast_pow10, cast_pow10, ← zpow_add₀ (by norm_num), ← zpow_add₀ (by norm_num)]
      congr 1
      simp only [precision]
      omega
    · simp only [hfull, if_false]
      apply rounds_of_kept _ hvalue
      -- Only what is far below the least unit leaves no digits.
      by_cases hunit : unit ≤ highestAdjusted
      · exact .inr hunit
      · left
        simp only [kept]
        split
        · exact hc
        · have hk : (unit - e).toNat < digitCount c := by
            simp only [unit, lowestExponent, highestAdjusted, precision] at *
            omega
          have hlow : pow10 (unit - e).toNat ≤ c :=
            (pow10_le_pow10 (by omega)).trans (pow10_le_of_digitCount hc)
          rw [dropDigits_eq]
          have := Nat.div_pos hlow (pow10_pos _)
          unfold divHalfEven
          dsimp only
          split_ifs <;> omega

theorem rounds_addAligned (h : f ≤ e) : Rounds (addAligned s c e t d f) (ratio s c e + ratio t d f) := by
  have hd : (signedCoefficient t d 0 : ℚ) * 10 ^ f = ratio t d f := by
    simpa using signedCoefficient_mul (le_refl f) t d
  rw [← signedCoefficient_mul h, ← hd, ← add_mul, ← Int.cast_add]
  unfold addAligned
  extract_lets sum
  convert rounds_finish _ sum.natAbs f using 1
  split
  · next hsum => simp [sum, hsum]
  · exact (ratio_natAbs sum f).symm

theorem sticky_cell (hc : c ≠ 0) (e : Int) :
    ∃ cell : Nat, (c * 10 ^ e : ℚ) = cell * (5 * 10 ^ stickyExponent c e) ∧ 2 * 10 ^ 28 ≤ cell := by
  obtain ⟨k, hk, hcount⟩ : ∃ k : Nat, e = stickyExponent c e + 1 + k ∧ 29 ≤ digitCount c + k := by
    have hpos := digitCount_pos c
    unfold stickyExponent
    by_cases hdigits : digitCount c ≤ precision
    · rw [if_pos hdigits]
      simp only [precision] at *
      exact ⟨29 - digitCount c, by omega, by omega⟩
    · rw [if_neg hdigits]
      simp only [precision] at *
      exact ⟨0, by omega, by omega⟩
  refine ⟨2 * (c * 10 ^ k), ?_, ?_⟩
  · conv_lhs => rw [hk, zpow_add₀ (by norm_num), zpow_add₀ (by norm_num), zpow_natCast]
    push_cast
    ring
  · have hlead : 10 ^ (digitCount c - 1 + k) ≤ c * 10 ^ k := by
      rw [pow_add]
      exact Nat.mul_le_mul_right _ (pow10_le_of_digitCount hc)
    have hlarge : 10 ^ 28 ≤ 10 ^ (digitCount c - 1 + k) := Nat.pow_le_pow_right (by decide) (by omega)
    omega

/-- Far below the last place that is kept, any two numbers tell the rounding the same. -/
theorem round_add_sticky (hc : c ≠ 0) (hp : 0 < p) (hp' : p ≤ 10 ^ stickyExponent c e) (hq : 0 < q)
    (hq' : q ≤ 10 ^ stickyExponent c e) :
    round (c * 10 ^ e + p) = round (c * 10 ^ e + q) ∧ round (c * 10 ^ e - p) = round (c * 10 ^ e - q) := by
  obtain ⟨cell, hcell, hlarge⟩ := sticky_cell hc e
  have hunit := ten_zpow_pos (stickyExponent c e)
  have hhalf := half_pos (stickyExponent c e)
  have hsmall : ∀ {z : ℚ}, 0 < z → z ≤ 10 ^ stickyExponent c e →
      0 < z / (5 * 10 ^ stickyExponent c e) ∧ z / (5 * 10 ^ stickyExponent c e) < 1 := by
    intro z hz hz'
    refine ⟨div_pos hz hhalf, (div_lt_one hhalf).2 ?_⟩
    linarith
  have habove : ∀ {z : ℚ}, 0 < z → z ≤ 10 ^ stickyExponent c e →
      InCell cell (stickyExponent c e) (c * 10 ^ e + z) := by
    intro z hz hz'
    obtain ⟨hz, hz'⟩ := hsmall hz hz'
    rw [hcell, InCell, add_div, mul_div_cancel_right₀ _ hhalf.ne']
    exact ⟨by linarith, by linarith⟩
  have hbelow : ∀ {z : ℚ}, 0 < z → z ≤ 10 ^ stickyExponent c e →
      InCell (cell - 1) (stickyExponent c e) (c * 10 ^ e - z) := by
    intro z hz hz'
    obtain ⟨hz, hz'⟩ := hsmall hz hz'
    rw [hcell, InCell, sub_div, mul_div_cancel_right₀ _ hhalf.ne', Nat.cast_sub (by omega), Nat.cast_one]
    exact ⟨by linarith, by linarith⟩
  have hle : (10 : ℚ) ^ stickyExponent c e ≤ c * 10 ^ e := by
    have : (2 * 10 ^ 28 : ℚ) ≤ cell := by exact_mod_cast hlarge
    rw [hcell]
    nlinarith
  constructor
  · rw [round_of_nonneg (by linarith), round_of_nonneg (by linarith)]
    exact roundMagnitude_of_inCell (habove hp hp') (habove hq hq') (by omega)
  · rw [round_of_nonneg (by linarith), round_of_nonneg (by linarith)]
    exact roundMagnitude_of_inCell (hbelow hp hp') (hbelow hq hq') (by omega)

theorem round_add_ratio_sticky (hc : c ≠ 0) (hp : 0 < (d * 10 ^ f : ℚ))
    (hp' : (d * 10 ^ f : ℚ) ≤ 10 ^ stickyExponent c e) :
    round (ratio s c e + ratio t 1 (stickyExponent c e)) = round (ratio s c e + ratio t d f) := by
  obtain ⟨hadd, hsub⟩ := round_add_sticky hc (ten_zpow_pos (stickyExponent c e)) le_rfl hp hp'
  cases s <;> cases t <;> simp only [ratio_false, ratio_true, Nat.cast_one, one_mul]
  · exact hadd
  · rwa [← sub_eq_add_neg, ← sub_eq_add_neg]
  · rw [neg_add_eq_sub, neg_add_eq_sub, ← neg_sub, round_neg, ← neg_sub _ (d * 10 ^ f : ℚ), round_neg, hsub]
  · rw [← neg_add, ← neg_add, round_neg, round_neg, hadd]

theorem rounds_addOrdered (h : f ≤ e) : Rounds (addOrdered s c e t d f) (ratio s c e + ratio t d f) := by
  unfold addOrdered
  split
  · next hc =>
    convert rounds_finish _ d f using 1
    rw [hc, ratio_zero, zero_add]
    split
    · next hd => simp [hd]
    · rfl
  · next hc =>
    extract_lets sticky
    split
    · next hfar =>
      simp only [Bool.and_eq_true, decide_eq_true_eq] at hfar
      have hsticky : sticky ≤ e := by
        have hpos := digitCount_pos c
        simp only [sticky, stickyExponent]
        split
        · next hdigits =>
          simp only [precision] at *
          omega
        · exact (sub_one_lt e).le
      by_cases hd : d = 0
      · simpa [hd] using rounds_addAligned (s := s) (c := c) (t := t) (d := 0) hsticky
      · have hpos : (0 : ℚ) < d * 10 ^ f := mul_pos (Nat.cast_pos.2 (Nat.pos_of_ne_zero hd)) (ten_zpow_pos f)
        have hbelow : (d * 10 ^ f : ℚ) ≤ 10 ^ sticky := by
          apply le_of_lt
          rw [lt_ten_zpow_iff hpos, log_mul_zpow hd]
          exact hfar.2
        rw [if_neg hd]
        exact (rounds_addAligned hsticky).congr (round_add_ratio_sticky hc hpos hbelow)
    · exact rounds_addAligned h

theorem rounds_add (ha : a.value? = some p) (hb : b.value? = some q) : Rounds (a.add b) (p + q) := by
  obtain ⟨s, c, e, rfl, rfl⟩ := value?_eq_some.1 ha
  obtain ⟨t, d, f, rfl, rfl⟩ := value?_eq_some.1 hb
  rw [add]
  split
  · next h => exact rounds_addOrdered h
  · next h =>
    rw [add_comm]
    exact rounds_addOrdered (le_of_not_ge h)

theorem rounds_sub (ha : a.value? = some p) (hb : b.value? = some q) : Rounds (a.sub b) (p - q) := by
  obtain ⟨t, d, f, rfl, rfl⟩ := value?_eq_some.1 hb
  rw [sub_eq_add_neg]
  exact rounds_add ha (value?_neg hb)

theorem ratio_mul : ratio (s != t) (c * d) (e + f) = ratio s c e * ratio t d f := by
  have hpow : (10 : ℚ) ^ (e + f) = 10 ^ e * 10 ^ f := zpow_add₀ (by norm_num) e f
  cases s <;> cases t <;> simp [hpow] <;> ring

theorem rounds_mul (ha : a.value? = some p) (hb : b.value? = some q) : Rounds (a.mul b) (p * q) := by
  obtain ⟨s, c, e, rfl, rfl⟩ := value?_eq_some.1 ha
  obtain ⟨t, d, f, rfl, rfl⟩ := value?_eq_some.1 hb
  rw [← ratio_mul]
  exact rounds_finish _ _ _

theorem value?_maximum (ha : a.value? = some p) (hb : b.value? = some q) :
    ∃ x, a.maximum b = .ok x ∧ x.value? = some (max p q) := by
  unfold maximum order
  rw [order?_eq_compare hb ha]
  by_cases h : p < q
  · refine ⟨b, ?_, by rw [hb, max_eq_right h.le]⟩
    rw [compare_gt_iff_gt.2 h]
    rfl
  · refine ⟨a, ?_, by rw [ha, max_eq_left (not_lt.1 h)]⟩
    have : compare q p ≠ .gt := fun hgt => h (compare_gt_iff_gt.1 hgt)
    cases hcompare : compare q p with
    | gt => exact absurd hcompare this
    | lt => rfl
    | eq => rfl

end

end LedgerFlow.Decimal
