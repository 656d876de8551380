import LedgerFlow.Amount
import LedgerFlow.Proofs.Decimal.Quotients

/-!
Integer parts of rounded numbers. What is brought to an integer was rounded to 28 digits before. Its integer part is that
of the exact number unless the rounding carries over to the next integer, or drops digits in front of the point.
-/

namespace LedgerFlow.Decimal

section

variable {p q : ℚ} {s : Bool} {c : Nat} {e : Int} {a : Decimal}

def wholePart (q : ℚ) : ℤ := if q < 0 then ⌈q⌉ else ⌊q⌋

theorem wholePart_of_nonneg (h : 0 ≤ q) : wholePart q = ⌊q⌋ := if_neg (not_lt.2 h)

@[simp] theorem wholePart_intCast (n : ℤ) : wholePart n = n := by
  simp [wholePart]

theorem wholePart_mono (h : p ≤ q) : wholePart p ≤ wholePart q := by
  unfold wholePart
  split
  · next hp =>
    split
    · exact Int.ceil_mono h
    · next hq => exact (Int.ceil_le.2 (by exact_mod_cast hp.le)).trans (Int.floor_nonneg.2 (not_lt.1 hq))
  · next hp =>
    rw [if_neg (not_lt.2 ((not_lt.1 hp).trans h))]
    exact Int.floor_mono h

theorem truncate_eq (s : Bool) (c : Nat) (e : Int) : truncate s c e = wholePart (ratio s c e) := by
  unfold wholePart
  split
  · next h =>
    cases s with
    | false => exact absurd h (not_lt.2 (mul_nonneg (Nat.cast_nonneg c) (ten_zpow_pos e).le))
    | true =>
      rw [ratio_true, Int.ceil_neg, floor_mul_zpow]
      rfl
  · next h => exact truncate_of_nonneg (not_lt.1 h)

theorem toInt_eq (ha : a.value? = some q) : Amount.toInt a = .ok (wholePart q) := by
  obtain ⟨s, c, e, rfl, rfl⟩ := value?_eq_some.1 ha
  exact congrArg Except.ok (truncate_eq s c e)

/-- The number can be written with so many digits, wherever the point stands. -/
def HasDigits (k : ℕ) (q : ℚ) : Prop := ∃ (n : ℤ) (u : ℤ), n.natAbs < 10 ^ k ∧ q = n * 10 ^ u

theorem HasDigits.mul_zpow {k : ℕ} (h : HasDigits k q) (u : ℤ) : HasDigits k (q * 10 ^ u) := by
  obtain ⟨n, v, hn, rfl⟩ := h
  exact ⟨n, v + u, hn, by rw [mul_assoc, ← zpow_add₀ (by norm_num)]⟩

theorem mul_zpow_le {k : ℕ} {n u : ℤ} (hn : n.natAbs < 10 ^ k) : (n * 10 ^ u : ℚ) ≤ 10 ^ (k + u) := by
  have hcast : (n : ℚ) ≤ 10 ^ (k : ℤ) := by
    rw [zpow_natCast]
    exact_mod_cast (by omega : n ≤ (10 ^ k : ℕ))
  rw [zpow_add₀ (by norm_num)]
  exact mul_le_mul_of_nonneg_right hcast (ten_zpow_pos u).le

theorem HasDigits.round_eq (h : HasDigits 28 q) (hq : 10 ^ (lowestExponent + 28) ≤ q) : round q = q := by
  obtain ⟨n, u, hn, rfl⟩ := h
  have hpow := hq.trans (mul_zpow_le hn)
  rw [zpow_le_zpow_iff_right₀ (by norm_num)] at hpow
  exact round_eq_self hn (by omega)

theorem floor_round_of_hasDigits (hq : 0 ≤ q) (h : HasDigits 28 q) : ⌊round q⌋ = ⌊q⌋ := by
  obtain ⟨n, u, hn, rfl⟩ := h
  by_cases hu : lowestExponent ≤ u
  · rw [round_eq_self hn hu]
  · have hsmall : (n * 10 ^ u : ℚ) ≤ (1 : ℤ) * 10 ^ (-1 : ℤ) := by
      calc (n * 10 ^ u : ℚ) ≤ 10 ^ ((28 : ℕ) + u) := mul_zpow_le hn
        _ ≤ 10 ^ (-1 : ℤ) := by
            apply zpow_le_zpow_right₀ (by norm_num)
            simp only [lowestExponent] at hu
            omega
        _ = (1 : ℤ) * 10 ^ (-1 : ℤ) := by simp
    have hround := round_le_of_le (by decide) (by decide) hsmall
    have htenth : (((1 : ℤ) : ℚ) * 10 ^ (-1 : ℤ)) < 1 := by norm_num
    rw [Int.floor_eq_zero_iff.2 ⟨round_nonneg hq, hround.trans_lt htenth⟩,
      Int.floor_eq_zero_iff.2 ⟨hq, hsmall.trans_lt htenth⟩]

theorem roundEven_of_lt_half {x : ℚ} (h : x - ⌊x⌋ < 1 / 2) : roundEven x = ⌊x⌋ := if_pos h

theorem roundEven_lt_iff {x : ℚ} {m : ℤ} (h : ⌊x⌋ < m) : roundEven x < m ↔ x < m - 1 / 2 ∨ x = m - 1 / 2 ∧ Odd m := by
  have hlow := Int.floor_le x
  have hhigh := Int.lt_floor_add_one x
  obtain hlt | heq := lt_or_eq_of_le (Int.add_one_le_of_lt h)
  · -- Another integer lies between the two.
    have hcast : (⌊x⌋ : ℚ) + 2 ≤ m := by exact_mod_cast (by omega : ⌊x⌋ + 2 ≤ m)
    exact iff_of_true ((roundEven_bounds x).2.trans_lt hlt) (.inl (by linarith))
  · have hcast : (m : ℚ) = ⌊x⌋ + 1 := by exact_mod_cast heq.symm
    have hparity := Int.emod_two_eq ⌊x⌋
    rw [hcast, Int.odd_iff, ← heq]
    unfold roundEven
    split
    · next hless => exact iff_of_true (by omega) (.inl (by linarith))
    · next hless =>
      split
      · next hmore => exact iff_of_false (by omega) (by rintro (hx | ⟨hx, -⟩) <;> linarith)
      · next hmore =>
        have htie : x = ⌊x⌋ + 1 - 1 / 2 := by linarith
        have hnot : ¬x < ⌊x⌋ + 1 - 1 / 2 := not_lt.2 htie.ge
        rw [or_iff_right hnot, and_iff_right htie]
        omega

/-- The weight of the last digit that is kept of a number. -/
def lastPlace (q : ℚ) : ℚ := 10 ^ unitOf q

/-- Rounding leaves the integer part of a number alone. Of less than `10 ^ 28`, the next integer is further off than half
of the last place, or just as far if that is the place of an even number's ones; of more, no digit in front of the point
is dropped. -/
def KeepsWhole (q : ℚ) : Prop :=
  if q < 10 ^ 28 then
    lastPlace q < 2 * (⌊q⌋ + 1 - q) ∨ lastPlace q = 2 * (⌊q⌋ + 1 - q) ∧ lastPlace q = 1 ∧ Even ⌊q⌋
  else ∃ k : ℤ, (⌊q⌋ : ℚ) = k * lastPlace q

theorem floor_lt_of_lt (hlt : q < 10 ^ 28) : ⌊q⌋ < 10 ^ 28 := by
  rw [Int.floor_lt]
  exact_mod_cast hlt

theorem floor_le_floor_round (hq : 0 ≤ q) (hlt : q < 10 ^ 28) : ⌊q⌋ ≤ ⌊round q⌋ := by
  rw [Int.le_floor]
  have hfloor := Int.floor_nonneg.2 hq
  have hfew := floor_lt_of_lt hlt
  have hwhole : (⌊q⌋ : ℚ) = ⌊q⌋ * 10 ^ (0 : ℤ) := by simp
  rw [hwhole]
  apply le_round_of_le
  · have hpow : pow10 precision = 10 ^ 28 := rfl
    omega
  · decide
  · rw [← hwhole]
    exact Int.floor_le q

theorem floor_round_cases (hq : 0 ≤ q) (hlt : q < 10 ^ 28) : ⌊round q⌋ = ⌊q⌋ ∨ ⌊round q⌋ = ⌊q⌋ + 1 := by
  have hle := floor_le_floor_round hq hlt
  have hfloor := Int.floor_nonneg.2 hq
  have hfew := floor_lt_of_lt hlt
  have hnext : round q ≤ (⌊q⌋ + 1 : ℤ) := by
    have hpow : pow10 precision = 10 ^ 28 := rfl
    have hq' : q ≤ (⌊q⌋ + 1 : ℤ) := by
      push_cast
      exact (Int.lt_floor_add_one q).le
    obtain hless | hfull := lt_or_eq_of_le (Int.add_one_le_of_lt hfew)
    · simpa using round_le_of_le (n := ⌊q⌋ + 1) (u := 0) (by omega) (by decide) (by simpa using hq')
    · have hcarry : ((⌊q⌋ + 1 : ℤ) : ℚ) = (10 ^ 27 : ℤ) * 10 ^ (1 : ℤ) := by
        rw [hfull]
        norm_num
      rw [hcarry] at hq' ⊢
      exact round_le_of_le (by decide) (by decide) hq'
  have hupper : ⌊round q⌋ ≤ ⌊q⌋ + 1 := by
    have := Int.floor_le_floor hnext
    rwa [Int.floor_intCast] at this
  omega

theorem unitOf_nonpos (hq : 0 ≤ q) (hlt : q < 10 ^ 28) : unitOf q ≤ 0 := by
  have hlog : Int.log 10 q < 28 := by
    obtain rfl | hpos := hq.eq_or_lt
    · rw [Int.log_zero_right]
      decide
    · exact (lt_ten_zpow_iff hpos).1 (by exact_mod_cast hlt)
  refine max_le ?_ (by decide)
  simp only [precision]
  omega

theorem floor_round_eq_iff_of_lt (hq : 0 ≤ q) (hlt : q < 10 ^ 28) :
    ⌊round q⌋ = ⌊q⌋ ↔
      lastPlace q < 2 * (⌊q⌋ + 1 - q) ∨ lastPlace q = 2 * (⌊q⌋ + 1 - q) ∧ lastPlace q = 1 ∧ Even ⌊q⌋ := by
  obtain ⟨k, hk⟩ := Int.eq_ofNat_of_zero_le (neg_nonneg.2 (unitOf_nonpos hq hlt))
  have hpos : (0 : ℚ) < 10 ^ k := by positivity
  have hplace : lastPlace q * 10 ^ k = 1 := by
    rw [lastPlace, ← zpow_natCast, ← zpow_add₀ (by norm_num), ← hk, add_neg_cancel, zpow_zero]
  have hunit : ∀ x : ℚ, x / 10 ^ unitOf q = x * 10 ^ k := by
    intro x
    rw [div_eq_iff (ten_zpow_pos _).ne', mul_assoc, mul_comm (10 ^ k : ℚ), ← lastPlace, hplace, mul_one]
  -- The next integer, counted in units of the last place.
  obtain ⟨m, hm⟩ : ∃ m : ℤ, m = (⌊q⌋ + 1) * 10 ^ k := ⟨_, rfl⟩
  have hcast : (m : ℚ) = (⌊q⌋ + 1) * 10 ^ k := by
    rw [hm]
    push_cast
    rfl
  have hfloor : ⌊q * 10 ^ k⌋ < m := by
    rw [Int.floor_lt, hcast]
    exact mul_lt_mul_of_pos_right (Int.lt_floor_add_one q) hpos
  have hstays : ⌊round q⌋ = ⌊q⌋ ↔ roundEven (q * 10 ^ k) < m := by
    have hround : round q * 10 ^ k = roundEven (q * 10 ^ k) := by
      rw [round_of_nonneg hq, roundMagnitude, hunit, mul_assoc, ← lastPlace, hplace, mul_one]
    rw [← Int.cast_lt (R := ℚ), hcast, ← hround, mul_lt_mul_iff_of_pos_right hpos, ← Int.cast_one, ← Int.cast_add,
      ← Int.floor_lt]
    have := floor_le_floor_round hq hlt
    omega
  have hless : q * 10 ^ k < m - 1 / 2 ↔ lastPlace q < 2 * (⌊q⌋ + 1 - q) := by
    rw [← mul_lt_mul_iff_of_pos_right hpos (b := lastPlace q), hplace, hcast]
    constructor <;> intro h <;> linarith
  have htie : q * 10 ^ k = m - 1 / 2 ↔ lastPlace q = 2 * (⌊q⌋ + 1 - q) := by
    rw [← mul_left_inj' hpos.ne' (a := lastPlace q), hplace, hcast]
    constructor <;> intro h <;> linarith
  have hodd : Odd m ↔ lastPlace q = 1 ∧ Even ⌊q⌋ := by
    cases k with
    | zero =>
      rw [pow_zero, mul_one] at hplace hm
      rw [hm, ← Int.not_even_iff_odd, Int.even_add_one, not_not, and_iff_right hplace]
    | succ k =>
      have heven : Even m := hm ▸ (Int.even_pow.2 ⟨by decide, k.succ_ne_zero⟩).mul_left _
      have hone : lastPlace q ≠ 1 := by
        intro h
        rw [h, one_mul] at hplace
        exact absurd hplace (one_lt_pow₀ (by norm_num) k.succ_ne_zero).ne'
      exact iff_of_false (Int.not_odd_iff_even.2 heven) fun h => hone h.1
  rw [hstays, roundEven_lt_iff hfloor, hless, htie, hodd]

theorem floor_round_eq_iff_of_le (hle : 10 ^ 28 ≤ q) : ⌊round q⌋ = ⌊q⌋ ↔ ∃ k : ℤ, (⌊q⌋ : ℚ) = k * lastPlace q := by
  have hpos : 0 < q := lt_of_lt_of_le (by norm_num) hle
  obtain ⟨j, hj⟩ : ∃ j : ℕ, unitOf q = j + 1 := by
    have hlog : 28 ≤ Int.log 10 q := (ten_zpow_le_iff hpos).1 (by exact_mod_cast hle)
    have hunit : Int.log 10 q + 1 - precision ≤ unitOf q := le_max_left _ _
    simp only [precision] at hunit
    exact ⟨(unitOf q - 1).toNat, by omega⟩
  have hplace : lastPlace q = (10 ^ (j + 1) : ℤ) := by
    rw [lastPlace, hj, ← Nat.cast_succ, zpow_natCast]
    push_cast
    rfl
  have hround : round q = (roundEven (q / lastPlace q) * 10 ^ (j + 1) : ℤ) := by
    rw [round_of_nonneg hpos.le, roundMagnitude, ← lastPlace, Int.cast_mul, ← hplace]
  rw [hround, Int.floor_intCast]
  constructor
  · intro h
    exact ⟨roundEven (q / lastPlace q), by rw [← h, hplace, Int.cast_mul]⟩
  · rintro ⟨k, hk⟩
    have hten : (10 : ℚ) ≤ lastPlace q := by
      rw [hplace]
      exact_mod_cast le_self_pow₀ (by norm_num : (1 : ℤ) ≤ 10) j.succ_ne_zero
    have hlast : 0 < lastPlace q := by linarith
    have hlow := Int.floor_le q
    have hhigh := Int.lt_floor_add_one q
    rw [hk] at hlow hhigh
    have hfloor : ⌊q / lastPlace q⌋ = k := by
      rw [Int.floor_eq_iff, le_div_iff₀ hlast, div_lt_iff₀ hlast]
      exact ⟨hlow, by linarith⟩
    have hnear : q / lastPlace q - ⌊q / lastPlace q⌋ < 1 / 2 := by
      rw [hfloor, sub_lt_iff_lt_add, div_lt_iff₀ hlast]
      linarith
    rw [roundEven_of_lt_half hnear, hfloor, ← Int.cast_inj (α := ℚ), Int.cast_mul, ← hplace, hk]

theorem floor_round_eq_iff (hq : 0 ≤ q) : ⌊round q⌋ = ⌊q⌋ ↔ KeepsWhole q := by
  unfold KeepsWhole
  split
  · next hlt => exact floor_round_eq_iff_of_lt hq hlt
  · next hle => exact floor_round_eq_iff_of_le (not_lt.1 hle)

end

end LedgerFlow.Decimal
