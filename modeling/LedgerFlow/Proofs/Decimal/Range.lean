import LedgerFlow.Token
import LedgerFlow.Proofs.Exchange

namespace LedgerFlow

theorem pow10_le_pow10 {j k : Nat} (h : j ≤ k) : pow10 j ≤ pow10 k := Nat.pow_le_pow_right (by decide) h

theorem lt_of_pow10_lt_pow10 {j k : Nat} (h : pow10 j < pow10 k) : j < k :=
  (Nat.pow_lt_pow_iff_right (by decide)).1 h

theorem pow10_succ (k : Nat) : pow10 (k + 1) = pow10 k * 10 := pow10_add k 1

theorem digitCount_pos (n : Nat) : 0 < digitCount n := digitCountBelow_pos _ n

theorem digitCount_le {n k : Nat} (hk : 0 < k) (h : n < pow10 k) : digitCount n ≤ k := by
  by_cases hn : n = 0
  · subst hn
    exact hk
  · have := lt_of_pow10_lt_pow10 (Nat.lt_of_le_of_lt (pow10_le_of_digitCount hn) h)
    omega

theorem digitCount_pow10 (k : Nat) : digitCount (pow10 k) = k + 1 := by
  have hlt : pow10 k < pow10 (k + 1) := Nat.pow_lt_pow_right (by decide) k.lt_succ_self
  have hle := digitCount_le k.succ_pos hlt
  have := lt_of_pow10_lt_pow10 (lt_pow10_digitCount (pow10 k))
  omega

namespace Decimal

theorem divHalfEven_le (n d : Nat) : divHalfEven n d ≤ n / d + 1 := by
  unfold divHalfEven
  dsimp only
  split
  · omega
  · split <;> omega

theorem digitCount_dropDigits {c k : Nat} (hk : k ≤ digitCount c) :
    digitCount (dropDigits c k) ≤ digitCount c - k + 1 := by
  rw [dropDigits, if_neg (Nat.not_lt.2 hk)]
  -- Rounding up may bring in one more digit.
  have hpos : 0 < digitCount c - k + 1 := Nat.succ_pos _
  apply digitCount_le hpos
  have hc : c < pow10 (digitCount c - k) * pow10 k := by
    rw [← pow10_add, Nat.sub_add_cancel hk]
    exact lt_pow10_digitCount c
  have hq : c / pow10 k < pow10 (digitCount c - k) := (Nat.div_lt_iff_lt_mul (pow10_pos k)).2 hc
  rw [pow10_succ]
  have := divHalfEven_le c (pow10 k)
  have := pow10_pos (digitCount c - k)
  omega

theorem digitCount_rounded {c : Nat} {e unit : Int}
    (hunit : unit = max e (max (digitCount c + e - precision) lowestExponent))
    (h : digitCount c + e ≤ highestAdjusted) :
    digitCount (if unit = e then c else dropDigits c (unit - e).toNat) + unit ≤ highestAdjusted + 1 := by
  have hc := digitCount_pos c
  simp only [highestAdjusted, lowestExponent, precision] at *
  split
  · omega
  · by_cases hk : (unit - e).toNat ≤ digitCount c
    · have := digitCount_dropDigits hk
      omega
    · rw [dropDigits, if_pos (Nat.not_le.1 hk)]
      have hzero : digitCount 0 = 1 := rfl
      omega

theorem finish_ok {s : Bool} {c : Nat} {e : Int} (h : digitCount c + e ≤ highestAdjusted) :
    ∃ x, finish s c e = .ok x := by
  unfold finish
  split
  · exact ⟨_, rfl⟩
  · extract_lets unit d
    have hd := digitCount_rounded rfl h
    change digitCount d + unit ≤ highestAdjusted + 1 at hd
    by_cases hfull : d = pow10 precision
    · rw [hfull, digitCount_pow10] at hd
      have hnot : ¬highestAdjusted < adjusted (pow10 (precision - 1)) (unit + 1) := by
        rw [adjusted, digitCount_pow10]
        simp only [highestAdjusted, precision] at *
        omega
      simp only [hfull, if_true, hnot, if_false]
      exact ⟨_, rfl⟩
    · have hnot : ¬highestAdjusted < adjusted d unit := by
        rw [adjusted]
        omega
      simp only [hfull, if_false, hnot]
      exact ⟨_, rfl⟩

theorem digitCount_absorbZeros (ideal : Int) (k c : Nat) (e : Int) :
    digitCount (absorbZeros ideal k c e).1 + (absorbZeros ideal k c e).2 ≤ digitCount c + e := by
  induction k generalizing c e with
  | zero => exact Int.le_refl _
  | succ k ih =>
    unfold absorbZeros
    split
    · next hc =>
      simp only [Bool.and_eq_true, decide_eq_true_eq, beq_iff_eq, bne_iff_ne] at hc
      have hten : 10 ≤ c := by omega
      have hcount : 1 < digitCount c := lt_of_pow10_lt_pow10 (Nat.lt_of_le_of_lt hten (lt_pow10_digitCount c))
      have hpow : pow10 (digitCount c) = pow10 (digitCount c - 1) * 10 := by
        rw [← pow10_succ, Nat.sub_add_cancel (Nat.le_of_lt hcount)]
      have hdiv : c / 10 < pow10 (digitCount c - 1) := by
        rw [Nat.div_lt_iff_lt_mul (by decide), ← hpow]
        exact lt_pow10_digitCount c
      have := digitCount_le (Nat.sub_pos_of_lt hcount) hdiv
      have := ih (c / 10) (e + 1)
      omega
    · exact Int.le_refl _

theorem quotient_lt {c d : Nat} {shift : Int} (hd : d ≠ 0)
    (hshift : shift = (digitCount d : Int) - digitCount c + precision + 1) :
    c * pow10 shift.toNat / (d * pow10 (-shift).toNat) < pow10 (precision + 2) := by
  have hdpos : 0 < d * pow10 (-shift).toNat := Nat.mul_pos (Nat.pos_of_ne_zero hd) (pow10_pos _)
  rw [Nat.div_lt_iff_lt_mul hdpos]
  have hexp : digitCount c + shift.toNat = precision + 2 + (digitCount d - 1 + (-shift).toNat) := by
    have := digitCount_pos d
    omega
  calc c * pow10 shift.toNat < pow10 (digitCount c) * pow10 shift.toNat :=
        Nat.mul_lt_mul_of_pos_right (lt_pow10_digitCount c) (pow10_pos _)
    _ = pow10 (precision + 2) * (pow10 (digitCount d - 1) * pow10 (-shift).toNat) := by
        rw [← pow10_add, hexp, pow10_add (precision + 2), pow10_add (digitCount d - 1)]
    _ ≤ pow10 (precision + 2) * (d * pow10 (-shift).toNat) :=
        Nat.mul_le_mul_left _ (Nat.mul_le_mul_right _ (pow10_le_of_digitCount hd))

theorem divFinite_ok (s : Bool) {c d : Nat} {f : Int} (hd : d ≠ 0) (hdf : 1 ≤ digitCount d + f)
    (hc : digitCount c + 1 ≤ highestAdjusted) : ∃ x, divFinite s c 0 d f = .ok x := by
  unfold divFinite
  extract_lets ideal shift n m q
  split
  · exact ⟨_, by rw [finish, if_pos rfl]⟩
  · have hq : q < pow10 (precision + 2) := quotient_lt hd rfl
    have hnext : q + 1 < pow10 (precision + 3) := by
      have hstep : pow10 (precision + 3) = pow10 (precision + 2) * 10 := pow10_succ _
      have := pow10_pos (precision + 2)
      omega
    have hcount : digitCount q ≤ precision + 2 := digitCount_le (by decide) hq
    have hcount' : digitCount (q + 1) ≤ precision + 3 := digitCount_le (by decide) hnext
    have hplace : ideal - shift = digitCount c - (digitCount d + f) - precision - 1 := by omega
    split
    · have := digitCount_absorbZeros ideal (digitCount q) q (ideal - shift)
      cases habsorb : absorbZeros ideal (digitCount q) q (ideal - shift) with
      | mk q' x =>
        rw [habsorb] at this
        apply finish_ok
        dsimp only at this
        omega
    · apply finish_ok
      split <;> omega

theorem tenPow_ok {n : Int} (h : 0 ≤ n) (hn : n ≤ highestAdjusted) :
    ∃ d f, tenPow n = .ok (.finite false d f) ∧ d ≠ 0 ∧ 1 ≤ digitCount d + f := by
  unfold tenPow
  split
  · refine ⟨_, _, rfl, Nat.ne_of_gt (pow10_pos _), ?_⟩
    have := digitCount_pos (pow10 n.toNat)
    omega
  · next hlarge =>
    rw [if_neg (Int.not_lt.2 hn)]
    refine ⟨_, _, rfl, Nat.ne_of_gt (pow10_pos _), ?_⟩
    rw [digitCount_pow10]
    omega

end Decimal

/-- All numbers of base units up to a limit can be shown as amounts. -/
def Token.Spans (t : Token) (limit : Nat) : Prop := ∀ n : Int, n.natAbs ≤ limit → ∃ x, t.fromBaseUnits n = .ok x

theorem Token.spans_of_lt {t : Token} {limit : Nat} (h : 0 ≤ t.decimals) (hd : t.decimals ≤ Decimal.highestAdjusted)
    (hl : limit < pow10 999998) : t.Spans limit := by
  intro n hn
  obtain ⟨d, f, hunit, hne, hdf⟩ := Decimal.tenPow_ok h hd
  have hc : (digitCount n.natAbs : Int) + 1 ≤ Decimal.highestAdjusted := by
    have := digitCount_le (by decide) (Nat.lt_of_le_of_lt hn hl)
    simp only [Decimal.highestAdjusted]
    omega
  obtain ⟨x, hx⟩ := Decimal.divFinite_ok (decide (n < 0) != false) hne hdf hc
  have hdiv : (Decimal.ofInt n).div (.finite false d f) = .ok x := by
    rw [← hx, Decimal.ofInt, Decimal.div, if_neg hne]
  refine ⟨x, except_bind_eq_ok.2 ⟨.finite false d f, ?_, ?_⟩⟩
  · rw [hunit]
    rfl
  · rw [hdiv]
    rfl

end LedgerFlow
