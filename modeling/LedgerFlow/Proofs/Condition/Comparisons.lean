import LedgerFlow.Proofs.Condition.Readings
import LedgerFlow.Proofs.Decimal.Numerals
import LedgerFlow.Proofs.Decimal.WholePart
import Mathlib.Data.Nat.Digits.Defs

/-!
How far the verdict of a branch can be relied on. The order of the two numbers is decided exactly. Whether they are equal
is decided on their rounded difference, which never brings them closer together than the tolerance when they are not.
-/

namespace LedgerFlow

namespace Decimal

variable {a b x : Decimal} {p q : ℚ} {r : Except Signal Decimal}

theorem order_eq_compare (ha : a.value? = some p) (hb : b.value? = some q) : a.order b = .ok (compare p q) := by
  rw [order, order?_eq_compare ha hb]

theorem abs_round (q : ℚ) : |round q| = round |q| := by
  obtain h | h := le_total 0 q
  · rw [abs_of_nonneg h, abs_of_nonneg (round_nonneg h)]
  · rw [abs_of_nonpos h, round_neg, abs_of_nonpos]
    rw [← neg_nonneg, ← round_neg]
    exact round_nonneg (neg_nonneg.2 h)

theorem Rounds.lt (h : Rounds r q) (hr : r = .ok x) : |round q| < 10 ^ (highestAdjusted + 1) := by
  by_contra hnot
  rw [Rounds, if_neg hnot, hr] at h
  cases h

theorem value?_abs (ha : a.value? = some (round q)) (hq : |round q| < 10 ^ (highestAdjusted + 1)) :
    ∃ y, a.abs = .ok y ∧ y.value? = some |round q| := by
  obtain ⟨s, c, e, rfl, hvalue⟩ := value?_eq_some.1 ha
  have hmagnitude : ratio false c e = round |q| := by rw [ratio_false, ← abs_ratio (s := s), hvalue, abs_round]
  have hfinish := rounds_finish false c e
  rw [hmagnitude, Rounds, round_round, ← abs_round, abs_abs, if_pos hq] at hfinish
  exact hfinish

end Decimal

namespace Comparison

open Decimal (HasDigits highestAdjusted value?_eq_some)

variable {t : Number} {a b x ε : Decimal} {p q δ : ℚ}

theorem ofResult_order (ha : a.value? = some p) (hb : b.value? = some q) :
    Amount.ofResult (a.order b) = .ok (compare p q) :=
  Amount.ofResult_eq_ok.2 (Decimal.order_eq_compare ha hb)

theorem near_eq (hε : ε.value? = some δ) (ha : a.value? = some p) (hb : b.value? = some q)
    (hlt : |Decimal.round (p - q)| < 10 ^ (highestAdjusted + 1)) :
    near a b ε = .ok (decide (|Decimal.round (p - q)| < δ)) := by
  have hsub := Decimal.rounds_sub ha hb
  rw [Decimal.Rounds, if_pos hlt] at hsub
  obtain ⟨x, hx, hvalue⟩ := hsub
  obtain ⟨y, hy, hmagnitude⟩ := Decimal.value?_abs hvalue hlt
  refine except_bind_eq_ok.2 ⟨x, Amount.ofResult_eq_ok.2 hx, except_bind_eq_ok.2 ⟨y, Amount.ofResult_eq_ok.2 hy,
    except_bind_eq_ok.2 ⟨_, ofResult_order hmagnitude hε, congrArg Except.ok (Bool.eq_iff_iff.2 ?_)⟩⟩⟩
  simp [compare_lt_iff_lt]

theorem round_tolerance (ht : t.OnGrid) (hε : Comparison.tolerance t = .ok ε) (hδ : ε.value? = some δ) (hpos : 0 < δ)
    (hdigits : HasDigits 28 δ) : Decimal.round δ = δ := by
  obtain ⟨s, c, u, rfl, rfl⟩ := value?_eq_some.1 hδ
  have hplace := Number.le_place ht (Amount.ofResult_eq_ok.1 hε)
  apply hdigits.round_eq
  cases s with
  | false =>
    rw [Decimal.ratio_false] at hpos ⊢
    have hc : (1 : ℚ) ≤ c := by
      rw [Nat.one_le_cast, Nat.one_le_iff_ne_zero]
      rintro rfl
      simp at hpos
    calc (10 : ℚ) ^ (Decimal.lowestExponent + 28) ≤ 10 ^ u :=
          zpow_le_zpow_right₀ (by norm_num) (le_trans (by decide) hplace)
      _ ≤ c * 10 ^ u := le_mul_of_one_le_left (Decimal.ten_zpow_pos u).le hc
  | true =>
    have : (0 : ℚ) ≤ c * 10 ^ u := mul_nonneg (Nat.cast_nonneg c) (Decimal.ten_zpow_pos u).le
    rw [Decimal.ratio_true] at hpos
    linarith

theorem lt_of_round_lt (hround : Decimal.round δ = δ) (h : |Decimal.round (p - q)| < δ) : |p - q| < δ := by
  rw [Decimal.abs_round] at h
  by_contra hnot
  have hmono := Decimal.round_mono (not_lt.1 hnot)
  rw [hround] at hmono
  exact absurd h (not_lt.2 hmono)

/-- The order is that of the exact numbers. -/
theorem holds_order (hε : Comparison.tolerance t = .ok ε) (ha : a.value? = some p) (hb : b.value? = some q) :
    gt.holds a b t = .ok (decide (q < p)) ∧ gte.holds a b t = .ok (decide (q ≤ p)) ∧
      lt.holds a b t = .ok (decide (p < q)) ∧ lte.holds a b t = .ok (decide (p ≤ q)) := by
  have horder := ofResult_order ha hb
  refine ⟨?_, ?_, ?_, ?_⟩ <;>
    refine except_bind_eq_ok.2 ⟨ε, hε, except_bind_eq_ok.2 ⟨_, horder, congrArg Except.ok (Bool.eq_iff_iff.2 ?_)⟩⟩
  · simp [compare_gt_iff_gt]
  · simp [compare_lt_iff_lt]
  · simp [compare_lt_iff_lt]
  · simp [compare_gt_iff_gt]

theorem holds_eq (hε : Comparison.tolerance t = .ok ε) : eq.holds a b t = near a b ε := by
  unfold holds
  rw [hε]
  rfl

theorem holds_ne {v : Bool} (hε : Comparison.tolerance t = .ok ε) (h : near a b ε = .ok v) :
    ne.holds a b t = .ok !v :=
  except_bind_eq_ok.2 ⟨ε, hε, except_bind_eq_ok.2 ⟨v, h, rfl⟩⟩

end Comparison

namespace Observation

theorem ofBytes_eq (bytes : List Nat) : ofBytes bytes = Nat.ofDigits 256 bytes := by
  induction bytes with
  | nil => rfl
  | cons b rest ih => rw [ofBytes, ih, Nat.ofDigits_cons]

theorem value?_bytes {vs : List Json} {bytes : List Nat} (hne : vs ≠ []) (hbytes : vs.mapM byte? = some bytes) :
    ∃ n, ofJson (.array vs) = .ok n ∧ n.value? = some ((Nat.ofDigits 256 bytes : ℕ) : ℚ) := by
  obtain ⟨v, rest, rfl⟩ := List.exists_cons_of_ne_nil hne
  refine ⟨.ofInt (ofBytes bytes), by simp only [ofJson, hbytes], ?_⟩
  rw [Decimal.value?_ofInt, ofBytes_eq]
  simp

end Observation

/-- Branches compare exactly where they must. With a positive tolerance of at most 28 digits, the order of two numbers is
decided as it is. Where their difference does not overflow, they are taken for equal or not whichever comes first, for
different just when not for equal, and for equal only if they lie closer together than the tolerance. A list of bytes is
compared as the integer that it writes. -/
theorem Comparison.holds_exact {t : Number} {ε : Decimal} {δ : ℚ} (ht : t.OnGrid)
    (hε : Comparison.tolerance t = .ok ε) (hδ : ε.value? = some δ) (hpos : 0 < δ) (hdigits : Decimal.HasDigits 28 δ) :
    (∀ (a b : Decimal) (p q : ℚ), a.value? = some p → b.value? = some q →
      (Comparison.gt.holds a b t = .ok (decide (q < p)) ∧ Comparison.gte.holds a b t = .ok (decide (q ≤ p)) ∧
        Comparison.lt.holds a b t = .ok (decide (p < q)) ∧ Comparison.lte.holds a b t = .ok (decide (p ≤ q))) ∧
      ∀ x, a.sub b = .ok x → ∃ v, Comparison.eq.holds a b t = .ok v ∧ Comparison.eq.holds b a t = .ok v ∧
        Comparison.ne.holds a b t = .ok (!v) ∧ Comparison.ne.holds b a t = .ok (!v) ∧
        (v = true ↔ |Decimal.round (p - q)| < δ) ∧ (v = true → |p - q| < δ)) ∧
    ∀ (vs : List Json) (bytes : List Nat), vs ≠ [] → vs.mapM Observation.byte? = some bytes →
      ∃ n, Observation.ofJson (.array vs) = .ok n ∧ n.value? = some ((Nat.ofDigits 256 bytes : ℕ) : ℚ) := by
  refine ⟨fun a b p q ha hb => ⟨holds_order hε ha hb, fun x hx => ?_⟩,
    fun vs bytes hne hbytes => Observation.value?_bytes hne hbytes⟩
  have hlt := (Decimal.rounds_sub ha hb).lt hx
  have hswap : |Decimal.round (q - p)| = |Decimal.round (p - q)| := by
    rw [← neg_sub, Decimal.round_neg, abs_neg]
  have hnear := near_eq hδ ha hb hlt
  have hnear' := near_eq hδ hb ha (hswap ▸ hlt)
  rw [hswap] at hnear'
  have hround := round_tolerance ht hε hδ hpos hdigits
  refine ⟨_, (holds_eq hε).trans hnear, (holds_eq hε).trans hnear', holds_ne hε hnear, holds_ne hε hnear',
    decide_eq_true_iff, fun hv => lt_of_round_lt hround (of_decide_eq_true hv)⟩

theorem Comparison.holds_exact_apart :
    (Comparison.lt.holds 1 (.finite false 10001 (-4)) (.float 1e-4) = .ok true ∧
      Comparison.eq.holds 1 (.finite false 10001 (-4)) (.float 1e-4) = .ok false) ∧
    ∃ n, Observation.ofJson (.array (List.replicate 32 (.int 255))) = .ok n ∧ n.value? = some ((2 ^ 256 - 1 : ℕ) : ℚ) := by
  have hgrid : (Number.float 1e-4).OnGrid := Binary64.onGrid_ofDecimal false 1 (-(4 : ℕ))
  have htext : Decimal.ofText (Number.float 1e-4).text = .ok (.finite false 1 (-4)) := by decide +kernel
  have htolerance : Comparison.tolerance (.float 1e-4) = .ok (.finite false 1 (-4)) := Amount.ofResult_eq_ok.2 htext
  have hdigits : Decimal.HasDigits 28 (Decimal.ratio false 1 (-4)) := ⟨1, -4, by decide, by simp⟩
  obtain ⟨hcompare, hbytes⟩ := Comparison.holds_exact hgrid htolerance rfl (by norm_num) hdigits
  obtain ⟨⟨-, -, hless, -⟩, hequal⟩ := hcompare 1 (.finite false 10001 (-4)) _ _ rfl rfl
  refine ⟨⟨?_, ?_⟩, ?_⟩
  · rw [hless]
    norm_num
  · obtain ⟨v, hv, -, -, -, -, hnear⟩ := hequal (.finite true 1 (-4)) (by decide +kernel)
    cases v with
    | false => exact hv
    | true => exact absurd (hnear rfl) (by norm_num)
  · obtain ⟨n, hn, hvalue⟩ := hbytes (List.replicate 32 (.int 255)) (List.replicate 32 255) (by decide) (by decide)
    have hmost : Nat.ofDigits 256 (List.replicate 32 255) = 2 ^ 256 - 1 := by decide +kernel
    exact ⟨n, hn, by rw [hvalue, hmost]⟩

end LedgerFlow
