import LedgerFlow.Proofs.Decimal.Grid
import LedgerFlow.Proofs.Decimal.Range
import LedgerFlow.Proofs.Decimal.Value
import Mathlib.Tactic.Linarith
import Mathlib.Tactic.Ring

/-!
The rounding of decimal arithmetic as a function of rational numbers: to 28 digits, a half to the even neighbour, and to
no less than the least exponent. It leaves alone what a decimal can hold.
-/

namespace LedgerFlow.Decimal

def unitOf (q : ℚ) : ℤ := max (Int.log 10 q + 1 - precision) lowestExponent

def roundMagnitude (q : ℚ) : ℚ := roundEven (q / 10 ^ unitOf q) * 10 ^ unitOf q

def round (q : ℚ) : ℚ := if q < 0 then -roundMagnitude (-q) else roundMagnitude q

section

variable {p q : ℚ} {c : Nat} {e u : Int} {s : Bool}

theorem roundMagnitude_eq_self {n : ℤ} (hu : unitOf (n * 10 ^ u) ≤ u) : roundMagnitude (n * 10 ^ u) = n * 10 ^ u := by
  unfold roundMagnitude
  obtain ⟨k, hk⟩ := Int.eq_ofNat_of_zero_le (sub_nonneg.2 hu)
  have hgrid : (n * 10 ^ u : ℚ) / 10 ^ unitOf (n * 10 ^ u) = (n * 10 ^ k : ℤ) := by
    rw [mul_div_assoc, ← zpow_sub₀ (by norm_num), hk]
    push_cast
    rfl
  rw [hgrid, roundEven_intCast, ← hgrid, div_mul_cancel₀ _ (ten_zpow_pos _).ne']

theorem round_of_nonneg (h : 0 ≤ q) : round q = roundMagnitude q := if_neg (not_lt.2 h)

@[simp] theorem round_zero : round 0 = 0 := Grid.round_zero

theorem round_neg (q : ℚ) : round (-q) = -round q := Grid.round_neg q

theorem round_nonneg (h : 0 ≤ q) : 0 ≤ round q := Grid.round_nonneg h

theorem round_mono : Monotone round := Grid.round_mono (by decide) (by decide)

theorem round_eq_self {n : ℤ} (hn : n.natAbs < pow10 precision) (hu : lowestExponent ≤ u) :
    round (n * 10 ^ u) = n * 10 ^ u := by
  have hmagnitude : ∀ m : ℤ, 0 < m → m.natAbs < pow10 precision → round (m * 10 ^ u) = m * 10 ^ u := by
    intro m hm hlt
    have hpos : (0 : ℚ) < m * 10 ^ u := mul_pos (Int.cast_pos.2 hm) (ten_zpow_pos u)
    rw [round_of_nonneg hpos.le]
    apply roundMagnitude_eq_self
    have hlog : Int.log 10 (m * 10 ^ u : ℚ) < u + precision := by
      rw [← lt_ten_zpow_iff hpos, add_comm, zpow_add₀ (by norm_num)]
      apply mul_lt_mul_of_pos_right _ (ten_zpow_pos u)
      rw [← cast_pow10]
      exact_mod_cast (by omega : m < pow10 precision)
    exact max_le (by omega) hu
  obtain hlt | rfl | hgt := lt_trichotomy n 0
  · have := hmagnitude (-n) (neg_pos.2 hlt) (by rwa [Int.natAbs_neg])
    rw [Int.cast_neg, neg_mul, round_neg] at this
    exact neg_injective this
  · simp
  · exact hmagnitude n hgt hn

theorem le_round_of_le {n : ℤ} (hn : n.natAbs < pow10 precision) (hu : lowestExponent ≤ u) (h : n * 10 ^ u ≤ q) :
    n * 10 ^ u ≤ round q := by
  rw [← round_eq_self hn hu]
  exact round_mono h

theorem round_le_of_le {n : ℤ} (hn : n.natAbs < pow10 precision) (hu : lowestExponent ≤ u) (h : q ≤ n * 10 ^ u) :
    round q ≤ n * 10 ^ u := by
  rw [← round_eq_self hn hu]
  exact round_mono h

theorem round_ratio (h : c < pow10 precision) (he : lowestExponent ≤ e) : round (ratio s c e) = ratio s c e := by
  cases s with
  | false =>
    rw [ratio_false]
    exact_mod_cast round_eq_self (n := c) (by omega) he
  | true =>
    rw [ratio_true, round_neg, neg_inj]
    exact_mod_cast round_eq_self (n := c) (by omega) he

/-- A number of at most 28 digits with its last place in range. -/
def Fits : Decimal → Prop
  | .finite _ c e => c < pow10 precision ∧ lowestExponent ≤ e
  | _ => False

theorem Fits.round_eq {a : Decimal} (h : a.Fits) (ha : a.value? = some q) : round q = q := by
  obtain ⟨s, c, e, rfl, rfl⟩ := value?_eq_some.1 ha
  exact round_ratio h.1 h.2

theorem round_round (q : ℚ) : round (round q) = round q := by
  have hmagnitude : ∀ p : ℚ, 0 < p → round (roundMagnitude p) = roundMagnitude p := by
    intro p hp
    have hlow : 0 ≤ roundEven (p / 10 ^ unitOf p) := roundEven_nonneg (div_nonneg hp.le (ten_zpow_pos _).le)
    have hhigh : roundEven (p / 10 ^ unitOf p) ≤ 10 ^ 28 := Grid.roundEven_unit_le precision _ (by decide) hp
    have hunit : lowestExponent ≤ unitOf p := le_max_right _ _
    have hpow : pow10 precision = 10 ^ 28 := rfl
    unfold roundMagnitude
    obtain hlt | heq := lt_or_eq_of_le hhigh
    · exact round_eq_self (by omega) hunit
    · -- The digits run over into the next unit.
      have hcarry : ((10 ^ 28 : ℤ) : ℚ) * 10 ^ unitOf p = (10 ^ 27 : ℤ) * 10 ^ (unitOf p + 1) := by
        rw [zpow_add_one₀ (by norm_num)]
        push_cast
        ring
      rw [heq, hcarry]
      exact round_eq_self (by decide) (by omega)
  obtain hlt | rfl | hgt := lt_trichotomy q 0
  · have := hmagnitude (-q) (neg_pos.2 hlt)
    rw [← round_of_nonneg (neg_nonneg.2 hlt.le), round_neg, round_neg] at this
    exact neg_injective this
  · rw [round_zero, round_zero]
  · rw [round_of_nonneg hgt.le]
    exact hmagnitude q hgt

/-- Strictly between a multiple of half of the unit `10 ^ (u + 1)` and the next one. -/
def InCell (cell : Nat) (u : Int) (q : ℚ) : Prop := cell < q / (5 * 10 ^ u) ∧ q / (5 * 10 ^ u) < cell + 1

theorem half_pos (u : Int) : (0 : ℚ) < 5 * 10 ^ u := mul_pos (by norm_num) (ten_zpow_pos u)

variable {cell : Nat}

theorem InCell.log_eq (h : InCell cell u q) (hcell : cell ≠ 0) :
    Int.log 10 q = Int.log 10 (cell * (5 * 10 ^ u) : ℚ) := by
  have hone : (1 : ℚ) ≤ cell := Nat.one_le_cast.2 (Nat.one_le_iff_ne_zero.2 hcell)
  have hpos : (0 : ℚ) < cell * (5 * 10 ^ u) := mul_pos (by linarith) (half_pos u)
  obtain ⟨top, htop⟩ : ∃ top, Int.log 10 (cell * (5 * 10 ^ u) : ℚ) = top := ⟨_, rfl⟩
  obtain ⟨hlow, hhigh⟩ := (log_eq_iff hpos).1 htop
  have hu : u ≤ top := by
    rw [← htop, ← ten_zpow_le_iff hpos]
    nlinarith [ten_zpow_pos u]
  obtain ⟨k, hk⟩ := Int.eq_ofNat_of_zero_le (sub_nonneg.2 hu)
  -- The next power of ten is a multiple of the half, too.
  have hnext : (10 : ℚ) ^ (top + 1) = (2 * 10 ^ k : Nat) * (5 * 10 ^ u) := by
    rw [show top + 1 = k + 1 + u by omega, zpow_add₀ (by norm_num), zpow_add₀ (by norm_num), zpow_natCast]
    push_cast
    ring
  rw [hnext, mul_lt_mul_iff_of_pos_right (half_pos u), Nat.cast_lt] at hhigh
  have hq := (lt_div_iff₀ (half_pos u)).1 h.1
  rw [htop, log_eq_iff (hpos.trans hq), hnext]
  refine ⟨hlow.trans hq.le, ((div_lt_iff₀ (half_pos u)).1 h.2).trans_le ?_⟩
  exact mul_le_mul_of_nonneg_right (by exact_mod_cast hhigh) (half_pos u).le

theorem InCell.roundEven_eq (h : InCell cell u q) (k : Nat) :
    roundEven (q / 10 ^ (u + 1 + k)) = ((cell / 10 ^ k : Nat) + 1) / 2 := by
  have hdouble : 2 * (q / 10 ^ (u + 1 + k)) = q / (5 * 10 ^ u) / (10 ^ k : Nat) := by
    rw [zpow_add₀ (by norm_num), zpow_add₀ (by norm_num), zpow_natCast]
    push_cast
    field_simp
    ring
  have hfloor : ⌊q / (5 * 10 ^ u)⌋ = cell := Int.floor_eq_iff.2 ⟨h.1.le, h.2⟩
  have hhalves : ⌊2 * (q / 10 ^ (u + 1 + k))⌋ = (cell / 10 ^ k : Nat) := by
    rw [hdouble, Int.floor_div_natCast, hfloor, Int.natCast_div]
  rw [roundEven_of_lt, hhalves]
  rw [hhalves, hdouble, lt_div_iff₀ (by positivity)]
  refine lt_of_le_of_lt ?_ h.1
  exact_mod_cast Nat.div_mul_le_self cell (10 ^ k)

theorem roundMagnitude_of_inCell (hp : InCell cell u p) (hq : InCell cell u q) (hcell : 2 * 10 ^ 27 ≤ cell) :
    roundMagnitude p = roundMagnitude q := by
  have hne : cell ≠ 0 := by omega
  have hpos : (0 : ℚ) < cell * (5 * 10 ^ u) := mul_pos (Nat.cast_pos.2 (Nat.pos_of_ne_zero hne)) (half_pos u)
  have hunit : unitOf p = unitOf q := by
    unfold unitOf
    rw [hp.log_eq hne, hq.log_eq hne]
  have hlog : u + 28 ≤ Int.log 10 q := by
    rw [hq.log_eq hne, ← ten_zpow_le_iff hpos, add_comm, zpow_add₀ (by norm_num)]
    have : (2 * 10 ^ 27 : ℚ) ≤ cell := by exact_mod_cast hcell
    calc (10 : ℚ) ^ (28 : Int) * 10 ^ u = 2 * 10 ^ 27 * (5 * 10 ^ u) := by
          norm_num
          ring
      _ ≤ cell * (5 * 10 ^ u) := mul_le_mul_of_nonneg_right this (half_pos u).le
  have hle : u + 1 ≤ unitOf q := by
    have : Int.log 10 q + 1 - precision ≤ unitOf q := le_max_left _ _
    simp only [precision] at this
    omega
  obtain ⟨k, hk⟩ := Int.eq_ofNat_of_zero_le (sub_nonneg.2 hle)
  have hgrid : unitOf q = u + 1 + k := by omega
  rw [roundMagnitude, roundMagnitude, hunit, hgrid, hp.roundEven_eq k, hq.roundEven_eq k]

end

end LedgerFlow.Decimal
