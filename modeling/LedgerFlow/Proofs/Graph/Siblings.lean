import LedgerFlow.Graph.Order
import LedgerFlow.Proofs.Graph.RunSort
import Mathlib.Data.Prod.Lex
import Mathlib.Data.String.Basic
import Mathlib.Algebra.Order.Field.Power
import Mathlib.Algebra.Order.Ring.Rat

namespace LedgerFlow

namespace Binary64

def ratio (negative : Bool) (significand : Nat) (exponent : Int) : ℚ :=
  signed negative significand * 2 ^ exponent

def rank : Binary64 → ℕ ×ₗ ℚ
  | .nan => toLex (0, 0)
  | .infinity true => toLex (1, 0)
  | .finite s m e => toLex (2, ratio s m e)
  | .infinity false => toLex (3, 0)

theorem ratio_eq_scaled {unit exponent : Int} (h : unit ≤ exponent) (negative : Bool) (significand : Nat) :
    ratio negative significand exponent = scaled negative significand exponent unit * 2 ^ unit := by
  have hpow : (2 : ℚ) ^ exponent = pow2 (exponent - unit).toNat * 2 ^ unit := by
    have hcast : ((exponent - unit).toNat : Int) = exponent - unit := Int.toNat_of_nonneg (by omega)
    rw [pow2, Nat.pow_eq, Nat.cast_pow, Nat.cast_ofNat, ← zpow_natCast, hcast, ← zpow_add₀ two_ne_zero]
    congr 1
    omega
  cases negative <;> simp [ratio, scaled, signed, hpow, mul_assoc]

theorem compare_scaled {unit e f : Int} (he : unit ≤ e) (hf : unit ≤ f) (s t : Bool) (m n : Nat) :
    compare (scaled s m e unit) (scaled t n f unit) = compare (ratio s m e) (ratio t n f) := by
  have hunit : (0 : ℚ) < 2 ^ unit := zpow_pos two_pos unit
  rw [ratio_eq_scaled he, ratio_eq_scaled hf, ← cmp_eq_compare, ← cmp_eq_compare, cmp_mul_pos_right hunit]
  exact (Int.cast_strictMono.cmp_map_eq _ _).symm

theorem compare_toLex (i j : ℕ) (p q : ℚ) : compare (toLex (i, p)) (toLex (j, q)) = (compare i j).then (compare p q) :=
  rfl

theorem order?_eq_compare {a b : Binary64} (ha : a.isNaN = false) (hb : b.isNaN = false) :
    a.order? b = some (compare a.rank b.rank) := by
  cases a with
  | nan => cases ha
  | infinity s =>
    cases b with
    | nan => cases hb
    | infinity t => cases s <;> cases t <;> rfl
    | finite t n f => cases s <;> rfl
  | finite s m e =>
    cases b with
    | nan => cases hb
    | infinity t => cases t <;> rfl
    | finite t n f =>
      rw [rank, rank, compare_toLex, order?, compare_scaled (min_le_left e f) (min_le_right e f)]
      rfl

variable {a b : Binary64}

theorem lt_iff_rank (ha : a.isNaN = false) (hb : b.isNaN = false) : a.lt b = true ↔ a.rank < b.rank := by
  rw [lt, order?_eq_compare ha hb, beq_iff_eq, Option.some_inj]
  exact compare_lt_iff_lt

theorem eq_iff_rank (ha : a.isNaN = false) (hb : b.isNaN = false) : a.eq b = true ↔ a.rank = b.rank := by
  rw [eq, order?_eq_compare ha hb, beq_iff_eq, Option.some_inj]
  exact compare_eq_iff_eq

theorem lt_self (a : Binary64) : a.lt a = false := by
  cases ha : a.isNaN with
  | true => cases a <;> simp_all [isNaN, lt, order?]
  | false => simpa using mt (lt_iff_rank ha ha).1 (lt_irrefl _)

theorem eq_nan_of_isNaN (h : a.isNaN = true) : a = .nan := by
  cases a <;> simp_all [isNaN]

end Binary64

namespace Coordinate

/-- Both are numbers, or both were written as the value that is none. -/
def Comparable (a b : Coordinate) : Prop :=
  (a.value.isNaN = false ∧ b.value.isNaN = false) ∨
    (a.value.isNaN = true ∧ b.value.isNaN = true) ∧ a.fromText = false ∧ b.fromText = false

variable {a b : Coordinate}

theorem Comparable.sameAs_iff (h : a.Comparable b) : a.sameAs b = true ↔ a.value.rank = b.value.rank := by
  obtain ⟨ha, hb⟩ | ⟨⟨ha, hb⟩, hat, hbt⟩ := h
  · rw [← Binary64.eq_iff_rank ha hb, sameAs, ha]
    simp
  · rw [sameAs, ha, hb, hat, hbt, Binary64.eq_nan_of_isNaN ha, Binary64.eq_nan_of_isNaN hb]
    simp

theorem Comparable.lt_iff (h : a.Comparable b) : a.lt b = true ↔ a.value.rank < b.value.rank := by
  obtain ⟨ha, hb⟩ | ⟨⟨ha, hb⟩, -, -⟩ := h
  · exact Binary64.lt_iff_rank ha hb
  · rw [lt, Binary64.eq_nan_of_isNaN ha, Binary64.eq_nan_of_isNaN hb]
    simp [Binary64.lt, Binary64.order?]

end Coordinate

namespace Node

def Comparable (m n : Node) : Prop :=
  m.position.x.Comparable n.position.x ∧ m.position.y.Comparable n.position.y

def rowRank (n : Node) : (ℕ ×ₗ ℚ) ×ₗ String := toLex (n.position.x.value.rank, n.id)

def rank (n : Node) : (ℕ ×ₗ ℚ) ×ₗ (ℕ ×ₗ ℚ) ×ₗ String :=
  toLex (n.position.y.value.rank, toLex (n.position.x.value.rank, n.id))

variable {m n : Node}

theorem leftOf_iff (h : m.position.x.Comparable n.position.x) : m.leftOf n = true ↔ m.rowRank < n.rowRank := by
  simp only [leftOf, rowRank, Prod.Lex.toLex_lt_toLex]
  by_cases hx : m.position.x.sameAs n.position.x = true
  · simp [hx, h.sameAs_iff.1 hx]
  · simp [hx, mt h.sameAs_iff.2 hx, h.lt_iff]

theorem rank_lt_iff : m.rank < n.rank ↔ m.position.y.value.rank < n.position.y.value.rank ∨
    m.position.y.value.rank = n.position.y.value.rank ∧ m.rowRank < n.rowRank :=
  Prod.Lex.toLex_lt_toLex

theorem Comparable.above_iff (h : m.Comparable n) : m.above n = true ↔ m.rank < n.rank := by
  rw [above, rank_lt_iff, ← leftOf_iff h.1]
  by_cases hy : m.position.y.sameAs n.position.y = true
  · simp [hy, h.2.sameAs_iff.1 hy]
  · simp [hy, mt h.2.sameAs_iff.2 hy, h.2.lt_iff]

theorem above_irrefl (n : Node) : n.above n = false := by
  simp [above, leftOf, Coordinate.lt, Binary64.lt_self]

end Node

def PairwiseComparable (nodes : List Node) : Prop := ∀ m ∈ nodes, ∀ n ∈ nodes, m ≠ n → m.Comparable n

variable {ms ns : List Node}

theorem orderedBy_above (h : PairwiseComparable ns) : RunMerge.OrderedBy Node.above Node.rank (· ∈ ns) := by
  intro m n hm hn
  by_cases heq : m = n
  · subst heq
    simp [Node.above_irrefl]
  · exact (h m hm n hn heq).above_iff

theorem orderByPosition_eq_of_perm (epsilon : Number) (hids : (ms.map (·.id)).Nodup) (h : PairwiseComparable ms)
    (hperm : ms.Perm ns) : orderByPosition epsilon ms = orderByPosition epsilon ns := by
  have hrank : ∀ m n, m ∈ ms → n ∈ ms → m.rank = n.rank → m = n := fun m n hm hn hrank =>
    List.inj_on_of_nodup_map hids hm hn (congrArg (fun r => (ofLex (ofLex r).2).2) hrank)
  rw [orderByPosition, orderByPosition, RunSort.sort_eq_of_perm (orderedBy_above h) (fun _ => id) hrank hperm]

end LedgerFlow
