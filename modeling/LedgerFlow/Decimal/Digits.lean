import LedgerFlow.Decimal.Power

namespace LedgerFlow

/-- Counts digits by halving their number; right for `n < 10 ^ (2 ^ k)`. -/
def digitCountBelow : Nat → Nat → Nat
  | 0, _ => 1
  | k + 1, n =>
    if n < pow10 (pow2 k) then digitCountBelow k n
    else pow2 k + digitCountBelow k (n / pow10 (pow2 k))

def digitCount (n : Nat) : Nat :=
  digitCountBelow (n.log2.log2 + 1) n

def divHalfEven (n d : Nat) : Nat :=
  let q := n / d
  let r := n % d
  if 2 * r < d then q
  else if 2 * r = d then q + q % 2
  else q + 1

theorem digitCountBelow_pos (k n : Nat) : 0 < digitCountBelow k n := by
  induction k generalizing n with
  | zero => simp [digitCountBelow]
  | succ k ih =>
    simp only [digitCountBelow]
    split
    · exact ih n
    · exact Nat.add_pos_right _ (ih _)

theorem lt_pow10_digitCountBelow {k n : Nat} (h : n < pow10 (pow2 k)) :
    n < pow10 (digitCountBelow k n) := by
  induction k generalizing n with
  | zero => exact h
  | succ k ih =>
    simp only [digitCountBelow]
    split
    · next hn => exact ih hn
    · rw [pow10_add, Nat.mul_comm]
      have hp := pow10_pos (pow2 k)
      apply (Nat.div_lt_iff_lt_mul hp).1
      apply ih
      rwa [Nat.div_lt_iff_lt_mul hp, ← pow10_add, ← pow2_succ]

theorem pow10_le_of_digitCountBelow {k n : Nat} (hn : n ≠ 0) : pow10 (digitCountBelow k n - 1) ≤ n := by
  induction k generalizing n with
  | zero => exact Nat.pos_of_ne_zero hn
  | succ k ih =>
    simp only [digitCountBelow]
    split
    · exact ih hn
    · next h =>
      have hq : n / pow10 (pow2 k) ≠ 0 :=
        Nat.ne_of_gt (Nat.div_pos (Nat.le_of_not_lt h) (pow10_pos _))
      rw [Nat.add_sub_assoc (digitCountBelow_pos k _), pow10_add, Nat.mul_comm]
      exact Nat.le_trans (Nat.mul_le_mul_right _ (ih hq)) (Nat.div_mul_le_self _ _)

theorem lt_pow10_digitCount (n : Nat) : n < pow10 (digitCount n) := by
  apply lt_pow10_digitCountBelow
  have h : n.log2 + 1 ≤ pow2 (n.log2.log2 + 1) := lt_pow2_log2 n.log2
  calc n < pow2 (n.log2 + 1) := lt_pow2_log2 n
    _ ≤ pow2 (pow2 (n.log2.log2 + 1)) := pow2_le_pow2 h
    _ ≤ pow10 (pow2 (n.log2.log2 + 1)) := pow2_le_pow10 _

theorem pow10_le_of_digitCount {n : Nat} (hn : n ≠ 0) : pow10 (digitCount n - 1) ≤ n :=
  pow10_le_of_digitCountBelow hn

end LedgerFlow
