namespace LedgerFlow

def pow10 (k : Nat) : Nat := Nat.pow 10 k

def pow2 (k : Nat) : Nat := Nat.pow 2 k

theorem pow10_add (j k : Nat) : pow10 (j + k) = pow10 j * pow10 k := Nat.pow_add 10 j k

theorem pow10_pos (k : Nat) : 0 < pow10 k := Nat.pow_pos (by decide)

theorem pow2_succ (k : Nat) : pow2 (k + 1) = pow2 k + pow2 k := by
  show Nat.pow 2 k * 2 = _
  rw [Nat.mul_two]
  rfl

theorem pow2_le_pow2 {j k : Nat} (h : j ≤ k) : pow2 j ≤ pow2 k := Nat.pow_le_pow_right (by decide) h

theorem pow2_le_pow10 (k : Nat) : pow2 k ≤ pow10 k := Nat.pow_le_pow_left (by decide) k

theorem lt_pow2_log2 (n : Nat) : n < pow2 (n.log2 + 1) := Nat.lt_log2_self

end LedgerFlow
