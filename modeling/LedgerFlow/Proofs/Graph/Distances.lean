import LedgerFlow.Proofs.Decimal.Grid
import LedgerFlow.Proofs.Graph.Siblings

namespace LedgerFlow

namespace Binary64

variable {n d m : ℕ} {s t : Bool} {e f : ℤ} {p q : ℚ} {a b top : Binary64}

theorem two_zpow_pos (e : ℤ) : (0 : ℚ) < 2 ^ e := zpow_pos two_pos e

theorem cast_pow2 (k : ℕ) : ((pow2 k : ℕ) : ℚ) = 2 ^ (k : ℤ) := by
  rw [pow2, Nat.pow_eq, Nat.cast_pow, Nat.cast_ofNat, zpow_natCast]

theorem shifted_ratio (n d : ℕ) (e : ℤ) :
    ((n * pow2 (-e).toNat : ℕ) : ℚ) / (d * pow2 e.toNat : ℕ) = n / d / 2 ^ e := by
  have hshift : (2 : ℚ) ^ e * 2 ^ (((-e).toNat : ℕ) : ℤ) = 2 ^ ((e.toNat : ℕ) : ℤ) := by
    rw [← zpow_add₀ two_ne_zero]
    congr 1
    omega
  rw [Nat.cast_mul, Nat.cast_mul, cast_pow2, cast_pow2, ← hshift, mul_comm ((2 : ℚ) ^ e), ← mul_assoc, div_div,
    mul_right_comm, mul_div_mul_right _ _ (two_zpow_pos _).ne']

theorem pow2_div_pow2 (e : ℤ) : ((pow2 e.toNat : ℕ) : ℚ) / (pow2 (-e).toNat : ℕ) = 2 ^ e := by
  simpa using shifted_ratio 1 1 (-e)

theorem signed_mul (s : Bool) (n k : ℕ) : signed s (n * k) = signed s n * k := by
  cases s <;> simp [signed]

theorem signed_natAbs (n : ℤ) : signed (n < 0) n.natAbs = n := by
  unfold signed
  split
  · next hlt =>
    rw [Int.natCast_natAbs, abs_of_neg (of_decide_eq_true hlt), neg_neg]
  · next hge =>
    rw [Int.natCast_natAbs, abs_of_nonneg (not_lt.1 fun hlt => hge (decide_eq_true hlt))]

theorem ratioLog2_eq (hn : n ≠ 0) (hd : d ≠ 0) : ratioLog2 n d = Int.log 2 ((n : ℚ) / d) := by
  have hnpos : (0 : ℚ) < n := Nat.cast_pos.2 (Nat.pos_of_ne_zero hn)
  have hdpos : (0 : ℚ) < d := Nat.cast_pos.2 (Nat.pos_of_ne_zero hd)
  have hbits : ∀ k : ℕ, k ≠ 0 → (2 : ℚ) ^ (k.log2 : ℤ) ≤ k ∧ (k : ℚ) < 2 ^ ((k.log2 : ℤ) + 1) := fun k hk =>
    ⟨by exact_mod_cast Nat.log2_self_le hk, by exact_mod_cast Nat.lt_log2_self⟩
  obtain ⟨hnlow, hnhigh⟩ := hbits n hn
  obtain ⟨hdlow, hdhigh⟩ := hbits d hd
  -- the logarithms of the parts tell that of the ratio but for one
  have hlow : (2 : ℚ) ^ ((n.log2 : ℤ) - d.log2 - 1) ≤ n / d := by
    rw [le_div_iff₀ hdpos]
    calc (2 : ℚ) ^ ((n.log2 : ℤ) - d.log2 - 1) * d ≤ 2 ^ ((n.log2 : ℤ) - d.log2 - 1) * 2 ^ ((d.log2 : ℤ) + 1) :=
          mul_le_mul_of_nonneg_left hdhigh.le (two_zpow_pos _).le
      _ = 2 ^ (n.log2 : ℤ) := by
          rw [← zpow_add₀ two_ne_zero]
          congr 1
          omega
      _ ≤ n := hnlow
  have hhigh : (n : ℚ) / d < 2 ^ ((n.log2 : ℤ) - d.log2 + 1) := by
    rw [div_lt_iff₀ hdpos]
    calc (n : ℚ) < 2 ^ ((n.log2 : ℤ) + 1) := hnhigh
      _ = 2 ^ ((n.log2 : ℤ) - d.log2 + 1) * 2 ^ (d.log2 : ℤ) := by
          rw [← zpow_add₀ two_ne_zero]
          congr 1
          omega
      _ ≤ 2 ^ ((n.log2 : ℤ) - d.log2 + 1) * d := mul_le_mul_of_nonneg_left hdlow (two_zpow_pos _).le
  have hreaches : ∀ k : ℤ, d * pow2 k.toNat ≤ n * pow2 (-k).toNat ↔ (2 : ℚ) ^ k ≤ n / d := by
    intro k
    have hden : (0 : ℚ) < (d * pow2 k.toNat : ℕ) := Nat.cast_pos.2 (Nat.mul_pos (by omega) (Nat.pow_pos two_pos))
    rw [← one_le_div₀ (two_zpow_pos k), ← shifted_ratio, one_le_div₀ hden, Nat.cast_le]
  have hpos : (0 : ℚ) < n / d := div_pos hnpos hdpos
  unfold ratioLog2
  simp only [hreaches]
  split
  · next hle =>
    have hge := (Int.zpow_le_iff_le_log (b := 2) (by decide) hpos).1 hle
    have hlt := (Int.lt_zpow_iff_log_lt (b := 2) (by decide) hpos).1 hhigh
    omega
  · next hnot =>
    have hge := (Int.zpow_le_iff_le_log (b := 2) (by decide) hpos).1 hlow
    have hlt := (Int.lt_zpow_iff_log_lt (b := 2) (by decide) hpos).1 (not_le.1 hnot)
    omega

def nearest (q : ℚ) : ℚ := Grid.roundMagnitude 2 53 lowestExponent q

def limit : ℚ := 2 ^ (1024 : ℤ)

theorem limit_pos : 0 < limit := two_zpow_pos _

theorem le_mul_zpow_iff (hm : m < 2 ^ 53) (hfull : lowestExponent < e → 2 ^ 52 ≤ m) :
    limit ≤ m * 2 ^ e ↔ highestExponent < e := by
  constructor
  · intro h
    by_contra hle
    have hlt : (m : ℚ) * 2 ^ e < limit :=
      calc (m : ℚ) * 2 ^ e < 2 ^ (53 : ℤ) * 2 ^ e :=
            mul_lt_mul_of_pos_right (by exact_mod_cast hm) (two_zpow_pos e)
        _ ≤ limit := by
            rw [limit, ← zpow_add₀ two_ne_zero]
            unfold highestExponent at hle
            exact zpow_le_zpow_right₀ one_le_two (by omega)
    exact not_le.2 hlt h
  · intro h
    have hfull : 2 ^ 52 ≤ m := by
      unfold highestExponent lowestExponent at *
      exact hfull (by omega)
    calc limit ≤ 2 ^ (52 : ℤ) * 2 ^ e := by
          rw [limit, ← zpow_add₀ two_ne_zero]
          unfold highestExponent at h
          exact zpow_le_zpow_right₀ one_le_two (by omega)
      _ ≤ m * 2 ^ e := mul_le_mul_of_nonneg_right (by exact_mod_cast hfull) (two_zpow_pos e).le

theorem ofRatio_eq (hn : n ≠ 0) (hd : d ≠ 0) (s : Bool) :
    (limit ≤ nearest (n / d) ∧ ofRatio s n d = .infinity s) ∨
      (nearest (n / d) < limit ∧ ∃ m e, ofRatio s n d = .finite s m e ∧ m * 2 ^ e = nearest (n / d)) := by
  have hpos : (0 : ℚ) < n / d :=
    div_pos (Nat.cast_pos.2 (Nat.pos_of_ne_zero hn)) (Nat.cast_pos.2 (Nat.pos_of_ne_zero hd))
  obtain ⟨e, he⟩ : ∃ e, e = max lowestExponent (ratioLog2 n d - 52) := ⟨_, rfl⟩
  have hunit : Grid.unitOf 2 53 lowestExponent (n / d) = e := by
    rw [he, ratioLog2_eq hn hd, Grid.unitOf, max_comm]
    congr 1
    push_cast
    omega
  obtain ⟨m, hm⟩ : ∃ m, m = divHalfEven (n * pow2 (-e).toNat) (d * pow2 e.toNat) := ⟨_, rfl⟩
  have hden : 0 < d * pow2 e.toNat := Nat.mul_pos (by omega) (Nat.pow_pos two_pos)
  have hround : Decimal.roundEven ((n / d : ℚ) / (2 : ℕ) ^ e) = m := by
    rw [hm, ← Decimal.roundEven_div hden, shifted_ratio, Nat.cast_ofNat]
  have hnearest : nearest (n / d) = m * 2 ^ e := by
    rw [nearest, Grid.roundMagnitude, hunit, hround, Int.cast_natCast, Nat.cast_ofNat]
  have hle : m ≤ 2 ^ 53 := by
    have := Grid.roundEven_unit_le 53 lowestExponent one_lt_two hpos
    rw [hunit, hround] at this
    exact_mod_cast this
  have hge : lowestExponent < e → 2 ^ 52 ≤ m := by
    intro hlow
    have := Grid.le_roundEven_unit 52 one_lt_two hpos (hunit ▸ hlow)
    rw [hunit, hround] at this
    exact_mod_cast this
  -- a significand that runs over is one of an exponent more
  obtain ⟨m', e', hcarry, hm', hfull, hvalue⟩ : ∃ m' e', (if m = pow2 53 then (pow2 52, e + 1) else (m, e)) = (m', e') ∧
      m' < 2 ^ 53 ∧ (lowestExponent < e' → 2 ^ 52 ≤ m') ∧ (m' : ℚ) * 2 ^ e' = m * 2 ^ e := by
    by_cases hover : m = pow2 53
    · refine ⟨pow2 52, e + 1, if_pos hover, by decide, fun _ => le_rfl, ?_⟩
      rw [hover, cast_pow2, cast_pow2, ← zpow_add₀ two_ne_zero, ← zpow_add₀ two_ne_zero]
      congr 1
      push_cast
      omega
    · exact ⟨m, e, if_neg hover, lt_of_le_of_ne hle hover, hge, rfl⟩
  have hratio : ofRatio s n d = if highestExponent < e' then .infinity s else .finite s m' e' := by
    rw [ofRatio, if_neg hn]
    simp only [← he, ← hm, hcarry]
  rw [hnearest, ← hvalue, hratio]
  by_cases hbeyond : highestExponent < e'
  · exact .inl ⟨(le_mul_zpow_iff hm' hfull).2 hbeyond, if_pos hbeyond⟩
  · exact .inr ⟨lt_of_not_ge (mt (le_mul_zpow_iff hm' hfull).1 hbeyond), m', e', if_neg hbeyond, rfl⟩

def placeOf (q : ℚ) : ℕ ×ₗ ℚ :=
  if limit ≤ q then toLex (3, 0) else if q ≤ -limit then toLex (1, 0) else toLex (2, q)

theorem placeOf_mono : Monotone placeOf := by
  intro p q h
  have hlimit := limit_pos
  unfold placeOf
  split_ifs <;> simp only [Prod.Lex.toLex_le_toLex] <;> first | (exfalso; linarith) | simp [h]

theorem le_placeOf (q : ℚ) : toLex (1, 0) ≤ placeOf q := by
  unfold placeOf
  split_ifs <;> simp [Prod.Lex.toLex_le_toLex]

theorem rank_ofRatio (hn : n ≠ 0) (hd : d ≠ 0) (s : Bool) :
    (ofRatio s n d).rank = placeOf (Grid.round 2 53 lowestExponent (signed s n / d)) := by
  have hpos : (0 : ℚ) < n / d :=
    div_pos (Nat.cast_pos.2 (Nat.pos_of_ne_zero hn)) (Nat.cast_pos.2 (Nat.pos_of_ne_zero hd))
  have hround : Grid.round 2 53 lowestExponent (n / d) = nearest (n / d) := Grid.round_of_nonneg hpos.le
  have hnonneg : 0 ≤ nearest (n / d) := Grid.roundMagnitude_nonneg hpos.le
  have hlimit := limit_pos
  cases s with
  | false =>
    have hsigned : ((signed false n : ℤ) : ℚ) / d = n / d := by simp [signed]
    rw [hsigned, hround, placeOf]
    obtain ⟨hlarge, heq⟩ | ⟨hsmall, m, e, heq, hvalue⟩ := ofRatio_eq hn hd false
    · rw [heq, if_pos hlarge, rank]
    · rw [heq, if_neg (by linarith), if_neg (by linarith), rank, ← hvalue]
      simp [ratio, signed]
  | true =>
    have hsigned : ((signed true n : ℤ) : ℚ) / d = -(n / d) := by simp [signed, neg_div]
    rw [hsigned, Grid.round_neg, hround, placeOf]
    obtain ⟨hlarge, heq⟩ | ⟨hsmall, m, e, heq, hvalue⟩ := ofRatio_eq hn hd true
    · rw [heq, if_neg (by linarith), if_pos (by linarith), rank]
    · rw [heq, if_neg (by linarith), if_neg (by linarith), rank, ← hvalue]
      simp [ratio, signed]

theorem rank_sub_finite (s : Bool) (m : ℕ) (e : ℤ) (t : Bool) (n : ℕ) (f : ℤ) :
    ((finite s m e).sub (finite t n f)).rank =
      placeOf (Grid.round 2 53 lowestExponent (ratio s m e - ratio t n f)) := by
  have hneg : ratio t n f = -ratio (!t) n f := by cases t <;> simp [ratio, signed]
  have hsum : ratio s m e - ratio t n f =
      ((scaled s m e (min e f) + scaled (!t) n f (min e f) : ℤ) : ℚ) * 2 ^ min e f := by
    rw [hneg, sub_neg_eq_add, ratio_eq_scaled (min_le_left e f), ratio_eq_scaled (min_le_right e f)]
    push_cast
    ring
  rw [hsum, sub, neg, add]
  generalize scaled s m e (min e f) + scaled (!t) n f (min e f) = sum
  generalize min e f = unit
  split
  · next hzero =>
    have hlimit := limit_pos
    rw [hzero, Int.cast_zero, zero_mul, Grid.round_zero, placeOf, if_neg (by linarith), if_neg (by linarith), zero, rank]
    simp [ratio, signed]
  · next hsum =>
    have hpow : ∀ k, pow2 k ≠ 0 := fun k => (Nat.pow_pos two_pos).ne'
    rw [rank_ofRatio (Nat.mul_ne_zero (by omega) (hpow _)) (hpow _)]
    congr 2
    rw [signed_mul, signed_natAbs, Int.cast_mul, Int.cast_natCast, mul_div_assoc, pow2_div_pow2]

theorem nan_rank_le (a : Binary64) : nan.rank ≤ a.rank := by
  obtain _ | s | ⟨s, m, e⟩ := a
  · exact le_rfl
  · cases s <;> simp [rank, Prod.Lex.toLex_le_toLex]
  · simp [rank, Prod.Lex.toLex_le_toLex]

theorem rank_le (a : Binary64) : a.rank ≤ toLex (3, 0) := by
  obtain _ | s | ⟨s, m, e⟩ := a
  · simp [rank, Prod.Lex.toLex_le_toLex]
  · cases s <;> simp [rank, Prod.Lex.toLex_le_toLex]
  · simp [rank, Prod.Lex.toLex_le_toLex]

theorem le_rank (ha : a.isNaN = false) : toLex (1, 0) ≤ a.rank := by
  obtain _ | s | ⟨s, m, e⟩ := a
  · cases ha
  · cases s <;> simp [rank, Prod.Lex.toLex_le_toLex]
  · simp [rank, Prod.Lex.toLex_le_toLex]

theorem isNaN_of_rank (ha : a.isNaN = false) (h : a.rank ≤ b.rank) : b.isNaN = false := by
  cases b with
  | nan => exact absurd ((le_rank ha).trans h) (by simp [rank, Prod.Lex.toLex_le_toLex])
  | infinity s => rfl
  | finite s m e => rfl

theorem eq_infinity_of_rank (h : (infinity false).rank ≤ a.rank) : a = .infinity false := by
  obtain _ | s | ⟨s, m, e⟩ := a
  · exact absurd h (by simp [rank, Prod.Lex.toLex_le_toLex])
  · cases s with
    | false => rfl
    | true => exact absurd h (by simp [rank, Prod.Lex.toLex_le_toLex])
  · exact absurd h (by simp [rank, Prod.Lex.toLex_le_toLex])

theorem rank_sub_mono (htop : top.isNaN = false) (ha : top.rank ≤ a.rank) (h : a.rank ≤ b.rank) :
    (a.sub top).rank ≤ (b.sub top).rank := by
  have hna := isNaN_of_rank htop ha
  have hnb := isNaN_of_rank hna h
  cases top with
  | nan => cases htop
  | infinity s =>
    cases s with
    | false => rw [eq_infinity_of_rank ha, eq_infinity_of_rank (ha.trans h)]
    | true =>
      -- only the other places at the top are no distance away
      obtain _ | s | ⟨s, m, e⟩ := a
      · cases hna
      · cases s with
        | false => rw [eq_infinity_of_rank h]
        | true => exact nan_rank_le _
      · obtain _ | t | ⟨t, n, f⟩ := b
        · cases hnb
        · cases t with
          | false => exact le_rfl
          | true => exact absurd h (by simp [rank, Prod.Lex.toLex_le_toLex])
        · exact le_rfl
  | finite r k g =>
    obtain _ | s | ⟨s, m, e⟩ := a
    · cases hna
    · cases s with
      | false => rw [eq_infinity_of_rank h]
      | true =>
        obtain _ | t | ⟨t, n, f⟩ := b
        · cases hnb
        · exact le_rank rfl
        · rw [rank_sub_finite]
          exact le_placeOf _
    · obtain _ | t | ⟨t, n, f⟩ := b
      · cases hnb
      · cases t with
        | false => exact rank_le _
        | true => exact absurd h (by simp [rank, Prod.Lex.toLex_le_toLex])
      · rw [rank_sub_finite, rank_sub_finite]
        apply placeOf_mono
        apply Grid.round_mono (by decide) (by decide)
        apply sub_le_sub_right
        simpa [rank, Prod.Lex.toLex_le_toLex] using h

theorem rank_sub_self (a : Binary64) : (a.sub a).rank ≤ toLex (2, 0) := by
  obtain _ | s | ⟨s, m, e⟩ := a
  · simp [sub, add, rank, Prod.Lex.toLex_le_toLex]
  · cases s <;> simp [sub, add, neg, rank, Prod.Lex.toLex_le_toLex]
  · have hlimit := limit_pos
    rw [rank_sub_finite, sub_self, Grid.round_zero, placeOf, if_neg (by linarith), if_neg (by linarith)]

end Binary64

namespace Number

def IsNonneg : Number → Prop
  | .int n => 0 ≤ n
  | .float x => x.isNaN = false ∧ x.lt (Binary64.zero false) = false
  | .bool _ => True

def rank : Number → ℕ ×ₗ ℚ
  | .int n => toLex (2, n)
  | .float x => x.rank
  | .bool b => toLex (2, if b then 1 else 0)

variable {epsilon : Number} {x : Binary64}

theorem IsNonneg.le_rank (h : epsilon.IsNonneg) : toLex (2, 0) ≤ epsilon.rank := by
  cases epsilon with
  | int n => exact Prod.Lex.toLex_le_toLex.2 (.inr ⟨rfl, Int.cast_nonneg h⟩)
  | float x =>
    have hzero : (Binary64.zero false).rank = toLex (2, 0) := by
      simp [Binary64.zero, Binary64.rank, Binary64.ratio, Binary64.signed]
    rw [rank, ← hzero, ← not_lt, ← Binary64.lt_iff_rank h.1 rfl, h.2]
    exact Bool.false_ne_true
  | bool b => cases b <;> simp [rank, Prod.Lex.toLex_le_toLex]

theorem intBelow_iff (n : ℤ) (x : Binary64) : intBelow n x = true ↔ toLex (2, (n : ℚ)) < x.rank := by
  obtain _ | s | ⟨s, m, e⟩ := x
  · simp [intBelow, Binary64.rank, Prod.Lex.toLex_lt_toLex]
  · cases s <;> simp [intBelow, Binary64.rank, Prod.Lex.toLex_lt_toLex]
  · have hden : (0 : ℚ) < (pow2 (-e).toNat : ℕ) := Nat.cast_pos.2 (Nat.pow_pos two_pos)
    have hvalue : (n : ℚ) < Binary64.ratio s m e ↔
        n * pow2 (-e).toNat < Binary64.signed s (m * pow2 e.toNat) := by
      rw [Binary64.ratio, ← Binary64.pow2_div_pow2, ← mul_div_assoc, lt_div_iff₀ hden, Binary64.signed_mul]
      exact_mod_cast Iff.rfl
    simp [intBelow, Binary64.rank, Prod.Lex.toLex_lt_toLex, hvalue]

theorem isBelow_iff (h : epsilon.IsNonneg) (x : Binary64) : epsilon.isBelow x = true ↔ epsilon.rank < x.rank := by
  cases epsilon with
  | int n => exact intBelow_iff n x
  | float y =>
    cases hx : x.isNaN with
    | false => exact Binary64.lt_iff_rank h.1 hx
    | true =>
      rw [Binary64.eq_nan_of_isNaN hx]
      refine iff_of_false ?_ (Binary64.nan_rank_le y).not_gt
      cases y <;> simp [isBelow, Binary64.lt, Binary64.order?]
  | bool b =>
    have hbool := intBelow_iff (if b then 1 else 0) x
    cases b <;> simpa [rank, isBelow] using hbool

end Number

end LedgerFlow
