import LedgerFlow.Balance
import LedgerFlow.Proofs.Decimal.Operations
import LedgerFlow.Proofs.Decimal.Sign

namespace LedgerFlow

namespace Decimal

def IsTotal (a : Decimal) : Prop := a = .infinity false ∨ ∃ p, a.value? = some p ∧ 0 ≤ p ∧ round p = p

def AtMost (a b : Decimal) : Prop := b = .infinity false ∨ ∃ p q, a.value? = some p ∧ b.value? = some q ∧ p ≤ q

section

variable {a b c d x y : Decimal} {g : Signal}

theorem isTotal_zero : IsTotal 0 := .inr ⟨0, value?_zero, le_rfl, round_zero⟩

theorem IsTotal.atMost_self (h : a.IsTotal) : a.AtMost a := by
  obtain rfl | ⟨p, hp, -, -⟩ := h
  · exact .inl rfl
  · exact .inr ⟨p, p, hp, hp, le_rfl⟩

theorem AtMost.trans (hab : a.AtMost b) (hbc : b.AtMost c) : a.AtMost c := by
  obtain rfl | ⟨p, q, ha, hb, hpq⟩ := hab
  · obtain rfl | ⟨q, r, hb, -, -⟩ := hbc
    · exact .inl rfl
    · cases hb
  · obtain rfl | ⟨q', r, hb', hc, hqr⟩ := hbc
    · exact .inl rfl
    · cases hb.symm.trans hb'
      exact .inr ⟨p, r, ha, hc, hpq.trans hqr⟩

theorem IsTotal.add (ha : a.IsTotal) (hd : d.isPositive = true) (h : a.add d = .ok x) : x.IsTotal ∧ a.AtMost x := by
  obtain rfl | ⟨p, hp, hnonneg, hround⟩ := ha
  · obtain rfl | ⟨q, hq, -⟩ := value?_of_isPositive hd
    · cases h
      exact ⟨.inl rfl, .inl rfl⟩
    · obtain ⟨s, c, e, rfl, -⟩ := value?_eq_some.1 hq
      cases h
      exact ⟨.inl rfl, .inl rfl⟩
  · obtain rfl | ⟨q, hq, hpos⟩ := value?_of_isPositive hd
    · obtain ⟨s, c, e, rfl, -⟩ := value?_eq_some.1 hp
      cases h
      exact ⟨.inl rfl, .inl rfl⟩
    · have hx := (rounds_add hp hq).value? h
      refine ⟨.inr ⟨_, hx, round_nonneg (by linarith), round_round _⟩, .inr ⟨p, _, hp, hx, ?_⟩⟩
      rw [← hround]
      exact round_mono (by linarith)

theorem AtMost.add (hab : a.AtMost b) (hd : d.isPositive = true) (hx : a.add d = .ok x)
    (hy : b.add d = .ok y) : x.AtMost y := by
  obtain rfl | ⟨q, hq, -⟩ := value?_of_isPositive hd
  · obtain rfl | ⟨p, r, -, hb, -⟩ := hab
    · cases hy
      exact .inl rfl
    · obtain ⟨s, c, e, rfl, -⟩ := value?_eq_some.1 hb
      cases hy
      exact .inl rfl
  · obtain rfl | ⟨p, r, hp, hr, hpr⟩ := hab
    · obtain ⟨s, c, e, rfl, -⟩ := value?_eq_some.1 hq
      cases hy
      exact .inl rfl
    · exact .inr ⟨_, _, (rounds_add hp hq).value? hx, (rounds_add hr hq).value? hy, round_mono (by linarith)⟩

theorem IsTotal.overflow_of_add (ha : a.IsTotal) (hd : d.isPositive = true) (h : a.add d = .error g) :
    g = .overflow := by
  obtain rfl | ⟨q, hq, -⟩ := value?_of_isPositive hd
  · obtain rfl | ⟨p, hp, -, -⟩ := ha
    · cases h
    · obtain ⟨s, c, e, rfl, -⟩ := value?_eq_some.1 hp
      cases h
  · obtain rfl | ⟨p, hp, -, -⟩ := ha
    · obtain ⟨s, c, e, rfl, -⟩ := value?_eq_some.1 hq
      cases h
    · exact (rounds_add hp hq).overflow h

end

end Decimal

namespace BalanceEstimator

open Decimal

section

variable {a b x y : Decimal} {ds es : List Decimal} {f : Fault}

theorem sum_cons_eq_ok {d : Decimal} : sum a (d :: ds) = .ok x ↔ ∃ b, a.add d = .ok b ∧ sum b ds = .ok x := by
  rw [sum, except_bind_eq_ok]
  simp only [Amount.ofResult_eq_ok]

theorem isTotal_sum (ha : a.IsTotal) (hds : ∀ d ∈ ds, d.isPositive = true) (h : sum a ds = .ok x) : x.IsTotal := by
  induction ds generalizing a with
  | nil =>
    cases h
    exact ha
  | cons d ds ih =>
    obtain ⟨b, hb, h⟩ := sum_cons_eq_ok.1 h
    exact ih (ha.add (hds d List.mem_cons_self) hb).1 (fun c hc => hds c (.tail _ hc)) h

/-- To leave out amounts makes the sum no larger, although every partial sum is rounded. -/
theorem sum_atMost (hsub : ds.Sublist es) (hes : ∀ d ∈ es, d.isPositive = true) (ha : a.IsTotal) (hb : b.IsTotal)
    (hab : a.AtMost b) (hx : sum a ds = .ok x) (hy : sum b es = .ok y) : x.AtMost y := by
  induction hsub generalizing a b with
  | slnil =>
    cases hx
    cases hy
    exact hab
  | cons d hsub ih =>
    obtain ⟨c, hc, hy⟩ := sum_cons_eq_ok.1 hy
    obtain ⟨htotal, hle⟩ := hb.add (hes d List.mem_cons_self) hc
    exact ih (fun d hd => hes d (.tail _ hd)) ha htotal (hab.trans hle) hx hy
  | cons_cons d hsub ih =>
    obtain ⟨a', ha', hx⟩ := sum_cons_eq_ok.1 hx
    obtain ⟨b', hb', hy⟩ := sum_cons_eq_ok.1 hy
    have hd := hes d List.mem_cons_self
    exact ih (fun d hd => hes d (.tail _ hd)) (ha.add hd ha').1 (hb.add hd hb').1 (hab.add hd ha' hb') hx hy

theorem overflow_of_sum (ha : a.IsTotal) (hds : ∀ d ∈ ds, d.isPositive = true) (h : sum a ds = .error f) :
    f = Fault.ofSignal .overflow := by
  induction ds generalizing a with
  | nil => cases h
  | cons d ds ih =>
    have hd := hds d List.mem_cons_self
    rw [sum] at h
    cases hadd : a.add d with
    | error g =>
      rw [hadd] at h
      cases h
      rw [ha.overflow_of_add hd hadd]
    | ok b =>
      rw [hadd] at h
      exact ih (ha.add hd hadd).1 (fun c hc => hds c (.tail _ hc)) h

end

section

variable {e : BalanceEstimator} {id asset : String} {d : Decimal} {p : ℚ} {spent more : Decimal}

variable (e id asset) in
def spentOn : List Decimal :=
  (e.spentBefore id).filterMap fun c => if c.asset == Text.upper asset then some c.amount else none

variable (e asset) in
def held : Decimal := (e.base.lookup (Text.upper asset)).getD 0

def remainder (p : ℚ) (spent : Decimal) : ℚ :=
  match spent.value? with
  | some q => max (Decimal.round (p - q)) 0
  | none => 0

theorem isPositive_of_mem_spentOn (h : d ∈ e.spentOn id asset) : d.isPositive = true := by
  obtain ⟨c, hc, hd⟩ := List.mem_filterMap.1 h
  obtain ⟨s, -, hs⟩ := List.mem_filterMap.1 hc
  unfold Node.consumption? at hs
  obtain ⟨⟨a, m⟩, -, hs⟩ := Option.bind_eq_some_iff.1 hs
  obtain ⟨a', -, hs⟩ := Option.bind_eq_some_iff.1 hs
  obtain ⟨m', hm, hs⟩ := Option.bind_eq_some_iff.1 hs
  cases hs
  split at hd
  · cases hd
    exact (Option.filter_eq_some_iff.1 hm).2
  · cases hd

theorem remainder_nonneg : 0 ≤ remainder p spent := by
  unfold remainder
  split
  · exact le_max_right _ _
  · exact le_rfl

theorem remainder_le (hp : 0 ≤ p) (hspent : spent.IsTotal) : remainder p spent ≤ Decimal.round p := by
  unfold remainder
  split
  · next q hq =>
    obtain rfl | ⟨q', hq', hnonneg, -⟩ := hspent
    · cases hq
    · cases hq.symm.trans hq'
      exact max_le (round_mono (by linarith)) (round_nonneg hp)
  · exact round_nonneg hp

theorem remainder_anti (h : spent.AtMost more) : remainder p more ≤ remainder p spent := by
  obtain rfl | ⟨q, r, hq, hr, hqr⟩ := h
  · exact remainder_nonneg
  · rw [remainder, remainder, hq, hr]
    exact max_le_max_right 0 (round_mono (by linarith))

theorem estimate_eq_ok {x : Decimal} :
    e.estimate id asset = .ok x ↔ ∃ spent, sum 0 (e.spentOn id asset) = .ok spent ∧
      ∃ left, (e.held asset).sub spent = .ok left ∧ left.maximum 0 = .ok x := by
  have hestimate : e.estimate id asset = (sum 0 (e.spentOn id asset) >>= fun spent =>
      Amount.ofResult ((e.held asset).sub spent) >>= fun left => Amount.ofResult (left.maximum 0)) := rfl
  rw [hestimate]
  simp only [except_bind_eq_ok, Amount.ofResult_eq_ok]

theorem estimate_cases (id : String) (hheld : (e.held asset).value? = some p) :
    e.estimate id asset = .error (Fault.ofSignal .overflow) ∨
      ∃ spent x, sum 0 (e.spentOn id asset) = .ok spent ∧ e.estimate id asset = .ok x ∧
        x.value? = some (remainder p spent) := by
  have hpositive := fun d (hd : d ∈ e.spentOn id asset) => isPositive_of_mem_spentOn hd
  have hestimate : e.estimate id asset = (sum 0 (e.spentOn id asset) >>= fun spent =>
      Amount.ofResult ((e.held asset).sub spent) >>= fun left => Amount.ofResult (left.maximum 0)) := rfl
  cases hsum : sum 0 (e.spentOn id asset) with
  | error f =>
    rw [hestimate, hsum, overflow_of_sum isTotal_zero hpositive hsum]
    exact .inl rfl
  | ok spent =>
    obtain rfl | ⟨q, hq, -, -⟩ := isTotal_sum isTotal_zero hpositive hsum
    · obtain ⟨s, c, k, hfinite, -⟩ := value?_eq_some.1 hheld
      have hx : e.estimate id asset = .ok 0 :=
        estimate_eq_ok.2 ⟨_, hsum, .infinity true, by rw [hfinite]; rfl, rfl⟩
      exact .inr ⟨_, 0, rfl, hx, value?_zero⟩
    · have hleft := rounds_sub hheld hq
      cases hsub : (e.held asset).sub spent with
      | error g =>
        left
        rw [hestimate, hsum]
        show (Amount.ofResult ((e.held asset).sub spent) >>= fun left => Amount.ofResult (left.maximum 0)) = _
        rw [hsub, hleft.overflow hsub]
        rfl
      | ok left =>
        obtain ⟨x, hx, hvalue⟩ := value?_maximum (hleft.value? hsub) value?_zero
        refine .inr ⟨_, x, rfl, estimate_eq_ok.2 ⟨_, hsum, left, hsub, hx⟩, ?_⟩
        rw [hvalue, remainder, hq]

end

end BalanceEstimator

end LedgerFlow
