import LedgerFlow.Proofs.Replay.Sourcing

namespace LedgerFlow

namespace CoinPool

variable {p : CoinPool} {t u : String} {c : PooledCoin} {change : Int}

theorem find?_erase (p : CoinPool) (t u : String) : (p.erase t).find? u = if u = t then none else p.find? u := by
  unfold erase find?
  rw [List.find?_filter]
  by_cases h : u = t
  · subst h
    simp
  · rw [if_neg h]
    congr 1
    funext c
    by_cases hc : c.coinType = u
    · simp [hc, h]
    · simp [hc]

theorem find?_adjust (p : CoinPool) (t u : String) (change : Int) :
    (p.adjust t change).find? u =
      (p.find? u).map fun c => if u = t then { c with amount := c.amount + change } else c := by
  unfold adjust find?
  rw [List.find?_map]
  have hp : ((fun c : PooledCoin => c.coinType == u) ∘ fun c : PooledCoin =>
      if c.coinType == t then { c with amount := c.amount + change } else c) = fun c => c.coinType == u := by
    funext c
    simp only [Function.comp_apply]
    split <;> rfl
  rw [hp]
  cases hf : p.coins.find? (·.coinType == u) with
  | none => rfl
  | some c =>
    have hc : c.coinType = u := coinType_of_find? hf
    simp [hc]

theorem find?_insert (h : p.find? c.coinType = none) (u : String) :
    (p.insert c).find? u = if u = c.coinType then some c else p.find? u := by
  unfold insert find?
  rw [List.find?_append]
  by_cases hu : u = c.coinType
  · subst hu
    have hnone : p.coins.find? (·.coinType == c.coinType) = none := h
    simp [hnone]
  · have hne : ¬c.coinType = u := fun heq => hu heq.symm
    simp [hu, hne]

def Positive (p : CoinPool) : Prop := ∀ t c, p.find? t = some c → 0 < c.amount

theorem Positive.available_nonneg (h : p.Positive) (t : String) : 0 ≤ p.available t := by
  cases hf : p.find? t with
  | none => exact Int.le_of_eq (available_of_find?_none hf).symm
  | some c =>
    rw [available_of_find? hf]
    exact Int.le_of_lt (h t c hf)

structure Changed (p : CoinPool) (t : String) (change : Int) (q : CoinPool) : Prop where
  positive : q.Positive
  available : ∀ u, q.available u = p.available u + if u = t then change else 0

theorem changed_erase (hp : p.Positive) (hf : p.find? t = some c) : p.Changed t (-c.amount) (p.erase t) where
  positive := by
    intro u d hd
    rw [find?_erase] at hd
    split at hd
    · cases hd
    · exact hp u d hd
  available := by
    intro u
    by_cases hu : u = t
    · subst hu
      have hnone : (p.erase u).find? u = none := by rw [find?_erase, if_pos rfl]
      rw [available_of_find?_none hnone, available_of_find? hf, if_pos rfl, Int.add_right_neg]
    · rw [available, available, find?_erase, if_neg hu, if_neg hu, Int.add_zero]

theorem changed_adjust (hp : p.Positive) (hf : p.find? t = some c) (hpos : 0 < c.amount + change) :
    p.Changed t change (p.adjust t change) where
  positive := by
    intro u d hd
    rw [find?_adjust] at hd
    obtain ⟨e, he, rfl⟩ := Option.map_eq_some_iff.1 hd
    split
    · next hu =>
      subst hu
      cases hf.symm.trans he
      exact hpos
    · exact hp u e he
  available := by
    intro u
    unfold available
    rw [find?_adjust]
    by_cases hu : u = t
    · subst hu
      simp [hf]
    · simp [hu]

theorem changed_insert (c : PooledCoin) (hp : p.Positive) (hf : p.find? c.coinType = none) (hpos : 0 < c.amount) :
    p.Changed c.coinType c.amount (p.insert c) where
  positive := by
    intro u d hd
    rw [find?_insert hf] at hd
    split at hd
    · cases hd
      exact hpos
    · exact hp u d hd
  available := by
    intro u
    unfold available
    rw [find?_insert hf]
    by_cases hu : u = c.coinType
    · subst hu
      simp [hf]
    · simp [hu]

end CoinPool

end LedgerFlow
