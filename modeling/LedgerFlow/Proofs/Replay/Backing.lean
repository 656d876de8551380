import LedgerFlow.Proofs.Replay.Store

namespace LedgerFlow

namespace CoinStore

/-- The store backs these coins, and no other coin that a command made is there any more. -/
structure Backs (st : CoinStore) (cs : List PooledCoin) : Prop where
  held : ∀ c ∈ cs, ∃ n k, st.find c.coin = some (.made n k) ∧
    st.worth (.made n k) = some (.coin c.coinType c.amount)
  apart : cs.Pairwise fun a b => st.find a.coin ≠ st.find b.coin
  known : ∀ n k x, st.worth (.made n k) = some x → x.isLive = true → ∃ c ∈ cs, st.find c.coin = some (.made n k)
  fresh : ∀ n k, st.size ≤ n → st.worth (.made n k) = none

structure SameLedger (st other : CoinStore) : Prop where
  gas : other.worth .gas = st.worth .gas
  object : ∀ id, other.worth (.object id) = st.worth (.object id)

namespace SameLedger

variable {st other third : CoinStore}

theorem refl (st : CoinStore) : SameLedger st st := ⟨rfl, fun _ => rfl⟩

theorem trans (h : SameLedger st other) (h' : SameLedger other third) : SameLedger st third :=
  ⟨h'.gas.trans h.gas, fun id => (h'.object id).trans (h.object id)⟩

theorem set_made {n k : Nat} {x : Worth} : SameLedger st (st.set (.made n k) x) :=
  ⟨worth_set_of_ne (by simp), fun _ => worth_set_of_ne (by simp)⟩

theorem push {kind : CommandKind} {made : Nat → Option Worth} : SameLedger st (st.push kind made) :=
  ⟨rfl, fun _ => rfl⟩

theorem pay {y : Payment} : SameLedger st (st.pay y) := ⟨rfl, fun _ => rfl⟩

end SameLedger

namespace Backs

variable {st : CoinStore} {c d : PooledCoin} {cs ds rest : List PooledCoin}

theorem perm (h : st.Backs cs) (hp : cs.Perm ds) : st.Backs ds where
  held c hc := h.held c (hp.mem_iff.2 hc)
  apart := (hp.pairwise_iff fun hab => hab.symm).1 h.apart
  known n k x hx hl := by
    obtain ⟨c, hc, hf⟩ := h.known n k x hx hl
    exact ⟨c, hp.mem_iff.1 hc, hf⟩
  fresh := h.fresh

theorem congr {other : CoinStore} (h : st.Backs cs) (hk : other.kinds = st.kinds)
    (hw : ∀ n k, other.worth (.made n k) = st.worth (.made n k)) : other.Backs cs where
  held c hc := by
    obtain ⟨n, k, hf, hn⟩ := h.held c hc
    exact ⟨n, k, (find_of_kinds hk _).trans hf, (hw n k).trans hn⟩
  apart := h.apart.imp fun hab => by rwa [find_of_kinds hk, find_of_kinds hk]
  known n k x hx hl := by
    obtain ⟨c, hc, hf⟩ := h.known n k x ((hw n k).symm.trans hx) hl
    exact ⟨c, hc, (find_of_kinds hk _).trans hf⟩
  fresh n k hn := by
    have hs : other.size = st.size := congrArg List.length hk
    exact (hw n k).trans (h.fresh n k (hs ▸ hn))

variable {n k : Nat} {x y : Worth}

theorem ne_of_mem_rest (h : st.Backs (c :: rest)) (hc : st.find c.coin = some (.made n k)) (hd : d ∈ rest) :
    st.find d.coin ≠ some (.made n k) := by
  intro hf
  exact List.rel_of_pairwise_cons h.apart hd (hc.trans hf.symm)

theorem held_set (h : st.Backs cs) (hd : d ∈ cs) (hne : st.find d.coin ≠ some (.made n k)) :
    ∃ m j, (st.set (.made n k) x).find d.coin = some (.made m j) ∧
      (st.set (.made n k) x).worth (.made m j) = some (.coin d.coinType d.amount) := by
  obtain ⟨m, j, hf, hw⟩ := h.held d hd
  refine ⟨m, j, (find_set _).trans hf, ?_⟩
  rw [worth_set_of_ne, hw]
  rintro heq
  exact hne (heq ▸ hf)

theorem known_set (h : st.Backs cs) {m j : Nat} (hne : Place.made m j ≠ .made n k)
    (hy : (st.set (.made n k) x).worth (.made m j) = some y) (hl : y.isLive = true) :
    ∃ d ∈ cs, st.find d.coin = some (.made m j) := by
  rw [worth_set_of_ne hne] at hy
  exact h.known m j y hy hl

theorem fresh_set (h : st.Backs cs) (hy : st.worth (.made n k) = some y) {m : Nat} (hm : st.size ≤ m) (j : Nat) :
    (st.set (.made n k) x).worth (.made m j) = none := by
  rw [worth_set_of_ne, h.fresh m j hm]
  rintro ⟨⟩
  simp [h.fresh n k hm] at hy

theorem worth_of_find (h : st.Backs (c :: rest)) (hc : st.find c.coin = some (.made n k)) :
    st.worth (.made n k) = some (.coin c.coinType c.amount) := by
  obtain ⟨m, j, hf, hw⟩ := h.held c List.mem_cons_self
  rw [hc] at hf
  cases hf
  exact hw

theorem set_amount (h : st.Backs (c :: rest)) (hc : st.find c.coin = some (.made n k)) (amount : Int) :
    (st.set (.made n k) (.coin c.coinType amount)).Backs ({ c with amount := amount } :: rest) where
  held d hd := by
    cases hd with
    | head => exact ⟨n, k, (find_set _).trans hc, worth_set_self⟩
    | tail _ hd => exact h.held_set (.tail _ hd) (h.ne_of_mem_rest hc hd)
  apart := by
    obtain ⟨hhead, hrest⟩ := List.pairwise_cons.1 h.apart
    simp only [find_set]
    exact List.pairwise_cons.2 ⟨hhead, hrest⟩
  known m j y hy hl := by
    simp only [find_set]
    by_cases hp : (Place.made m j) = .made n k
    · exact ⟨_, List.mem_cons_self, hp ▸ hc⟩
    · obtain ⟨d, hd, hf⟩ := h.known_set hp hy hl
      cases hd with
      | head => exact ⟨_, List.mem_cons_self, hf⟩
      | tail _ hd => exact ⟨d, .tail _ hd, hf⟩
  fresh m j hm := h.fresh_set (h.worth_of_find hc) hm j

theorem set_spent (h : st.Backs (c :: rest)) (hc : st.find c.coin = some (.made n k)) :
    (st.set (.made n k) .spent).Backs rest where
  held d hd := h.held_set (.tail _ hd) (h.ne_of_mem_rest hc hd)
  apart := by
    simp only [find_set]
    exact (List.pairwise_cons.1 h.apart).2
  known m j y hy hl := by
    simp only [find_set]
    by_cases hp : (Place.made m j) = .made n k
    · rw [hp, worth_set_self] at hy
      cases hy
      cases hl
    · obtain ⟨d, hd, hf⟩ := h.known_set hp hy hl
      cases hd with
      | head =>
        rw [hc] at hf
        exact absurd (Option.some.inj hf).symm hp
      | tail _ hd => exact ⟨d, hd, hf⟩
  fresh m j hm := h.fresh_set (h.worth_of_find hc) hm j

theorem set_output (h : st.Backs cs) (hw : st.worth (.made n k) = some .output) :
    (st.set (.made n k) .spent).Backs cs where
  held d hd := by
    apply h.held_set hd
    intro hf
    obtain ⟨m, j, hg, hv⟩ := h.held d hd
    rw [hf] at hg
    cases hg
    simp [hw] at hv
  apart := by
    simp only [find_set]
    exact h.apart
  known m j y hy hl := by
    simp only [find_set]
    by_cases hp : (Place.made m j) = .made n k
    · rw [hp, worth_set_self] at hy
      cases hy
      cases hl
    · exact h.known_set hp hy hl
  fresh m j hm := h.fresh_set hw hm j

variable {kind : CommandKind} {made : Nat → Option Worth}

theorem held_push (h : st.Backs cs) (hc : c ∈ cs) :
    ∃ n k, n ≠ st.size ∧ st.find c.coin = some (.made n k) ∧
      (st.push kind made).find c.coin = some (.made n k) ∧
      (st.push kind made).worth (.made n k) = some (.coin c.coinType c.amount) := by
  obtain ⟨n, k, hf, hw⟩ := h.held c hc
  have hn : n ≠ st.size := by
    rintro rfl
    simp [h.fresh st.size k (Nat.le_refl _)] at hw
  exact ⟨n, k, hn, hf, find_of_prefix kinds_push hf, (worth_push_of_ne hn).trans hw⟩

theorem apart_push (h : st.Backs cs) :
    cs.Pairwise fun a b => (st.push kind made).find a.coin ≠ (st.push kind made).find b.coin := by
  apply h.apart.imp_of_mem
  intro a b ha hb hab
  obtain ⟨n, k, -, hfa, hga, -⟩ := h.held_push ha
  obtain ⟨m, j, -, hfb, hgb, -⟩ := h.held_push hb
  rwa [hga, hgb, ← hfa, ← hfb]

theorem known_push (h : st.Backs cs) {n k : Nat} {x : Worth} (hn : n ≠ st.size)
    (hx : (st.push kind made).worth (.made n k) = some x) (hl : x.isLive = true) :
    ∃ c ∈ cs, (st.push kind made).find c.coin = some (.made n k) := by
  rw [worth_push_of_ne hn] at hx
  obtain ⟨c, hc, hf⟩ := h.known n k x hx hl
  exact ⟨c, hc, find_of_prefix kinds_push hf⟩

theorem fresh_push (h : st.Backs cs) {n : Nat} (hn : (st.push kind made).size ≤ n) (k : Nat) :
    (st.push kind made).worth (.made n k) = none := by
  rw [size_push] at hn
  rw [worth_push_of_ne (Nat.ne_of_gt hn), h.fresh n k (Nat.le_of_succ_le hn)]

theorem push (h : st.Backs cs) (hm : ∀ k x, made k = some x → x.isLive = false) :
    (st.push kind made).Backs cs where
  held c hc := by
    obtain ⟨n, k, -, -, hf, hw⟩ := h.held_push hc
    exact ⟨n, k, hf, hw⟩
  apart := h.apart_push
  known n k x hx hl := by
    by_cases hn : n = st.size
    · subst hn
      rw [worth_push_made] at hx
      simp [hm k x hx] at hl
    · exact h.known_push hn hx hl
  fresh n k hn := h.fresh_push hn k

theorem push_nothing (h : st.Backs cs) : (st.push kind fun _ => none).Backs cs :=
  h.push (by simp)

theorem push_coin (h : st.Backs cs) (hw : made 0 = some (.coin c.coinType c.amount))
    (hm : ∀ k x, k ≠ 0 → made k = some x → x.isLive = false)
    (hf : (st.push kind made).find c.coin = some (.made st.size 0)) : (st.push kind made).Backs (c :: cs) where
  held d hd := by
    cases hd with
    | head => exact ⟨st.size, 0, hf, worth_push_made.trans hw⟩
    | tail _ hd =>
      obtain ⟨n, k, -, -, hf, hw⟩ := h.held_push hd
      exact ⟨n, k, hf, hw⟩
  apart := by
    rw [List.pairwise_cons]
    refine ⟨?_, h.apart_push⟩
    intro d hd heq
    obtain ⟨n, k, hn, -, hg, -⟩ := @held_push _ _ _ kind made h hd
    rw [hf, hg] at heq
    cases heq
    exact hn rfl
  known n k x hx hl := by
    by_cases hn : n = st.size
    · subst hn
      rw [worth_push_made] at hx
      by_cases hk : k = 0
      · subst hk
        exact ⟨c, List.mem_cons_self, hf⟩
      · simp [hm k x hk hx] at hl
    · obtain ⟨d, hd, hf⟩ := h.known_push hn hx hl
      exact ⟨d, .tail _ hd, hf⟩
  fresh n k hn := h.fresh_push hn k

end Backs

end CoinStore

end LedgerFlow
