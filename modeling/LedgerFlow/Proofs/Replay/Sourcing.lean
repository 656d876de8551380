import LedgerFlow.Proofs.Assembly.Workspace
import LedgerFlow.Proofs.Replay.Wallet

namespace LedgerFlow

namespace CoinPool

variable {p : CoinPool} {t : String} {c : PooledCoin}

theorem coinType_of_find? (h : p.find? t = some c) : c.coinType = t := by
  simpa using List.find?_some h

theorem perm_of_find? (hn : (p.coins.map (·.coinType)).Nodup) (h : p.find? t = some c) :
    p.coins.Perm (c :: (p.erase t).coins) := by
  obtain ⟨cs⟩ := p
  unfold find? at h
  unfold erase
  induction cs with
  | nil => cases h
  | cons d rest ih =>
    simp only [List.map_cons, List.nodup_cons, List.mem_map, not_exists, not_and] at hn
    rw [List.find?_cons] at h
    split at h
    · next hd =>
      cases h
      have hr : rest.filter (·.coinType != t) = rest := by
        rw [List.filter_eq_self]
        intro a ha
        simpa [← beq_iff_eq.1 hd] using hn.1 a ha
      rw [List.filter_cons, bne, hd, hr]
      exact .refl _
    · next hd =>
      simp only [List.filter_cons, bne, hd, Bool.not_false, if_true]
      exact ((ih hn.2 h).cons d).trans (.swap c d _)

theorem perm_adjust (hn : (p.coins.map (·.coinType)).Nodup) (h : p.find? t = some c) (change : Int) :
    (p.adjust t change).coins.Perm ({ c with amount := c.amount + change } :: (p.erase t).coins) := by
  have hp := (perm_of_find? hn h).map fun d =>
    if d.coinType == t then { d with amount := d.amount + change } else d
  have hr : (p.erase t).coins.map (fun d =>
      if d.coinType == t then { d with amount := d.amount + change } else d) = (p.erase t).coins := by
    apply (List.map_congr_left ?_).trans (List.map_id _)
    intro d hd
    have hne := (List.mem_filter.1 hd).2
    rw [bne_iff_ne] at hne
    simp [hne]
  rw [List.map_cons, hr, if_pos (by simp [coinType_of_find? h])] at hp
  exact hp

theorem types_adjust (change : Int) :
    (p.adjust t change).coins.map (·.coinType) = p.coins.map (·.coinType) := by
  simp only [adjust, List.map_map]
  apply List.map_congr_left
  intro c _
  simp only [Function.comp_apply]
  split <;> rfl

theorem types_erase (hn : (p.coins.map (·.coinType)).Nodup) : ((p.erase t).coins.map (·.coinType)).Nodup :=
  (List.filter_sublist.map _).nodup hn

theorem types_insert (hn : (p.coins.map (·.coinType)).Nodup) (h : p.find? c.coinType = none) :
    ((p.insert c).coins.map (·.coinType)).Nodup := by
  simp only [insert, List.map_append, List.map_cons, List.map_nil]
  rw [List.nodup_append]
  refine ⟨hn, by simp, ?_⟩
  rintro _ ha _ hb rfl
  obtain ⟨d, hd, rfl⟩ := List.mem_map.1 ha
  have := List.find?_eq_none.1 h d hd
  simp_all

theorem available_of_find?_none (h : p.find? t = none) : p.available t = 0 := by
  simp [available, h]

theorem available_of_find? (h : p.find? t = some c) : p.available t = c.amount := by
  simp [available, h]

end CoinPool

/-- What was recorded so far replays to this store. It backs the pool and the coins that the step at work holds,
agrees with the wallet, and these payments were made. -/
structure Workspace.Backed (l : Ledger) (w : Workspace) (held : List PooledCoin) (paid : List Payment)
    (st : CoinStore) : Prop where
  replayed : CoinStore.replay w.tx.commands l.opening = some st
  backs : st.Backs (held ++ w.pool.coins)
  types : (w.pool.coins.map (·.coinType)).Nodup
  stocked : w.wallet.Stocked l st
  paid : st.paid = paid

namespace Workspace.Backed

variable {l : Ledger} {w : Workspace} {held more : List PooledCoin} {paid due : List Payment} {st st' : CoinStore}
  {p : CoinPool} {c : Command}

theorem size (h : w.Backed l held paid st) : st.size = w.tx.size :=
  Ledger.size_of_replay h.replayed

theorem append (h : w.Backed l held paid st) (ha : st.apply c = some st')
    (hr : st.Reaches st' (more ++ w.pool.coins) due) :
    ({ w with tx := w.tx.append c } : Workspace).Backed l more (paid ++ due) st' where
  replayed := by
    rw [Transaction.append, CoinStore.replay_concat, h.replayed]
    exact ha
  backs := hr.backs
  types := h.types
  stocked := h.stocked.congr hr.same
  paid := by rw [hr.paid, h.paid]

theorem record (h : w.Backed l held paid st) (ha : st.apply c = some st')
    (hr : st.Reaches st' (more ++ w.pool.coins) []) :
    ({ w with tx := w.tx.append c } : Workspace).Backed l more paid st' := by
  simpa using h.append ha hr

theorem exchange (h : w.Backed l held paid st) (hn : (p.coins.map (·.coinType)).Nodup)
    (hp : (held ++ w.pool.coins).Perm (more ++ p.coins)) :
    ({ w with pool := p } : Workspace).Backed l more paid st where
  replayed := h.replayed
  backs := h.backs.perm hp
  types := hn
  stocked := h.stocked
  paid := h.paid

theorem take (h : w.Backed l held paid st) {t : String} {x : PooledCoin} (hf : w.pool.find? t = some x) :
    ({ w with pool := w.pool.erase t } : Workspace).Backed l (x :: held) paid st := by
  apply h.exchange (CoinPool.types_erase h.types)
  exact ((CoinPool.perm_of_find? h.types hf).append_left held).trans List.perm_middle

end Workspace.Backed

namespace Assembly

open Workspace (Backed)

variable {l : Ledger} {w w' : Workspace} {held : List PooledCoin} {paid : List Payment} {st : CoinStore}
  {es : List Exchange} {t : Token} {coin : Handle} {step amount : Int}

theorem yields_take {t : String} {r : Option PooledCoin} :
    Yields (take t) w es r w' ↔
      es = [] ∧ r = w.pool.find? t ∧ w' = { w with pool := w.pool.erase t } := by
  simp [take, yields_bind, and_assoc]

theorem yields_withdraw_of_find? {t : String} {x : PooledCoin} (hf : w.pool.find? t = some x)
    (hy : Yields (withdraw t amount) w es coin w') :
    es = [] ∧ amount ≤ x.amount ∧
      ((x.amount = amount ∧ coin = x.coin ∧ w' = { w with pool := w.pool.erase t }) ∨
      (0 < amount ∧ amount < x.amount ∧ coin = .nestedResult w.tx.size 0 ∧
        w' = { w with pool := w.pool.adjust t (-amount), tx := w.tx.append (.splitCoins x.coin [amount]) })) := by
  by_cases hlt : x.amount < amount
  · simp [withdraw, yields_bind, hf, hlt] at hy
  · by_cases heq : x.amount = amount
    · simp [withdraw, yields_bind, and_assoc, hf, heq] at hy
      exact ⟨hy.1, Int.le_of_eq heq.symm, .inl ⟨heq, hy.2⟩⟩
    · simp [withdraw, yields_bind, and_assoc, hf, hlt, heq, yields_splitOne] at hy
      have hle := Int.not_lt.1 hlt
      exact ⟨hy.1, hle, .inr ⟨hy.2.1, Int.lt_iff_le_and_ne.2 ⟨hle, Ne.symm heq⟩, hy.2.2⟩⟩

theorem yields_withdraw {t : String} {x : PooledCoin} (hf : w.pool.find? t = some x)
    (hy : Yields (withdraw t amount) w es coin w') :
    (x.amount = amount ∧ coin = x.coin ∧ w' = { w with pool := w.pool.erase t }) ∨
    (0 < amount ∧ amount ≤ x.amount ∧ coin = .nestedResult w.tx.size 0 ∧
      w' = { w with pool := w.pool.adjust t (-amount), tx := w.tx.append (.splitCoins x.coin [amount]) }) := by
  obtain ⟨-, hle, hwhole | ⟨hpos, -, hpart⟩⟩ := yields_withdraw_of_find? hf hy
  · exact .inl hwhole
  · exact .inr ⟨hpos, hle, hpart⟩

theorem withdraw_backed {t : String} (h : w.Backed l held paid st) (hy : Yields (withdraw t amount) w es coin w') :
    ∃ st', w'.Backed l (⟨t, coin, amount⟩ :: held) paid st' := by
  cases hf : w.pool.find? t with
  | none => simp [withdraw, yields_bind, hf] at hy
  | some x =>
    have ht := CoinPool.coinType_of_find? hf
    have hx := h.take hf
    obtain ⟨hamount, rfl, rfl⟩ | ⟨hpos, hle, rfl, rfl⟩ := yields_withdraw hf hy
    · subst ht hamount
      exact ⟨st, hx⟩
    · obtain ⟨st', ha, hr⟩ := CoinStore.split_backs hx.backs hpos hle
      rw [hx.size, ht] at hr
      have hr' : st.Reaches st' ((⟨t, .nestedResult w.tx.size 0, amount⟩ ::
        { x with amount := x.amount - amount } :: held) ++ (w.pool.erase t).coins) [] := by simpa [ht] using hr
      refine ⟨st', (hx.record ha hr').exchange ?_ ?_⟩
      · rw [CoinPool.types_adjust]
        exact h.types
      · have hp := CoinPool.perm_adjust h.types hf (-amount)
        exact ((hp.append_left held).trans List.perm_middle).symm.cons _

theorem nativeUnits_le (h : w.wallet.Stocked l st) (ht : t.coinType = nativeCoinType) {units : Int}
    (hy : (w.wallet.nativeUnits t).Yields es (.ok units)) (ha : ∀ e ∈ es, l.Answers e) :
    ∃ g, st.worth .gas = some (.coin nativeCoinType g) ∧ (units = 0 ∨ units ≤ g) := by
  unfold Wallet.nativeUnits at hy
  split at hy
  · next hn =>
    obtain ⟨-, heq⟩ := Engine.yields_pure.1 hy
    cases heq
    exact h.read units hn
  · next hn =>
    obtain ⟨es₁, es₂, n, rfl, hb, hp⟩ := Engine.yields_bind_ok.1 hy
    obtain ⟨-, heq⟩ := Engine.yields_pure.1 hp
    cases heq
    rw [Engine.yields_balance] at hb
    subst hb
    have hl : n = l.native := (ha ⟨.balance w.wallet.owner t.coinType, .ok n⟩ (by simp)).1 ht
    have hr := h.reserve
    exact ⟨l.native, h.unread hn, by omega⟩

theorem holding_stocked (h : w.wallet.Stocked l st) {x : Holding}
    (hy : (w.wallet.holding t).Yields es (.ok x)) (ha : ∀ e ∈ es, l.Answers e) :
    x.Stocked l st t.coinType := by
  unfold Wallet.holding at hy
  split at hy
  · next hn =>
    obtain ⟨-, heq⟩ := Engine.yields_pure.1 hy
    cases heq
    exact h.holdings _ x hn
  · next hn =>
    obtain ⟨es₁, es₂, cs, rfl, hb, hp⟩ := Engine.yields_bind_ok.1 hy
    obtain ⟨-, heq⟩ := Engine.yields_pure.1 hp
    cases heq
    rw [Engine.yields_coins] at hb
    subst hb
    have hl : cs = l.coinsOf t.coinType := (ha ⟨.coins w.wallet.owner t.coinType, .ok cs⟩ (by simp)).1
    subst hl
    exact Holding.stocked_ofCoins (h.untouched _ hn)

theorem yields_drawNative (hy : Yields (drawNative step t amount) w es coin w') :
    ∃ units, (w.wallet.nativeUnits t).Yields es (.ok units) ∧ amount ≤ units ∧ 0 < amount ∧
      coin = .nestedResult w.tx.size 0 ∧
      w' = { w with
        wallet := w.wallet.setNative (units - amount), tx := w.tx.append (.splitCoins .gas [amount]) } := by
  simp only [drawNative, yields_bind, yields_state, yields_ofEngine, yields_setWallet] at hy
  obtain ⟨_, _, _, ⟨rfl, rfl, rfl⟩, es₁, rfl, es₂, units, _, ⟨hu, rfl⟩, es₃, rfl, _, _, _, ⟨rfl, rfl⟩, es₄, rfl,
    hy⟩ := hy
  by_cases hlt : units < amount
  · simp [hlt, yields_bind] at hy
  · simp [hlt, yields_bind, and_assoc, yields_splitOne] at hy
    obtain ⟨rfl, hpos, hc, hw⟩ := hy
    exact ⟨units, by simpa using hu, Int.not_lt.1 hlt, hpos, hc, hw⟩

theorem drawNative_backed (h : w.Backed l held paid st) (ht : t.coinType = nativeCoinType)
    (hy : Yields (drawNative step t amount) w es coin w') (ha : ∀ e ∈ es, l.Answers e) :
    ∃ st', w'.Backed l (⟨t.coinType, coin, amount⟩ :: held) paid st' := by
  obtain ⟨units, hu, hle, hpos, rfl, rfl⟩ := yields_drawNative hy
  obtain ⟨g, hg, hug⟩ := nativeUnits_le h.stocked ht hu ha
  have hf : st.find .gas = some .gas := rfl
  obtain ⟨st', hc, hb, hp, hw, hq⟩ := CoinStore.split_ledger h.backs hf (by simp) hg hpos (by omega)
  refine ⟨st', ?_, ?_, h.types, ?_, hp.trans h.paid⟩
  · rw [Transaction.append, CoinStore.replay_concat, h.replayed]
    exact hc
  · rw [ht, ← h.size]
    exact hb
  · exact h.stocked.setNative hw (by omega) fun id => hq _ (by simp) (by simp)

theorem yields_drawCoins (hy : Yields (drawCoins step t amount) w es coin w') :
    ∃ x, (w.wallet.holding t).Yields es (.ok x) ∧ amount ≤ x.remaining ∧ 0 < amount ∧
      coin = .nestedResult (w.tx.merge (x.gather amount).primary (x.merged (x.gather amount))).size 0 ∧
      w' = { w with
        wallet := w.wallet.setHolding t.coinType ((x.gather amount).spend amount)
        tx := (w.tx.merge (x.gather amount).primary (x.merged (x.gather amount))).append
          (.splitCoins (x.gather amount).primary [amount]) } := by
  simp only [drawCoins, yields_bind, yields_state, yields_ofEngine, yields_setWallet] at hy
  obtain ⟨_, _, _, ⟨rfl, rfl, rfl⟩, es₁, rfl, es₂, x, _, ⟨hu, rfl⟩, es₃, rfl, _, _, _, ⟨rfl, rfl⟩, es₄, rfl,
    hy⟩ := hy
  by_cases he : x.isEmpty
  · simp [he, yields_bind] at hy
  · by_cases hlt : x.remaining < amount
    · simp [he, hlt, yields_bind] at hy
    · simp [he, hlt, yields_bind, and_assoc, yields_merge, yields_splitOne] at hy
      obtain ⟨rfl, hpos, hc, hw⟩ := hy
      exact ⟨x, by simpa using hu, Int.not_lt.1 hlt, hpos, hc, hw⟩

theorem drawCoins_backed (h : w.Backed l held paid st)
    (hy : Yields (drawCoins step t amount) w es coin w') (ha : ∀ e ∈ es, l.Answers e) :
    ∃ st', w'.Backed l (⟨t.coinType, coin, amount⟩ :: held) paid st' := by
  obtain ⟨x, hu, hle, hpos, rfl, rfl⟩ := yields_drawCoins hy
  have hx := holding_stocked h.stocked hu ha
  obtain ⟨id, st₁, st', hp, hr, hc, hb, hpd, hs, hg, ho⟩ := hx.draw h.backs hpos hle
  rw [hp]
  have hr₁ : CoinStore.replay (w.tx.merge (.object id) (x.merged (x.gather amount))).commands l.opening =
      some st₁ := by
    rw [CoinStore.commands_merge, CoinStore.replay_append, h.replayed]
    exact hr
  refine ⟨st', ?_, ?_, h.types, ?_, hpd.trans h.paid⟩
  · rw [Transaction.append, CoinStore.replay_concat, hr₁]
    exact hc
  · rw [Transaction.size, ← Ledger.size_of_replay hr₁]
    exact hb
  · exact h.stocked.setHolding hs hg ho

theorem draw_backed (h : w.Backed l held paid st) (ht : t.isNative = true → t.coinType = nativeCoinType)
    (hy : Yields (draw step t amount) w es coin w') (ha : ∀ e ∈ es, l.Answers e) :
    ∃ st', w'.Backed l (⟨t.coinType, coin, amount⟩ :: held) paid st' := by
  unfold draw at hy
  split at hy
  · next hn => exact drawNative_backed h (ht hn) hy ha
  · exact drawCoins_backed h hy ha

theorem yields_acquire_of_available (hy : Yields (acquire step t amount) w es coin w') :
    (amount ≤ w.pool.available t.coinType ∧ Yields (withdraw t.coinType amount) w es coin w') ∨
    (w.pool.available t.coinType < amount ∧ w.pool.available t.coinType = 0 ∧
      Yields (draw step t amount) w es coin w') ∨
    ∃ x topUp w₁, w.pool.find? t.coinType = some x ∧ x.amount < amount ∧
      Yields (draw step t (amount - x.amount)) { w with pool := w.pool.erase t.coinType } es topUp w₁ ∧
      coin = x.coin ∧ w' = { w₁ with tx := w₁.tx.merge x.coin [topUp] } := by
  simp only [acquire, yields_bind, yields_state, and_assoc, exists_and_left, exists_eq_left, List.nil_append,
    exists_eq_left'] at hy
  split at hy
  · next hle => exact .inl ⟨hle, hy⟩
  · next hlt =>
    rw [Int.not_le] at hlt
    split at hy
    · next hzero => exact .inr (.inl ⟨hlt, hzero, hy⟩)
    · next hne =>
      cases hf : w.pool.find? t.coinType with
      | none => exact absurd (CoinPool.available_of_find?_none hf) hne
      | some x =>
        rw [CoinPool.available_of_find? hf] at hy hlt
        simp [yields_bind, yields_take, hf, and_assoc, yields_merge] at hy
        obtain ⟨topUp, w₁, hd, hc, hw⟩ := hy
        exact .inr (.inr ⟨x, topUp, w₁, rfl, hlt, by simpa using hd, hc, hw⟩)

theorem yields_acquire (hy : Yields (acquire step t amount) w es coin w') :
    Yields (withdraw t.coinType amount) w es coin w' ∨ Yields (draw step t amount) w es coin w' ∨
    ∃ x topUp w₁, w.pool.find? t.coinType = some x ∧
      Yields (draw step t (amount - x.amount)) { w with pool := w.pool.erase t.coinType } es topUp w₁ ∧
      coin = x.coin ∧ w' = { w₁ with tx := w₁.tx.merge x.coin [topUp] } := by
  obtain ⟨-, hy⟩ | ⟨-, -, hy⟩ | ⟨x, topUp, w₁, hf, -, hd, hc, hw⟩ := yields_acquire_of_available hy
  · exact .inl hy
  · exact .inr (.inl hy)
  · exact .inr (.inr ⟨x, topUp, w₁, hf, hd, hc, hw⟩)

theorem acquire_backed (h : w.Backed l held paid st) (ht : t.isNative = true → t.coinType = nativeCoinType)
    (hy : Yields (acquire step t amount) w es coin w') (ha : ∀ e ∈ es, l.Answers e) :
    ∃ st', w'.Backed l (⟨t.coinType, coin, amount⟩ :: held) paid st' := by
  obtain hy | hy | ⟨x, topUp, w₁, hf, hd, rfl, rfl⟩ := yields_acquire hy
  · exact withdraw_backed h hy
  · exact draw_backed h ht hy ha
  · have hx := CoinPool.coinType_of_find? hf
    obtain ⟨st₁, h₁⟩ := draw_backed (h.take hf) ht hd ha
    have hb : st₁.Backs (x :: ⟨t.coinType, topUp, amount - x.amount⟩ :: held ++ w₁.pool.coins) :=
      h₁.backs.perm (.swap _ _ _)
    obtain ⟨st', hc, hr⟩ := CoinStore.merge_backs hb hx.symm
    refine ⟨st', h₁.record hc ?_⟩
    have hsum : x.amount + (amount - x.amount) = amount := by omega
    simpa [hx, hsum] using hr

theorem deposit_backed {t : String} {r : Unit} (h : w.Backed l (⟨t, coin, amount⟩ :: held) paid st)
    (hy : Yields (deposit t coin amount) w es r w') : ∃ st', w'.Backed l held paid st' := by
  cases hf : w.pool.find? t with
  | none =>
    simp [deposit, yields_bind, hf] at hy
    obtain ⟨-, rfl⟩ := hy
    refine ⟨st, h.exchange (CoinPool.types_insert h.types hf) ?_⟩
    have hp : (⟨t, coin, amount⟩ :: (held ++ w.pool.coins)).Perm (held ++ w.pool.coins ++ [⟨t, coin, amount⟩]) :=
      (List.perm_append_singleton _ _).symm
    simpa [CoinPool.insert] using hp
  | some x =>
    simp [deposit, yields_bind, hf, and_assoc, yields_merge] at hy
    obtain ⟨-, rfl⟩ := hy
    have hx := CoinPool.coinType_of_find? hf
    have hb : st.Backs (x :: ⟨t, coin, amount⟩ :: held ++ (w.pool.erase t).coins) := (h.take hf).backs
    obtain ⟨st', hc, hr⟩ := CoinStore.merge_backs hb hx.symm
    have hr' : st.Reaches st' (({ x with amount := x.amount + amount } :: held) ++ (w.pool.erase t).coins) [] := hr
    refine ⟨st', ((h.take hf).record hc hr').exchange ?_ ?_⟩
    · rw [CoinPool.types_adjust]
      exact h.types
    · have hp := CoinPool.perm_adjust h.types hf amount
      exact ((hp.append_left held).trans List.perm_middle).symm

end Assembly

end LedgerFlow
