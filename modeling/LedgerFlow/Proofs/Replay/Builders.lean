import LedgerFlow.Proofs.Replay.Steps

namespace LedgerFlow

namespace Protocol

open Assembly

variable {l : Ledger} {c : Setting} {s : Step} {named : List String}

variable {w w' : Workspace} {es : List Exchange} {paid : List Payment} {st : CoinStore} {coin : Handle}

theorem Native.settles_transfer (hc : c.tokens.Sound) (d : TransferData) :
    Settles l (Native.transfer c s d) (demand (c.token s d.asset) d.amount) := by
  intro w es r w' paid st h hy ha
  simp [Native.transfer, yields_bind, and_assoc, yields_transfer] at hy
  obtain ⟨t, ht, n, es₁, coin, w₁, es₂, rfl, hn, hd, hy⟩ := hy
  obtain ⟨st₁, h₁⟩ := acquire_backed h (hc.of_token ht) hd fun e he => ha e (by simp [he])
  obtain ⟨st₂, h₂⟩ := h₁.give (d.recipientAddress.map c.names.lookup)
  refine ⟨_, st₂, demand_eq ht (unitsOf_of_positive hn), ?_⟩
  split at hy
  · exact absurd hy yields_throw
  · obtain ⟨-, -, rfl⟩ := yields_pure.1 hy
    exact h₂

theorem Native.stakeInput_backed (hc : c.tokens.Sound) {d : StakeData} (h : w.Backed l [] paid st)
    (hy : Yields (Native.stakeInput c s d) w es coin w') (ha : ∀ e ∈ es, l.Answers e) :
    ∃ t n st', demand (c.token s nativeSymbol) d.amount = .ok [⟨t, n⟩] ∧ w'.Backed l [⟨t, coin, n⟩] paid st' := by
  simp [Native.stakeInput, yields_bind, and_assoc] at hy
  obtain ⟨t, ht, n, hn, hd⟩ := hy
  obtain ⟨st', h'⟩ := acquire_backed h (hc.of_token ht) hd ha
  exact ⟨t.coinType, n, st', demand_eq ht hn, h'⟩

theorem Native.settles_stake (hc : c.tokens.Sound) (hl : l.Apart l.coinIds named) (d : StakeData) :
    Settles l (Native.stake c s d) (demand (c.token s nativeSymbol) d.amount) := by
  intro w es r w' paid st h hy ha
  unfold Native.stake at hy
  split at hy
  · exact absurd hy yields_throw
  · next validator _ =>
    simp [yields_bind, and_assoc, yields_call] at hy
    obtain ⟨coin, w₁, hd, rfl⟩ := hy
    obtain ⟨t, n, st₁, hn, h₁⟩ := stakeInput_backed hc h hd ha
    have hp : st₁.Passes [systemState, coin, addressArgument validator] [⟨t, coin, n⟩] :=
      h₁.passes (f := [systemState]) hl (by simp [sharedHandles]) (.coin ⟨t, coin, n⟩ (.pure .nil))
    obtain ⟨st₂, h₂, -, -⟩ := h₁.call "0x3::sui_system::request_add_stake" hp
      (CoinStore.minted_of_other (by decide) (by decide))
    exact ⟨_, st₂, hn, h₂⟩

theorem Aftermath.yields_validator {d : StakeData} {v : String} (hy : Yields (Aftermath.validator s d) w es v w') :
    w' = w := by
  unfold Aftermath.validator at hy
  split at hy
  · exact (yields_pure.1 hy).2.2
  · simp only [yields_bind, yields_ofEngine] at hy
    obtain ⟨_, vs, _, ⟨-, rfl⟩, _, -, hy⟩ := hy
    split at hy
    · exact absurd hy yields_throw
    · exact (yields_pure.1 hy).2.2

theorem Aftermath.settles_stake (hc : c.tokens.Sound) (hl : l.Apart l.coinIds named) (d : StakeData) :
    Settles l (Aftermath.stake c s d) (demand (c.token s nativeSymbol) d.amount) := by
  intro w es r w' paid st h hy ha
  simp [Aftermath.stake, yields_bind, and_assoc, yields_call, yields_transfer] at hy
  obtain ⟨es₁, v, w₀, hv, es₂, rfl, coin, w₁, hd, rfl⟩ := hy
  cases yields_validator hv
  obtain ⟨t, n, st₁, hn, h₁⟩ := Native.stakeInput_backed hc h hd fun e he => ha e (by simp [he])
  have hp : st₁.Passes [vault, safe, systemState, referralVault, coin, addressArgument v] [⟨t, coin, n⟩] :=
    h₁.passes (f := [vault, safe, systemState, referralVault]) hl (by simp [sharedHandles])
      (.coin ⟨t, coin, n⟩ (.pure .nil))
  obtain ⟨st₂, h₂, hf, hw⟩ := h₁.call (package ++ "::staked_sui_vault::request_stake") hp
    (CoinStore.minted_of_other (by decide) (by decide))
  obtain ⟨st₃, h₃⟩ := h₂.giveOutput hf hw (some c.signer)
  exact ⟨_, st₃, hn, h₃⟩

theorem Volo.settles_stake (hc : c.tokens.Sound) (hl : l.Apart l.coinIds named) (d : StakeData) :
    Settles l (Volo.stake c s d) (demand (c.token s nativeSymbol) d.amount) := by
  intro w es r w' paid st h hy ha
  simp [Volo.stake, yields_bind, and_assoc, yields_call, yields_transfer] at hy
  obtain ⟨coin, w₁, hd, rfl⟩ := hy
  obtain ⟨t, n, st₁, hn, h₁⟩ := Native.stakeInput_backed hc h hd ha
  have hp : st₁.Passes [stakePool, metadata, systemState, coin] [⟨t, coin, n⟩] :=
    h₁.passes (f := [stakePool, metadata, systemState]) hl (by simp [sharedHandles]) (.coin ⟨t, coin, n⟩ .nil)
  obtain ⟨st₂, h₂, hf, hw⟩ := h₁.call (package ++ "::stake_pool::stake") hp
    (CoinStore.minted_of_other (by decide) (by decide))
  obtain ⟨st₃, h₃⟩ := h₂.giveOutput hf hw (some c.signer)
  exact ⟨_, st₃, hn, h₃⟩

theorem Exchange.yields_quote {source target : Token} {n : Int} {q : SwapQuote}
    (hy : Yields (Exchange.quote s source target n) w es q w') : w' = w := by
  simp only [Exchange.quote, yields_bind, yields_ofEngine] at hy
  obtain ⟨_, offer, _, ⟨-, rfl⟩, _, -, hy⟩ := hy
  split at hy
  · exact (yields_pure.1 hy).2.2
  · exact absurd hy yields_throw

theorem Exchange.yields_exchange {q : SwapQuote} {input : Handle}
    (hy : Yields (Exchange.exchange c q input) w es coin w') :
    ∃ out : SwapOutput, es = [⟨.swapBuild q input c.slippage w.tx, .ok out⟩] ∧ coin = out.coin ∧
      w' = { w with tx := { w.tx with commands := w.tx.commands ++ out.commands } } := by
  simp [Exchange.exchange, yields_bind, and_assoc, Engine.yields_swapBuild] at hy
  obtain ⟨out, rfl, rfl, rfl⟩ := hy
  exact ⟨out, rfl, rfl, rfl⟩

theorem Exchange.settles_swap (hc : c.tokens.Sound) (d : SwapData) :
    Settles l (Exchange.swap c s d) (demand (c.tokenOf s d.fromAsset) d.amount) := by
  intro w es r w' paid st h hy ha
  unfold Exchange.swap at hy
  split at hy
  · obtain ⟨_, _, _, ht, -⟩ := yields_bind.1 hy
    exact absurd ht yields_throw
  · simp only [yields_bind, yields_ofExcept, yields_transfer, and_assoc, exists_and_left, exists_eq_left,
      List.nil_append, exists_eq_left'] at hy
    obtain ⟨t, ht, target, -, n, hn, es₁, q, w₀, hq, _, rfl, es₂, input, w₁, hd, _, rfl, es₃, output, w₂, hx, _, rfl,
      rfl, rfl⟩ := hy
    cases yields_quote hq
    obtain ⟨out, rfl, rfl, rfl⟩ := yields_exchange hx
    obtain ⟨st₁, h₁⟩ := acquire_backed h (hc.of_tokenOf ht) hd fun e he => ha e (by simp [he])
    have hf : FairSwap l w₁.tx input out := (ha ⟨.swapBuild q input c.slippage w₁.tx, .ok out⟩ (by simp)).2
    obtain ⟨st₂, h₂, i, k, hfo, hwo⟩ := h₁.swap hf
    obtain ⟨st₃, h₃⟩ := h₂.giveOutput hfo hwo (some c.signer)
    exact ⟨_, st₃, demand_eq ht (unitsOf_of_positive hn), h₃⟩

theorem Navi.notMem_of_lookup {ids : List String} (hl : l.Apart ids named) {symbol : String} {pool : Navi.LendingPool}
    (hp : Navi.pools.lookup symbol = some pool) : pool.object ∉ ids := by
  apply hl.shared
  exact List.mem_append_left _ (List.mem_append_right _ (List.mem_map_of_mem (mem_of_lookup_eq_some hp)))

theorem Navi.deposit_backed {pool : Navi.LendingPool} {t : Token} {n : Int} {r : Unit}
    (hl : l.Apart l.coinIds named) (hpool : pool.object ∉ l.coinIds)
    (ht : t.isNative = true → t.coinType = nativeCoinType)
    (h : w.Backed l [] paid st) (hy : Yields (Navi.deposit s t pool n) w es r w') (ha : ∀ e ∈ es, l.Answers e) :
    ∃ st', w'.Backed l [] (paid ++ [⟨t.coinType, n⟩]) st' := by
  simp [Navi.deposit, yields_bind, and_assoc, yields_call] at hy
  obtain ⟨coin, w₁, hd, rfl⟩ := hy
  obtain ⟨st₁, h₁⟩ := acquire_backed h ht hd ha
  have hi : st₁.Passes [incentiveV2, incentiveV3] [] :=
    h₁.passes (f := [incentiveV2, incentiveV3]) hl (by simp [sharedHandles]) .nil
  have hp : st₁.Passes [clock, storage, .object pool.object, pool.assetArgument, coin, amountArgument n,
      incentiveV2, incentiveV3] [⟨t.coinType, coin, n⟩] :=
    h₁.passes (f := [clock, storage]) hl (by simp [sharedHandles])
      (.object (h₁.foreign hpool) (.pure (.coin ⟨t.coinType, coin, n⟩ (.pure hi))))
  obtain ⟨st₂, h₂, -, -⟩ := h₁.call (function "entry_deposit") hp (CoinStore.minted_of_other (by decide) (by decide))
  exact ⟨st₂, h₂⟩

theorem Navi.obtain_backed {pool : Navi.LendingPool} {t : Token} {n : Int} {action : String} {r : Unit}
    (hl : l.Apart l.coinIds named) (hpool : pool.object ∉ l.coinIds)
    (hd : Navi.function (action ++ "_v2") ∈ CoinStore.drawing) (h : w.Backed l [] paid st)
    (hy : Yields (Navi.obtain t pool n action) w es r w') : ∃ st', w'.Backed l [] paid st' := by
  simp [Navi.obtain, yields_bind, and_assoc, yields_call] at hy
  have hi : st.Passes [incentiveV2, incentiveV3, systemState] [] :=
    h.passes (f := [incentiveV2, incentiveV3, systemState]) hl (by simp [sharedHandles]) .nil
  have hp : st.Passes [clock, priceOracle, storage, .object pool.object, pool.assetArgument, amountArgument n,
      incentiveV2, incentiveV3, systemState] [] :=
    h.passes (f := [clock, priceOracle, storage]) hl (by simp [sharedHandles])
      (.object (h.foreign hpool) (.pure (.pure hi)))
  obtain ⟨st₁, h₁⟩ := h.draw (t := t.coinType) hp hd rfl
  exact Assembly.deposit_backed h₁ hy

theorem Navi.settles_lend (hc : c.tokens.Sound) (hl : l.Apart l.coinIds named) (d : LendData) :
    Settles l (Navi.lend c s d) (lendDemands c s d) := by
  intro w es r w' paid st h hy ha
  simp only [Navi.lend, yields_bind, yields_ofExcept, and_assoc, exists_and_left, exists_eq_left, List.nil_append,
    exists_eq_left'] at hy
  obtain ⟨t, ht, hy⟩ := hy
  split at hy
  · exact absurd hy yields_throw
  · next pool hp =>
    have hpool := notMem_of_lookup hl hp
    simp only [yields_bind, yields_ofExcept, and_assoc, exists_and_left, exists_eq_left, List.nil_append,
      exists_eq_left'] at hy
    obtain ⟨n, hn, hy⟩ := hy
    split at hy
    · next hd =>
      obtain ⟨st', h'⟩ := deposit_backed hl hpool (hc.of_token ht) h hy ha
      exact ⟨_, st', lendDemands_eq (.inl hd) ht hn, h'⟩
    · next hd =>
      obtain ⟨st', h'⟩ := obtain_backed hl hpool (by simp [hd, CoinStore.drawing]) h hy
      exact ⟨[], st', lendDemands_eq_nil (by simp [hd]), by simpa using h'⟩
    · next hd =>
      obtain ⟨st', h'⟩ := obtain_backed hl hpool (by simp [hd, CoinStore.drawing]) h hy
      exact ⟨[], st', lendDemands_eq_nil (by simp [hd]), by simpa using h'⟩
    · exact absurd hy yields_throw
    · exact absurd hy yields_throw

theorem Scallop.yields_first {objects : List String} {f : Fault} {id : String}
    (hy : Yields (Scallop.first objects f) w es id w') : w' = w ∧ id ∈ objects := by
  cases objects with
  | nil => exact absurd hy yields_throw
  | cons o rest =>
    obtain ⟨-, rfl, rfl⟩ := yields_pure.1 hy
    exact ⟨rfl, List.mem_cons_self⟩

theorem Scallop.yields_obligation {ids : List String} {d : LendData} {action : String} {o : Scallop.Obligation}
    (hl : l.Apart ids named) (hn : ∀ id ∈ d.obligationId.toList ++ d.obligationKeyId.toList, id ∈ named)
    (hy : Yields (Scallop.obligation c s d action) w es o w') (ha : ∀ e ∈ es, l.Reports e) :
    w' = w ∧ o.id ∉ ids ∧ o.key ∉ ids := by
  unfold Scallop.obligation at hy
  split at hy
  · next id key hid hkey =>
    obtain ⟨-, rfl, rfl⟩ := yields_pure.1 hy
    have hi := (Option.filter_eq_some_iff.1 hid).1
    have hk := (Option.filter_eq_some_iff.1 hkey).1
    exact ⟨rfl, hl.named _ (hn _ (by simp [hi])), hl.named _ (hn _ (by simp [hk]))⟩
  · simp only [yields_bind, yields_ofEngine, Engine.yields_ownedObjects, yields_pure] at hy
    obtain ⟨_, owned, _, ⟨rfl, rfl⟩, _, rfl, es₁, id, w₁, hi, _, rfl, _, keys, _, ⟨rfl, rfl⟩, _, rfl, es₂, key, w₂, hk,
      _, rfl, rfl, rfl, rfl⟩ := hy
    obtain ⟨rfl, hmi⟩ := yields_first hi
    obtain ⟨rfl, hmk⟩ := yields_first hk
    have howned : owned = l.ownedOf obligationType :=
      ha ⟨.ownedObjects c.signer obligationType, .ok owned⟩ (by simp)
    have hkeys : keys = l.ownedOf obligationKeyType :=
      ha ⟨.ownedObjects c.signer obligationKeyType, .ok keys⟩ (by simp)
    exact ⟨rfl, hl.obligations id (howned ▸ hmi), hl.keys key (hkeys ▸ hmk)⟩

theorem Scallop.settles_deposit (hc : c.tokens.Sound) (hl : l.Apart l.coinIds named) {d : LendData} {t : Token}
    (hd : d.action = "deposit") (ht : c.token s d.asset = .ok t) :
    Settles l (Scallop.deposit s d t) (lendDemands c s d) := by
  intro w es r w' paid st h hy ha
  simp [Scallop.deposit, yields_bind, and_assoc, yields_call] at hy
  obtain ⟨n, hn, coin, w₁, hy, rfl⟩ := hy
  obtain ⟨st₁, h₁⟩ := acquire_backed h (hc.of_token ht) hy ha
  have hk : st₁.Passes [clock] [] := h₁.passes (f := [clock]) hl (by simp [sharedHandles]) .nil
  have hp : st₁.Passes [version, market, coin, clock] [⟨t.coinType, coin, n⟩] :=
    h₁.passes (f := [version, market]) hl (by simp [sharedHandles]) (.coin ⟨t.coinType, coin, n⟩ hk)
  obtain ⟨st₂, h₂, -, -⟩ := h₁.call (package ++ "::mint::mint_entry") hp
    (CoinStore.minted_of_other (by decide) (by decide))
  exact ⟨_, st₂, lendDemands_eq (.inl hd) ht hn, h₂⟩

theorem Scallop.settles_borrow (hl : l.Apart l.coinIds named) {d : LendData} {t : Token}
    (hn : ∀ id ∈ d.obligationId.toList ++ d.obligationKeyId.toList, id ∈ named) (hd : d.action = "borrow") :
    Settles l (Scallop.borrow c s d t) (lendDemands c s d) := by
  intro w es r w' paid st h hy ha
  simp [Scallop.borrow, yields_bind, and_assoc, yields_call] at hy
  obtain ⟨o, w₁, ho, n, -, rfl⟩ := hy
  obtain ⟨rfl, hid, hkey⟩ := yields_obligation hl hn ho fun e he => (ha e he).1
  have hm : st.Passes [market, amountArgument n, clock] [] :=
    h.passes (f := [market]) hl (by simp [sharedHandles])
      (.pure (h.passes (f := [clock]) hl (by simp [sharedHandles]) .nil))
  have hp : st.Passes [version, .object o.id, .object o.key, market, amountArgument n, clock] [] :=
    h.passes (f := [version]) hl (by simp [sharedHandles]) (.object (h.foreign hid) (.object (h.foreign hkey) hm))
  obtain ⟨st', h', -, -⟩ := h.call (package ++ "::borrow::borrow_entry") hp
    (CoinStore.minted_of_other (by decide) (by decide))
  exact ⟨[], st', lendDemands_eq_nil (by simp [hd]), h'⟩

theorem Scallop.settles_repay (hc : c.tokens.Sound) (hl : l.Apart l.coinIds named) {d : LendData} {t : Token}
    (hn : ∀ id ∈ d.obligationId.toList ++ d.obligationKeyId.toList, id ∈ named) (hd : d.action = "repay")
    (ht : c.token s d.asset = .ok t) :
    Settles l (Scallop.repay c s d t) (lendDemands c s d) := by
  intro w es r w' paid st h hy ha
  simp [Scallop.repay, yields_bind, and_assoc, yields_call] at hy
  obtain ⟨es₁, o, w₀, ho, es₂, rfl, n, hu, coin, w₁, hy, rfl⟩ := hy
  obtain ⟨rfl, hid, hkey⟩ := yields_obligation hl hn ho fun e he => (ha e (by simp [he])).1
  obtain ⟨st₁, h₁⟩ := acquire_backed h (hc.of_token ht) hy fun e he => ha e (by simp [he])
  have hk : st₁.Passes [clock] [] := h₁.passes (f := [clock]) hl (by simp [sharedHandles]) .nil
  have hm : st₁.Passes [market, coin, clock] [⟨t.coinType, coin, n⟩] :=
    h₁.passes (f := [market]) hl (by simp [sharedHandles]) (.coin ⟨t.coinType, coin, n⟩ hk)
  have hp : st₁.Passes [version, .object o.id, .object o.key, market, coin, clock] [⟨t.coinType, coin, n⟩] :=
    h₁.passes (f := [version]) hl (by simp [sharedHandles]) (.object (h₁.foreign hid) (.object (h₁.foreign hkey) hm))
  obtain ⟨st₂, h₂, -, -⟩ := h₁.call (package ++ "::repay::repay_entry") hp
    (CoinStore.minted_of_other (by decide) (by decide))
  exact ⟨_, st₂, lendDemands_eq (.inr hd) ht hu, h₂⟩

theorem Scallop.settles_lend (hc : c.tokens.Sound) (hl : l.Apart l.coinIds named) (d : LendData)
    (hn : ∀ id ∈ d.obligationId.toList ++ d.obligationKeyId.toList, id ∈ named) (hw : d.action ≠ "withdraw") :
    Settles l (Scallop.lend c s d) (lendDemands c s d) := by
  intro w es r w' paid st h hy ha
  simp only [Scallop.lend, yields_bind, yields_ofExcept, and_assoc, exists_and_left, exists_eq_left, List.nil_append,
    exists_eq_left'] at hy
  obtain ⟨t, ht, hy⟩ := hy
  split at hy
  · next hd => exact settles_deposit hc hl hd ht w es r w' paid st h hy ha
  · next hd => exact absurd hd hw
  · next hd => exact settles_borrow hl hn hd w es r w' paid st h hy ha
  · next hd => exact settles_repay hc hl hn hd ht w es r w' paid st h hy ha
  · exact absurd hy yields_throw

theorem MoveCall.handle_backed (hc : c.tokens.Sound) {a : MoveCall.Argument} {x : Handle} {held : List PooledCoin}
    (hid : ∀ id, a = .object id → id ∉ l.coinIds) (h : w.Backed l held paid st)
    (hy : Yields (MoveCall.handle c s a) w es x w') (ha : ∀ e ∈ es, l.Answers e) :
    ∃ cs st', a.demands c s = .ok (cs.map PooledCoin.payment) ∧ w'.Backed l (cs ++ held) paid st' ∧
      (∀ other hs ds, (∀ id, id ∉ l.coinIds → other.worth (.object id) = none) → CoinStore.Passes other hs ds →
        other.Passes (x :: hs) (cs ++ ds)) ∧
      ∀ hs, CoinStore.statedUnits? (x :: hs) = CoinStore.statedUnits? hs := by
  cases a with
  | bool b =>
    obtain ⟨-, rfl, rfl⟩ := yields_pure.1 hy
    exact ⟨[], st, rfl, h, fun _ _ _ _ hp => .pure hp, fun _ => rfl⟩
  | object id =>
    obtain ⟨-, rfl, rfl⟩ := yields_pure.1 hy
    exact ⟨[], st, rfl, h, fun _ _ _ ho hp => .object (ho id (hid id rfl)) hp, fun _ => rfl⟩
  | coin n =>
    simp only [handle, nativeCoin] at hy
    split at hy
    · obtain ⟨_, _, _, ht, -⟩ := yields_bind.1 hy
      exact absurd ht yields_throw
    · simp [yields_bind, and_assoc] at hy
      obtain ⟨t, ht, hd⟩ := hy
      obtain ⟨st', h'⟩ := acquire_backed h (hc.of_token ht) hd ha
      refine ⟨[⟨t.coinType, x, n⟩], st', ?_, h', fun _ _ _ _ hp => .coin ⟨t.coinType, x, n⟩ hp, ?_⟩
      · simp [Argument.demands, ht, PooledCoin.payment]
      · intro hs
        obtain ⟨i, k, hf, -⟩ := h'.backs.held ⟨t.coinType, x, n⟩ List.mem_cons_self
        cases x with
        | pure v tag => cases hf
        | _ => rfl
  | text t =>
    obtain ⟨-, rfl, rfl⟩ := yields_pure.1 hy
    exact ⟨[], st, rfl, h, fun _ _ _ _ hp => .pure hp, fun _ => rfl⟩
  | plain v =>
    obtain ⟨-, rfl, rfl⟩ := yields_pure.1 hy
    refine ⟨[], st, rfl, h, fun _ _ _ _ hp => .pure hp, ?_⟩
    intro hs
    cases v <;> rfl

theorem MoveCall.handles_backed (hc : c.tokens.Sound) {values : List Json} {hs : List Handle} {held : List PooledCoin}
    (hv : ∀ id ∈ values.filterMap MoveCall.objectOf?, id ∉ l.coinIds) (h : w.Backed l held paid st)
    (hy : Yields (MoveCall.handles c s values) w es hs w') (ha : ∀ e ∈ es, l.Answers e) :
    ∃ cs st', MoveCall.demands c s values = .ok (cs.map PooledCoin.payment) ∧ w'.Backed l (cs ++ held) paid st' ∧
      st'.Passes hs cs ∧ CoinStore.statedUnits? hs = none := by
  induction values generalizing w es hs held st with
  | nil =>
    obtain ⟨-, rfl, rfl⟩ := yields_pure.1 hy
    exact ⟨[], st, rfl, h, .nil, rfl⟩
  | cons v rest ih =>
    simp only [MoveCall.handles, yields_bind, yields_ofExcept, yields_pure, and_assoc, exists_and_left, exists_eq_left,
      List.nil_append, exists_eq_left'] at hy
    obtain ⟨a, hva, es₁, x, w₁, hx, _, rfl, es₂, others, w₂, ho, _, rfl, rfl, rfl, rfl⟩ := hy
    have hid : ∀ id, a = .object id → id ∉ l.coinIds := by
      rintro id rfl
      exact hv id (by simp [objectOf?, hva])
    obtain ⟨cs, st₁, hd₁, h₁, hp₁, hu₁⟩ := handle_backed hc hid h hx fun e he => ha e (by simp [he])
    have hrest : ∀ id ∈ rest.filterMap MoveCall.objectOf?, id ∉ l.coinIds := by
      intro id hid
      obtain ⟨y, hy, hyo⟩ := List.mem_filterMap.1 hid
      exact hv id (List.mem_filterMap.2 ⟨y, .tail _ hy, hyo⟩)
    obtain ⟨ds, st₂, hd₂, h₂, hp₂, hu₂⟩ := ih hrest h₁ ho fun e he => ha e (by simp [he])
    refine ⟨cs ++ ds, st₂, ?_, ?_, hp₁ st₂ _ _ (fun _ => h₂.foreign) hp₂, (hu₁ _).trans hu₂⟩
    · rw [List.map_append]
      exact except_bind_eq_ok.2 ⟨a, hva, except_bind_eq_ok.2 ⟨_, hd₁, except_bind_eq_ok.2 ⟨_, hd₂, rfl⟩⟩⟩
    · apply h₂.exchange h₂.types
      apply List.Perm.append_right
      rw [List.append_assoc]
      exact List.perm_append_comm_assoc ds cs held

theorem MoveCall.settles_call (hc : c.tokens.Sound) (d : CustomData)
    (hn : ∀ values, MoveCall.listOf s d.arguments "arguments" = .ok values →
      ∀ id ∈ values.filterMap MoveCall.objectOf?, id ∉ l.coinIds) :
    Settles l (MoveCall.call c s d)
      (do MoveCall.demands c s (← MoveCall.listOf s d.arguments "arguments")) := by
  intro w es r w' paid st h hy ha
  simp [MoveCall.call, yields_bind, and_assoc, yields_call] at hy
  obtain ⟨values, hv, types, -, hs, w₁, hy, rfl⟩ := hy
  obtain ⟨cs, st₁, hd, h₁, hp, hu⟩ := handles_backed hc (hn values hv) h hy ha
  rw [List.append_nil] at h₁
  obtain ⟨st₂, h₂, -, -⟩ := h₁.call (Condition.callTarget (part d.packageId) (part d.moduleName) (part d.functionName))
    hp (CoinStore.minted_of_passes hp h₁.backs hu)
  exact ⟨_, st₂, except_bind_eq_ok.2 ⟨values, hv, hd⟩, h₂⟩

end Protocol

theorem Builder.settles_build {l : Ledger} {c : Protocol.Setting} {s : Step} (hc : c.tokens.Sound)
    (hl : l.Apart l.coinIds s.namedObjects) (b : Builder)
    (hb : ∀ d, b = .scallopLending → s.node.data = .lend d → d.action ≠ "withdraw") :
    Assembly.Settles l (b.build c s) (s.demands c) := by
  unfold Builder.build Step.demands
  split
  · next d hd => simpa only [hd] using Protocol.Native.settles_transfer hc d
  · next d hd => simpa only [hd] using Protocol.Exchange.settles_swap hc d
  · next d hd =>
    have hn := hl.named
    simp only [Step.namedObjects, hd] at hn
    rw [hd]
    apply Protocol.MoveCall.settles_call hc d
    intro values hv
    rwa [hv] at hn
  · next d hd => simpa only [hd] using Protocol.Native.settles_stake hc hl d
  · next d hd => simpa only [hd] using Protocol.Aftermath.settles_stake hc hl d
  · next d hd => simpa only [hd] using Protocol.Volo.settles_stake hc hl d
  · next d hd => simpa only [hd] using Protocol.Navi.settles_lend hc hl d
  · next d hd =>
    have hn : ∀ id ∈ d.obligationId.toList ++ d.obligationKeyId.toList, id ∈ s.namedObjects := by
      simp only [Step.namedObjects, hd]
      exact fun _ hid => hid
    simpa only [hd] using Protocol.Scallop.settles_lend hc hl d hn (hb d rfl hd)
  · intro w es r w' paid st h hy ha
    exact absurd hy Assembly.yields_throw

end LedgerFlow
