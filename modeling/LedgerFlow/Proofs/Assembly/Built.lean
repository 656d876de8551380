import LedgerFlow.Proofs.Replay.Builders

namespace LedgerFlow

def Workspace.record (w : Workspace) (x : Command) : Workspace := { w with tx := w.tx.append x }

@[simp] theorem Workspace.commands_record (w : Workspace) (x : Command) :
    (w.record x).tx.commands = w.tx.commands ++ [x] := rfl

namespace Protocol

open Assembly

inductive Builds (c : Setting) (s : Step) : Builder → Workspace → List Exchange → Workspace → Prop
  | transfer {d : TransferData} {t : Token} {n : Int} {recipient : String} {coin : Handle} {w w₁ : Workspace}
      {es : List Exchange} (hd : s.node.data = .transfer d) (ht : c.token s d.asset = .ok t)
      (hn : positiveUnitsOf s "Transfer" t d.amount = .ok n) (hr : d.recipientAddress = some recipient)
      (ha : Yields (acquire s.index t n) w es coin w₁) :
      Builds c s .nativeTransfer w es (w₁.record (.transferObjects [coin] (some (c.names.lookup recipient))))
  | swap {d : SwapData} {source : Token} {n : Int} {q : SwapQuote} {input : Handle} {out : SwapOutput}
      {w w₁ : Workspace} {es₁ es₂ : List Exchange} (hd : s.node.data = .swap d)
      (ht : c.tokenOf s d.fromAsset = .ok source) (hn : positiveUnitsOf s "Swap" source d.amount = .ok n)
      (ha : Yields (acquire s.index source n) w es₂ input w₁) :
      Builds c s .exchange w (es₁ ++ es₂ ++ [⟨.swapBuild q input c.slippage w₁.tx, .ok out⟩])
        ({ w₁ with tx := { w₁.tx with commands := w₁.tx.commands ++ out.commands } }.record
          (.transferObjects [out.coin] (some c.signer)))
  | nativeStake {d : StakeData} {t : Token} {n : Int} {validator : String} {coin : Handle} {w w₁ : Workspace}
      {es : List Exchange} (hd : s.node.data = .stake d) (ht : c.token s nativeSymbol = .ok t)
      (hn : unitsOf t d.amount = .ok n) (ha : Yields (acquire s.index t n) w es coin w₁) :
      Builds c s .nativeStake w es (w₁.record (.moveCall "0x3::sui_system::request_add_stake"
        [systemState, coin, addressArgument validator] []))
  | aftermathStake {d : StakeData} {t : Token} {n : Int} {validator : String} {coin : Handle} {w w₁ : Workspace}
      {es₁ es₂ : List Exchange} (hd : s.node.data = .stake d) (ht : c.token s nativeSymbol = .ok t)
      (hn : unitsOf t d.amount = .ok n) (ha : Yields (acquire s.index t n) w es₂ coin w₁) :
      Builds c s .aftermathStake w (es₁ ++ es₂)
        ((w₁.record (.moveCall (Aftermath.package ++ "::staked_sui_vault::request_stake")
          [Aftermath.vault, Aftermath.safe, systemState, Aftermath.referralVault, coin, addressArgument validator]
          [])).record (.transferObjects [.result w₁.tx.size] (some c.signer)))
  | voloStake {d : StakeData} {t : Token} {n : Int} {coin : Handle} {w w₁ : Workspace} {es : List Exchange}
      (hd : s.node.data = .stake d) (ht : c.token s nativeSymbol = .ok t) (hn : unitsOf t d.amount = .ok n)
      (ha : Yields (acquire s.index t n) w es coin w₁) :
      Builds c s .voloStake w es
        ((w₁.record (.moveCall (Volo.package ++ "::stake_pool::stake")
          [Volo.stakePool, Volo.metadata, systemState, coin] [])).record
            (.transferObjects [.result w₁.tx.size] (some c.signer)))
  | naviDeposit {d : LendData} {t : Token} {pool : Navi.LendingPool} {n : Int} {coin : Handle} {w w₁ : Workspace}
      {es : List Exchange} (hd : s.node.data = .lend d) (hact : d.action = "deposit") (ht : c.token s d.asset = .ok t)
      (hp : Navi.pools.lookup t.symbol = some pool) (hn : unitsOf t d.amount = .ok n)
      (ha : Yields (acquire s.index t n) w es coin w₁) :
      Builds c s .naviLending w es (w₁.record (.moveCall (Navi.function "entry_deposit")
        [clock, Navi.storage, .object pool.object, pool.assetArgument, coin, amountArgument n, Navi.incentiveV2,
          Navi.incentiveV3] [t.coinType]))
  | naviObtain {d : LendData} {t : Token} {pool : Navi.LendingPool} {n : Int} {w w' : Workspace} {es : List Exchange}
      (hd : s.node.data = .lend d) (hact : d.action = "withdraw" ∨ d.action = "borrow")
      (ht : c.token s d.asset = .ok t) (hp : Navi.pools.lookup t.symbol = some pool)
      (hn : unitsOf t d.amount = .ok n)
      (hdep : Yields (deposit t.coinType (.result (w.tx.size + 1)) n)
        ((w.record (.moveCall (Navi.function (d.action ++ "_v2"))
          [clock, Navi.priceOracle, Navi.storage, .object pool.object, pool.assetArgument, amountArgument n,
            Navi.incentiveV2, Navi.incentiveV3, systemState] [t.coinType])).record
          (.moveCall "0x2::coin::from_balance" [.result w.tx.size] [t.coinType])) es () w') :
      Builds c s .naviLending w es w'
  | scallopDeposit {d : LendData} {t : Token} {n : Int} {coin : Handle} {w w₁ : Workspace} {es : List Exchange}
      (hd : s.node.data = .lend d) (hact : d.action = "deposit") (ht : c.token s d.asset = .ok t)
      (hn : unitsOf t d.amount = .ok n) (ha : Yields (acquire s.index t n) w es coin w₁) :
      Builds c s .scallopLending w es (w₁.record (.moveCall (Scallop.package ++ "::mint::mint_entry")
        [Scallop.version, Scallop.market, coin, clock] [t.coinType]))
  | scallopWithdraw {d : LendData} {t : Token} {wrapped plain : List CoinRecord} {shares : Int} {coin : Handle}
      {w w₁ : Workspace} {es₁ es₂ : List Exchange} (hd : s.node.data = .lend d) (hact : d.action = "withdraw")
      (ht : c.token s d.asset = .ok t) (hs : Scallop.sharesFor t d.amount = .ok shares)
      (hm : Yields (Scallop.marketCoin s t (Scallop.wrappedCoins.lookup t.symbol) wrapped plain
        (min shares (Holding.total wrapped + Holding.total plain))) w es₂ coin w₁) :
      Builds c s .scallopLending w (es₁ ++ es₂) (w₁.record (.moveCall (Scallop.package ++ "::redeem::redeem_entry")
        [Scallop.version, Scallop.market, coin, clock] [t.coinType]))
  | scallopBorrow {d : LendData} {t : Token} {o : Scallop.Obligation} {n : Int} {w : Workspace} {es : List Exchange}
      (hd : s.node.data = .lend d) (hact : d.action = "borrow") (ht : c.token s d.asset = .ok t)
      (hn : unitsOf t d.amount = .ok n) :
      Builds c s .scallopLending w es (w.record (.moveCall (Scallop.package ++ "::borrow::borrow_entry")
        [Scallop.version, .object o.id, .object o.key, Scallop.market, amountArgument n, clock] [t.coinType]))
  | scallopRepay {d : LendData} {t : Token} {o : Scallop.Obligation} {n : Int} {coin : Handle} {w w₁ : Workspace}
      {es₁ es₂ : List Exchange} (hd : s.node.data = .lend d) (hact : d.action = "repay")
      (ht : c.token s d.asset = .ok t) (hn : unitsOf t d.amount = .ok n)
      (ha : Yields (acquire s.index t n) w es₂ coin w₁) :
      Builds c s .scallopLending w (es₁ ++ es₂) (w₁.record (.moveCall (Scallop.package ++ "::repay::repay_entry")
        [Scallop.version, .object o.id, .object o.key, Scallop.market, coin, clock] [t.coinType]))
  | call {d : CustomData} {values : List Json} {hs : List Handle} {types : List String} {w w₁ : Workspace}
      {es : List Exchange} (hd : s.node.data = .custom d)
      (hh : Yields (MoveCall.handles c s values) w es hs w₁) :
      Builds c s .moveCall w es (w₁.record (.moveCall (Condition.callTarget (MoveCall.part d.packageId)
        (MoveCall.part d.moduleName) (MoveCall.part d.functionName)) hs types))

variable {c : Setting} {s : Step} {w w' : Workspace} {es : List Exchange} {r : Unit}

theorem builds_transfer {d : TransferData} (hd : s.node.data = .transfer d)
    (hy : Yields (Native.transfer c s d) w es r w') : Builds c s .nativeTransfer w es w' := by
  simp [Native.transfer, yields_bind, and_assoc, yields_transfer] at hy
  obtain ⟨t, ht, n, es₁, coin, w₁, es₂, rfl, hn, ha, hy⟩ := hy
  cases hr : d.recipientAddress with
  | none =>
    rw [hr] at hy
    exact absurd hy yields_throw
  | some recipient =>
    rw [hr] at hy
    obtain ⟨rfl, -, rfl⟩ := yields_pure.1 hy
    rw [List.append_nil]
    exact .transfer hd ht hn hr ha

theorem builds_swap {d : SwapData} (hd : s.node.data = .swap d) (hy : Yields (Exchange.swap c s d) w es r w') :
    Builds c s .exchange w es w' := by
  unfold Exchange.swap at hy
  split at hy
  · obtain ⟨_, _, _, ht, -⟩ := yields_bind.1 hy
    exact absurd ht yields_throw
  · simp only [yields_bind, yields_ofExcept, yields_transfer, and_assoc, exists_and_left, exists_eq_left,
      List.nil_append, exists_eq_left'] at hy
    obtain ⟨t, ht, target, -, n, hn, es₁, q, w₀, hq, _, rfl, es₂, input, w₁, ha, _, rfl, es₃, output, w₂, hx, _, rfl,
      rfl, rfl⟩ := hy
    cases Exchange.yields_quote hq
    obtain ⟨out, rfl, rfl, rfl⟩ := Exchange.yields_exchange hx
    rw [List.append_nil, ← List.append_assoc]
    exact .swap hd ht hn ha

theorem yields_stakeInput {d : StakeData} {coin : Handle} (hy : Yields (Native.stakeInput c s d) w es coin w') :
    ∃ t n, c.token s nativeSymbol = .ok t ∧ unitsOf t d.amount = .ok n ∧
      Yields (acquire s.index t n) w es coin w' := by
  simp [Native.stakeInput, yields_bind, and_assoc] at hy
  obtain ⟨t, ht, n, hn, ha⟩ := hy
  exact ⟨t, n, ht, hn, ha⟩

theorem builds_nativeStake {d : StakeData} (hd : s.node.data = .stake d)
    (hy : Yields (Native.stake c s d) w es r w') : Builds c s .nativeStake w es w' := by
  unfold Native.stake at hy
  split at hy
  · exact absurd hy yields_throw
  · simp [yields_bind, and_assoc, yields_call] at hy
    obtain ⟨coin, w₁, hi, rfl⟩ := hy
    obtain ⟨t, n, ht, hn, ha⟩ := yields_stakeInput hi
    exact .nativeStake hd ht hn ha

theorem builds_aftermathStake {d : StakeData} (hd : s.node.data = .stake d)
    (hy : Yields (Aftermath.stake c s d) w es r w') : Builds c s .aftermathStake w es w' := by
  simp [Aftermath.stake, yields_bind, and_assoc, yields_call, yields_transfer] at hy
  obtain ⟨es₁, v, w₀, hv, es₂, rfl, coin, w₁, hi, rfl⟩ := hy
  cases Aftermath.yields_validator hv
  obtain ⟨t, n, ht, hn, ha⟩ := yields_stakeInput hi
  exact .aftermathStake hd ht hn ha

theorem builds_voloStake {d : StakeData} (hd : s.node.data = .stake d) (hy : Yields (Volo.stake c s d) w es r w') :
    Builds c s .voloStake w es w' := by
  simp [Volo.stake, yields_bind, and_assoc, yields_call, yields_transfer] at hy
  obtain ⟨coin, w₁, hi, rfl⟩ := hy
  obtain ⟨t, n, ht, hn, ha⟩ := yields_stakeInput hi
  exact .voloStake hd ht hn ha

theorem builds_navi {d : LendData} (hd : s.node.data = .lend d) (hy : Yields (Navi.lend c s d) w es r w') :
    Builds c s .naviLending w es w' := by
  simp only [Navi.lend, yields_bind, yields_ofExcept, and_assoc, exists_and_left, exists_eq_left, List.nil_append,
    exists_eq_left'] at hy
  obtain ⟨t, ht, hy⟩ := hy
  split at hy
  · exact absurd hy yields_throw
  · next pool hp =>
    simp only [yields_bind, yields_ofExcept, and_assoc, exists_and_left, exists_eq_left, List.nil_append,
      exists_eq_left'] at hy
    obtain ⟨n, hn, hy⟩ := hy
    have obtained (hact : d.action = "withdraw" ∨ d.action = "borrow")
        (hy : Yields (Navi.obtain t pool n d.action) w es r w') : Builds c s .naviLending w es w' := by
      simp [Navi.obtain, yields_bind, and_assoc, yields_call, produce] at hy
      exact .naviObtain hd hact ht hp hn hy
    split at hy
    · next hact =>
      simp [Navi.deposit, yields_bind, and_assoc, yields_call] at hy
      obtain ⟨coin, w₁, ha, rfl⟩ := hy
      exact .naviDeposit hd hact ht hp hn ha
    · next hact => exact obtained (.inl hact) hy
    · next hact => exact obtained (.inr hact) hy
    · exact absurd hy yields_throw
    · exact absurd hy yields_throw

theorem yields_obligation {d : LendData} {action : String} {o : Scallop.Obligation}
    (hy : Yields (Scallop.obligation c s d action) w es o w') : w' = w := by
  unfold Scallop.obligation at hy
  split at hy
  · exact (yields_pure.1 hy).2.2
  · simp only [yields_bind, yields_ofEngine, yields_pure] at hy
    obtain ⟨_, owned, _, ⟨-, rfl⟩, _, -, _, id, w₁, hi, _, -, _, keys, _, ⟨-, rfl⟩, _, -, _, key, w₂, hk, _, -, -, -,
      rfl⟩ := hy
    rw [(Scallop.yields_first hk).1, (Scallop.yields_first hi).1]

theorem yields_marketCoins {t : Token} {wrapped : Option Scallop.WrappedCoin} {x : List CoinRecord × List CoinRecord}
    (hy : Yields (Scallop.marketCoins c t wrapped) w es x w') : w' = w := by
  cases wrapped with
  | none =>
    simp only [Scallop.marketCoins, yields_bind, yields_ofEngine, yields_pure] at hy
    obtain ⟨_, _, _, ⟨-, -, rfl⟩, _, -, _, _, _, ⟨-, rfl⟩, _, -, -, -, rfl⟩ := hy
    rfl
  | some k =>
    simp only [Scallop.marketCoins, yields_bind, yields_ofEngine, yields_pure] at hy
    obtain ⟨_, _, _, ⟨-, rfl⟩, _, -, _, _, _, ⟨-, rfl⟩, _, -, -, -, rfl⟩ := hy
    rfl

theorem builds_withdraw {d : LendData} {t : Token} (hd : s.node.data = .lend d) (hact : d.action = "withdraw")
    (ht : c.token s d.asset = .ok t) (hy : Yields (Scallop.withdraw c s d t) w es r w') :
    Builds c s .scallopLending w es w' := by
  unfold Scallop.withdraw at hy
  simp only [yields_bind] at hy
  obtain ⟨es₁, ⟨wrapped, plain⟩, w₁, hr, es₂, rfl, hy⟩ := hy
  cases yields_marketCoins hr
  split at hy
  · obtain ⟨_, _, _, hthrow, -⟩ := yields_bind.1 hy
    exact absurd hthrow yields_throw
  · simp [yields_bind, yields_call, and_assoc] at hy
    obtain ⟨shares, hs, coin, w₂, hm, rfl⟩ := hy
    exact .scallopWithdraw hd hact ht hs hm

theorem builds_scallop {d : LendData} (hd : s.node.data = .lend d) (hy : Yields (Scallop.lend c s d) w es r w') :
    Builds c s .scallopLending w es w' := by
  simp only [Scallop.lend, yields_bind, yields_ofExcept, and_assoc, exists_and_left, exists_eq_left, List.nil_append,
    exists_eq_left'] at hy
  obtain ⟨t, ht, hy⟩ := hy
  split at hy
  · next hact =>
    simp [Scallop.deposit, yields_bind, and_assoc, yields_call] at hy
    obtain ⟨n, hn, coin, w₁, ha, rfl⟩ := hy
    exact .scallopDeposit hd hact ht hn ha
  · next hact => exact builds_withdraw hd hact ht hy
  · next hact =>
    simp [Scallop.borrow, yields_bind, and_assoc, yields_call] at hy
    obtain ⟨o, w₁, ho, n, hn, rfl⟩ := hy
    cases yields_obligation ho
    exact .scallopBorrow hd hact ht hn
  · next hact =>
    simp [Scallop.repay, yields_bind, and_assoc, yields_call] at hy
    obtain ⟨es₁, o, w₀, ho, es₂, rfl, n, hn, coin, w₁, ha, rfl⟩ := hy
    cases yields_obligation ho
    exact .scallopRepay hd hact ht hn ha
  · exact absurd hy yields_throw

theorem builds_call {d : CustomData} (hd : s.node.data = .custom d) (hy : Yields (MoveCall.call c s d) w es r w') :
    Builds c s .moveCall w es w' := by
  simp [MoveCall.call, yields_bind, and_assoc, yields_call] at hy
  obtain ⟨values, -, types, -, hs, w₁, hh, rfl⟩ := hy
  exact .call hd hh

end Protocol

theorem Builder.builds {c : Protocol.Setting} {s : Step} {b : Builder} {w w' : Workspace} {es : List Exchange}
    {r : Unit} (hy : Assembly.Yields (b.build c s) w es r w') : Protocol.Builds c s b w es w' := by
  unfold Builder.build at hy
  split at hy
  · next hd => exact Protocol.builds_transfer hd hy
  · next hd => exact Protocol.builds_swap hd hy
  · next hd => exact Protocol.builds_call hd hy
  · next hd => exact Protocol.builds_nativeStake hd hy
  · next hd => exact Protocol.builds_aftermathStake hd hy
  · next hd => exact Protocol.builds_voloStake hd hy
  · next hd => exact Protocol.builds_navi hd hy
  · next hd => exact Protocol.builds_scallop hd hy
  · exact absurd hy Assembly.yields_throw

end LedgerFlow
