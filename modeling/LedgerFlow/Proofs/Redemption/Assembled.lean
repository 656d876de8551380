import LedgerFlow.Proofs.Assembly.Operations
import LedgerFlow.Proofs.Redemption.Withdrawals
import LedgerFlow.Proofs.Replay.Rehearsal

/-!
Market coins in the transaction that a plan is assembled to. Each withdrawal keeps within what the signer has, but it
does not know of the withdrawals before it.
-/

namespace LedgerFlow

open Protocol.Scallop (shareTypes)

namespace TokenRegistry

/-- No token is itself a market coin. -/
def Plain (r : TokenRegistry) : Prop := ∀ e ∈ r.entries, e.2.coinType ∉ shareTypes r

instance (r : TokenRegistry) : Decidable r.Plain :=
  inferInstanceAs (Decidable (∀ e ∈ r.entries, e.2.coinType ∉ shareTypes r))

theorem Plain.aloof {c : Protocol.Setting} {l : Ledger} {named : List String} (h : c.tokens.Plain)
    (hl : l.Apart (l.idsOf (shareTypes c.tokens)) named) : c.Aloof l (l.idsOf (shareTypes c.tokens)) named where
  tokens := by
    intro symbol t ht x hx hm
    obtain ⟨key, hkey⟩ := mem_entries_of_find? ht
    obtain ⟨u, hu, hm⟩ := List.mem_flatMap.1 hm
    obtain ⟨y, hy, heq⟩ := List.mem_map.1 hm
    have hne : u ≠ t.coinType := by
      rintro rfl
      exact h _ hkey hu
    exact Ledger.ne_of_coinType hy hx hne heq
  apart := hl

end TokenRegistry

theorem AssemblySetting.redeems_eq_true {c : AssemblySetting} {s : Step} (h : c.redeems s = true) :
    ∃ d, s.node.data = .lend d ∧ d.action = "withdraw" ∧
      s.node.adapterKey?.bind c.adapters.find? = some .scallopLending := by
  unfold redeems at h
  split at h
  · next d hd =>
    rw [Bool.and_eq_true, beq_iff_eq, beq_iff_eq] at h
    exact ⟨d, hd, h⟩
  · cases h

namespace Assembly

variable {l : Ledger} {c : AssemblySetting} {w w' : Workspace} {es : List Exchange} {rs : List Redemption}

theorem spares_returning {signer : String} {left : List PooledCoin} {ids : List String}
    (h : ∀ x ∈ left, x.coin.objectId? = none) : ∀ y ∈ returning signer left, y.Spares ids := by
  intro y hy
  obtain ⟨x, hx, rfl⟩ := List.mem_map.1 hy
  simpa [Command.Spares, Command.handles] using Handle.spares_of_objectId? (h x hx)

theorem buildStep_redeemed {s : Step} {key : AdapterKey} {r : Unit} (hr : c.tokens.Plain)
    (hl : l.Apart (l.idsOf (shareTypes c.tokens)) s.namedObjects) (hk : s.node.adapterKey? = some key)
    (h : w.Redeemed l (shareTypes c.tokens) rs) (hy : Yields (buildStep c s key) w es r w')
    (ha : ∀ e ∈ es, l.Reports e ∧ e.Spares (l.idsOf (shareTypes c.tokens))) :
    ∃ more, c.redemptions l s = .ok more ∧ w'.Redeemed l (shareTypes c.tokens) (rs ++ more) := by
  have hc : (protocolSetting c).Aloof l (l.idsOf (shareTypes c.tokens)) s.namedObjects := hr.aloof hl
  unfold buildStep at hy
  split at hy
  · exact absurd hy yields_throw
  · next b hb =>
    rw [yields_mapFault] at hy
    cases hred : c.redeems s with
    | true =>
      obtain ⟨d, hd, haction, hkey⟩ := AssemblySetting.redeems_eq_true hred
      rw [hk, Option.bind_some, hb, Option.some.injEq] at hkey
      subst hkey
      have hy : Yields (Protocol.Scallop.lend (protocolSetting c) s d) w es r w' := by
        simpa only [Builder.build, hd] using hy
      simp only [Protocol.Scallop.lend, haction, yields_bind, yields_ofExcept] at hy
      obtain ⟨_, t, _, ⟨rfl, ht, rfl⟩, es₁, rfl, hy⟩ := hy
      obtain ⟨x, hx, htaken, hp, hw, after, hcs, hafter⟩ :=
        Protocol.Scallop.yields_withdraw hc ht (fun e he => (ha e he).1) hy
      refine ⟨[x], ?_, h.redeem htaken ⟨hp ▸ h.ordered.pool, hw ▸ h.ordered.holdings⟩ hcs hafter⟩
      unfold AssemblySetting.redemptions
      simp only [hd, hred]
      exact except_bind_eq_ok.2 ⟨x, hx, rfl⟩
    | false =>
      have hother : ∀ d, b = .scallopLending → s.node.data = .lend d → d.action ≠ "withdraw" := by
        rintro d rfl hd hw
        simp [AssemblySetting.redeems, hd, hk, hb, hw] at hred
      obtain ⟨-, ho, cs, hcs, hspares⟩ := Builder.spares_build hc b hother w es r w' h.ordered hy ha
      refine ⟨[], ?_, by simpa using h.spared ho hcs hspares⟩
      unfold AssemblySetting.redemptions
      split
      · simp [hred, pure, Except.pure]
      · rfl

theorem buildSteps_redeemed {steps : List Step} {n : Nat} (hr : c.tokens.Plain)
    (hl : ∀ s ∈ Plan.operations steps, l.Apart (l.idsOf (shareTypes c.tokens)) s.namedObjects)
    (h : w.Redeemed l (shareTypes c.tokens) []) (hy : Yields (buildSteps c steps) w es n w')
    (ha : ∀ e ∈ es, l.Reports e ∧ e.Spares (l.idsOf (shareTypes c.tokens))) :
    ∃ rs, Plan.redemptions c l (Plan.operations steps) = .ok rs ∧ w'.Redeemed l (shareTypes c.tokens) rs := by
  refine buildSteps_keeps (P := fun before w => ∃ rs, Plan.redemptions c l before = .ok rs ∧
    w.Redeemed l (shareTypes c.tokens) rs) [] ?_ ⟨[], rfl, h⟩ hy ha
  rintro before s key w es r w' hm hk ⟨rs, hrs, h⟩ hy ha
  obtain ⟨more, hmore, h'⟩ := buildStep_redeemed hr (hl s hm) hk h hy ha
  exact ⟨rs ++ more, Plan.collect_append hrs hmore, h'⟩

theorem build_redeemed {steps : List Step} {result : AssemblyResult} {tx : Transaction} (hr : c.tokens.Plain)
    (hl : ∀ s ∈ Plan.operations steps, l.Apart (l.idsOf (shareTypes c.tokens)) s.namedObjects)
    (h : w.Redeemed l (shareTypes c.tokens) []) (hy : Yields (build c steps) w es result w')
    (ha : ∀ e ∈ es, l.Reports e ∧ e.Spares (l.idsOf (shareTypes c.tokens))) (htx : result.transaction = some tx) :
    ∃ rs, Plan.redemptions c l (Plan.operations steps) = .ok rs ∧ (∀ r ∈ rs, r.Taken l (shareTypes c.tokens)) ∧
      tx.commands.filter (Command.touches (l.idsOf (shareTypes c.tokens))) = rs.flatMap Redemption.commands := by
  obtain ⟨n, w₁, hb, -, rfl, hret⟩ := yields_build hy htx
  obtain ⟨rs, hrs, h₁⟩ := buildSteps_redeemed hr hl h hb ha
  obtain ⟨-, rfl⟩ := yields_returnCoins.1 hret
  have hspares : ∀ y ∈ returning c.signer w₁.pool.coins, y.Spares (l.idsOf (shareTypes c.tokens)) :=
    spares_returning h₁.ordered.pool
  refine ⟨rs, hrs, h₁.taken, ?_⟩
  rw [List.filter_append, h₁.recorded, Workspace.Redeemed.filter_of_spares hspares, List.append_nil]

theorem start_redeemed {types : List String} {reserve : Int} : (start c reserve).Redeemed l types [] where
  ordered := ⟨by simp [start, CoinPool.empty], by simp [start, Wallet.empty]⟩
  taken := by simp
  recorded := rfl

theorem assemble_redeemed {steps : List Step} {result : AssemblyResult} {tx : Transaction} (hr : c.tokens.Plain)
    (hl : l.Apart (l.idsOf (shareTypes c.tokens)) ((Plan.active steps).flatMap Step.namedObjects))
    (hy : (assemble c steps).Yields es (.ok result))
    (ha : ∀ e ∈ es, l.Reports e ∧ e.Spares (l.idsOf (shareTypes c.tokens))) (htx : result.transaction = some tx) :
    ∃ rs, Plan.redemptions c l (Plan.operations steps) = .ok rs ∧ (∀ r ∈ rs, r.Taken l (shareTypes c.tokens)) ∧
      tx.commands.filter (Command.touches (l.idsOf (shareTypes c.tokens))) = rs.flatMap Redemption.commands := by
  obtain ⟨reserve, -, w, hb⟩ := yields_assemble.1 hy
  refine build_redeemed hr ?_ start_redeemed hb ha htx
  intro s hm
  exact hl.mono fun id hid => List.mem_flatMap.2 ⟨s, Plan.mem_active_of_mem_operations hm, hid⟩

end Assembly

section

variable {l : Ledger} {c : AssemblySetting} {steps : List Step} {es : List Exchange} {result : AssemblyResult}
  {tx : Transaction}

/-- The transaction deals soundly with market coins just if, of every two withdrawals that redeem the same type, one
takes a single coin, and the withdrawals of no type take more together than there is of it. Neither is checked. -/
theorem assemble_keepsShares_iff (hr : c.tokens.Plain)
    (hl : l.Apart (l.idsOf (shareTypes c.tokens)) ((Plan.active steps).flatMap Step.namedObjects))
    (hy : (assemble c steps).Yields es (.ok result))
    (ha : ∀ e ∈ es, l.Reports e ∧ e.Spares (l.idsOf (shareTypes c.tokens))) (htx : result.transaction = some tx) :
    ∃ rs, Plan.redemptions c l (Plan.operations steps) = .ok rs ∧
      (tx.KeepsShares l (shareTypes c.tokens) ↔
        rs.Pairwise Redemption.Compatible ∧
          ∀ t ∈ shareTypes c.tokens, Redemption.unitsOf t rs ≤ Holding.total (l.coinsOf t)) := by
  obtain ⟨rs, hrs, htaken, hf⟩ := Assembly.assemble_redeemed hr hl hy ha htx
  exact ⟨rs, hrs, Transaction.keepsShares_iff hf htaken⟩

/-- The plans for which nothing has to be checked: with one withdrawal a type the condition above always holds, as what
a single withdrawal takes is cut down to what there is. It takes two of one type for them to clash. -/
theorem assemble_keepsShares_of_nodup (hr : c.tokens.Plain)
    (hl : l.Apart (l.idsOf (shareTypes c.tokens)) ((Plan.active steps).flatMap Step.namedObjects))
    (hy : (assemble c steps).Yields es (.ok result))
    (ha : ∀ e ∈ es, l.Reports e ∧ e.Spares (l.idsOf (shareTypes c.tokens))) (htx : result.transaction = some tx)
    (hn : ∀ rs, Plan.redemptions c l (Plan.operations steps) = .ok rs → (rs.map (·.coinType)).Nodup)
    (hpos : ∀ t ∈ shareTypes c.tokens, 0 ≤ Holding.total (l.coinsOf t)) :
    tx.KeepsShares l (shareTypes c.tokens) := by
  obtain ⟨rs, hrs, htaken, hf⟩ := Assembly.assemble_redeemed hr hl hy ha htx
  rw [Transaction.keepsShares_iff hf htaken]
  exact ⟨Redemption.compatible_of_nodup (hn rs hrs),
    fun t ht => Redemption.unitsOf_le_of_nodup htaken (hn rs hrs) (hpos t ht)⟩

end

namespace Rehearsal

theorem spares_answer (ids : List String) (s : Rehearsal) (q : Request) : Exchange.Spares ids ⟨q, (answer q s).1⟩ := by
  cases q with
  | swapBuild q input slippage tx =>
    simp only [answer]
    cases s.script.swap.buildFailure with
    | some f => trivial
    | none =>
      refine ⟨?_, .inr (Handle.spares_of_objectId? rfl)⟩
      intro x hx
      cases List.mem_singleton.1 hx
      intro h hh
      cases hh with
      | head => exact .inl rfl
      | tail _ hh =>
        right
        apply Handle.spares_of_objectId?
        cases hh with
        | head => rfl
        | tail _ hh =>
          cases List.mem_singleton.1 hh
          rfl
  | _ => trivial

theorem spares_exchanges {α : Type} (ids : List String) (p : Program α) (s : Rehearsal) :
    ∀ e ∈ p.exchanges answer s, e.Spares ids :=
  Program.forall_exchanges (I := fun _ => True) (fun _ _ _ => trivial) (fun q s _ => spares_answer ids s q) p trivial

end Rehearsal

def shareType : String :=
  "0xefe8b36d5b2e43728cc323298626b83177803521d195cfb11e15b910e892fddf::reserve::MarketCoin<" ++
    "0xdba34672e30cb065b1f93e3ab55318768fd6fef66c15942c9f7cb846e2f900e7::usdc::USDC>"

def shareLedger : Ledger where
  native := 1000000000
  coins := [(shareType, [⟨"0xs1", 3000000⟩, ⟨"0xs2", 3000000⟩])]
  owned := []
  distinct := by decide

def shareHolder : Script :=
  { Rehearsal.blank with
    ledger := ⟨[(nativeCoinType, 1000000000)], shareLedger.coins, [], [], none, none, none, none⟩ }

def twoWithdrawals (amount : Decimal) : List Step := [
  .of 0 (.lend ⟨"withdraw", "USDC", some amount, "scallop", none, none⟩),
  .of 1 (.lend ⟨"withdraw", "USDC", some amount, "scallop", none, none⟩)]

theorem shareHolder_answers (c : AssemblySetting) (steps : List Step) (ids : List String) :
    ∀ e ∈ Rehearsal.exchangesOf c steps shareHolder, shareLedger.Reports e ∧ e.Spares ids := by
  intro e he
  exact ⟨(Rehearsal.answers_exchanges (s := .create shareHolder) _ ⟨by decide, rfl, rfl⟩ e he).1,
    Rehearsal.spares_exchanges ids _ _ e he⟩

theorem assemble_keepsShares_iff_twoWithdrawals :
    ∃ tx, Rehearsal.transactionOf (holdingBack 1) (twoWithdrawals 1) shareHolder = some tx ∧
      tx.KeepsShares shareLedger (shareTypes .standard) := by
  have hsome : (Rehearsal.transactionOf (holdingBack 1) (twoWithdrawals 1) shareHolder).isSome = true := by
    decide +kernel
  obtain ⟨tx, htx⟩ := Option.isSome_iff_exists.1 hsome
  obtain ⟨result, hy, hresult⟩ := Rehearsal.exists_of_transactionOf htx
  have hl : shareLedger.Apart (shareLedger.idsOf (shareTypes (holdingBack 1).tokens))
      ((Plan.active (twoWithdrawals 1)).flatMap Step.namedObjects) :=
    ⟨by decide +kernel, by decide +kernel, by decide +kernel, by decide +kernel⟩
  obtain ⟨rs, hrs, hiff⟩ := assemble_keepsShares_iff (by decide +kernel) hl hy (shareHolder_answers _ _ _) hresult
  have hknown : (Plan.redemptions (holdingBack 1) shareLedger (Plan.operations (twoWithdrawals 1))).toOption =
      some (List.replicate 2 ⟨shareType, [⟨"0xs1", 3000000⟩], 946343⟩) := by
    decide +kernel
  rw [hrs] at hknown
  cases hknown
  exact ⟨tx, htx, hiff.2 ⟨by decide +kernel, by decide +kernel⟩⟩

/-- Two large ones each merge the second coin into the first, and together they split off more than there is. -/
theorem twoWithdrawals_overdraw :
    (∀ e ∈ Rehearsal.exchangesOf (holdingBack 1) (twoWithdrawals 5) shareHolder,
      shareLedger.Reports e ∧ e.Spares (shareLedger.idsOf (shareTypes .standard))) ∧
    ∃ tx, Rehearsal.transactionOf (holdingBack 1) (twoWithdrawals 5) shareHolder = some tx ∧
      ¬ tx.commands.Pairwise (Command.Follows (shareLedger.idsOf (shareTypes .standard))) ∧
      Holding.total (shareLedger.coinsOf shareType) <
        totalUnits (tx.commands.map (Command.unitsSplit ((shareLedger.coinsOf shareType).map (·.objectId)))) := by
  have h : (Rehearsal.transactionOf (holdingBack 1) (twoWithdrawals 5) shareHolder).any (fun tx => decide
      (¬ tx.commands.Pairwise (Command.Follows (shareLedger.idsOf (shareTypes .standard))) ∧
        Holding.total (shareLedger.coinsOf shareType) <
          totalUnits (tx.commands.map (Command.unitsSplit ((shareLedger.coinsOf shareType).map (·.objectId)))))) =
      true := by
    decide +kernel
  obtain ⟨tx, htx, hover⟩ := (Option.any_eq_true _ _).1 h
  exact ⟨shareHolder_answers _ _ _, tx, htx, of_decide_eq_true hover⟩

end LedgerFlow
