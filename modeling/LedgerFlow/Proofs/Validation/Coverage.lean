import LedgerFlow.Proofs.Bridge.Scope
import LedgerFlow.Proofs.Condition.Readings
import LedgerFlow.Proofs.Graph.Decoded
import LedgerFlow.Proofs.Run.Preparation
import LedgerFlow.Proofs.Validation.Builders

namespace LedgerFlow

namespace TokenRegistry

theorem find?_native_standard : ∃ t, standard.find? nativeSymbol = some t := ⟨_, rfl⟩

theorem pool_of_standard {symbol : String} {t : Token} (h : standard.find? symbol = some t) :
    ∃ pool, Protocol.Navi.pools.lookup t.symbol = some pool := by
  obtain ⟨key, hm⟩ := mem_entries_of_find? h
  have hlent : standard.entries.all (fun e => (Protocol.Navi.pools.lookup e.2.symbol).isSome) = true := by decide
  exact Option.isSome_iff_exists.1 (List.all_eq_true.1 hlent _ hm)

end TokenRegistry

theorem Builder.find?_standard (b : Builder) : standard.find? b.key = some b := by
  cases b <;> rfl

namespace Validation

variable {rules : Rules} {names : NameTable} {strict : Bool}

theorem supports_of_checkTransfer {d : TransferData} (h : checkTransfer rules d = .ok ()) :
    Builder.nativeTransfer.Supports rules.tokens (.transfer d) :=
  (checkTransfer_eq_ok.1 h).asset

theorem supports_of_checkSwap {d : SwapData} (h : checkSwap rules d = .ok ()) :
    Builder.exchange.Supports rules.tokens (.swap d) := by
  obtain ⟨given, wanted, ⟨hg, -⟩, ⟨hw, -⟩, ⟨source, hs⟩, ⟨target, ht⟩, -⟩ := (checkSwap_eq_ok.1 h).assets
  exact ⟨given, wanted, source, target, hg, hw, hs, ht⟩

theorem supports_of_checkLend {d : LendData} (h : checkLend ⟨.standard, names, strict⟩ d = .ok ()) :
    d.protocol = "scallop" ∧ Builder.scallopLending.Supports .standard (.lend d) ∨
      d.protocol = "navi" ∧ Builder.naviLending.Supports .standard (.lend d) := by
  obtain ⟨-, hprotocol, haction, hrepay, t, ht⟩ := checkLend_eq_ok.1 h
  simp only [lendingProtocols, List.mem_cons, List.not_mem_nil, or_false] at hprotocol
  obtain hscallop | hnavi := hprotocol
  · exact .inl ⟨hscallop, haction, t, ht⟩
  · obtain ⟨pool, hpool⟩ := TokenRegistry.pool_of_standard ht
    have hrepay := hrepay hnavi
    refine .inr ⟨hnavi, ?_, t, pool, ht, hpool⟩
    simp only [lendingActions, List.mem_cons, List.not_mem_nil, or_false] at haction
    simp only [Protocol.Navi.actions, List.mem_cons, List.not_mem_nil, or_false]
    tauto

theorem supports_of_checkStake {d : StakeData} (h : checkStake d = .ok ()) :
    d.protocol = "native" ∧ Builder.nativeStake.Supports .standard (.stake d) ∨
      d.protocol = "aftermath" ∧ Builder.aftermathStake.Supports .standard (.stake d) ∨
      d.protocol = "volo" ∧ Builder.voloStake.Supports .standard (.stake d) := by
  obtain ⟨-, hprotocol, hvalidator⟩ := checkStake_eq_ok.1 h
  have hnative := TokenRegistry.find?_native_standard
  simp only [stakingProtocols, List.mem_cons, List.not_mem_nil, or_false] at hprotocol
  obtain hn | ha | hv := hprotocol
  · exact .inl ⟨hn, hnative, hvalidator hn⟩
  · exact .inr (.inl ⟨ha, hnative⟩)
  · exact .inr (.inr ⟨hv, hnative⟩)

theorem supports_of_checkCustom {d : CustomData} (h : checkCustom d = .ok ()) :
    Builder.moveCall.Supports .standard (.custom d) := by
  obtain ⟨-, harguments, htypes⟩ := checkCustom_eq_ok.1 h
  exact ⟨TokenRegistry.find?_native_standard, harguments, htypes⟩

theorem supports_of_checkNode {n : Node} {key : AdapterKey}
    (h : checkNode ⟨.standard, names, strict⟩ n = .ok ()) (hk : n.adapterKey? = some key)
    (hb : n.isBridge = false) : ∃ b, Builder.standard.find? key = some b ∧ b.Supports .standard n.data := by
  obtain ⟨id, position, data⟩ := n
  cases data with
  | transfer d =>
    cases hk
    exact ⟨.nativeTransfer, Builder.find?_standard .nativeTransfer, supports_of_checkTransfer h⟩
  | swap d =>
    cases hk
    exact ⟨.exchange, Builder.find?_standard .exchange, supports_of_checkSwap h⟩
  | lend d =>
    cases hk
    obtain ⟨hp, hs⟩ | ⟨hp, hs⟩ := supports_of_checkLend h
    · exact ⟨.scallopLending, hp ▸ Builder.find?_standard .scallopLending, hs⟩
    · exact ⟨.naviLending, hp ▸ Builder.find?_standard .naviLending, hs⟩
  | stake d =>
    cases hk
    obtain ⟨hp, hs⟩ | ⟨hp, hs⟩ | ⟨hp, hs⟩ := supports_of_checkStake h
    · exact ⟨.nativeStake, hp ▸ Builder.find?_standard .nativeStake, hs⟩
    · exact ⟨.aftermathStake, hp ▸ Builder.find?_standard .aftermathStake, hs⟩
    · exact ⟨.voloStake, hp ▸ Builder.find?_standard .voloStake, hs⟩
  | custom d =>
    cases hk
    exact ⟨.moveCall, Builder.find?_standard .moveCall, supports_of_checkCustom h⟩
  | bridge d => cases hb
  | _ => cases hk

end Validation

namespace Assembly

variable {c : AssemblySetting}

theorem blameless_buildStep {s : Step} {key : AdapterKey} {b : Builder} (hb : c.adapters.find? key = some b)
    (h : b.Supports c.tokens s.node.data) : Blameless (buildStep c s key) := by
  simp only [buildStep, hb]
  apply blameless_mapFault (Builder.blameless_build h)
  intro f hf
  cases f with
  | engine e => rfl
  | schema issues => cases hf
  | raised kind message cause => cases hf

theorem blameless_buildSteps {names : NameTable} {strict : Bool} {steps : List Step} (ht : c.tokens = .standard)
    (ha : c.adapters = Builder.standard)
    (h : ∀ s ∈ steps, Validation.checkNode ⟨.standard, names, strict⟩ s.node = .ok ()) :
    Blameless (buildSteps c steps) := by
  induction steps with
  | nil => exact blameless_pure
  | cons s rest ih =>
    have hrest := ih fun t hm => h t (.tail _ hm)
    unfold buildSteps
    split
    · next key hk =>
      split
      · exact hrest
      · next hlive =>
        have hbridge : s.node.isBridge = false := by
          simp only [Bool.or_eq_true, not_or, Bool.not_eq_true] at hlive
          exact hlive.2
        obtain ⟨b, hb, hs⟩ := Validation.supports_of_checkNode (h s List.mem_cons_self) hk hbridge
        apply blameless_bind (blameless_buildStep (ha ▸ hb) (ht ▸ hs))
        intro _
        exact blameless_bind hrest fun _ => blameless_pure
    · exact hrest

theorem blameless_returnCoins (signer : String) (coins : List PooledCoin) :
    Blameless (returnCoins signer coins) := by
  induction coins with
  | nil => exact blameless_pure
  | cons c rest ih => exact blameless_bind (blameless_transfer _ _) fun _ => ih

theorem harmless_reserveUnits (ht : c.tokens = .standard) : Harmless (reserveUnits c) := by
  have hnative : ∃ t, c.tokens.get nativeSymbol = .ok t := by
    rw [ht]
    exact ⟨_, rfl⟩
  obtain ⟨t, hnative⟩ := hnative
  rw [reserveUnits, hnative]
  exact (harmless_bind (harmless_ofResult _) fun _ => harmless_toBaseUnits _ _ :
    Harmless (Amount.ofResult (Decimal.ofText c.gasReserve.text) >>= t.toBaseUnits))

end Assembly

theorem blameless_assemble {c : AssemblySetting} {names : NameTable} {strict : Bool} {steps : List Step}
    (ht : c.tokens = .standard) (ha : c.adapters = Builder.standard)
    (h : ∀ s ∈ steps, Validation.checkNode ⟨.standard, names, strict⟩ s.node = .ok ()) :
    (assemble c steps).Blameless := by
  apply Engine.blameless_bind (Engine.blameless_ofExcept (Assembly.harmless_reserveUnits ht))
  intro reserve es f hy hf
  have hbuild : Assembly.Blameless (Assembly.build c steps) := by
    apply Assembly.blameless_bind (Assembly.blameless_buildSteps ht ha h)
    intro operations
    apply Assembly.blameless_bind
    · apply Assembly.blameless_bind Assembly.blameless_state
      intro w
      exact Assembly.blameless_bind Assembly.blameless_update fun _ => Assembly.blameless_pure
    · intro left
      apply Assembly.blameless_bind (Assembly.blameless_returnCoins _ _)
      intro _
      apply Assembly.blameless_ite Assembly.blameless_pure
      exact Assembly.blameless_bind Assembly.blameless_state fun _ => Assembly.blameless_pure
  have hy : (((Assembly.build c steps).run (Assembly.start c reserve)).bind fun r => .done r.1).Yields es (.error f) := hy
  obtain ⟨es₁, es₂, ⟨x, w⟩, rfl, hb, hd⟩ := Program.yields_bind.1 hy
  obtain ⟨rfl, rfl⟩ := Program.yields_done.1 hd
  rw [List.append_nil]
  exact hbuild _ es₁ f w hb hf

namespace Condition

variable {c : Condition.Setting} {s : Step}

theorem untainted_fetchBalance {asset : String} {t : Token} (ht : c.tokens.find? asset = some t) (address : String) :
    (fetchBalance c s address asset).Untainted := by
  simp only [fetchBalance, ht]
  apply Engine.untainted_bind (Engine.untainted_mapFault fun _ => rfl)
  intro raw
  apply Engine.untainted_bind (Engine.untainted_ofExcept (Assembly.harmless_integer raw))
  intro units
  exact Engine.untainted_ofExcept (harmless_fromBaseUnits t units)

theorem harmless_ofJson (v : Json) : Harmless (Observation.ofJson v) := by
  cases v with
  | float x => exact harmless_ofResult _
  | string text =>
    simp only [Observation.ofJson, Observation.ofText]
    split
    · exact harmless_ok
    · exact harmless_error.2 rfl
  | array vs =>
    cases vs with
    | nil => exact harmless_error.2 rfl
    | cons v rest =>
      simp only [Observation.ofJson]
      split
      · exact harmless_ok
      · exact harmless_error.2 rfl
  | bool b => exact harmless_ok
  | int n => exact harmless_ok
  | null => exact harmless_error.2 rfl
  | object ms => exact harmless_error.2 rfl

theorem harmless_first (v : Json) : Harmless (Observation.first v) := by
  unfold Observation.first
  split
  · exact harmless_ok
  · exact harmless_error.2 rfl
  · split
    · exact harmless_ok
    · exact harmless_error.2 rfl
  · exact harmless_error.2 rfl
  · exact harmless_error.2 rfl

theorem isMisconfiguration_unreadableValue {target : String} {f : Fault} (h : f.isMisconfiguration = false) :
    (unreadableValue s target f).isMisconfiguration = false := by
  unfold unreadableValue
  split
  · rfl
  · exact h

theorem untainted_fetchContract {arguments : Option Arguments} {vs : List Json}
    (h : Arguments.toList arguments "contract arguments" = .ok vs) (target : String) :
    (fetchContract s target arguments).Untainted := by
  simp only [fetchContract, h]
  apply Engine.untainted_bind (Engine.untainted_mapFault fun _ => rfl)
  intro answer
  have hread : (Engine.mapFault (unreadableValue s target)
      (Engine.ofExcept (Observation.first answer >>= Observation.ofJson))).Untainted :=
    Engine.untainted_reworded
      (Engine.untainted_ofExcept (harmless_bind (harmless_first answer) harmless_ofJson))
      fun _ => isMisconfiguration_unreadableValue
  split
  · exact Engine.untainted_bind (Engine.untainted_throw rfl) fun _ => hread
  · exact hread

theorem harmless_near (actual expected tolerance : Decimal) : Harmless (Comparison.near actual expected tolerance) := by
  apply harmless_bind (harmless_ofResult _)
  intro difference
  apply harmless_bind (harmless_ofResult _)
  intro distance
  exact harmless_bind (harmless_ofResult _) fun _ => harmless_ok

theorem harmless_holds (operator : Comparison) (actual expected : Decimal) (tolerance : Number) :
    Harmless (operator.holds actual expected tolerance) := by
  apply harmless_bind (harmless_ofResult _)
  intro epsilon
  cases operator with
  | eq => exact harmless_near _ _ _
  | ne => exact harmless_bind (harmless_near _ _ _) fun _ => harmless_ok
  | _ => exact harmless_bind (harmless_ofResult _) fun _ => harmless_ok

theorem untainted_judge (c : Condition.Setting) (operator : Comparison) (observed expected : Decimal) :
    (judge c operator observed expected).Untainted :=
  Engine.untainted_bind (Engine.untainted_ofExcept (harmless_holds _ _ _ _)) fun _ => Engine.untainted_pure

theorem untainted_evaluate {names : NameTable} {strict : Bool} {d : LogicData} (ht : c.tokens = .standard)
    (hd : d.balanceAsset.isEmpty = false) (h : Validation.checkLogic ⟨.standard, names, strict⟩ d = .ok ()) :
    (evaluate c s d).Untainted := by
  cases hq : query? d with
  | none =>
    simp only [evaluate, hq]
    exact Engine.untainted_pure
  | some q =>
    cases hl : d.logicType with
    | none => simp [query?, hl] at hq
    | some kind =>
      cases kind with
      | balance =>
        obtain ⟨address, operator, expected, rfl⟩ := query?_of_balance hl hq
        obtain ⟨t, hfind⟩ := (Validation.checkLogic_eq_ok.1 h).asset hl hd
        simp only [evaluate, hq]
        exact Engine.untainted_bind (untainted_fetchBalance (ht ▸ hfind) address) fun _ => untainted_judge _ _ _ _
      | contract =>
        obtain ⟨target, operator, expected, rfl⟩ := query?_of_contract hl hq
        obtain ⟨vs, hvs⟩ := (Validation.checkLogic_eq_ok.1 h).arguments hl
        simp only [evaluate, hq]
        exact Engine.untainted_bind (untainted_fetchContract hvs target) fun _ => untainted_judge _ _ _ _

theorem untainted_evaluateStep {names : NameTable} {strict : Bool} (ht : c.tokens = .standard)
    (hs : s.node.data.statesAsset = true) (h : Validation.checkNode ⟨.standard, names, strict⟩ s.node = .ok ()) :
    (evaluateStep c s).Untainted := by
  unfold evaluateStep
  split
  · next d hd =>
    have hasset : d.balanceAsset.isEmpty = false := by simpa [NodeData.statesAsset, hd] using hs
    have hd : Validation.checkLogic ⟨.standard, names, strict⟩ d = .ok () := by simpa [Validation.checkNode, hd] using h
    exact untainted_evaluate ht hasset hd
  · exact Engine.untainted_throw rfl

end Condition

/-- With the tables that the engine starts with, a plan that passed its checks is free of misconfiguration: none is found
while conditions are evaluated or routes are asked for, and one that an assembly ends in is what a collaborator answered.
A condition states its asset, as every one does that an editor hands over (`statesAsset_of_decodeGraph`). -/
theorem covered_of_validateSteps {names : NameTable} {strict : Bool} {steps : List Step}
    (hv : validateSteps ⟨.standard, names, strict⟩ steps = .ok ()) :
    (∀ c : AssemblySetting, c.tokens = .standard → c.adapters = Builder.standard →
      ∀ es f, (assemble c steps).Yields es (.error f) → f.isMisconfiguration = true → ∃ e ∈ es, e.fault? = some f) ∧
    (∀ c : Condition.Setting, c.tokens = .standard → ∀ s ∈ steps, s.node.data.statesAsset = true →
      ∀ es f, (Condition.evaluateStep c s).Yields es (.error f) → f.isMisconfiguration = false) ∧
    ∀ (c : Bridge.Setting) (s : Step) (d : BridgeData), s ∈ steps → s.node.data = .bridge d →
      ∀ f, Bridge.routeRequest c s d = .error f → ∀ e, f ≠ .engine e := by
  have hchecked := checkNode_of_validateSteps hv
  refine ⟨fun c ht ha => blameless_assemble ht ha hchecked, fun c ht s hm hasset es f hy => ?_, ?_⟩
  · exact harmless_error.1 (Condition.untainted_evaluateStep ht hasset (hchecked s hm) es _ hy)
  · intro c s d hm hd f hr e hf
    have hbridge := Validation.checkBridge_of_checkNode (hchecked s hm) hd
    obtain ⟨make, hmake⟩ := Bridge.routeRequest_of_checkBridge (c := c) (s := s) hbridge
    subst hf
    cases hsent : Bridge.amountSent d (d.asset.getD "") with
    | ok t =>
      rw [hmake, hsent] at hr
      cases hr
    | error f =>
      rw [hmake, hsent] at hr
      cases hr
      exact Bridge.raises_amountSent d _ e hsent

def everyKind : List Step := [
  .of 0 (.transfer ⟨some "0x51", some 1, "sui"⟩),
  .of 1 (.swap ⟨some "SUI", some "USDC", some 1, none, none⟩),
  .of 2 (.lend ⟨"borrow", "USDC", some 1, "navi", none, none⟩),
  .of 3 (.lend ⟨"repay", "USDC", some 1, "scallop", none, none⟩),
  .of 4 (.stake ⟨some 1, "native", some "0x7a"⟩),
  .of 5 (.stake ⟨some 1, "aftermath", none⟩),
  .of 6 (.stake ⟨some 1, "volo", none⟩),
  .of 7 (.bridge ⟨some "USDC", some "USDC", some "arbitrum", some 10, some "0x71C7656EC7ab88b098defB751B7401B5f6d8976F",
    "none"⟩),
  .of 8 (.custom ⟨some "0x1", some "pool", some "join", some (.items [.int 1, .bool true]), none⟩),
  .of 9 (.logic ⟨some .balance, some "0x51", "USDC", some .gt, some 1, none, none, none, none, none, none⟩)]

theorem covered_of_validateSteps_everyKind :
    (∀ c : AssemblySetting, c.tokens = .standard → c.adapters = Builder.standard →
      ∀ es f, (assemble c everyKind).Yields es (.error f) → f.isMisconfiguration = true →
        ∃ e ∈ es, e.fault? = some f) ∧
    (∀ c : Condition.Setting, c.tokens = .standard → ∀ s ∈ everyKind, s.node.data.statesAsset = true →
      ∀ es f, (Condition.evaluateStep c s).Yields es (.error f) → f.isMisconfiguration = false) ∧
    ∀ (c : Bridge.Setting) (s : Step) (d : BridgeData), s ∈ everyKind → s.node.data = .bridge d →
      ∀ f, Bridge.routeRequest c s d = .error f → ∀ e, f ≠ .engine e :=
  @covered_of_validateSteps .empty true everyKind (except_eq_ok.2 (by decide +kernel))

end LedgerFlow
