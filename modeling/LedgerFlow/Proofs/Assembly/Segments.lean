import LedgerFlow.Proofs.Assembly.Amounts
import Mathlib.Data.List.Forall2

namespace LedgerFlow

namespace Protocol

def unitsIn (token : Except Fault Token) (amount : Option Decimal) : Option Int :=
  (do unitsOf (← token) amount : Except Fault Int).toOption

theorem unitsIn_eq {token : Except Fault Token} {t : Token} {amount : Option Decimal} {n : Int} (ht : token = .ok t)
    (hn : unitsOf t amount = .ok n) : unitsIn token amount = some n := by
  subst ht
  exact congrArg Except.toOption hn

end Protocol

/-- The base units that the amount of a step comes to. -/
def Step.units? (c : Protocol.Setting) (s : Step) : Option Int :=
  match s.node.data with
  | .transfer d => Protocol.unitsIn (c.token s d.asset) d.amount
  | .swap d => Protocol.unitsIn (c.tokenOf s d.fromAsset) d.amount
  | .lend d => Protocol.unitsIn (c.token s d.asset) d.amount
  | .stake d => Protocol.unitsIn (c.token s nativeSymbol) d.amount
  | _ => none

namespace Builder

def statesAmount (b : Builder) (s : Step) : Bool :=
  match b, s.node.data with
  | .naviLending, .lend _ => true
  | .scallopLending, .lend d => d.action == "borrow"
  | _, _ => false

def redeems (b : Builder) (s : Step) : Bool :=
  match b, s.node.data with
  | .scallopLending, .lend d => d.action == "withdraw"
  | _, _ => false

def dust (b : Builder) (c : Protocol.Setting) (s : Step) : List Int :=
  if b.statesAmount s then (s.units? c).toList.filter (· ≤ 0) else []

end Builder

namespace Protocol

open Assembly

def Hands (c : Setting) (s : Step) (cs : List Command) : Prop :=
  ∀ d, s.node.data = .transfer d → ∃ before coin recipient, d.recipientAddress = some recipient ∧
    cs = before ++ [.transferObjects [coin] (some (c.names.lookup recipient))] ∧ ∀ x ∈ before, x.Sources

structure Adds (c : Setting) (b : Builder) (s : Step) (w : Workspace) (es : List Exchange) (w' : Workspace)
    (cs : List Command) : Prop where
  commands : w'.tx.commands = w.tx.commands ++ cs
  hands : Hands c s cs
  dust : w.pool.Plain → (∀ e ∈ es, e.Tidy) → cs.flatMap Command.dust = b.dust c s
  plain : w.pool.Plain → w'.pool.Plain
  positive : w.pool.Positive → b.dust c s = [] →
    w'.pool.Positive ∧ (b.redeems s = false → ∀ n, s.units? c = some n → 0 < n)

variable {c : Setting} {b : Builder} {s : Step} {w w₁ w' : Workspace} {es : List Exchange} {coin : Handle} {n : Int}
  {tail : List Command}

theorem adds_of_supplied (h : w.Supplied n coin w₁) (hu : s.units? c = some n)
    (htx : w'.tx.commands = w₁.tx.commands ++ tail) (hpool : w'.pool = w₁.pool)
    (hhands : ∀ d, s.node.data = .transfer d → ∃ recipient, d.recipientAddress = some recipient ∧
      tail = [.transferObjects [coin] (some (c.names.lookup recipient))])
    (hdust : coin.units? = none → (∀ e ∈ es, e.Tidy) → tail.flatMap Command.dust = b.dust c s) :
    ∃ cs, Adds c b s w es w' cs := by
  obtain ⟨cs, hcs, hsources⟩ := h.commands
  exact ⟨cs ++ tail, {
    commands := by rw [htx, hcs, List.append_assoc]
    hands := by
      intro d hd
      obtain ⟨recipient, hr, rfl⟩ := hhands d hd
      exact ⟨cs, coin, recipient, hr, rfl, hsources⟩
    dust := by
      intro hplain htidy
      rw [List.flatMap_append, Command.dust_eq_nil_of_sources hsources, List.nil_append]
      exact hdust (h.plain hplain).1 htidy
    plain := fun hplain => hpool ▸ (h.plain hplain).2
    positive := by
      intro hpositive _
      obtain ⟨hn, hpool₁⟩ := h.positive hpositive
      refine ⟨hpool ▸ hpool₁, fun _ m hm => ?_⟩
      rw [hu] at hm
      cases hm
      exact hn }⟩

theorem units?_of_positive {what : String} {t : Token} {amount : Option Decimal} {token : Except Fault Token}
    (ht : token = .ok t) (h : positiveUnitsOf s what t amount = .ok n) : unitsIn token amount = some n :=
  unitsIn_eq ht (unitsOf_of_positive h)

theorem adds_call {target : String} {arguments : List Handle} {types : List String} (h : w.Supplied n coin w₁)
    (hu : s.units? c = some n) (hs : ∀ d, s.node.data ≠ .transfer d)
    (hamounts : coin.units? = none →
      (Command.moveCall target arguments types).amounts = if b.statesAmount s then [n] else []) :
    ∃ cs, Adds c b s w es (w₁.record (.moveCall target arguments types)) cs := by
  refine adds_of_supplied h hu rfl rfl (fun d hd => absurd hd (hs d)) fun hcoin _ => ?_
  simp only [List.flatMap_cons, List.flatMap_nil, List.append_nil, Command.dust, hamounts hcoin, Builder.dust, hu,
    Option.toList_some]
  split <;> rfl

theorem dust_of_states (hb : b.statesAmount s = true) (hu : s.units? c = some n) :
    b.dust c s = [n].filter (· ≤ 0) := by
  rw [Builder.dust, if_pos hb, hu, Option.toList_some]

theorem pos_of_dust_eq_nil (hb : b.statesAmount s = true) (hu : s.units? c = some n) (h : b.dust c s = []) : 0 < n := by
  rw [dust_of_states hb hu, List.filter_eq_nil_iff] at h
  simpa using h n List.mem_cons_self

theorem adds_of_states {cs : List Command} (hb : b.statesAmount s = true) (hu : s.units? c = some n)
    (hs : ∀ d, s.node.data ≠ .transfer d) (hc : w'.tx.commands = w.tx.commands ++ cs)
    (hdust : cs.flatMap Command.dust = [n].filter (· ≤ 0)) (hplain : w.pool.Plain → w'.pool.Plain)
    (hpositive : 0 < n → w.pool.Positive → w'.pool.Positive) : Adds c b s w es w' cs where
  commands := hc
  hands := fun d hd => absurd hd (hs d)
  dust := fun _ _ => by rw [hdust, dust_of_states hb hu]
  plain := hplain
  positive := by
    intro h hnil
    have hn := pos_of_dust_eq_nil hb hu hnil
    refine ⟨hpositive hn h, fun _ m hm => ?_⟩
    rw [hu] at hm
    cases hm
    exact hn

theorem Builds.adds (h : Builds c s b w es w') : ∃ cs, Adds c b s w es w' cs := by
  cases h with
  | transfer hd ht hn hr ha =>
    refine adds_of_supplied (supplied_acquire ha) ?_ rfl rfl ?_ ?_
    · rw [Step.units?, hd]
      exact units?_of_positive ht hn
    · intro d' hd'
      cases hd.symm.trans hd'
      exact ⟨_, hr, rfl⟩
    · intro _ _
      simp [Command.dust, Command.amounts, Builder.dust, Builder.statesAmount]
  | @swap d source n q input out _ w₁ es₁ es₂ hd ht hn ha =>
    refine adds_of_supplied (supplied_acquire ha) ?_ (List.append_assoc _ _ _) rfl ?_ ?_
    · rw [Step.units?, hd]
      exact units?_of_positive ht hn
    · simp [hd]
    · intro _ htidy
      have ho : Exchange.Tidy ⟨.swapBuild q input c.slippage w₁.tx, .ok out⟩ := htidy _ (by simp)
      have ho : out.commands.flatMap Command.dust = [] := ho
      simp [ho, Command.dust, Command.amounts, Builder.dust, Builder.statesAmount]
  | nativeStake hd ht hn ha =>
    refine adds_call (supplied_acquire ha) (by rw [Step.units?, hd]; exact unitsIn_eq ht hn) (by simp [hd]) ?_
    intro hcoin
    rw [Command.amounts_eq_nil (by simp [hcoin, systemState])]
    rfl
  | aftermathStake hd ht hn ha =>
    refine adds_of_supplied (supplied_acquire ha) (by rw [Step.units?, hd]; exact unitsIn_eq ht hn)
      (List.append_assoc _ _ _) rfl (by simp [hd]) ?_
    intro hcoin _
    rw [List.singleton_append, List.flatMap_cons, Command.dust, Command.amounts_eq_nil
      (by simp [hcoin, Aftermath.vault, Aftermath.safe, systemState, Aftermath.referralVault])]
    rfl
  | voloStake hd ht hn ha =>
    refine adds_of_supplied (supplied_acquire ha) (by rw [Step.units?, hd]; exact unitsIn_eq ht hn)
      (List.append_assoc _ _ _) rfl (by simp [hd]) ?_
    intro hcoin _
    rw [List.singleton_append, List.flatMap_cons, Command.dust, Command.amounts_eq_nil
      (by simp [hcoin, Volo.stakePool, Volo.metadata, systemState])]
    rfl
  | naviDeposit hd hact ht hp hn ha =>
    refine adds_call (supplied_acquire ha) (by rw [Step.units?, hd]; exact unitsIn_eq ht hn) (by simp [hd]) ?_
    intro hcoin
    rw [Command.amounts_of_lending (by simp [lendingCalls])]
    simp [List.filterMap_cons, hcoin, Builder.statesAmount, hd, clock, Navi.storage, Navi.incentiveV2, Navi.incentiveV3]
  | scallopDeposit hd hact ht hn ha =>
    refine adds_call (supplied_acquire ha) (by rw [Step.units?, hd]; exact unitsIn_eq ht hn) (by simp [hd]) ?_
    intro hcoin
    rw [Command.amounts_eq_nil (by simp [hcoin, clock, Scallop.version, Scallop.market])]
    simp [Builder.statesAmount, hd, hact]
  | scallopRepay hd hact ht hn ha =>
    refine adds_call (supplied_acquire ha) (by rw [Step.units?, hd]; exact unitsIn_eq ht hn) (by simp [hd]) ?_
    intro hcoin
    rw [Command.amounts_eq_nil (by simp [hcoin, clock, Scallop.version, Scallop.market])]
    simp [Builder.statesAmount, hd, hact]
  | @naviObtain d t pool n _ _ _ hd hact ht hp hn hdep =>
    obtain ⟨⟨cs, hcs, hsources⟩, hplain, hpositive⟩ := yields_deposit hdep
    rw [Workspace.commands_record, Workspace.commands_record, List.append_assoc, List.append_assoc] at hcs
    refine ⟨_, adds_of_states (by simp [Builder.statesAmount, hd]) (by rw [Step.units?, hd]; exact unitsIn_eq ht hn)
      (by simp [hd]) hcs ?_ (hplain rfl) hpositive⟩
    have htarget : Navi.function (d.action ++ "_v2") ∈ lendingCalls := by
      obtain hact | hact := hact <;> simp [hact, lendingCalls]
    have hmade : (Command.moveCall "0x2::coin::from_balance" [.result w.tx.size] [t.coinType]).amounts = [] :=
      Command.amounts_eq_nil (by simp)
    simp only [List.singleton_append, List.flatMap_cons, Command.dust_eq_nil_of_sources hsources, Command.dust, hmade,
      Command.amounts_of_lending htarget]
    simp [List.filterMap_cons, clock, Navi.priceOracle, Navi.storage, Navi.incentiveV2, Navi.incentiveV3, systemState]
  | scallopBorrow hd hact ht hn =>
    refine ⟨[_], adds_of_states (by simp [Builder.statesAmount, hd, hact])
      (by rw [Step.units?, hd]; exact unitsIn_eq ht hn) (by simp [hd]) rfl ?_ id fun _ => id⟩
    rw [List.flatMap_singleton, Command.dust, Command.amounts_of_lending (by simp [lendingCalls])]
    simp [List.filterMap_cons, clock, Scallop.version, Scallop.market]
  | scallopWithdraw hd hact ht hs hm =>
    obtain ⟨hpool, hcoin, cs, hcs, hdust⟩ := Scallop.pool_of_marketCoin hm
    refine ⟨cs ++ [_], by rw [Workspace.commands_record, hcs, List.append_assoc], fun d hd' => by simp [hd] at hd', ?_,
      fun h => hpool ▸ h, fun h _ => ⟨hpool ▸ h, by simp [Builder.redeems, hd, hact]⟩⟩
    intro _ _
    rw [List.flatMap_append, hdust, List.flatMap_singleton, Command.dust,
      Command.amounts_eq_nil (by simp [hcoin, Scallop.version, Scallop.market, clock])]
    simp [Builder.dust, Builder.statesAmount, hd, hact]
  | call hd hh =>
    obtain ⟨⟨cs, hcs, hsources⟩, hplain, hpositive⟩ := MoveCall.furnished_handles hh
    refine ⟨cs ++ [_], by rw [Workspace.commands_record, hcs, List.append_assoc], fun d hd' => by simp [hd] at hd', ?_,
      fun h => (hplain h).2, fun h _ => ⟨hpositive h, by simp [Step.units?, hd]⟩⟩
    intro h _
    rw [List.flatMap_append, Command.dust_eq_nil_of_sources hsources, List.flatMap_singleton, Command.dust,
      Command.amounts_eq_nil (List.filterMap_eq_nil_iff.2 (hplain h).1)]
    rfl

end Protocol

def AssemblySetting.dust (c : AssemblySetting) (s : Step) : List Int :=
  match s.node.adapterKey?.bind c.adapters.find? with
  | some b => b.dust (Assembly.protocolSetting c) s
  | none => []

namespace Assembly

variable {c : AssemblySetting} {s : Step} {steps : List Step} {w w' : Workspace} {es : List Exchange}

theorem adds_buildStep {key : AdapterKey} {r : Unit} (hk : s.node.adapterKey? = some key)
    (hy : Yields (buildStep c s key) w es r w') :
    ∃ b cs, s.node.adapterKey?.bind c.adapters.find? = some b ∧
      Protocol.Adds (protocolSetting c) b s w es w' cs := by
  unfold buildStep at hy
  split at hy
  · exact absurd hy yields_throw
  · next b hb =>
    rw [yields_mapFault] at hy
    obtain ⟨cs, hcs⟩ := (Builder.builds hy).adds
    exact ⟨b, cs, by rw [hk, Option.bind_some, hb], hcs⟩

theorem segments_buildSteps {n : Nat} (hy : Yields (buildSteps c steps) w es n w') (hw : w.tx.commands = []) :
    ∃ segments, w'.tx.commands = segments.flatten ∧
      List.Forall₂ (Protocol.Hands (protocolSetting c)) (Plan.operations steps) segments := by
  refine buildSteps_keeps (A := fun _ => True) (P := fun before w => ∃ segments : List (List Command),
    w.tx.commands = segments.flatten ∧ List.Forall₂ (Protocol.Hands (protocolSetting c)) before segments) []
    ?_ ⟨[], hw, .nil⟩ hy fun _ _ => trivial
  rintro before s key w es r w' - hk ⟨segments, hw, hf⟩ hy -
  obtain ⟨b, cs, -, hadds⟩ := adds_buildStep hk hy
  refine ⟨segments ++ [cs], ?_, List.rel_append hf (.cons hadds.hands .nil)⟩
  rw [hadds.commands, hw, List.flatten_append, List.flatten_singleton]

structure Stated (c : AssemblySetting) (before : List Step) (w : Workspace) : Prop where
  dust : w.tx.dust = before.flatMap c.dust
  plain : w.pool.Plain
  positive : w.tx.dust = [] → w.pool.Positive ∧ ∀ s ∈ before, c.redeems s = false →
    ∀ n, s.units? (protocolSetting c) = some n → 0 < n

theorem Stated.next {before : List Step} {key : AdapterKey} {r : Unit} (h : Stated c before w)
    (hk : s.node.adapterKey? = some key) (hy : Yields (buildStep c s key) w es r w') (ht : ∀ e ∈ es, e.Tidy) :
    Stated c (before ++ [s]) w' := by
  obtain ⟨b, cs, hb, hadds⟩ := adds_buildStep hk hy
  have hs : c.dust s = b.dust (protocolSetting c) s := by rw [AssemblySetting.dust, hb]
  have hdust : w'.tx.dust = w.tx.dust ++ c.dust s := by
    rw [hs, ← hadds.dust h.plain ht, Transaction.dust, Transaction.dust, hadds.commands, List.flatMap_append]
  refine ⟨by rw [hdust, h.dust, List.flatMap_append, List.flatMap_singleton], hadds.plain h.plain, fun hnil => ?_⟩
  obtain ⟨hbefore, hnow⟩ := List.append_eq_nil_iff.1 (hdust ▸ hnil)
  obtain ⟨hpool, hunits⟩ := h.positive hbefore
  obtain ⟨hpool', hn⟩ := hadds.positive hpool (hs ▸ hnow)
  refine ⟨hpool', List.forall_mem_append.2 ⟨hunits, List.forall_mem_singleton.2 fun hredeems => hn ?_⟩⟩
  cases b with
  | scallopLending =>
    unfold Builder.redeems
    unfold AssemblySetting.redeems at hredeems
    split
    · next d hd =>
      rw [hd] at hredeems
      simpa [hb] using hredeems
    · rfl
  | _ => rfl

theorem stated_buildSteps {n : Nat} (hy : Yields (buildSteps c steps) w es n w') (h : Stated c [] w)
    (ht : ∀ e ∈ es, e.Tidy) : Stated c (Plan.operations steps) w' :=
  buildSteps_keeps [] (fun _ _ _ _ _ _ _ _ hk h hy ht => h.next hk hy ht) h hy ht

theorem dust_returning (signer : String) (left : List PooledCoin) :
    (returning signer left).flatMap Command.dust = [] := by
  rw [List.flatMap_eq_nil_iff]
  intro x hx
  obtain ⟨y, -, rfl⟩ := List.mem_map.1 hx
  rfl

end Assembly

section

variable {c : AssemblySetting} {steps : List Step} {es : List Exchange} {a : AssemblyResult} {tx : Transaction}

theorem segments_of_assemble (hy : (assemble c steps).Yields es (.ok a)) (htx : a.transaction = some tx) :
    ∃ segments, tx.commands = segments.flatten ++ Assembly.returning c.signer a.returned ∧
      List.Forall₂ (Protocol.Hands (Assembly.protocolSetting c)) (Plan.operations steps) segments := by
  obtain ⟨reserve, -, w, hb⟩ := Assembly.yields_assemble.1 hy
  obtain ⟨n, w₁, hs, hreturned, rfl, hr⟩ := Assembly.yields_build hb htx
  obtain ⟨segments, hw, hf⟩ := Assembly.segments_buildSteps hs rfl
  obtain ⟨-, rfl⟩ := Assembly.yields_returnCoins.1 hr
  exact ⟨segments, by rw [hreturned]; exact congrArg (· ++ _) hw, hf⟩

theorem dust_of_assemble (hy : (assemble c steps).Yields es (.ok a)) (htx : a.transaction = some tx)
    (ht : ∀ e ∈ es, e.Tidy) :
    tx.dust = (Plan.operations steps).flatMap c.dust ∧
      (tx.dust = [] → ∀ s ∈ Plan.operations steps, c.redeems s = false →
        ∀ n, s.units? (Assembly.protocolSetting c) = some n → 0 < n) := by
  obtain ⟨reserve, -, w, hb⟩ := Assembly.yields_assemble.1 hy
  obtain ⟨n, w₁, hs, hreturned, rfl, hr⟩ := Assembly.yields_build hb htx
  have hstart : Assembly.Stated c [] (Assembly.start c reserve) :=
    ⟨rfl, fun _ hx => (List.not_mem_nil hx).elim,
      fun _ => ⟨fun _ _ hf => (nomatch hf), fun _ hs => (List.not_mem_nil hs).elim⟩⟩
  have h := Assembly.stated_buildSteps hs hstart ht
  obtain ⟨-, rfl⟩ := Assembly.yields_returnCoins.1 hr
  have hdust : Transaction.dust { w₁.tx with
      commands := w₁.tx.commands ++ Assembly.returning c.signer w₁.pool.coins } = w₁.tx.dust := by
    rw [Transaction.dust, List.flatMap_append, Assembly.dust_returning, List.append_nil]
    rfl
  exact ⟨hdust.trans h.dust, fun hnil => (h.positive (hdust.symm.trans hnil)).2⟩

end

end LedgerFlow
