import LedgerFlow.Proofs.Exchange
import LedgerFlow.Validation

namespace LedgerFlow.Validation

variable {rules : Rules}

theorem demand_eq_ok {condition : Bool} {reason : Reason} {u : Unit} :
    demand condition reason = .ok u ↔ condition = true := by
  cases condition <;> simp [demand, refuse]

theorem present_eq_ok {field : Option String} {reason : Reason} {x : String} :
    present field reason = .ok x ↔ field = some x ∧ x.isEmpty = false := by
  cases field with
  | none => simp [present, refuse]
  | some s =>
    cases hs : s.isEmpty with
    | true =>
      simp only [present, refuse, hs, if_true, reduceCtorEq, Option.some.injEq, false_iff]
      rintro ⟨rfl, hx⟩
      exact absurd (hs.symm.trans hx) (by decide)
    | false =>
      simp only [present, hs, Bool.false_eq_true, if_false, Except.ok.injEq, Option.some.injEq, iff_self_and]
      rintro rfl
      exact hs

theorem order_eq_ok {a b : Decimal} {o : Ordering} : order a b = .ok o ↔ a.order? b = some o := by
  rw [order, mapError_eq_ok, Decimal.order]
  cases a.order? b <;> simp

theorem positive_eq_ok {amount : Option Decimal} {what : String} {d : Decimal} :
    positive amount what = .ok d ↔ amount = some d ∧ d.isPositive = true := by
  cases amount with
  | none => simp [positive, refuse]
  | some x =>
    simp only [positive, except_bind_eq_ok, order_eq_ok, Option.some_inj, Decimal.isPositive, beq_iff_eq]
    constructor
    · rintro ⟨o, ho, h⟩
      split at h
      · next hgt =>
        cases h
        exact ⟨rfl, hgt ▸ ho⟩
      · cases h
    · rintro ⟨rfl, hd⟩
      exact ⟨.gt, hd, rfl⟩

theorem knownAsset_eq_ok {symbol : String} {u : Unit} :
    knownAsset rules symbol = .ok u ↔ ∃ t, rules.tokens.find? symbol = some t := by
  rw [knownAsset, demand_eq_ok, Option.isSome_iff_exists]

theorem argumentList_eq_ok {a : Option Arguments} {what : String} {u : Unit} :
    argumentList a what = .ok u ↔ ∃ vs, Arguments.toList a what = .ok vs := by
  unfold argumentList
  split
  · next vs hvs => simp [hvs]
  · next e he => simp [he]

def Filled (field : Option String) : Prop := ∃ x, field = some x ∧ x.isEmpty = false

def IsPositive (amount : Option Decimal) : Prop := ∃ d, amount = some d ∧ d.isPositive = true

def Rules.Know (rules : Rules) (symbol : String) : Prop := ∃ t, rules.tokens.find? symbol = some t

structure TransferStated (rules : Rules) (d : TransferData) : Prop where
  recipient : Filled d.recipientAddress
  amount : IsPositive d.amount
  asset : rules.Know d.asset

theorem checkTransfer_eq_ok {d : TransferData} : checkTransfer rules d = .ok () ↔ TransferStated rules d := by
  simp only [checkTransfer, except_bind_eq_ok, present_eq_ok, positive_eq_ok, knownAsset_eq_ok]
  constructor
  · rintro ⟨s, hs, x, hx, ht⟩
    exact ⟨⟨s, hs⟩, ⟨x, hx⟩, ht⟩
  · rintro ⟨⟨s, hs⟩, ⟨x, hx⟩, ht⟩
    exact ⟨s, hs, x, hx, ht⟩

structure SwapStated (rules : Rules) (d : SwapData) : Prop where
  assets : ∃ source target, (d.fromAsset = some source ∧ source.isEmpty = false) ∧
    (d.toAsset = some target ∧ target.isEmpty = false) ∧ rules.Know source ∧ rules.Know target ∧
    Text.upper source ≠ Text.upper target
  amount : IsPositive d.amount

theorem checkSwap_eq_ok {d : SwapData} : checkSwap rules d = .ok () ↔ SwapStated rules d := by
  simp only [checkSwap, except_bind_eq_ok, present_eq_ok, positive_eq_ok, knownAsset_eq_ok, demand_eq_ok, bne_iff_ne,
    exists_const]
  constructor
  · rintro ⟨source, hs, target, ht, hks, hkt, hne, x, hx, -⟩
    exact ⟨⟨source, target, hs, ht, hks, hkt, hne⟩, x, hx⟩
  · rintro ⟨⟨source, target, hs, ht, hks, hkt, hne⟩, x, hx⟩
    exact ⟨source, hs, target, ht, hks, hkt, hne, x, hx, rfl⟩

structure LendStated (rules : Rules) (d : LendData) : Prop where
  amount : IsPositive d.amount
  protocol : d.protocol ∈ lendingProtocols
  action : d.action ∈ lendingActions
  repay : d.protocol = "navi" → d.action ≠ "repay"
  asset : rules.Know d.asset

theorem checkLend_eq_ok {d : LendData} : checkLend rules d = .ok () ↔ LendStated rules d := by
  have hrepay : (!(d.protocol == "navi" && d.action == "repay")) = true ↔ (d.protocol = "navi" → d.action ≠ "repay") := by
    rw [Bool.not_eq_true', Bool.and_eq_false_imp, beq_iff_eq, beq_eq_false_iff_ne]
  simp only [checkLend, except_bind_eq_ok, positive_eq_ok, knownAsset_eq_ok, demand_eq_ok, List.contains_iff_mem,
    exists_const, hrepay]
  constructor
  · rintro ⟨x, hx, hp, ha, hr, ht⟩
    exact ⟨⟨x, hx⟩, hp, ha, hr, ht⟩
  · rintro ⟨⟨x, hx⟩, hp, ha, hr, ht⟩
    exact ⟨x, hx, hp, ha, hr, ht⟩

structure StakeStated (d : StakeData) : Prop where
  amount : ∃ x, (d.amount = some x ∧ x.isPositive = true) ∧ (d.protocol = "native" → x.order? minimumStake ≠ some .lt)
  protocol : d.protocol ∈ stakingProtocols
  validator : d.protocol = "native" → Filled d.validator

theorem exists_order_of_isPositive {x : Decimal} (h : x.isPositive = true) : ∃ o, x.order? minimumStake = some o := by
  cases x with
  | finite s c e => exact ⟨_, rfl⟩
  | infinity s => exact ⟨_, rfl⟩
  | nan s signalling payload => cases h

theorem checkStake_eq_ok {d : StakeData} : checkStake d = .ok () ↔ StakeStated d := by
  simp only [checkStake, except_bind_eq_ok, positive_eq_ok, demand_eq_ok, List.contains_iff_mem, exists_const]
  by_cases hn : d.protocol = "native"
  · simp only [hn, beq_self_eq_true, if_true, except_bind_eq_ok, demand_eq_ok, present_eq_ok, order_eq_ok, bne_iff_ne,
      exists_const]
    constructor
    · rintro ⟨x, hx, hp, o, ho, hmin, v, hv, -⟩
      exact ⟨⟨x, hx, fun _ h => hmin (Option.some_inj.1 (ho.symm.trans h))⟩, hn ▸ hp, fun _ => ⟨v, hv⟩⟩
    · rintro ⟨⟨x, hx, hmin⟩, hp, hv⟩
      obtain ⟨v, hv⟩ := hv hn
      obtain ⟨o, ho⟩ := exists_order_of_isPositive hx.2
      exact ⟨x, hx, hn ▸ hp, o, ho, fun h => hmin hn (h ▸ ho), v, hv, rfl⟩
  · simp only [beq_iff_eq, hn, if_false]
    constructor
    · rintro ⟨x, hx, hp, -⟩
      exact ⟨⟨x, hx, fun h => absurd h hn⟩, hp, fun h => absurd h hn⟩
    · rintro ⟨⟨x, hx, -⟩, hp, -⟩
      exact ⟨x, hx, hp, rfl⟩

def Rules.Reach (rules : Rules) (destination : String) : Prop :=
  if NameForm.isForeignName destination then rules.names.contains destination = true
  else "0x".isPrefixOf destination = true ∧ Text.size destination = 42

theorem checkDestination_eq_ok {destination : String} {u : Unit} :
    checkDestination rules destination = .ok u ↔ rules.Reach destination := by
  unfold checkDestination Rules.Reach
  split
  · exact demand_eq_ok
  · rw [demand_eq_ok, Bool.and_eq_true, beq_iff_eq]

structure BridgeStated (rules : Rules) (d : BridgeData) : Prop where
  ends : ∃ asset output chain id, (d.asset = some asset ∧ asset.isEmpty = false) ∧
    (d.outputAsset = some output ∧ output.isEmpty = false) ∧ (d.chain = some chain ∧ chain.isEmpty = false) ∧
    Chain.destinationId? chain = some id ∧ (∃ source, Chain.sourceToken? asset = some source) ∧
    ∃ target, Chain.destinationToken? output id = some target
  amount : IsPositive d.amount
  destination : ∃ s, (d.ethereumAddress = some s ∧ s.isEmpty = false) ∧ rules.Reach s

theorem checkBridge_eq_ok {d : BridgeData} : checkBridge rules d = .ok () ↔ BridgeStated rules d := by
  simp only [checkBridge, except_bind_eq_ok, present_eq_ok, positive_eq_ok, checkDestination_eq_ok, exists_const]
  constructor
  · rintro ⟨asset, ha, output, ho, chain, hc, x, hx, s, hs, hr, hends⟩
    refine ⟨?_, ⟨x, hx⟩, s, hs, hr⟩
    split at hends
    · cases hends
    · next id hid =>
      simp only [except_bind_eq_ok, demand_eq_ok, Option.isSome_iff_exists, exists_const] at hends
      exact ⟨asset, output, chain, id, ha, ho, hc, hid, hends⟩
  · rintro ⟨⟨asset, output, chain, id, ha, ho, hc, hid, hends⟩, ⟨x, hx⟩, s, hs, hr⟩
    refine ⟨asset, ha, output, ho, chain, hc, x, hx, s, hs, hr, ?_⟩
    simp only [hid, except_bind_eq_ok, demand_eq_ok, Option.isSome_iff_exists, exists_const]
    exact hends

structure CustomStated (d : CustomData) : Prop where
  target : Filled d.packageId ∧ Filled d.moduleName ∧ Filled d.functionName
  arguments : ∃ vs, Arguments.toList d.arguments "arguments" = .ok vs
  typeArguments : ∃ vs, Arguments.toList d.typeArguments "type arguments" = .ok vs

theorem checkCustom_eq_ok {d : CustomData} : checkCustom d = .ok () ↔ CustomStated d := by
  simp only [checkCustom, except_bind_eq_ok, present_eq_ok, argumentList_eq_ok, exists_const]
  constructor
  · rintro ⟨p, hp, m, hm, f, hf, ha, ht⟩
    exact ⟨⟨⟨p, hp⟩, ⟨m, hm⟩, f, hf⟩, ha, ht⟩
  · rintro ⟨⟨⟨p, hp⟩, ⟨m, hm⟩, f, hf⟩, ha, ht⟩
    exact ⟨p, hp, m, hm, f, hf, ha, ht⟩

structure LogicStated (rules : Rules) (d : LogicData) : Prop where
  arguments : d.logicType = some .contract → ∃ vs, Arguments.toList d.contractArguments "contract arguments" = .ok vs
  asset : d.logicType = some .balance → d.balanceAsset.isEmpty = false → rules.Know d.balanceAsset
  complete : rules.strictBranches = true → d.missingFields = []

theorem checkLogic_eq_ok {d : LogicData} : checkLogic rules d = .ok () ↔ LogicStated rules d := by
  unfold checkLogic
  constructor
  · intro h
    refine ⟨fun hl => ?_, fun hl he => ?_, fun hs => ?_⟩
    · simp only [hl, except_bind_eq_ok] at h
      obtain ⟨_, ha, -⟩ := h
      exact argumentList_eq_ok.1 ha
    · simp only [hl, he, Bool.false_eq_true, if_false, except_bind_eq_ok] at h
      obtain ⟨_, hk, -⟩ := h
      exact knownAsset_eq_ok.1 hk
    · cases hm : d.missingFields with
      | nil => rfl
      | cons field rest =>
        simp only [hs, hm, if_true] at h
        split at h
        · obtain ⟨_, -, h⟩ := except_bind_eq_ok.1 h
          cases h
        · split at h
          · cases h
          · obtain ⟨_, -, h⟩ := except_bind_eq_ok.1 h
            cases h
        · cases h
  · rintro ⟨harguments, hasset, hcomplete⟩
    have hend : rules.strictBranches = false ∨ d.missingFields = [] := by
      cases hs : rules.strictBranches with
      | false => exact .inl rfl
      | true => exact .inr (hcomplete hs)
    have hpass : (pure () : Verdict) = .ok () := rfl
    cases hl : d.logicType with
    | none => obtain hs | hm := hend <;> simp [*]
    | some kind =>
      cases kind with
      | balance =>
        cases he : d.balanceAsset.isEmpty with
        | true => obtain hs | hm := hend <;> simp [*]
        | false =>
          have hknown : knownAsset rules d.balanceAsset = .ok () := knownAsset_eq_ok.2 (hasset hl he)
          obtain hs | hm := hend <;> simp [*, except_bind_eq_ok]
      | contract =>
        have hlist : argumentList d.contractArguments "contract arguments" = .ok () :=
          argumentList_eq_ok.2 (harguments hl)
        obtain hs | hm := hend <;> simp [*, except_bind_eq_ok]

theorem checkBridge_of_checkNode {n : Node} {d : BridgeData} (h : checkNode rules n = .ok ()) (hd : n.data = .bridge d) :
    checkBridge rules d = .ok () := by
  rwa [checkNode, hd] at h

end LedgerFlow.Validation
