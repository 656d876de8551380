import LedgerFlow.Proofs.Assembly.Segments
import LedgerFlow.Proofs.Decimal.Sign
import LedgerFlow.Proofs.Run.Phases

namespace LedgerFlow

theorem Protocol.unitsIn_nonneg {token : Except Fault Token} {amount : Option Decimal} {n : Int}
    (hd : Validation.IsPositive amount) (h : unitsIn token amount = some n) : 0 ≤ n := by
  obtain ⟨d, rfl, hpositive⟩ := hd
  have h := except_eq_ok.2 h
  obtain ⟨t, -, hn⟩ := except_bind_eq_ok.1 h
  obtain ⟨given, hgiven, hn⟩ := except_bind_eq_ok.1 hn
  cases hgiven
  exact Amount.toUnits_nonneg hpositive hn

theorem Step.units?_nonneg {rules : Validation.Rules} {c : Protocol.Setting} {s : Step} {n : Int}
    (h : Validation.checkNode rules s.node = .ok ()) (hn : s.units? c = some n) : 0 ≤ n := by
  obtain ⟨index, ⟨id, position, data⟩, skipped⟩ := s
  cases data with
  | transfer d => exact Protocol.unitsIn_nonneg (Validation.checkTransfer_eq_ok.1 h).amount hn
  | swap d => exact Protocol.unitsIn_nonneg (Validation.checkSwap_eq_ok.1 h).amount hn
  | lend d => exact Protocol.unitsIn_nonneg (Validation.checkLend_eq_ok.1 h).amount hn
  | stake d =>
    obtain ⟨x, hx, -⟩ := (Validation.checkStake_eq_ok.1 h).amount
    exact Protocol.unitsIn_nonneg ⟨x, hx⟩ hn
  | _ => cases hn

theorem AssemblySetting.dust_eq_zero {rules : Validation.Rules} {c : AssemblySetting} {s : Step} {n : Int}
    (h : Validation.checkNode rules s.node = .ok ()) (hn : n ∈ c.dust s) : n = 0 := by
  unfold dust at hn
  split at hn
  · unfold Builder.dust at hn
    split at hn
    · obtain ⟨hm, hle⟩ := List.mem_filter.1 hn
      have := Step.units?_nonneg h (Option.mem_toList.1 hm)
      have := of_decide_eq_true hle
      omega
    · exact (List.not_mem_nil hn).elim
  · exact (List.not_mem_nil hn).elim

theorem Bridge.fromAmount_of_checkBridge {rules : Validation.Rules} {c : Bridge.Setting} {s : Step} {d : BridgeData}
    {request : RouteRequest} (h : Validation.checkBridge rules d = .ok ()) (hr : routeRequest c s d = .ok request) :
    ∃ n, unitsSent d (d.asset.getD "") = .ok n ∧ 0 ≤ n ∧ request.fromAmount = toString n := by
  obtain ⟨asset, destination, n, hasset, -, hn, htext, -⟩ := routeRequest_eq_ok hr
  obtain ⟨amount, hamount, hpositive⟩ := (Validation.checkBridge_eq_ok.1 h).amount
  refine ⟨n, by rw [hasset]; exact hn, ?_, ?_⟩
  · obtain ⟨given, hgiven, hunits⟩ := except_bind_eq_ok.1 hn
    rw [hamount] at hgiven
    cases hgiven
    exact Amount.toUnits_nonneg hpositive hunits
  · unfold Amount.textOf at htext
    split at htext
    · cases htext
    · exact (Except.ok.inj htext).symm

namespace Run

variable {services : RunServices} {settings : RunSettings} {p : Payload} {es : List Exchange}
  {out : Except Fault ExecutionResult}

/-- What a run commits to by a request, given what it exchanged before it began to build. -/
def Commits (services : RunServices) (settings : RunSettings) (p : Payload) (prior : List Exchange) : Request → Prop
  | .swapRoute _ _ n => 0 < n
  | .submit tx => ∃ names steps, (prepare services settings p).Yields prior (.ok (names, steps)) ∧
      tx.dust = (Plan.operations steps).flatMap (assemblySetting services settings names).dust ∧
      (∀ n ∈ tx.dust, n = 0) ∧
      (tx.dust = [] → ∀ s ∈ Plan.operations steps, (assemblySetting services settings names).redeems s = false →
        ∀ n, s.units? (Assembly.protocolSetting (assemblySetting services settings names)) = some n → 0 < n)
  | .routes request => ∃ names steps, (prepare services settings p).Yields prior (.ok (names, steps)) ∧
      ∃ s ∈ Assembly.bridgesOf steps, ∃ d, s.node.data = .bridge d ∧
        ∃ n, Bridge.unitsSent d (d.asset.getD "") = .ok n ∧ 0 ≤ n ∧ request.fromAmount = toString n
  | _ => True

theorem commits_of_phase {prior : List Exchange} {q : Request} (h : q.phase.rank < Phase.building.rank) :
    Commits services settings p prior q := by
  cases q <;> trivial

theorem commits_of_isReading {prior : List Exchange} {q : Request} (h : q.IsReading) :
    Commits services settings p prior q := by
  cases q with
  | swapRoute => exact h
  | submit => cases h
  | routes => cases h
  | _ => trivial

variable {prior : List Exchange} {names : NameTable} {steps : List Step} {a : AssemblyResult}

theorem commits_bridges (hp : (prepare services settings p).Yields prior (.ok (names, steps))) :
    (runBridges (bridgeSetting services settings names) (Assembly.bridgesOf steps)).Asks
      (Commits services settings p prior) := by
  have hasks : (runBridges (bridgeSetting services settings names) (Assembly.bridgesOf steps)).Asks
      (Request.IsBridging fun amount => ∃ s ∈ Assembly.bridgesOf steps, ∃ d, s.node.data = .bridge d ∧
        ∃ n, Bridge.unitsSent d (d.asset.getD "") = .ok n ∧ 0 ≤ n ∧ amount = toString n) := by
    apply asks_runBridges
    intro s hs d hd request hr
    have hbridge := Validation.checkBridge_of_checkNode (checkNode_of_prepare hp s (List.mem_filter.1 hs).1) hd
    exact ⟨s, hs, d, hd, Bridge.fromAmount_of_checkBridge hbridge hr⟩
  refine Engine.Asks.imp hasks fun q hq => ?_
  cases q with
  | routes request => exact ⟨names, steps, hp, hq⟩
  | swapRoute => cases hq
  | submit => cases hq
  | _ => trivial

theorem commits_submit (hp : (prepare services settings p).Yields prior (.ok (names, steps))) {es : List Exchange}
    (ha : (assemble (assemblySetting services settings names) steps).Yields es (.ok a)) (ht : ∀ e ∈ es, e.Tidy) :
    (submitIfAny a.transaction).Asks (Commits services settings p prior) := by
  cases htx : a.transaction with
  | none => exact Engine.asks_pure
  | some tx =>
    obtain ⟨hdust, hpositive⟩ := dust_of_assemble ha htx ht
    have hzero : ∀ n ∈ tx.dust, n = 0 := by
      intro n hn
      rw [hdust] at hn
      obtain ⟨s, hs, hn⟩ := List.mem_flatMap.1 hn
      exact AssemblySetting.dust_eq_zero (checkNode_of_prepare hp s (List.mem_filter.1 hs).1) hn
    have hcommits : Commits services settings p prior (.submit tx) := ⟨names, steps, hp, hdust, hzero, hpositive⟩
    exact Engine.asks_bind (Engine.asks_mapFault (Engine.asks_ask.2 hcommits)) fun _ => Engine.asks_pure

theorem commits_carryOut (hp : (prepare services settings p).Yields prior (.ok (names, steps))) {es : List Exchange}
    (ha : (assemble (assemblySetting services settings names) steps).Yields es (.ok a)) (ht : ∀ e ∈ es, e.Tidy) :
    (carryOut services settings names a).Asks (Commits services settings p prior) := by
  unfold carryOut
  split
  · exact Engine.asks_pure
  · apply Engine.asks_bind Engine.asks_ofExcept
    intro _
    apply Engine.asks_bind (commits_submit hp ha ht)
    intro digest
    rw [(of_assemble ha).1]
    exact Engine.asks_bind (commits_bridges hp) fun _ => Engine.asks_pure

/-- However the collaborators behave, if only the router of swaps brings no dust in. -/
theorem execute_commits (h : (execute services settings p).Yields es out) (ht : ∀ e ∈ es, e.Tidy) :
    ∀ e ∈ es, Commits services settings p (Phase.building.earlier es) e.request := by
  rw [execute_eq] at h
  obtain ⟨hsplit, hrun⟩ := Engine.yields_bind_phase (until_prepare _ _ _) (since_complete _ _) h
  intro e he
  rw [hsplit] at he
  obtain he | he := List.mem_append.1 he
  · exact commits_of_phase (of_decide_eq_true (List.mem_filter.1 he).2)
  obtain ⟨⟨names, steps⟩, hp, hc⟩ | ⟨f, -, -, hnone⟩ := hrun
  · have htidy : ∀ e ∈ Phase.building.onward es, e.Tidy := fun e he => ht e (List.mem_filter.1 he).1
    obtain ⟨es₁, es₂, a, heq, ha, hk⟩ | ⟨f, -, ha⟩ := Engine.yields_bind.1 hc
    · rw [heq] at he htidy
      have htidy : ∀ e ∈ es₁, e.Tidy := fun e he => htidy e (List.mem_append_left _ he)
      obtain he | he := List.mem_append.1 he
      · exact commits_of_isReading (Engine.Asks.of_yields (reads_assemble _ _) ha e he)
      · exact Engine.Asks.of_yields (commits_carryOut hp ha htidy) hk e he
    · exact commits_of_isReading (Engine.Asks.of_yields (reads_assemble _ _) ha e he)
  · rw [hnone] at he
    exact (List.not_mem_nil he).elim

end Run

namespace Rehearsal

theorem tidy_answer (q : Request) (s : Rehearsal) : Exchange.Tidy ⟨q, (answer q s).1⟩ := by
  cases q with
  | swapBuild quote input slippage tx =>
    simp only [answer]
    cases s.script.swap.buildFailure with
    | some f => trivial
    | none => rfl
  | _ => trivial

theorem tidy_exchanges {α : Type} (p : Program α) (s : Rehearsal) : ∀ e ∈ p.exchanges answer s, e.Tidy :=
  Program.forall_exchanges (I := fun _ => True) (fun _ _ _ => trivial) (fun q s _ => tidy_answer q s) p trivial

end Rehearsal

namespace Run

def speck : FlowGraph where
  nodes := [
    .of "wallet" (.wallet ⟨none⟩),
    .of "borrow" (.lend ⟨"borrow", "USDC", some (.finite false 1 (-7)), "navi", none, none⟩)]
  edges := [⟨"first", "wallet", "borrow"⟩]
  metadata := []
  sound := by decide +kernel

def speckView : GraphView := ⟨speck, Settings.standard.runSettings.positionEpsilon⟩

theorem plan_speck :
    plan Runner.mainServices Settings.standard.runSettings (.graph speck) =
      .ok (speckView, number 0 (speck.nodes.drop 1)) :=
  plan_eq rfl (GraphView.compile_of_isRow (by decide +kernel))

def speckRun : Engine ExecutionResult :=
  execute Runner.mainServices Settings.standard.runSettings (.graph speck)

def speckExchanges : List Exchange := speckRun.run.exchanges Rehearsal.answer (.create Runner.richSigner)

def dustSubmitted : Exchange → List Int
  | ⟨.submit tx, _⟩ => tx.dust
  | _ => []

theorem dust_speckExchanges : speckExchanges.flatMap dustSubmitted = [0] := by
  simp only [speckExchanges, speckRun, execute, plan_speck]
  decide +kernel

theorem execute_commits_speck : speckExchanges.length ≠ 0 ∧ ∀ e ∈ speckExchanges,
    Commits Runner.mainServices Settings.standard.runSettings (.graph speck) (Phase.building.earlier speckExchanges)
      e.request := by
  refine ⟨fun h => ?_, execute_commits (Rehearsal.yields_perform speckRun.run (.create Runner.richSigner))
    (Rehearsal.tidy_exchanges _ _)⟩
  have hdust := dust_speckExchanges
  rw [List.eq_nil_of_length_eq_zero h] at hdust
  cases hdust

/-- The loan passes every check, and the run succeeds with a call that borrows nothing. -/
theorem speck_committed : ∃ es result, speckRun.Yields es (.ok result) ∧
    ∃ e ∈ es, ∃ tx, e.request = .submit tx ∧ 0 ∈ tx.commands.flatMap Command.amounts := by
  have hsucceeds : (Rehearsal.perform speckRun.run (.create Runner.richSigner)).1.toOption.isSome = true := by
    simp only [speckRun, execute, plan_speck]
    decide +kernel
  obtain ⟨result, hresult⟩ := Option.isSome_iff_exists.1 hsucceeds
  have hy := Rehearsal.yields_perform speckRun.run (.create Runner.richSigner)
  rw [except_eq_ok.2 hresult] at hy
  have hdust : 0 ∈ speckExchanges.flatMap dustSubmitted := by simp [dust_speckExchanges]
  obtain ⟨⟨request, answer⟩, he, hzero⟩ := List.mem_flatMap.1 hdust
  refine ⟨speckExchanges, result, hy, _, he, ?_⟩
  cases request with
  | submit tx =>
    obtain ⟨x, hx, hzero⟩ := List.mem_flatMap.1 hzero
    exact ⟨tx, rfl, List.mem_flatMap.2 ⟨x, hx, (List.mem_filter.1 hzero).1⟩⟩
  | _ => exact (List.not_mem_nil hzero).elim

end Run

end LedgerFlow
