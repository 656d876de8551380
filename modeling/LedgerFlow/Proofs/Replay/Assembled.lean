import LedgerFlow.Proofs.Assembly.Operations
import LedgerFlow.Proofs.Replay.Builders
import LedgerFlow.Proofs.Replay.Rehearsal

namespace LedgerFlow

namespace Plan

def demands (c : Protocol.Setting) (steps : List Step) : Except Fault (List Payment) :=
  collect (Step.demands c) steps

end Plan

namespace Assembly

variable {l : Ledger} {c : AssemblySetting} {w w' : Workspace} {es : List Exchange} {paid : List Payment}
  {st : CoinStore}

theorem settles_buildStep {s : Step} {key : AdapterKey} (hc : c.tokens.Sound)
    (hl : l.Apart l.coinIds s.namedObjects) (hk : s.node.adapterKey? = some key) (hs : c.redeems s = false) :
    Settles l (buildStep c s key) (s.demands (protocolSetting c)) := by
  intro w es r w' paid st h hy ha
  unfold buildStep at hy
  split at hy
  · exact absurd hy yields_throw
  · next b hb =>
    rw [yields_mapFault] at hy
    have hw : ∀ d, b = .scallopLending → s.node.data = .lend d → d.action ≠ "withdraw" := by
      rintro d rfl hd hw
      simp [AssemblySetting.redeems, hd, hk, hb, hw] at hs
    exact Builder.settles_build (c := protocolSetting c) hc hl b hw w es r w' paid st h hy ha

theorem buildSteps_backed {steps : List Step} {n : Nat} (hc : c.tokens.Sound)
    (hl : ∀ s ∈ Plan.operations steps, l.Apart l.coinIds s.namedObjects)
    (hs : ∀ s ∈ Plan.operations steps, c.redeems s = false) (h : w.Backed l [] [] st)
    (hy : Yields (buildSteps c steps) w es n w') (ha : ∀ e ∈ es, l.Answers e) :
    ∃ ds st', Plan.demands (protocolSetting c) (Plan.operations steps) = .ok ds ∧ w'.Backed l [] ds st' := by
  refine buildSteps_keeps (P := fun before w => ∃ ds st', Plan.demands (protocolSetting c) before = .ok ds ∧
    w.Backed l [] ds st') [] ?_ ⟨[], st, rfl, h⟩ hy ha
  rintro before s key w es r w' hm hk ⟨ds, st, hd, h⟩ hy ha
  obtain ⟨more, st', hmore, h'⟩ := settles_buildStep hc (hl s hm) hk (hs s hm) w es r w' ds st h hy ha
  exact ⟨ds ++ more, st', Plan.collect_append hd hmore, h'⟩

theorem returnCoins_backed {signer : String} {left : List PooledCoin} {r : Unit} (h : w.Backed l left paid st)
    (hy : Yields (returnCoins signer left) w es r w') :
    ∃ st', w'.Backed l [] (paid ++ left.map PooledCoin.payment) st' := by
  induction left generalizing w es paid st with
  | nil =>
    obtain ⟨-, -, rfl⟩ := yields_pure.1 hy
    exact ⟨st, by simpa using h⟩
  | cons x rest ih =>
    simp only [returnCoins, yields_bind, yields_transfer] at hy
    obtain ⟨_, _, _, ⟨rfl, rfl⟩, _, rfl, hy⟩ := hy
    obtain ⟨st₁, h₁⟩ := h.give (some signer)
    obtain ⟨st', h'⟩ := ih h₁ hy
    exact ⟨st', by simpa using h'⟩

theorem build_backed {steps : List Step} {result : AssemblyResult} {tx : Transaction} (hc : c.tokens.Sound)
    (hl : ∀ s ∈ Plan.operations steps, l.Apart l.coinIds s.namedObjects)
    (hs : ∀ s ∈ Plan.operations steps, c.redeems s = false) (h : w.Backed l [] [] st)
    (hy : Yields (build c steps) w es result w') (ha : ∀ e ∈ es, l.Answers e) (htx : result.transaction = some tx) :
    ∃ ds st', Plan.demands (protocolSetting c) (Plan.operations steps) = .ok ds ∧
      (∃ before, tx.commands = before ++ returning c.signer result.returned) ∧
      w'.tx = tx ∧ w'.pool = .empty ∧ w'.Backed l [] (ds ++ result.returned.map PooledCoin.payment) st' := by
  obtain ⟨n, w₁, hb, hreturned, rfl, hr⟩ := yields_build hy htx
  obtain ⟨ds, st₁, hd, h₁⟩ := buildSteps_backed hc hl hs h hb ha
  have h₂ : ({ w₁ with pool := .empty } : Workspace).Backed l w₁.pool.coins ds st₁ :=
    h₁.exchange List.nodup_nil (by simp [CoinPool.empty])
  obtain ⟨st₂, h₃⟩ := returnCoins_backed h₂ hr
  obtain ⟨-, rfl⟩ := yields_returnCoins.1 hr
  exact ⟨ds, st₂, hd, ⟨w₁.tx.commands, by rw [hreturned]⟩, rfl, rfl, hreturned ▸ h₃⟩

theorem start_backed {reserve : Int} (hr : 0 ≤ reserve) : (start c reserve).Backed l [] [] l.opening where
  replayed := rfl
  backs := ⟨by simp [start, CoinPool.empty], .nil, by simp [Ledger.opening], fun _ _ _ => rfl⟩
  types := .nil
  stocked := Wallet.stocked_empty hr
  paid := rfl

end Assembly

/-- Whatever the ledger holds and however fair routers swap, the transaction replays to the end. Its steps are paid
what they demand, in their order, and what is left is sent back to the signer; no coin that a command made is still
there. -/
theorem assemble_replays {l : Ledger} {c : AssemblySetting} {steps : List Step} {es : List Exchange}
    {result : AssemblyResult} {tx : Transaction} (ht : c.tokens = .standard)
    (hr : ∀ reserve, Assembly.reserveUnits c = .ok reserve → 0 ≤ reserve)
    (hs : ∀ s ∈ Plan.active steps, c.redeems s = false)
    (hl : l.Apart l.coinIds ((Plan.active steps).flatMap Step.namedObjects))
    (hy : (assemble c steps).Yields es (.ok result)) (ha : ∀ e ∈ es, l.Answers e)
    (htx : result.transaction = some tx) :
    ∃ st ds, CoinStore.replay tx.commands l.opening = some st ∧
      Plan.demands (Assembly.protocolSetting c) (Plan.operations steps) = .ok ds ∧
      st.paid = ds ++ result.returned.map PooledCoin.payment ∧
      (∃ before, tx.commands = before ++ Assembly.returning c.signer result.returned) ∧
      ∀ n k x, st.worth (.made n k) = some x → x.isLive = false := by
  have hc : c.tokens.Sound := ht ▸ TokenRegistry.sound_standard
  have hop : ∀ s ∈ Plan.operations steps, l.Apart l.coinIds s.namedObjects := by
    intro s hm
    exact hl.mono fun id hid => List.mem_flatMap.2 ⟨s, Plan.mem_active_of_mem_operations hm, hid⟩
  obtain ⟨reserve, hreserve, w, hb⟩ := Assembly.yields_assemble.1 hy
  obtain ⟨ds, st, hd, hret, rfl, hpool, h⟩ := Assembly.build_backed hc hop
    (fun s hm => hs s (Plan.mem_active_of_mem_operations hm)) (Assembly.start_backed (hr reserve hreserve)) hb ha htx
  refine ⟨st, ds, h.replayed, hd, h.paid, hret, ?_⟩
  intro n k x hx
  cases hlive : x.isLive with
  | false => rfl
  | true =>
    obtain ⟨y, hy, -⟩ := h.backs.known n k x hx hlive
    simp [hpool, CoinPool.empty] at hy

def stableCoinType : String :=
  "0xdba34672e30cb065b1f93e3ab55318768fd6fef66c15942c9f7cb846e2f900e7::usdc::USDC"

def smallLedger : Ledger where
  native := 2000000000
  coins := [(stableCoinType, [⟨"0xc1", 5000000⟩])]
  owned := []
  distinct := by decide

def smallSigner : Script :=
  { Rehearsal.blank with
    ledger := ⟨[(nativeCoinType, 2000000000)], smallLedger.coins, [], [], none, none, none, none⟩
    swap := ⟨true, 1000000, none, none⟩ }

theorem smallSigner_answers (c : AssemblySetting) (steps : List Step) :
    ∀ e ∈ Rehearsal.exchangesOf c steps smallSigner, smallLedger.Answers e :=
  Rehearsal.answers_exchanges (s := .create smallSigner) _ ⟨by decide, rfl, rfl⟩

def borrowedSteps : List Step := [
  .of 0 (.lend ⟨"borrow", "USDC", some 3, "navi", none, none⟩),
  .of 1 (.transfer ⟨some "0x52", some (.finite false 75 (-1)), "USDC"⟩),
  .of 2 (.lend ⟨"borrow", "SUI", some 1, "navi", none, none⟩),
  .of 3 (.swap ⟨some "SUI", some "USDC", some (.finite false 5 (-1)), none, none⟩)]

theorem assemble_replays_borrowedSteps :
    ∃ tx back st ds, Rehearsal.transactionOf (holdingBack 1) borrowedSteps smallSigner = some tx ∧
      CoinStore.replay tx.commands smallLedger.opening = some st ∧
      Plan.demands (Assembly.protocolSetting (holdingBack 1)) (Plan.operations borrowedSteps) = .ok ds ∧
      st.paid = ds ++ back.map PooledCoin.payment ∧
      (∃ before, tx.commands = before ++ Assembly.returning "0x51" back) ∧
      ∀ n k x, st.worth (.made n k) = some x → x.isLive = false := by
  have hsome : (Rehearsal.transactionOf (holdingBack 1) borrowedSteps smallSigner).isSome = true := by decide +kernel
  obtain ⟨tx, htx⟩ := Option.isSome_iff_exists.1 hsome
  obtain ⟨result, hy, hresult⟩ := Rehearsal.exists_of_transactionOf htx
  have hr : ∀ n, Assembly.reserveUnits (holdingBack 1) = .ok n → 0 ≤ n := by
    intro n hn
    have h : (Assembly.reserveUnits (holdingBack 1)).toOption = some 1000000000 := by decide +kernel
    rw [hn] at h
    cases h
    decide
  have hl : smallLedger.Apart smallLedger.coinIds ((Plan.active borrowedSteps).flatMap Step.namedObjects) :=
    ⟨by decide +kernel, by decide +kernel, by decide +kernel, by decide +kernel⟩
  obtain ⟨st, ds, h⟩ := assemble_replays rfl hr (by decide +kernel) hl hy (smallSigner_answers _ _) hresult
  exact ⟨tx, result.returned, st, ds, htx, h⟩

def misnamedSteps : List Step := [
  .of 0 (.lend ⟨"borrow", "USDC", some 5, "scallop", some "0xc1", some "0xk1"⟩),
  .of 1 (.transfer ⟨some "0x52", some 1, "USDC"⟩)]

def largeTransfer : List Step := [.of 0 (.transfer ⟨some "0x52", some 4, "SUI"⟩)]

def replayFails (c : AssemblySetting) (steps : List Step) : Bool :=
  match Rehearsal.transactionOf c steps smallSigner with
  | some tx => (CoinStore.replay tx.commands smallLedger.opening).isNone
  | none => false

/-- Without `Ledger.Apart` a coin is split that a call was handed as an obligation; without the bound on the reserve
more is split off the gas coin than there is. -/
theorem misnamed_not_replayed :
    (∀ e ∈ Rehearsal.exchangesOf (holdingBack 1) misnamedSteps smallSigner, smallLedger.Answers e) ∧
    (∀ s ∈ misnamedSteps, (holdingBack 1).redeems s = false) ∧
    replayFails (holdingBack 1) misnamedSteps = true ∧
    replayFails (holdingBack (-3)) largeTransfer = true :=
  ⟨smallSigner_answers _ _, by decide +kernel, by decide +kernel, by decide +kernel⟩

end LedgerFlow
