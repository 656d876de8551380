import LedgerFlow.Proofs.Assembly.Purse

namespace LedgerFlow

namespace Outlay

def Covered (l : Ledger) (reserve : Int) (before xs : List Outlay) : Prop :=
  ∀ taken x rest, xs = taken ++ x :: rest → x.Afforded l reserve (before ++ taken)

/-- What outlays come to has no more digits than arithmetic keeps, and what there is to spend can be shown. -/
structure InRange (l : Ledger) (reserve : Int) (xs : List Outlay) : Prop where
  total_lt : ∀ s, total s xs < 10 ^ 28
  spendable_lt : ∀ x ∈ xs, (l.spendable reserve x.source).natAbs < pow10 999990

section

variable {l : Ledger} {reserve : Int} {before rest : List Outlay} {x : Outlay}

theorem covered_nil : Covered l reserve before [] := by
  intro taken x rest h
  simp at h

theorem covered_cons :
    Covered l reserve before (x :: rest) ↔ x.Afforded l reserve before ∧ Covered l reserve (before ++ [x]) rest := by
  constructor
  · intro h
    refine ⟨by simpa using h [] x rest rfl, fun taken y more heq => ?_⟩
    have := h (x :: taken) y more (by rw [heq, List.cons_append])
    rwa [List.append_cons] at this
  · rintro ⟨hx, hrest⟩ taken y more heq
    cases taken with
    | nil =>
      cases heq
      simpa using hx
    | cons z taken =>
      cases heq
      have := hrest taken y more rfl
      rwa [← List.append_cons] at this

theorem InRange.units_lt (h : InRange l reserve (before ++ x :: rest)) : x.units < 10 ^ 28 :=
  (units_le_total (by simp)).trans_lt (h.total_lt x.source)

theorem InRange.left_lt (h : InRange l reserve (before ++ x :: rest)) :
    x.units + (l.spendable reserve x.source - total x.source before).natAbs < pow10 999998 := by
  have hbefore : total x.source before < 10 ^ 28 := by
    have := h.total_lt x.source
    rw [total_append] at this
    omega
  have hspendable := h.spendable_lt x (by simp)
  have hunits := h.units_lt
  have hdigits : 10 ^ 28 ≤ pow10 999990 := pow10_le_pow10 (show 28 ≤ 999990 by decide)
  have hlarge : pow10 999990 * 10 ≤ pow10 999998 := by
    have hten : pow10 1 = 10 := rfl
    rw [← hten, ← pow10_add]
    exact pow10_le_pow10 (by decide)
  generalize pow10 999990 = limit at *
  generalize pow10 999998 = top at *
  omega

theorem InRange.spans (h : InRange l reserve (before ++ x :: rest)) :
    x.token.Spans (x.units + (total x.source before - l.spendable reserve x.source).toNat) := by
  obtain ⟨hlow, hhigh⟩ := TokenRegistry.decimals_of_standard x.known
  exact Token.spans_of_lt hlow (hhigh.trans (by decide)) (lt_of_le_of_lt (by omega) h.left_lt)

end

end Outlay

namespace Assembly

section

open Protocol

theorem leaves_quote (s : Step) (source target : Token) (amount : Int) :
    Leaves (Exchange.quote s source target amount) := by
  apply leaves_ofEngine_bind
  intro es r ha hy
  obtain rfl := Engine.yields_swapRoute.1 hy
  have hserved := ha _ List.mem_cons_self
  cases r with
  | error f => cases hserved
  | ok offer =>
    cases offer with
    | none => cases hserved
    | some q =>
      have hfilter : (some q).filter (fun q => 0 < q.amountOut) = some q := Option.filter_eq_some_iff.2 ⟨rfl, hserved⟩
      refine ⟨some q, rfl, ?_⟩
      rw [hfilter]
      exact leaves_pure

theorem leaves_exchange (c : Setting) (q : SwapQuote) (input : Handle) : Leaves (Exchange.exchange c q input) := by
  refine leaves_bind (leaves_of_run fun w => ⟨w, w.tx, rfl⟩) fun w => leaves_ofEngine_bind ?_
  intro es r ha hy
  obtain rfl := Engine.yields_swapBuild.1 hy
  have hserved := ha _ List.mem_cons_self
  cases r with
  | error f => cases hserved
  | ok output =>
    exact ⟨output, rfl, leaves_bind (leaves_of_run fun _ => ⟨(), _, rfl⟩) fun _ => leaves_pure⟩

theorem leaves_validator (s : Step) (d : StakeData) : Leaves (Aftermath.validator s d) := by
  unfold Aftermath.validator
  split
  · exact leaves_pure
  · apply leaves_ofEngine_bind
    intro es r ha hy
    obtain rfl := Engine.yields_activeValidators.1 hy
    have hserved := ha _ List.mem_cons_self
    cases r with
    | error f => cases hserved
    | ok validators =>
      cases validators with
      | nil => cases hserved
      | cons validator rest => exact ⟨_, rfl, leaves_pure⟩

variable {l : Ledger} {reserve : Int} {before : List Outlay} {x : Outlay} {c : Protocol.Setting} {s : Step}

variable (hc : c.tokens = .standard) (hpos : 0 < x.units) (hsmall : x.units < 10 ^ 28)
  (hdraw : ∀ step, Spends l reserve before x (acquire step x.token x.units))

include hc in
theorem token_eq_ok (s : Step) {symbol : String} {t : Token} (h : TokenRegistry.standard.find? symbol = some t) :
    c.token s symbol = .ok t :=
  Setting.token_of_find? (hc.symm ▸ h)

include hc hpos hsmall hdraw

theorem spends_transfer {d : TransferData} {recipient : String} (hasset : d.asset = x.symbol)
    (hamount : d.amount = some x.amount) (hsent : d.recipientAddress = some recipient) :
    Spends l reserve before x (Native.transfer c s d) := by
  unfold Native.transfer
  rw [hasset, hamount, hsent]
  refine spends_ofExcept_bind (token_eq_ok hc s x.known) ?_
  refine spends_ofExcept_bind (x.positiveUnitsOf_eq hsmall hpos s _) ?_
  exact (hdraw s.index).bind fun coin => leaves_bind (leaves_transfer _ _) fun _ => leaves_pure

theorem spends_swap {d : SwapData} {wanted : String} {t : Token} (hrouter : c.hasRouter = true)
    (hgiven : d.fromAsset = some x.symbol) (hamount : d.amount = some x.amount) (htarget : d.toAsset = some wanted)
    (ht : TokenRegistry.standard.find? wanted = some t) : Spends l reserve before x (Exchange.swap c s d) := by
  unfold Exchange.swap
  rw [hrouter, hgiven, hamount, htarget]
  refine spends_ofExcept_bind (token_eq_ok hc s x.known) (spends_ofExcept_bind (token_eq_ok hc s ht) ?_)
  refine spends_ofExcept_bind (x.positiveUnitsOf_eq hsmall hpos s _) ?_
  refine (leaves_quote _ _ _ _).bind_spends fun offer => ?_
  exact (hdraw s.index).bind fun input => leaves_bind (leaves_exchange _ _ _) fun output => leaves_transfer _ _

omit hpos

theorem spends_stakeInput {d : StakeData} (hasset : nativeSymbol = x.symbol) (hamount : d.amount = some x.amount) :
    Spends l reserve before x (Native.stakeInput c s d) := by
  unfold Native.stakeInput
  rw [hasset, hamount]
  exact spends_ofExcept_bind (token_eq_ok hc s x.known) (spends_ofExcept_bind (x.unitsOf_eq hsmall) (hdraw s.index))

theorem spends_nativeStake {d : StakeData} (hasset : nativeSymbol = x.symbol) (hamount : d.amount = some x.amount)
    (hvalidator : Validation.Filled d.validator) : Spends l reserve before x (Native.stake c s d) := by
  obtain ⟨validator, hv, hne⟩ := hvalidator
  have hpicked : d.validator.filter (fun v => !v.isEmpty) = some validator := by simp [hv, hne]
  simp only [Native.stake, hpicked]
  exact (spends_stakeInput hc hsmall hdraw hasset hamount).bind fun coin =>
    leaves_bind (leaves_call _ _ _) fun _ => leaves_pure

theorem spends_aftermathStake {d : StakeData} (hasset : nativeSymbol = x.symbol) (hamount : d.amount = some x.amount) :
    Spends l reserve before x (Aftermath.stake c s d) :=
  (leaves_validator s d).bind_spends fun _ => (spends_stakeInput hc hsmall hdraw hasset hamount).bind fun _ =>
    leaves_bind (leaves_call _ _ _) fun _ => leaves_transfer _ _

theorem spends_voloStake {d : StakeData} (hasset : nativeSymbol = x.symbol) (hamount : d.amount = some x.amount) :
    Spends l reserve before x (Volo.stake c s d) :=
  (spends_stakeInput hc hsmall hdraw hasset hamount).bind fun _ =>
    leaves_bind (leaves_call _ _ _) fun _ => leaves_transfer _ _

theorem spends_naviDeposit {d : LendData} (hasset : d.asset = x.symbol) (hamount : d.amount = some x.amount)
    (haction : d.action = "deposit") : Spends l reserve before x (Navi.lend c s d) := by
  obtain ⟨pool, hpool⟩ := TokenRegistry.pool_of_standard x.known
  unfold Navi.lend
  rw [hasset, hamount, haction]
  refine spends_ofExcept_bind (token_eq_ok hc s x.known) ?_
  simp only [hpool]
  refine spends_ofExcept_bind (x.unitsOf_eq hsmall) ?_
  exact (hdraw s.index).bind fun coin => leaves_bind (leaves_call _ _ _) fun _ => leaves_pure

theorem spends_scallopDeposit {d : LendData} (hasset : d.asset = x.symbol) (hamount : d.amount = some x.amount)
    (haction : d.action = "deposit") : Spends l reserve before x (Scallop.lend c s d) := by
  unfold Scallop.lend
  rw [hasset, haction]
  refine spends_ofExcept_bind (token_eq_ok hc s x.known) ?_
  simp only [Scallop.deposit, hamount]
  refine spends_ofExcept_bind (x.unitsOf_eq hsmall) ?_
  exact (hdraw s.index).bind fun coin => leaves_bind (leaves_call _ _ _) fun _ => leaves_pure

include hpos

theorem spends_build (hrouter : c.hasRouter = true) (hform : x.Form) (hs : s.node = x.node) :
    ∃ key b, s.node.adapterKey? = some key ∧ Builder.standard.find? key = some b ∧
      Spends l reserve before x (b.build c s) := by
  have hbuild : ∀ b : Builder, (∃ key, s.node.adapterKey? = some key ∧ key = b.key) →
      Spends l reserve before x (b.build c s) → ∃ key b, s.node.adapterKey? = some key ∧
        Builder.standard.find? key = some b ∧ Spends l reserve before x (b.build c s) := by
    rintro b ⟨key, hkey, rfl⟩ hb
    exact ⟨_, b, hkey, b.find?_standard, hb⟩
  cases hform with
  | @transfer d recipient data asset amount sent =>
    have hd : s.node.data = .transfer d := by rw [hs, data]
    refine hbuild .nativeTransfer ⟨_, by rw [Node.adapterKey?, hd]; rfl, rfl⟩ ?_
    simp only [Builder.build, hd]
    exact spends_transfer hc hpos hsmall hdraw asset amount sent
  | @swap d wanted t data given amount target known =>
    have hd : s.node.data = .swap d := by rw [hs, data]
    refine hbuild .exchange ⟨_, by rw [Node.adapterKey?, hd]; rfl, rfl⟩ ?_
    simp only [Builder.build, hd]
    exact spends_swap hc hpos hsmall hdraw hrouter given amount target known
  | @stake d data asset amount protocol validator =>
    have hd : s.node.data = .stake d := by rw [hs, data]
    have hkey : s.node.adapterKey? = some ⟨"stake", d.protocol⟩ := by rw [Node.adapterKey?, hd]; rfl
    simp only [Validation.stakingProtocols, List.mem_cons, List.not_mem_nil, or_false] at protocol
    obtain hn | ha | hv := protocol
    · refine hbuild .nativeStake ⟨_, hkey, by rw [hn]; rfl⟩ ?_
      simp only [Builder.build, hd]
      exact spends_nativeStake hc hsmall hdraw asset amount (validator hn)
    · refine hbuild .aftermathStake ⟨_, hkey, by rw [ha]; rfl⟩ ?_
      simp only [Builder.build, hd]
      exact spends_aftermathStake hc hsmall hdraw asset amount
    · refine hbuild .voloStake ⟨_, hkey, by rw [hv]; rfl⟩ ?_
      simp only [Builder.build, hd]
      exact spends_voloStake hc hsmall hdraw asset amount
  | @deposit d data asset amount protocol action =>
    have hd : s.node.data = .lend d := by rw [hs, data]
    have hkey : s.node.adapterKey? = some ⟨"lend", d.protocol⟩ := by rw [Node.adapterKey?, hd]; rfl
    simp only [Validation.lendingProtocols, List.mem_cons, List.not_mem_nil, or_false] at protocol
    obtain hscallop | hnavi := protocol
    · refine hbuild .scallopLending ⟨_, hkey, by rw [hscallop]; rfl⟩ ?_
      simp only [Builder.build, hd]
      exact spends_scallopDeposit hc hsmall hdraw asset amount action
    · refine hbuild .naviLending ⟨_, hkey, by rw [hnavi]; rfl⟩ ?_
      simp only [Builder.build, hd]
      exact spends_naviDeposit hc hsmall hdraw asset amount action

end

section

variable {l : Ledger} {reserve : Int} {before xs rest : List Outlay} {x : Outlay} {c : AssemblySetting} {start : Nat}
  {names : NameTable} {strict : Bool} {w w' : Workspace} {es : List Exchange}

def Ended {α : Type} (covered : Prop) (r : Except Fault α) : Prop :=
  covered ∧ (∃ a, r = .ok a) ∨ ¬covered ∧ ∃ f, r = .error f ∧ f.isResource = true

theorem isBridge_eq_false (x : Outlay) : x.node.isBridge = false := by
  have h := x.isOutlay
  unfold Node.isBridge
  split
  · next d hd =>
    rw [hd] at h
    cases h
  · rfl

theorem spends_buildStep {s : Step} (hc : c.tokens = .standard) (hadapters : c.adapters = Builder.standard)
    (hrouter : c.hasRouter = true) (hrange : Outlay.InRange l reserve (before ++ x :: rest))
    (hchecked : Validation.checkNode ⟨.standard, names, strict⟩ x.node = .ok ()) (hs : s.node = x.node) :
    ∃ key, s.node.adapterKey? = some key ∧ Spends l reserve before x (buildStep c s key) := by
  have hpos := Outlay.units_pos hchecked
  obtain ⟨key, b, hkey, hb, hspends⟩ := spends_build (c := protocolSetting c) hc hpos hrange.units_lt
    (fun step => spends_acquire step hpos hrange.spans) hrouter (Outlay.form_of_checkNode hchecked).1 hs
  refine ⟨key, hkey, ?_⟩
  simp only [buildStep, hadapters, hb]
  apply hspends.mapFault
  intro e he
  cases e with
  | engine e => exact he
  | _ => cases he

theorem ended_buildSteps (hc : c.tokens = .standard) (hadapters : c.adapters = Builder.standard)
    (hrouter : c.hasRouter = true) (hrange : Outlay.InRange l reserve (before ++ xs))
    (hchecked : ∀ x ∈ xs, Validation.checkNode ⟨.standard, names, strict⟩ x.node = .ok ())
    (hw : Purse l reserve before w) (ha : ∀ e ∈ es, e.Serves l) {r : Except Fault Nat}
    (hy : Ends (buildSteps c (number start (xs.map (·.node)))) w es r w') :
    Ended (Outlay.Covered l reserve before xs) r ∧ (r.isOk → w'.pool = .empty) := by
  induction xs generalizing before start w w' es r with
  | nil =>
    obtain ⟨-, rfl, rfl⟩ := ends_pure.1 hy
    exact ⟨.inl ⟨Outlay.covered_nil, 0, rfl⟩, fun _ => hw.pool⟩
  | cons x rest ih =>
    obtain ⟨key, hkey, hspends⟩ := spends_buildStep hc hadapters hrouter hrange (hchecked x List.mem_cons_self)
      (s := ⟨start, x.node, false⟩) rfl
    have hbridge : Step.isBridge ⟨start, x.node, false⟩ = false := isBridge_eq_false x
    rw [List.map_cons, number, buildSteps] at hy
    simp only [hkey, hbridge, Bool.or_self, Bool.false_eq_true, if_false] at hy
    rw [Outlay.covered_cons]
    obtain ⟨es₁, u, w₁, es₂, rfl, hm, hrest⟩ | ⟨e, rfl, hm⟩ := ends_bind.1 hy
    · cases hspends w es₁ _ w₁ hw (fun e he => ha e (List.mem_append_left _ he)) hm with
      | paid hafforded hpaid =>
        rw [and_iff_right hafforded]
        rw [List.append_cons] at hrange
        have ha := fun e he => ha e (List.mem_append_right _ he)
        have hchecked := fun y hy => hchecked y (.tail _ hy)
        obtain ⟨es₃, n, w₂, es₄, rfl, hn, hdone⟩ | ⟨e, rfl, hn⟩ := ends_bind.1 hrest
        · obtain ⟨hended, hpool⟩ := ih hrange hchecked hpaid (fun e he => ha e (List.mem_append_left _ he)) hn
          obtain ⟨-, rfl, rfl⟩ := ends_pure.1 hdone
          obtain ⟨hcovered, -⟩ | ⟨-, f, heq, -⟩ := hended
          · exact ⟨.inl ⟨hcovered, _, rfl⟩, fun _ => hpool rfl⟩
          · cases heq
        · obtain ⟨hended, -⟩ := ih hrange hchecked hpaid ha hn
          obtain ⟨-, n, heq⟩ | ⟨hshort, f, heq, hf⟩ := hended
          · cases heq
          · cases heq
            exact ⟨.inr ⟨hshort, _, rfl, hf⟩, fun h => by cases h⟩
    · cases hspends w es _ w' hw ha hm with
      | lacking hafforded hf => exact ⟨.inr ⟨fun h => hafforded h.1, e, rfl, hf⟩, fun h => by cases h⟩

theorem run_drain (w : Workspace) : drain.run w = .done (.ok w.pool.coins, { w with pool := .empty }) := rfl

theorem ended_build (hc : c.tokens = .standard) (hadapters : c.adapters = Builder.standard)
    (hrouter : c.hasRouter = true) (hrange : Outlay.InRange l reserve xs)
    (hchecked : ∀ x ∈ xs, Validation.checkNode ⟨.standard, names, strict⟩ x.node = .ok ()) (hw : Purse l reserve [] w)
    (ha : ∀ e ∈ es, e.Serves l) {r : Except Fault AssemblyResult}
    (hy : Ends (build c (number 0 (xs.map (·.node)))) w es r w') : Ended (Outlay.Covered l reserve [] xs) r := by
  obtain ⟨es₁, n, w₁, es₂, rfl, hn, hrest⟩ | ⟨e, rfl, hn⟩ := ends_bind.1 hy
  · obtain ⟨hended, hpool⟩ := ended_buildSteps hc hadapters hrouter hrange hchecked hw
      (fun e he => ha e (List.mem_append_left _ he)) hn
    obtain ⟨hcovered, -⟩ | ⟨-, f, heq, -⟩ := hended
    · have hreturned : (returnCoins c.signer w₁.pool.coins).run { w₁ with pool := .empty } =
          .done (.ok (), { w₁ with pool := .empty }) := by
        rw [hpool rfl]
        rfl
      rw [ends_bind_of_ok (run_drain w₁), ends_bind_of_ok hreturned] at hrest
      split at hrest
      · obtain ⟨-, rfl, -⟩ := ends_pure.1 hrest
        exact .inl ⟨hcovered, _, rfl⟩
      · obtain ⟨-, rfl, -⟩ := ends_pure.1 hrest
        exact .inl ⟨hcovered, _, rfl⟩
    · cases heq
  · obtain ⟨⟨-, n, heq⟩ | ⟨hshort, f, heq, hf⟩, -⟩ := ended_buildSteps hc hadapters hrouter hrange hchecked hw ha hn
    · cases heq
    · cases heq
      exact .inr ⟨hshort, _, rfl, hf⟩

theorem ended_assemble (hc : c.tokens = .standard) (hadapters : c.adapters = Builder.standard)
    (hrouter : c.hasRouter = true) (hreserve : reserveUnits c = .ok reserve) (hrange : Outlay.InRange l reserve xs)
    (hchecked : ∀ x ∈ xs, Validation.checkNode ⟨.standard, names, strict⟩ x.node = .ok ())
    (ha : ∀ e ∈ es, e.Serves l) {out : Except Fault AssemblyResult}
    (hy : (assemble c (number 0 (xs.map (·.node)))).Yields es out) : Ended (Outlay.Covered l reserve [] xs) out := by
  rw [assemble, Engine.yields_bind] at hy
  obtain ⟨es₁, es₂, units, rfl, hm, hbuild⟩ | ⟨e, rfl, hm⟩ := hy
  · obtain ⟨rfl, heq⟩ := Engine.yields_ofExcept.1 hm
    cases heq.trans hreserve
    obtain ⟨es₃, es₄, ⟨r, w⟩, rfl, hends, hdone⟩ := Program.yields_bind.1 hbuild
    obtain ⟨rfl, rfl⟩ := Program.yields_done.1 hdone
    exact ended_build hc hadapters hrouter hrange hchecked (purse_start l c reserve) (by simpa using ha) hends
  · obtain ⟨-, heq⟩ := Engine.yields_ofExcept.1 hm
    cases heq.trans hreserve

end

end Assembly

end LedgerFlow
