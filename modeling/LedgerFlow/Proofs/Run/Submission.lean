import LedgerFlow.Proofs.Assembly.Operations
import LedgerFlow.Proofs.Bridge.Scope
import LedgerFlow.Proofs.Plan.Walk
import LedgerFlow.Proofs.Run.Preparation
import LedgerFlow.Settings

/-!
What a run can end in once its transaction was accepted: in a result for every bridge that is live, in order, or
in the user's refusal, unless the amount of a bridge cannot be written. Such an amount ends the run with the
failure of a conversion, although the transaction was submitted, and no later bridge is carried out.
-/

namespace LedgerFlow

def Exchange.isSubmission : Exchange → Bool
  | ⟨.submit _, .ok _⟩ => true
  | _ => false

theorem Exchange.isSubmission_of_isInquiry {e : Exchange} (h : e.request.isInquiry = true) :
    e.isSubmission = false := by
  obtain ⟨request, answer⟩ := e
  cases request <;> first | rfl | cases h

namespace Engine

variable {α β γ : Type}

theorem bind_assoc (p : Engine α) (f : α → Engine β) (g : β → Engine γ) :
    p >>= f >>= g = p >>= fun a => f a >>= g := by
  have h : (p.run.bind (ExceptT.bindCont f)).bind (ExceptT.bindCont g) =
      p.run.bind (ExceptT.bindCont fun a => f a >>= g) := by
    rw [Program.bind_assoc]
    congr 1
    funext x
    cases x <;> rfl
  exact h

end Engine

namespace Run

theorem submitIfAny_of_isSubmission {tx? : Option Transaction} {es : List Exchange} {f : Fault}
    (h : (submitIfAny tx?).Yields es (.error f)) : ∀ e ∈ es, e.isSubmission = false := by
  cases tx? with
  | none => exact nomatch (Engine.yields_pure.1 h).2
  | some tx =>
    obtain ⟨x, hx, hs⟩ := Engine.yields_map.1 h
    obtain ⟨y, rfl, hy⟩ := Engine.yields_mapFault.1 hs
    cases y with
    | ok digest => cases hx
    | error g =>
      simp [Engine.yields_submit.1 hy, Exchange.isSubmission]

theorem carryOut_outcome {services : RunServices} {settings : RunSettings} {names : NameTable}
    {a : AssemblyResult} {es : List Exchange} {out : Except Fault ExecutionResult} {rules : Validation.Rules}
    (hb : ∀ s ∈ a.bridges, s.isBridge = true)
    (hv : ∀ s ∈ a.bridges, Validation.checkNode rules s.node = .ok ())
    (h : (carryOut services settings names a).Yields es out) (he : ∃ e ∈ es, e.isSubmission = true) :
    Bridge.Outcome a.bridges (out.map (·.bridgeResults)) := by
  unfold carryOut at h
  split at h
  · obtain ⟨rfl, -⟩ := Engine.yields_pure.1 h
    simp at he
  · obtain ⟨_, es₁, u, rfl, hd, h₁⟩ | ⟨f, -, hd⟩ := Engine.yields_bind.1 h
    · obtain ⟨rfl, -⟩ := Engine.yields_ofExcept.1 hd
      obtain ⟨_, es₂, digest, rfl, hs, h₂⟩ | ⟨f, -, hs⟩ := Engine.yields_bind.1 h₁
      · obtain ⟨_, _, bs, rfl, hr, h₃⟩ | ⟨f, rfl, hr⟩ := Engine.yields_bind.1 h₂
        · obtain ⟨-, rfl⟩ := Engine.yields_pure.1 h₃
          exact runBridges_outcome hb hv hr
        · exact runBridges_outcome hb hv hr
      · obtain ⟨e, hm, he⟩ := he
        simp [submitIfAny_of_isSubmission hs e hm] at he
    · obtain ⟨rfl, -⟩ := Engine.yields_ofExcept.1 hd
      simp at he

def complete (services : RunServices) (settings : RunSettings) (prepared : NameTable × List Step) :
    Engine ExecutionResult := do
  let a ← assemble (assemblySetting services settings prepared.1) prepared.2
  carryOut services settings prepared.1 a

theorem execute_eq (services : RunServices) (settings : RunSettings) (p : Payload) :
    execute services settings p = prepare services settings p >>= complete services settings := by
  unfold execute prepare
  rw [Engine.bind_assoc]
  congr 1
  funext x
  obtain ⟨view, steps⟩ := x
  simp only [Engine.bind_assoc]
  rfl

end Run

theorem execute_outcome {services : RunServices} {settings : RunSettings} {p : Payload} {es : List Exchange}
    {out : Except Fault ExecutionResult} (h : (execute services settings p).Yields es out)
    (he : ∃ e ∈ es, e.isSubmission = true) :
    ∃ es₁ names steps, es₁ <+: es ∧ (Run.prepare services settings p).Yields es₁ (.ok (names, steps)) ∧
      Bridge.Outcome (Assembly.bridgesOf steps) (out.map (·.bridgeResults)) := by
  obtain ⟨e, hm, he⟩ := he
  -- a submission is no inquiry, so it comes after all the parts that only inquire
  have prior : ∀ {α : Type} {q : Engine α} {es' : List Exchange} {r : Except Fault α}, q.Inquires →
      q.Yields es' r → e ∉ es' := by
    intro α q es' r hq hy hm
    simp [Exchange.isSubmission_of_isInquiry (Engine.Asks.of_yields hq hy e hm)] at he
  rw [Run.execute_eq, Engine.yields_bind] at h
  obtain ⟨es₁, es₂, ⟨names, steps⟩, rfl, hp, hc⟩ | ⟨f, -, hp⟩ := h
  · refine ⟨es₁, names, steps, List.prefix_append _ _, hp, ?_⟩
    have hm₂ := (List.mem_append.1 hm).resolve_left (prior (Run.inquires_prepare _ _ _) hp)
    obtain ⟨es₃, es₄, a, rfl, ha, hk⟩ | ⟨f, -, ha⟩ := Engine.yields_bind.1 hc
    · have hm₄ := (List.mem_append.1 hm₂).resolve_left (prior (inquires_assemble _ _) ha)
      rw [← (of_assemble ha).1]
      apply Run.carryOut_outcome _ _ hk ⟨e, hm₄, he⟩
      · exact Run.rulesOf services settings names
      · rw [(of_assemble ha).1]
        intro s hs
        have := (List.mem_filter.1 hs).2
        simp only [Bool.and_eq_true] at this
        exact this.2
      · rw [(of_assemble ha).1]
        intro s hs
        exact Run.checkNode_of_prepare hp s (List.mem_filter.1 hs).1
    · exact absurd hm₂ (prior (inquires_assemble _ _) ha)
  · exact absurd hm (prior (Run.inquires_prepare _ _ _) hp)

namespace Runner

/-- What a run exchanges with the collaborators; one that is refused exchanges nothing. -/
def exchanges {σ : Type} (r : Runner) (services : RunServices) (settings : RunSettings) (p : Payload)
    (c : Collaborators σ) (s : σ) : List Exchange :=
  match r.start with
  | .error _ => []
  | .ok started => (execute services settings p).run.exchanges (answering c) (started, s)

/-- After the submission a run ends as its bridges do: with a result for each of them in order, or with the
user's refusal; but an amount that cannot be written, even of one bridge, ends it with a failure that is none of
the engine's own. -/
theorem run_after_submission {σ : Type} {r : Runner} {services : RunServices} {settings : RunSettings}
    {p : Payload} {c : Collaborators σ} {s : σ}
    (h : ∃ e ∈ r.exchanges services settings p c s, e.isSubmission = true) :
    ∃ es names steps, es <+: r.exchanges services settings p c s ∧
      (Run.prepare services settings p).Yields es (.ok (names, steps)) ∧
      Bridge.Outcome (Assembly.bridgesOf steps)
        ((r.run services settings p c s).1.map (·.bridgeResults)) ∧
      ∀ f, (Assembly.bridgesOf steps).findSome? Step.amountFault? = some f → ∀ e, f ≠ .engine e := by
  unfold exchanges at h ⊢
  unfold run
  cases hr : r.start with
  | error f => simp [hr] at h
  | ok started =>
    simp only [hr] at h ⊢
    have hy := Program.yields_run (answering c) (execute services settings p).run (started, s)
    obtain ⟨es, names, steps, hes, hp, ho⟩ := execute_outcome hy h
    refine ⟨es, names, steps, hes, hp, ho, ?_⟩
    intro f hf
    obtain ⟨b, -, hb⟩ := List.exists_of_findSome?_eq_some hf
    exact Step.amountFault?_ne_engine hb

def longBridge : FlowGraph where
  nodes := [
    .of "wallet" (.wallet ⟨none⟩),
    .of "transfer" (.transfer ⟨some "0x51", some 1, "SUI"⟩),
    .of "bridge" (.bridge ⟨some "USDC", some "USDC", some "arbitrum", some (.finite false 1 5000),
      some "0x71C7656EC7ab88b098defB751B7401B5f6d8976F", "none"⟩)]
  edges := [⟨"first", "wallet", "transfer"⟩, ⟨"second", "transfer", "bridge"⟩]
  metadata := []
  sound := by decide +kernel

def longBridgeView : GraphView := ⟨longBridge, Settings.standard.runSettings.positionEpsilon⟩

def mainServices : RunServices where
  tokens := .standard
  adapters := Builder.standard
  signer := "0x51"
  hasResolver := false
  hasFetcher := false
  hasRouter := false
  hasRoutes := true
  wording := .heading

theorem plan_longBridge :
    Run.plan mainServices Settings.standard.runSettings (.graph longBridge) =
      .ok (longBridgeView, number 0 (longBridge.nodes.drop 1)) :=
  Run.plan_eq rfl (GraphView.compile_of_isRow (by decide +kernel))

def richSigner : Script :=
  { Rehearsal.blank with
    ledger := ⟨[("0x2::sui::SUI", 10000000000)], [], [], [], none, none, none, none⟩
    signer := ⟨"DIGEST", none, false⟩ }

def raisedMessage? {α : Type} : Except Fault α → Option String
  | .error (.raised _ message _) => some message
  | _ => none

theorem longBridge_submitted :
    ∃ e ∈ new.exchanges mainServices Settings.standard.runSettings (.graph longBridge) Rehearsal.collaborators
      (.create richSigner), e.isSubmission = true := by
  simp only [exchanges, start, new, execute, plan_longBridge]
  decide +kernel

theorem run_after_submission_longBridge :
    ∃ es names steps,
      es <+: new.exchanges mainServices Settings.standard.runSettings (.graph longBridge) Rehearsal.collaborators
        (.create richSigner) ∧
      (Run.prepare mainServices Settings.standard.runSettings (.graph longBridge)).Yields es (.ok (names, steps)) ∧
      Bridge.Outcome (Assembly.bridgesOf steps)
        ((new.run mainServices Settings.standard.runSettings (.graph longBridge) Rehearsal.collaborators
          (.create richSigner)).1.map (·.bridgeResults)) ∧
      ∀ f, (Assembly.bridgesOf steps).findSome? Step.amountFault? = some f → ∀ e, f ≠ .engine e :=
  run_after_submission longBridge_submitted

/-- The transaction was accepted, and yet the run ends in the failure to write a number. -/
theorem longBridge_raises :
    (∃ e ∈ new.exchanges mainServices Settings.standard.runSettings (.graph longBridge) Rehearsal.collaborators
      (.create richSigner), e.isSubmission = true) ∧
    raisedMessage? (new.run mainServices Settings.standard.runSettings (.graph longBridge)
      Rehearsal.collaborators (.create richSigner)).1 = some Fault.unshowable.text := by
  refine ⟨longBridge_submitted, ?_⟩
  simp only [run, start, new, execute, plan_longBridge]
  decide +kernel

end Runner

end LedgerFlow
