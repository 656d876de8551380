import LedgerFlow.Proofs.Assembly.Segments
import LedgerFlow.Proofs.Names.Addresses
import LedgerFlow.Proofs.Run.Phases

namespace LedgerFlow

open NameTable (answered)

def Step.recipient? (s : Step) : Option String :=
  match s.node.data with
  | .transfer d => d.recipientAddress
  | _ => none

def Transaction.recipients (tx : Transaction) : List String :=
  tx.commands.filterMap fun
    | .transferObjects _ recipient => recipient
    | _ => none

namespace Run

variable {services : RunServices} {settings : RunSettings} {p : Payload} {es : List Exchange} {names : NameTable}
  {steps : List Step} {a : AssemblyResult} {tx : Transaction}

theorem answered_append {es₁ es₂ : List Exchange} (h : ∀ e ∈ es₂, e.request.phase ≠ .naming) (k : String) :
    answered (es₁ ++ es₂) k = answered es₁ k := by
  have hnone : answered es₂ k = none := by
    rw [answered, List.findSome?_eq_none_iff]
    intro e he
    obtain ⟨request, answer⟩ := e
    cases request with
    | resolveName name => exact absurd rfl (h _ he)
    | _ => rfl
  rw [answered, List.findSome?_append, ← answered, ← answered, hnone, Option.or_none]

theorem named_of_prepare (h : (prepare services settings p).Yields es (.ok (names, steps))) :
    ∃ planned es₁ es₂, es = es₁ ++ es₂ ∧ (resolveNames services.hasResolver planned).Yields es₁ (.ok names) ∧
      steps.map (·.node) = planned.map (·.node) ∧ ∀ e ∈ es₂, e.request.phase = .judging := by
  obtain ⟨_, _, ⟨view, planned⟩, rfl, hp, h₁⟩ := Engine.yields_bind_ok.1 h
  obtain ⟨es₁, _, names', rfl, hn, h₂⟩ := Engine.yields_bind_ok.1 h₁
  obtain ⟨_, _, u, rfl, hv, h₃⟩ := Engine.yields_bind_ok.1 h₂
  obtain ⟨es₂, _, marked, rfl, hm, h₄⟩ := Engine.yields_bind_ok.1 h₃
  obtain ⟨rfl, heq⟩ := Engine.yields_pure.1 h₄
  cases heq
  obtain ⟨rfl, -⟩ := Engine.yields_ofExcept.1 hp
  obtain ⟨rfl, -⟩ := Engine.yields_ofExcept.1 hv
  exact ⟨planned, es₁, es₂, by simp, hn, map_node_of_applyConditions hm,
    Engine.Asks.of_yields (within_applyConditions _ _ _ _ _) hm⟩

/-- A transfer ends in the command that hands its coin to the address for its recipient. -/
def Transfers (steps : List Step) (es : List Exchange) (s : Step) (cs : List Command) : Prop :=
  ∀ d, s.node.data = .transfer d → ∃ before coin recipient address, d.recipientAddress = some recipient ∧
    cs = before ++ [.transferObjects [coin] (some address)] ∧ (∀ x ∈ before, x.Sources) ∧
      Addressed false steps es recipient address

/-- However the resolver and the ledger answer, every live transfer of a run hands to the address for its recipient. -/
theorem build_transfers (h : (build services settings p).Yields es (.ok (names, steps, a)))
    (htx : a.transaction = some tx) :
    ∃ segments, tx.commands = segments.flatten ++ Assembly.returning services.signer a.returned ∧
      List.Forall₂ (Transfers steps es) (Plan.operations steps) segments := by
  obtain ⟨es₁, es₂, rfl, hp, ha⟩ := of_build h
  obtain ⟨planned, es₃, es₄, rfl, hn, hm, hjudging⟩ := named_of_prepare hp
  obtain ⟨segments, hc, hf⟩ := segments_of_assemble ha htx
  have hmem : ∀ s ∈ Plan.operations steps, s ∈ steps := fun s hs => (List.mem_filter.1 hs).1
  have hanswers : ∀ k, answered (es₃ ++ es₄ ++ es₂) k = answered es₃ k := by
    intro k
    rw [List.append_assoc]
    refine answered_append (fun e he => ?_) k
    obtain he | he := List.mem_append.1 he
    · rw [hjudging e he]
      decide
    · rw [Engine.Asks.of_yields (within_assemble _ _) ha e he]
      decide
  refine ⟨segments, hc, ((List.forall₂_and_left _ _).2 ⟨hmem, hf⟩).imp ?_⟩
  rintro s cs ⟨hs, hhands⟩ d hd
  obtain ⟨before, coin, recipient, hr, rfl, hbefore⟩ := hhands d hd
  obtain ⟨t, ht, hts⟩ := List.mem_map.1 (hm ▸ List.mem_map_of_mem hs : s.node ∈ planned.map (·.node))
  have hneeds : NameForm.isName false recipient = true → t.node.nameToResolve? = some recipient := by
    intro hform
    have hform : NameForm.isLedgerName recipient = true := hform
    simp [Node.nameToResolve?, hts, hd, hr, hform]
  have haddressed := (addressed_lookup hn ht hneeds).congr hm
  exact ⟨before, coin, recipient, _, hr, rfl, hbefore, haddressed.widen hanswers⟩

def vault : FlowGraph where
  nodes := [
    .of "wallet" (.wallet ⟨none⟩),
    .of "transfer" (.transfer ⟨some "vault.eth", some 1, "SUI"⟩),
    .of "bridge" (.bridge ⟨some "USDC", some "USDC", some "arbitrum", some 10, some "vault.eth", "none"⟩)]
  edges := [⟨"first", "wallet", "transfer"⟩, ⟨"second", "transfer", "bridge"⟩]
  metadata := []
  sound := by decide +kernel

def vaultView : GraphView := ⟨vault, Settings.standard.runSettings.positionEpsilon⟩

def namingServices : RunServices := { Runner.mainServices with hasResolver := true }

theorem plan_vault :
    plan namingServices Settings.standard.runSettings (.graph vault) =
      .ok (vaultView, number 0 (vault.nodes.drop 1)) :=
  plan_eq rfl (GraphView.compile_of_isRow (by decide +kernel))

def vaultNames : Script :=
  { Runner.richSigner with
    names := ⟨[("vault.eth", "0x71C7656EC7ab88b098defB751B7401B5f6d8976F")], []⟩ }

def vaultBuild : Engine (NameTable × List Step × AssemblyResult) :=
  build namingServices Settings.standard.runSettings (.graph vault)

def recipientsOf (built : NameTable × List Step × AssemblyResult) : List String × List String :=
  ((Plan.operations built.2.1).filterMap Step.recipient?, (built.2.2.transaction.map (·.recipients)).getD [])

theorem recipientsOf_vaultBuild :
    (Rehearsal.perform vaultBuild.run (.create vaultNames)).1.toOption.map recipientsOf =
      some (["vault.eth"], ["0x71C7656EC7ab88b098defB751B7401B5f6d8976F"]) := by
  simp only [vaultBuild, build, prepare, plan_vault]
  decide +kernel

theorem exists_vaultBuild : ∃ es names steps a tx, vaultBuild.Yields es (.ok (names, steps, a)) ∧
    a.transaction = some tx ∧ (Plan.operations steps).filterMap Step.recipient? = ["vault.eth"] ∧
    tx.recipients = ["0x71C7656EC7ab88b098defB751B7401B5f6d8976F"] := by
  have hy := Rehearsal.yields_perform vaultBuild.run (.create vaultNames)
  have hr := recipientsOf_vaultBuild
  cases hb : (Rehearsal.perform vaultBuild.run (.create vaultNames)).1 with
  | error f => simp [hb, Except.toOption] at hr
  | ok built =>
    obtain ⟨names, steps, a⟩ := built
    simp only [hb, Except.toOption, Option.map_some, Option.some.injEq, recipientsOf, Prod.mk.injEq] at hr
    obtain ⟨hsteps, htx⟩ := hr
    cases ha : a.transaction with
    | none => simp [ha] at htx
    | some tx => exact ⟨_, names, steps, a, tx, hb ▸ hy, ha, hsteps, by simpa [ha] using htx⟩

theorem build_transfers_vault : ∃ es names steps a tx, vaultBuild.Yields es (.ok (names, steps, a)) ∧
    a.transaction = some tx ∧
    ∃ segments, tx.commands = segments.flatten ++ Assembly.returning namingServices.signer a.returned ∧
      List.Forall₂ (Transfers steps es) (Plan.operations steps) segments := by
  obtain ⟨es, names, steps, a, tx, hy, htx, -⟩ := exists_vaultBuild
  exact ⟨es, names, steps, a, tx, hy, htx, build_transfers hy htx⟩

/-- The coin of a transfer whose recipient is no name of the ledger goes to the address of a bridge's destination. -/
theorem vault_redirected : NameForm.isLedgerName "vault.eth" = false ∧
    ∃ es names steps a tx, vaultBuild.Yields es (.ok (names, steps, a)) ∧ a.transaction = some tx ∧
      (Plan.operations steps).filterMap Step.recipient? = ["vault.eth"] ∧
      tx.recipients = ["0x71C7656EC7ab88b098defB751B7401B5f6d8976F"] :=
  ⟨by decide, exists_vaultBuild⟩

end Run

end LedgerFlow
