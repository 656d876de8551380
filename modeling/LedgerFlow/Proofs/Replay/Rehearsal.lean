import LedgerFlow.Proofs.Replay.Ledger

namespace LedgerFlow

structure LedgerScript.Tells (c : LedgerScript) (l : Ledger) : Prop where
  native : (c.balances.lookup nativeCoinType).getD 0 = l.native
  coins : c.coins = l.coins
  owned : c.owned = l.owned

namespace Rehearsal

variable {l : Ledger} {s : Rehearsal}

theorem fairSwap_swapOutput (l : Ledger) (q : SwapQuote) (input : Handle) (slippage : Number) (tx : Transaction) :
    FairSwap l tx input (swapOutput q input slippage tx) := by
  intro st n k t units hr hf hw
  have hsize : st.size = tx.size := Ledger.size_of_replay hr
  have hfresh := Ledger.fresh_of_replay hr
  have hn : n < st.size := by
    by_contra hle
    simp [hfresh n k (Nat.not_lt.1 hle)] at hw
  let next := (st.set (.made n k) .spent).pay ⟨t, units⟩
  have hnext : next.size = tx.size := hsize
  have hc : st.consume (.made n k) = some next := by simp [CoinStore.consume, hw, next]
  have hcall : CoinStore.replay (swapOutput q input slippage tx).commands st =
      some (next.push .moveCall fun _ => some .output) := by
    simp [swapOutput, CoinStore.replay, CoinStore.apply, CoinStore.call, CoinStore.pass_made hf hw hc, CoinStore.pass,
      CoinStore.minted, CoinStore.drawing, CoinStore.fromBalance]
  refine ⟨_, hcall, by simp [next], ?_, ?_, ?_, tx.size, 0, Nat.le_refl _, ?_, ?_⟩
  · rw [CoinStore.worth_push_of_ne (by omega)]
    exact CoinStore.worth_set_self
  · intro p hp hlt
    have hkept : next.worth p = st.worth p := CoinStore.worth_set_of_ne hp
    cases p with
    | made i j =>
      have hi := hlt i j rfl
      rw [CoinStore.worth_push_of_ne (by omega), hkept]
    | _ => exact hkept
  · intro i j x hi hx
    by_cases heq : i = next.size
    · subst heq
      rw [CoinStore.worth_push_made] at hx
      cases hx
      rfl
    · have hne : (Place.made i j) ≠ .made n k := by
        intro h
        cases h
        omega
      rw [CoinStore.worth_push_of_ne heq, CoinStore.worth_pay, CoinStore.worth_set_of_ne hne,
        hfresh i j (by omega)] at hx
      cases hx
  · simp only [swapOutput, ← hnext]
    exact CoinStore.find_result_push
  · simp only [← hnext]
    exact CoinStore.worth_push_made

theorem ledger_answer (q : Request) : (answer q s).2.script.ledger = s.script.ledger := by
  cases q with
  | predicateBalance owner t =>
    unfold answer predicate
    cases s.script.predicates <;> rfl
  | contractQuery target arguments =>
    unfold answer predicate
    cases s.script.predicates <;> rfl
  | routes request =>
    unfold answer nextOffer
    simp only [record]
    split <;> rfl
  | executeRoute route =>
    unfold answer nextExecution
    simp only [record]
    split <;> rfl
  | publish status =>
    unfold answer
    split <;> rfl
  | _ => rfl

theorem reports_answer (h : s.script.ledger.Tells l) (q : Request) : l.Reports ⟨q, (answer q s).1⟩ := by
  cases q with
  | balance owner t =>
    simp only [answer]
    cases s.script.ledger.balanceFailure with
    | some f => trivial
    | none =>
      rintro rfl
      exact h.native
  | coins owner t =>
    simp only [answer]
    cases s.script.ledger.coinsFailure with
    | some f => trivial
    | none => exact congrArg (fun cs => (cs.lookup t).getD []) h.coins
  | ownedObjects owner t =>
    simp only [answer]
    cases s.script.ledger.ownedFailure with
    | some f => trivial
    | none => exact congrArg (fun os => (os.lookup t).getD []) h.owned
  | _ => trivial

theorem isFair_answer (q : Request) : Exchange.IsFair l ⟨q, (answer q s).1⟩ := by
  cases q with
  | swapBuild q input slippage tx =>
    simp only [answer]
    cases s.script.swap.buildFailure with
    | some f => trivial
    | none => exact fairSwap_swapOutput l q input slippage tx
  | _ => trivial

theorem answers_exchanges {α : Type} (p : Program α) (h : s.script.ledger.Tells l) :
    ∀ e ∈ p.exchanges answer s, l.Answers e :=
  Program.forall_exchanges (I := fun s => s.script.ledger.Tells l) (fun q _ h => (ledger_answer q).symm ▸ h)
    (fun q _ h => ⟨reports_answer h q, isFair_answer q⟩) p h

variable {c : AssemblySetting} {steps : List Step} {script : Script}

def assemblyOf (c : AssemblySetting) (steps : List Step) (script : Script) : Except Fault AssemblyResult :=
  (perform (assemble c steps).run (create script)).1

def transactionOf (c : AssemblySetting) (steps : List Step) (script : Script) : Option Transaction :=
  match assemblyOf c steps script with
  | .ok result => result.transaction
  | .error _ => none

def exchangesOf (c : AssemblySetting) (steps : List Step) (script : Script) : List Exchange :=
  (assemble c steps).run.exchanges answer (create script)

theorem exists_of_transactionOf {tx : Transaction} (h : transactionOf c steps script = some tx) :
    ∃ result, (assemble c steps).Yields (exchangesOf c steps script) (.ok result) ∧ result.transaction = some tx := by
  have hy : (assemble c steps).Yields (exchangesOf c steps script) (assemblyOf c steps script) := yields_perform _ _
  unfold transactionOf at h
  split at h
  · next result hr => exact ⟨result, hr ▸ hy, h⟩
  · cases h

end Rehearsal

def holdingBack (n : Int) : AssemblySetting where
  tokens := .standard
  adapters := Builder.standard
  names := .empty
  signer := "0x51"
  hasRouter := true
  gasReserve := .int n
  slippage := .int 0

end LedgerFlow
