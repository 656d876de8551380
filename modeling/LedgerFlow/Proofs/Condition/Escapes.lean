import LedgerFlow.Proofs.Condition.Marks
import LedgerFlow.Proofs.Condition.Readings
import LedgerFlow.Proofs.Run.Phases
import LedgerFlow.Proofs.Run.Submission

/-!
How the evaluation of a branch can fail. What the fetcher raises is an error about the branch, and so is an answer that
says nothing or writes no number; but some answers lead to failures that are none of the engine's own, and of those a
runner keeps no account.
-/

namespace LedgerFlow

def Exchange.fetched? : Exchange → Option Json
  | ⟨.predicateBalance .., .ok v⟩ => some v
  | ⟨.contractQuery .., .ok v⟩ => some v
  | _ => none

namespace Engine

variable {α β : Type}

theorem ofExcept_bind_ofExcept (x : Except Fault α) (f : α → Except Fault β) :
    (ofExcept x >>= fun a => ofExcept (f a)) = ofExcept (x >>= f) := by
  cases x <;> rfl

end Engine

namespace Condition

section

variable {c : Setting} {s : Step} {es : List Exchange}

theorem yields_fetchBalance {address asset : String} {t : Token} {r : Except Fault Decimal}
    (ht : c.tokens.find? asset = some t) (h : (fetchBalance c s address asset).Yields es r) :
    ∃ answer, es = [⟨.predicateBalance (c.names.lookup address) t.coinType, answer⟩] ∧
      ((∃ f, answer = .error f ∧
          r = .error (s.error .predicate (.balanceUnavailable t.symbol (c.names.lookup address) f.text))) ∨
        ∃ raw, answer = .ok raw ∧ r = readBalance t raw) := by
  simp only [fetchBalance, ht] at h
  obtain ⟨answer, es', rfl, ⟨f, rfl, rfl, rfl⟩ | ⟨raw, rfl, hk⟩⟩ := Engine.yields_mapFault_ask_bind.1 h
  · exact ⟨.error f, rfl, .inl ⟨f, rfl, rfl⟩⟩
  · rw [Engine.ofExcept_bind_ofExcept] at hk
    obtain ⟨rfl, rfl⟩ := Engine.yields_ofExcept.1 hk
    exact ⟨.ok raw, rfl, .inr ⟨raw, rfl, rfl⟩⟩

theorem yields_fetchContract {target : String} {arguments : Option Arguments} {values : List Json}
    {r : Except Fault Decimal} (hv : Arguments.toList arguments "contract arguments" = .ok values)
    (h : (fetchContract s target arguments).Yields es r) :
    ∃ answer, es = [⟨.contractQuery target values, answer⟩] ∧
      ((∃ f, answer = .error f ∧ r = .error (s.error .predicate (.queryFailed target f.text))) ∨
        ∃ raw, answer = .ok raw ∧ r = readContract s target raw) := by
  simp only [fetchContract, hv] at h
  obtain ⟨answer, es', rfl, ⟨f, rfl, rfl, rfl⟩ | ⟨raw, rfl, hk⟩⟩ := Engine.yields_mapFault_ask_bind.1 h
  · exact ⟨.error f, rfl, .inl ⟨f, rfl, rfl⟩⟩
  · have hpure : es' = [] ∧ r = readContract s target raw := by
      unfold readContract
      cases htruthy : raw.isTruthy with
      | false =>
        simp only [htruthy] at hk
        exact Engine.yields_throw.1 hk
      | true =>
        simp only [htruthy] at hk
        exact Engine.yields_ofExcept.1 hk
    obtain ⟨rfl, rfl⟩ := hpure
    exact ⟨.ok raw, rfl, .inr ⟨raw, rfl, rfl⟩⟩

theorem yields_judge {operator : Comparison} {observed expected : Decimal} {r : Except Fault ConditionOutcome} :
    (judge c operator observed expected).Yields es r ↔
      es = [] ∧ r = (operator.holds observed expected c.tolerance).map fun b => ⟨b, some observed, none⟩ := by
  unfold judge
  cases operator.holds observed expected c.tolerance <;> exact Engine.yields_ofExcept

end

def Described (s : Step) (f : Fault) : Prop := ∃ reason, f = s.error .predicate reason

inductive Fetched (c : Setting) (s : Step) (q : Query) (es : List Exchange) : Except Fault Decimal → Prop
  | refused (hes : es.filterMap Exchange.fetched? = []) (reason : Reason) :
    Fetched c s q es (.error (s.error .predicate reason))
  | read {raw : Json} {r : Except Fault Decimal} (hes : es.filterMap Exchange.fetched? = [raw])
      (hok : ∀ a, r = .ok a ↔ Observes c q raw a) (hescaped : Escaped r ↔ Unreadable c q raw)
      (herror : ∀ f, r = .error f → Described s f ∨ f.IsForeign) : Fetched c s q es r

/-- How the evaluation of a branch can end: a failure is reported as one about the branch, unless the answer escapes. -/
structure Accounted (c : Setting) (s : Step) (d : LogicData) (es : List Exchange)
    (out : Except Fault ConditionOutcome) : Prop where
  described : ∀ f, out = .error f → Described s f ∨ f.IsForeign
  escaped_iff : Escaped out ↔
    ∃ q raw, query? d = some q ∧ es.filterMap Exchange.fetched? = [raw] ∧ Escapes c q raw

section

variable {rules : Validation.Rules} {c : Setting} {s : Step} {d : LogicData} {q : Query} {es : List Exchange}
  {out : Except Fault ConditionOutcome}

theorem described_readContract {target : String} {raw : Json} {f : Fault} (h : readContract s target raw = .error f) :
    Described s f ∨ f.IsForeign := by
  unfold readContract at h
  split at h
  · have hraises : Raises (Observation.first raw >>= Observation.ofJson) :=
      raises_bind (Observation.raises_first raw) Observation.raises_ofJson
    cases hx : Observation.first raw >>= Observation.ofJson with
    | ok a =>
      rw [hx] at h
      cases h
    | error g =>
      rw [hx] at h
      cases h
      unfold unreadableValue
      split
      · exact .inl ⟨_, rfl⟩
      · exact .inr fun e he => hraises e (he ▸ hx)
  · cases h
    exact .inl ⟨_, rfl⟩

theorem fetched_balance {address asset : String} {operator : Comparison} {expected : Decimal} {r : Except Fault Decimal}
    (h : (fetchBalance c s address asset).Yields es r) :
    Fetched c s (.balance address asset operator expected) es r := by
  cases ht : c.tokens.find? asset with
  | none =>
    simp only [fetchBalance, ht] at h
    obtain ⟨rfl, rfl⟩ := Engine.yields_throw.1 h
    exact .refused rfl _
  | some t =>
    obtain ⟨answer, rfl, ⟨f, rfl, rfl⟩ | ⟨raw, rfl, rfl⟩⟩ := yields_fetchBalance ht h
    · exact .refused rfl _
    · have hraises : Raises (readBalance t raw) :=
        raises_bind (Observation.raises_integer raw) fun n => raises_fromBaseUnits t n
      refine .read rfl (fun a => readBalance_eq_ok ht) (readBalance_escaped_iff ht) fun f hf => .inr ?_
      rintro e rfl
      exact hraises e hf

theorem fetched_contract {target : String} {arguments : Option Arguments} {operator : Comparison} {expected : Decimal}
    {values : List Json} {r : Except Fault Decimal} (hv : Arguments.toList arguments "contract arguments" = .ok values)
    (h : (fetchContract s target arguments).Yields es r) :
    Fetched c s (.contract target arguments operator expected) es r := by
  obtain ⟨answer, rfl, ⟨f, rfl, rfl⟩ | ⟨raw, rfl, rfl⟩⟩ := yields_fetchContract hv h
  · exact .refused rfl _
  · exact .read rfl (fun a => readContract_eq_ok) readContract_escaped_iff fun f => described_readContract

theorem escapes_of_fetched {raw : Json} (hq : query? d = some q) (hes : es.filterMap Exchange.fetched? = [raw]) :
    (∃ q raw, query? d = some q ∧ es.filterMap Exchange.fetched? = [raw] ∧ Escapes c q raw) ↔ Escapes c q raw := by
  simp [hq, hes]

theorem escaped_of_verdict {operator : Comparison} {observed expected : Decimal} {tolerance : Number} :
    Escaped ((operator.holds observed expected tolerance).map fun b => (⟨b, some observed, none⟩ : ConditionOutcome)) ↔
      ¬ operator.Decides tolerance observed expected := by
  rw [escaped_map_iff, (Comparison.raises_holds _ _ _ _).escaped_iff, ← Comparison.exists_holds_iff]
  simp

theorem accounted_of_fetched {fetch : Engine Decimal} (hq : query? d = some q)
    (hfetch : ∀ {es r}, fetch.Yields es r → Fetched c s q es r)
    (h : (fetch >>= fun observed => judge c q.operator observed q.expected).Yields es out) :
    Accounted c s d es out := by
  obtain ⟨es₁, es₂, a, rfl, hf, hj⟩ | ⟨f, rfl, hf⟩ := Engine.yields_bind.1 h
  · obtain ⟨rfl, rfl⟩ := yields_judge.1 hj
    rw [List.append_nil]
    generalize hr : (.ok a : Except Fault Decimal) = r at hf
    cases hfetch hf with
    | refused => cases hr
    | @read raw _ hes hok hescaped herror =>
      constructor
      · intro f hout
        refine .inr ?_
        rintro e rfl
        cases hholds : q.operator.holds a q.expected c.tolerance with
        | ok b => simp [hholds, Except.map] at hout
        | error g =>
          simp only [hholds, Except.map, Except.error.injEq] at hout
          exact Comparison.raises_holds _ _ _ _ e (hout ▸ hholds)
      · have hunreadable : ¬ Unreadable c q raw := by
          rw [← hescaped, ← hr]
          rintro ⟨f, ⟨⟩, -⟩
        rw [escapes_of_fetched hq hes, escaped_of_verdict]
        constructor
        · exact fun h => .inr ⟨a, (hok a).1 hr.symm, h⟩
        · rintro (h | ⟨b, hb, h⟩)
          · exact absurd h hunreadable
          · cases hr.trans ((hok b).2 hb)
            exact h
  · generalize hr : (.error f : Except Fault Decimal) = r at hf
    have hescaped : Escaped (.error f : Except Fault ConditionOutcome) ↔ Escaped r := by
      simp [Escaped, ← hr]
    cases hfetch hf with
    | refused hes reason =>
      cases hr
      refine ⟨by rintro g ⟨⟩; exact .inl ⟨reason, rfl⟩, ?_⟩
      simp [Escaped, hes, Step.error, Fault.IsForeign]
    | @read raw _ hes hok hread herror =>
      refine ⟨by rintro g ⟨⟩; exact herror f hr.symm, ?_⟩
      rw [escapes_of_fetched hq hes, hescaped, hread]
      constructor
      · exact .inl
      · rintro (h | ⟨b, hb, -⟩)
        · exact h
        · cases hr.trans ((hok b).2 hb)

theorem arguments_of_query {target : String} {arguments : Option Arguments} {operator : Comparison} {expected : Decimal}
    (hd : Validation.LogicStated rules d) (hq : query? d = some (.contract target arguments operator expected)) :
    ∃ values, Arguments.toList arguments "contract arguments" = .ok values := by
  cases hl : d.logicType with
  | none => simp [query?, hl] at hq
  | some kind =>
    cases kind with
    | balance =>
      obtain ⟨_, _, _, heq⟩ := query?_of_balance hl hq
      cases heq
    | contract =>
      obtain ⟨_, _, _, heq⟩ := query?_of_contract hl hq
      cases heq
      exact hd.arguments hl

theorem accounted_of_evaluate (hd : Validation.LogicStated rules d) (h : (evaluate c s d).Yields es out) :
    Accounted c s d es out := by
  unfold evaluate at h
  split at h
  · next hq =>
    obtain ⟨rfl, rfl⟩ := Engine.yields_pure.1 h
    exact ⟨by rintro f ⟨⟩, by simp [Escaped, hq]⟩
  · next hq => exact accounted_of_fetched hq fetched_balance h
  · next hq =>
    obtain ⟨values, hv⟩ := arguments_of_query hd hq
    exact accounted_of_fetched hq (fetched_contract hv) h

end

structure Evaluation where
  step : Step
  exchanges : List Exchange
  outcome : Except Fault ConditionOutcome

def Evaluation.Sound (c : Setting) (steps : List Step) (e : Evaluation) : Prop :=
  e.step ∈ steps ∧ ∃ d, e.step.node.data = .logic d ∧ (evaluate c e.step d).Yields e.exchanges e.outcome ∧
    Accounted c e.step d e.exchanges e.outcome

/-- The branches of some steps were evaluated, one after the other, up to the first that failed. -/
structure Evaluations {α : Type} (c : Setting) (steps : List Step) (evaluations : List Evaluation) (es : List Exchange)
    (out : Except Fault α) : Prop where
  exchanges : es = evaluations.flatMap (·.exchanges)
  sound : ∀ e ∈ evaluations, e.Sound c steps
  failed_iff : ∀ f, out = .error f ↔ ∃ e ∈ evaluations, e.outcome = .error f

section

variable {rules : Validation.Rules} {c : Setting} {v : GraphView} {s : Step} {turn steps marked : List Step}
  {evaluations : List Evaluation}
  {es es₁ es₂ : List Exchange} {out : Except Fault Unit}

theorem Evaluations.skip (h : Evaluations c turn evaluations es out) :
    Evaluations c (s :: turn) evaluations es out where
  exchanges := h.exchanges
  sound e he := ⟨.tail _ (h.sound e he).1, (h.sound e he).2⟩
  failed_iff := h.failed_iff

theorem logic_of_isBranch (h : s.isBranch = true) : ∃ d, s.node.data = .logic d := by
  cases hd : s.node.data <;> simp [Step.isBranch, Node.isBranch, Node.category, NodeData.category, hd] at h ⊢

theorem sound_of_evaluateStep {r : Except Fault ConditionOutcome} (hs : s.isBranch = true)
    (hchecked : Validation.checkNode rules s.node = .ok ()) (h : (evaluateStep c s).Yields es r) :
    Evaluation.Sound c (s :: turn) ⟨s, es, r⟩ := by
  obtain ⟨d, hd⟩ := logic_of_isBranch hs
  simp only [evaluateStep, hd] at h
  rw [Validation.checkNode, hd] at hchecked
  exact ⟨.head _, d, hd, h, accounted_of_evaluate (Validation.checkLogic_eq_ok.1 hchecked) h⟩

theorem evaluations_of_applyFrom (hchecked : ∀ s ∈ turn, Validation.checkNode rules s.node = .ok ())
    (h : (applyFrom c v true turn steps).Yields es (out, marked)) :
    ∃ evaluations, Evaluations c turn evaluations es out := by
  induction turn generalizing steps es with
  | nil =>
    obtain ⟨rfl, heq⟩ := Program.yields_done.1 h
    cases heq
    exact ⟨[], rfl, by simp, by simp⟩
  | cons s rest ih =>
    obtain ⟨hs, hrest⟩ := List.forall_mem_cons.1 hchecked
    by_cases hidle : s.isBranch = false ∨ isSkippedNow steps s = true
    · rw [applyFrom_of_idle hidle] at h
      obtain ⟨evaluations, he⟩ := ih hrest h
      exact ⟨evaluations, he.skip⟩
    · obtain ⟨hb, hlive⟩ : s.isBranch = true ∧ isSkippedNow steps s = false := by simpa using hidle
      rw [applyFrom_of_live hb hlive] at h
      obtain ⟨es₁, es₂, r, rfl, he, hk⟩ := Program.yields_bind.1 h
      have hsound : Evaluation.Sound c (s :: rest) ⟨s, es₁, r⟩ := sound_of_evaluateStep hb hs he
      cases r with
      | error f =>
        obtain ⟨rfl, heq⟩ := Program.yields_done.1 hk
        cases heq
        exact ⟨[⟨s, es₁, .error f⟩], by simp, by simpa using hsound, by simp⟩
      | ok o =>
        obtain ⟨evaluations, he⟩ := ih hrest hk
        refine ⟨⟨s, es₁, .ok o⟩ :: evaluations, ?_, ?_, ?_⟩
        · rw [List.flatMap_cons, ← he.exchanges]
        · intro e hmem
          obtain rfl | hmem := List.mem_cons.1 hmem
          · exact hsound
          · exact he.skip.sound e hmem
        · intro f
          rw [he.failed_iff]
          simp

end

end Condition

namespace Run

variable {services : RunServices} {settings : RunSettings} {names : NameTable} {v : GraphView} {steps : List Step}
  {p : Payload} {es : List Exchange} {out : Except Fault ExecutionResult}

def conditionSetting (services : RunServices) (settings : RunSettings) (names : NameTable) : Condition.Setting :=
  ⟨services.tokens, names, settings.comparisonTolerance⟩

theorem evaluations_of_applyConditions {r : Except Fault (List Step)} (hf : services.hasFetcher = true)
    (hchecked : validateSteps (rulesOf services settings names) steps = .ok ())
    (h : (applyConditions services settings names v steps).Yields es r) :
    ∃ evaluations, Condition.Evaluations (conditionSetting services settings names) steps evaluations es r := by
  obtain ⟨es₁, es₂, ⟨judged, marked⟩, rfl, ha, hd⟩ := Program.yields_bind.1 h
  obtain ⟨rfl, rfl⟩ := Program.yields_done.1 hd
  rw [hf] at ha
  obtain ⟨evaluations, he⟩ := Condition.evaluations_of_applyFrom (checkNode_of_validateSteps hchecked) ha
  refine ⟨evaluations, by rw [List.append_nil, he.exchanges], he.sound, fun f => ?_⟩
  rw [← he.failed_iff]
  cases judged <;> simp [Except.map]

theorem validateSteps_of_check (h : (check services settings p).Yields es (.ok (v, steps, names))) :
    validateSteps (rulesOf services settings names) steps = .ok () := by
  obtain ⟨_, _, ⟨view, planned⟩, rfl, -, h₁⟩ := Engine.yields_bind_ok.1 h
  obtain ⟨_, _, resolved, rfl, -, h₂⟩ := Engine.yields_bind_ok.1 h₁
  obtain ⟨_, _, u, rfl, hv, h₃⟩ := Engine.yields_bind_ok.1 h₂
  cases (Engine.yields_pure.1 h₃).2
  exact (Engine.yields_ofExcept.1 hv).2.symm

theorem evaluations_of_execute (hf : services.hasFetcher = true) (h : (execute services settings p).Yields es out)
    (hc : (check services settings p).Yields (Phase.judging.earlier es) (.ok (v, steps, names))) :
    ∃ evaluations judged rest, Phase.judging.onward es = judged ++ rest ∧
      ∃ r, (applyConditions services settings names v steps).Yields judged r ∧
        Condition.Evaluations (conditionSetting services settings names) steps evaluations judged r ∧
        ∀ f, r = .error f → rest = [] ∧ out = .error f := by
  rw [execute_eq_check] at h
  obtain ⟨-, ⟨checked, hc', hj⟩ | ⟨f, -, hc', -⟩⟩ := Engine.yields_bind_phase (until_check _ _ _) (since_judge _ _) h
  · cases hc.unique hc'
    have hchecked := validateSteps_of_check hc
    obtain ⟨judged, rest, marked, hsplit, ha, -⟩ | ⟨f, rfl, ha⟩ := Engine.yields_bind.1 hj
    · obtain ⟨evaluations, he⟩ := evaluations_of_applyConditions hf hchecked ha
      exact ⟨evaluations, judged, rest, hsplit, .ok marked, ha, he, by rintro f ⟨⟩⟩
    · obtain ⟨evaluations, he⟩ := evaluations_of_applyConditions hf hchecked ha
      refine ⟨evaluations, _, [], (List.append_nil _).symm, .error f, ha, he, ?_⟩
      rintro g ⟨⟩
      exact ⟨rfl, rfl⟩
  · cases hc.unique hc'

end Run

namespace Runner

/-- Whatever the fetcher does, a branch is evaluated, or the run ends in an error about that branch, of which the runner
keeps account; but an answer that escapes ends it in a failure of another kind, and the runner keeps no account. -/
theorem judged_run {σ : Type} {r : Runner} {services : RunServices} {settings : RunSettings} {p : Payload}
    {c : Collaborators σ} {s : σ} {v : GraphView} {steps : List Step} {names : NameTable} (hr : r.inProgress = false)
    (hf : services.hasFetcher = true)
    (hc : (Run.check services settings p).Yields (Phase.judging.earlier (r.exchanges services settings p c s))
      (.ok (v, steps, names))) :
    ∃ evaluations judged rest, Phase.judging.onward (r.exchanges services settings p c s) = judged ++ rest ∧
      ∃ conditions, (Run.applyConditions services settings names v steps).Yields judged conditions ∧
        Condition.Evaluations (Run.conditionSetting services settings names) steps evaluations judged conditions ∧
        ∀ e ∈ evaluations, ∀ f, e.outcome = .error f → rest = [] ∧
          (r.run services settings p c s).1 = .error f ∧
          (Condition.Described e.step f → (r.run services settings p c s).2.1.lastError = f.userMessage) ∧
          (f.IsForeign → (r.run services settings p c s).2.1.lastError = none) := by
  have hstart : r.start = .ok { r with inProgress := true, lastError := none, bridgeStatus := none } := by
    simp [start, hr]
  have hy := Program.yields_run (answering c) (execute services settings p).run
    ({ r with inProgress := true, lastError := none, bridgeStatus := none }, s)
  have hlast : (r.run services settings p c s).2.1.lastError = errorOf (r.run services settings p c s).1 := by
    unfold run
    rw [hstart]
    rfl
  unfold exchanges at hc ⊢
  rw [hstart] at hc ⊢
  obtain ⟨evaluations, judged, rest, hsplit, conditions, ha, he, hends⟩ := Run.evaluations_of_execute hf hy hc
  refine ⟨evaluations, judged, rest, hsplit, conditions, ha, he, fun e hmem f hout => ?_⟩
  obtain ⟨hrest, hfailed⟩ := hends f ((he.failed_iff f).2 ⟨e, hmem, hout⟩)
  have hrun : (r.run services settings p c s).1 = .error f := by
    unfold run
    rw [hstart]
    exact hfailed
  refine ⟨hrest, hrun, ?_, ?_⟩
  · rintro ⟨reason, rfl⟩
    rw [hlast, hrun]
    rfl
  · intro hforeign
    rw [hlast, hrun]
    cases f with
    | engine error => exact absurd rfl (hforeign error)
    | schema issues => rfl
    | raised kind message cause => rfl

/-! A branch on what a contract holds, before a transfer. -/

def vaultGate : FlowGraph where
  nodes := [
    .of "wallet" (.wallet ⟨none⟩),
    .of "gate" (.logic ⟨some .contract, none, "SUI", none, none, some "0x1", some "pool", some "tvl", none, some .gt,
      some 5⟩),
    .of "transfer" (.transfer ⟨some "0x51", some 1, "SUI"⟩)]
  edges := [⟨"first", "wallet", "gate"⟩, ⟨"second", "gate", "transfer"⟩]
  metadata := []
  sound := by decide +kernel

def vaultGateView : GraphView := ⟨vaultGate, Settings.standard.runSettings.positionEpsilon⟩

def fetchingServices : RunServices := { mainServices with hasFetcher := true }

theorem plan_vaultGate :
    Run.plan fetchingServices Settings.standard.runSettings (.graph vaultGate) =
      .ok (vaultGateView, number 0 (vaultGate.nodes.drop 1)) :=
  Run.plan_eq rfl (GraphView.compile_of_isRow (by decide +kernel))

def holding (value : String) : Script :=
  { richSigner with predicates := some ⟨[], [("0x1::pool::tvl", .array [.string value])], none⟩ }

theorem vaultGate_judged :
    ∃ e ∈ new.exchanges fetchingServices Settings.standard.runSettings (.graph vaultGate) Rehearsal.collaborators
      (.create (holding "NaN")), e.request.phase = .judging := by
  simp only [exchanges, start, new, execute, plan_vaultGate]
  decide +kernel

theorem judged_run_vaultGate :
    new.inProgress = false ∧ fetchingServices.hasFetcher = true ∧ ∃ v steps names,
      (Run.check fetchingServices Settings.standard.runSettings (.graph vaultGate)).Yields
        (Phase.judging.earlier (new.exchanges fetchingServices Settings.standard.runSettings (.graph vaultGate)
          Rehearsal.collaborators (.create (holding "NaN")))) (.ok (v, steps, names)) ∧
      ∃ evaluations judged rest,
        Phase.judging.onward (new.exchanges fetchingServices Settings.standard.runSettings (.graph vaultGate)
          Rehearsal.collaborators (.create (holding "NaN"))) = judged ++ rest ∧
        ∃ conditions,
          (Run.applyConditions fetchingServices Settings.standard.runSettings names v steps).Yields judged conditions ∧
          Condition.Evaluations (Run.conditionSetting fetchingServices Settings.standard.runSettings names) steps
            evaluations judged conditions ∧
          ∀ e ∈ evaluations, ∀ f, e.outcome = .error f → rest = [] ∧
            (new.run fetchingServices Settings.standard.runSettings (.graph vaultGate) Rehearsal.collaborators
              (.create (holding "NaN"))).1 = .error f ∧
            (Condition.Described e.step f →
              (new.run fetchingServices Settings.standard.runSettings (.graph vaultGate) Rehearsal.collaborators
                (.create (holding "NaN"))).2.1.lastError = f.userMessage) ∧
            (f.IsForeign →
              (new.run fetchingServices Settings.standard.runSettings (.graph vaultGate) Rehearsal.collaborators
                (.create (holding "NaN"))).2.1.lastError = none) := by
  have hy := Program.yields_run (answering Rehearsal.collaborators)
    (execute fetchingServices Settings.standard.runSettings (.graph vaultGate)).run
    ({ new with inProgress := true, lastError := none, bridgeStatus := none }, .create (holding "NaN"))
  have hstarted := Run.execute_started hy vaultGate_judged
  obtain ⟨checked, hchecked, hc⟩ := Engine.yields_map.1 hstarted
  cases checked with
  | error f => cases hchecked
  | ok checked => exact ⟨rfl, rfl, _, _, _, hc, judged_run rfl rfl hc⟩

/-- There is a fetcher, and it answers; but the number cannot be compared, and the runner says nothing of it. -/
theorem vaultGate_escapes :
    (∃ e ∈ new.exchanges fetchingServices Settings.standard.runSettings (.graph vaultGate) Rehearsal.collaborators
      (.create (holding "NaN")), e.fetched?.isSome = true) ∧
    raisedMessage? (new.run fetchingServices Settings.standard.runSettings (.graph vaultGate) Rehearsal.collaborators
      (.create (holding "NaN"))).1 = some Decimal.Signal.invalidOperation.message ∧
    (new.run fetchingServices Settings.standard.runSettings (.graph vaultGate) Rehearsal.collaborators
      (.create (holding "NaN"))).2.1.lastError = none := by
  simp only [exchanges, run, start, new, execute, plan_vaultGate]
  decide +kernel

end Runner

end LedgerFlow
