import LedgerFlow.Proofs.Assembly.Operations
import LedgerFlow.Proofs.Bridge.Requests
import LedgerFlow.Proofs.Plan.Steps
import LedgerFlow.Proofs.Run.Submission

/-!
In which order a run turns to its collaborators. It looks names up, has the conditions judged, builds, submits at most
once and then carries the bridges out; each of these begins only when everything before it has succeeded.
-/

namespace LedgerFlow

namespace Run

variable (services : RunServices) (settings : RunSettings) (p : Payload)

def check : Engine (GraphView × List Step × NameTable) := do
  let (view, steps) ← Engine.ofExcept (plan services settings p)
  let names ← resolveNames services.hasResolver steps
  Engine.ofExcept (validateSteps (rulesOf services settings names) steps)
  return (view, steps, names)

def build : Engine (NameTable × List Step × AssemblyResult) := do
  let (names, steps) ← prepare services settings p
  return (names, steps, ← assemble (assemblySetting services settings names) steps)

def clear : Engine (NameTable × List Step × AssemblyResult) := do
  let built ← build services settings p
  Engine.ofExcept (demandRoutes services built.2.2.bridges)
  return built

def dispatch (a : AssemblyResult) : Engine (Option String) :=
  if a.operations = 0 && a.bridges.isEmpty then pure none else submitIfAny a.transaction

def send : Engine (NameTable × AssemblyResult × Option String) := do
  let (names, _, a) ← clear services settings p
  return (names, a, ← dispatch a)

def before : Phase → Engine Unit
  | .naming => (fun _ => ()) <$> Engine.ofExcept (plan services settings p)
  | .judging => (fun _ => ()) <$> check services settings p
  | .building => (fun _ => ()) <$> prepare services settings p
  | .submitting => (fun _ => ()) <$> clear services settings p
  | .bridging => (fun _ => ()) <$> send services settings p

/-! What is left of a run -/

def judge : GraphView × List Step × NameTable → Engine ExecutionResult
  | (view, steps, names) => do
    let steps ← applyConditions services settings names view steps
    complete services settings (names, steps)

def conclude : NameTable × AssemblyResult × Option String → Engine ExecutionResult
  | (names, a, digest) => do
    if a.operations = 0 && a.bridges.isEmpty then return nothingToDo
    let bridges ← runBridges (bridgeSetting services settings names) a.bridges
    return ⟨digest, bridges, (a.operations + a.bridges.length : Nat), summary a.operations bridges⟩

def launch : NameTable × List Step × AssemblyResult → Engine ExecutionResult
  | (names, _, a) => do
    let digest ← dispatch a
    conclude services settings (names, a, digest)

theorem carryOut_eq (names : NameTable) (steps : List Step) (a : AssemblyResult) :
    carryOut services settings names a =
      Engine.ofExcept (demandRoutes services a.bridges) >>= fun _ => launch services settings (names, steps, a) := by
  simp only [carryOut, launch, dispatch, conclude]
  cases hidle : decide (a.operations = 0) && a.bridges.isEmpty with
  | true =>
    have hb : a.bridges = [] := by
      simp only [Bool.and_eq_true, List.isEmpty_iff] at hidle
      exact hidle.2
    rw [hb]
    rfl
  | false => rfl

theorem execute_eq_check : execute services settings p = check services settings p >>= judge services settings := by
  simp only [execute, check, Engine.bind_assoc]
  rfl

theorem execute_eq_clear : execute services settings p = clear services settings p >>= launch services settings := by
  simp only [execute_eq, clear, build, Engine.bind_assoc]
  congr 1
  funext x
  obtain ⟨names, steps⟩ := x
  simp only [complete, carryOut_eq services settings names steps]
  rfl

theorem execute_eq_send : execute services settings p = send services settings p >>= conclude services settings := by
  simp only [execute_eq_clear, send, Engine.bind_assoc]
  rfl

/-! What each part asks for -/

theorem until_check : (check services settings p).Until .judging := by
  apply Engine.asks_bind Engine.asks_ofExcept
  rintro ⟨view, steps⟩
  apply Engine.asks_bind ((within_resolveNames _ _).until (by decide))
  intro names
  exact Engine.asks_bind Engine.asks_ofExcept fun _ => Engine.asks_pure

theorem until_build : (build services settings p).Until .submitting := by
  apply Engine.asks_bind ((until_prepare _ _ _).mono (by decide))
  rintro ⟨names, steps⟩
  exact Engine.asks_bind ((within_assemble _ _).until (by decide)) fun _ => Engine.asks_pure

theorem until_clear : (clear services settings p).Until .submitting := by
  apply Engine.asks_bind (until_build _ _ _)
  intro built
  exact Engine.asks_bind Engine.asks_ofExcept fun _ => Engine.asks_pure

theorem within_dispatch (a : AssemblyResult) : (dispatch a).Within .submitting := by
  unfold dispatch submitIfAny
  split
  · exact Engine.asks_pure
  · split
    · exact Engine.asks_pure
    · exact Engine.asks_bind (Engine.asks_mapFault (Engine.within_ask (by rfl))) fun _ => Engine.asks_pure

theorem until_send : (send services settings p).Until .bridging := by
  apply Engine.asks_bind (Engine.Until.mono (until_clear _ _ _) (by decide))
  rintro ⟨names, steps, a⟩
  exact Engine.asks_bind ((within_dispatch a).until (by decide)) fun _ => Engine.asks_pure

theorem within_conclude (sent : NameTable × AssemblyResult × Option String) :
    (conclude services settings sent).Within .bridging := by
  simp only [conclude]
  split
  · exact Engine.asks_pure
  · exact Engine.asks_bind (within_runBridges _ _) fun _ => Engine.asks_pure

theorem since_launch (built : NameTable × List Step × AssemblyResult) :
    (launch services settings built).Since .submitting := by
  apply Engine.asks_bind ((within_dispatch _).since (by decide))
  intro digest
  exact (within_conclude _ _ _).since (by decide)

theorem since_complete (prepared : NameTable × List Step) : (complete services settings prepared).Since .building := by
  apply Engine.asks_bind ((within_assemble _ _).since (by decide))
  intro a
  rw [carryOut_eq services settings prepared.1 prepared.2]
  apply Engine.asks_bind Engine.asks_ofExcept
  intro _
  exact (since_launch _ _ _).mono (by decide)

theorem since_judge (checked : GraphView × List Step × NameTable) :
    (judge services settings checked).Since .judging := by
  apply Engine.asks_bind ((within_applyConditions _ _ _ _ _).since (by decide))
  intro steps
  exact (since_complete _ _ _).mono (by decide)

theorem execute_split (phase : Phase) :
    ∃ (α : Type) (first : Engine α) (next : α → Engine ExecutionResult),
      execute services settings p = first >>= next ∧ before services settings p phase = (fun _ => ()) <$> first ∧
      first.Until phase ∧ ∀ a, (next a).Since phase := by
  cases phase with
  | naming =>
    exact ⟨_, _, _, rfl, rfl, Engine.asks_ofExcept, fun _ => Program.asks_of_forall (fun _ => Nat.zero_le _) _⟩
  | judging => exact ⟨_, _, _, execute_eq_check _ _ _, rfl, until_check _ _ _, since_judge _ _⟩
  | building => exact ⟨_, _, _, execute_eq _ _ _, rfl, until_prepare _ _ _, since_complete _ _⟩
  | submitting => exact ⟨_, _, _, execute_eq_clear _ _ _, rfl, until_clear _ _ _, since_launch _ _⟩
  | bridging =>
    exact ⟨_, _, _, execute_eq_send _ _ _, rfl, until_send _ _ _, fun sent =>
      (within_conclude _ _ sent).since (Nat.le_refl _)⟩

/-! What a run comes to -/

variable {services settings p} {es : List Exchange} {out : Except Fault ExecutionResult}

theorem execute_started (h : (execute services settings p).Yields es out) {phase : Phase}
    (he : ∃ e ∈ es, e.request.phase = phase) :
    (before services settings p phase).Yields (phase.earlier es) (.ok ()) := by
  obtain ⟨α, first, next, heq, hbefore, hfirst, hnext⟩ := execute_split services settings p phase
  rw [heq] at h
  obtain ⟨-, ⟨a, hf, -⟩ | ⟨f, -, -, ho⟩⟩ := Engine.yields_bind_phase hfirst hnext h
  · rw [hbefore, Engine.yields_map]
    exact ⟨.ok a, rfl, hf⟩
  · obtain ⟨e, hm, rfl⟩ := he
    have : e ∈ e.request.phase.onward es := List.mem_filter.2 ⟨hm, by simp⟩
    simp [ho] at this

theorem execute_inOrder (h : (execute services settings p).Yields es out) : Phase.InOrder es := by
  apply Phase.inOrder_of_split
  intro phase
  obtain ⟨α, first, next, heq, -, hfirst, hnext⟩ := execute_split services settings p phase
  rw [heq] at h
  exact (Engine.yields_bind_phase hfirst hnext h).1

end Run

def Exchange.submits (e : Exchange) : Bool := e.request.phase == .submitting

theorem countP_submits_eq_zero {es : List Exchange} (h : ∀ e ∈ es, e.request.phase ≠ .submitting) :
    es.countP Exchange.submits = 0 := by
  rw [List.countP_eq_zero]
  intro e he
  simpa [Exchange.submits] using h e he

namespace Run

variable {services : RunServices} {settings : RunSettings} {p : Payload} {es : List Exchange}
  {out : Except Fault ExecutionResult}

theorem countP_submits_dispatch {a : AssemblyResult} {x : Except Fault (Option String)} (h : (dispatch a).Yields es x)
    (ha : a.transaction.isSome = true ↔ a.operations ≠ 0) :
    es.countP Exchange.submits = if a.operations = 0 then 0 else 1 := by
  unfold dispatch at h
  cases htx : a.transaction with
  | none =>
    have hz : a.operations = 0 := by simpa [htx] using ha
    have hes : es = [] := by
      rw [htx] at h
      split at h <;> exact (Engine.yields_pure.1 h).1
    simp [hes, hz]
  | some tx =>
    have hz : a.operations ≠ 0 := ha.1 (by simp [htx])
    rw [htx] at h
    split at h
    · next hidle => simp [hz] at hidle
    · obtain ⟨x, -, hs⟩ := Engine.yields_map.1 h
      obtain ⟨y, -, hy⟩ := Engine.yields_mapFault.1 hs
      rw [Engine.yields_submit.1 hy, if_neg hz]
      rfl

theorem countP_submits_launch {names : NameTable} {steps : List Step} {a : AssemblyResult}
    (h : (launch services settings (names, steps, a)).Yields es out)
    (ha : a.transaction.isSome = true ↔ a.operations ≠ 0) :
    es.countP Exchange.submits = if a.operations = 0 then 0 else 1 := by
  obtain ⟨es₁, es₂, digest, rfl, hd, hc⟩ | ⟨f, -, hd⟩ := Engine.yields_bind.1 h
  · have hrest : es₂.countP Exchange.submits = 0 := by
      apply countP_submits_eq_zero
      intro e he
      rw [Engine.Asks.of_yields (within_conclude services settings _) hc e he]
      decide
    rw [List.countP_append, hrest, Nat.add_zero]
    exact countP_submits_dispatch hd ha
  · exact countP_submits_dispatch hd ha

theorem of_build {names : NameTable} {steps : List Step} {a : AssemblyResult}
    (h : (build services settings p).Yields es (.ok (names, steps, a))) :
    ∃ es₁ es₂, es = es₁ ++ es₂ ∧ (prepare services settings p).Yields es₁ (.ok (names, steps)) ∧
      (assemble (assemblySetting services settings names) steps).Yields es₂ (.ok a) := by
  obtain ⟨es₁, _, ⟨names', steps'⟩, rfl, hp, h₁⟩ := Engine.yields_bind_ok.1 h
  obtain ⟨es₂, _, a', rfl, ha, h₂⟩ := Engine.yields_bind_ok.1 h₁
  obtain ⟨rfl, heq⟩ := Engine.yields_pure.1 h₂
  cases heq
  exact ⟨es₁, es₂, by simp, hp, ha⟩

theorem yields_clear {built : NameTable × List Step × AssemblyResult} :
    (clear services settings p).Yields es (.ok built) ↔
      (build services settings p).Yields es (.ok built) ∧ demandRoutes services built.2.2.bridges = .ok () := by
  rw [clear, Engine.yields_bind_ok]
  constructor
  · rintro ⟨es₁, _, built', rfl, hb, h⟩
    obtain ⟨_, _, _, rfl, hroutes, h₁⟩ := Engine.yields_bind_ok.1 h
    obtain ⟨rfl, hd⟩ := Engine.yields_ofExcept.1 hroutes
    obtain ⟨rfl, heq⟩ := Engine.yields_pure.1 h₁
    cases heq
    exact ⟨by simpa using hb, hd.symm⟩
  · rintro ⟨hb, hd⟩
    refine ⟨es, [], built, by simp, hb, Engine.yields_bind_ok.2 ⟨[], [], (), rfl, ?_, Engine.yields_pure.2 ⟨rfl, rfl⟩⟩⟩
    exact Engine.yields_ofExcept.2 ⟨rfl, hd.symm⟩

theorem demandRoutes_eq_ok {bridges : List Step} :
    demandRoutes services bridges = .ok () ↔ bridges = [] ∨ services.hasRoutes = true := by
  cases bridges with
  | nil => simp [demandRoutes]
  | cons s rest => simp [demandRoutes]

theorem isPassthrough_of_prepare {names : NameTable} {steps : List Step}
    (h : (prepare services settings p).Yields es (.ok (names, steps))) : ∀ s ∈ steps, s.node.isPassthrough = false := by
  obtain ⟨view, planned, hplan, -, hnodes⟩ := of_prepare h
  obtain rfl := compile_of_plan hplan
  intro s hs
  have hn : s.node ∈ view.compile.map (·.node) := hnodes ▸ List.mem_map_of_mem hs
  rw [GraphView.map_node_compile] at hn
  exact (GraphView.mem_emitted.1 hn).2.1

def Cleared (services : RunServices) (settings : RunSettings) (p : Payload) (es : List Exchange) : Prop :=
  ∃ names steps a, (build services settings p).Yields es (.ok (names, steps, a)) ∧
    (∃ t ∈ steps, t.isLive = true ∧ t.isBranch = false ∧ t.isBridge = false) ∧
    ((∀ t ∈ steps, t.isLive = true → t.isBridge = false) ∨ services.hasRoutes = true)

theorem cleared_iff :
    Cleared services settings p es ↔
      ∃ names steps a, (clear services settings p).Yields es (.ok (names, steps, a)) ∧ a.operations ≠ 0 := by
  refine exists_congr fun names => exists_congr fun steps => exists_congr fun a => ?_
  rw [yields_clear, and_assoc, and_congr_right_iff]
  intro hb
  obtain ⟨es₁, es₂, -, hp, ha⟩ := of_build hb
  have hoperations : a.operations ≠ 0 ↔ ∃ t ∈ steps, t.isLive = true ∧ t.isBranch = false ∧ t.isBridge = false := by
    rw [(of_assemble ha).2.1, Nat.ne_zero_iff_zero_lt, List.length_pos_iff_exists_mem]
    exact exists_congr fun t => Plan.mem_operations (isPassthrough_of_prepare hp)
  rw [demandRoutes_eq_ok, (of_assemble ha).1, Assembly.bridgesOf_eq_nil, hoperations, and_comm]

theorem execute_submits (h : (execute services settings p).Yields es out) :
    es.countP Exchange.submits ≤ 1 ∧
      (es.countP Exchange.submits = 1 ↔ Cleared services settings p (Phase.submitting.earlier es)) := by
  rw [execute_eq_clear] at h
  obtain ⟨hsplit, hrun⟩ := Engine.yields_bind_phase (until_clear _ _ _) (since_launch _ _) h
  have hcount : es.countP Exchange.submits = (Phase.submitting.onward es).countP Exchange.submits := by
    have hearlier : (Phase.submitting.earlier es).countP Exchange.submits = 0 := by
      apply countP_submits_eq_zero
      intro e he hs
      simp [Phase.earlier, hs] at he
    conv_lhs => rw [hsplit, List.countP_append, hearlier, Nat.zero_add]
  rw [hcount, cleared_iff]
  obtain ⟨⟨names, steps, a⟩, hc, hl⟩ | ⟨f, -, hc, ho⟩ := hrun
  · obtain ⟨es₁, es₂, -, -, ha⟩ := of_build (yields_clear.1 hc).1
    rw [countP_submits_launch hl (of_assemble ha).2.2]
    constructor
    · split <;> simp
    · constructor
      · intro h1
        refine ⟨names, steps, a, hc, fun hz => ?_⟩
        simp [hz] at h1
      · rintro ⟨names', steps', a', hc', hz⟩
        cases hc.unique hc'
        rw [if_neg hz]
  · rw [ho, List.countP_nil]
    refine ⟨Nat.zero_le _, ⟨fun h => (Nat.zero_ne_one h).elim, ?_⟩⟩
    rintro ⟨names', steps', a', hc', -⟩
    cases hc.unique hc'

theorem carryOut_ok {names : NameTable} {a : AssemblyResult} {result : ExecutionResult}
    (h : (carryOut services settings names a).Yields es (.ok result)) :
    result.stepCount = (a.operations + a.bridges.length : Nat) ∧
      ∃ es', (runBridges (bridgeSetting services settings names) a.bridges).Yields es' (.ok result.bridgeResults) := by
  unfold carryOut at h
  split at h
  · next hidle =>
    obtain ⟨-, heq⟩ := Engine.yields_pure.1 h
    cases heq
    simp only [Bool.and_eq_true, decide_eq_true_eq, List.isEmpty_iff] at hidle
    rw [hidle.1, hidle.2]
    exact ⟨rfl, [], Engine.yields_pure.2 ⟨rfl, rfl⟩⟩
  · obtain ⟨_, _, _, rfl, -, h₁⟩ := Engine.yields_bind_ok.1 h
    obtain ⟨_, _, digest, rfl, -, h₂⟩ := Engine.yields_bind_ok.1 h₁
    obtain ⟨es', _, bridges, rfl, hb, h₃⟩ := Engine.yields_bind_ok.1 h₂
    obtain ⟨-, heq⟩ := Engine.yields_pure.1 h₃
    cases heq
    exact ⟨rfl, es', hb⟩

theorem execute_result {result : ExecutionResult} (h : (execute services settings p).Yields es (.ok result)) :
    ∃ names steps, (prepare services settings p).Yields (Phase.building.earlier es) (.ok (names, steps)) ∧
      result.stepCount = (steps.filter fun t => t.isLive && !t.isBranch).length ∧
      result.bridgeResults.map (fun b => (b.stepIndex, b.nodeId)) =
        (steps.filter fun t => t.isLive && t.isBridge).map fun t => (↑t.index, t.node.id) := by
  rw [execute_eq] at h
  obtain ⟨-, ⟨⟨names, steps⟩, hp, hc⟩ | ⟨f, hf, -⟩⟩ :=
    Engine.yields_bind_phase (until_prepare _ _ _) (since_complete _ _) h
  · obtain ⟨_, _, a, -, ha, hk⟩ := Engine.yields_bind_ok.1 hc
    obtain ⟨hcount, es', hb⟩ := carryOut_ok hk
    have hbridges := (of_assemble ha).1
    refine ⟨names, steps, hp, ?_, ?_⟩
    · rw [hcount, Plan.length_live (isPassthrough_of_prepare hp), (of_assemble ha).2.1, hbridges]
    · rw [hbridges] at hb
      apply Bridge.results_of_outcome
      apply runBridges_outcome _ _ hb
      · exact rulesOf services settings names
      · intro s hs
        have hlive := (List.mem_filter.1 hs).2
        simp only [Bool.and_eq_true] at hlive
        exact hlive.2
      · exact fun s hs => checkNode_of_prepare hp s (List.mem_filter.1 hs).1
  · cases hf

end Run

namespace Runner

/-- How a run went through its phases: what it exchanged, and what came of it. -/
structure Phased (r : Runner) (services : RunServices) (settings : RunSettings) (p : Payload) (es : List Exchange)
    (out : Except Fault ExecutionResult) : Prop where
  ordered : Phase.InOrder es
  started : ∀ phase, (∃ e ∈ es, e.request.phase = phase) →
    (Run.before services settings p phase).Yields (phase.earlier es) (.ok ())
  once : es.countP Exchange.submits ≤ 1
  submitted_iff : es.countP Exchange.submits = 1 ↔
    r.inProgress = false ∧ Run.Cleared services settings p (Phase.submitting.earlier es)
  finished : ∀ result, out = .ok result →
    ∃ names steps, (Run.prepare services settings p).Yields (Phase.building.earlier es) (.ok (names, steps)) ∧
      result.stepCount = (steps.filter fun t => t.isLive && !t.isBranch).length ∧
      result.bridgeResults.map (fun b => (b.stepIndex, b.nodeId)) =
        (steps.filter fun t => t.isLive && t.isBridge).map fun t => (↑t.index, t.node.id)

/-- However the collaborators behave, a run turns to them phase by phase, each begun only when all before it has
succeeded; it submits once or not at all, and just when all is built and there is something to submit. -/
theorem phased_run {σ : Type} (r : Runner) (services : RunServices) (settings : RunSettings) (p : Payload)
    (c : Collaborators σ) (s : σ) :
    r.Phased services settings p (r.exchanges services settings p c s) (r.run services settings p c s).1 := by
  unfold exchanges run
  cases hb : r.inProgress with
  | true =>
    have hstart : r.start = .error busy := by simp [start, hb]
    rw [hstart]
    exact {
      ordered := .nil
      started := by simp
      once := by simp
      submitted_iff := by simp [hb]
      finished := by simp }
  | false =>
    have hstart : r.start = .ok { r with inProgress := true, lastError := none, bridgeStatus := none } := by
      simp [start, hb]
    rw [hstart]
    have hy := Program.yields_run (answering c) (execute services settings p).run
      ({ r with inProgress := true, lastError := none, bridgeStatus := none }, s)
    obtain ⟨honce, hiff⟩ := Run.execute_submits hy
    exact {
      ordered := Run.execute_inOrder hy
      started := fun phase he => Run.execute_started hy he
      once := honce
      submitted_iff := by simpa [hb] using hiff
      finished := fun result hout => Run.execute_result (hout ▸ hy) }

end Runner

end LedgerFlow
