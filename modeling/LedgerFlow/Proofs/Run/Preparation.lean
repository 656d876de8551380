import LedgerFlow.Proofs.Assembly.Requests
import LedgerFlow.Proofs.Names.Resolution
import LedgerFlow.Run

namespace LedgerFlow

theorem within_resolveNames (resolver : Bool) (steps : List Step) : (resolveNames resolver steps).Within .naming := by
  apply (NameTable.asks_extend (collectNames steps)).imp
  rintro r ⟨n, -, rfl⟩
  rfl

theorem Plan.map_skipNodes {β : Type} {f : Step → β} (hf : ∀ s : Step, f s.skip = f s) (ids : List String)
    (steps : List Step) : (skipNodes ids steps).map f = steps.map f := by
  rw [skipNodes, List.map_map]
  apply List.map_congr_left
  intro s _
  simp only [Function.comp]
  split
  · exact hf s
  · rfl

namespace Condition

theorem within_judge (c : Setting) (operator : Comparison) (observed expected : Decimal) :
    (judge c operator observed expected).Within .judging := by
  apply Engine.asks_bind Engine.asks_ofExcept
  intro satisfied
  exact Engine.asks_pure

theorem within_fetchBalance (c : Setting) (s : Step) (address asset : String) :
    (fetchBalance c s address asset).Within .judging := by
  unfold fetchBalance
  split
  · simp
  · apply Engine.asks_bind (Engine.asks_mapFault (Engine.within_ask (by rfl)))
    intro raw
    simp

theorem within_fetchContract (s : Step) (target : String) (arguments : Option Arguments) :
    (fetchContract s target arguments).Within .judging := by
  unfold fetchContract
  split
  · simp
  · apply Engine.asks_bind (Engine.asks_mapFault (Engine.within_ask (by rfl)))
    intro answer
    split
    · simp
    · simp

theorem within_evaluateStep (c : Setting) (s : Step) : (evaluateStep c s).Within .judging := by
  unfold evaluateStep evaluate
  split
  · split
    · simp
    · apply Engine.asks_bind (within_fetchBalance _ _ _ _)
      intro observed
      exact within_judge _ _ _ _
    · apply Engine.asks_bind (within_fetchContract _ _ _)
      intro observed
      exact within_judge _ _ _ _
  · simp

theorem within_applyFrom (c : Setting) (v : GraphView) (fetcher : Bool) (turn steps : List Step) :
    (applyFrom c v fetcher turn steps).Asks fun q => q.phase = .judging := by
  induction turn generalizing steps with
  | nil => trivial
  | cons s rest ih =>
    unfold applyFrom
    split
    · exact ih steps
    · split
      · trivial
      · apply Program.asks_bind (within_evaluateStep c s)
        intro r
        cases r with
        | error f => trivial
        | ok outcome => exact ih _

theorem map_node_markDownstream (v : GraphView) (branch : String) (steps : List Step) :
    (markDownstream v branch steps).map (·.node) = steps.map (·.node) :=
  Plan.map_skipNodes (fun _ => rfl) _ _

theorem map_node_of_applyFrom {c : Setting} {v : GraphView} {fetcher : Bool} {turn steps marked : List Step}
    {es : List Exchange} {r : Except Fault Unit} (h : (applyFrom c v fetcher turn steps).Yields es (r, marked)) :
    marked.map (·.node) = steps.map (·.node) := by
  induction turn generalizing steps es with
  | nil =>
    cases (Program.yields_done.1 h).2
    rfl
  | cons s rest ih =>
    unfold applyFrom at h
    split at h
    · exact ih h
    · split at h
      · cases (Program.yields_done.1 h).2
        rfl
      · obtain ⟨es₁, es₂, x, rfl, -, hx⟩ := Program.yields_bind.1 h
        cases x with
        | error f =>
          cases (Program.yields_done.1 hx).2
          rfl
        | ok outcome =>
          rw [ih hx]
          split
          · rfl
          · exact map_node_markDownstream _ _ _

end Condition

namespace Run

theorem plan_eq {services : RunServices} {settings : RunSettings} {p : Payload} {graph : FlowGraph} {s : Step}
    {rest : List Step} (hg : p.toGraph services.wording = .ok graph)
    (hs : GraphView.compile ⟨graph, settings.positionEpsilon⟩ = s :: rest) :
    plan services settings p = .ok (⟨graph, settings.positionEpsilon⟩, s :: rest) := by
  refine except_bind_eq_ok.2 ⟨graph, hg, ?_⟩
  simp only [hs]

theorem compile_of_plan {services : RunServices} {settings : RunSettings} {p : Payload} {view : GraphView}
    {steps : List Step} (h : plan services settings p = .ok (view, steps)) : steps = view.compile := by
  obtain ⟨graph, -, hs⟩ := except_bind_eq_ok.1 h
  dsimp only at hs
  split at hs
  · cases hs
  · cases hs
    rfl

theorem within_applyConditions (services : RunServices) (settings : RunSettings) (names : NameTable)
    (v : GraphView) (steps : List Step) : (applyConditions services settings names v steps).Within .judging :=
  Program.asks_bind (Condition.within_applyFrom _ _ _ _ _) fun _ => trivial

theorem map_node_of_applyConditions {services : RunServices} {settings : RunSettings} {names : NameTable}
    {v : GraphView} {steps marked : List Step} {es : List Exchange}
    (h : (applyConditions services settings names v steps).Yields es (.ok marked)) :
    marked.map (·.node) = steps.map (·.node) := by
  obtain ⟨es₁, es₂, ⟨x, out⟩, rfl, hp, hx⟩ := Program.yields_bind.1 h
  cases x with
  | error f => cases (Program.yields_done.1 hx).2
  | ok u =>
    cases (Program.yields_done.1 hx).2
    exact Condition.map_node_of_applyFrom hp

end Run

theorem checkNode_of_validateSteps {rules : Validation.Rules} {steps : List Step}
    (h : validateSteps rules steps = .ok ()) : ∀ s ∈ steps, Validation.checkNode rules s.node = .ok () := by
  induction steps with
  | nil => simp
  | cons s rest ih =>
    unfold validateSteps at h
    split at h
    · next hs =>
      intro t ht
      cases ht with
      | head => exact hs
      | tail _ ht => exact ih h t ht
    · cases h
    · cases h

namespace Run

def prepare (services : RunServices) (settings : RunSettings) (p : Payload) : Engine (NameTable × List Step) := do
  let (view, steps) ← Engine.ofExcept (plan services settings p)
  let names ← resolveNames services.hasResolver steps
  Engine.ofExcept (validateSteps (rulesOf services settings names) steps)
  return (names, ← applyConditions services settings names view steps)

theorem until_prepare (services : RunServices) (settings : RunSettings) (p : Payload) :
    (prepare services settings p).Until .building := by
  apply Engine.asks_bind Engine.asks_ofExcept
  rintro ⟨view, steps⟩
  apply Engine.asks_bind ((within_resolveNames _ _).until (by decide))
  intro names
  apply Engine.asks_bind Engine.asks_ofExcept
  intro _
  apply Engine.asks_bind ((within_applyConditions _ _ _ _ _).until (by decide))
  intro marked
  exact Engine.asks_pure

theorem inquires_prepare (services : RunServices) (settings : RunSettings) (p : Payload) :
    (prepare services settings p).Inquires :=
  ((until_prepare services settings p).mono (by decide)).inquires

theorem of_prepare {services : RunServices} {settings : RunSettings} {p : Payload} {names : NameTable}
    {marked : List Step} {es : List Exchange} (h : (prepare services settings p).Yields es (.ok (names, marked))) :
    ∃ view steps, plan services settings p = .ok (view, steps) ∧
      validateSteps (rulesOf services settings names) steps = .ok () ∧ marked.map (·.node) = steps.map (·.node) := by
  obtain ⟨_, _, ⟨view, steps⟩, rfl, hp, h₁⟩ := Engine.yields_bind_ok.1 h
  obtain ⟨_, _, names', rfl, -, h₂⟩ := Engine.yields_bind_ok.1 h₁
  obtain ⟨_, _, u, rfl, hv, h₃⟩ := Engine.yields_bind_ok.1 h₂
  obtain ⟨_, _, marked', rfl, hm, h₄⟩ := Engine.yields_bind_ok.1 h₃
  cases (Engine.yields_pure.1 h₄).2
  exact ⟨view, steps, (Engine.yields_ofExcept.1 hp).2.symm, (Engine.yields_ofExcept.1 hv).2.symm,
    map_node_of_applyConditions hm⟩

theorem checkNode_of_prepare {services : RunServices} {settings : RunSettings} {p : Payload} {names : NameTable}
    {marked : List Step} {es : List Exchange} (h : (prepare services settings p).Yields es (.ok (names, marked))) :
    ∀ s ∈ marked, Validation.checkNode (rulesOf services settings names) s.node = .ok () := by
  obtain ⟨view, steps, -, hv, hm⟩ := of_prepare h
  intro s hs
  have hn : s.node ∈ steps.map (·.node) := hm ▸ List.mem_map_of_mem hs
  obtain ⟨t, ht, hts⟩ := List.mem_map.1 hn
  rw [← hts]
  exact checkNode_of_validateSteps hv t ht

end Run

end LedgerFlow
