import LedgerFlow.Proofs.Bridge.Attempt
import LedgerFlow.Proofs.Phase

namespace LedgerFlow

def Request.IsBridging (P : String → Prop) : Request → Prop
  | .routes r => P r.fromAmount
  | q => q.phase = .bridging

theorem Request.IsBridging.phase {P : String → Prop} {q : Request} (h : q.IsBridging P) : q.phase = .bridging := by
  cases q with
  | routes => rfl
  | _ => exact h

namespace Bridge

variable {P : String → Prop}

theorem asks_requestRoute {request : RouteRequest} (h : P request.fromAmount) :
    (requestRoute request).Asks (Request.IsBridging P) := by
  have hasks : (Engine.routes request).Asks (Request.IsBridging P) := Engine.asks_ask.2 h
  apply Program.asks_bind hasks
  intro x
  split <;> trivial

theorem asks_publish (status : BridgeStatus) : (publish status).Asks (Request.IsBridging P) :=
  ⟨rfl, fun _ => trivial⟩

theorem asks_follow (wording : Schema.Wording) (p : Progress) (us : List RouteUpdate) :
    (follow wording p us).Asks (Request.IsBridging P) := by
  induction us generalizing p with
  | nil => trivial
  | cons u rest ih =>
    unfold follow
    split
    · trivial
    · exact Program.asks_bind (asks_publish _) fun _ => ih _

theorem asks_attempt (wording : Schema.Wording) (status : BridgeStatus) (route : Route) :
    (attempt wording status route).Asks (Request.IsBridging P) := by
  have hasks : (Engine.executeRoute route).Asks (Request.IsBridging P) := Engine.asks_executeRoute rfl
  apply Program.asks_bind (asks_publish _)
  intro _
  apply Program.asks_bind hasks
  intro x
  cases x with
  | error f => trivial
  | ok execution => exact Program.asks_bind (asks_follow _ _ _) fun _ => trivial

theorem asks_told (status : BridgeStatus) : (Engine.publish status).Asks (Request.IsBridging P) :=
  Engine.asks_publish rfl

theorem asks_finish (s : Step) (status : BridgeStatus) (hash : Option String) (r : RetryState) :
    (finish s status hash r).Asks (Request.IsBridging P) :=
  Engine.asks_bind (asks_told _) fun _ => Engine.asks_pure

theorem asks_decline (s : Step) (p : Progress) (f : Fault) : (decline s p f).Asks (Request.IsBridging P) :=
  Engine.asks_bind (asks_told _) fun _ => Engine.asks_throw

theorem asks_tryRoutes (c : Setting) (s : Step) {request : RouteRequest} (h : P request.fromAmount)
    (status : BridgeStatus) (r : RetryState) (left : Nat) :
    (tryRoutes c s request status r left).Asks (Request.IsBridging P) := by
  induction left using Nat.strongRecOn generalizing r with
  | ind left ih =>
    rw [tryRoutes.eq_def]
    apply Engine.asks_bind (Engine.asks_lift (asks_requestRoute (by exact h)))
    intro x
    cases x with
    | error why => exact asks_finish _ _ _ _
    | ok route =>
      apply Engine.asks_bind (Engine.asks_lift (asks_attempt _ _ _))
      rintro ⟨p, f⟩
      cases f with
      | none =>
        simp only [complete_eq]
        exact asks_finish _ _ _ _
      | some f =>
        cases hf : Ending.of p f with
        | declined =>
          simp only [hf]
          exact asks_decline _ _ _
        | underWay hash =>
          simp only [hf]
          exact asks_finish _ _ _ _
        | failed =>
          simp only [hf]
          exact asks_finish _ _ _ _
        | retry =>
          simp only [hf]
          cases left with
          | zero => exact asks_finish _ _ _ _
          | succ left => exact ih left left.lt_succ_self _

theorem asks_executeStep {c : Setting} {s : Step} {d : BridgeData}
    (h : ∀ request, routeRequest c s d = .ok request → P request.fromAmount) :
    (executeStep c s d).Asks (Request.IsBridging P) := by
  apply Engine.asks_ofExcept_bind
  intro request hr
  exact Engine.asks_bind (asks_told _) fun _ => asks_tryRoutes c s (h request hr) _ _ _

end Bridge

theorem asks_runBridges {P : String → Prop} {c : Bridge.Setting} {steps : List Step}
    (h : ∀ s ∈ steps, ∀ d, s.node.data = .bridge d →
      ∀ request, Bridge.routeRequest c s d = .ok request → P request.fromAmount) :
    (runBridges c steps).Asks (Request.IsBridging P) := by
  induction steps with
  | nil => exact Engine.asks_pure
  | cons s rest ih =>
    have hrest := ih fun t ht => h t (.tail _ ht)
    unfold runBridges
    split
    · next d hd =>
      apply Engine.asks_bind (Bridge.asks_executeStep (h s List.mem_cons_self d hd))
      intro result
      exact Engine.asks_bind hrest fun _ => Engine.asks_pure
    · exact hrest

theorem within_runBridges (c : Bridge.Setting) (steps : List Step) : (runBridges c steps).Within .bridging :=
  Engine.Asks.imp (asks_runBridges (P := fun _ => True) fun _ _ _ _ _ _ => trivial) fun _ hq => hq.phase

end LedgerFlow
