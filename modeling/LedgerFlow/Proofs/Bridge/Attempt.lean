import LedgerFlow.Bridge.Execution
import LedgerFlow.Proofs.Exchange

namespace LedgerFlow

open Program (yields_done)
open Bridge

def RouteUpdate.parts (u : RouteUpdate) : List BridgeProcess :=
  u.processes.filterMap fun v => (BridgeProcess.decode v).toExcept.toOption

def RouteUpdate.hash? (u : RouteUpdate) : Option String := u.parts.findSome? BridgeProcess.hash?

def RouteExecution.hash? (x : RouteExecution) : Option String := x.updates.findSome? RouteUpdate.hash?

def RouteUpdate.isWellFormed (u : RouteUpdate) : Bool := u.processes.all fun v => (BridgeProcess.decode v).toExcept.isOk

def RouteExecution.isWellFormed (x : RouteExecution) : Bool := x.updates.all RouteUpdate.isWellFormed

namespace Exchange

def hash? : Exchange → Option String
  | ⟨.executeRoute _, execution⟩ => RouteExecution.hash? execution
  | _ => none

def isWellFormed : Exchange → Bool
  | ⟨.executeRoute _, execution⟩ => RouteExecution.isWellFormed execution
  | _ => true

def isRouting (e : Exchange) : Bool :=
  match e.request with
  | .routes _ => true
  | .executeRoute _ => true
  | _ => false

def isPublication (e : Exchange) : Bool :=
  match e.request with
  | .publish _ => true
  | _ => false

def publication (status : BridgeStatus) : Exchange := ⟨.publish status, ()⟩

def routeRequest? : Exchange → Option RouteRequest
  | ⟨.routes request, _⟩ => some request
  | _ => none

def route? : Exchange → Option Route
  | ⟨.executeRoute route, _⟩ => some route
  | _ => none

def execution? : Exchange → Option RouteExecution
  | ⟨.executeRoute _, execution⟩ => some execution
  | _ => none

def status? : Exchange → Option BridgeStatus
  | ⟨.publish status, _⟩ => some status
  | _ => none

theorem isRouting_of_isPublication {e : Exchange} (h : e.isPublication = true) : e.isRouting = false := by
  obtain ⟨request, answer⟩ := e
  cases request <;> first | rfl | cases h

theorem hash?_of_isPublication {e : Exchange} (h : e.isPublication = true) : e.hash? = none := by
  obtain ⟨request, answer⟩ := e
  cases request <;> first | rfl | cases h

end Exchange

namespace Bridge

open Exchange (publication)

def asked (es : List Exchange) : List RouteRequest := es.filterMap Exchange.routeRequest?

def carried (es : List Exchange) : List Route := es.filterMap Exchange.route?

def executions (es : List Exchange) : List RouteExecution := es.filterMap Exchange.execution?

def published (es : List Exchange) : List BridgeStatus := es.filterMap Exchange.status?

section

variable {es es₁ es₂ : List Exchange}

@[simp] theorem asked_append : asked (es₁ ++ es₂) = asked es₁ ++ asked es₂ := List.filterMap_append

@[simp] theorem carried_append : carried (es₁ ++ es₂) = carried es₁ ++ carried es₂ := List.filterMap_append

@[simp] theorem executions_append : executions (es₁ ++ es₂) = executions es₁ ++ executions es₂ :=
  List.filterMap_append

@[simp] theorem published_append : published (es₁ ++ es₂) = published es₁ ++ published es₂ :=
  List.filterMap_append

theorem asked_of_isPublication (h : ∀ e ∈ es, e.isPublication = true) :
    asked es = [] ∧ carried es = [] ∧ executions es = [] := by
  refine ⟨List.filterMap_eq_nil_iff.2 ?_, List.filterMap_eq_nil_iff.2 ?_, List.filterMap_eq_nil_iff.2 ?_⟩ <;>
  · rintro ⟨request, answer⟩ he
    have hp := h _ he
    cases request <;> first | rfl | cases hp

end

theorem mapM_decodeProcess (wording : Schema.Wording) {vs : List Json}
    (h : (vs.all fun v => (BridgeProcess.decode v).toExcept.isOk) = true) :
    vs.mapM (decodeProcess wording) = .ok (vs.filterMap fun v => (BridgeProcess.decode v).toExcept.toOption) := by
  induction vs with
  | nil => rfl
  | cons v rest ih =>
    obtain ⟨hv, hrest⟩ : (BridgeProcess.decode v).toExcept.isOk = true ∧
        (rest.all fun v => (BridgeProcess.decode v).toExcept.isOk) = true := by simpa using h
    cases hd : (BridgeProcess.decode v).toExcept with
    | error f => simp [hd, Except.isOk, Except.toBool] at hv
    | ok part =>
      have hok : decodeProcess wording v = .ok part := by
        rw [decodeProcess, Schema.Checked.orFault, hd]
        rfl
      rw [List.mapM_cons, ih hrest, hok]
      simp [hd, Except.toOption]
      rfl

def Progress.after (p : Progress) (u : RouteUpdate) : Progress where
  status := { p.status with
    phase := derivePhase u.parts
    processes := u.parts
    tool := (u.tool.filter fun t => !t.isEmpty).or p.status.tool }
  sourceHash := p.sourceHash.or u.hash?

theorem report_eq_ok (wording : Schema.Wording) (p : Progress) {u : RouteUpdate} (h : u.isWellFormed = true) :
    p.report wording u = .ok (p.after u) := by
  rw [Progress.report, mapM_decodeProcess wording h]
  rfl

theorem yields_publish {status : BridgeStatus} {es : List Exchange} {a : Unit} :
    (publish status).Yields es a ↔ es = [publication status] := by
  have h : (publish status).Yields es a ↔
      ((Engine.publish status).run.bind fun _ => .done ()).Yields es a := Iff.rfl
  rw [h, Program.yields_bind]
  constructor
  · rintro ⟨es₁, es₂, x, rfl, hp, hd⟩
    obtain ⟨rfl, rfl⟩ := Engine.yields_publish.1 hp
    obtain ⟨rfl, -⟩ := yields_done.1 hd
    rfl
  · rintro rfl
    exact ⟨_, [], .ok (), rfl, Engine.yields_publish.2 ⟨rfl, rfl⟩, .done _⟩

theorem isPublication_of_follow {wording : Schema.Wording} {us : List RouteUpdate} {p q : Progress}
    {f : Option Fault} {es : List Exchange} (h : (follow wording p us).Yields es (q, f)) :
    ∀ e ∈ es, e.isPublication = true := by
  induction us generalizing p es with
  | nil =>
    obtain ⟨rfl, -⟩ := yields_done.1 h
    simp
  | cons u rest ih =>
    rw [follow] at h
    cases hu : p.report wording u with
    | error f =>
      rw [hu] at h
      obtain ⟨rfl, -⟩ := yields_done.1 h
      simp
    | ok next =>
      rw [hu] at h
      obtain ⟨es₁, es₂, _, rfl, hp, hf⟩ := Program.yields_bind.1 h
      obtain rfl := yields_publish.1 hp
      intro e he
      cases he with
      | head => rfl
      | tail _ he => exact ih hf e he

theorem follow_of_isWellFormed {wording : Schema.Wording} {us : List RouteUpdate} {p q : Progress} {f : Option Fault}
    {es : List Exchange} (hw : us.all RouteUpdate.isWellFormed = true) (h : (follow wording p us).Yields es (q, f)) :
    q = us.foldl Progress.after p ∧ q.sourceHash = p.sourceHash.or (us.findSome? RouteUpdate.hash?) ∧
      f = none := by
  induction us generalizing p es with
  | nil =>
    obtain ⟨-, hq⟩ := yields_done.1 h
    cases hq
    simp
  | cons u rest ih =>
    obtain ⟨hu, hrest⟩ : u.isWellFormed = true ∧ rest.all RouteUpdate.isWellFormed = true := by
      simpa using hw
    rw [follow, report_eq_ok wording p hu] at h
    obtain ⟨_, _, _, -, -, hf⟩ := Program.yields_bind.1 h
    obtain ⟨hq, hs, hn⟩ := ih hrest hf
    refine ⟨hq, ?_, hn⟩
    rw [hs, Progress.after, Option.or_assoc, List.findSome?_cons]
    cases u.hash? <;> rfl

def Progress.start (status : BridgeStatus) (route : Route) : Progress :=
  ⟨{ status with tool := some route.tool }, none⟩

theorem follow_of_attempt {wording : Schema.Wording} {status : BridgeStatus} {route : Route} {p : Progress}
    {f : Option Fault} {es : List Exchange} (h : (attempt wording status route).Yields es (p, f)) :
    ∃ (execution : RouteExecution) (es₁ : List Exchange) (bad : Option Fault),
      es = publication (Progress.start status route).status :: ⟨.executeRoute route, execution⟩ :: es₁ ∧
      (follow wording (.start status route) execution.updates).Yields es₁ (p, bad) ∧ f = bad.or execution.failure := by
  obtain ⟨_, _, _, rfl, hp, hm⟩ := Program.yields_bind.1 h
  obtain rfl := yields_publish.1 hp
  obtain ⟨_, _, _, rfl, hx, hk⟩ := Program.yields_bind.1 hm
  obtain ⟨execution, rfl, rfl⟩ := Engine.yields_executeRoute.1 hx
  obtain ⟨es₁, _, ⟨q, bad⟩, rfl, hq, hd⟩ := Program.yields_bind.1 hk
  obtain ⟨rfl, hpq⟩ := yields_done.1 hd
  cases hpq
  exact ⟨execution, es₁, bad, by rw [List.append_nil]; rfl, hq, rfl⟩

theorem attempt_exchanges {wording : Schema.Wording} {status : BridgeStatus} {route : Route} {p : Progress}
    {f : Option Fault} {es : List Exchange} (h : (attempt wording status route).Yields es (p, f)) :
    ∃ execution es₁, es = publication (Progress.start status route).status ::
        ⟨.executeRoute route, execution⟩ :: es₁ ∧
      (∀ e ∈ es₁, e.isPublication = true) ∧
      (execution.isWellFormed = true →
        p = execution.updates.foldl Progress.after (.start status route) ∧ p.sourceHash = execution.hash? ∧
        f = execution.failure) := by
  obtain ⟨execution, es₁, bad, rfl, hq, rfl⟩ := follow_of_attempt h
  refine ⟨execution, es₁, rfl, isPublication_of_follow hq, fun hw => ?_⟩
  obtain ⟨hp, hs, rfl⟩ := follow_of_isWellFormed hw hq
  exact ⟨hp, hs, rfl⟩

theorem requestRoute_exchanges {request : RouteRequest} {x : Except String Route} {es : List Exchange}
    (h : (requestRoute request).Yields es x) : ∃ answer, es = [⟨.routes request, answer⟩] := by
  obtain ⟨_, _, answer, rfl, ha, hk⟩ := Program.yields_bind.1 h
  obtain rfl := Engine.yields_routes.1 ha
  refine ⟨answer, ?_⟩
  rcases answer with f | ⟨_ | ⟨route, rest⟩⟩ <;> obtain ⟨rfl, -⟩ := yields_done.1 hk <;> rfl

theorem yields_finish {s : Step} {status : BridgeStatus} {hash : Option String} {r : RetryState}
    {es : List Exchange} {out : Except Fault BridgeResult} :
    (finish s status hash r).Yields es out ↔
      es = [publication status] ∧ out = .ok (result s status hash r) := by
  rw [finish, Engine.yields_bind]
  constructor
  · rintro (⟨es₁, es₂, a, rfl, hp, hr⟩ | ⟨f, -, hp⟩)
    · obtain ⟨rfl, -⟩ := Engine.yields_publish.1 hp
      obtain ⟨rfl, rfl⟩ := Engine.yields_pure.1 hr
      exact ⟨rfl, rfl⟩
    · exact nomatch (Engine.yields_publish.1 hp).2
  · rintro ⟨rfl, rfl⟩
    exact .inl ⟨_, [], (), rfl, Engine.yields_publish.2 ⟨rfl, rfl⟩, Engine.yields_pure.2 ⟨rfl, rfl⟩⟩

theorem yields_decline {s : Step} {p : Progress} {f : Fault} {es : List Exchange}
    {out : Except Fault BridgeResult} :
    (decline s p f).Yields es out ↔
      es = [publication { p.status with phase := .failed }] ∧
        out = .error (s.error .userRejected (.rejected f.text)) := by
  rw [decline, Engine.yields_bind]
  constructor
  · rintro (⟨es₁, es₂, a, rfl, hp, hr⟩ | ⟨f, -, hp⟩)
    · obtain ⟨rfl, -⟩ := Engine.yields_publish.1 hp
      obtain ⟨rfl, rfl⟩ := Engine.yields_throw.1 hr
      exact ⟨rfl, rfl⟩
    · exact nomatch (Engine.yields_publish.1 hp).2
  · rintro ⟨rfl, rfl⟩
    exact .inl ⟨_, [], (), rfl, Engine.yields_publish.2 ⟨rfl, rfl⟩, Engine.yields_throw.2 ⟨rfl, rfl⟩⟩

namespace Ending

variable {p : Progress} {f : Fault} {hash : String}

theorem of_eq_declined : Ending.of p f = .declined ↔ f.isUserRejection = true := by
  unfold Ending.of
  cases f.isUserRejection <;> cases p.sourceHash <;> cases f.isRetryable <;> simp

theorem of_eq_underWay : Ending.of p f = .underWay hash ↔ f.isUserRejection = false ∧ p.sourceHash = some hash := by
  unfold Ending.of
  cases f.isUserRejection <;> cases p.sourceHash <;> cases f.isRetryable <;> simp

theorem of_eq_failed :
    Ending.of p f = .failed ↔ f.isUserRejection = false ∧ p.sourceHash = none ∧ f.isRetryable = false := by
  unfold Ending.of
  cases f.isUserRejection <;> cases p.sourceHash <;> cases f.isRetryable <;> simp

theorem of_eq_retry :
    Ending.of p f = .retry ↔ f.isUserRejection = false ∧ p.sourceHash = none ∧ f.isRetryable = true := by
  unfold Ending.of
  cases f.isUserRejection <;> cases p.sourceHash <;> cases f.isRetryable <;> simp

end Ending

def Progress.completion (c : Setting) (p : Progress) : BridgeStatus :=
  if p.status.phase = .failed then failedWith p.status "Bridge execution failed"
  else match p.sourceHash with
    | none => { p.status with phase := .done }
    | some hash => { p.status with phase := .done, trackingUrl := some (c.trackingBase ++ hash) }

theorem complete_eq (c : Setting) (s : Step) (p : Progress) (r : RetryState) :
    complete c s p r = finish s (p.completion c) p.sourceHash r := by
  unfold complete Progress.completion
  split
  · rfl
  · cases p.sourceHash <;> rfl

def Progress.departure (c : Setting) (p : Progress) (hash : String) : BridgeStatus :=
  { p.status with phase := .bridging, trackingUrl := some (c.trackingBase ++ hash) }

/-- How routes are tried, with the exchanges that it takes and what comes of it. The number is that of the
attempts which may follow the next one. -/
inductive Tried (c : Setting) (s : Step) (request : RouteRequest) (status : BridgeStatus) :
    RetryState → Nat → List Exchange → Except Fault BridgeResult → Prop
  | noRoute {r : RetryState} {left : Nat} {es : List Exchange} {why : String}
      (hr : (requestRoute { request with denyBridges := r.denied }).Yields es (.error why)) :
      Tried c s request status r left (es ++ [publication (failedWith status why)])
        (.ok (result s (failedWith status why) none r.requested))
  | completed {r : RetryState} {left : Nat} {es₁ es₂ : List Exchange} {route : Route} {p : Progress}
      (hr : (requestRoute { request with denyBridges := r.denied }).Yields es₁ (.ok route))
      (ha : (attempt c.wording status route).Yields es₂ (p, none)) :
      Tried c s request status r left (es₁ ++ (es₂ ++ [publication (p.completion c)]))
        (.ok (result s (p.completion c) p.sourceHash r.requested))
  | declined {r : RetryState} {left : Nat} {es₁ es₂ : List Exchange} {route : Route} {p : Progress} {f : Fault}
      (hr : (requestRoute { request with denyBridges := r.denied }).Yields es₁ (.ok route))
      (ha : (attempt c.wording status route).Yields es₂ (p, some f)) (hf : Ending.of p f = .declined) :
      Tried c s request status r left (es₁ ++ (es₂ ++ [publication { p.status with phase := .failed }]))
        (.error (s.error .userRejected (.rejected f.text)))
  | underWay {r : RetryState} {left : Nat} {es₁ es₂ : List Exchange} {route : Route} {p : Progress} {f : Fault}
      {hash : String} (hr : (requestRoute { request with denyBridges := r.denied }).Yields es₁ (.ok route))
      (ha : (attempt c.wording status route).Yields es₂ (p, some f)) (hf : Ending.of p f = .underWay hash) :
      Tried c s request status r left (es₁ ++ (es₂ ++ [publication (p.departure c hash)]))
        (.ok (result s (p.departure c hash) (some hash) r.requested))
  | failed {r : RetryState} {left : Nat} {es₁ es₂ : List Exchange} {route : Route} {p : Progress} {f : Fault}
      (hr : (requestRoute { request with denyBridges := r.denied }).Yields es₁ (.ok route))
      (ha : (attempt c.wording status route).Yields es₂ (p, some f)) (hf : Ending.of p f = .failed) :
      Tried c s request status r left (es₁ ++ (es₂ ++ [publication (failedWith p.status f.text)]))
        (.ok (result s (failedWith p.status f.text) none r.requested))
  | exhausted {r : RetryState} {es₁ es₂ : List Exchange} {route : Route} {p : Progress} {f : Fault}
      (hr : (requestRoute { request with denyBridges := r.denied }).Yields es₁ (.ok route))
      (ha : (attempt c.wording status route).Yields es₂ (p, some f)) (hf : Ending.of p f = .retry) :
      Tried c s request status r 0
        (es₁ ++ (es₂ ++ [publication (failedWith p.status (Bridge.exhausted r.requested f))]))
        (.ok (result s (failedWith p.status (Bridge.exhausted r.requested f)) none r.requested))
  | retried {r : RetryState} {left : Nat} {es₁ es₂ es₃ : List Exchange} {route : Route} {p : Progress} {f : Fault}
      {out : Except Fault BridgeResult}
      (hr : (requestRoute { request with denyBridges := r.denied }).Yields es₁ (.ok route))
      (ha : (attempt c.wording status route).Yields es₂ (p, some f)) (hf : Ending.of p f = .retry)
      (rest : Tried c s request status (r.requested.afterFailure route.tool) left es₃ out) :
      Tried c s request status r (left + 1) (es₁ ++ (es₂ ++ es₃)) out

theorem tried_of_yields {c : Setting} {s : Step} {request : RouteRequest} {status : BridgeStatus} {r : RetryState}
    {left : Nat} {es : List Exchange} {out : Except Fault BridgeResult}
    (h : (tryRoutes c s request status r left).Yields es out) : Tried c s request status r left es out := by
  induction left using Nat.strongRecOn generalizing r es with
  | ind left ih =>
    rw [tryRoutes.eq_def, Engine.yields_bind] at h
    obtain ⟨es₁, es', x, rfl, hl, hx⟩ | ⟨f, -, hl⟩ := h
    case inr => exact nomatch (Engine.yields_lift.1 hl).choose_spec.1
    obtain ⟨x, ⟨⟩, hr⟩ := Engine.yields_lift.1 hl
    cases x with
    | error why =>
      obtain ⟨rfl, rfl⟩ := yields_finish.1 hx
      exact .noRoute hr
    | ok route =>
      obtain ⟨es₂, es₃, y, rfl, hl, hy⟩ | ⟨f, -, hl⟩ := Engine.yields_bind.1 hx
      case inr => exact nomatch (Engine.yields_lift.1 hl).choose_spec.1
      obtain ⟨⟨p, end?⟩, ⟨⟩, ha⟩ := Engine.yields_lift.1 hl
      cases end? with
      | none =>
        simp only [complete_eq] at hy
        obtain ⟨rfl, rfl⟩ := yields_finish.1 hy
        exact .completed hr ha
      | some f =>
        cases hf : Ending.of p f with
        | declined =>
          simp only [hf] at hy
          obtain ⟨rfl, rfl⟩ := yields_decline.1 hy
          exact .declined hr ha hf
        | underWay hash =>
          simp only [hf] at hy
          obtain ⟨rfl, rfl⟩ := yields_finish.1 hy
          exact .underWay hr ha hf
        | failed =>
          simp only [hf] at hy
          obtain ⟨rfl, rfl⟩ := yields_finish.1 hy
          exact .failed hr ha hf
        | retry =>
          simp only [hf] at hy
          cases left with
          | zero =>
            obtain ⟨rfl, rfl⟩ := yields_finish.1 hy
            exact .exhausted hr ha hf
          | succ left => exact .retried hr ha hf (ih left left.lt_succ_self hy)

theorem yields_executeStep {c : Setting} {s : Step} {d : BridgeData} {es : List Exchange}
    {out : Except Fault BridgeResult} (h : (executeStep c s d).Yields es out) :
    (∃ f, routeRequest c s d = .error f ∧ es = [] ∧ out = .error f) ∨
      ∃ request es', routeRequest c s d = .ok request ∧ es = publication (initialStatus d) :: es' ∧
        Tried c s request (initialStatus d) .first (c.maxAttempts - 1).toNat es' out := by
  rw [executeStep, Engine.yields_bind] at h
  obtain ⟨es₁, es', request, rfl, hr, hp⟩ | ⟨f, rfl, hr⟩ := h
  · obtain ⟨rfl, hrequest⟩ := Engine.yields_ofExcept.1 hr
    obtain ⟨es₂, es₃, u, rfl, hp, ht⟩ | ⟨f, -, hp⟩ := Engine.yields_bind.1 hp
    · obtain ⟨rfl, -⟩ := Engine.yields_publish.1 hp
      exact .inr ⟨request, es₃, hrequest.symm, rfl, tried_of_yields ht⟩
    · exact nomatch (Engine.yields_publish.1 hp).2
  · obtain ⟨rfl, hf⟩ := Engine.yields_ofExcept.1 hr
    exact .inl ⟨f, hf.symm, rfl, rfl⟩

end Bridge

end LedgerFlow
