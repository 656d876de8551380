import LedgerFlow.Proofs.Bridge.SourceTransaction

namespace LedgerFlow

theorem eraseDups_concat {α : Type} [BEq α] [LawfulBEq α] (as : List α) (a : α) :
    (as ++ [a]).eraseDups = if as.contains a then as.eraseDups else as.eraseDups ++ [a] := by
  rw [List.eraseDups_append]
  cases h : as.contains a <;> simp [List.removeAll, List.eraseDups_cons, h, -List.contains_eq_mem]

namespace Bridge

def providers (routes : List Route) : List String :=
  ((routes.map (·.tool)).filter fun tool => !tool.isEmpty).eraseDups

theorem providers_concat (routes : List Route) (route : Route) :
    providers (routes ++ [route]) = RetryState.deny (providers routes) route.tool := by
  unfold providers RetryState.deny
  rw [List.map_append, List.filter_append]
  cases he : route.tool.isEmpty with
  | true => simp [he]
  | false => simp [he, eraseDups_concat]

end Bridge

structure RetryState.Follows (r : RetryState) (failed : List Route) : Prop where
  attempt : r.attempt = failed.length + 1
  denied : r.denied = Bridge.providers failed
  requests : r.routeRequests = failed.length

namespace RetryState

theorem follows_first : first.Follows [] where
  attempt := rfl
  denied := rfl
  requests := rfl

theorem Follows.afterFailure {r : RetryState} {failed : List Route} (h : r.Follows failed) (route : Route) :
    (r.requested.afterFailure route.tool).Follows (failed ++ [route]) where
  attempt := by simp [RetryState.afterFailure, requested, h.attempt]
  denied := by rw [Bridge.providers_concat, ← h.denied]; rfl
  requests := by simp [RetryState.afterFailure, requested, h.requests]

end RetryState

namespace Bridge

open Exchange (publication)

section

variable {request : RouteRequest} {failed : List Route} {es es₁ es₂ : List Exchange}

/-- Each request for routes denies the providers of all routes carried out before it; as many were carried out as
were asked for. -/
def Denying (request : RouteRequest) (failed : List Route) (es : List Exchange) : Prop :=
  ∀ before q answer after, es = before ++ ⟨.routes q, answer⟩ :: after →
    (carried before).length = (asked before).length ∧
      q = { request with denyBridges := providers (failed ++ carried before) }

theorem denying_of_unasked (h : asked es = []) : Denying request failed es := by
  rintro before q answer after rfl
  simp [asked, Exchange.routeRequest?] at h

theorem denying_cons {answer : Except Fault (List Route)} (h : asked es = []) :
    Denying request failed
      (⟨.routes { request with denyBridges := providers failed }, answer⟩ :: es) := by
  intro before q answer' after heq
  cases before with
  | nil =>
    cases heq
    simp [asked, carried]
  | cons e before =>
    obtain ⟨-, rfl⟩ := List.cons_eq_cons.1 heq
    simp [asked, Exchange.routeRequest?] at h

theorem Denying.append (h₁ : Denying request failed es₁) (hb : (carried es₁).length = (asked es₁).length)
    (h₂ : Denying request (failed ++ carried es₁) es₂) : Denying request failed (es₁ ++ es₂) := by
  intro before q answer after heq
  obtain ⟨more, hbefore, hrest⟩ | ⟨more, hes, hrest⟩ := List.append_eq_append_iff.1 heq
  · obtain ⟨hlength, hq⟩ := h₂ more q answer after hrest
    rw [hbefore]
    refine ⟨by simp [hb, hlength], ?_⟩
    rw [hq, carried_append, List.append_assoc]
  · cases more with
    | nil =>
      obtain ⟨hlength, hq⟩ := h₂ [] q answer after hrest.symm
      rw [List.append_nil] at hes
      rw [← hes]
      exact ⟨hb, by rw [hq]; simp [carried]⟩
    | cons e more =>
      obtain ⟨rfl, rfl⟩ := List.cons_eq_cons.1 hrest
      exact h₁ before q answer more hes

end

section

variable {c : Setting} {s : Step} {wording : Schema.Wording} {request : RouteRequest} {status : BridgeStatus}
  {r : RetryState} {left : Nat}
  {failed : List Route} {route : Route} {p : Progress} {f : Option Fault} {es es₁ es₂ es₃ : List Exchange}
  {out : Except Fault BridgeResult}

theorem attempt_carried (h : (attempt wording status route).Yields es (p, f)) :
    asked es = [] ∧ carried es = [route] := by
  obtain ⟨execution, es₁, rfl, hes₁, -⟩ := attempt_exchanges h
  obtain ⟨ha, hc, -⟩ := asked_of_isPublication hes₁
  exact ⟨ha, congrArg (route :: ·) hc⟩

theorem round_carried (hr : (requestRoute { request with denyBridges := providers failed }).Yields es₁ (.ok route))
    (ha : (attempt wording status route).Yields es₂ (p, f)) :
    (asked (es₁ ++ es₂)).length = 1 ∧ carried (es₁ ++ es₂) = [route] ∧ Denying request failed (es₁ ++ es₂) := by
  obtain ⟨answer, rfl⟩ := requestRoute_exchanges hr
  obtain ⟨hasked, hcarried⟩ := attempt_carried ha
  refine ⟨?_, ?_, denying_cons hasked⟩
  · rw [asked_append, hasked]
    rfl
  · rw [carried_append, hcarried]
    rfl

structure Persists (request : RouteRequest) (failed : List Route) (limit : Nat) (es : List Exchange)
    (out : Except Fault BridgeResult) : Prop where
  carried_le : (carried es).length ≤ limit
  asked_le : (asked es).length ≤ limit
  denying : Denying request failed es
  counted : ∀ b, out = .ok b →
    b.attempts = (failed.length + (asked es).length : Nat) ∧
      b.routeRequests = (failed.length + (asked es).length : Nat)

theorem persists_unrouted (hf : r.Follows failed) {why : String}
    (hr : (requestRoute { request with denyBridges := r.denied }).Yields es (.error why)) (last : BridgeStatus) :
    Persists request failed (left + 1) (es ++ [publication last]) (.ok (result s last none r.requested)) := by
  rw [hf.denied] at hr
  obtain ⟨answer, rfl⟩ := requestRoute_exchanges hr
  refine ⟨Nat.zero_le _, Nat.le_add_left 1 left, denying_cons rfl, ?_⟩
  rintro b ⟨⟩
  have hasked : (asked ([⟨.routes { request with denyBridges := providers failed }, answer⟩] ++
      [publication last])).length = 1 := rfl
  rw [hasked]
  simp [result, RetryState.requested, hf.attempt, hf.requests]

theorem persists_last (hf : r.Follows failed)
    (hr : (requestRoute { request with denyBridges := r.denied }).Yields es₁ (.ok route))
    (ha : (attempt wording status route).Yields es₂ (p, f)) (last : BridgeStatus)
    (hout : ∀ b, out = .ok b → b.attempts = r.attempt ∧ b.routeRequests = r.requested.routeRequests) :
    Persists request failed (left + 1) (es₁ ++ (es₂ ++ [publication last])) out := by
  rw [hf.denied] at hr
  obtain ⟨hasked, hcarried, hdenying⟩ := round_carried hr ha
  have hbalance : (carried (es₁ ++ es₂)).length = (asked (es₁ ++ es₂)).length := by
    rw [hasked, hcarried]
    rfl
  have hlast : (asked (es₁ ++ es₂ ++ [publication last])).length = 1 := by
    rw [asked_append, List.length_append, hasked]
    rfl
  rw [← List.append_assoc]
  refine ⟨?_, by omega, hdenying.append hbalance (denying_of_unasked rfl), ?_⟩
  · rw [carried_append, hcarried]
    exact Nat.le_add_left 1 left
  · intro b hb
    obtain ⟨hattempts, hrequests⟩ := hout b hb
    rw [hlast, hattempts, hrequests]
    simp [RetryState.requested, hf.attempt, hf.requests]

theorem persists_tried (h : Tried c s request status r left es out) (hf : r.Follows failed) :
    Persists request failed (left + 1) es out := by
  induction h generalizing failed with
  | noRoute hr => exact persists_unrouted hf hr _
  | completed hr ha => exact persists_last hf hr ha _ (by rintro b ⟨⟩; exact ⟨rfl, rfl⟩)
  | declined hr ha _ => exact persists_last hf hr ha _ (by rintro b ⟨⟩)
  | underWay hr ha _ => exact persists_last hf hr ha _ (by rintro b ⟨⟩; exact ⟨rfl, rfl⟩)
  | failed hr ha _ => exact persists_last hf hr ha _ (by rintro b ⟨⟩; exact ⟨rfl, rfl⟩)
  | exhausted hr ha _ => exact persists_last hf hr ha _ (by rintro b ⟨⟩; exact ⟨rfl, rfl⟩)
  | @retried r left es₁ es₂ es₃ route p f out hr ha _ _ ih =>
    -- One more route has failed, and the rounds after this one count it among those before them.
    rw [hf.denied] at hr
    obtain ⟨hasked, hcarried, hdenying⟩ := round_carried hr ha
    have hrest := ih (hf.afterFailure route)
    have hbalance : (carried (es₁ ++ es₂)).length = (asked (es₁ ++ es₂)).length := by
      rw [hasked, hcarried]
      rfl
    rw [← List.append_assoc]
    refine ⟨?_, ?_, hdenying.append hbalance (hcarried ▸ hrest.denying), ?_⟩
    · have := hrest.carried_le
      rw [carried_append, hcarried, List.length_append, List.length_singleton]
      omega
    · have := hrest.asked_le
      rw [asked_append, List.length_append, hasked]
      omega
    · intro b hb
      have hsum : failed.length + (asked (es₁ ++ es₂ ++ es₃)).length =
          (failed ++ [route]).length + (asked es₃).length := by
        rw [asked_append, List.length_append, hasked, List.length_append, List.length_singleton]
        omega
      rw [hsum]
      exact hrest.counted b hb

end

theorem denyBridges_of_routeRequest {c : Setting} {s : Step} {d : BridgeData} {request : RouteRequest}
    (h : routeRequest c s d = .ok request) : request.denyBridges = [] := by
  obtain ⟨chain, -, h⟩ := except_bind_eq_ok.1 h
  obtain ⟨asset, -, h⟩ := except_bind_eq_ok.1 h
  obtain ⟨ends, -, h⟩ := except_bind_eq_ok.1 h
  cases ends with
  | none => cases h
  | some ends =>
    obtain ⟨amount, -, h⟩ := except_bind_eq_ok.1 h
    obtain ⟨text, -, h⟩ := except_bind_eq_ok.1 h
    cases hd : d.ethereumAddress.map c.names.lookup with
    | none =>
      simp only [hd] at h
      cases h
    | some destination =>
      simp only [hd] at h
      cases h
      rfl

structure Turn where
  step : Step
  exchanges : List Exchange
  outcome : Except Fault BridgeResult

namespace Turn

def Executes (c : Setting) (t : Turn) : Prop :=
  ∃ d, t.step.node.data = .bridge d ∧ (executeStep c t.step d).Yields t.exchanges t.outcome

/-- The routing service is asked at most so often. Its first request denies no provider, each one after it those that
have failed by then, and the result tells how many requests there were. -/
structure Persistent (limit : Int) (t : Turn) : Prop where
  carried_le : (carried t.exchanges).length ≤ limit
  asked_le : (asked t.exchanges).length ≤ limit
  first : ∀ q, (asked t.exchanges).head? = some q → q.denyBridges = [] ∧ Denying q [] t.exchanges
  counted : ∀ b, t.outcome = .ok b →
    b.attempts = (asked t.exchanges).length ∧ b.routeRequests = (asked t.exchanges).length

end Turn

theorem eq_of_head?_asked {request q : RouteRequest} {es : List Exchange} (hd : request.denyBridges = [])
    (h : Denying request [] es) (hq : (asked es).head? = some q) : q = request := by
  obtain ⟨rest, hrest⟩ := List.head?_eq_some_iff.1 hq
  obtain ⟨before, e, after, rfl, hbefore, he, -⟩ := List.filterMap_eq_cons_iff.1 hrest
  obtain ⟨_, answer⟩ := e
  unfold Exchange.routeRequest? at he
  split at he
  · next answer heq =>
    cases heq
    cases he
    have hasked : asked before = [] := List.filterMap_eq_nil_iff.2 hbefore
    obtain ⟨hlength, hq⟩ := h before _ answer after rfl
    have hcarried : carried before = [] := by simpa [hasked] using hlength
    rw [hq, hcarried]
    cases request
    cases hd
    rfl
  · cases he

theorem persistent_of_executes {c : Setting} {t : Turn} (hc : 1 ≤ c.maxAttempts) (h : t.Executes c) :
    t.Persistent c.maxAttempts := by
  obtain ⟨step, es, out⟩ := t
  obtain ⟨d, -, h⟩ := h
  rw [executeStep, Engine.yields_bind] at h
  obtain ⟨es₁, es', request, rfl, hr, hp⟩ | ⟨f, rfl, hr⟩ := h
  · obtain ⟨rfl, hrequest⟩ := Engine.yields_ofExcept.1 hr
    have hd := denyBridges_of_routeRequest hrequest.symm
    obtain ⟨es₂, es₃, u, rfl, hp, ht⟩ | ⟨f, -, hp⟩ := Engine.yields_bind.1 hp
    · obtain ⟨rfl, -⟩ := Engine.yields_publish.1 hp
      have htried := persists_tried (tried_of_yields ht) RetryState.follows_first
      have hdenying : Denying request [] ([publication (initialStatus d)] ++ es₃) :=
        (denying_of_unasked rfl).append rfl htried.denying
      have hleft : ((c.maxAttempts - 1).toNat + 1 : Nat) = c.maxAttempts := by omega
      have hcounted : ∀ b, out = .ok b → b.attempts = (asked es₃).length ∧ b.routeRequests = (asked es₃).length := by
        simpa using htried.counted
      refine ⟨?_, ?_, ?_, ?_⟩
      · exact le_of_le_of_eq (Int.ofNat_le.2 htried.carried_le) hleft
      · exact le_of_le_of_eq (Int.ofNat_le.2 htried.asked_le) hleft
      · intro q hq
        obtain rfl := eq_of_head?_asked hd hdenying hq
        exact ⟨hd, hdenying⟩
      · exact hcounted
    · cases (Engine.yields_publish.1 hp).2
  · obtain ⟨rfl, -⟩ := Engine.yields_ofExcept.1 hr
    refine ⟨?_, ?_, ?_, ?_⟩
    · exact Int.le_trans (Int.zero_le_ofNat 0) (Int.le_of_lt hc)
    · exact Int.le_trans (Int.zero_le_ofNat 0) (Int.le_of_lt hc)
    · rintro q ⟨⟩
    · rintro b ⟨⟩

/-- A run of bridges goes from one to the next, and stops only where one ends in a failure. -/
structure Runs (c : Setting) (steps : List Step) (turns : List Turn) (es : List Exchange)
    (out : Except Fault (List BridgeResult)) : Prop where
  exchanges : es = turns.flatMap (·.exchanges)
  outcome : out = turns.mapM (·.outcome)
  executes : ∀ t ∈ turns, t.Executes c
  order : turns.map (·.step) <+: steps.filter (·.isBridge)
  complete : ∀ bs, out = .ok bs → turns.map (·.step) = steps.filter (·.isBridge)

theorem Runs.cons {c : Setting} {s : Step} {rest : List Step} {turns : List Turn} {es₁ es₂ : List Exchange}
    {b : BridgeResult} {out : Except Fault (List BridgeResult)} (hs : s.isBridge = true)
    (hb : Turn.Executes c ⟨s, es₁, .ok b⟩) (h : Runs c rest turns es₂ out) :
    Runs c (s :: rest) (⟨s, es₁, .ok b⟩ :: turns) (es₁ ++ es₂) (out.map (b :: ·)) where
  exchanges := by simp [h.exchanges]
  outcome := by
    rw [h.outcome, List.mapM_cons]
    cases turns.mapM (·.outcome) <;> rfl
  executes := by simpa using ⟨hb, h.executes⟩
  order := by simpa [hs] using h.order
  complete := by
    intro bs hbs
    cases out with
    | error f => cases hbs
    | ok bs => simpa [hs] using h.complete bs rfl

end Bridge

open Bridge

theorem runs_of_yields {c : Bridge.Setting} {steps : List Step} {es : List Exchange}
    {out : Except Fault (List BridgeResult)} (h : (runBridges c steps).Yields es out) :
    ∃ turns, Runs c steps turns es out ∧ turns.Pairwise fun earlier _ => ∃ b, earlier.outcome = .ok b := by
  induction steps generalizing es out with
  | nil =>
    obtain ⟨rfl, rfl⟩ := Engine.yields_pure.1 h
    exact ⟨[], ⟨rfl, rfl, by simp, by simp, by simp⟩, .nil⟩
  | cons s rest ih =>
    cases hd : s.node.data with
    | bridge d =>
      have hs : s.isBridge = true := by simp [Step.isBridge, Node.isBridge, hd]
      simp only [runBridges, hd] at h
      obtain ⟨es₁, es₂, b, rfl, hb, hk⟩ | ⟨f, rfl, hb⟩ := Engine.yields_bind.1 h
      · have hexecutes : Turn.Executes c ⟨s, es₁, .ok b⟩ := ⟨d, hd, hb⟩
        obtain ⟨es₃, es₄, bs, rfl, hbs, hr⟩ | ⟨f, rfl, hf⟩ := Engine.yields_bind.1 hk
        · obtain ⟨rfl, rfl⟩ := Engine.yields_pure.1 hr
          obtain ⟨turns, hruns, hgave⟩ := ih hbs
          rw [List.append_nil]
          exact ⟨_, hruns.cons hs hexecutes, hgave.cons fun _ _ => ⟨b, rfl⟩⟩
        · obtain ⟨turns, hruns, hgave⟩ := ih hf
          exact ⟨_, hruns.cons hs hexecutes, hgave.cons fun _ _ => ⟨b, rfl⟩⟩
      · refine ⟨[⟨s, es, .error f⟩], ⟨by simp, rfl, ?_, by simp [hs], by simp⟩, List.pairwise_singleton _ _⟩
        intro t ht
        obtain rfl := List.mem_singleton.1 ht
        exact ⟨d, hd, hb⟩
    | _ =>
      have hs : s.isBridge = false := by simp [Step.isBridge, Node.isBridge, hd]
      simp only [runBridges, hd] at h
      obtain ⟨turns, hruns, hgave⟩ := ih h
      refine ⟨turns, ⟨hruns.exchanges, hruns.outcome, hruns.executes, ?_, ?_⟩, hgave⟩
      · simpa [hs] using hruns.order
      · simpa [hs] using hruns.complete

theorem runBridges_persistent {σ : Type} (answer : (r : Request) → σ → r.Answer × σ) (state : σ)
    {c : Bridge.Setting} (hc : 1 ≤ c.maxAttempts) (steps : List Step) :
    ∃ turns, Runs c steps turns ((runBridges c steps).run.exchanges answer state)
        ((runBridges c steps).run.run answer state).1 ∧
      ∀ t ∈ turns, t.Persistent c.maxAttempts := by
  obtain ⟨turns, hruns, -⟩ := runs_of_yields (Program.yields_run answer (runBridges c steps).run state)
  exact ⟨turns, hruns, fun t ht => persistent_of_executes hc (hruns.executes t ht)⟩

theorem runBridges_persistent_twoAttempts :
    1 ≤ crossingSetting.maxAttempts ∧
      ∃ turns es out, Runs crossingSetting [.of 0 (.bridge crossing)] turns es out ∧
        (∀ t ∈ turns, t.Persistent crossingSetting.maxAttempts) ∧
        es = (runBridges crossingSetting [.of 0 (.bridge crossing)]).run.exchanges Rehearsal.answer
          (.create twoAttempts) ∧
        (asked es).map (·.denyBridges) = [[], ["across"]] ∧ (carried es).map (·.tool) = ["across", "stargate"] ∧
        out.toOption.map (·.map fun b => (b.attempts, b.routeRequests)) = some [(2, 2)] := by
  have hattempts : 1 ≤ crossingSetting.maxAttempts := by decide +kernel
  obtain ⟨turns, hruns, hpersistent⟩ :=
    runBridges_persistent Rehearsal.answer (.create twoAttempts) hattempts [.of 0 (.bridge crossing)]
  exact ⟨hattempts, turns, _, _, hruns, hpersistent, rfl, by decide +kernel, by decide +kernel, by decide +kernel⟩

end LedgerFlow
