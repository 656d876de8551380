import LedgerFlow.Proofs.Bridge.SourceTransaction

namespace LedgerFlow

structure BridgeStatus.Clear (status : BridgeStatus) : Prop where
  error : status.error = none
  trackingUrl : status.trackingUrl = none

namespace Bridge

open Exchange (publication)

theorem Progress.clear_foldl_after {p : Progress} (h : p.status.Clear) (us : List RouteUpdate) :
    (us.foldl Progress.after p).status.Clear := by
  induction us generalizing p with
  | nil => exact h
  | cons u us ih => exact ih ⟨h.error, h.trackingUrl⟩

theorem Progress.phase_foldl_after {p : Progress} {us : List RouteUpdate} {u : RouteUpdate} (h : us.getLast? = some u) :
    (us.foldl Progress.after p).status.phase = derivePhase u.parts := by
  obtain ⟨before, rfl⟩ := List.getLast?_eq_some_iff.1 h
  rw [List.foldl_append]
  rfl

structure Attempted (x : RouteExecution) (p : Progress) (f : Option Fault) : Prop where
  hash : p.sourceHash = x.hash?
  failure : f = x.failure
  clear : p.status.Clear
  phase : ∀ u, x.updates.getLast? = some u → p.status.phase = derivePhase u.parts

/-- What a bridge can end with when its last attempt went like this. -/
structure Concludes (c : Setting) (last : Option RouteExecution) (status : BridgeStatus) (hash : Option String) :
    Prop where
  phase : status.phase = .done ∨ status.phase = .bridging ∨ status.phase = .failed
  source : hash = last.bind RouteExecution.hash?
  bridging : status.phase = .bridging →
    status.error = none ∧ ∃ found, hash = some found ∧ status.trackingUrl = some (c.trackingBase ++ found)
  done : status.phase = .done →
    status.error = none ∧ status.trackingUrl = hash.map (c.trackingBase ++ ·) ∧
      ∃ x, last = some x ∧ x.failure = none ∧ ∀ u, x.updates.getLast? = some u → derivePhase u.parts ≠ .failed
  failed : status.phase = .failed → status.error.isSome = true ∧ status.trackingUrl = none

section

variable {c : Setting} {s : Step} {wording : Schema.Wording} {request : RouteRequest} {status : BridgeStatus}
  {r : RetryState} {left : Nat}
  {last : Option RouteExecution} {x : RouteExecution} {route : Route} {p : Progress} {f : Option Fault}
  {hash : Option String} {why : String} {es es₁ es₂ : List Exchange} {out : Except Fault BridgeResult}

theorem concludes_failed (h : status.Clear) (hhash : hash = last.bind RouteExecution.hash?) :
    Concludes c last (failedWith status why) hash where
  phase := .inr (.inr rfl)
  source := hhash
  bridging := by rintro ⟨⟩
  done := by rintro ⟨⟩
  failed := fun _ => ⟨rfl, h.trackingUrl⟩

theorem concludes_completion (h : Attempted x p none) :
    Concludes c (some x) (p.completion c) p.sourceHash := by
  unfold Progress.completion
  split
  · exact concludes_failed h.clear h.hash
  · next hphase =>
    have hlast : ∃ y, some x = some y ∧ y.failure = none ∧
        ∀ u, y.updates.getLast? = some u → derivePhase u.parts ≠ .failed :=
      ⟨x, rfl, h.failure.symm, fun u hu => h.phase u hu ▸ hphase⟩
    have hhash := h.hash
    cases hs : p.sourceHash with
    | none =>
      rw [hs] at hhash
      exact ⟨.inl rfl, hhash, by rintro ⟨⟩, fun _ => ⟨h.clear.error, h.clear.trackingUrl, hlast⟩, by rintro ⟨⟩⟩
    | some found =>
      rw [hs] at hhash
      exact ⟨.inl rfl, hhash, by rintro ⟨⟩, fun _ => ⟨h.clear.error, rfl, hlast⟩, by rintro ⟨⟩⟩

theorem concludes_departure {found : String} (h : Attempted x p f) (hs : p.sourceHash = some found) :
    Concludes c (some x) (p.departure c found) (some found) where
  phase := .inr (.inl rfl)
  source := hs.symm.trans h.hash
  bridging := fun _ => ⟨h.clear.error, found, rfl, rfl⟩
  done := by rintro ⟨⟩
  failed := by rintro ⟨⟩

theorem Concludes.after (h : Concludes c last status hash) (hx : x.hash? = none) :
    Concludes c (last.or (some x)) status hash := by
  cases last with
  | some y => exact h
  | none =>
    refine ⟨h.phase, h.source.trans hx.symm, h.bridging, fun hdone => ?_, h.failed⟩
    obtain ⟨-, -, y, hy, -⟩ := h.done hdone
    cases hy

theorem attempted_of_yields (hstatus : status.Clear) (h : (attempt wording status route).Yields es (p, f))
    (hw : ∀ e ∈ es, e.isWellFormed = true) : ∃ x, executions es = [x] ∧ Attempted x p f := by
  obtain ⟨x, es₁, rfl, hes₁, hx⟩ := attempt_exchanges h
  have hxw : x.isWellFormed = true := hw ⟨.executeRoute route, x⟩ (by simp)
  obtain ⟨rfl, hhash, hf⟩ := hx hxw
  obtain ⟨-, -, hexecutions⟩ := asked_of_isPublication hes₁
  have hstart : (Progress.start status route).status.Clear := ⟨hstatus.error, hstatus.trackingUrl⟩
  exact ⟨x, congrArg (x :: ·) hexecutions, hhash, hf, Progress.clear_foldl_after hstart _,
    fun u hu => Progress.phase_foldl_after hu⟩

theorem getLast?_published (es : List Exchange) (status : BridgeStatus) :
    (published (es ++ [publication status])).getLast? = some status := by
  rw [published_append]
  exact List.getLast?_concat

theorem executions_round (hr : (requestRoute request).Yields es₁ (.ok route)) :
    executions (es₁ ++ (es₂ ++ es)) = executions es₂ ++ executions es := by
  obtain ⟨answer, rfl⟩ := requestRoute_exchanges hr
  rw [executions_append, executions_append]
  rfl

theorem ended_round (hstatus : status.Clear) (hr : (requestRoute request).Yields es₁ (.ok route))
    (ha : (attempt wording status route).Yields es₂ (p, f)) (final : BridgeStatus)
    (hw : ∀ e ∈ es₁ ++ (es₂ ++ [publication final]), e.isWellFormed = true) :
    (published (es₁ ++ (es₂ ++ [publication final]))).getLast? = some final ∧
      ∃ x, (executions (es₁ ++ (es₂ ++ [publication final]))).getLast? = some x ∧ Attempted x p f := by
  obtain ⟨x, hx, hattempted⟩ := attempted_of_yields hstatus ha fun e he => hw e (by simp [he])
  refine ⟨by rw [← List.append_assoc, getLast?_published], x, ?_, hattempted⟩
  rw [executions_round hr, hx]
  rfl

theorem concludes_of_tried (h : Tried c s request status r left es out) (hstatus : status.Clear)
    (hw : ∀ e ∈ es, e.isWellFormed = true) {b : BridgeResult} (hb : out = .ok b) :
    (published es).getLast? = some b.status ∧ Concludes c (executions es).getLast? b.status b.sourceTxHash := by
  induction h with
  | noRoute hr =>
    cases hb
    obtain ⟨answer, rfl⟩ := requestRoute_exchanges hr
    exact ⟨getLast?_published _ _, concludes_failed hstatus rfl⟩
  | completed hr ha =>
    cases hb
    obtain ⟨hlast, x, hx, hattempted⟩ := ended_round hstatus hr ha _ hw
    rw [hx]
    exact ⟨hlast, concludes_completion hattempted⟩
  | declined => cases hb
  | underWay hr ha hf =>
    cases hb
    obtain ⟨hlast, x, hx, hattempted⟩ := ended_round hstatus hr ha _ hw
    rw [hx]
    exact ⟨hlast, concludes_departure hattempted (Ending.of_eq_underWay.1 hf).2⟩
  | failed hr ha hf =>
    cases hb
    obtain ⟨hlast, x, hx, hattempted⟩ := ended_round hstatus hr ha _ hw
    rw [hx]
    exact ⟨hlast, concludes_failed hattempted.clear ((Ending.of_eq_failed.1 hf).2.1.symm.trans hattempted.hash)⟩
  | exhausted hr ha hf =>
    cases hb
    obtain ⟨hlast, x, hx, hattempted⟩ := ended_round hstatus hr ha _ hw
    rw [hx]
    exact ⟨hlast, concludes_failed hattempted.clear ((sourceHash_of_retry hf).symm.trans hattempted.hash)⟩
  | retried hr ha hf _ ih =>
    obtain ⟨x, hx, hattempted⟩ := attempted_of_yields hstatus ha fun e he => hw e (by simp [he])
    obtain ⟨hlast, hconcludes⟩ := ih (fun e he => hw e (by simp [he])) hb
    -- Only an attempt without a hash is followed by another one.
    have hnone : x.hash? = none := hattempted.hash.symm.trans (sourceHash_of_retry hf)
    constructor
    · rw [← List.append_assoc, published_append, List.getLast?_append, hlast, Option.some_or]
    · rw [executions_round hr, List.getLast?_append, hx]
      exact hconcludes.after hnone

end

theorem clear_initialStatus (d : BridgeData) : (initialStatus d).Clear := ⟨rfl, rfl⟩

theorem executeStep_concludes {c : Setting} {s : Step} {d : BridgeData} {es : List Exchange} {b : BridgeResult}
    (h : (executeStep c s d).Yields es (.ok b)) (hw : ∀ e ∈ es, e.isWellFormed = true) :
    (published es).getLast? = some b.status ∧ Concludes c (executions es).getLast? b.status b.sourceTxHash := by
  obtain ⟨es₁, es', request, rfl, hr, hp⟩ := Engine.yields_bind_ok.1 h
  obtain ⟨rfl, -⟩ := Engine.yields_ofExcept.1 hr
  obtain ⟨es₂, es₃, u, rfl, hp, ht⟩ := Engine.yields_bind_ok.1 hp
  obtain ⟨rfl, -⟩ := Engine.yields_publish.1 hp
  obtain ⟨hlast, hconcludes⟩ := concludes_of_tried (tried_of_yields ht) (clear_initialStatus d)
    (fun e he => hw e (by simp [he])) rfl
  refine ⟨?_, hconcludes⟩
  rw [List.nil_append, published_append, List.getLast?_append, hlast, Option.some_or]

theorem executeStep_concludes_twoAttempts :
    ∃ es b, (executeStep crossingSetting (.of 0 (.bridge crossing)) crossing).Yields es (.ok b) ∧
      (∀ e ∈ es, e.isWellFormed = true) ∧ b.status.phase = .bridging ∧
      (published es).getLast? = some b.status ∧
      Concludes crossingSetting (executions es).getLast? b.status b.sourceTxHash := by
  have h := Rehearsal.yields_perform (executeStep crossingSetting (.of 0 (.bridge crossing)) crossing).run
    (.create twoAttempts)
  have hw : ∀ e ∈ (executeStep crossingSetting (.of 0 (.bridge crossing)) crossing).run.exchanges
      Rehearsal.answer (.create twoAttempts), e.isWellFormed = true := by
    decide +kernel
  have hphase : (Rehearsal.perform (executeStep crossingSetting (.of 0 (.bridge crossing)) crossing).run
      (.create twoAttempts)).1.toOption.map (·.status.phase) = some .bridging := by
    decide +kernel
  obtain ⟨b, hb, hphase⟩ := Option.map_eq_some_iff.1 hphase
  cases hr : (Rehearsal.perform (executeStep crossingSetting (.of 0 (.bridge crossing)) crossing).run
      (.create twoAttempts)).1 with
  | error f =>
    rw [hr] at hb
    cases hb
  | ok result =>
    rw [hr] at hb h
    cases hb
    exact ⟨_, _, h, hw, hphase, executeStep_concludes h hw⟩

end Bridge

end LedgerFlow
