import LedgerFlow.Proofs.Bridge.Results

namespace LedgerFlow

open Bridge

def RouteUpdate.phase (u : RouteUpdate) : BridgePhase := derivePhase u.parts

def RouteExecution.ending (x : RouteExecution) : BridgePhase :=
  match x.failure with
  | none => if x.updates.getLast?.map RouteUpdate.phase = some .failed then .failed else .done
  | some f => if f.isUserRejection = false ∧ x.hash?.isSome = true then .bridging else .failed

/-- It has failed before the source chain had a transaction, in a way that another provider may escape. -/
def RouteExecution.WorthRetry (x : RouteExecution) : Prop :=
  x.hash? = none ∧ ∃ f, x.failure = some f ∧ f.isUserRejection = false ∧ f.isRetryable = true

/-- Once an update says that all is done, those after it say so too, and nothing fails. -/
structure RouteExecution.StaysDone (x : RouteExecution) : Prop where
  later : x.updates.Pairwise fun u v => u.phase = .done → v.phase = .done
  unfailed : x.failure = none

namespace Bridge

open Exchange (publication)

/-- After one of its updates, an execution has only its remaining updates published, and then how it ended. -/
structure Concluding (x : RouteExecution) (rest : List RouteUpdate) (after : List Exchange) : Prop where
  unrouted : ∀ e ∈ after, e.isRouting = false
  phases : (published after).map (·.phase) = rest.map RouteUpdate.phase ++ [x.ending]

/-- What can come after a bridge was done: nothing, or the rest of the execution that reported it. Nothing is said of
an execution that was worth another attempt. -/
def Settles (before after : List Exchange) : Prop :=
  after = [] ∨ ∃ x earlier u rest, (executions before).getLast? = some x ∧ x.updates = earlier ++ u :: rest ∧
    u.phase = .done ∧ (x.WorthRetry ∨ Concluding x rest after)

theorem Settles.after {before after : List Exchange} (h : Settles before after) (es : List Exchange) :
    Settles (es ++ before) after := by
  obtain rfl | ⟨x, earlier, u, rest, hx, hupdates⟩ := h
  · exact .inl rfl
  · refine .inr ⟨x, earlier, u, rest, ?_, hupdates⟩
    rw [executions_append, List.getLast?_append, hx, Option.some_or]

theorem statuses_of_follow {wording : Schema.Wording} {us : List RouteUpdate} {p q : Progress} {f : Option Fault}
    {es : List Exchange} (hw : us.all RouteUpdate.isWellFormed = true) (h : (follow wording p us).Yields es (q, f)) :
    ∃ statuses : List BridgeStatus, es = statuses.map publication ∧
      statuses.map (·.phase) = us.map RouteUpdate.phase := by
  induction us generalizing p es with
  | nil =>
    obtain ⟨rfl, -⟩ := Program.yields_done.1 h
    exact ⟨[], rfl, rfl⟩
  | cons u rest ih =>
    obtain ⟨hu, hrest⟩ : u.isWellFormed = true ∧ rest.all RouteUpdate.isWellFormed = true := by
      simpa using hw
    rw [follow, report_eq_ok wording p hu] at h
    obtain ⟨_, _, _, rfl, hp, hf⟩ := Program.yields_bind.1 h
    obtain rfl := yields_publish.1 hp
    obtain ⟨statuses, rfl, hphases⟩ := ih hrest hf
    refine ⟨(p.after u).status :: statuses, rfl, ?_⟩
    rw [List.map_cons, List.map_cons, hphases]
    rfl

section

variable {c : Setting} {s : Step} {wording : Schema.Wording} {request : RouteRequest}
  {status last : BridgeStatus} {r : RetryState} {left : Nat}
  {x : RouteExecution} {route : Route} {p : Progress} {f : Fault} {end? : Option Fault} {us : List RouteUpdate}
  {before after more es es₁ es₂ : List Exchange} {out : Except Fault BridgeResult}

theorem statuses_of_attempt (hstatus : status.Clear) (h : (attempt wording status route).Yields es (p, end?))
    (hw : ∀ e ∈ es, e.isWellFormed = true) :
    ∃ x, Attempted x p end? ∧ ∃ statuses : List BridgeStatus,
      es = publication (Progress.start status route).status :: ⟨.executeRoute route, x⟩ :: statuses.map publication ∧
        statuses.map (·.phase) = x.updates.map RouteUpdate.phase := by
  obtain ⟨x, hx, hattempted⟩ := attempted_of_yields hstatus h hw
  obtain ⟨y, es₁, bad, rfl, hfollow, -⟩ := follow_of_attempt h
  have hy : y.isWellFormed = true := hw ⟨.executeRoute route, y⟩ (by simp)
  obtain ⟨statuses, rfl, hphases⟩ := statuses_of_follow hy hfollow
  have hx : y :: executions (statuses.map publication) = [x] := hx
  obtain rfl : y = x := (List.cons_eq_cons.1 hx).1
  exact ⟨y, hattempted, statuses, rfl, hphases⟩

theorem reported_of_split {q : RouteRequest} {answer : Except Fault (List Route)} {statuses : List BridgeStatus}
    (hphases : statuses.map (·.phase) = x.updates.map RouteUpdate.phase) (hstatus : status.phase ≠ .done)
    (hsplit : ⟨.routes q, answer⟩ :: publication (Progress.start status route).status ::
      ⟨.executeRoute route, x⟩ :: (statuses.map publication ++ more) = before ++ publication last :: after)
    (hlast : last.phase = .done) :
    (∃ earlier u rest, ∃ later : List BridgeStatus, x.updates = earlier ++ u :: rest ∧ u.phase = .done ∧
      (executions before).getLast? = some x ∧ after = later.map publication ++ more ∧
        later.map (·.phase) = rest.map RouteUpdate.phase) ∨
      ∃ es before', before = es ++ before' ∧ more = before' ++ publication last :: after := by
  obtain ⟨rfl, hfirst⟩ | ⟨before₁, rfl, htail₁⟩ := List.cons_eq_append_iff.1 hsplit
  · cases hfirst
  obtain ⟨rfl, hfirst⟩ | ⟨before₂, rfl, htail₂⟩ := List.cons_eq_append_iff.1 htail₁
  · cases hfirst
    exact absurd hlast hstatus
  obtain ⟨rfl, hfirst⟩ | ⟨before₃, rfl, htail₃⟩ := List.cons_eq_append_iff.1 htail₂
  · cases hfirst
  obtain ⟨more', rfl, hmore⟩ | ⟨more', hstatuses, hafter⟩ := List.append_eq_append_iff.1 htail₃
  · exact .inr ⟨_ :: _ :: _ :: statuses.map publication, more', rfl, hmore⟩
  rcases more' with - | ⟨e, more'⟩
  · rw [List.append_nil] at hstatuses
    exact .inr ⟨_ :: _ :: _ :: before₃, [], (List.append_nil _).symm, hafter.symm⟩
  obtain ⟨rfl, rfl⟩ := List.cons_eq_cons.1 hafter
  obtain ⟨sooner, later', rfl, rfl, hlater⟩ := List.map_eq_append_iff.1 hstatuses
  obtain ⟨_, later, rfl, hpublication, rfl⟩ := List.map_eq_cons_iff.1 hlater
  cases hpublication
  rw [List.map_append, List.map_cons] at hphases
  obtain ⟨earlier, updates, hupdates, -, hrest⟩ := List.map_eq_append_iff.1 hphases.symm
  obtain ⟨u, rest, rfl, hu, hrest⟩ := List.map_eq_cons_iff.1 hrest
  refine .inl ⟨earlier, u, rest, later, hupdates, hu.trans hlast, ?_, rfl, hrest.symm⟩
  have hsooner : executions (sooner.map publication) = [] :=
    (asked_of_isPublication fun e he => by obtain ⟨b, -, rfl⟩ := List.mem_map.1 he; rfl).2.2
  have hexecutions : executions (⟨.routes q, answer⟩ :: publication (Progress.start status route).status ::
      ⟨.executeRoute route, x⟩ :: sooner.map publication) = x :: executions (sooner.map publication) := rfl
  rw [hexecutions, hsooner]
  rfl

theorem unrouted_publications {statuses : List BridgeStatus} :
    ∀ e ∈ statuses.map publication, e.isRouting = false := by
  intro e he
  obtain ⟨b, -, rfl⟩ := List.mem_map.1 he
  rfl

theorem published_publications (statuses : List BridgeStatus) : published (statuses.map publication) = statuses := by
  induction statuses with
  | nil => rfl
  | cons b rest ih => exact congrArg (b :: ·) ih

theorem settles_of_last_round {final : BridgeStatus} (hclear : status.Clear) (hstatus : status.phase ≠ .done)
    (hr : (requestRoute request).Yields es₁ (.ok route)) (ha : (attempt wording status route).Yields es₂ (p, end?))
    (hfinal : ∀ {x u}, Attempted x p end? → x.updates.getLast? = some u → final.phase = x.ending)
    (hw : ∀ e ∈ es₁ ++ (es₂ ++ [publication final]), e.isWellFormed = true)
    (hsplit : es₁ ++ (es₂ ++ [publication final]) = before ++ publication last :: after) (hlast : last.phase = .done) :
    Settles before after := by
  obtain ⟨answer, rfl⟩ := requestRoute_exchanges hr
  obtain ⟨x, hattempted, statuses, rfl, hphases⟩ := statuses_of_attempt hclear ha fun e he => hw e (by simp [he])
  obtain ⟨earlier, u, rest, later, hupdates, hu, hx, rfl, hlater⟩ | ⟨es, before', -, hmore⟩ :=
    reported_of_split hphases hstatus hsplit hlast
  · refine .inr ⟨x, earlier, u, rest, hx, hupdates, hu, .inr ⟨fun e he => ?_, ?_⟩⟩
    · obtain he | he := List.mem_append.1 he
      · exact unrouted_publications e he
      · obtain rfl := List.mem_singleton.1 he
        rfl
    · have hending : final.phase = x.ending := by
        cases hul : x.updates.getLast? with
        | none => simp [List.getLast?_eq_none_iff.1 hul] at hupdates
        | some v => exact hfinal hattempted hul
      rw [published_append, published_publications, List.map_append, hlater, ← hending]
      rfl
  · -- The last status of all has nothing after it.
    obtain ⟨-, hafter⟩ | ⟨-, hnil⟩ := List.singleton_eq_append_iff.1 hmore
    · exact .inl (List.cons_eq_cons.1 hafter).2
    · cases hnil

theorem ending_of_completion {u : RouteUpdate} (h : Attempted x p none) (hu : x.updates.getLast? = some u) :
    (p.completion c).phase = x.ending := by
  have hphase : p.status.phase = u.phase := h.phase u hu
  have hending : x.ending = if u.phase = .failed then .failed else .done := by
    simp [RouteExecution.ending, ← h.failure, hu]
  rw [hending, Progress.completion, hphase]
  split
  · rfl
  · cases p.sourceHash <;> rfl

theorem ending_of_rejection (h : Attempted x p (some f)) (hf : f.isUserRejection = true) : x.ending = .failed := by
  simp [RouteExecution.ending, ← h.failure, hf]

theorem ending_of_unhashed (h : Attempted x p (some f)) (hp : p.sourceHash = none) : x.ending = .failed := by
  simp [RouteExecution.ending, ← h.failure, ← h.hash, hp]

theorem ending_of_hashed {hash : String} (h : Attempted x p (some f)) (hf : f.isUserRejection = false)
    (hp : p.sourceHash = some hash) : x.ending = .bridging := by
  simp [RouteExecution.ending, ← h.failure, ← h.hash, hf, hp]

theorem settles_of_tried (h : Tried c s request status r left es out) (hclear : status.Clear)
    (hstatus : status.phase ≠ .done) (hw : ∀ e ∈ es, e.isWellFormed = true)
    (hsplit : es = before ++ publication last :: after) (hlast : last.phase = .done) : Settles before after := by
  induction h generalizing before with
  | @noRoute r left es why hr =>
    obtain ⟨answer, rfl⟩ := requestRoute_exchanges hr
    -- The only status is that of the failure.
    obtain ⟨-, hcons⟩ | ⟨before', -, hfinal⟩ := List.cons_eq_append_iff.1 hsplit
    · cases hcons
    · obtain ⟨-, hcons⟩ | ⟨-, hnil⟩ := List.singleton_eq_append_iff.1 hfinal
      · cases hcons
        cases hlast
      · cases hnil
  | completed hr ha => exact settles_of_last_round hclear hstatus hr ha ending_of_completion hw hsplit hlast
  | declined hr ha hf =>
    exact settles_of_last_round hclear hstatus hr ha
      (fun h _ => (ending_of_rejection h (Ending.of_eq_declined.1 hf)).symm) hw hsplit hlast
  | underWay hr ha hf =>
    obtain ⟨hrejected, hhash⟩ := Ending.of_eq_underWay.1 hf
    exact settles_of_last_round hclear hstatus hr ha
      (fun h _ => (ending_of_hashed h hrejected hhash).symm) hw hsplit hlast
  | failed hr ha hf =>
    obtain ⟨-, hhash, -⟩ := Ending.of_eq_failed.1 hf
    exact settles_of_last_round hclear hstatus hr ha (fun h _ => (ending_of_unhashed h hhash).symm) hw hsplit hlast
  | exhausted hr ha hf =>
    obtain ⟨-, hhash, -⟩ := Ending.of_eq_retry.1 hf
    exact settles_of_last_round hclear hstatus hr ha (fun h _ => (ending_of_unhashed h hhash).symm) hw hsplit hlast
  | @retried r left es₁ es₂ es₃ route p f out hr ha hf _ ih =>
    obtain ⟨answer, rfl⟩ := requestRoute_exchanges hr
    obtain ⟨x, hattempted, statuses, rfl, hphases⟩ := statuses_of_attempt hclear ha fun e he => hw e (by simp [he])
    obtain ⟨earlier, u, rest, later, hupdates, hu, hx, -, -⟩ | ⟨es, before', rfl, hmore⟩ :=
      reported_of_split hphases hstatus hsplit hlast
    · obtain ⟨hrejected, hhash, hretryable⟩ := Ending.of_eq_retry.1 hf
      have hworth : x.WorthRetry :=
        ⟨hattempted.hash.symm.trans hhash, f, hattempted.failure.symm, hrejected, hretryable⟩
      exact .inr ⟨x, earlier, u, rest, hx, hupdates, hu, .inl hworth⟩
    · exact (ih (fun e he => hw e (by simp [he])) hmore).after es

theorem Concluding.stays {earlier rest : List RouteUpdate} {u : RouteUpdate} (h : Concluding x rest after)
    (hx : x.StaysDone) (hupdates : x.updates = earlier ++ u :: rest) (hu : u.phase = .done) :
    ∀ b ∈ published after, b.phase = .done := by
  have hlater := hx.later
  rw [hupdates] at hlater
  have hrest : ∀ v ∈ u :: rest, v.phase = .done := by
    intro v hv
    obtain rfl | hv := List.mem_cons.1 hv
    · exact hu
    · exact List.rel_of_pairwise_cons (List.pairwise_append.1 hlater).2.1 hv hu
  have hending : x.ending = .done := by
    have hlast : x.updates.getLast? = some ((u :: rest).getLast (List.cons_ne_nil u rest)) := by
      rw [hupdates, List.getLast?_append, List.getLast?_eq_some_getLast (List.cons_ne_nil u rest), Option.some_or]
    simp [RouteExecution.ending, hx.unfailed, hlast, hrest _ (List.getLast_mem _)]
  intro b hb
  have hphase : b.phase ∈ rest.map RouteUpdate.phase ++ [x.ending] := h.phases ▸ List.mem_map_of_mem hb
  obtain hphase | hphase := List.mem_append.1 hphase
  · obtain ⟨v, hv, hphase⟩ := List.mem_map.1 hphase
    exact hphase.symm.trans (hrest v (.tail _ hv))
  · exact (List.mem_singleton.1 hphase).trans hending

end

/-- After a bridge was reported done come the rest of that attempt's updates and its end. The bridge stays done as long
as the routing service stays with it. -/
theorem executeStep_after_done {c : Setting} {s : Step} {d : BridgeData} {es : List Exchange}
    {out : Except Fault BridgeResult} (h : (executeStep c s d).Yields es out)
    (hw : ∀ e ∈ es, e.isWellFormed = true) :
    ∀ before status after, es = before ++ publication status :: after → status.phase = .done →
      Settles before after ∧
        ∀ x, (executions before).getLast? = some x → x.StaysDone →
          ∀ e ∈ after, e.isRouting = false ∧ ∀ b, e.status? = some b → b.phase = .done := by
  intro before status after hsplit hdone
  have hsettles : Settles before after := by
    obtain ⟨f, -, rfl, -⟩ | ⟨request, es', -, rfl, ht⟩ := yields_executeStep h
    · simp at hsplit
    · obtain ⟨rfl, hfirst⟩ | ⟨before', rfl, htail⟩ := List.cons_eq_append_iff.1 hsplit
      · cases hfirst
        cases hdone
      · have hwell : ∀ e ∈ es', e.isWellFormed = true := fun e he => hw e (.tail _ he)
        have hsignal : (initialStatus d).phase ≠ .done := by simp [initialStatus]
        exact (settles_of_tried ht (clear_initialStatus d) hsignal hwell htail hdone).after
          [publication (initialStatus d)]
  refine ⟨hsettles, fun x hx hstays e he => ?_⟩
  obtain rfl | ⟨y, earlier, u, rest, hy, hupdates, hu, hend⟩ := hsettles
  · cases he
  · cases hy.symm.trans hx
    obtain ⟨-, f, hf, -⟩ | hconcluding := hend
    · exact nomatch hstays.unfailed.symm.trans hf
    · refine ⟨hconcluding.unrouted e he, fun b hb => hconcluding.stays hstays hupdates hu b ?_⟩
      exact List.mem_filterMap.2 ⟨e, he, hb⟩

def reporting (target : String) : Script :=
  let source : Json :=
    .object [("type", .string "SWAP"), ("status", .string "DONE"), ("tx_hash", .string "0xfeed")]
  let crossed : Json := .object [("type", .string "CROSS_CHAIN"), ("status", .string target)]
  { Rehearsal.blank with
    routes := ⟨[.ok [offered "across"]], [⟨[⟨[source], none⟩, ⟨[source, crossed], none⟩], none⟩]⟩ }

theorem executeStep_after_done_twice :
    ∃ es out, (executeStep crossingSetting (.of 0 (.bridge crossing)) crossing).Yields es out ∧
      (∀ e ∈ es, e.isWellFormed = true) ∧
      (published es).map (·.phase) = [.signing, .signing, .done, .done, .done] ∧
      ∀ before status after, es = before ++ publication status :: after → status.phase = .done →
        Settles before after ∧
          ∀ x, (executions before).getLast? = some x → x.StaysDone →
            ∀ e ∈ after, e.isRouting = false ∧ ∀ b, e.status? = some b → b.phase = .done := by
  have h := Rehearsal.yields_perform (executeStep crossingSetting (.of 0 (.bridge crossing)) crossing).run
    (.create (reporting "DONE"))
  have hw : ∀ e ∈ (executeStep crossingSetting (.of 0 (.bridge crossing)) crossing).run.exchanges
      Rehearsal.answer (.create (reporting "DONE")), e.isWellFormed = true := by
    decide +kernel
  exact ⟨_, _, h, hw, by decide +kernel, executeStep_after_done h hw⟩

/-- As long as only the source side is reported the bridge counts as done, and it is under way again with the first
report of the other side. -/
theorem done_left_by_report :
    ∃ es out, (executeStep crossingSetting (.of 0 (.bridge crossing)) crossing).Yields es out ∧
      (∀ e ∈ es, e.isWellFormed = true) ∧
      (published es).map (·.phase) = [.signing, .signing, .done, .bridging, .done] :=
  ⟨_, _, Rehearsal.yields_perform (executeStep crossingSetting (.of 0 (.bridge crossing)) crossing).run
    (.create (reporting "PENDING")), by decide +kernel, by decide +kernel⟩

end Bridge

end LedgerFlow
