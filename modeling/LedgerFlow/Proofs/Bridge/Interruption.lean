import LedgerFlow.Proofs.Bridge.Results
import LedgerFlow.Proofs.Bridge.Retries

namespace LedgerFlow

/-- The funds have left the source chain, and where they are can be looked up. -/
structure BridgeResult.UnderWay (c : Bridge.Setting) (hash : String) (b : BridgeResult) : Prop where
  phase : b.status.phase = .bridging
  source : b.sourceTxHash = some hash
  tracked : b.status.trackingUrl = some (c.trackingBase ++ hash)
  unfailed : b.status.error = none
  succeeded : b.succeeded = true

namespace Bridge

open Exchange (publication)

/-- What a bridge comes to when its attempt fails like this after the source chain had this transaction. -/
structure Interrupted (c : Setting) (s : Step) (hash : String) (f : Fault) (es : List Exchange)
    (out : Except Fault BridgeResult) : Prop where
  underWay : f.isUserRejection = false →
    ∃ b, out = .ok b ∧ b.UnderWay c hash ∧ (published es).getLast? = some b.status
  declined : f.isUserRejection = true →
    out = .error (s.error .userRejected (.rejected f.text)) ∧
      ∃ last, (published es).getLast? = some last ∧ last.phase = .failed

theorem Interrupted.after {c : Setting} {s : Step} {hash : String} {f : Fault} {es : List Exchange}
    {out : Except Fault BridgeResult} (h : Interrupted c s hash f es out) (es₁ : List Exchange) :
    Interrupted c s hash f (es₁ ++ es) out := by
  have hlast : ∀ {last : BridgeStatus}, (published es).getLast? = some last →
      (published (es₁ ++ es)).getLast? = some last := by
    intro last hlast
    rw [published_append, List.getLast?_append, hlast, Option.some_or]
  refine ⟨fun hf => ?_, fun hf => ?_⟩
  · obtain ⟨b, hb, hunder, hpublished⟩ := h.underWay hf
    exact ⟨b, hb, hunder, hlast hpublished⟩
  · obtain ⟨hout, last, hpublished, hphase⟩ := h.declined hf
    exact ⟨hout, last, hlast hpublished, hphase⟩

section

variable {c : Setting} {s : Step} {wording : Schema.Wording} {request : RouteRequest}
  {status final : BridgeStatus} {r : RetryState} {left : Nat}
  {x : RouteExecution} {route : Route} {p : Progress} {end? : Option Fault} {f : Fault} {hash : String}
  {es es₁ es₂ : List Exchange} {out : Except Fault BridgeResult}

theorem attempted_of_round (hstatus : status.Clear) (hr : (requestRoute request).Yields es₁ (.ok route))
    (ha : (attempt wording status route).Yields es₂ (p, end?)) (hw : ∀ e ∈ es₁ ++ (es₂ ++ es), e.isWellFormed = true)
    (hx : x ∈ executions (es₁ ++ (es₂ ++ es))) : Attempted x p end? ∨ x ∈ executions es := by
  obtain ⟨y, hy, hattempted⟩ := attempted_of_yields hstatus ha fun e he => hw e (by simp [he])
  rw [executions_round hr, hy] at hx
  obtain rfl | hx := List.mem_cons.1 hx
  · exact .inl hattempted
  · exact .inr hx

theorem attempted_of_last_round (hstatus : status.Clear) (hr : (requestRoute request).Yields es₁ (.ok route))
    (ha : (attempt wording status route).Yields es₂ (p, end?))
    (hw : ∀ e ∈ es₁ ++ (es₂ ++ [publication final]), e.isWellFormed = true)
    (hx : x ∈ executions (es₁ ++ (es₂ ++ [publication final]))) : Attempted x p end? :=
  (attempted_of_round hstatus hr ha hw hx).resolve_right (List.not_mem_nil)

theorem getLast?_published_round (final : BridgeStatus) :
    (published (es₁ ++ (es₂ ++ [publication final]))).getLast? = some final := by
  rw [← List.append_assoc, getLast?_published]

theorem interrupted_of_tried (h : Tried c s request status r left es out) (hstatus : status.Clear)
    (hw : ∀ e ∈ es, e.isWellFormed = true) (hx : x ∈ executions es) (hhash : x.hash? = some hash)
    (hfailure : x.failure = some f) : Interrupted c s hash f es out := by
  -- An attempt that was told of no hash is not the one in question.
  have hashed : ∀ {p end?}, Attempted x p end? → p.sourceHash ≠ none := by
    intro p end? ha hn
    rw [ha.hash, hhash] at hn
    cases hn
  induction h with
  | noRoute hr =>
    obtain ⟨answer, rfl⟩ := requestRoute_exchanges hr
    cases hx
  | completed hr ha =>
    have hattempted := attempted_of_last_round hstatus hr ha hw hx
    exact nomatch hattempted.failure.trans hfailure
  | declined hr ha hf =>
    have hattempted := attempted_of_last_round hstatus hr ha hw hx
    cases hattempted.failure.trans hfailure
    have hrejected := Ending.of_eq_declined.1 hf
    refine ⟨fun h => ?_, fun _ => ⟨rfl, _, getLast?_published_round _, rfl⟩⟩
    rw [hrejected] at h
    cases h
  | underWay hr ha hf =>
    have hattempted := attempted_of_last_round hstatus hr ha hw hx
    cases hattempted.failure.trans hfailure
    obtain ⟨hrejected, hsource⟩ := Ending.of_eq_underWay.1 hf
    cases hsource.symm.trans (hattempted.hash.trans hhash)
    refine ⟨fun _ => ⟨_, rfl, ⟨rfl, rfl, rfl, hattempted.clear.error, rfl⟩, getLast?_published_round _⟩, fun h => ?_⟩
    rw [hrejected] at h
    cases h
  | failed hr ha hf =>
    exact absurd (Ending.of_eq_failed.1 hf).2.1 (hashed (attempted_of_last_round hstatus hr ha hw hx))
  | exhausted hr ha hf =>
    exact absurd (sourceHash_of_retry hf) (hashed (attempted_of_last_round hstatus hr ha hw hx))
  | retried hr ha hf _ ih =>
    obtain hattempted | hx := attempted_of_round hstatus hr ha hw hx
    · exact absurd (sourceHash_of_retry hf) (hashed hattempted)
    · rw [← List.append_assoc]
      exact (ih (fun e he => hw e (by simp [he])) hx).after _

theorem interrupted_of_executeStep {d : BridgeData} (h : (executeStep c s d).Yields es out)
    (hw : ∀ e ∈ es, e.isWellFormed = true) (hx : x ∈ executions es) (hhash : x.hash? = some hash)
    (hfailure : x.failure = some f) : Interrupted c s hash f es out := by
  obtain ⟨g, -, rfl, -⟩ | ⟨request, es', -, rfl, ht⟩ := yields_executeStep h
  · cases hx
  · exact (interrupted_of_tried ht (clear_initialStatus d) (fun e he => hw e (.tail _ he)) hx hhash hfailure).after
      [publication (initialStatus d)]

end

theorem mapM_outcome_of_gave {turns : List Turn} (h : ∀ u ∈ turns, ∃ b, u.outcome = .ok b) :
    ∃ bs, turns.mapM (·.outcome) = .ok bs := by
  induction turns with
  | nil => exact ⟨[], rfl⟩
  | cons u rest ih =>
    obtain ⟨b, hb⟩ := h u (.head _)
    obtain ⟨bs, hbs⟩ := ih fun v hv => h v (.tail _ hv)
    exact ⟨b :: bs, by rw [List.mapM_cons, hb, hbs]; rfl⟩

theorem Runs.after {c : Setting} {steps : List Step} {before after : List Turn} {t : Turn} {es : List Exchange}
    {out : Except Fault (List BridgeResult)} (h : Runs c steps (before ++ t :: after) es out)
    (hgave : ∀ u ∈ before ++ [t], ∃ b, u.outcome = .ok b) :
    ∃ rest, steps.filter (·.isBridge) = before.map (·.step) ++ t.step :: rest ∧
      Runs c rest after (after.flatMap (·.exchanges)) (after.mapM (·.outcome)) := by
  obtain ⟨more, hmore⟩ := h.order
  have hsplit : steps.filter (·.isBridge) = before.map (·.step) ++ t.step :: (after.map (·.step) ++ more) := by
    simp [← hmore]
  have hbridges : (after.map (·.step) ++ more).filter (·.isBridge) = after.map (·.step) ++ more := by
    refine List.filter_eq_self.2 fun s hs => ?_
    have hmem : s ∈ steps.filter (·.isBridge) := by
      rw [hsplit]
      exact List.mem_append_right _ (.tail _ hs)
    exact (List.mem_filter.1 hmem).2
  refine ⟨after.map (·.step) ++ more, hsplit, rfl, rfl, fun u hu => h.executes u (by simp [hu]), ?_, ?_⟩
  · rw [hbridges]
    exact List.prefix_append _ _
  · intro bs hbs
    -- Nothing before them stopped the row, so that it came to its end.
    obtain ⟨first, hfirst⟩ := mapM_outcome_of_gave hgave
    have hout : out = .ok (first ++ bs) := by
      rw [h.outcome, List.append_cons, List.mapM_append, hfirst, hbs]
      rfl
    have hall := h.complete _ hout
    rw [hsplit] at hall
    rw [hbridges]
    simpa using hall

end Bridge

open Bridge

/-- A bridge that fails after its source chain has a transaction holds nothing up: it is under way, and those after it
are carried out in their turn. Only a failure that reads as the user's refusal ends the row. -/
theorem runBridges_interrupted {c : Bridge.Setting} {steps : List Step} {es : List Exchange}
    {out : Except Fault (List BridgeResult)} (h : (runBridges c steps).Yields es out)
    (hw : ∀ e ∈ es, e.isWellFormed = true) :
    ∃ turns, Runs c steps turns es out ∧
      ∀ before t after, turns = before ++ t :: after →
        ∀ x ∈ executions t.exchanges, ∀ hash f, x.hash? = some hash → x.failure = some f →
          Interrupted c t.step hash f t.exchanges t.outcome ∧
            (f.isUserRejection = true → after = []) ∧
            (f.isUserRejection = false →
              ∃ rest, steps.filter (·.isBridge) = before.map (·.step) ++ t.step :: rest ∧
                Runs c rest after (after.flatMap (·.exchanges)) (after.mapM (·.outcome))) := by
  obtain ⟨turns, hruns, hgave⟩ := runs_of_yields h
  refine ⟨turns, hruns, ?_⟩
  rintro before t after rfl x hx hash f hhash hfailure
  obtain ⟨d, -, hexecutes⟩ := hruns.executes t (by simp)
  have hwt : ∀ e ∈ t.exchanges, e.isWellFormed = true := by
    intro e he
    refine hw e ?_
    rw [hruns.exchanges]
    exact List.mem_flatMap_of_mem (by simp) he
  have hinterrupted := interrupted_of_executeStep hexecutes hwt hx hhash hfailure
  obtain ⟨-, hlater, hearlier⟩ := List.pairwise_append.1 hgave
  refine ⟨hinterrupted, fun hf => ?_, fun hf => hruns.after fun u hu => ?_⟩
  · cases after with
    | nil => rfl
    | cons next after =>
      obtain ⟨b, hb⟩ := List.rel_of_pairwise_cons hlater (.head _)
      exact nomatch hb.symm.trans (hinterrupted.declined hf).1
  · obtain hu | hu := List.mem_append.1 hu
    · exact hearlier u hu t (.head _)
    · obtain rfl := List.mem_singleton.1 hu
      obtain ⟨b, hb, -⟩ := hinterrupted.underWay hf
      exact ⟨b, hb⟩

namespace Bridge

def interruptedBy (f : Fault) : Script :=
  let sent : Json :=
    .object [("type", .string "SWAP"), ("status", .string "PENDING"), ("tx_hash", .string "0xfeed")]
  { Rehearsal.blank with
    routes := ⟨[.ok [offered "across"], .ok [offered "stargate"]], [⟨[⟨[sent], none⟩], some f⟩, ⟨[], none⟩]⟩ }

def lostTrack : Fault := .raised .runtime "status poll: timed out" none

def refusedLate : Fault := .raised .runtime "status poll: user rejected the request" none

def twoCrossings : List Step := [.of 0 (.bridge crossing), .of 1 (.bridge crossing)]

end Bridge

theorem runBridges_interrupted_lostTrack :
    ∃ es out, (runBridges crossingSetting twoCrossings).Yields es out ∧ (∀ e ∈ es, e.isWellFormed = true) ∧
      (executions es).map (fun x => (x.hash?, x.failure.map Fault.text)) =
        [(some "0xfeed", some lostTrack.text), (none, none)] ∧
      ∃ turns, Runs crossingSetting twoCrossings turns es out ∧
        ∀ before t after, turns = before ++ t :: after →
          ∀ x ∈ executions t.exchanges, ∀ hash f, x.hash? = some hash → x.failure = some f →
            Interrupted crossingSetting t.step hash f t.exchanges t.outcome ∧
              (f.isUserRejection = true → after = []) ∧
              (f.isUserRejection = false →
                ∃ rest, twoCrossings.filter (·.isBridge) = before.map (·.step) ++ t.step :: rest ∧
                  Runs crossingSetting rest after (after.flatMap (·.exchanges)) (after.mapM (·.outcome))) := by
  have h := Rehearsal.yields_perform (runBridges crossingSetting twoCrossings).run (.create (interruptedBy lostTrack))
  have hw : ∀ e ∈ (runBridges crossingSetting twoCrossings).run.exchanges Rehearsal.answer
      (.create (interruptedBy lostTrack)), e.isWellFormed = true := by
    decide +kernel
  exact ⟨_, _, h, hw, by decide +kernel, runBridges_interrupted h hw⟩

/-- The first bridge has a hash, and yet it is given up and the second is never tried. -/
theorem runBridges_refusedLate :
    ∃ es out, (runBridges crossingSetting twoCrossings).Yields es out ∧ (∀ e ∈ es, e.isWellFormed = true) ∧
      (executions es).map (fun x => (x.hash?, x.failure.map Fault.text)) = [(some "0xfeed", some refusedLate.text)] ∧
      out.toOption = none ∧ (published es).getLast?.map (·.phase) = some .failed :=
  ⟨_, _, Rehearsal.yields_perform (runBridges crossingSetting twoCrossings).run (.create (interruptedBy refusedLate)),
    by decide +kernel, by decide +kernel, by decide +kernel, by decide +kernel⟩

end LedgerFlow
