import LedgerFlow.Proofs.Bridge.Attempt
import LedgerFlow.Rehearsal

namespace LedgerFlow

namespace Bridge

open Exchange (publication isRouting_of_isPublication hash?_of_isPublication)

def Settled (es : List Exchange) : Prop :=
  es.Pairwise fun earlier later => earlier.hash?.isSome = true → later.isRouting = false

theorem settled_append_of_hash? {es₁ es₂ : List Exchange} (h : ∀ e ∈ es₁, e.hash? = none) (h₂ : Settled es₂) :
    Settled (es₁ ++ es₂) := by
  apply List.pairwise_append.2
  refine ⟨?_, h₂, ?_⟩
  · apply List.pairwise_of_forall_mem_list
    intro e he _ _ hs
    simp [h e he] at hs
  · intro e he _ _ hs
    simp [h e he] at hs

theorem settled_append_of_isRouting {es₁ es₂ : List Exchange} (h₁ : Settled es₁)
    (h : ∀ e ∈ es₂, e.isRouting = false) : Settled (es₁ ++ es₂) := by
  apply List.pairwise_append.2
  refine ⟨h₁, ?_, fun _ _ e he _ => h e he⟩
  apply List.pairwise_of_forall_mem_list
  intro _ _ e he _
  exact h e he

theorem settled_publication (status : BridgeStatus) {es : List Exchange} (h : Settled es) :
    Settled (publication status :: es) := by
  have hp : ∀ e ∈ [publication status], e.hash? = none := by simp [publication, Exchange.hash?]
  exact settled_append_of_hash? hp h

theorem requestRoute_hash? {request : RouteRequest} {x : Except String Route} {es : List Exchange}
    (h : (requestRoute request).Yields es x) : ∀ e ∈ es, e.hash? = none := by
  obtain ⟨answer, rfl⟩ := requestRoute_exchanges h
  simp [Exchange.hash?]

theorem attempt_settled {wording : Schema.Wording} {status : BridgeStatus} {route : Route} {p : Progress}
    {f : Option Fault} {es : List Exchange} (h : (attempt wording status route).Yields es (p, f)) : Settled es := by
  obtain ⟨execution, es₁, rfl, hes₁, -⟩ := attempt_exchanges h
  have hx : Settled [⟨.executeRoute route, execution⟩] := List.pairwise_singleton _ _
  apply settled_publication
  apply settled_append_of_isRouting hx
  intro e he
  exact isRouting_of_isPublication (hes₁ e he)

theorem attempt_hash? {wording : Schema.Wording} {status : BridgeStatus} {route : Route} {p : Progress}
    {f : Option Fault} {es : List Exchange} (h : (attempt wording status route).Yields es (p, f))
    (hw : ∀ e ∈ es, e.isWellFormed = true) (hp : p.sourceHash = none) : ∀ e ∈ es, e.hash? = none := by
  obtain ⟨execution, es₁, rfl, hes₁, hx⟩ := attempt_exchanges h
  have hxw : execution.isWellFormed = true := hw ⟨.executeRoute route, execution⟩ (by simp)
  obtain ⟨-, hhash, -⟩ := hx hxw
  intro e he
  rcases List.mem_cons.1 he with rfl | he
  · rfl
  · rcases List.mem_cons.1 he with rfl | he
    · exact hhash.symm.trans hp
    · exact hash?_of_isPublication (hes₁ e he)

theorem sourceHash_of_retry {p : Progress} {f : Fault} (h : Ending.of p f = .retry) : p.sourceHash = none :=
  (Ending.of_eq_retry.1 h).2.1

theorem settled_tried {wording : Schema.Wording} {request : RouteRequest} {route : Route} {status last : BridgeStatus}
    {p : Progress} {f : Option Fault} {es₁ es₂ : List Exchange} (hr : (requestRoute request).Yields es₁ (.ok route))
    (ha : (attempt wording status route).Yields es₂ (p, f)) : Settled (es₁ ++ (es₂ ++ [publication last])) := by
  apply settled_append_of_hash? (requestRoute_hash? hr)
  apply settled_append_of_isRouting (attempt_settled ha)
  simp [publication, Exchange.isRouting]

theorem tried_settled {c : Setting} {s : Step} {request : RouteRequest} {status : BridgeStatus} {r : RetryState}
    {left : Nat} {es : List Exchange} {out : Except Fault BridgeResult}
    (h : Tried c s request status r left es out) (hw : ∀ e ∈ es, e.isWellFormed = true) : Settled es := by
  induction h with
  | noRoute hr => exact settled_append_of_hash? (requestRoute_hash? hr) (List.pairwise_singleton _ _)
  | completed hr ha => exact settled_tried hr ha
  | declined hr ha _ => exact settled_tried hr ha
  | underWay hr ha _ => exact settled_tried hr ha
  | failed hr ha _ => exact settled_tried hr ha
  | exhausted hr ha _ => exact settled_tried hr ha
  | retried hr ha hf _ ih =>
    -- the one way to go on: the attempt was told of no hash, so nothing before the rest bars it
    apply settled_append_of_hash? (requestRoute_hash? hr)
    apply settled_append_of_hash?
    · apply attempt_hash? ha
      · intro e he
        exact hw e (by simp [he])
      · exact sourceHash_of_retry hf
    · apply ih
      intro e he
      exact hw e (by simp [he])

/-- However the routing service behaves, as long as its records can be read, a bridge asks it for nothing more
after a hash has come up. -/
theorem executeStep_settled {c : Setting} {s : Step} {d : BridgeData} {es : List Exchange}
    {out : Except Fault BridgeResult} (h : (executeStep c s d).Yields es out)
    (hw : ∀ e ∈ es, e.isWellFormed = true) :
    es.Pairwise fun earlier later => earlier.hash?.isSome = true → later.isRouting = false := by
  rw [executeStep, Engine.yields_bind] at h
  obtain ⟨es₁, es', request, rfl, hr, hp⟩ | ⟨f, -, hr⟩ := h
  · obtain ⟨rfl, -⟩ := Engine.yields_ofExcept.1 hr
    obtain ⟨es₂, es₃, u, rfl, hp, ht⟩ | ⟨f, -, hp⟩ := Engine.yields_bind.1 hp
    · obtain ⟨rfl, -⟩ := Engine.yields_publish.1 hp
      apply settled_publication
      apply tried_settled (tried_of_yields ht)
      intro e he
      exact hw e (by simp [he])
    · cases (Engine.yields_publish.1 hp).2
  · obtain ⟨rfl, -⟩ := Engine.yields_ofExcept.1 hr
    exact List.Pairwise.nil

def crossing : BridgeData :=
  ⟨some "USDC", some "USDC", some "ethereum", some 5, some "0x71C7656EC7ab88b098defB751B7401B5f6d8976F", "lifi"⟩

def crossingSetting : Setting := .create "0x51" .empty none none .heading

def offered (tool : String) : Route := ⟨"route", tool, none, none, none, [], []⟩

def twoAttempts : Script :=
  let dryRun : Fault := .raised .runtime "Dry run failed" none
  let sent : Json :=
    .object [("type", .string "SWAP"), ("status", .string "PENDING"), ("tx_hash", .string "0xfeed")]
  { Rehearsal.blank with
    routes := ⟨[.ok [offered "across"], .ok [offered "stargate"]],
      [⟨[], some dryRun⟩, ⟨[⟨[sent], none⟩], some dryRun⟩]⟩ }

theorem executeStep_settled_twoAttempts :
    ∃ es out, (executeStep crossingSetting (.of 0 (.bridge crossing)) crossing).Yields es out ∧
      (∀ e ∈ es, e.isWellFormed = true) ∧ (es.map Exchange.hash?).reduceOption = ["0xfeed"] ∧
      es.Pairwise fun earlier later => earlier.hash?.isSome = true → later.isRouting = false := by
  have h := Rehearsal.yields_perform (executeStep crossingSetting (.of 0 (.bridge crossing)) crossing).run
    (.create twoAttempts)
  have hw : ∀ e ∈ (executeStep crossingSetting (.of 0 (.bridge crossing)) crossing).run.exchanges
      Rehearsal.answer (.create twoAttempts), e.isWellFormed = true := by
    decide +kernel
  exact ⟨_, _, h, hw, by decide +kernel, executeStep_settled h hw⟩

end Bridge

end LedgerFlow
