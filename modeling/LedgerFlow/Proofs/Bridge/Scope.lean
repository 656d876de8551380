import LedgerFlow.Proofs.Bridge.Attempt
import LedgerFlow.Proofs.Validation.Checks

namespace LedgerFlow

section Conversions

variable {α β : Type}

def Raises (x : Except Fault α) : Prop := ∀ e, x ≠ .error (.engine e)

theorem raises_bind {x : Except Fault α} {f : α → Except Fault β} (hx : Raises x) (hf : ∀ a, Raises (f a)) :
    Raises (x >>= f) := by
  intro e h
  cases x with
  | error g =>
    cases h
    exact hx e rfl
  | ok a => exact hf a e h

theorem raises_ofResult (x : Except Decimal.Signal α) : Raises (Amount.ofResult x) := by
  intro e h
  cases x <;> cases h

theorem raises_toInt (d : Decimal) : Raises (Amount.toInt d) := by
  intro e h
  cases d <;> cases h

theorem raises_textOf (n : Int) : Raises (Amount.textOf n) := by
  intro e h
  unfold Amount.textOf at h
  split at h <;> cases h

theorem raises_given (amount : Option Decimal) : Raises (Amount.given amount) := by
  intro e h
  cases amount <;> cases h

theorem raises_toUnits (decimals : Int) (amount : Decimal) : Raises (Amount.toUnits decimals amount) := by
  apply raises_bind (raises_ofResult _)
  intro unit
  apply raises_bind (raises_ofResult _)
  exact raises_toInt

end Conversions

namespace Bridge

def amountSent (d : BridgeData) (asset : String) : Except Fault String := do
  Amount.textOf (← unitsSent d asset)

theorem raises_amountSent (d : BridgeData) (asset : String) : Raises (amountSent d asset) := by
  apply raises_bind
  · exact raises_bind (raises_given _) fun amount => raises_toUnits _ amount
  · exact raises_textOf

end Bridge

def Step.amountFault? (s : Step) : Option Fault :=
  match s.node.data with
  | .bridge d => match Bridge.amountSent d (d.asset.getD "") with
    | .ok _ => none
    | .error f => some f
  | _ => none

theorem Step.amountFault?_ne_engine {s : Step} {f : Fault} (h : s.amountFault? = some f) (e : EngineError) :
    f ≠ .engine e := by
  unfold Step.amountFault? at h
  split at h
  · next d _ =>
    have hd := Bridge.raises_amountSent d (d.asset.getD "")
    cases ha : Bridge.amountSent d (d.asset.getD "") with
    | ok t => simp [ha] at h
    | error g =>
      simp only [ha, Option.some.injEq] at h
      subst h
      rintro rfl
      exact hd e ha
  · cases h

namespace Bridge

open Validation (checkBridge)

theorem routeRequest_of_checkBridge {rules : Validation.Rules} {c : Setting} {s : Step} {d : BridgeData}
    (h : checkBridge rules d = .ok ()) :
    ∃ make, routeRequest c s d = (amountSent d (d.asset.getD "")).map make := by
  obtain ⟨⟨asset, output, chain, id, ⟨hasset, -⟩, ⟨houtput, -⟩, ⟨hchain, -⟩, hid, ⟨source, hsource⟩, target, htarget⟩, -,
    address, ⟨haddress, -⟩, -⟩ := Validation.checkBridge_eq_ok.1 h
  have hends : ends? asset d.outputAsset (some id) = .ok (some ⟨id, source, target⟩) := by
    rw [houtput]
    simp only [ends?, stated, hsource, bind, Except.bind, htarget]
    rfl
  refine ⟨fun t => ⟨Chain.sourceChainId, id, source, target, t, c.signer, c.names.lookup address, [],
    RouteRequest.recommended⟩, ?_⟩
  rw [routeRequest, hchain, hasset, haddress]
  simp only [stated, bind, Except.bind, hid, hends, Option.map_some, Option.getD_some, amountSent]
  cases unitsSent d asset with
  | error f => rfl
  | ok n => cases ht : Amount.textOf n <;> simp only [ht] <;> rfl

theorem routeRequest_eq_ok {c : Setting} {s : Step} {d : BridgeData} {request : RouteRequest}
    (h : routeRequest c s d = .ok request) :
    ∃ asset destination n, d.asset = some asset ∧ d.ethereumAddress = some destination ∧
      unitsSent d asset = .ok n ∧ Amount.textOf n = .ok request.fromAmount ∧
      request.toAddress = c.names.lookup destination := by
  obtain ⟨chain, -, h₁⟩ := except_bind_eq_ok.1 h
  obtain ⟨asset, hasset, h₂⟩ := except_bind_eq_ok.1 h₁
  obtain ⟨ends, -, h₃⟩ := except_bind_eq_ok.1 h₂
  cases ends with
  | none => cases h₃
  | some ends =>
    obtain ⟨n, hn, h₄⟩ := except_bind_eq_ok.1 h₃
    obtain ⟨t, ht, h₅⟩ := except_bind_eq_ok.1 h₄
    cases hd : d.ethereumAddress with
    | none =>
      simp only [hd] at h₅
      cases h₅
    | some destination =>
      simp only [hd] at h₅
      cases h₅
      have hasset : d.asset = some asset := by
        unfold stated at hasset
        split at hasset
        · next heq => cases hasset; exact heq
        · cases hasset
      exact ⟨asset, destination, n, hasset, rfl, hn, ht, rfl⟩

def Declined (steps : List Step) (f : Fault) : Prop :=
  ∃ s ∈ steps, ∃ why, f = s.error .userRejected (.rejected why)

theorem tried_outcome {c : Setting} {s : Step} {request : RouteRequest} {status : BridgeStatus} {r : RetryState}
    {left : Nat} {es : List Exchange} {out : Except Fault BridgeResult}
    (h : Tried c s request status r left es out) :
    (∃ b, out = .ok b ∧ b.stepIndex = s.index ∧ b.nodeId = s.node.id) ∨
      ∃ why, out = .error (s.error .userRejected (.rejected why)) := by
  induction h with
  | noRoute => exact .inl ⟨_, rfl, rfl, rfl⟩
  | completed => exact .inl ⟨_, rfl, rfl, rfl⟩
  | declined => exact .inr ⟨_, rfl⟩
  | underWay => exact .inl ⟨_, rfl, rfl, rfl⟩
  | failed => exact .inl ⟨_, rfl, rfl, rfl⟩
  | exhausted => exact .inl ⟨_, rfl, rfl, rfl⟩
  | retried _ _ _ _ ih => exact ih

theorem executeStep_outcome {rules : Validation.Rules} {c : Setting} {s : Step} {d : BridgeData}
    {es : List Exchange} {out : Except Fault BridgeResult} (hs : s.node.data = .bridge d)
    (hd : checkBridge rules d = .ok ()) (h : (executeStep c s d).Yields es out) :
    match s.amountFault? with
    | some f => out = .error f
    | none => (∃ b, out = .ok b ∧ b.stepIndex = s.index ∧ b.nodeId = s.node.id) ∨
        ∃ why, out = .error (s.error .userRejected (.rejected why)) := by
  obtain ⟨make, hr⟩ := routeRequest_of_checkBridge (c := c) (s := s) hd
  simp only [Step.amountFault?, hs]
  rw [executeStep, hr, Engine.yields_bind] at h
  cases ha : amountSent d (d.asset.getD "") with
  | error f =>
    rw [ha] at h
    obtain ⟨es₁, es₂, request, rfl, hq, -⟩ | ⟨g, rfl, hq⟩ := h
    · cases (Engine.yields_ofExcept.1 hq).2
    · cases (Engine.yields_ofExcept.1 hq).2
      rfl
  | ok t =>
    rw [ha] at h
    obtain ⟨es₁, es₂, request, rfl, hq, hp⟩ | ⟨g, rfl, hq⟩ := h
    · obtain ⟨es₃, es₄, u, rfl, -, ht⟩ | ⟨g, -, hp⟩ := Engine.yields_bind.1 hp
      · exact tried_outcome (tried_of_yields ht)
      · cases (Engine.yields_publish.1 hp).2
    · cases (Engine.yields_ofExcept.1 hq).2

/-- The bridges before the first one whose amount cannot be written. -/
def writable (steps : List Step) : List Step := steps.takeWhile fun s => s.amountFault?.isNone

theorem writable_cons {s : Step} (hs : s.amountFault? = none) (rest : List Step) :
    writable (s :: rest) = s :: writable rest := by
  simp [writable, hs]

/-- What a list of bridges ends in: the user's refusal of one that could be written, or else a result for each
of them in order, unless the amount of one cannot be written. -/
def Outcome (steps : List Step) (out : Except Fault (List BridgeResult)) : Prop :=
  (∃ f, out = .error f ∧ Declined (writable steps) f) ∨
    match steps.findSome? Step.amountFault? with
    | none => ∃ bs, out = .ok bs ∧
        bs.map (fun b => (b.stepIndex, b.nodeId)) = steps.map fun s => (↑s.index, s.node.id)
    | some f => out = .error f

theorem results_of_outcome {steps : List Step} {bs : List BridgeResult} (h : Outcome steps (.ok bs)) :
    bs.map (fun b => (b.stepIndex, b.nodeId)) = steps.map fun s => (↑s.index, s.node.id) := by
  obtain ⟨f, hf, -⟩ | h := h
  · cases hf
  · split at h
    · obtain ⟨bs', heq, h⟩ := h
      cases heq
      exact h
    · cases h

theorem outcome_cons_of_error {s : Step} {rest : List Step} {f : Fault} (hs : s.amountFault? = none)
    (h : Outcome rest (.error f)) : Outcome (s :: rest) (.error f) := by
  unfold Outcome at h ⊢
  rw [writable_cons hs, List.findSome?_cons, hs]
  obtain ⟨g, hg, t, ht, hd⟩ | h := h
  · exact .inl ⟨g, hg, t, List.mem_cons_of_mem s ht, hd⟩
  · right
    cases hf : rest.findSome? Step.amountFault? with
    | none => simp [hf] at h
    | some g => simpa [hf] using h

theorem outcome_cons_of_ok {s : Step} {rest : List Step} {b : BridgeResult} {bs : List BridgeResult}
    (hs : s.amountFault? = none) (hb : b.stepIndex = s.index ∧ b.nodeId = s.node.id)
    (h : Outcome rest (.ok bs)) : Outcome (s :: rest) (.ok (b :: bs)) := by
  unfold Outcome at h ⊢
  rw [List.findSome?_cons, hs]
  obtain ⟨g, hg, -⟩ | h := h
  · cases hg
  · right
    cases hf : rest.findSome? Step.amountFault? with
    | none =>
      simp only [hf, Except.ok.injEq, exists_eq_left'] at h
      exact ⟨b :: bs, rfl, by simp [hb, h]⟩
    | some g => simp [hf] at h

theorem outcome_cons_of_first {s : Step} {rest : List Step} {f : Fault}
    (h : match s.amountFault? with
      | some g => f = g
      | none => ∃ why, f = s.error .userRejected (.rejected why)) :
    Outcome (s :: rest) (.error f) := by
  unfold Outcome
  rw [List.findSome?_cons]
  cases hs : s.amountFault? with
  | some g =>
    simp only [hs] at h
    exact .inr (h ▸ rfl)
  | none =>
    simp only [hs] at h
    rw [writable_cons hs]
    exact .inl ⟨f, rfl, s, List.mem_cons_self, h⟩

end Bridge

theorem runBridges_outcome {rules : Validation.Rules} {c : Bridge.Setting} {steps : List Step}
    {es : List Exchange} {out : Except Fault (List BridgeResult)} (hb : ∀ s ∈ steps, s.isBridge = true)
    (hv : ∀ s ∈ steps, Validation.checkNode rules s.node = .ok ()) (h : (runBridges c steps).Yields es out) :
    Bridge.Outcome steps out := by
  induction steps generalizing es out with
  | nil =>
    obtain ⟨-, rfl⟩ := Engine.yields_pure.1 h
    exact .inr ⟨[], rfl, rfl⟩
  | cons s rest ih =>
    have hs := hb s List.mem_cons_self
    have rest_outcome : ∀ {es out}, (runBridges c rest).Yields es out → Bridge.Outcome rest out :=
      ih (fun t ht => hb t (.tail _ ht)) (fun t ht => hv t (.tail _ ht))
    cases hd : s.node.data with
    | bridge d =>
      have hv := Validation.checkBridge_of_checkNode (hv s List.mem_cons_self) hd
      simp only [runBridges, hd] at h
      obtain ⟨es₁, es₂, b, rfl, hx, hk⟩ | ⟨f, rfl, hx⟩ := Engine.yields_bind.1 h
      · have hout := Bridge.executeStep_outcome hd hv hx
        cases ha : s.amountFault? with
        | some f => simp [ha] at hout
        | none =>
          simp only [ha, Except.ok.injEq, exists_eq_left', reduceCtorEq, exists_false, or_false] at hout
          obtain ⟨es₃, es₄, bs, rfl, hbs, hr⟩ | ⟨f, rfl, hf⟩ := Engine.yields_bind.1 hk
          · obtain ⟨-, rfl⟩ := Engine.yields_pure.1 hr
            exact Bridge.outcome_cons_of_ok ha hout (rest_outcome hbs)
          · exact Bridge.outcome_cons_of_error ha (rest_outcome hf)
      · apply Bridge.outcome_cons_of_first
        have hout := Bridge.executeStep_outcome hd hv hx
        cases ha : s.amountFault? with
        | some g => simpa [ha] using hout
        | none => simpa [ha] using hout
    | _ => simp [Step.isBridge, Node.isBridge, hd] at hs

end LedgerFlow
