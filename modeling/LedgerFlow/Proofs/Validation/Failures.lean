import LedgerFlow.Proofs.Assembly.Workspace

namespace LedgerFlow

/-- The plan asks for what the tables of the engine do not have, or does not say enough. -/
def Reason.isMisconfiguration : Reason → Bool
  | .unknownAdapter .. => true
  | .unsupportedAsset _ => true
  | .uncomparableAsset _ => true
  | .poolUnavailable _ => true
  | .unsupportedLendingAction _ => true
  | .repayUnsupported => true
  | .validatorRequired => true
  | .malformedArguments _ => true
  | .noRouteParameters .. => true
  | .given _ => true
  | _ => false

def Fault.isMisconfiguration : Fault → Bool
  | .engine e => e.reason.isMisconfiguration
  | .schema .. => false
  | .raised kind _ _ => kind == .unknownToken || kind == .unknownAdapter

def failureOf {α : Type} : Except Fault α → Option Fault
  | .ok _ => none
  | .error f => some f

def Exchange.fault? (e : Exchange) : Option Fault :=
  match e.request, e.answer with
  | .resolveName _, answer => failureOf answer
  | .predicateBalance .., answer => failureOf answer
  | .contractQuery .., answer => failureOf answer
  | .balance .., answer => failureOf answer
  | .coins .., answer => failureOf answer
  | .ownedObjects .., answer => failureOf answer
  | .activeValidators, answer => failureOf answer
  | .swapRoute .., answer => failureOf answer
  | .swapBuild .., answer => failureOf answer
  | .submit _, answer => failureOf answer
  | .routes _, answer => failureOf answer
  | .executeRoute _, execution => execution.failure
  | .publish _, _ => none

theorem Fault.isMisconfiguration_showing (ns : List Int) (f : Fault) (h : f.isMisconfiguration = false) :
    (Fault.showing ns f).isMisconfiguration = false := by
  unfold Fault.showing
  split
  · rfl
  · exact h

section

variable {α β : Type}

def Harmless (x : Except Fault α) : Prop := ∀ f, x = .error f → f.isMisconfiguration = false

@[simp] theorem harmless_ok {a : α} : Harmless (.ok a : Except Fault α) := by
  intro f h
  cases h

@[simp] theorem harmless_error {f : Fault} : Harmless (.error f : Except Fault α) ↔ f.isMisconfiguration = false := by
  simp [Harmless]

theorem harmless_bind {x : Except Fault α} {g : α → Except Fault β} (hx : Harmless x) (hg : ∀ a, Harmless (g a)) :
    Harmless (x >>= g) := by
  cases x with
  | ok a => exact hg a
  | error f => exact fun _ h => hx _ (by cases h; rfl)

@[simp] theorem harmless_ofResult (x : Except Decimal.Signal α) : Harmless (Amount.ofResult x) := by
  cases x with
  | ok a => exact harmless_ok
  | error s => exact harmless_error.2 rfl

@[simp] theorem harmless_toInt (d : Decimal) : Harmless (Amount.toInt d) := by
  cases d with
  | finite => exact harmless_ok
  | infinity => exact harmless_error.2 rfl
  | nan => exact harmless_error.2 rfl

@[simp] theorem harmless_given (amount : Option Decimal) : Harmless (Amount.given amount) := by
  cases amount with
  | some d => exact harmless_ok
  | none => exact harmless_error.2 rfl

@[simp] theorem harmless_toBaseUnits (t : Token) (amount : Decimal) : Harmless (t.toBaseUnits amount) := by
  apply harmless_bind (harmless_ofResult _)
  intro unit
  exact harmless_bind (harmless_ofResult _) harmless_toInt

@[simp] theorem harmless_fromBaseUnits (t : Token) (n : Int) : Harmless (t.fromBaseUnits n) :=
  harmless_bind (harmless_ofResult _) fun _ => harmless_ofResult _

@[simp] theorem harmless_splitOne (tx : Transaction) (coin : Handle) (amount : Int) :
    Harmless (tx.splitOne coin amount) := by
  unfold Transaction.splitOne
  split
  · exact harmless_error.2 (Fault.isMisconfiguration_showing _ _ rfl)
  · exact harmless_ok

end

namespace Engine

open Program (yields_done)

variable {α β : Type}

def Blameless (p : Engine α) : Prop :=
  ∀ es f, p.Yields es (.error f) → f.isMisconfiguration = true → ∃ e ∈ es, e.fault? = some f

@[simp] theorem blameless_pure {a : α} : Blameless (pure a : Engine α) :=
  fun _ _ h _ => nomatch (yields_pure.1 h).2

@[simp] theorem blameless_ofExcept {x : Except Fault α} (hx : Harmless x) : Blameless (ofExcept x) := by
  intro es f h hf
  exact absurd hf (by simp [hx f (yields_ofExcept.1 h).2.symm])

theorem blameless_bind {p : Engine α} {g : α → Engine β} (hp : Blameless p) (hg : ∀ a, Blameless (g a)) :
    Blameless (p >>= g) := by
  intro es f h hf
  obtain ⟨es₁, es₂, a, rfl, -, ha⟩ | ⟨f', heq, hp'⟩ := yields_bind.1 h
  · obtain ⟨e, he, hef⟩ := hg a es₂ f ha hf
    exact ⟨e, List.mem_append_right _ he, hef⟩
  · cases heq
    exact hp es f hp' hf

theorem blameless_ask {r : Request} {h : r.Answer = Except Fault α}
    (hr : ∀ f, (⟨r, cast h.symm (.error f)⟩ : Exchange).fault? = some f) : Blameless (ask r h) := by
  intro es f hy _
  rw [yields_ask.1 hy]
  exact ⟨_, List.mem_singleton_self _, hr f⟩

def Untainted (p : Engine α) : Prop := ∀ es r, p.Yields es r → Harmless r

theorem untainted_pure {a : α} : Untainted (pure a : Engine α) := by
  intro es r h
  rw [(yields_pure.1 h).2]
  exact harmless_ok

theorem untainted_throw {f : Fault} (hf : f.isMisconfiguration = false) : Untainted (throw f : Engine α) := by
  intro es r h
  rw [(yields_throw.1 h).2]
  exact harmless_error.2 hf

theorem untainted_ofExcept {x : Except Fault α} (hx : Harmless x) : Untainted (ofExcept x) := by
  intro es r h
  rw [(yields_ofExcept.1 h).2]
  exact hx

theorem untainted_bind {p : Engine α} {g : α → Engine β} (hp : Untainted p) (hg : ∀ a, Untainted (g a)) :
    Untainted (p >>= g) := by
  intro es r h
  obtain ⟨_, es₂, a, -, -, ha⟩ | ⟨f, rfl, hf⟩ := yields_bind.1 h
  · exact hg a es₂ r ha
  · exact harmless_error.2 (harmless_error.1 (hp es (.error f) hf))

theorem untainted_mapFault {g : Fault → Fault} {p : Engine α} (hg : ∀ f, (g f).isMisconfiguration = false) :
    Untainted (mapFault g p) := by
  intro es r h
  obtain ⟨x, rfl, -⟩ := yields_mapFault.1 h
  cases x with
  | ok a => exact harmless_ok
  | error f => exact harmless_error.2 (hg f)

theorem untainted_reworded {g : Fault → Fault} {p : Engine α} (hp : Untainted p)
    (hg : ∀ f, f.isMisconfiguration = false → (g f).isMisconfiguration = false) : Untainted (mapFault g p) := by
  intro es r h
  obtain ⟨x, rfl, hx⟩ := yields_mapFault.1 h
  cases x with
  | ok a => exact harmless_ok
  | error f => exact harmless_error.2 (hg f (harmless_error.1 (hp es _ hx)))

end Engine

namespace Assembly

open Program (yields_done)

variable {α β : Type}

def Blameless (p : Assembly α) : Prop :=
  ∀ w es f w', (p.run w).Yields es (.error f, w') → f.isMisconfiguration = true → ∃ e ∈ es, e.fault? = some f

@[simp] theorem blameless_pure {a : α} : Blameless (pure a : Assembly α) :=
  fun _ _ _ _ h _ => nomatch (yields_done.1 h).2

@[simp] theorem blameless_throw {f : Fault} (hf : f.isMisconfiguration = false) : Blameless (throw f : Assembly α) := by
  intro w es g w' h hg
  cases (yields_done.1 h).2
  exact absurd hg (by simp [hf])

@[simp] theorem blameless_ofExcept {x : Except Fault α} (hx : Harmless x) : Blameless (ofExcept x) := by
  intro w es f w' h hf
  cases (yields_done.1 h).2
  exact absurd hf (by simp [hx f rfl])

theorem blameless_bind {p : Assembly α} {g : α → Assembly β} (hp : Blameless p) (hg : ∀ a, Blameless (g a)) :
    Blameless (p >>= g) := by
  intro w es f w' h hf
  have h : ((p.run w).bind fun r => ExceptT.bindCont g r.1 r.2).Yields es (.error f, w') := h
  obtain ⟨es₁, es₂, ⟨x, w₁⟩, rfl, hx, hk⟩ := Program.yields_bind.1 h
  cases x with
  | ok a =>
    obtain ⟨e, he, hef⟩ := hg a w₁ es₂ f w' hk hf
    exact ⟨e, List.mem_append_right _ he, hef⟩
  | error f' =>
    obtain ⟨rfl, heq⟩ := yields_done.1 hk
    cases heq
    obtain ⟨e, he, hef⟩ := hp w es₁ f w₁ hx hf
    exact ⟨e, List.mem_append_left _ he, hef⟩

theorem blameless_known_bind {x : Except Fault α} {a : α} {g : α → Assembly β} (hx : x = .ok a)
    (hg : Blameless (g a)) : Blameless (ofExcept x >>= g) := by
  subst hx
  exact hg

@[simp] theorem blameless_ofEngine {p : Engine α} (hp : p.Blameless) : Blameless (ofEngine p) := by
  intro w es f w' h hf
  have h : (p.run.bind fun r => .done (r, w)).Yields es (.error f, w') := h
  obtain ⟨es₁, es₂, x, rfl, hx, hk⟩ := Program.yields_bind.1 h
  obtain ⟨rfl, heq⟩ := yields_done.1 hk
  cases heq
  rw [List.append_nil]
  exact hp es₁ f hx hf

@[simp] theorem blameless_state : Blameless state := fun _ _ _ _ h _ => nomatch (yields_done.1 h).2

@[simp] theorem blameless_update {f : Workspace → Workspace} : Blameless (update f) :=
  fun _ _ _ _ h _ => nomatch (yields_done.1 h).2

@[simp] theorem blameless_mapFault {g : Fault → Fault} {p : Assembly α} (hp : Blameless p)
    (hg : ∀ f, (g f).isMisconfiguration = true → g f = f) : Blameless (mapFault g p) := by
  intro w es f w' h hf
  have h : ((p.run w).bind fun r => .done (r.1.mapError g, r.2)).Yields es (.error f, w') := h
  obtain ⟨es₁, es₂, ⟨x, w₁⟩, rfl, hx, hk⟩ := Program.yields_bind.1 h
  obtain ⟨rfl, heq⟩ := yields_done.1 hk
  cases x with
  | ok a => cases heq
  | error f' =>
    cases heq
    have hkept := hg f' hf
    rw [hkept] at hf ⊢
    rw [List.append_nil]
    exact hp w es₁ f' w₁ hx hf

theorem blameless_ite {c : Prop} [Decidable c] {p q : Assembly α} (hp : Blameless p) (hq : Blameless q) :
    Blameless (if c then p else q) := by
  split
  · exact hp
  · exact hq

theorem blameless_throw_bind {f : Fault} {k : α → Assembly β} (hf : f.isMisconfiguration = false) :
    Blameless (throw f >>= k) := by
  intro w es g w' h hg
  cases (yields_done.1 h).2
  exact absurd hg (by simp [hf])

/-- A failure that may itself fail to be said. -/
def Spoken (r : Except Fault Fault) : Prop :=
  Harmless r ∧ ∀ f, r = .ok f → f.isMisconfiguration = false

theorem blameless_fail {r : Except Fault Fault} (hr : Spoken r) : Blameless (fail r : Assembly α) := by
  cases r with
  | ok f => exact blameless_throw (hr.2 f rfl)
  | error f => exact blameless_throw (hr.1 f rfl)

theorem blameless_fail_bind {r : Except Fault Fault} {k : α → Assembly β} (hr : Spoken r) :
    Blameless (fail r >>= k) := by
  cases r with
  | ok f => exact blameless_throw_bind (hr.2 f rfl)
  | error f => exact blameless_throw_bind (hr.1 f rfl)

@[simp] theorem blameless_splitOne (coin : Handle) (amount : Int) : Blameless (splitOne coin amount) := by
  apply blameless_bind blameless_state
  intro w
  apply blameless_bind (blameless_ofExcept (harmless_splitOne _ _ _))
  intro r
  exact blameless_bind blameless_update fun _ => blameless_pure

@[simp] theorem blameless_merge (destination : Handle) (sources : List Handle) :
    Blameless (merge destination sources) :=
  blameless_bind blameless_state fun _ => blameless_update

@[simp] theorem blameless_transfer (objects : List Handle) (recipient : Option String) :
    Blameless (transfer objects recipient) :=
  blameless_bind blameless_state fun _ => blameless_update

@[simp] theorem blameless_call (target : String) (arguments : List Handle) (types : List String) :
    Blameless (call target arguments types) := by
  apply blameless_bind blameless_state
  intro w
  exact blameless_bind blameless_update fun _ => blameless_pure

@[simp] theorem blameless_deposit (coinType : String) (coin : Handle) (amount : Int) :
    Blameless (deposit coinType coin amount) := by
  apply blameless_bind blameless_state
  intro w
  simp only
  split
  · exact blameless_update
  · exact blameless_bind (blameless_merge _ _) fun _ => blameless_update

theorem isMisconfiguration_holdsTooLittle (p : CoinPool) (coinType : String) (amount : Int) :
    (p.holdsTooLittle coinType amount).isMisconfiguration = false :=
  Fault.isMisconfiguration_showing _ _ rfl

@[simp] theorem blameless_withdraw (coinType : String) (amount : Int) : Blameless (withdraw coinType amount) := by
  apply blameless_bind blameless_state
  intro w
  simp only
  split
  · exact blameless_throw (isMisconfiguration_holdsTooLittle _ _ _)
  · apply blameless_ite (blameless_throw_bind (isMisconfiguration_holdsTooLittle _ _ _))
    apply blameless_ite
    · exact blameless_bind blameless_update fun _ => blameless_pure
    · exact blameless_bind blameless_update fun _ => blameless_splitOne _ _

@[simp] theorem blameless_take (coinType : String) : Blameless (take coinType) := by
  apply blameless_bind blameless_state
  intro w
  exact blameless_bind blameless_update fun _ => blameless_pure

end Assembly

end LedgerFlow
