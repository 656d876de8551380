import LedgerFlow.Rehearsal

namespace LedgerFlow

theorem except_bind_eq_ok {ε α β : Type} {x : Except ε α} {f : α → Except ε β} {b : β} :
    x >>= f = .ok b ↔ ∃ a, x = .ok a ∧ f a = .ok b := by
  cases x with
  | error e => simp [bind, Except.bind]
  | ok a => simp [bind, Except.bind]

theorem except_eq_ok {ε α : Type} {x : Except ε α} {a : α} : x = .ok a ↔ x.toOption = some a := by
  cases x <;> simp [Except.toOption]

theorem mapError_eq_ok {ε ε' α : Type} {x : Except ε α} {f : ε → ε'} {a : α} : x.mapError f = .ok a ↔ x = .ok a := by
  cases x with
  | ok b => exact (Except.ok.injEq b a).to_iff.trans (Except.ok.injEq b a).to_iff.symm
  | error e => constructor <;> intro h <;> cases h

structure Exchange where
  request : Request
  answer : request.Answer

namespace Program

inductive Yields {α : Type} : Program α → List Exchange → α → Prop
  | done (a : α) : Yields (.done a) [] a
  | request {r : Request} {k : r.Answer → Program α} {es : List Exchange} {a : α} (answer : r.Answer)
      (rest : Yields (k answer) es a) : Yields (.request r k) (⟨r, answer⟩ :: es) a

variable {α β : Type}

theorem yields_done {a b : α} {es : List Exchange} : (Program.done a).Yields es b ↔ es = [] ∧ b = a := by
  constructor
  · intro h
    cases h
    exact ⟨rfl, rfl⟩
  · rintro ⟨rfl, rfl⟩
    exact .done b

theorem yields_request {r : Request} {k : r.Answer → Program α} {es : List Exchange} {a : α} :
    (Program.request r k).Yields es a ↔
      ∃ answer rest, es = ⟨r, answer⟩ :: rest ∧ (k answer).Yields rest a := by
  constructor
  · intro h
    cases h with
    | request answer rest => exact ⟨answer, _, rfl, rest⟩
  · rintro ⟨answer, rest, rfl, h⟩
    exact .request answer h

theorem yields_bind {p : Program α} {f : α → Program β} {es : List Exchange} {b : β} :
    (p.bind f).Yields es b ↔
      ∃ es₁ es₂ a, es = es₁ ++ es₂ ∧ p.Yields es₁ a ∧ (f a).Yields es₂ b := by
  constructor
  · intro h
    induction p generalizing es with
    | done a => exact ⟨[], es, a, rfl, .done a, h⟩
    | request r k ih =>
      obtain ⟨answer, rest, rfl, hk⟩ := yields_request.1 h
      obtain ⟨es₁, es₂, a, rfl, hp, hf⟩ := ih answer hk
      exact ⟨⟨r, answer⟩ :: es₁, es₂, a, rfl, .request answer hp, hf⟩
  · rintro ⟨es₁, es₂, a, rfl, hp, hf⟩
    induction hp with
    | done a => exact hf
    | request answer _ ih => exact .request answer (ih hf)

theorem Yields.unique {p : Program α} {es : List Exchange} {a b : α} (h : p.Yields es a) (h' : p.Yields es b) :
    a = b := by
  induction h with
  | done a => exact (yields_done.1 h').2.symm
  | request answer _ ih =>
    obtain ⟨answer', rest, heq, hk⟩ := yields_request.1 h'
    cases heq
    exact ih hk

/-- The exchanges of a run against collaborators that may change as they answer. -/
def exchanges {σ : Type} (answer : (r : Request) → σ → r.Answer × σ) : Program α → σ → List Exchange
  | .done _, _ => []
  | .request r k, s => ⟨r, (answer r s).1⟩ :: exchanges answer (k (answer r s).1) (answer r s).2

theorem yields_run {σ : Type} (answer : (r : Request) → σ → r.Answer × σ) (p : Program α) (s : σ) :
    p.Yields (p.exchanges answer s) (p.run answer s).1 := by
  induction p generalizing s with
  | done a => exact .done a
  | request r k ih => exact .request _ (ih _ _)

theorem exchanges_bind {σ : Type} (answer : (r : Request) → σ → r.Answer × σ) (p : Program α) (f : α → Program β)
    (s : σ) :
    (p.bind f).exchanges answer s =
      p.exchanges answer s ++ (f (p.run answer s).1).exchanges answer (p.run answer s).2 := by
  induction p generalizing s with
  | done a => rfl
  | request r k ih => exact congrArg (_ :: ·) (ih _ _)

/-- What collaborators keep to in every state that they come into holds of every exchange with them. -/
theorem forall_exchanges {σ : Type} {answer : (r : Request) → σ → r.Answer × σ} {I : σ → Prop} {P : Exchange → Prop}
    (hI : ∀ r s, I s → I (answer r s).2) (hP : ∀ r s, I s → P ⟨r, (answer r s).1⟩) (p : Program α) {s : σ} (h : I s) :
    ∀ e ∈ p.exchanges answer s, P e := by
  induction p generalizing s with
  | done a => exact fun _ he => nomatch he
  | request r k ih =>
    intro e he
    cases he with
    | head => exact hP r s h
    | tail _ he => exact ih _ (hI r s h) e he

def Asks (P : Request → Prop) : Program α → Prop
  | .done _ => True
  | .request r k => P r ∧ ∀ answer, (k answer).Asks P

theorem asks_bind {P : Request → Prop} {p : Program α} {f : α → Program β} (hp : p.Asks P)
    (hf : ∀ a, (f a).Asks P) : (p.bind f).Asks P := by
  induction p with
  | done a => exact hf a
  | request r k ih => exact ⟨hp.1, fun answer => ih answer (hp.2 answer)⟩

theorem asks_of_forall {P : Request → Prop} (h : ∀ r, P r) (p : Program α) : p.Asks P := by
  induction p with
  | done a => trivial
  | request r k ih => exact ⟨h r, ih⟩

theorem Asks.imp {P Q : Request → Prop} {p : Program α} (hp : p.Asks P) (h : ∀ r, P r → Q r) : p.Asks Q := by
  induction p with
  | done a => trivial
  | request r k ih => exact ⟨h r hp.1, fun answer => ih answer (hp.2 answer)⟩

theorem Asks.of_yields {P : Request → Prop} {p : Program α} {es : List Exchange} {a : α} (hp : p.Asks P)
    (h : p.Yields es a) : ∀ e ∈ es, P e.request := by
  induction h with
  | done a => simp
  | request answer _ ih =>
    intro e he
    cases he with
    | head => exact hp.1
    | tail _ he => exact ih (hp.2 answer) e he

/-- The collaborators answer requests of this kind alike, whatever they were asked before. -/
def Steady {σ : Type} (P : Request → Prop) (answer : (r : Request) → σ → r.Answer × σ) : Prop :=
  ∀ r, P r → ∀ s s', (answer r s).1 = (answer r s').1

theorem Asks.run_eq {σ : Type} {P : Request → Prop} {answer : (r : Request) → σ → r.Answer × σ} {p : Program α}
    (hp : p.Asks P) (h : Steady P answer) (s s' : σ) : (p.run answer s).1 = (p.run answer s').1 := by
  induction p generalizing s s' with
  | done a => rfl
  | request r k ih =>
    simp only [run, h r hp.1 s s']
    exact ih _ (hp.2 _) _ _

theorem Asks.exchanges_eq {σ : Type} {P : Request → Prop} {answer : (r : Request) → σ → r.Answer × σ} {p : Program α}
    (hp : p.Asks P) (h : Steady P answer) (s s' : σ) : p.exchanges answer s = p.exchanges answer s' := by
  induction p generalizing s s' with
  | done a => rfl
  | request r k ih =>
    simp only [exchanges, h r hp.1 s s']
    exact congrArg (_ :: ·) (ih _ (hp.2 _) _ _)

end Program

namespace Engine

open Program

variable {α β : Type}

/-- What a computation that may fail yields: a value or a failure. -/
abbrev Yields (p : Engine α) (es : List Exchange) (r : Except Fault α) : Prop := p.run.Yields es r

theorem yields_pure {a : α} {es : List Exchange} {r : Except Fault α} :
    Yields (pure a) es r ↔ es = [] ∧ r = .ok a := yields_done

theorem yields_throw {f : Fault} {es : List Exchange} {r : Except Fault α} :
    Yields (throw f) es r ↔ es = [] ∧ r = .error f := yields_done

theorem yields_ofExcept {x r : Except Fault α} {es : List Exchange} :
    Yields (ofExcept x) es r ↔ es = [] ∧ r = x := yields_done

theorem yields_bind {p : Engine α} {f : α → Engine β} {es : List Exchange} {r : Except Fault β} :
    Yields (p >>= f) es r ↔
      (∃ es₁ es₂ a, es = es₁ ++ es₂ ∧ Yields p es₁ (.ok a) ∧ Yields (f a) es₂ r) ∨
      (∃ e, r = .error e ∧ Yields p es (.error e)) := by
  have h : Yields (p >>= f) es r ↔
      ∃ es₁ es₂ x, es = es₁ ++ es₂ ∧ p.run.Yields es₁ x ∧
        Program.Yields (ExceptT.bindCont f x) es₂ r := Program.yields_bind
  rw [h]
  constructor
  · rintro ⟨es₁, es₂, x, rfl, hp, hx⟩
    cases x with
    | ok a => exact .inl ⟨es₁, es₂, a, rfl, hp, hx⟩
    | error e =>
      obtain ⟨rfl, rfl⟩ := yields_done.1 hx
      exact .inr ⟨e, rfl, by simpa using hp⟩
  · rintro (⟨es₁, es₂, a, rfl, hp, hf⟩ | ⟨e, rfl, hp⟩)
    · exact ⟨es₁, es₂, .ok a, rfl, hp, hf⟩
    · exact ⟨es, [], .error e, by simp, hp, .done _⟩

theorem yields_bind_ok {p : Engine α} {f : α → Engine β} {es : List Exchange} {b : β} :
    Yields (p >>= f) es (.ok b) ↔
      ∃ es₁ es₂ a, es = es₁ ++ es₂ ∧ Yields p es₁ (.ok a) ∧ Yields (f a) es₂ (.ok b) := by
  simp [yields_bind]

theorem yields_map {p : Engine α} {f : α → β} {es : List Exchange} {r : Except Fault β} :
    Yields (f <$> p) es r ↔ ∃ x, r = x.map f ∧ Yields p es x := by
  have h : Yields (f <$> p) es r ↔ Yields (p >>= fun a => pure (f a)) es r := Iff.rfl
  rw [h, yields_bind]
  constructor
  · rintro (⟨es₁, es₂, a, rfl, hp, ha⟩ | ⟨e, rfl, hp⟩)
    · obtain ⟨rfl, rfl⟩ := yields_pure.1 ha
      exact ⟨.ok a, rfl, by simpa using hp⟩
    · exact ⟨.error e, rfl, hp⟩
  · rintro ⟨x, rfl, hp⟩
    cases x with
    | ok a => exact .inl ⟨es, [], a, by simp, hp, yields_pure.2 ⟨rfl, rfl⟩⟩
    | error e => exact .inr ⟨e, rfl, hp⟩

theorem yields_lift {p : Program α} {es : List Exchange} {r : Except Fault α} :
    Yields (ExceptT.lift p) es r ↔ ∃ a, r = .ok a ∧ p.Yields es a := by
  have h : Yields (ExceptT.lift p) es r ↔ (p.bind fun a => .done (.ok a)).Yields es r := Iff.rfl
  rw [h, Program.yields_bind]
  constructor
  · rintro ⟨es₁, es₂, a, rfl, hp, ha⟩
    obtain ⟨rfl, rfl⟩ := yields_done.1 ha
    exact ⟨a, rfl, by simpa using hp⟩
  · rintro ⟨a, rfl, hp⟩
    exact ⟨es, [], a, by simp, hp, .done _⟩

theorem yields_mapFault {f : Fault → Fault} {p : Engine α} {es : List Exchange} {r : Except Fault α} :
    Yields (mapFault f p) es r ↔ ∃ x, r = x.mapError f ∧ Yields p es x := by
  have h : Yields (mapFault f p) es r ↔ (p.run.bind fun x => .done (x.mapError f)).Yields es r := Iff.rfl
  rw [h, Program.yields_bind]
  constructor
  · rintro ⟨es₁, es₂, x, rfl, hp, hx⟩
    obtain ⟨rfl, rfl⟩ := yields_done.1 hx
    exact ⟨x, rfl, by simpa using hp⟩
  · rintro ⟨x, rfl, hp⟩
    exact ⟨es, [], x, by simp, hp, .done _⟩

theorem yields_publish {status : BridgeStatus} {es : List Exchange} {r : Except Fault Unit} :
    Yields (publish status) es r ↔ es = [⟨.publish status, ()⟩] ∧ r = .ok () := by
  have h : Yields (publish status) es r ↔
      ((Program.ask (.publish status)).bind fun answer => .done (.ok answer)).Yields es r := Iff.rfl
  rw [h, Program.ask, Program.bind, yields_request]
  constructor
  · rintro ⟨answer, rest, rfl, hr⟩
    obtain ⟨rfl, rfl⟩ := yields_done.1 hr
    exact ⟨rfl, rfl⟩
  · rintro ⟨rfl, rfl⟩
    exact ⟨(), [], rfl, .done _⟩

theorem yields_executeRoute {route : Route} {es : List Exchange} {r : Except Fault RouteExecution} :
    Yields (executeRoute route) es r ↔ ∃ execution, es = [⟨.executeRoute route, execution⟩] ∧ r = .ok execution := by
  have h : Yields (executeRoute route) es r ↔
      (Program.request (.executeRoute route) fun answer => .done (.ok answer)).Yields es r := Iff.rfl
  rw [h, yields_request]
  constructor
  · rintro ⟨execution, rest, rfl, hr⟩
    obtain ⟨rfl, rfl⟩ := yields_done.1 hr
    exact ⟨execution, rfl, rfl⟩
  · rintro ⟨execution, rfl, rfl⟩
    exact ⟨execution, [], rfl, .done _⟩

theorem yields_ask {r : Request} {h : r.Answer = Except Fault α} {es : List Exchange} {x : Except Fault α} :
    Yields (ask r h) es x ↔ es = [⟨r, cast h.symm x⟩] := by
  have hr : Yields (ask r h) es x ↔ (Program.request r fun answer => .done (h ▸ answer)).Yields es x := Iff.rfl
  have hc : ∀ {β : Type} (h : β = Except Fault α) (b : β), (h ▸ b : Except Fault α) = cast h b := by
    intro β h b
    subst h
    rfl
  rw [hr, yields_request]
  constructor
  · rintro ⟨answer, rest, rfl, hx⟩
    obtain ⟨rfl, rfl⟩ := yields_done.1 hx
    simp [hc]
  · rintro rfl
    exact ⟨_, [], rfl, yields_done.2 (by simp [hc])⟩

theorem yields_mapFault_ask_bind {r : Request} {h : r.Answer = Except Fault α} {g : Fault → Fault} {k : α → Engine β}
    {es : List Exchange} {out : Except Fault β} :
    (mapFault g (ask r h) >>= k).Yields es out ↔
      ∃ answer es', es = ⟨r, cast h.symm answer⟩ :: es' ∧
        ((∃ f, answer = .error f ∧ es' = [] ∧ out = .error (g f)) ∨
          ∃ a, answer = .ok a ∧ (k a).Yields es' out) := by
  simp only [yields_bind, yields_mapFault, yields_ask]
  constructor
  · rintro (⟨es₁, es', a, rfl, ⟨x, hx, rfl⟩, hk⟩ | ⟨f, rfl, x, hx, rfl⟩)
    · cases x with
      | error f => cases hx
      | ok b =>
        cases hx
        exact ⟨.ok a, es', rfl, .inr ⟨a, rfl, hk⟩⟩
    · cases x with
      | ok b => cases hx
      | error f =>
        cases hx
        exact ⟨.error f, [], rfl, .inl ⟨f, rfl, rfl, rfl⟩⟩
  · rintro ⟨answer, es', rfl, ⟨f, rfl, rfl, rfl⟩ | ⟨a, rfl, hk⟩⟩
    · exact .inr ⟨g f, rfl, .error f, rfl, rfl⟩
    · exact .inl ⟨_, es', a, rfl, ⟨.ok a, rfl, rfl⟩, hk⟩

theorem yields_routes {request : RouteRequest} {es : List Exchange} {r : Except Fault (List Route)} :
    Yields (routes request) es r ↔ es = [⟨.routes request, r⟩] := by
  rw [routes, yields_ask, cast_eq]

theorem yields_balance {owner coinType : String} {es : List Exchange} {r : Except Fault Int} :
    Yields (balance owner coinType) es r ↔ es = [⟨.balance owner coinType, r⟩] := by
  rw [balance, yields_ask, cast_eq]

theorem yields_coins {owner coinType : String} {es : List Exchange} {r : Except Fault (List CoinRecord)} :
    Yields (coins owner coinType) es r ↔ es = [⟨.coins owner coinType, r⟩] := by
  rw [coins, yields_ask, cast_eq]

theorem yields_ownedObjects {owner structType : String} {es : List Exchange} {r : Except Fault (List String)} :
    Yields (ownedObjects owner structType) es r ↔ es = [⟨.ownedObjects owner structType, r⟩] := by
  rw [ownedObjects, yields_ask, cast_eq]

theorem yields_submit {tx : Transaction} {es : List Exchange} {r : Except Fault String} :
    Yields (submit tx) es r ↔ es = [⟨.submit tx, r⟩] := by
  rw [submit, yields_ask, cast_eq]

theorem yields_activeValidators {es : List Exchange} {r : Except Fault (List String)} :
    Yields activeValidators es r ↔ es = [⟨.activeValidators, r⟩] := by
  rw [activeValidators, yields_ask, cast_eq]

theorem yields_swapRoute {source target : String} {amount : Int} {es : List Exchange}
    {r : Except Fault (Option SwapQuote)} :
    Yields (swapRoute source target amount) es r ↔ es = [⟨.swapRoute source target amount, r⟩] := by
  rw [swapRoute, yields_ask, cast_eq]

theorem yields_swapBuild {q : SwapQuote} {input : Handle} {slippage : Number} {tx : Transaction} {es : List Exchange}
    {r : Except Fault SwapOutput} :
    Yields (swapBuild q input slippage tx) es r ↔ es = [⟨.swapBuild q input slippage tx, r⟩] := by
  rw [swapBuild, yields_ask, cast_eq]

def Asks (P : Request → Prop) (p : Engine α) : Prop := p.run.Asks P

variable {P : Request → Prop}

@[simp] theorem asks_pure {a : α} : Asks P (pure a) := trivial

@[simp] theorem asks_throw {f : Fault} : Asks P (throw f : Engine α) := trivial

@[simp] theorem asks_ofExcept {r : Except Fault α} : Asks P (ofExcept r) := trivial

@[simp] theorem asks_bind {p : Engine α} {f : α → Engine β} (hp : Asks P p) (hf : ∀ a, Asks P (f a)) :
    Asks P (p >>= f) := by
  apply Program.asks_bind hp
  intro x
  cases x with
  | ok a => exact hf a
  | error f => trivial

theorem asks_ofExcept_bind {r : Except Fault α} {f : α → Engine β} (hf : ∀ a, r = .ok a → Asks P (f a)) :
    Asks P (ofExcept r >>= f) := by
  cases r with
  | ok a => exact hf a rfl
  | error e => trivial

@[simp] theorem asks_ask {r : Request} {h : r.Answer = Except Fault α} : Asks P (ask r h) ↔ P r :=
  ⟨fun hp => hp.1, fun hr => ⟨hr, fun _ => trivial⟩⟩

theorem asks_publish {status : BridgeStatus} (h : P (.publish status)) : Asks P (publish status) :=
  ⟨h, fun _ => trivial⟩

theorem asks_executeRoute {route : Route} (h : P (.executeRoute route)) : Asks P (executeRoute route) :=
  ⟨h, fun _ => trivial⟩

theorem asks_lift {p : Program α} (hp : p.Asks P) : Asks P (ExceptT.lift p) :=
  Program.asks_bind hp fun _ => trivial

@[simp] theorem asks_mapFault {f : Fault → Fault} {p : Engine α} (hp : Asks P p) : Asks P (mapFault f p) :=
  Program.asks_bind hp fun _ => trivial

theorem Asks.imp {Q : Request → Prop} {p : Engine α} (hp : Asks P p) (h : ∀ r, P r → Q r) : Asks Q p :=
  Program.Asks.imp hp h

theorem Asks.of_yields {p : Engine α} {es : List Exchange} {r : Except Fault α} (hp : Asks P p)
    (h : p.Yields es r) : ∀ e ∈ es, P e.request :=
  Program.Asks.of_yields hp h

end Engine

namespace Rehearsal

def blank : Script where
  ledger := ⟨[], [], [], [], none, none, none, none⟩
  predicates := none
  names := ⟨[], []⟩
  swap := ⟨false, 0, none, none⟩
  routes := ⟨[], []⟩
  signer := ⟨"", none, false⟩

theorem yields_perform {α : Type} (p : Program α) (s : Rehearsal) :
    p.Yields (p.exchanges answer s) (perform p s).1 :=
  Program.yields_run answer p s

end Rehearsal

def Node.of (id : String) (data : NodeData) : Node := ⟨id, ⟨⟨.nan, false⟩, ⟨.nan, false⟩⟩, data⟩

def Step.of (index : Nat) (data : NodeData) : Step := ⟨index, .of s!"n{index}" data, false⟩

end LedgerFlow
