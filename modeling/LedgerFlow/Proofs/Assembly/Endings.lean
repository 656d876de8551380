import LedgerFlow.Proofs.Assembly.Workspace
import LedgerFlow.Proofs.Wallet.Draws

namespace LedgerFlow

namespace Assembly

open Program (yields_done)

variable {α β : Type} {w w' : Workspace} {es : List Exchange} {r : Except Fault α}

abbrev Ends (p : Assembly α) (w : Workspace) (es : List Exchange) (r : Except Fault α) (w' : Workspace) : Prop :=
  (p.run w).Yields es (r, w')

@[simp] theorem ends_pure {a : α} : Ends (pure a) w es r w' ↔ es = [] ∧ r = .ok a ∧ w' = w := by
  have h : Ends (pure a) w es r w' ↔ (Program.done ((.ok a : Except Fault α), w)).Yields es (r, w') := Iff.rfl
  rw [h, yields_done, Prod.mk.injEq]

@[simp] theorem ends_throw_bind {f : Fault} {g : α → Assembly β} {r : Except Fault β} :
    Ends (throw f >>= g) w es r w' ↔ es = [] ∧ r = .error f ∧ w' = w := by
  have h : Ends (throw f >>= g) w es r w' ↔ (Program.done ((.error f : Except Fault β), w)).Yields es (r, w') := Iff.rfl
  rw [h, yields_done, Prod.mk.injEq]

theorem ends_bind {p : Assembly α} {f : α → Assembly β} {r : Except Fault β} :
    Ends (p >>= f) w es r w' ↔
      (∃ es₁ a w₁ es₂, es = es₁ ++ es₂ ∧ Yields p w es₁ a w₁ ∧ Ends (f a) w₁ es₂ r w') ∨
        ∃ e, r = .error e ∧ Ends p w es (.error e) w' := by
  have h : Ends (p >>= f) w es r w' ↔
      ((p.run w).bind fun x => ExceptT.bindCont f x.1 x.2).Yields es (r, w') := Iff.rfl
  rw [h, Program.yields_bind]
  constructor
  · rintro ⟨es₁, es₂, ⟨x, w₁⟩, rfl, hp, hx⟩
    cases x with
    | ok a => exact .inl ⟨es₁, a, w₁, es₂, rfl, hp, hx⟩
    | error e =>
      obtain ⟨rfl, heq⟩ := yields_done.1 hx
      cases heq
      exact .inr ⟨e, rfl, by simpa using hp⟩
  · rintro (⟨es₁, a, w₁, es₂, rfl, hp, hf⟩ | ⟨e, rfl, hp⟩)
    · exact ⟨es₁, es₂, (.ok a, w₁), rfl, hp, hf⟩
    · exact ⟨es, [], (.error e, w'), by simp, hp, .done _⟩

@[simp] theorem ends_ofExcept {x : Except Fault α} : Ends (ofExcept x) w es r w' ↔ es = [] ∧ r = x ∧ w' = w := by
  have h : Ends (ofExcept x) w es r w' ↔ (Program.done (x, w)).Yields es (r, w') := Iff.rfl
  rw [h, yields_done, Prod.mk.injEq]

@[simp] theorem ends_ofEngine {p : Engine α} : Ends (ofEngine p) w es r w' ↔ p.Yields es r ∧ w' = w := by
  have h : Ends (ofEngine p) w es r w' ↔ (p.run.bind fun x => .done (x, w)).Yields es (r, w') := Iff.rfl
  rw [h, Program.yields_bind]
  constructor
  · rintro ⟨es₁, es₂, x, rfl, hp, hx⟩
    obtain ⟨rfl, heq⟩ := yields_done.1 hx
    cases heq
    exact ⟨by simpa using hp, rfl⟩
  · rintro ⟨hp, rfl⟩
    exact ⟨es, [], r, by simp, hp, .done _⟩

@[simp] theorem ends_mapFault {f : Fault → Fault} {p : Assembly α} :
    Ends (mapFault f p) w es r w' ↔ ∃ x, r = x.mapError f ∧ Ends p w es x w' := by
  have h : Ends (mapFault f p) w es r w' ↔
      ((p.run w).bind fun x => .done (x.1.mapError f, x.2)).Yields es (r, w') := Iff.rfl
  rw [h, Program.yields_bind]
  constructor
  · rintro ⟨es₁, es₂, ⟨x, w₁⟩, rfl, hp, hx⟩
    obtain ⟨rfl, heq⟩ := yields_done.1 hx
    cases heq
    exact ⟨x, rfl, by simpa using hp⟩
  · rintro ⟨x, rfl, hp⟩
    exact ⟨es, [], (x, w'), by simp, hp, .done _⟩

theorem ends_ofExcept_bind {x : Except Fault α} {f : α → Assembly β} {r : Except Fault β} :
    Ends (ofExcept x >>= f) w es r w' ↔
      (∃ a, x = .ok a ∧ Ends (f a) w es r w') ∨ ∃ e, x = .error e ∧ es = [] ∧ r = .error e ∧ w' = w := by
  rw [ends_bind]
  constructor
  · rintro (⟨es₁, a, w₁, es₂, rfl, hp, hf⟩ | ⟨e, rfl, hp⟩)
    · obtain ⟨rfl, hx, rfl⟩ := yields_ofExcept.1 hp
      exact .inl ⟨a, hx, hf⟩
    · obtain ⟨rfl, hx, rfl⟩ := ends_ofExcept.1 hp
      exact .inr ⟨e, hx.symm, rfl, rfl, rfl⟩
  · rintro (⟨a, hx, hf⟩ | ⟨e, hx, rfl, rfl, rfl⟩)
    · exact .inl ⟨[], a, w, es, rfl, yields_ofExcept.2 ⟨rfl, hx, rfl⟩, hf⟩
    · exact .inr ⟨e, rfl, ends_ofExcept.2 ⟨rfl, hx.symm, rfl⟩⟩

theorem run_fail (x : Except Fault Fault) : (fail x : Assembly α).run w = .done (.error (refusal x), w) := by
  cases x <;> rfl

theorem run_bind_of_ok {p : Assembly α} {f : α → Assembly β} {a : α} {w₁ : Workspace}
    (h : p.run w = .done (.ok a, w₁)) : (p >>= f).run w = (f a).run w₁ := by
  have hbind : (p >>= f).run w = (p.run w).bind fun x => ExceptT.bindCont f x.1 x.2 := rfl
  rw [hbind, h]
  rfl

theorem run_bind_of_error {p : Assembly α} {f : α → Assembly β} {e : Fault} {w₁ : Workspace}
    (h : p.run w = .done (.error e, w₁)) : (p >>= f).run w = .done (.error e, w₁) := by
  have hbind : (p >>= f).run w = (p.run w).bind fun x => ExceptT.bindCont f x.1 x.2 := rfl
  rw [hbind, h]
  rfl

theorem ends_bind_of_ok {p : Assembly α} {f : α → Assembly β} {a : α} {w₁ : Workspace} {r : Except Fault β}
    (h : p.run w = .done (.ok a, w₁)) : Ends (p >>= f) w es r w' ↔ Ends (f a) w₁ es r w' := by
  rw [Ends, run_bind_of_ok h]

theorem ends_bind_of_error {p : Assembly α} {f : α → Assembly β} {e : Fault} {w₁ : Workspace} {r : Except Fault β}
    (h : p.run w = .done (.error e, w₁)) : Ends (p >>= f) w es r w' ↔ es = [] ∧ r = .error e ∧ w' = w₁ := by
  rw [Ends, run_bind_of_error h, yields_done, Prod.mk.injEq]

theorem run_transfer (objects : List Handle) (recipient : Option String) :
    (transfer objects recipient).run w =
      .done (.ok (), { w with tx := w.tx.append (.transferObjects objects recipient) }) := rfl

theorem run_call (target : String) (arguments : List Handle) (types : List String) :
    (call target arguments types).run w =
      .done (.ok (.result w.tx.size), { w with tx := w.tx.append (.moveCall target arguments types) }) := rfl

end Assembly

end LedgerFlow
