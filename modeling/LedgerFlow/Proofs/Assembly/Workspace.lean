import LedgerFlow.Assembly.Transaction
import LedgerFlow.Proofs.Exchange

namespace LedgerFlow

namespace Assembly

open Program (yields_done)

variable {α β : Type} {w w' : Workspace} {es : List Exchange}

abbrev Yields (p : Assembly α) (w : Workspace) (es : List Exchange) (a : α) (w' : Workspace) : Prop :=
  (p.run w).Yields es (.ok a, w')

@[simp] theorem yields_pure {a b : α} : Yields (pure a) w es b w' ↔ es = [] ∧ b = a ∧ w' = w := by
  have h : Yields (pure a) w es b w' ↔ (Program.done ((.ok a : Except Fault α), w)).Yields es (.ok b, w') := Iff.rfl
  simp [h, yields_done]

@[simp] theorem yields_throw {f : Fault} {a : α} : ¬ Yields (throw f) w es a w' := by
  have h : Yields (throw f : Assembly α) w es a w' ↔
      (Program.done ((.error f : Except Fault α), w)).Yields es (.ok a, w') := Iff.rfl
  simp [h, yields_done]

theorem yields_bind {p : Assembly α} {f : α → Assembly β} {b : β} :
    Yields (p >>= f) w es b w' ↔
      ∃ es₁ a w₁, Yields p w es₁ a w₁ ∧ ∃ es₂, es = es₁ ++ es₂ ∧ Yields (f a) w₁ es₂ b w' := by
  have h : Yields (p >>= f) w es b w' ↔
      ((p.run w).bind fun r => ExceptT.bindCont f r.1 r.2).Yields es (.ok b, w') := Iff.rfl
  rw [h, Program.yields_bind]
  constructor
  · rintro ⟨es₁, es₂, ⟨x, w₁⟩, rfl, hp, hx⟩
    cases x with
    | ok a => exact ⟨es₁, a, w₁, hp, es₂, rfl, hx⟩
    | error f => exact nomatch (yields_done.1 hx).2
  · rintro ⟨es₁, a, w₁, hp, es₂, rfl, hf⟩
    exact ⟨es₁, es₂, (.ok a, w₁), rfl, hp, hf⟩

@[simp] theorem yields_ofEngine {p : Engine α} {a : α} :
    Yields (ofEngine p) w es a w' ↔ p.Yields es (.ok a) ∧ w' = w := by
  have h : Yields (ofEngine p) w es a w' ↔ (p.run.bind fun r => .done (r, w)).Yields es (.ok a, w') := Iff.rfl
  rw [h, Program.yields_bind]
  constructor
  · rintro ⟨es₁, es₂, x, rfl, hp, hx⟩
    obtain ⟨rfl, hx⟩ := yields_done.1 hx
    cases hx
    exact ⟨by simpa using hp, rfl⟩
  · rintro ⟨hp, rfl⟩
    exact ⟨es, [], .ok a, by simp, hp, .done _⟩

@[simp] theorem yields_ofExcept {r : Except Fault α} {a : α} :
    Yields (ofExcept r) w es a w' ↔ es = [] ∧ r = .ok a ∧ w' = w := by
  have h : Yields (ofExcept r) w es a w' ↔ (Program.done (r, w)).Yields es (.ok a, w') := Iff.rfl
  simp [h, yields_done, eq_comm]

@[simp] theorem yields_state {a : Workspace} : Yields state w es a w' ↔ es = [] ∧ a = w ∧ w' = w := by
  have h : Yields state w es a w' ↔ (Program.done ((.ok w : Except Fault Workspace), w)).Yields es (.ok a, w') :=
    Iff.rfl
  simp [h, yields_done]

@[simp] theorem yields_update {f : Workspace → Workspace} {a : Unit} :
    Yields (update f) w es a w' ↔ es = [] ∧ w' = f w := by
  have h : Yields (update f) w es a w' ↔
      (Program.done ((.ok () : Except Fault Unit), f w)).Yields es (.ok a, w') := Iff.rfl
  simp [h, yields_done]

@[simp] theorem yields_mapFault {f : Fault → Fault} {p : Assembly α} {a : α} :
    Yields (mapFault f p) w es a w' ↔ Yields p w es a w' := by
  have h : Yields (mapFault f p) w es a w' ↔
      ((p.run w).bind fun r => .done (r.1.mapError f, r.2)).Yields es (.ok a, w') := Iff.rfl
  rw [h, Program.yields_bind]
  constructor
  · rintro ⟨es₁, es₂, ⟨x, w₁⟩, rfl, hp, hx⟩
    obtain ⟨rfl, hx⟩ := yields_done.1 hx
    cases x with
    | ok b =>
      cases hx
      simpa using hp
    | error f => cases hx
  · intro hp
    exact ⟨es, [], (.ok a, w'), by simp, hp, .done _⟩

@[simp] theorem yields_fail {r : Except Fault Fault} {a : α} : ¬ Yields (fail r) w es a w' := by
  cases r <;> exact yields_throw

def Asks (P : Request → Prop) (p : Assembly α) : Prop := ∀ w, (p.run w).Asks P

variable {P : Request → Prop}

@[simp] theorem asks_pure {a : α} : Asks P (pure a) := fun _ => trivial

@[simp] theorem asks_throw {f : Fault} : Asks P (throw f : Assembly α) := fun _ => trivial

@[simp] theorem asks_bind {p : Assembly α} {f : α → Assembly β} (hp : Asks P p) (hf : ∀ a, Asks P (f a)) :
    Asks P (p >>= f) := by
  intro w
  apply Program.asks_bind (hp w)
  rintro ⟨x, w₁⟩
  cases x with
  | ok a => exact hf a w₁
  | error f => trivial

@[simp] theorem asks_ofExcept {r : Except Fault α} : Asks P (ofExcept r) := fun _ => trivial

theorem asks_ofExcept_bind {r : Except Fault α} {f : α → Assembly β} (hf : ∀ a, r = .ok a → Asks P (f a)) :
    Asks P (ofExcept r >>= f) := by
  cases r with
  | ok a => exact hf a rfl
  | error e => exact fun _ => trivial

@[simp] theorem asks_state : Asks P state := fun _ => trivial

@[simp] theorem asks_update {f : Workspace → Workspace} : Asks P (update f) := fun _ => trivial

@[simp] theorem asks_ofEngine {p : Engine α} (hp : p.Asks P) : Asks P (ofEngine p) := by
  intro w
  exact Program.asks_bind hp fun _ => trivial

@[simp] theorem asks_mapFault {f : Fault → Fault} {p : Assembly α} (hp : Asks P p) : Asks P (mapFault f p) := by
  intro w
  exact Program.asks_bind (hp w) fun _ => trivial

@[simp] theorem asks_fail {r : Except Fault Fault} : Asks P (fail r : Assembly α) := by
  cases r <;> exact asks_throw

@[simp] theorem asks_throw_bind {f : Fault} {k : α → Assembly β} : Asks P (throw f >>= k) := fun _ => trivial

@[simp] theorem asks_fail_bind {r : Except Fault Fault} {k : α → Assembly β} : Asks P (fail r >>= k) := by
  cases r <;> exact asks_throw_bind

theorem asks_ite {c : Prop} [Decidable c] {p q : Assembly α} (hp : Asks P p) (hq : Asks P q) :
    Asks P (if c then p else q) := by
  split
  · exact hp
  · exact hq

@[simp] theorem yields_setTx {tx : Transaction} {a : Unit} :
    Yields (setTx tx) w es a w' ↔ es = [] ∧ w' = { w with tx := tx } := yields_update

@[simp] theorem yields_setPool {p : CoinPool} {a : Unit} :
    Yields (setPool p) w es a w' ↔ es = [] ∧ w' = { w with pool := p } := yields_update

@[simp] theorem yields_setWallet {x : Wallet} {a : Unit} :
    Yields (setWallet x) w es a w' ↔ es = [] ∧ w' = { w with wallet := x } := yields_update

theorem yields_splitOne {coin piece : Handle} {amount : Int} :
    Yields (splitOne coin amount) w es piece w' ↔
      es = [] ∧ 0 < amount ∧ piece = .nestedResult w.tx.size 0 ∧
        w' = { w with tx := w.tx.append (.splitCoins coin [amount]) } := by
  by_cases h : amount ≤ 0
  · simp [splitOne, yields_bind, and_assoc, Transaction.splitOne, h, Int.not_lt.2 h]
  · simp [splitOne, yields_bind, and_assoc, Transaction.splitOne, h, Int.not_le.1 h]

theorem yields_merge {destination : Handle} {sources : List Handle} {a : Unit} :
    Yields (merge destination sources) w es a w' ↔
      es = [] ∧ w' = { w with tx := w.tx.merge destination sources } := by
  simp [merge, yields_bind, and_assoc]

theorem yields_transfer {objects : List Handle} {recipient : Option String} {a : Unit} :
    Yields (transfer objects recipient) w es a w' ↔
      es = [] ∧ w' = { w with tx := w.tx.append (.transferObjects objects recipient) } := by
  simp [transfer, yields_bind, and_assoc, Transaction.transfer]

theorem yields_call {target : String} {arguments : List Handle} {types : List String} {result : Handle} :
    Yields (call target arguments types) w es result w' ↔
      es = [] ∧ result = .result w.tx.size ∧
        w' = { w with tx := w.tx.append (.moveCall target arguments types) } := by
  simp [call, yields_bind, and_assoc, Transaction.call]

theorem yields_assemble {c : AssemblySetting} {steps : List Step} {result : AssemblyResult} :
    (assemble c steps).Yields es (.ok result) ↔
      ∃ reserve, reserveUnits c = .ok reserve ∧ ∃ w, Yields (build c steps) (start c reserve) es result w := by
  rw [assemble, Engine.yields_bind_ok]
  constructor
  · rintro ⟨_, _, reserve, rfl, hy, hb⟩
    obtain ⟨rfl, hr⟩ := Engine.yields_ofExcept.1 hy
    obtain ⟨_, _, ⟨x, w⟩, rfl, hb, hd⟩ := Program.yields_bind.1 hb
    obtain ⟨rfl, rfl⟩ := yields_done.1 hd
    exact ⟨reserve, hr.symm, w, by simpa using hb⟩
  · rintro ⟨reserve, hr, w, hb⟩
    refine ⟨[], es, reserve, rfl, Engine.yields_ofExcept.2 ⟨rfl, hr.symm⟩, ?_⟩
    exact Program.yields_bind.2 ⟨es, [], (.ok result, w), by simp, hb, .done _⟩

end Assembly

end LedgerFlow
