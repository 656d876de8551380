import LedgerFlow.Proofs.Assembly.Outlays

namespace LedgerFlow

open Assembly (Ends)

structure Purse (l : Ledger) (reserve : Int) (before : List Outlay) (w : Workspace) : Prop where
  pool : w.pool = .empty
  idle : w.wallet.Idle
  kept : w.wallet.reserve = reserve
  left : ∀ s, (w.wallet.left s).getD (l.spendable reserve s) = l.spendable reserve s - Outlay.total s before

def Outlay.Afforded (l : Ledger) (reserve : Int) (before : List Outlay) (x : Outlay) : Prop :=
  total x.source before + x.units ≤ l.spendable reserve x.source

inductive Settled (l : Ledger) (reserve : Int) (before : List Outlay) (x : Outlay) {α : Type} :
    Except Fault α → Workspace → Prop
  | paid {a : α} {w : Workspace} (h : x.Afforded l reserve before) (hp : Purse l reserve (before ++ [x]) w) :
      Settled l reserve before x (.ok a) w
  | lacking {f : Fault} {w : Workspace} (h : ¬x.Afforded l reserve before) (hf : f.isResource = true) :
      Settled l reserve before x (.error f) w

section

variable {l : Ledger} {reserve : Int} {before : List Outlay} {x : Outlay} {w : Workspace} {es : List Exchange}

theorem purse_start (l : Ledger) (c : AssemblySetting) (reserve : Int) :
    Purse l reserve [] (Assembly.start c reserve) where
  pool := rfl
  idle := Wallet.idle_empty
  kept := rfl
  left s := by simp [Assembly.start, Wallet.left_empty, Outlay.total]

theorem Purse.units_eq (hp : Purse l reserve before w) {units : Int} {opened : Wallet}
    (ho : w.wallet.Opens x.token es units opened) (ha : ∀ e ∈ es, l.Reports e) :
    units = l.spendable reserve x.source - Outlay.total x.source before := by
  have hleft := hp.left x.source
  cases ho with
  | known hl =>
    rw [Outlay.source, hl] at hleft
    exact hleft
  | @read e _ _ hl hr =>
    rw [Outlay.source, hl, Option.getD_none] at hleft
    rw [Outlay.source, ← hleft]
    have hreports := ha e List.mem_cons_self
    cases hr with
    | native hn =>
      rw [Wallet.source_of_native hn, hp.kept, hreports (TokenRegistry.sound_standard _ _ x.known hn)]
      rfl
    | coins hn =>
      obtain rfl := hreports
      rw [Wallet.source_of_coins hn]
      rfl

end

namespace Assembly

section

variable {α β : Type} {l : Ledger} {reserve : Int} {before : List Outlay} {x : Outlay}

def Leaves (p : Assembly α) : Prop :=
  ∀ w es r w', (∀ e ∈ es, e.isServed = true) → Ends p w es r w' →
    (∃ a, r = .ok a) ∧ w'.pool = w.pool ∧ w'.wallet = w.wallet

def Spends (l : Ledger) (reserve : Int) (before : List Outlay) (x : Outlay) (p : Assembly α) : Prop :=
  ∀ w es r w', Purse l reserve before w → (∀ e ∈ es, e.Serves l) → Ends p w es r w' → Settled l reserve before x r w'

theorem leaves_pure {a : α} : Leaves (pure a) := by
  intro w es r w' _ hy
  obtain ⟨-, rfl, rfl⟩ := ends_pure.1 hy
  exact ⟨⟨a, rfl⟩, rfl, rfl⟩

theorem leaves_of_run {p : Assembly α} (h : ∀ w, ∃ a tx, p.run w = .done (.ok a, { w with tx := tx })) : Leaves p := by
  intro w es r w' _ hy
  obtain ⟨a, tx, hrun⟩ := h w
  rw [Ends, hrun, Program.yields_done, Prod.mk.injEq] at hy
  obtain ⟨-, rfl, rfl⟩ := hy
  exact ⟨⟨a, rfl⟩, rfl, rfl⟩

theorem leaves_transfer (objects : List Handle) (recipient : Option String) : Leaves (transfer objects recipient) :=
  leaves_of_run fun _ => ⟨_, _, run_transfer objects recipient⟩

theorem leaves_call (target : String) (arguments : List Handle) (types : List String) :
    Leaves (call target arguments types) :=
  leaves_of_run fun _ => ⟨_, _, run_call target arguments types⟩

theorem leaves_bind {p : Assembly α} {f : α → Assembly β} (hp : Leaves p) (hf : ∀ a, Leaves (f a)) :
    Leaves (p >>= f) := by
  intro w es r w' ha hy
  obtain ⟨es₁, a, w₁, es₂, rfl, hm, hy⟩ | ⟨e, rfl, hm⟩ := ends_bind.1 hy
  · obtain ⟨-, hpool, hwallet⟩ := hp w es₁ _ w₁ (fun e he => ha e (List.mem_append_left _ he)) hm
    obtain ⟨hok, hpool', hwallet'⟩ := hf a w₁ es₂ r w' (fun e he => ha e (List.mem_append_right _ he)) hy
    exact ⟨hok, hpool'.trans hpool, hwallet'.trans hwallet⟩
  · obtain ⟨⟨a, h⟩, -⟩ := hp w es _ w' ha hm
    cases h

theorem leaves_ofEngine_bind {p : Engine α} {f : α → Assembly β}
    (h : ∀ es r, (∀ e ∈ es, e.isServed = true) → p.Yields es r → ∃ a, r = .ok a ∧ Leaves (f a)) :
    Leaves (ofEngine p >>= f) := by
  intro w es r w' ha hy
  obtain ⟨es₁, a, w₁, es₂, rfl, hm, hrest⟩ | ⟨e, rfl, hm⟩ := ends_bind.1 hy
  · obtain ⟨hp, rfl⟩ := yields_ofEngine.1 hm
    obtain ⟨b, heq, hf⟩ := h es₁ _ (fun e he => ha e (List.mem_append_left _ he)) hp
    cases heq
    exact hf _ es₂ r w' (fun e he => ha e (List.mem_append_right _ he)) hrest
  · obtain ⟨a, heq, -⟩ := h es _ ha (ends_ofEngine.1 hm).1
    cases heq

theorem Spends.bind {p : Assembly α} {f : α → Assembly β} (hp : Spends l reserve before x p) (hf : ∀ a, Leaves (f a)) :
    Spends l reserve before x (p >>= f) := by
  intro w es r w' hw ha hy
  obtain ⟨es₁, a, w₁, es₂, rfl, hm, hy⟩ | ⟨e, rfl, hm⟩ := ends_bind.1 hy
  · obtain ⟨⟨b, rfl⟩, hpool, hwallet⟩ := hf a w₁ es₂ r w' (fun e he => (ha e (List.mem_append_right _ he)).served) hy
    cases hp w es₁ _ w₁ hw (fun e he => ha e (List.mem_append_left _ he)) hm with
    | paid h hpaid =>
      exact .paid h ⟨hpool.trans hpaid.pool, hwallet ▸ hpaid.idle, hwallet ▸ hpaid.kept, hwallet ▸ hpaid.left⟩
  · cases hp w es _ w' hw ha hm with
    | lacking h hf => exact .lacking h hf

theorem Leaves.bind_spends {p : Assembly α} {f : α → Assembly β} (hp : Leaves p)
    (hf : ∀ a, Spends l reserve before x (f a)) : Spends l reserve before x (p >>= f) := by
  intro w es r w' hw ha hy
  obtain ⟨es₁, a, w₁, es₂, rfl, hm, hy⟩ | ⟨e, rfl, hm⟩ := ends_bind.1 hy
  · obtain ⟨-, hpool, hwallet⟩ := hp w es₁ _ w₁ (fun e he => (ha e (List.mem_append_left _ he)).served) hm
    have hw₁ : Purse l reserve before w₁ :=
      ⟨hpool.trans hw.pool, hwallet ▸ hw.idle, hwallet ▸ hw.kept, hwallet ▸ hw.left⟩
    exact hf a w₁ es₂ r w' hw₁ (fun e he => ha e (List.mem_append_right _ he)) hy
  · obtain ⟨⟨a, heq⟩, -⟩ := hp w es _ w' (fun e he => (ha e he).served) hm
    cases heq

theorem spends_ofExcept_bind {a : α} {y : Except Fault α} {f : α → Assembly β} (hy : y = .ok a)
    (hf : Spends l reserve before x (f a)) : Spends l reserve before x (ofExcept y >>= f) := by
  subst hy
  exact hf

theorem Spends.mapFault {p : Assembly α} {f : Fault → Fault} (hp : Spends l reserve before x p)
    (hf : ∀ e, e.isResource = true → (f e).isResource = true) : Spends l reserve before x (mapFault f p) := by
  intro w es r w' hw ha hy
  obtain ⟨y, rfl, hm⟩ := ends_mapFault.1 hy
  cases hp w es y w' hw ha hm with
  | paid h hpaid => exact .paid h hpaid
  | lacking h he => exact .lacking h (hf _ he)

theorem run_acquire_of_empty {w : Workspace} {step amount : Int} {t : Token} (hpool : w.pool = .empty)
    (hpos : 0 < amount) : (acquire step t amount).run w = (draw step t amount).run w := by
  have hnone : w.pool.available t.coinType = 0 := by rw [hpool]; rfl
  have hstate : (state.run w : Program (Except Fault Workspace × Workspace)) = .done (.ok w, w) := rfl
  rw [acquire, run_bind_of_ok hstate, hnone, if_neg (by omega), if_pos rfl]

theorem spends_acquire (step : Int) (hpos : 0 < x.units)
    (hspan : x.token.Spans (x.units + (Outlay.total x.source before - l.spendable reserve x.source).toNat)) :
    Spends l reserve before x (acquire step x.token x.units) := by
  intro w es r w' hw ha hy
  have hpos : 0 < (x.units : Int) := by omega
  have hreports := fun e he => (ha e he).reports
  rw [Ends, run_acquire_of_empty hw.pool hpos] at hy
  cases drawn_of_yields hw.idle hpos hy with
  | unanswered hfails => exact absurd ((ha _ List.mem_cons_self).answered.symm.trans hfails) (by decide)
  | @granted _ units opened next source merged ho hle hp =>
    have hunits := hw.units_eq ho hreports
    have hafforded : x.Afforded l reserve before := by
      rw [Outlay.Afforded]
      omega
    refine .paid hafforded ⟨hw.pool, hp.idle (ho.idle hw.idle), (hp.same.2.trans ho.same.2).trans hw.kept, fun s => ?_⟩
    rw [Outlay.total_append, Outlay.total_singleton]
    by_cases hs : x.source = s
    · obtain rfl := hs
      have hleft := hp.left ho.left
      rw [← Outlay.source] at hleft
      rw [hleft, if_pos rfl, Option.getD_some, hunits]
      push_cast
      omega
    · rw [hp.kept (Ne.symm hs), ho.kept (Ne.symm hs), hw.left, if_neg hs, Nat.add_zero]
  | @refused _ units opened refused ho hlt hr =>
    have hunits := hw.units_eq ho hreports
    have hspan : x.token.Spans ((x.units : Int).natAbs + (-units).toNat) := by
      rwa [hunits, Int.natAbs_natCast, neg_sub]
    obtain ⟨lacking, reason, -, hrefusal⟩ := resource_of_refusal hpos hlt hspan hr
    refine .lacking ?_ (by rw [hrefusal]; rfl)
    rw [Outlay.Afforded]
    omega

end

end Assembly

end LedgerFlow
