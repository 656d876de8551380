import LedgerFlow.Proofs.Wallet.Shortages

/-!
The same computation run again, with more to spend of one source. It gets as far as before, and its books differ only by
what there is more; an acquisition that failed for want of that source succeeds if what there is more covers what was
lacking.
-/

namespace LedgerFlow

variable {σ : Type} {answer : (r : Request) → σ → r.Answer × σ}

namespace CoinPool

def worth? (p : CoinPool) (coinType : String) : Option Int := (p.find? coinType).map (·.amount)

variable {p q : CoinPool}

theorem available_eq (p : CoinPool) (t : String) : p.available t = (p.worth? t).getD 0 := rfl

theorem worth?_erase (p : CoinPool) (t u : String) : (p.erase t).worth? u = if u = t then none else p.worth? u := by
  rw [worth?, find?_erase]
  split <;> rfl

theorem worth?_adjust (p : CoinPool) (t u : String) (change : Int) :
    (p.adjust t change).worth? u = (p.worth? u).map fun n => if u = t then n + change else n := by
  rw [worth?, find?_adjust, worth?, Option.map_map, Option.map_map]
  congr 1
  funext c
  simp only [Function.comp_apply]
  split <;> rfl

theorem worth?_insert {c : PooledCoin} (h : p.find? c.coinType = none) (u : String) :
    (p.insert c).worth? u = if u = c.coinType then some c.amount else p.worth? u := by
  rw [worth?, find?_insert h]
  split <;> rfl

end CoinPool

def Protocol.Setting.Asks (c : Protocol.Setting) (source : Source) (q : Request) : Prop :=
  ∃ symbol t, c.tokens.find? symbol = some t ∧ t.source = source ∧ q = t.inquiry c.signer

/-- Collaborators of a second run. They do as those of the first did, except that the signer has more to spend of one
source. The router may be handed another coin, in another transaction, and does not mind. -/
structure Rerun (answer : (r : Request) → σ → r.Answer × σ) (c : Protocol.Setting) (reserve : Int) (source : Source)
    where
  State : Type
  again : (r : Request) → State → r.Answer × State
  Same : σ → State → Prop
  more : Int
  nonneg : 0 ≤ more
  next : ∀ q s s', Same s s' → Same (answer q s).2 (again q s').2
  replenished : ∀ q s s' units, Same s s' → c.Asks source q →
    Exchange.opening? reserve ⟨q, (answer q s).1⟩ = some units →
      Exchange.opening? reserve ⟨q, (again q s').1⟩ = some (units + more)
  others : ∀ q s s', Same s s' → q.source? ≠ some source → (again q s').1 = (answer q s).1
  routed : ∀ q h h' slippage tx tx' s s', Same s s' → (answer (.swapBuild q h slippage tx) s).1.isOk = true →
    (again (.swapBuild q h' slippage tx') s').1.isOk = true ∧
      Same (answer (.swapBuild q h slippage tx) s).2 (again (.swapBuild q h' slippage tx') s').2
  candid : ∀ s s', Same s s' → Candid answer s

namespace Rerun

open Assembly

variable {c : Protocol.Setting} {reserve : Int} {source : Source} {r : Rerun answer c reserve source} {α β : Type}
  {w w' : Workspace} {s : σ} {s' : r.State} {symbol : String} {t : Token}

def extra (r : Rerun answer c reserve source) (u : Source) : Int := if u = source then r.more else 0

theorem extra_nonneg (r : Rerun answer c reserve source) (u : Source) : 0 ≤ r.extra u := by
  unfold extra
  split
  · exact r.nonneg
  · exact Int.le_refl 0

/-- The same books in both runs, except for what there is more. Transactions need not be the same. -/
structure Alike (r : Rerun answer c reserve source) (w w' : Workspace) : Prop where
  pool : ∀ t, w'.pool.worth? t = w.pool.worth? t
  owner : w.wallet.owner = c.signer ∧ w'.wallet.owner = c.signer
  reserve : w.wallet.reserve = reserve ∧ w'.wallet.reserve = reserve
  left : ∀ u, w'.wallet.left u = (w.wallet.left u).map (· + r.extra u)
  idle : w.wallet.Idle ∧ w'.wallet.Idle

theorem Alike.available (h : r.Alike w w') (t : String) : w'.pool.available t = w.pool.available t := by
  rw [CoinPool.available_eq, CoinPool.available_eq, h.pool]

theorem Alike.setTx (h : r.Alike w w') (tx tx' : Transaction) : r.Alike { w with tx := tx } { w' with tx := tx' } :=
  ⟨h.pool, h.owner, h.reserve, h.left, h.idle⟩

theorem Alike.setPool {p p' : CoinPool} (h : r.Alike w w') (hp : ∀ t, p'.worth? t = p.worth? t) :
    r.Alike { w with pool := p } { w' with pool := p' } :=
  ⟨hp, h.owner, h.reserve, h.left, h.idle⟩

theorem Alike.leaves {t : Token} {units : Int} {y y' : Wallet} (h : r.Alike w w') (hy : w.wallet.Leaves t units y)
    (hy' : w'.wallet.Leaves t (units + r.extra t.source) y') (tx tx' : Transaction) :
    r.Alike ⟨tx, w.pool, y⟩ ⟨tx', w'.pool, y'⟩ where
  pool := h.pool
  owner := ⟨hy.same.1.trans h.owner.1, hy'.same.1.trans h.owner.2⟩
  reserve := ⟨hy.same.2.trans h.reserve.1, hy'.same.2.trans h.reserve.2⟩
  left := by
    intro u
    by_cases hu : u = t.source
    · rw [hu, hy.left, hy'.left]
      rfl
    · rw [hy.kept u hu, hy'.kept u hu, h.left]
  idle := ⟨hy.idle, hy'.idle⟩

theorem Alike.look {units : Int} {s₁ : σ} (h : r.Alike w w') (hs : r.Same s s')
    (hknown : c.tokens.find? symbol = some t) (hl : w.wallet.look answer t s = (.ok units, s₁)) :
    ∃ s₁', w'.wallet.look r.again t s' = (.ok (units + r.extra t.source), s₁') ∧ r.Same s₁ s₁' := by
  cases hleft : w.wallet.left t.source with
  | some rest =>
    rw [Wallet.look_of_left hleft] at hl
    cases hl
    have hleft' : w'.wallet.left t.source = some (units + r.extra t.source) := by rw [h.left, hleft]; rfl
    exact ⟨s', Wallet.look_of_left hleft', hs⟩
  | none =>
    have hleft' : w'.wallet.left t.source = none := by rw [h.left, hleft]; rfl
    have hunits := (Wallet.look_eq_ok hleft).1 (congrArg Prod.fst hl)
    have hstate : (answer (t.inquiry w.wallet.owner) s).2 = s₁ :=
      (Wallet.state_look hleft).symm.trans (congrArg Prod.snd hl)
    rw [h.reserve.1, h.owner.1] at hunits
    have hunits' : (w'.wallet.look r.again t s').1 = .ok (units + r.extra t.source) := by
      rw [Wallet.look_eq_ok hleft', h.reserve.2, h.owner.2]
      by_cases hu : t.source = source
      · rw [extra, if_pos hu]
        exact r.replenished _ _ _ _ hs ⟨symbol, t, hknown, hu, rfl⟩ hunits
      · have hne : (t.inquiry c.signer).source? ≠ some source := by
          rw [t.source?_inquiry]
          exact fun heq => hu (Option.some.inj heq)
        rw [extra, if_neg hu, Int.add_zero, r.others _ _ _ hs hne]
        exact hunits
    refine ⟨(w'.wallet.look r.again t s').2, Prod.ext hunits' rfl, ?_⟩
    rw [Wallet.state_look hleft', h.owner.2, ← hstate, h.owner.1]
    exact r.next _ _ _ hs

/-- Wherever the first run goes on, so does the second, with related values. -/
def Follows (r : Rerun answer c reserve source) (R : α → α → Prop) (p p' : Assembly α) : Prop :=
  ∀ w w' s s' a w₁ s₁, r.Alike w w' → r.Same s s' → (p.run w).run answer s = ((.ok a, w₁), s₁) →
    ∃ a' w₁' s₁', (p'.run w').run r.again s' = ((.ok a', w₁'), s₁') ∧ r.Alike w₁ w₁' ∧ r.Same s₁ s₁' ∧ R a a'

variable {R : α → α → Prop} {p p' : Assembly α}

theorem follows_pure {a a' : α} (h : R a a') : r.Follows R (pure a) (pure a') := by
  rintro w w' s s' _ _ _ ha hs ⟨⟩
  exact ⟨a', w', s', rfl, ha, hs, h⟩

theorem follows_throw {f : Fault} : r.Follows R (throw f) p' := by
  rintro w w' s s' a w₁ s₁ ha hs ⟨⟩

theorem follows_throw_bind {f : Fault} {k : β → Assembly α} : r.Follows R (throw f >>= k) p' := by
  rintro w w' s s' a w₁ s₁ ha hs ⟨⟩

theorem follows_fail {x : Except Fault Fault} : r.Follows R (fail x) p' := by
  cases x <;> exact follows_throw

theorem follows_ofExcept {x : Except Fault α} (h : ∀ a, x = .ok a → R a a) :
    r.Follows R (Assembly.ofExcept x) (Assembly.ofExcept x) := by
  cases x with
  | ok a => exact follows_pure (h a rfl)
  | error f => exact follows_throw

theorem follows_ite {c c' : Prop} [Decidable c] [Decidable c'] {q q' : Assembly α} (h : c ↔ c')
    (hp : r.Follows R p p') (hq : r.Follows R q q') :
    r.Follows R (if c then p else q) (if c' then p' else q') := by
  by_cases hc : c
  · rwa [if_pos hc, if_pos (h.1 hc)]
  · rwa [if_neg hc, if_neg (mt h.2 hc)]

theorem follows_bind {S : β → β → Prop} {k k' : α → Assembly β} (hp : r.Follows R p p')
    (hk : ∀ a a', R a a' → r.Follows S (k a) (k' a')) : r.Follows S (p >>= k) (p' >>= k') := by
  intro w w' s s' b w₂ s₂ ha hs hrun
  cases hfirst : (p.run w).run answer s with
  | mk x s₁ =>
    obtain ⟨x, w₁⟩ := x
    cases x with
    | ok a =>
      rw [run_bind_of_run_ok hfirst] at hrun
      obtain ⟨a', w₁', s₁', hagain, ha₁, hs₁, hR⟩ := hp w w' s s' a w₁ s₁ ha hs hfirst
      obtain ⟨b', w₂', s₂', hlast, hrest⟩ := hk a a' hR w₁ w₁' s₁ s₁' b w₂ s₂ ha₁ hs₁ hrun
      exact ⟨b', w₂', s₂', by rw [run_bind_of_run_ok hagain, hlast], hrest⟩
    | error f =>
      have hfail := run_bind_error (k := k) (congrArg (·.1.1) hfirst)
      rw [hrun] at hfail
      cases hfail

theorem follows_ofExcept_bind {S : β → β → Prop} {x : Except Fault α} {k k' : α → Assembly β}
    (hk : ∀ a, x = .ok a → r.Follows S (k a) (k' a)) :
    r.Follows S (Assembly.ofExcept x >>= k) (Assembly.ofExcept x >>= k') := by
  cases x with
  | ok a => exact hk a rfl
  | error f => exact follows_throw_bind

theorem follows_eq_bind {S : β → β → Prop} {p p' : Assembly α} {k k' : α → Assembly β} (hp : r.Follows Eq p p')
    (hk : ∀ a, r.Follows S (k a) (k' a)) : r.Follows S (p >>= k) (p' >>= k') :=
  follows_bind hp fun a _ h => h ▸ hk a

theorem Follows.mapFault {f : Fault → Fault} (hp : r.Follows R p p') :
    r.Follows R (mapFault f p) (mapFault f p') := by
  intro w w' s s' a w₁ s₁ ha hs hrun
  have hmap : ∀ (q : Assembly α) w, (Assembly.mapFault f q).run w =
      (q.run w).bind fun x => .done (x.1.mapError f, x.2) := fun _ _ => rfl
  rw [hmap, Program.run_bind] at hrun
  cases hfirst : (p.run w).run answer s with
  | mk x s₂ =>
    obtain ⟨x, w₂⟩ := x
    rw [hfirst] at hrun
    cases x with
    | ok b =>
      cases hrun
      obtain ⟨a', w₁', s₁', hrun', hrest⟩ := hp w w' s s' _ _ _ ha hs hfirst
      exact ⟨a', w₁', s₁', by rw [hmap, Program.run_bind, hrun']; rfl, hrest⟩
    | error g => cases hrun

theorem follows_state : r.Follows r.Alike state state := by
  rintro w w' s s' _ _ _ ha hs ⟨⟩
  exact ⟨w', w', s', rfl, ha, hs, ha⟩

theorem follows_setTx (tx tx' : Transaction) : r.Follows Eq (setTx tx) (setTx tx') := by
  rintro w w' s s' _ _ _ ha hs ⟨⟩
  exact ⟨(), _, s', rfl, ha.setTx tx tx', hs, rfl⟩

theorem follows_setPool {q q' : CoinPool} (h : ∀ t, q'.worth? t = q.worth? t) :
    r.Follows Eq (setPool q) (setPool q') := by
  rintro w w' s s' _ _ _ ha hs ⟨⟩
  exact ⟨(), _, s', rfl, ha.setPool h, hs, rfl⟩

theorem follows_ask {q : Request} (hq : q.source? ≠ some source) (ht : q.Answer = Except Fault α) :
    r.Follows Eq (ofEngine (Engine.ask q ht)) (ofEngine (Engine.ask q ht)) := by
  intro w w' s s' a w₁ s₁ ha hs hrun
  have hfirst : ((ofEngine (Engine.ask q ht)).run w).run answer s = ((ht ▸ (answer q s).1, w), (answer q s).2) := rfl
  rw [hfirst, Prod.mk.injEq, Prod.mk.injEq] at hrun
  obtain ⟨⟨hok, rfl⟩, rfl⟩ := hrun
  refine ⟨a, w', (r.again q s').2, ?_, ha, r.next q s s' hs, rfl⟩
  have hagain : ((ofEngine (Engine.ask q ht)).run w').run r.again s' =
    ((ht ▸ (r.again q s').1, w'), (r.again q s').2) := rfl
  rw [hagain, r.others q s s' hs hq, hok]

/-! Commands; the handles in them need not be the same. -/

theorem follows_merge (destination destination' : Handle) (sources sources' : List Handle) :
    r.Follows Eq (merge destination sources) (merge destination' sources') := by
  rintro w w' s s' _ _ _ ha hs ⟨⟩
  exact ⟨(), _, s', rfl, ha.setTx _ _, hs, rfl⟩

theorem follows_transfer (objects objects' : List Handle) (recipient : Option String) :
    r.Follows Eq (transfer objects recipient) (transfer objects' recipient) := by
  rintro w w' s s' _ _ _ ha hs ⟨⟩
  exact ⟨(), _, s', rfl, ha.setTx _ _, hs, rfl⟩

theorem follows_call (target : String) (arguments arguments' : List Handle) (types : List String) :
    r.Follows (fun _ _ => True) (call target arguments types) (call target arguments' types) := by
  rintro w w' s s' _ _ _ ha hs ⟨⟩
  exact ⟨_, _, s', rfl, ha.setTx _ _, hs, trivial⟩

theorem follows_splitOne (coin coin' : Handle) (amount : Int) :
    r.Follows (fun _ _ => True) (splitOne coin amount) (splitOne coin' amount) := by
  intro w w' s s' a w₁ s₁ ha hs hrun
  by_cases hpos : 0 < amount
  · rw [splitOne_of_pos hpos] at hrun
    cases hrun
    exact ⟨_, _, s', by rw [splitOne_of_pos hpos]; rfl, ha.setTx _ _, hs, trivial⟩
  · rw [splitOne_of_not_pos hpos] at hrun
    cases hrun

/-! Coins -/

theorem follows_deposit (coinType : String) (coin coin' : Handle) (amount : Int) :
    r.Follows Eq (deposit coinType coin amount) (deposit coinType coin' amount) := by
  apply follows_bind follows_state
  intro x x' hx
  have hworth := hx.pool coinType
  cases hf : x.pool.find? coinType with
  | none =>
    have hf' : x'.pool.find? coinType = none := by simpa [CoinPool.worth?, hf] using hworth
    dsimp only
    rw [hf, hf']
    apply follows_setPool
    intro t
    rw [CoinPool.worth?_insert hf', CoinPool.worth?_insert hf, hx.pool]
  | some held =>
    obtain ⟨held', hf', -⟩ : ∃ held', x'.pool.find? coinType = some held' ∧ held'.amount = held.amount := by
      simpa [CoinPool.worth?, hf] using hworth
    dsimp only
    rw [hf, hf']
    apply follows_bind (follows_merge _ _ _ _)
    rintro _ _ -
    apply follows_setPool
    intro t
    rw [CoinPool.worth?_adjust, CoinPool.worth?_adjust, hx.pool]

theorem follows_withdraw (coinType : String) (amount : Int) :
    r.Follows (fun _ _ => True) (withdraw coinType amount) (withdraw coinType amount) := by
  apply follows_bind follows_state
  intro x x' hx
  have hworth := hx.pool coinType
  cases hf : x.pool.find? coinType with
  | none =>
    dsimp only
    rw [hf]
    exact follows_throw
  | some held =>
    obtain ⟨held', hf', hsame⟩ : ∃ held', x'.pool.find? coinType = some held' ∧ held'.amount = held.amount := by
      simpa [CoinPool.worth?, hf] using hworth
    dsimp only
    rw [hf, hf']
    refine follows_ite (by rw [hsame]) follows_throw_bind (follows_ite (by rw [hsame]) ?_ ?_)
    · apply follows_bind (follows_setPool fun t => ?_) fun _ _ _ => follows_pure trivial
      rw [CoinPool.worth?_erase, CoinPool.worth?_erase, hx.pool]
    · apply follows_bind (follows_setPool fun t => ?_) fun _ _ _ => follows_splitOne _ _ _
      rw [CoinPool.worth?_adjust, CoinPool.worth?_adjust, hx.pool]

theorem follows_draw {step amount : Int} (hknown : c.tokens.find? symbol = some t) (hpos : 0 < amount) :
    r.Follows (fun _ _ => True) (draw step t amount) (draw step t amount) := by
  intro w w' s s' coin w₁ s₁ ha hs hrun
  cases hl : w.wallet.look answer t s with
  | mk x s₂ =>
    cases x with
    | error f =>
      have hfail := draw_unanswered step hpos hl
      rw [hrun] at hfail
      cases hfail
    | ok units =>
      by_cases hle : amount ≤ units
      · obtain ⟨_, tx, y, hdraw, hy⟩ := draw_granted step ha.idle.1 hpos hl hle
        obtain ⟨s₂', hl', hs₂⟩ := ha.look hs hknown hl
        have hle' : amount ≤ units + r.extra t.source := by
          have := r.extra_nonneg t.source
          omega
        obtain ⟨coin', tx', y', hdraw', hy'⟩ := draw_granted step ha.idle.2 hpos hl' hle'
        cases hrun.symm.trans hdraw
        refine ⟨coin', _, s₂', hdraw', ha.leaves hy ?_ tx tx', hs₂, trivial⟩
        rwa [show units + r.extra t.source - amount = units - amount + r.extra t.source by omega] at hy'
      · obtain ⟨refused, hfail, -⟩ := draw_refused step ha.idle.1 hpos hl (Int.not_le.1 hle)
        rw [hrun] at hfail
        cases hfail

theorem Alike.opened (h : r.Alike w w') (t : String) :
    r.Alike { w with pool := w.pool.opened t } { w' with pool := w'.pool.opened t } := by
  apply h.setPool
  intro u
  unfold CoinPool.opened
  rw [h.available]
  split
  · exact h.pool u
  · rw [CoinPool.worth?_erase, CoinPool.worth?_erase, h.pool]

theorem follows_acquire (step : Int) (hknown : c.tokens.find? symbol = some t) (amount : Int) :
    r.Follows (fun _ _ => True) (acquire step t amount) (acquire step t amount) := by
  intro w w' s s' coin w₁ s₁ ha hs hrun
  have havailable := ha.available t.coinType
  by_cases hle : amount ≤ w.pool.available t.coinType
  · have hle' : amount ≤ w'.pool.available t.coinType := havailable ▸ hle
    rw [run_acquire_of_le hle] at hrun
    rw [run_acquire_of_le hle']
    exact follows_withdraw t.coinType amount w w' s s' coin w₁ s₁ ha hs hrun
  · have hlt := not_le.1 hle
    have hlt' : w'.pool.available t.coinType < amount := havailable ▸ hlt
    obtain ⟨k, hfirst, hk⟩ := run_acquire_of_lt step hlt
    obtain ⟨k', hagain, hk'⟩ := run_acquire_of_lt step hlt'
    have htopUp : r.Follows (fun _ _ => True) (draw step t (amount - w.pool.available t.coinType) >>= k)
        (draw step t (amount - w.pool.available t.coinType) >>= k') := by
      apply follows_bind (follows_draw hknown (sub_pos.2 hlt))
      rintro topUp topUp' - x x' z z' c x₁ z₁ hx hz hlast
      obtain ⟨c₀, tx, hc⟩ := hk topUp x
      obtain ⟨c', tx', hc'⟩ := hk' topUp' x'
      rw [hc] at hlast
      cases hlast
      exact ⟨c', _, z', by rw [hc']; rfl, hx.setTx tx tx', hz, trivial⟩
    rw [hfirst] at hrun
    rw [hagain, havailable]
    exact htopUp _ _ s s' coin w₁ s₁ (ha.opened t.coinType) hs hrun

theorem Alike.topUp {step amount : Int} {f : Fault} {asset : String} {d : Decimal} (ha : r.Alike w w')
    (hs : r.Same s s') (hknown : c.tokens.find? symbol = some t) (hsource : t.source = source)
    (h : (((acquire step t amount).run w).run answer s).1.1 = .error f) (hf : f.shortfall? = some (asset, d)) :
    ∃ lacking, 0 < lacking ∧ t.fromBaseUnits lacking = .ok d ∧
      (lacking ≤ r.more → ∃ coin, (((acquire step t amount).run w').run r.again s').1.1 = .ok coin) ∧
      (r.more < lacking → ∃ f' rest, (((acquire step t amount).run w').run r.again s').1.1 = .error f' ∧
        f'.shortfall? = some (asset, rest) ∧ t.fromBaseUnits (lacking - r.more) = .ok rest) := by
  obtain ⟨units, s₁, refused, hlt, hl, hshort, rfl, hr⟩ :=
    lacking_of_acquire ha.idle.1 (r.candid s s' hs) h (Fault.engine_of_shortfall? hf).1
  obtain ⟨rfl, hlacking, hspans⟩ := shown_of_refusal (sub_pos.2 hlt) hshort hr hf
  obtain ⟨s₁', hl', -⟩ := ha.look hs hknown hl
  have hextra : r.extra t.source = r.more := if_pos hsource
  rw [hextra] at hl'
  have hlt' : w'.pool.available t.coinType < amount := ha.available t.coinType ▸ hlt
  obtain ⟨k, hrun, hk⟩ := run_acquire_of_lt step hlt'
  rw [ha.available] at hrun
  refine ⟨amount - w.pool.available t.coinType - units, sub_pos.2 hshort, hlacking, fun hle => ?_, fun hmore => ?_⟩
  · obtain ⟨topUp, tx, y, hdraw, -⟩ :=
      draw_granted (w := { w' with pool := w'.pool.opened t.coinType }) step ha.idle.2 (sub_pos.2 hlt) hl' (by omega)
    obtain ⟨coin, tx', hlast⟩ := hk topUp ⟨tx, w'.pool.opened t.coinType, y⟩
    refine ⟨coin, ?_⟩
    rw [hrun, run_bind_of_run_ok hdraw, hlast]
    rfl
  · obtain ⟨refused', hdraw, hr'⟩ :=
      draw_refused (w := { w' with pool := w'.pool.opened t.coinType }) step ha.idle.2 (sub_pos.2 hlt) hl' (by omega)
    have hspans' : t.Spans ((amount - w.pool.available t.coinType).natAbs + (-(units + r.more)).toNat) := by
      have := r.nonneg
      exact fun n hn => hspans n (by omega)
    obtain ⟨rest, reason, hrest, hf'⟩ := resource_of_refusal (sub_pos.2 hlt) (by omega) hspans' hr'
    refine ⟨_, rest, by rw [hrun, run_bind_error hdraw], by rw [hf']; rfl, ?_⟩
    rw [← hrest]
    congr 1
    omega

end Rerun

end LedgerFlow
