import LedgerFlow.Proofs.Assembly.Endings
import LedgerFlow.Proofs.Assembly.Courses
import LedgerFlow.Proofs.Condition.Readings
import LedgerFlow.Proofs.Wallet.Pool
import LedgerFlow.Proofs.Wallet.Units

namespace LedgerFlow

variable {σ : Type} {answer : (r : Request) → σ → r.Answer × σ}

/-- When the ledger fails, it does not put the failure down to a lack of coins. -/
structure Candid (answer : (r : Request) → σ → r.Answer × σ) (s : σ) : Prop where
  balance : ∀ owner coinType f, (answer (.balance owner coinType) s).1 = .error f → f.isResource = false
  coins : ∀ owner coinType f, (answer (.coins owner coinType) s).1 = .error f → f.isResource = false

/-- The asset that a failure is for want of, and how much of it is lacking. -/
def Fault.shortfall? : Fault → Option (String × Decimal)
  | .engine e => match e.kind with
    | .resource symbol lacking => lacking.map (symbol, ·)
    | _ => none
  | _ => none

theorem Fault.engine_of_shortfall? {f : Fault} {x : String × Decimal} (h : f.shortfall? = some x) :
    f.isResource = true ∧ ∃ e, f = .engine e := by
  cases f with
  | engine e =>
    obtain ⟨kind, reason, step, cause⟩ := e
    cases kind with
    | resource symbol lacking => exact ⟨rfl, _, rfl⟩
    | _ => cases h
  | _ => cases h

def CoinPool.opened (p : CoinPool) (coinType : String) : CoinPool :=
  if p.available coinType = 0 then p else p.erase coinType

namespace Token

variable {t : Token} {owner : String}

def inquiry (t : Token) (owner : String) : Request :=
  if t.isNative then .balance owner t.coinType else .coins owner t.coinType

theorem inquiry_of_native (hn : t.isNative = true) : t.inquiry owner = .balance owner t.coinType := if_pos hn

theorem inquiry_of_coins (hn : t.isNative = false) : t.inquiry owner = .coins owner t.coinType :=
  if_neg (Bool.eq_false_iff.1 hn)

theorem source?_inquiry (t : Token) (owner : String) : (t.inquiry owner).source? = some t.source := by
  cases hn : t.isNative with
  | true => rw [inquiry_of_native hn, Wallet.source_of_native hn, Request.source?]
  | false => rw [inquiry_of_coins hn, Wallet.source_of_coins hn, Request.source?]

end Token

namespace Wallet

variable {x y : Wallet} {t : Token} {s s₁ : σ} {units : Int}

def look (answer : (r : Request) → σ → r.Answer × σ) (x : Wallet) (t : Token) (s : σ) : Except Fault Int × σ :=
  if t.isNative then (x.nativeUnits t).run.run answer s
  else Prod.map (Except.map Holding.remaining) id ((x.holding t).run.run answer s)

theorem run_nativeUnits (hx : x.native = none) : (x.nativeUnits t).run.run answer s =
    ((answer (.balance x.owner t.coinType) s).1.map fun b => max (b - x.reserve) 0,
      (answer (.balance x.owner t.coinType) s).2) := by
  have hrun : (x.nativeUnits t).run.run answer s =
      Program.run answer (ExceptT.bindCont (fun b => (pure (max (b - x.reserve) 0) : Engine Int))
        (answer (.balance x.owner t.coinType) s).1) (answer (.balance x.owner t.coinType) s).2 := by
    rw [nativeUnits, hx]
    rfl
  rw [hrun]
  cases (answer (.balance x.owner t.coinType) s).1 <;> rfl

theorem run_holding (hx : x.holdings.lookup t.coinType = none) : (x.holding t).run.run answer s =
    ((answer (.coins x.owner t.coinType) s).1.map Holding.ofCoins, (answer (.coins x.owner t.coinType) s).2) := by
  have hrun : (x.holding t).run.run answer s =
      Program.run answer (ExceptT.bindCont (fun cs => (pure (.ofCoins cs) : Engine Holding))
        (answer (.coins x.owner t.coinType) s).1) (answer (.coins x.owner t.coinType) s).2 := by
    rw [holding, hx]
    rfl
  rw [hrun]
  cases (answer (.coins x.owner t.coinType) s).1 <;> rfl

theorem look_of_native (hn : t.isNative = true) : look answer x t s = (x.nativeUnits t).run.run answer s := if_pos hn

theorem look_of_coins (hn : t.isNative = false) :
    look answer x t s = Prod.map (Except.map Holding.remaining) id ((x.holding t).run.run answer s) :=
  if_neg (Bool.eq_false_iff.1 hn)

theorem look_of_left (hl : x.left t.source = some units) : look answer x t s = (.ok units, s) := by
  cases hn : t.isNative with
  | true =>
    rw [source_of_native hn] at hl
    have hx : x.native = some units := hl
    rw [look_of_native hn, nativeUnits, hx]
    rfl
  | false =>
    rw [source_of_coins hn] at hl
    obtain ⟨h, hh, rfl⟩ := Option.map_eq_some_iff.1 hl
    rw [look_of_coins hn, holding, hh]
    rfl

theorem state_look (hl : x.left t.source = none) : (look answer x t s).2 = (answer (t.inquiry x.owner) s).2 := by
  cases hn : t.isNative with
  | true =>
    rw [source_of_native hn] at hl
    rw [look_of_native hn, run_nativeUnits hl, Token.inquiry_of_native hn]
  | false =>
    rw [source_of_coins hn] at hl
    rw [look_of_coins hn, run_holding (Option.map_eq_none_iff.1 hl), Token.inquiry_of_coins hn]
    rfl

theorem look_eq_ok (hl : x.left t.source = none) : (look answer x t s).1 = .ok units ↔
    Exchange.opening? x.reserve ⟨t.inquiry x.owner, (answer (t.inquiry x.owner) s).1⟩ = some units := by
  cases hn : t.isNative with
  | true =>
    rw [source_of_native hn] at hl
    rw [look_of_native hn, run_nativeUnits hl, Token.inquiry_of_native hn]
    cases (answer (.balance x.owner t.coinType) s).1 <;> simp [Except.map, Exchange.opening?]
  | false =>
    rw [source_of_coins hn] at hl
    rw [look_of_coins hn, run_holding (Option.map_eq_none_iff.1 hl), Token.inquiry_of_coins hn]
    cases (answer (.coins x.owner t.coinType) s).1 <;> simp [Except.map, Exchange.opening?, Holding.remaining_ofCoins]

theorem isResource_of_look {f : Fault} (hc : Candid answer s) (h : (look answer x t s).1 = .error f) :
    f.isResource = false := by
  cases hl : x.left t.source with
  | some units =>
    rw [look_of_left hl] at h
    cases h
  | none =>
    cases hn : t.isNative with
    | true =>
      rw [source_of_native hn] at hl
      rw [look_of_native hn, run_nativeUnits hl] at h
      apply hc.balance x.owner t.coinType
      cases ha : (answer (.balance x.owner t.coinType) s).1 with
      | ok b => simp [ha, Except.map] at h
      | error g => simpa [ha, Except.map] using h
    | false =>
      rw [source_of_coins hn] at hl
      rw [look_of_coins hn, run_holding (Option.map_eq_none_iff.1 hl)] at h
      apply hc.coins x.owner t.coinType
      cases ha : (answer (.coins x.owner t.coinType) s).1 with
      | ok b => simp [ha, Except.map] at h
      | error g => simpa [ha, Except.map] using h

theorem idle_of_holding {h : Holding} (hi : x.Idle) (hy : (x.holding t).run.run answer s = (.ok h, s₁)) : h.Idle := by
  cases hl : x.holdings.lookup t.coinType with
  | some k =>
    rw [holding, hl] at hy
    cases hy
    exact hi _ _ hl
  | none =>
    rw [run_holding hl, Prod.mk.injEq] at hy
    cases ha : (answer (.coins x.owner t.coinType) s).1 with
    | ok cs =>
      rw [ha] at hy
      cases hy.1
      exact fun _ => rfl
    | error f =>
      rw [ha] at hy
      cases hy.1

theorem exists_holding (hn : t.isNative = false) (hl : look answer x t s = (.ok units, s₁)) :
    ∃ held, (x.holding t).run.run answer s = (.ok held, s₁) ∧ held.remaining = units := by
  rw [look_of_coins hn] at hl
  cases hheld : (x.holding t).run.run answer s with
  | mk y s₂ =>
    rw [hheld] at hl
    cases y with
    | ok held =>
      cases hl
      exact ⟨held, rfl, rfl⟩
    | error f => cases congrArg Prod.fst hl

structure Leaves (x : Wallet) (t : Token) (units : Int) (y : Wallet) : Prop where
  left : y.left t.source = some units
  kept : ∀ u, u ≠ t.source → y.left u = x.left u
  same : y.owner = x.owner ∧ y.reserve = x.reserve
  idle : y.Idle

end Wallet

namespace Assembly

variable {w w' : Workspace} {s s₁ : σ} {step amount units : Int} {t : Token}

theorem draw_granted (step : Int) (hi : w.wallet.Idle) (hpos : 0 < amount)
    (hl : w.wallet.look answer t s = (.ok units, s₁)) (hle : amount ≤ units) :
    ∃ coin tx y, ((draw step t amount).run w).run answer s = ((.ok coin, ⟨tx, w.pool, y⟩), s₁) ∧
      w.wallet.Leaves t (units - amount) y := by
  cases hn : t.isNative with
  | true =>
    rw [Wallet.look_of_native hn] at hl
    rw [draw, if_pos hn, run_drawNative hpos, Program.run_bind, hl]
    simp only [Int.not_lt.2 hle, if_false]
    refine ⟨_, _, _, rfl, ?_, fun u hu => ?_, ⟨rfl, rfl⟩, hi⟩
    · rw [Wallet.source_of_native hn]
      exact Wallet.left_setNative _ _
    · exact Wallet.left_setNative_of_ne _ (Wallet.source_of_native hn ▸ hu)
  | false =>
    obtain ⟨held, hheld, rfl⟩ := Wallet.exists_holding hn hl
    have hidle := Wallet.idle_of_holding hi hheld
    have hne : held.isEmpty = false := by
      refine Bool.eq_false_iff.2 fun he => ?_
      have := Holding.remaining_of_isEmpty hidle he
      omega
    obtain ⟨c, rest, hu⟩ := Holding.used_gather hidle hpos hle
    rw [draw, if_neg (Bool.eq_false_iff.1 hn), run_drawCoins hpos, Program.run_bind, hheld]
    simp only [hne, Int.not_lt.2 hle, Bool.false_eq_true, if_false]
    refine ⟨_, _, _, rfl, ?_, fun u hu => ?_, ⟨rfl, rfl⟩, Wallet.idle_setHolding hi _ fun hnil => ?_⟩
    · rw [Wallet.source_of_coins hn, Wallet.left_setHolding, Holding.remaining_spend]
    · exact Wallet.left_setHolding_of_ne _ (Wallet.source_of_coins hn ▸ hu)
    · exact absurd (hu.symm.trans hnil) (List.cons_ne_nil _ _)

theorem draw_refused (step : Int) (hi : w.wallet.Idle) (hpos : 0 < amount)
    (hl : w.wallet.look answer t s = (.ok units, s₁)) (hlt : units < amount) :
    ∃ refused, (((draw step t amount).run w).run answer s).1.1 = .error (refusal refused) ∧
      (refused = Wallet.shortfall step t amount units ∨ units = 0 ∧ refused = Wallet.noCoins step t amount) := by
  cases hn : t.isNative with
  | true =>
    rw [Wallet.look_of_native hn] at hl
    rw [draw, if_pos hn, run_drawNative hpos, Program.run_bind, hl]
    simp only [hlt, if_true]
    exact ⟨_, rfl, .inl rfl⟩
  | false =>
    obtain ⟨held, hheld, rfl⟩ := Wallet.exists_holding hn hl
    rw [draw, if_neg (Bool.eq_false_iff.1 hn), run_drawCoins hpos, Program.run_bind, hheld]
    cases he : held.isEmpty with
    | true =>
      have hzero := Holding.remaining_of_isEmpty (Wallet.idle_of_holding hi hheld) he
      simp only [he, if_true]
      exact ⟨_, rfl, .inr ⟨hzero, rfl⟩⟩
    | false =>
      simp only [he, hlt, Bool.false_eq_true, if_true, if_false]
      exact ⟨_, rfl, .inl rfl⟩

theorem draw_unanswered {f : Fault} (step : Int) (hpos : 0 < amount) (hl : w.wallet.look answer t s = (.error f, s₁)) :
    (((draw step t amount).run w).run answer s).1.1 = .error f := by
  cases hn : t.isNative with
  | true =>
    rw [Wallet.look_of_native hn] at hl
    rw [draw, if_pos hn, run_drawNative hpos, Program.run_bind, hl]
    rfl
  | false =>
    rw [Wallet.look_of_coins hn] at hl
    rw [draw, if_neg (Bool.eq_false_iff.1 hn), run_drawCoins hpos, Program.run_bind]
    cases hheld : (w.wallet.holding t).run.run answer s with
    | mk x s₂ =>
      rw [hheld] at hl
      cases x with
      | ok held => cases congrArg Prod.fst hl
      | error g =>
        cases congrArg Prod.fst hl
        rfl

theorem shown_of_refusal {refused : Except Fault Fault} {symbol : String} {d : Decimal} (hpos : 0 < amount)
    (hlt : units < amount)
    (hr : refused = Wallet.shortfall step t amount units ∨ units = 0 ∧ refused = Wallet.noCoins step t amount)
    (hf : (refusal refused).shortfall? = some (symbol, d)) :
    symbol = t.symbol ∧ t.fromBaseUnits (amount - units) = .ok d ∧ t.Spans (amount.natAbs + (-units).toNat) := by
  have hraises : ∀ n g, t.fromBaseUnits n = .error g → g.shortfall? ≠ some (symbol, d) := by
    intro n g hg hshort
    obtain ⟨-, e, rfl⟩ := Fault.engine_of_shortfall? hshort
    exact raises_fromBaseUnits t n e hg
  obtain rfl | ⟨rfl, rfl⟩ := hr
  · unfold Wallet.shortfall at hf
    cases hlacking : t.fromBaseUnits (amount - units) with
    | error g =>
      rw [hlacking] at hf
      exact absurd hf (hraises _ g hlacking)
    | ok lacking =>
      cases hneeded : t.fromBaseUnits amount with
      | error g =>
        rw [hlacking, hneeded] at hf
        exact absurd hf (hraises _ g hneeded)
      | ok needed =>
        cases havailable : t.fromBaseUnits units with
        | error g =>
          rw [hlacking, hneeded, havailable] at hf
          exact absurd hf (hraises _ g havailable)
        | ok available =>
          rw [hlacking, hneeded, havailable] at hf
          obtain ⟨rfl, rfl⟩ := Prod.mk.inj (Option.some.inj hf)
          refine ⟨rfl, rfl, ?_⟩
          -- The larger of the two is what is needed, or what is lacking if there is less than nothing.
          obtain hneg | hnonneg := lt_or_ge units 0
          · rw [show amount.natAbs + (-units).toNat = (amount - units).natAbs by omega]
            exact Token.spans_of_shown hlacking
          · rw [show amount.natAbs + (-units).toNat = amount.natAbs by omega]
            exact Token.spans_of_shown hneeded
  · unfold Wallet.noCoins at hf
    cases hlacking : t.fromBaseUnits amount with
    | error g =>
      rw [hlacking] at hf
      exact absurd hf (hraises _ g hlacking)
    | ok lacking =>
      rw [hlacking] at hf
      obtain ⟨rfl, rfl⟩ := Prod.mk.inj (Option.some.inj hf)
      refine ⟨rfl, by rw [Int.sub_zero, hlacking], ?_⟩
      rw [show amount.natAbs + (-(0 : Int)).toNat = amount.natAbs by omega]
      exact Token.spans_of_shown hlacking

theorem isResource_showing (ns : List Int) {f : Fault} (hf : f.isResource = false) :
    (Fault.showing ns f).isResource = false := by
  unfold Fault.showing
  split
  · rfl
  · exact hf

theorem splitOne_of_not_pos {coin : Handle} (h : ¬0 < amount) :
    (splitOne coin amount).run w = .done (.error (Transaction.splitAmountNotPositive amount), w) := by
  have hsplit : (splitOne coin amount).run w = (Assembly.ofExcept (w.tx.splitOne coin amount) >>= fun x => do
      setTx x.2
      return x.1).run w := rfl
  rw [hsplit, Transaction.splitOne, if_pos (Int.not_lt.1 h)]
  rfl

theorem isResource_splitOne {coin : Handle} {f : Fault}
    (h : (((splitOne coin amount).run w).run answer s).1.1 = .error f) : f.isResource = false := by
  by_cases hpos : 0 < amount
  · rw [splitOne_of_pos hpos] at h
    cases h
  · rw [splitOne_of_not_pos hpos] at h
    exact Except.error.inj h ▸ isResource_showing _ rfl

theorem isResource_withdraw {coinType : String} {f : Fault}
    (h : (((withdraw coinType amount).run w).run answer s).1.1 = .error f) : f.isResource = false := by
  have hstate : (state : Assembly Workspace).run w = .done (.ok w, w) := rfl
  have hlittle : (w.pool.holdsTooLittle coinType amount).isResource = false := isResource_showing _ rfl
  rw [withdraw, run_bind_of_ok hstate] at h
  dsimp only at h
  cases hf : w.pool.find? coinType with
  | none =>
    rw [hf] at h
    exact Except.error.inj h ▸ hlittle
  | some held =>
    rw [hf] at h
    dsimp only at h
    split at h
    · exact Except.error.inj h ▸ hlittle
    · split at h
      · cases h
      · have hset : (setPool (w.pool.adjust coinType (-amount))).run w =
          .done (.ok (), { w with pool := w.pool.adjust coinType (-amount) }) := rfl
        rw [run_bind_of_ok hset] at h
        exact isResource_splitOne h

theorem run_acquire (step : Int) (t : Token) (amount : Int) (w : Workspace) :
    (acquire step t amount).run w = (if amount ≤ w.pool.available t.coinType then withdraw t.coinType amount
      else if w.pool.available t.coinType = 0 then draw step t amount
      else take t.coinType >>= fun
        | none => draw step t amount
        | some held => do
          let topUp ← draw step t (amount - w.pool.available t.coinType)
          merge held.coin [topUp]
          return held.coin : Assembly Handle).run w := rfl

theorem run_acquire_of_le (hle : amount ≤ w.pool.available t.coinType) :
    (acquire step t amount).run w = (withdraw t.coinType amount).run w := by
  rw [run_acquire, if_pos hle]

theorem run_acquire_of_lt (step : Int) (hlt : w.pool.available t.coinType < amount) :
    ∃ k : Handle → Assembly Handle,
      (acquire step t amount).run w =
        (draw step t (amount - w.pool.available t.coinType) >>= k).run { w with pool := w.pool.opened t.coinType } ∧
      ∀ topUp w, ∃ coin tx, (k topUp).run w = .done (.ok coin, { w with tx := tx }) := by
  rw [run_acquire, if_neg (not_le.2 hlt)]
  by_cases hzero : w.pool.available t.coinType = 0
  · have := Program.lawfulMonad
    refine ⟨pure, ?_, fun topUp w => ⟨topUp, w.tx, rfl⟩⟩
    rw [if_pos hzero, bind_pure, hzero, Int.sub_zero, CoinPool.opened, if_pos hzero]
  · cases hf : w.pool.find? t.coinType with
    | none => exact absurd (CoinPool.available_of_find?_none hf) hzero
    | some held =>
      refine ⟨fun topUp => merge held.coin [topUp] >>= fun _ => pure held.coin, ?_, fun topUp w => ⟨_, _, rfl⟩⟩
      rw [if_neg hzero, CoinPool.opened, if_neg hzero]
      have htake : (take t.coinType).run w = .done (.ok (some held), { w with pool := w.pool.erase t.coinType }) := by
        rw [← hf]
        rfl
      exact run_bind_of_ok htake

theorem lacking_of_acquire {f : Fault} (hi : w.wallet.Idle) (hc : Candid answer s)
    (h : (((acquire step t amount).run w).run answer s).1.1 = .error f) (hf : f.isResource = true) :
    ∃ units s₁ refused, w.pool.available t.coinType < amount ∧ w.wallet.look answer t s = (.ok units, s₁) ∧
      units < amount - w.pool.available t.coinType ∧ f = refusal refused ∧
      (refused = Wallet.shortfall step t (amount - w.pool.available t.coinType) units ∨
        units = 0 ∧ refused = Wallet.noCoins step t (amount - w.pool.available t.coinType)) := by
  have hlt : w.pool.available t.coinType < amount := by
    by_contra hle
    rw [run_acquire_of_le (not_lt.1 hle)] at h
    exact absurd (hf.symm.trans (isResource_withdraw h)) (by decide)
  have hpos : 0 < amount - w.pool.available t.coinType := sub_pos.2 hlt
  obtain ⟨k, hrun, hk⟩ := run_acquire_of_lt step hlt
  rw [hrun] at h
  cases hl : w.wallet.look answer t s with
  | mk x s₁ =>
    cases x with
    | error g =>
      have hdraw := draw_unanswered (w := { w with pool := w.pool.opened t.coinType }) step hpos hl
      have hresource := Wallet.isResource_of_look hc (congrArg Prod.fst hl)
      cases h.symm.trans (run_bind_error hdraw)
      exact absurd (hf.symm.trans hresource) (by decide)
    | ok units =>
      by_cases hle : amount - w.pool.available t.coinType ≤ units
      · obtain ⟨coin, tx, y, hdraw, -⟩ :=
          draw_granted (w := { w with pool := w.pool.opened t.coinType }) step hi hpos hl hle
        obtain ⟨coin', tx', hlast⟩ := hk coin _
        rw [run_bind_of_run_ok hdraw, hlast] at h
        cases h
      · obtain ⟨refused, hdraw, hr⟩ :=
          draw_refused (w := { w with pool := w.pool.opened t.coinType }) step hi hpos hl (not_le.1 hle)
        exact ⟨units, s₁, refused, hlt, rfl, not_le.1 hle, Except.error.inj (h.symm.trans (run_bind_error hdraw)), hr⟩

end Assembly

end LedgerFlow
