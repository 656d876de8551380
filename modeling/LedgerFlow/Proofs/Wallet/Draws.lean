import LedgerFlow.Proofs.Assembly.Workspace
import LedgerFlow.Proofs.Wallet.Selection

namespace LedgerFlow

/-- Where units come from. Those of the native token are only counted; those of any other type are in coins. -/
inductive Source
  | native
  | coins (coinType : String)
deriving DecidableEq, Repr

def Token.source (t : Token) : Source := if t.isNative then .native else .coins t.coinType

def Request.source? : Request → Option Source
  | .balance .. => some .native
  | .coins _ coinType => some (.coins coinType)
  | _ => none

namespace Exchange

/-- What can be spent at first, by what the ledger says there is. -/
def opening? (reserve : Int) : Exchange → Option Int
  | ⟨.balance .., .ok units⟩ => some (max (units - reserve) 0)
  | ⟨.coins .., .ok cs⟩ => some (Holding.total cs)
  | _ => none

/-- The ledger did not fail to say what there is. -/
def isAnswered : Exchange → Bool
  | ⟨.balance .., .error _⟩ => false
  | ⟨.coins .., .error _⟩ => false
  | _ => true

end Exchange

namespace Wallet

def left (x : Wallet) : Source → Option Int
  | .native => x.native
  | .coins coinType => (x.holdings.lookup coinType).map Holding.remaining

def Idle (x : Wallet) : Prop := ∀ t h, x.holdings.lookup t = some h → h.Idle

/-- What the ledger is asked for, what there is to spend by its answer, and what the books say then. -/
inductive Reads (x : Wallet) (t : Token) : Exchange → Int → Wallet → Prop
  | native {units : Int} (hn : t.isNative = true) :
      Reads x t ⟨.balance x.owner t.coinType, .ok units⟩ (max (units - x.reserve) 0)
        (x.setNative (max (units - x.reserve) 0))
  | coins {cs : List CoinRecord} (hn : t.isNative = false) :
      Reads x t ⟨.coins x.owner t.coinType, .ok cs⟩ (Holding.total cs) (x.setHolding t.coinType (.ofCoins cs))

/-- How many units are left of a token when some are to be drawn. The ledger is asked unless it was asked before. -/
inductive Opens (x : Wallet) (t : Token) : List Exchange → Int → Wallet → Prop
  | known {units : Int} (hl : x.left t.source = some units) : Opens x t [] units x
  | read {e : Exchange} {units : Int} {y : Wallet} (hl : x.left t.source = none) (hr : x.Reads t e units y) :
      Opens x t [e] units y

/-- What an amount is split off, what is merged into that before, and what the books say afterwards. -/
inductive Pays (x : Wallet) (t : Token) (amount : Int) : Handle → List Handle → Wallet → Prop
  | native {units : Int} (hn : t.isNative = true) (hl : x.native = some units) :
      Pays x t amount .gas [] (x.setNative (units - amount))
  | coins {h : Holding} {c : CoinRecord} {rest : List CoinRecord} (hn : t.isNative = false)
      (hl : x.holdings.lookup t.coinType = some h) (hs : h.Selects amount (h.gather amount))
      (hu : (h.gather amount).used = c :: rest) :
      Pays x t amount (.object c.objectId) (h.merged (h.gather amount))
        (x.setHolding t.coinType ((h.gather amount).spend amount))

section

variable {x y next : Wallet} {t : Token} {s : Source} {es : List Exchange} {e : Exchange} {units amount : Int}
  {source : Handle} {merged : List Handle} {h : Holding}

theorem left_empty {owner : String} {reserve : Int} (s : Source) : (empty owner reserve).left s = none := by
  cases s <;> rfl

theorem idle_empty {owner : String} {reserve : Int} : (empty owner reserve).Idle := by
  intro t h hl
  cases hl

theorem left_setNative (x : Wallet) (units : Int) : (x.setNative units).left .native = some units := rfl

theorem left_setNative_of_ne (units : Int) (hs : s ≠ .native) : (x.setNative units).left s = x.left s := by
  cases s with
  | native => exact absurd rfl hs
  | coins coinType => rfl

theorem left_setHolding (x : Wallet) (coinType : String) (h : Holding) :
    (x.setHolding coinType h).left (.coins coinType) = some h.remaining := by
  simp [left, setHolding, Json.lookup_put]

theorem left_setHolding_of_ne {coinType : String} (h : Holding) (hs : s ≠ .coins coinType) :
    (x.setHolding coinType h).left s = x.left s := by
  cases s with
  | native => rfl
  | coins other =>
    have hne : other ≠ coinType := by
      rintro rfl
      exact hs rfl
    simp [left, setHolding, Json.lookup_put, hne]

theorem setHolding_setHolding (x : Wallet) (coinType : String) (h later : Holding) :
    (x.setHolding coinType h).setHolding coinType later = x.setHolding coinType later := by
  simp [setHolding, Json.put_put]

theorem idle_setHolding (hx : x.Idle) (coinType : String) (hh : h.Idle) : (x.setHolding coinType h).Idle := by
  intro u k hk
  rw [setHolding, Json.lookup_put] at hk
  split at hk
  · cases hk
    exact hh
  · exact hx u k hk

theorem source_eq_native : t.source = .native ↔ t.isNative = true := by simp [Token.source]

theorem source_eq_coins {coinType : String} :
    t.source = .coins coinType ↔ t.isNative = false ∧ t.coinType = coinType := by
  cases hn : t.isNative <;> simp [Token.source, hn]

theorem source_of_native (hn : t.isNative = true) : t.source = .native := source_eq_native.2 hn

theorem source_of_coins (hn : t.isNative = false) : t.source = .coins t.coinType := source_eq_coins.2 ⟨hn, rfl⟩

theorem Reads.left (hr : x.Reads t e units y) : y.left t.source = some units := by
  cases hr with
  | native hn =>
    rw [source_of_native hn]
    exact left_setNative _ _
  | coins hn => rw [source_of_coins hn, left_setHolding, Holding.remaining_ofCoins]

theorem Reads.kept (hr : x.Reads t e units y) (hs : s ≠ t.source) : y.left s = x.left s := by
  cases hr with
  | native hn => exact left_setNative_of_ne _ (source_of_native hn ▸ hs)
  | coins hn => exact left_setHolding_of_ne _ (source_of_coins hn ▸ hs)

theorem Reads.same (hr : x.Reads t e units y) : y.owner = x.owner ∧ y.reserve = x.reserve := by
  cases hr <;> exact ⟨rfl, rfl⟩

theorem Reads.idle (hr : x.Reads t e units y) (hx : x.Idle) : y.Idle := by
  cases hr with
  | native => exact hx
  | coins => exact idle_setHolding hx _ fun _ => rfl

theorem Reads.source? (hr : x.Reads t e units y) : e.request.source? = some t.source := by
  cases hr with
  | native hn => exact congrArg some (source_of_native hn).symm
  | coins hn => exact congrArg some (source_of_coins hn).symm

theorem Reads.opening? (hr : x.Reads t e units y) : e.opening? x.reserve = some units := by
  cases hr <;> rfl

theorem Opens.left (ho : x.Opens t es units y) : y.left t.source = some units := by
  cases ho with
  | known hl => exact hl
  | read _ hr => exact hr.left

theorem Opens.kept (ho : x.Opens t es units y) (hs : s ≠ t.source) : y.left s = x.left s := by
  cases ho with
  | known => rfl
  | read _ hr => exact hr.kept hs

theorem Opens.same (ho : x.Opens t es units y) : y.owner = x.owner ∧ y.reserve = x.reserve := by
  cases ho with
  | known => exact ⟨rfl, rfl⟩
  | read _ hr => exact hr.same

theorem Opens.idle (ho : x.Opens t es units y) (hx : x.Idle) : y.Idle := by
  cases ho with
  | known => exact hx
  | read _ hr => exact hr.idle hx

theorem Pays.left (hp : y.Pays t amount source merged next) (hl : y.left t.source = some units) :
    next.left t.source = some (units - amount) := by
  cases hp with
  | native hn hx =>
    rw [source_of_native hn] at hl ⊢
    cases hx.symm.trans hl
    exact left_setNative _ _
  | coins hn hx =>
    rw [source_of_coins hn] at hl ⊢
    simp only [Wallet.left, hx, Option.map_some, Option.some.injEq] at hl
    rw [left_setHolding, Holding.remaining_spend, hl]

theorem Pays.kept (hp : y.Pays t amount source merged next) (hs : s ≠ t.source) : next.left s = y.left s := by
  cases hp with
  | native hn => exact left_setNative_of_ne _ (source_of_native hn ▸ hs)
  | coins hn => exact left_setHolding_of_ne _ (source_of_coins hn ▸ hs)

theorem Pays.same (hp : y.Pays t amount source merged next) : next.owner = y.owner ∧ next.reserve = y.reserve := by
  cases hp <;> exact ⟨rfl, rfl⟩

theorem Pays.idle (hp : y.Pays t amount source merged next) (hy : y.Idle) : next.Idle := by
  cases hp with
  | native => exact hy
  | coins _ _ _ hu =>
    apply idle_setHolding hy
    intro hnil
    exact absurd (hu.symm.trans hnil) (List.cons_ne_nil _ _)

theorem opens_nativeUnits (hn : t.isNative = true) (hy : (x.nativeUnits t).Yields es (.ok units)) :
    x.Opens t es units (x.setNative units) := by
  unfold nativeUnits at hy
  split at hy
  · next known hx =>
    obtain ⟨rfl, ⟨⟩⟩ := Engine.yields_pure.1 hy
    have hsame : x.setNative units = x := by
      cases x
      cases hx
      rfl
    rw [hsame]
    exact .known (source_of_native hn ▸ hx)
  · next hx =>
    obtain ⟨es₁, es₂, n, rfl, hb, hp⟩ := Engine.yields_bind_ok.1 hy
    obtain ⟨rfl, ⟨⟩⟩ := Engine.yields_pure.1 hp
    obtain rfl := Engine.yields_balance.1 hb
    exact .read (source_of_native hn ▸ hx) (.native hn)

theorem opens_holding (hn : t.isNative = false) (hy : (x.holding t).Yields es (.ok h)) :
    x.Opens t es h.remaining (x.setHolding t.coinType h) := by
  unfold holding at hy
  split at hy
  · next known hx =>
    obtain ⟨rfl, ⟨⟩⟩ := Engine.yields_pure.1 hy
    have hsame : x.setHolding t.coinType h = x := by rw [setHolding, Json.put_of_lookup hx]
    rw [hsame]
    exact .known (by simp [source_of_coins hn, left, hx])
  · next hx =>
    obtain ⟨es₁, es₂, cs, rfl, hb, hp⟩ := Engine.yields_bind_ok.1 hy
    obtain ⟨rfl, ⟨⟩⟩ := Engine.yields_pure.1 hp
    obtain rfl := Engine.yields_coins.1 hb
    rw [Holding.remaining_ofCoins]
    exact .read (by simp [source_of_coins hn, left, hx]) (.coins hn)

theorem unanswered_nativeUnits {f : Fault} (hy : (x.nativeUnits t).Yields es (.error f)) :
    es = [⟨.balance x.owner t.coinType, .error f⟩] := by
  unfold nativeUnits at hy
  split at hy
  · exact nomatch (Engine.yields_pure.1 hy).2
  · obtain ⟨es₁, es₂, n, rfl, -, hp⟩ | ⟨g, ⟨⟩, hb⟩ := Engine.yields_bind.1 hy
    · exact nomatch (Engine.yields_pure.1 hp).2
    · exact Engine.yields_balance.1 hb

theorem unanswered_holding {f : Fault} (hy : (x.holding t).Yields es (.error f)) :
    es = [⟨.coins x.owner t.coinType, .error f⟩] := by
  unfold holding at hy
  split at hy
  · exact nomatch (Engine.yields_pure.1 hy).2
  · obtain ⟨es₁, es₂, n, rfl, -, hp⟩ | ⟨g, ⟨⟩, hb⟩ := Engine.yields_bind.1 hy
    · exact nomatch (Engine.yields_pure.1 hp).2
    · exact Engine.yields_coins.1 hb

end

end Wallet

namespace Assembly

open Program (yields_done)

section

variable {α β : Type} {w : Workspace}

def refusal : Except Fault Fault → Fault
  | .ok f => f
  | .error f => f

theorem run_fail_bind (x : Except Fault Fault) (f : α → Assembly β) :
    (fail x >>= f).run w = .done (.error (refusal x), w) := by
  cases x <;> rfl

theorem run_ofEngine_bind (p : Engine α) (f : α → Assembly β) :
    (ofEngine p >>= f).run w = p.run.bind fun x => match x with
      | .ok a => (f a).run w
      | .error e => .done (.error e, w) := by
  have h : (ofEngine p >>= f).run w =
      ((p.run.bind fun r => .done (r, w)).bind fun r => ExceptT.bindCont f r.1 r.2) := rfl
  rw [h, Program.bind_assoc]
  congr 1
  funext x
  cases x <;> rfl

end

section

variable {w w' : Workspace} {es : List Exchange} {step amount : Int} {t : Token} {r : Except Fault Handle}

inductive Drawn (w : Workspace) (step : Int) (t : Token) (amount : Int) :
    List Exchange → Except Fault Handle → Workspace → Prop
  | unanswered {e : Exchange} {f : Fault} (ha : e.isAnswered = false) : Drawn w step t amount [e] (.error f) w
  | granted {es : List Exchange} {units : Int} {opened next : Wallet} {source : Handle} {merged : List Handle}
      (ho : w.wallet.Opens t es units opened) (hle : amount ≤ units)
      (hp : opened.Pays t amount source merged next) :
      Drawn w step t amount es (.ok (.nestedResult (w.tx.merge source merged).size 0))
        ⟨(w.tx.merge source merged).append (.splitCoins source [amount]), w.pool, next⟩
  | refused {es : List Exchange} {units : Int} {opened : Wallet} {refused : Except Fault Fault}
      (ho : w.wallet.Opens t es units opened) (hlt : units < amount)
      (hr : refused = Wallet.shortfall step t amount units ∨ units = 0 ∧ refused = Wallet.noCoins step t amount) :
      Drawn w step t amount es (.error (refusal refused)) { w with wallet := opened }

theorem splitOne_of_pos {coin : Handle} (hpos : 0 < amount) :
    (splitOne coin amount).run w =
      .done (.ok (.nestedResult w.tx.size 0), { w with tx := w.tx.append (.splitCoins coin [amount]) }) := by
  have h : (splitOne coin amount).run w = (ofExcept (w.tx.splitOne coin amount) >>= fun r => do
    setTx r.2
    return r.1).run w := rfl
  rw [h, Transaction.splitOne, if_neg (Int.not_le.2 hpos)]
  rfl

theorem run_drawNative (hpos : 0 < amount) : (drawNative step t amount).run w =
    (w.wallet.nativeUnits t).run.bind fun x => match x with
      | .error f => .done (.error f, w)
      | .ok units =>
        if units < amount then
          .done (.error (refusal (Wallet.shortfall step t amount units)), { w with wallet := w.wallet.setNative units })
        else .done (.ok (.nestedResult w.tx.size 0),
          ⟨w.tx.append (.splitCoins .gas [amount]), w.pool, w.wallet.setNative (units - amount)⟩) := by
  have h : (drawNative step t amount).run w = (ofEngine (w.wallet.nativeUnits t) >>= fun units => do
      setWallet (w.wallet.setNative units)
      if units < amount then fail (Wallet.shortfall step t amount units)
      setWallet (w.wallet.setNative (units - amount))
      splitOne .gas amount).run w := rfl
  rw [h, run_ofEngine_bind]
  congr 1
  funext x
  cases x with
  | error f => rfl
  | ok units =>
    by_cases hlt : units < amount
    · simp only [hlt, if_true]
      exact run_fail_bind _ _
    · simp only [hlt, if_false]
      exact splitOne_of_pos hpos

theorem run_drawCoins (hpos : 0 < amount) : (drawCoins step t amount).run w =
    (w.wallet.holding t).run.bind fun x => match x with
      | .error f => .done (.error f, w)
      | .ok held =>
        let read : Workspace := { w with wallet := w.wallet.setHolding t.coinType held }
        let gathered := held.gather amount
        let tx := w.tx.merge gathered.primary (held.merged gathered)
        if held.isEmpty then .done (.error (refusal (Wallet.noCoins step t amount)), read)
        else if held.remaining < amount then
          .done (.error (refusal (Wallet.shortfall step t amount held.remaining)), read)
        else .done (.ok (.nestedResult tx.size 0),
          ⟨tx.append (.splitCoins gathered.primary [amount]), w.pool,
            w.wallet.setHolding t.coinType (gathered.spend amount)⟩) := by
  have h : (drawCoins step t amount).run w = (ofEngine (w.wallet.holding t) >>= fun held => do
      setWallet (w.wallet.setHolding t.coinType held)
      if held.isEmpty then fail (Wallet.noCoins step t amount)
      if held.remaining < amount then fail (Wallet.shortfall step t amount held.remaining)
      let gathered := held.gather amount
      merge gathered.primary (held.merged gathered)
      setWallet (w.wallet.setHolding t.coinType (gathered.spend amount))
      splitOne gathered.primary amount).run w := rfl
  rw [h, run_ofEngine_bind]
  congr 1
  funext x
  cases x with
  | error f => rfl
  | ok held =>
    by_cases he : held.isEmpty = true
    · simp only [he, if_true]
      exact run_fail_bind _ _
    · by_cases hlt : held.remaining < amount
      · simp only [he, hlt, if_true]
        exact run_fail_bind _ _
      · simp only [he, hlt, if_false]
        exact splitOne_of_pos hpos

theorem drawn_drawNative (hn : t.isNative = true) (hpos : 0 < amount)
    (hy : ((drawNative step t amount).run w).Yields es (r, w')) : Drawn w step t amount es r w' := by
  rw [run_drawNative hpos, Program.yields_bind] at hy
  obtain ⟨es₁, es₂, x, rfl, hx, hy⟩ := hy
  cases x with
  | error f =>
    obtain ⟨rfl, heq⟩ := yields_done.1 hy
    cases heq
    rw [List.append_nil, Wallet.unanswered_nativeUnits hx]
    exact .unanswered rfl
  | ok units =>
    have ho := Wallet.opens_nativeUnits hn hx
    by_cases hlt : units < amount
    · simp only [hlt, if_true] at hy
      obtain ⟨rfl, heq⟩ := yields_done.1 hy
      cases heq
      rw [List.append_nil]
      exact .refused ho hlt (.inl rfl)
    · simp only [hlt, if_false] at hy
      obtain ⟨rfl, heq⟩ := yields_done.1 hy
      cases heq
      rw [List.append_nil]
      exact .granted ho (Int.not_lt.1 hlt) (.native hn rfl)

theorem drawn_drawCoins (hn : t.isNative = false) (hi : w.wallet.Idle) (hpos : 0 < amount)
    (hy : ((drawCoins step t amount).run w).Yields es (r, w')) : Drawn w step t amount es r w' := by
  rw [run_drawCoins hpos, Program.yields_bind] at hy
  obtain ⟨es₁, es₂, x, rfl, hx, hy⟩ := hy
  cases x with
  | error f =>
    obtain ⟨rfl, heq⟩ := yields_done.1 hy
    cases heq
    rw [List.append_nil, Wallet.unanswered_holding hx]
    exact .unanswered rfl
  | ok held =>
    have ho := Wallet.opens_holding hn hx
    have hl : (w.wallet.setHolding t.coinType held).holdings.lookup t.coinType = some held := by
      simp [Wallet.setHolding, Json.lookup_put]
    have hidle : held.Idle := ho.idle hi _ _ hl
    by_cases he : held.isEmpty = true
    · simp only [he, if_true] at hy
      obtain ⟨rfl, heq⟩ := yields_done.1 hy
      cases heq
      have hzero : held.remaining = 0 := Holding.remaining_of_isEmpty hidle he
      rw [List.append_nil]
      exact .refused ho (hzero ▸ hpos) (.inr ⟨hzero, rfl⟩)
    · by_cases hlt : held.remaining < amount
      · simp only [he, hlt, if_true] at hy
        obtain ⟨rfl, heq⟩ := yields_done.1 hy
        cases heq
        rw [List.append_nil]
        exact .refused ho hlt (.inl rfl)
      · simp only [he, hlt, if_false] at hy
        obtain ⟨rfl, heq⟩ := yields_done.1 hy
        cases heq
        have hle := Int.not_lt.1 hlt
        obtain ⟨c, rest, hu⟩ := Holding.used_gather hidle hpos hle
        have hp := Wallet.Pays.coins hn hl (Holding.selects_gather hle) hu
        have hprimary : (held.gather amount).primary = .object c.objectId := by simp [Holding.primary, hu]
        rw [Wallet.setHolding_setHolding] at hp
        rw [List.append_nil, hprimary]
        exact .granted ho hle hp

theorem drawn_of_yields (hi : w.wallet.Idle) (hpos : 0 < amount)
    (hy : ((draw step t amount).run w).Yields es (r, w')) : Drawn w step t amount es r w' := by
  unfold draw at hy
  split at hy
  · next hn => exact drawn_drawNative hn hpos hy
  · next hn => exact drawn_drawCoins (Bool.eq_false_iff.2 hn) hi hpos hy

end

end Assembly

end LedgerFlow
