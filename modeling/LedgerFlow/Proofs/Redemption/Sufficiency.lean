import LedgerFlow.Proofs.Assembly.Endings
import LedgerFlow.Proofs.Decimal.Quotients
import LedgerFlow.Proofs.Decimal.Range
import LedgerFlow.Proofs.Redemption.Assembled

namespace LedgerFlow

/-- The leading coins that hold so many units, and no more of them than it takes. -/
structure Shortest (units : Int) (coins taken : List CoinRecord) : Prop where
  leading : taken <+: coins
  enough : units ≤ Holding.total taken
  least : ∀ other, other <+: coins → units ≤ Holding.total other → taken.length ≤ other.length

def Transaction.gather (tx : Transaction) (c : CoinRecord) (rest : List CoinRecord) (units : Int) : Transaction :=
  (tx.merge (.object c.objectId) (CoinStore.handles rest)).append (.splitCoins (.object c.objectId) [units])

def Transaction.piece (tx : Transaction) : Handle := .nestedResult (tx.size - 1) 0

def Transaction.result (tx : Transaction) : Handle := .result (tx.size - 1)

namespace Protocol.Scallop

open Assembly (Ends)

def rate (symbol : String) : ℚ := (exchangeRate symbol).value?.getD 1

/-- The market coins that stand for an amount exactly, rounded up. -/
def exactShares (t : Token) (q : ℚ) : ℤ := ⌈q / rate t.symbol * 10 ^ t.decimals⌉

def wrappedTotal (l : Ledger) (t : Token) : Int := Holding.total (wrappedOf l t)

def plainTotal (l : Ledger) (t : Token) : Int := Holding.total (l.coinsOf (marketCoinType t))

/-- What is to be redeemed: no more than there is of both kinds. -/
def redeemable (l : Ledger) (t : Token) (d : LendData) : Except Fault Int := do
  return min (← sharesFor t d.amount) (wrappedTotal l t + plainTotal l t)

def redeemCall (t : Token) (coin : Handle) : Command :=
  .moveCall (package ++ "::redeem::redeem_entry") [version, market, coin, clock] [t.coinType]

def unwrapCall (t : Token) (x : WrappedCoin) (coin : Handle) : Command :=
  .moveCall (converter ++ "::s_coin_converter::burn_s_coin") [.object x.treasury, coin] [x.coinType, t.coinType]

def unwrapped (t : Token) (x : WrappedCoin) (tx : Transaction) : Transaction := tx.append (unwrapCall t x tx.piece)

/-- How a withdrawal comes by the market coin that it redeems: out of the wrapped coins if they hold enough, or else
out of the others; it does not if there are too few of both, or if there is nothing to be redeemed. -/
inductive Sourced (l : Ledger) (s : Step) (t : Token) (units : Int) (tx : Transaction) :
    Except Fault Handle → Transaction → Prop
  | wrapped {x : WrappedCoin} {first : CoinRecord} {rest : List CoinRecord} {next : Transaction} (hpos : 0 < units)
      (hx : wrappedCoins.lookup t.symbol = some x) (hs : Shortest units (l.coinsOf x.coinType) (first :: rest))
      (hnext : next = unwrapped t x (tx.gather first rest units)) : Sourced l s t units tx (.ok next.result) next
  | plain {first : CoinRecord} {rest : List CoinRecord} {next : Transaction} (hpos : 0 < units)
      (hw : wrappedTotal l t < units) (hs : Shortest units (l.coinsOf (marketCoinType t)) (first :: rest))
      (hnext : next = tx.gather first rest units) : Sourced l s t units tx (.ok next.piece) next
  | short {asked lacking : Decimal} (hw : wrappedTotal l t < units) (hp : plainTotal l t < units)
      (hasked : t.fromBaseUnits units = .ok asked)
      (hlacking : t.fromBaseUnits (units - max (wrappedTotal l t) (plainTotal l t)) = .ok lacking) :
      Sourced l s t units tx (.error (.engine (.onStep (.resource ("s" ++ t.symbol) (some lacking)) s.index
        (.insufficientShares t.symbol asked)))) tx
  | stranded (hle : units ≤ 0) : Sourced l s t units tx (.error .indexOutOfRange) tx

inductive Withdrawal (l : Ledger) (s : Step) (d : LendData) (t : Token) (tx : Transaction) :
    Except Fault Unit → Transaction → Prop
  | absent (hw : wrappedOf l t = []) (hp : l.coinsOf (marketCoinType t) = []) :
      Withdrawal l s d t tx (.error (noShares s d t)) tx
  | uncounted {f : Fault} (hf : sharesFor t d.amount = .error f) : Withdrawal l s d t tx (.error f) tx
  | failed {units : Int} {f : Fault} {next : Transaction} (hn : redeemable l t d = .ok units)
      (hs : Sourced l s t units tx (.error f) next) : Withdrawal l s d t tx (.error f) next
  | redeemed {units : Int} {coin : Handle} {next : Transaction} (hn : redeemable l t d = .ok units)
      (hs : Sourced l s t units tx (.ok coin) next) : Withdrawal l s d t tx (.ok ()) (next.append (redeemCall t coin))

section

variable {l : Ledger} {c : Setting} {s : Step} {d : LendData} {t : Token} {w w' : Workspace} {es : List Exchange}
  {units : Int} {coins rest : List CoinRecord} {first : CoinRecord} {x : WrappedCoin} {a : Decimal} {q : ℚ}

theorem value?_exchangeRate (symbol : String) :
    (exchangeRate symbol).value? = some (rate symbol) ∧ 1 ≤ rate symbol := by
  have hone : (1 : Decimal).value? = some 1 := (Decimal.value?_ofInt 1).trans (congrArg some Int.cast_one)
  unfold rate exchangeRate
  split
  · norm_num
  · norm_num
  · norm_num
  · norm_num
  · simp [hone]

theorem sharesFor_eq (ha : a.value? = some q) (ht : 0 ≤ t.decimals) (hd : t.decimals ≤ Decimal.highestAdjusted)
    (hq : |q / rate t.symbol| ≤ 10 ^ Decimal.highestAdjusted) (hpos : 0 ≤ q / rate t.symbol)
    (hscaled : |Decimal.round (q / rate t.symbol) * 10 ^ t.decimals| ≤ 10 ^ Decimal.highestAdjusted) :
    sharesFor t (some a) = .ok ⌈Decimal.round (Decimal.round (q / rate t.symbol) * 10 ^ t.decimals)⌉ := by
  obtain ⟨hrate, hone⟩ := value?_exchangeRate t.symbol
  obtain ⟨shares, hshares, hvalue⟩ := (Decimal.rounds_div ha hrate (by linarith)).ok_of_le hq
  obtain ⟨unit, hunit, hten⟩ := Decimal.value?_tenPow ht hd
  obtain ⟨scaled, hmul, hresult⟩ := (Decimal.rounds_mul hvalue hten).ok_of_le hscaled
  obtain ⟨s, c, e, rfl, heq⟩ := Decimal.value?_eq_some.1 hresult
  have hnonneg : 0 ≤ Decimal.ratio s c e := by
    rw [heq]
    exact Decimal.round_nonneg (mul_nonneg (Decimal.round_nonneg hpos) (Decimal.ten_zpow_pos _).le)
  have hfound : sharesFor t (some a) = .ok (Decimal.ceiling s c e) :=
    except_bind_eq_ok.2 ⟨shares, congrArg Amount.ofResult hshares, except_bind_eq_ok.2 ⟨unit,
      congrArg Amount.ofResult hunit, except_bind_eq_ok.2 ⟨_, congrArg Amount.ofResult hmul, rfl⟩⟩⟩
  rw [hfound, Decimal.ceiling_of_nonneg hnonneg, heq]

theorem sharesFor_of_lt (ha : a.value? = some q) (hq : 0 < q) (ht : 0 ≤ t.decimals)
    (hd : t.decimals ≤ Decimal.highestAdjusted) (hlt : exactShares t q < 10 ^ 28) :
    ∃ n, sharesFor t (some a) = .ok n ∧ (n = exactShares t q ∨ n = exactShares t q - 1) := by
  have hone := (value?_exchangeRate t.symbol).2
  set p := q / rate t.symbol with hp
  have hpos : 0 < p := div_pos hq (one_pos.trans_le hone)
  have hunit := Decimal.ten_zpow_pos t.decimals
  set n := exactShares t q with hn
  have hnpos : 0 < n := Int.ceil_pos.2 (mul_pos hpos hunit)
  obtain ⟨hlow, hhigh⟩ := Int.ceil_eq_iff.1 hn.symm
  have hdigits : pow10 Decimal.precision = 10 ^ 28 := rfl
  have hexp : Decimal.lowestExponent ≤ -t.decimals := by
    simp only [Decimal.lowestExponent, Decimal.highestAdjusted] at *
    omega
  -- The quotient lies between two whole numbers of units, which both roundings keep.
  have hquotient : ((n - 1 : ℤ) : ℚ) ≤ Decimal.round p * 10 ^ t.decimals ∧
      Decimal.round p * 10 ^ t.decimals ≤ (n : ℤ) := by
    rw [← div_le_iff₀ hunit, ← le_div_iff₀ hunit, div_eq_mul_inv, div_eq_mul_inv, ← zpow_neg]
    constructor
    · apply Decimal.le_round_of_le (by omega) hexp
      rw [zpow_neg, ← div_eq_mul_inv, div_le_iff₀ hunit]
      push_cast
      exact hlow.le
    · apply Decimal.round_le_of_le (by omega) hexp
      rwa [zpow_neg, ← div_eq_mul_inv, le_div_iff₀ hunit]
  have hproduct : ((n - 1 : ℤ) : ℚ) ≤ Decimal.round (Decimal.round p * 10 ^ t.decimals) ∧
      Decimal.round (Decimal.round p * 10 ^ t.decimals) ≤ (n : ℤ) := by
    constructor
    · simpa using Decimal.le_round_of_le (n := n - 1) (u := 0) (by omega) (by decide) (by simpa using hquotient.1)
    · simpa using Decimal.round_le_of_le (n := n) (u := 0) (by omega) (by decide) (by simpa using hquotient.2)
  have hlarge : (n : ℚ) ≤ 10 ^ Decimal.highestAdjusted := by
    have hcast : (n : ℚ) ≤ 10 ^ (28 : ℤ) := by exact_mod_cast hlt.le
    exact hcast.trans (zpow_le_zpow_right₀ (by norm_num) (by decide))
  have hscaled : 0 ≤ Decimal.round p * 10 ^ t.decimals := mul_nonneg (Decimal.round_nonneg hpos.le) hunit.le
  have hwhole : p ≤ n := (le_mul_of_one_le_right hpos.le (one_le_zpow₀ (by norm_num) ht)).trans hhigh
  refine ⟨⌈Decimal.round (Decimal.round p * 10 ^ t.decimals)⌉, sharesFor_eq ha ht hd ?_ hpos.le ?_, ?_⟩
  · rw [abs_of_pos hpos]
    exact hwhole.trans hlarge
  · rw [abs_of_nonneg hscaled]
    exact hquotient.2.trans hlarge
  · have hceil := Int.ceil_le.2 hproduct.2
    have hfloor : n - 1 ≤ ⌈Decimal.round (Decimal.round p * 10 ^ t.decimals)⌉ :=
      Int.cast_le.1 (hproduct.1.trans (Int.le_ceil _))
    omega

theorem shortest_leading (h : units ≤ Holding.total coins) : Shortest units coins (leading units coins) where
  leading := prefix_leading units coins
  enough := by
    induction coins generalizing units with
    | nil => exact h
    | cons c rest ih =>
      unfold leading
      split
      · next hle => exact hle
      · simp only [Holding.total] at h ⊢
        have : units - c.balance ≤ Holding.total (leading (units - c.balance) rest) := ih (by omega)
        omega
  least := by
    induction coins generalizing units with
    | nil => exact fun other _ _ => Nat.zero_le _
    | cons c rest ih =>
      intro other hother henough
      unfold leading
      split
      · exact Nat.zero_le _
      · next hpos =>
        obtain rfl | ⟨more, rfl, hmore⟩ := List.prefix_cons_iff.1 hother
        · exact absurd henough hpos
        · simp only [Holding.total] at h henough
          exact Nat.succ_le_succ (ih (by omega) more hmore (by omega))

theorem leading_eq_nil (h : units ≤ Holding.total coins) : leading units coins = [] ↔ units ≤ 0 := by
  cases coins with
  | nil => exact iff_of_true rfl h
  | cons c rest =>
    unfold leading
    split
    · next hle => exact iff_of_true rfl hle
    · next hpos => exact iff_of_false (List.cons_ne_nil _ _) hpos

theorem piece_append (tx : Transaction) (x : Command) : (tx.append x).piece = .nestedResult tx.size 0 := by
  simp [Transaction.piece]

theorem result_append (tx : Transaction) (x : Command) : (tx.append x).result = .result tx.size := by
  simp [Transaction.result]

theorem run_gather (hpos : 0 < units) (hl : leading units coins = first :: rest) :
    (gather coins units).run w =
      .done (.ok (w.tx.gather first rest units).piece, { w with tx := w.tx.gather first rest units }) := by
  have h : gather coins units = Assembly.merge (.object first.objectId) (CoinStore.handles rest) >>= fun _ =>
      Assembly.splitOne (.object first.objectId) units := by
    simp [gather, hl, CoinStore.handles]
  have hmerge : ((Assembly.merge (.object first.objectId) (CoinStore.handles rest) >>= fun _ =>
      Assembly.splitOne (.object first.objectId) units).run w) =
      (Assembly.splitOne (.object first.objectId) units).run
        { w with tx := w.tx.merge (.object first.objectId) (CoinStore.handles rest) } := rfl
  rw [h, hmerge, Assembly.splitOne_of_pos hpos, Transaction.gather, piece_append]

theorem run_gather_of_nil (hl : leading units coins = []) :
    (gather coins units).run w = .done (.error .indexOutOfRange, w) := by
  have h : gather coins units = throw Fault.indexOutOfRange := by simp [gather, hl]
  rw [h]
  rfl

theorem run_gather_cases (w : Workspace) (h : units ≤ Holding.total coins) :
    (units ≤ 0 ∧ (gather coins units).run w = .done (.error .indexOutOfRange, w)) ∨
      ∃ first rest, 0 < units ∧ Shortest units coins (first :: rest) ∧ (gather coins units).run w =
        .done (.ok (w.tx.gather first rest units).piece, { w with tx := w.tx.gather first rest units }) := by
  cases hl : leading units coins with
  | nil => exact .inl ⟨(leading_eq_nil h).1 hl, run_gather_of_nil hl⟩
  | cons first rest =>
    have hpos : 0 < units := by
      rw [← Int.not_le, ← leading_eq_nil h, hl]
      exact List.cons_ne_nil _ _
    exact .inr ⟨first, rest, hpos, hl ▸ shortest_leading h, run_gather hpos hl⟩

theorem run_unwrap (coin : Handle) : (unwrap t x coin).run w =
    .done (.ok (w.tx.append (unwrapCall t x coin)).result, { w with tx := w.tx.append (unwrapCall t x coin) }) := by
  rw [unwrap, Assembly.run_call, result_append]
  rfl

variable {wrapped : Option WrappedCoin} {ws ps : List CoinRecord}

theorem marketCoin_of_wrapped (hle : units ≤ Holding.total ws) :
    marketCoin s t (some x) ws ps units = gather ws units >>= unwrap t x := by
  have hsome : (some x).filter (fun _ => units ≤ Holding.total ws) = some x := by simp [hle]
  simp only [marketCoin, hsome]

theorem marketCoin_of_plain (hw : wrapped = none ∨ Holding.total ws < units) :
    marketCoin s t wrapped ws ps units = if units ≤ Holding.total ps then gather ps units
      else Assembly.fail (insufficientShares s t units (max (Holding.total ws) (Holding.total ps))) := by
  have hnone : wrapped.filter (fun _ => units ≤ Holding.total ws) = none := by
    simp only [Option.filter_eq_none_iff, decide_eq_true_eq, Int.not_le]
    rintro x rfl
    exact hw.resolve_left (Option.some_ne_none x)
  simp only [marketCoin, hnone]

theorem wrappedTotal_of_none (h : wrappedCoins.lookup t.symbol = none) : wrappedTotal l t = 0 := by
  simp [wrappedTotal, wrappedOf, h, Holding.total]

theorem refusal_insufficientShares (hspan : t.Spans ((wrappedTotal l t).natAbs + (plainTotal l t).natAbs))
    (hle : units ≤ wrappedTotal l t + plainTotal l t) (hw : wrappedTotal l t < units) (hp : plainTotal l t < units) :
    Sourced l s t units w.tx (.error (Assembly.refusal (insufficientShares s t units
      (max (wrappedTotal l t) (plainTotal l t))))) w.tx := by
  obtain ⟨asked, hasked⟩ := hspan units (by omega)
  obtain ⟨lacking, hlacking⟩ := hspan (units - max (wrappedTotal l t) (plainTotal l t)) (by omega)
  have hfault : insufficientShares s t units (max (wrappedTotal l t) (plainTotal l t)) = .ok (.engine
      (.onStep (.resource ("s" ++ t.symbol) (some lacking)) s.index (.insufficientShares t.symbol asked))) :=
    except_bind_eq_ok.2 ⟨asked, hasked, except_bind_eq_ok.2 ⟨lacking, hlacking, rfl⟩⟩
  rw [hfault]
  exact .short hw hp hasked hlacking

theorem run_marketCoin (s : Step) (w : Workspace)
    (hspan : t.Spans ((wrappedTotal l t).natAbs + (plainTotal l t).natAbs))
    (hle : units ≤ wrappedTotal l t + plainTotal l t) :
    ∃ r next, (marketCoin s t (wrappedCoins.lookup t.symbol) (wrappedOf l t) (l.coinsOf (marketCoinType t)) units).run w
      = .done (r, { w with tx := next }) ∧ Sourced l s t units w.tx r next := by
  by_cases hw : wrappedCoins.lookup t.symbol = none ∨ wrappedTotal l t < units
  · rw [marketCoin_of_plain hw]
    split
    · next hp =>
      obtain ⟨hzero, hrun⟩ | ⟨first, rest, hpos, hs, hrun⟩ := run_gather_cases w hp
      · exact ⟨_, _, hrun, .stranded hzero⟩
      · have hlt : wrappedTotal l t < units := hw.elim (fun hx => (wrappedTotal_of_none hx).symm ▸ hpos) id
        exact ⟨_, _, hrun, .plain hpos hlt hs rfl⟩
    · next hp =>
      have hp : plainTotal l t < units := Int.not_le.1 hp
      have hlt : wrappedTotal l t < units := by
        refine hw.elim (fun hx => ?_) id
        rw [wrappedTotal_of_none hx] at hle
        omega
      exact ⟨_, w.tx, Assembly.run_fail _, refusal_insufficientShares hspan hle hlt hp⟩
  · rw [not_or, Int.not_lt] at hw
    obtain ⟨x, hx⟩ := Option.ne_none_iff_exists'.1 hw.1
    have hcoins : wrappedOf l t = l.coinsOf x.coinType := by simp [wrappedOf, hx]
    rw [hx, marketCoin_of_wrapped hw.2, hcoins]
    obtain ⟨hzero, hrun⟩ | ⟨first, rest, hpos, hs, hrun⟩ :=
      run_gather_cases w (by simpa [wrappedTotal, hcoins] using hw.2)
    · exact ⟨_, _, Assembly.run_bind_of_error hrun, .stranded hzero⟩
    · exact ⟨_, _, (Assembly.run_bind_of_ok hrun).trans (run_unwrap _), .wrapped hpos hx hs rfl⟩

theorem ends_coins_bind {α : Type} {owner u : String} {f : List CoinRecord → Assembly α} {r : Except Fault α}
    (ha : ∀ e ∈ es, l.Reports e ∧ e.isAnswered = true)
    (hy : Ends (Assembly.ofEngine (Engine.coins owner u) >>= f) w es r w') :
    ∃ later, (∀ e ∈ later, l.Reports e ∧ e.isAnswered = true) ∧ Ends (f (l.coinsOf u)) w later r w' := by
  obtain ⟨es₁, cs, w₁, later, rfl, hm, hf⟩ | ⟨e, rfl, hm⟩ := Assembly.ends_bind.1 hy
  · obtain ⟨hcoins, rfl⟩ := Assembly.yields_ofEngine.1 hm
    obtain rfl := Engine.yields_coins.1 hcoins
    have hcs : cs = l.coinsOf u := (ha ⟨.coins owner u, .ok cs⟩ (by simp)).1
    subst hcs
    exact ⟨later, fun e he => ha e (by simp [he]), hf⟩
  · obtain ⟨hcoins, rfl⟩ := Assembly.ends_ofEngine.1 hm
    obtain rfl := Engine.yields_coins.1 hcoins
    exact nomatch (ha _ List.mem_cons_self).2

theorem ends_marketCoins {r : Except Fault (List CoinRecord × List CoinRecord)}
    (ha : ∀ e ∈ es, l.Reports e ∧ e.isAnswered = true)
    (hy : Ends (marketCoins c t (wrappedCoins.lookup t.symbol)) w es r w') :
    r = .ok (wrappedOf l t, l.coinsOf (marketCoinType t)) ∧ w' = w := by
  unfold wrappedOf
  unfold marketCoins at hy
  cases hx : wrappedCoins.lookup t.symbol with
  | some x =>
    rw [hx] at hy
    obtain ⟨later, ha, hy⟩ := ends_coins_bind ha hy
    obtain ⟨_, _, hy⟩ := ends_coins_bind ha hy
    exact (Assembly.ends_pure.1 hy).2
  | none =>
    rw [hx] at hy
    obtain ⟨_, _, hy⟩ := ends_coins_bind ha (f := fun ps => pure ([], ps)) hy
    exact (Assembly.ends_pure.1 hy).2

theorem withdrawal_of_ends {r : Except Fault Unit}
    (hspan : t.Spans ((wrappedTotal l t).natAbs + (plainTotal l t).natAbs))
    (ha : ∀ e ∈ es, l.Reports e ∧ e.isAnswered = true) (hy : Ends (withdraw c s d t) w es r w') :
    Withdrawal l s d t w.tx r w'.tx := by
  unfold withdraw at hy
  obtain ⟨es₁, ⟨ws, ps⟩, w₁, es₂, rfl, hm, hrest⟩ | ⟨e, rfl, hm⟩ := Assembly.ends_bind.1 hy
  · obtain ⟨⟨⟩, rfl⟩ := ends_marketCoins (fun e he => ha e (by simp [he])) hm
    by_cases hempty : (wrappedOf l t).isEmpty && (l.coinsOf (marketCoinType t)).isEmpty
    · simp only [hempty, if_true, Assembly.ends_throw_bind] at hrest
      obtain ⟨rfl, rfl, rfl⟩ := hrest
      simp only [Bool.and_eq_true, List.isEmpty_iff] at hempty
      exact .absent hempty.1 hempty.2
    · simp only [hempty, Bool.false_eq_true, if_false, Assembly.ends_ofExcept_bind] at hrest
      obtain ⟨n, hn, hrest⟩ | ⟨f, hf, rfl, rfl, rfl⟩ := hrest
      · have hredeemable : redeemable l t d = .ok (min n (wrappedTotal l t + plainTotal l t)) :=
          except_bind_eq_ok.2 ⟨n, hn, rfl⟩
        obtain ⟨x, next, hrun, hs⟩ := run_marketCoin s w₁ hspan (min_le_right n _)
        cases x with
        | error f =>
          obtain ⟨rfl, rfl, rfl⟩ := (Assembly.ends_bind_of_error hrun).1 hrest
          exact .failed hredeemable hs
        | ok coin =>
          have hcall := (Assembly.ends_bind_of_ok hrun).1 hrest
          rw [Assembly.ends_bind_of_ok (Assembly.run_call _ _ _), Assembly.ends_pure] at hcall
          obtain ⟨rfl, rfl, rfl⟩ := hcall
          exact .redeemed hredeemable hs
      · exact .uncounted hf
  · cases (ends_marketCoins ha hm).1

/-- A withdrawal redeems, out of as few leading coins as can be, the units that were asked for, or all that there are
of both kinds if these are fewer. -/
theorem withdraw_redeems_shortest {r : Except Fault Unit} (hamount : d.amount = some a) (hvalue : a.value? = some q)
    (hq : 0 < q) (ht : 0 ≤ t.decimals) (hd : t.decimals ≤ Decimal.highestAdjusted)
    (hspan : t.Spans ((wrappedTotal l t).natAbs + (plainTotal l t).natAbs))
    (ha : ∀ e ∈ es, l.Reports e ∧ e.isAnswered = true) (hy : Ends (withdraw c s d t) w es r w') :
    Withdrawal l s d t w.tx r w'.tx ∧ (exactShares t q < 10 ^ 28 →
      ∃ n, sharesFor t d.amount = .ok n ∧ (n = exactShares t q ∨ n = exactShares t q - 1)) := by
  refine ⟨withdrawal_of_ends hspan ha hy, fun hlt => ?_⟩
  rw [hamount]
  exact sharesFor_of_lt hvalue hq ht hd hlt

end

def soleShare (balance : Int) : Ledger where
  native := 1000000000
  coins := [(shareType, [⟨"0xs1", balance⟩])]
  owned := []
  distinct := by simp

def soleShareHolder (balance : Int) : Rehearsal :=
  .create { Rehearsal.blank with
    ledger := ⟨[(nativeCoinType, 1000000000)], (soleShare balance).coins, [], [], none, none, none, none⟩ }

def usdc : Token := ⟨"USDC", 6, "0xdba34672e30cb065b1f93e3ab55318768fd6fef66c15942c9f7cb846e2f900e7::usdc::USDC"⟩

def fiveUsdc : LendData := ⟨"withdraw", "USDC", some 5, "scallop", none, none⟩

def withdrawal : Assembly Unit :=
  withdraw (Assembly.protocolSetting (holdingBack 1)) (.of 0 (.lend fiveUsdc)) fiveUsdc usdc

def withdrawalRun : Program (Except Fault Unit × Workspace) := withdrawal.run (Assembly.start (holdingBack 1) 0)

theorem isAnswered_answer {h : Rehearsal} (hb : h.script.ledger.balanceFailure = none)
    (hc : h.script.ledger.coinsFailure = none) (q : Request) :
    Exchange.isAnswered ⟨q, (Rehearsal.answer q h).1⟩ = true := by
  cases q with
  | balance owner t => simp [Rehearsal.answer, hb, Rehearsal.orFail, Exchange.isAnswered]
  | coins owner t => simp [Rehearsal.answer, hc, Rehearsal.orFail, Exchange.isAnswered]
  | _ => rfl

def withdrawalExchanges (balance : Int) : List Exchange :=
  withdrawalRun.exchanges Rehearsal.answer (soleShareHolder balance)

def withdrawalOutcome (balance : Int) : Except Fault Unit × Workspace :=
  (Rehearsal.perform withdrawalRun (soleShareHolder balance)).1

theorem soleShareHolder_answers (balance : Int) :
    ∀ e ∈ withdrawalExchanges balance, (soleShare balance).Reports e ∧ e.isAnswered = true := by
  refine Program.forall_exchanges (I := fun h : Rehearsal => h.script.ledger = (soleShareHolder balance).script.ledger)
    (fun q h hsame => (Rehearsal.ledger_answer q).trans hsame) (fun q h hsame => ?_) withdrawalRun rfl
  have htells : h.script.ledger.Tells (soleShare balance) := hsame ▸ ⟨rfl, rfl, rfl⟩
  exact ⟨Rehearsal.reports_answer htells q, isAnswered_answer (hsame ▸ rfl) (hsame ▸ rfl) q⟩

theorem ends_withdrawal (balance : Int) : Ends withdrawal (Assembly.start (holdingBack 1) 0)
    (withdrawalExchanges balance) (withdrawalOutcome balance).1 (withdrawalOutcome balance).2 := by
  rw [Ends, Prod.mk.eta]
  exact Rehearsal.yields_perform withdrawalRun (soleShareHolder balance)

theorem exactShares_usdc : exactShares usdc 5 = 4731712 := by
  have hrate : rate usdc.symbol = 10567 / 10000 := by
    norm_num [rate, exchangeRate, usdc]
  rw [exactShares, hrate, Int.ceil_eq_iff]
  norm_num [usdc]

theorem withdraw_redeems_shortest_sole :
    Withdrawal (soleShare 9000000) (.of 0 (.lend fiveUsdc)) fiveUsdc usdc ⟨"0x51", []⟩ (withdrawalOutcome 9000000).1
        (withdrawalOutcome 9000000).2.tx ∧
      ∃ n, sharesFor usdc (some 5) = .ok n ∧ (n = 4731712 ∨ n = 4731711) := by
  have hfive : (5 : Decimal).value? = some 5 := (Decimal.value?_ofInt 5).trans (congrArg some (by norm_num))
  have hspan : usdc.Spans ((wrappedTotal (soleShare 9000000) usdc).natAbs +
      (plainTotal (soleShare 9000000) usdc).natAbs) :=
    Token.spans_of_lt (by decide) (by decide) (by decide +kernel)
  obtain ⟨hends, hunits⟩ := withdraw_redeems_shortest (d := fiveUsdc) rfl hfive (by norm_num) (by decide) (by decide)
    hspan (soleShareHolder_answers 9000000) (ends_withdrawal 9000000)
  rw [exactShares_usdc] at hunits
  exact ⟨hends, hunits (by norm_num)⟩

def isIndexError : Except Fault Unit → Bool
  | .error (.raised .index ..) => true
  | _ => false

/-- Where there is less than was asked for, all of it is redeemed, and no error tells; where there is nothing, it is
an error that does not name the asset. -/
theorem withdraw_falls_short :
    (∃ es w, (∀ e ∈ es, (soleShare 3000000).Reports e ∧ e.isAnswered = true) ∧
      Ends withdrawal (Assembly.start (holdingBack 1) 0) es (.ok ()) w ∧
      totalUnits (w.tx.commands.map (Command.unitsSplit ["0xs1"])) = 3000000 ∧ 3000000 < exactShares usdc 5 - 1) ∧
    ∃ es r w, (∀ e ∈ es, (soleShare 0).Reports e ∧ e.isAnswered = true) ∧
      Ends withdrawal (Assembly.start (holdingBack 1) 0) es r w ∧ isIndexError r = true := by
  have hok : (withdrawalOutcome 3000000).1 = .ok () := except_eq_ok.2 (by decide +kernel)
  refine ⟨⟨_, _, soleShareHolder_answers 3000000, hok ▸ ends_withdrawal 3000000, by decide +kernel, ?_⟩, _, _, _,
    soleShareHolder_answers 0, ends_withdrawal 0, by decide +kernel⟩
  rw [exactShares_usdc]
  decide

end Protocol.Scallop

end LedgerFlow
