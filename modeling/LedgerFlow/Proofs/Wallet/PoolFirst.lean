import LedgerFlow.Proofs.Wallet.Draws
import LedgerFlow.Proofs.Wallet.Pool
import LedgerFlow.Proofs.Wallet.Tokens
import Mathlib.Order.Bounds.Basic

/-!
The pool comes first. Of each coin type no more is taken from the wallet than the steps at some point had used in
excess of what they had produced by then.
-/

namespace LedgerFlow

/-! What the wallet has given -/

def openingIn (reserve : Int) (s : Source) (es : List Exchange) : Option Int :=
  es.findSome? fun e => if e.request.source? = some s then e.opening? reserve else none

theorem openingIn_append (reserve : Int) (s : Source) (es es₁ : List Exchange) :
    openingIn reserve s (es ++ es₁) = (openingIn reserve s es).or (openingIn reserve s es₁) :=
  List.findSome?_append

namespace Wallet

def drawn (x : Wallet) (es : List Exchange) (s : Source) : Int :=
  (openingIn x.reserve s es).getD 0 - (x.left s).getD 0

def Accounts (x : Wallet) (es : List Exchange) : Prop :=
  ∀ s, (openingIn x.reserve s es).isSome = (x.left s).isSome

variable {x y next : Wallet} {t : Token} {s : Source} {e : Exchange} {es es₁ : List Exchange} {units amount : Int}
  {source : Handle} {merged : List Handle}

theorem Reads.openingIn (hr : x.Reads t e units y) (s : Source) :
    openingIn x.reserve s [e] = if s = t.source then some units else none := by
  unfold LedgerFlow.openingIn
  rw [List.findSome?_cons, hr.source?, hr.opening?]
  by_cases hs : s = t.source
  · simp [hs]
  · simp [hs, Ne.symm hs]

theorem Opens.openingIn_of_ne (ho : x.Opens t es₁ units y) (hs : s ≠ t.source) :
    LedgerFlow.openingIn x.reserve s (es ++ es₁) = LedgerFlow.openingIn x.reserve s es := by
  cases ho with
  | known => rw [List.append_nil]
  | read _ hr => rw [openingIn_append, hr.openingIn, if_neg hs, Option.or_none]

theorem Opens.openingIn (ho : x.Opens t es₁ units y) (hx : x.Accounts es) :
    LedgerFlow.openingIn x.reserve t.source (es ++ es₁) = some (x.drawn es t.source + units) := by
  have hknown := hx t.source
  cases ho with
  | known hl =>
    rw [hl, Option.isSome_some, Option.isSome_iff_exists] at hknown
    obtain ⟨opening, hopening⟩ := hknown
    simp [drawn, hl, hopening]
  | read hl hr =>
    rw [hl, Option.isSome_none, Option.isSome_eq_false_iff, Option.isNone_iff_eq_none] at hknown
    simp [openingIn_append, hr.openingIn, drawn, hl, hknown]

def Lists (x : Wallet) (es : List Exchange) : Prop :=
  ∀ u h, x.holdings.lookup u = some h → ∀ c ∈ h.used ++ h.unused,
    ∃ cs, (⟨.coins x.owner u, .ok cs⟩ : Exchange) ∈ es ∧ c ∈ cs

theorem lists_empty {owner : String} {reserve : Int} : (empty owner reserve).Lists [] := by
  intro u h hl
  cases hl

theorem lists_setHolding {h : Holding} {coinType : String} (hx : x.Lists es)
    (hh : ∀ c ∈ h.used ++ h.unused, ∃ cs, (⟨.coins x.owner coinType, .ok cs⟩ : Exchange) ∈ es ∧ c ∈ cs) :
    (x.setHolding coinType h).Lists es := by
  intro u k hk c hc
  rw [setHolding, Json.lookup_put] at hk
  split at hk
  · next hu =>
    subst hu
    cases hk
    exact hh c hc
  · exact hx u k hk c hc

theorem Lists.append (hx : x.Lists es) (es₁ : List Exchange) : x.Lists (es ++ es₁) := by
  intro u h hl c hc
  obtain ⟨cs, hcs, hmem⟩ := hx u h hl c hc
  exact ⟨cs, List.mem_append_left _ hcs, hmem⟩

theorem Opens.lists (ho : x.Opens t es₁ units y) (hx : x.Lists es) : y.Lists (es ++ es₁) := by
  have hlonger := hx.append es₁
  cases ho with
  | known => exact hlonger
  | read _ hr =>
    cases hr with
    | native => exact hlonger
    | @coins cs =>
      apply lists_setHolding hlonger
      intro c hc
      exact ⟨cs, by simp, List.mem_mergeSort.1 hc⟩

theorem Pays.lists (hp : y.Pays t amount source merged next) (hy : y.Lists es) : next.Lists es := by
  cases hp with
  | native => exact hy
  | @coins h _ _ _ hl =>
    apply lists_setHolding hy
    intro c hc
    have hsame : (h.gather amount).used ++ (h.gather amount).unused = h.used ++ h.unused := by simp [Holding.gather]
    exact hy _ h hl c (hsame ▸ hc)

theorem drawn_of_pays (hx : x.Accounts es) (ho : x.Opens t es₁ units y) (hp : y.Pays t amount source merged next) :
    next.Accounts (es ++ es₁) ∧
      ∀ s, next.drawn (es ++ es₁) s = x.drawn es s + if s = t.source then amount else 0 := by
  have hreserve : next.reserve = x.reserve := hp.same.2.trans ho.same.2
  have hself : next.left t.source = some (units - amount) := hp.left ho.left
  have hkept : ∀ s, s ≠ t.source → next.left s = x.left s := fun s hs => (hp.kept hs).trans (ho.kept hs)
  constructor
  · intro s
    rw [hreserve]
    by_cases hs : s = t.source
    · rw [hs, ho.openingIn hx, hself]
      rfl
    · rw [ho.openingIn_of_ne hs, hkept s hs]
      exact hx s
  · intro s
    rw [drawn, hreserve]
    by_cases hs : s = t.source
    · rw [hs, ho.openingIn hx, hself, if_pos rfl, Option.getD_some, Option.getD_some]
      omega
    · rw [ho.openingIn_of_ne hs, hkept s hs, if_neg hs, Int.add_zero, drawn]

end Wallet

namespace TokenRegistry

/-- The units of a coin type that are no longer in the wallet. -/
def taken (r : TokenRegistry) (x : Wallet) (es : List Exchange) (coinType : String) : Int :=
  x.drawn es (.coins coinType) + if r.nativeType? = some coinType then x.drawn es .native else 0

theorem taken_of_pays {ts : List Token} {x y next : Wallet} {t : Token} {es es₁ : List Exchange} {units amount : Int}
    {source : Handle} {merged : List Handle} (ht : t ∈ (ofList ts).tokens) (hx : x.Accounts es)
    (ho : x.Opens t es₁ units y) (hp : y.Pays t amount source merged next) (u : String) :
    (ofList ts).taken next (es ++ es₁) u = (ofList ts).taken x es u + if u = t.coinType then amount else 0 := by
  have hdrawn := (Wallet.drawn_of_pays hx ho hp).2
  rw [taken, taken, hdrawn, hdrawn]
  cases hn : t.isNative with
  | true =>
    rw [Wallet.source_of_native hn, nativeType?_of_mem ht hn]
    by_cases hu : u = t.coinType
    · subst hu
      simp only [reduceCtorEq, if_true, if_false]
      omega
    · simp [hu, Ne.symm hu]
  | false =>
    rw [Wallet.source_of_coins hn]
    by_cases hu : u = t.coinType
    · subst hu
      simp only [reduceCtorEq, if_true, if_false, Int.add_zero]
      omega
    · simp [hu]

theorem taken_empty (r : TokenRegistry) (owner : String) (reserve : Int) (coinType : String) :
    r.taken (.empty owner reserve) [] coinType = 0 := by
  simp [taken, Wallet.drawn, Wallet.left_empty, openingIn]

end TokenRegistry

structure WalletSplit where
  coinType : String
  source : Handle
  units : Int

namespace WalletSplit

def command (x : WalletSplit) : Command := .splitCoins x.source [x.units]

def total (coinType : String) (xs : List WalletSplit) : Int :=
  totalUnits ((xs.filter (·.coinType = coinType)).map (·.units))

/-- Native units come out of the gas coin, those of any other type out of a coin that the ledger has listed. -/
inductive IsOwn (r : TokenRegistry) (owner : String) (es : List Exchange) : WalletSplit → Prop
  | gas {coinType : String} {units : Int} (native : r.nativeType? = some coinType) :
      IsOwn r owner es ⟨coinType, .gas, units⟩
  | object {coinType : String} {units : Int} {cs : List CoinRecord} {c : CoinRecord}
      (listed : (⟨.coins owner coinType, .ok cs⟩ : Exchange) ∈ es) (mem : c ∈ cs) :
      IsOwn r owner es ⟨coinType, .object c.objectId, units⟩

variable {x : WalletSplit} {xs : List WalletSplit} {r : TokenRegistry} {owner : String} {es : List Exchange}

theorem total_concat (coinType : String) (xs : List WalletSplit) (x : WalletSplit) :
    total coinType (xs ++ [x]) = total coinType xs + if coinType = x.coinType then x.units else 0 := by
  by_cases h : x.coinType = coinType
  · simp [total, h, totalUnits_append]
  · simp [total, h, Ne.symm h]

theorem IsOwn.append (h : x.IsOwn r owner es) (es₁ : List Exchange) : x.IsOwn r owner (es ++ es₁) := by
  cases h with
  | gas native => exact .gas native
  | object listed mem => exact .object (List.mem_append_left _ listed) mem

theorem isOwn_of_pays {ts : List Token} {t : Token} {y next : Wallet} {amount : Int} {source : Handle}
    {merged : List Handle} (ht : t ∈ (TokenRegistry.ofList ts).tokens) (hy : y.Lists es)
    (hp : y.Pays t amount source merged next) : IsOwn (.ofList ts) y.owner es ⟨t.coinType, source, amount⟩ := by
  cases hp with
  | native hn => exact .gas (TokenRegistry.nativeType?_of_mem ht hn)
  | @coins h c rest _ hl _ hu =>
    have hc : c ∈ h.used ++ h.unused := by
      have hused : c ∈ (h.gather amount).used := hu ▸ List.mem_cons_self
      simp only [Holding.gather, List.mem_append] at hused
      exact List.mem_append.2 (hused.imp_right List.mem_of_mem_take)
    obtain ⟨cs, hlisted, hmem⟩ := hy _ h hl c hc
    exact .object hlisted hmem

end WalletSplit

/-! Rows of calls -/

/-- What a step does that bears on its coins; any other command that it records counts as one of its own. -/
inductive Move
  | acquire (step : Int) (token : Token) (amount : Int)
  | produce (token : Token) (coin : Handle) (amount : Int)
  | record (command : Command)

namespace Move

def perform : Move → Assembly Unit
  | .acquire step t amount => do
    let _ ← Assembly.acquire step t amount
  | .produce t coin amount => Assembly.produce t coin amount
  | .record c => Assembly.update fun w => { w with tx := w.tx.append c }

def Regular (r : TokenRegistry) : Move → Prop
  | .acquire _ t amount => t ∈ r.tokens ∧ 0 < amount
  | .produce t _ amount => t ∈ r.tokens ∧ 0 < amount
  | .record _ => True

instance (r : TokenRegistry) : DecidablePred (Regular r)
  | .acquire .. => inferInstanceAs (Decidable (_ ∧ _))
  | .produce .. => inferInstanceAs (Decidable (_ ∧ _))
  | .record _ => inferInstanceAs (Decidable True)

def acquired (coinType : String) : Move → Int
  | .acquire _ t amount => if coinType = t.coinType then amount else 0
  | _ => 0

def produced (coinType : String) : Move → Int
  | .produce t _ amount => if coinType = t.coinType then amount else 0
  | _ => 0

theorem change_acquire (coinType : String) (step : Int) (t : Token) (amount : Int) :
    (acquire step t amount).acquired coinType - (acquire step t amount).produced coinType =
      if coinType = t.coinType then amount else 0 :=
  Int.sub_zero _

theorem change_produce (coinType : String) (t : Token) (coin : Handle) (amount : Int) :
    (produce t coin amount).acquired coinType - (produce t coin amount).produced coinType =
      -if coinType = t.coinType then amount else 0 :=
  Int.zero_sub _

end Move

namespace Assembly

def performAll : List Move → Assembly Unit
  | [] => pure ()
  | m :: rest => do
    m.perform
    performAll rest

def acquired (coinType : String) (moves : List Move) : Int := moves.foldl (fun units m => units + m.acquired coinType) 0

def produced (coinType : String) (moves : List Move) : Int := moves.foldl (fun units m => units + m.produced coinType) 0

def excess (coinType : String) (moves : List Move) : Int := acquired coinType moves - produced coinType moves

def excesses (coinType : String) (moves : List Move) : Set Int :=
  {n | ∃ before, before <+: moves ∧ n = acquired coinType before - produced coinType before}

section

variable {r : TokenRegistry} {moves more : List Move} {m : Move} {w w' : Workspace} {es es₁ : List Exchange}
  {step amount : Int} {t : Token} {coin : Handle} {ts : List Token}

theorem excess_concat (coinType : String) (moves : List Move) (m : Move) :
    excess coinType (moves ++ [m]) = excess coinType moves + (m.acquired coinType - m.produced coinType) := by
  simp only [excess, acquired, produced, List.foldl_append, List.foldl_cons, List.foldl_nil]
  omega

theorem isGreatest_excesses_nil (coinType : String) : IsGreatest (excesses coinType []) 0 := by
  constructor
  · exact ⟨[], List.prefix_rfl, rfl⟩
  · rintro n ⟨before, hbefore, rfl⟩
    rw [List.prefix_nil.1 hbefore]
    exact Int.le_refl 0

theorem isGreatest_excesses_concat {coinType : String} {n : Int} (h : IsGreatest (excesses coinType moves) n) :
    IsGreatest (excesses coinType (moves ++ [m])) (max n (excess coinType (moves ++ [m]))) := by
  obtain ⟨⟨before, hbefore, hn⟩, hupper⟩ := h
  constructor
  · obtain hle | hle := le_total n (excess coinType (moves ++ [m]))
    · exact ⟨moves ++ [m], List.prefix_rfl, max_eq_right hle⟩
    · exact ⟨before, List.prefix_concat_iff.2 (.inr hbefore), (max_eq_left hle).trans hn⟩
  · rintro k ⟨before, hbefore, rfl⟩
    obtain rfl | hbefore := List.prefix_concat_iff.1 hbefore
    · exact le_max_right _ _
    · exact le_trans (hupper ⟨before, hbefore, rfl⟩) (le_max_left _ _)

theorem yields_performAll_append :
    Yields (performAll (moves ++ more)) w es () w' ↔
      ∃ es₁ w₁ es₂, es = es₁ ++ es₂ ∧ Yields (performAll moves) w es₁ () w₁ ∧
        Yields (performAll more) w₁ es₂ () w' := by
  induction moves generalizing w es with
  | nil => simp [performAll]
  | cons m rest ih =>
    simp only [List.cons_append, performAll, yields_bind, ih]
    constructor
    · rintro ⟨es₁, _, w₁, hm, _, rfl, es₂, w₂, es₃, rfl, hrest, hmore⟩
      exact ⟨es₁ ++ es₂, w₂, es₃, by simp, ⟨es₁, _, w₁, hm, es₂, rfl, hrest⟩, hmore⟩
    · rintro ⟨_, w₂, es₃, rfl, ⟨es₁, _, w₁, hm, es₂, rfl, hrest⟩, hmore⟩
      exact ⟨es₁, _, w₁, hm, es₂ ++ es₃, by simp, es₂, w₂, es₃, rfl, hrest, hmore⟩

/-- What was taken out of the wallet is what these splits took, each of them by a command of its own. -/
structure SplitOff (r : TokenRegistry) (es : List Exchange) (w : Workspace) (xs : List WalletSplit) : Prop where
  recorded : (xs.map WalletSplit.command).Sublist w.tx.commands
  own : ∀ x ∈ xs, x.IsOwn r w.wallet.owner es
  taken : ∀ u, r.taken w.wallet es u = WalletSplit.total u xs

theorem SplitOff.kept {xs : List WalletSplit} {tx : Transaction} {q : CoinPool} (h : SplitOff r es w xs)
    (htx : w.tx.commands.Sublist tx.commands) : SplitOff r es ⟨tx, q, w.wallet⟩ xs :=
  ⟨h.recorded.trans htx, h.own, h.taken⟩

/-- Where the pool and the wallet stand after these calls. -/
structure Sourced (r : TokenRegistry) (moves : List Move) (es : List Exchange) (w : Workspace) : Prop where
  idle : w.wallet.Idle
  listed : w.wallet.Lists es
  accounts : w.wallet.Accounts es
  split : ∃ xs, SplitOff r es w xs
  positive : w.pool.Positive
  pooled : ∀ u, w.pool.available u = r.taken w.wallet es u - excess u moves
  greatest : ∀ u, IsGreatest (excesses u moves) (r.taken w.wallet es u)

theorem Sourced.next {es' : List Exchange} (h : Sourced r moves es w) (hidle : w'.wallet.Idle)
    (hlisted : w'.wallet.Lists es') (haccounts : w'.wallet.Accounts es') (hsplit : ∃ xs, SplitOff r es' w' xs)
    (hpositive : w'.pool.Positive)
    (hpooled : ∀ u, w'.pool.available u = r.taken w'.wallet es' u - excess u (moves ++ [m]))
    (htaken : ∀ u, r.taken w'.wallet es' u = r.taken w.wallet es u ∨
      r.taken w.wallet es u ≤ r.taken w'.wallet es' u ∧ w'.pool.available u = 0) :
    Sourced r (moves ++ [m]) es' w' where
  idle := hidle
  listed := hlisted
  accounts := haccounts
  split := hsplit
  positive := hpositive
  pooled := hpooled
  greatest := by
    intro u
    -- The pool is never short, so the excess is at most what is taken; where the pool is empty the two are equal.
    have hmax : r.taken w'.wallet es' u = max (r.taken w.wallet es u) (excess u (moves ++ [m])) := by
      have := hpooled u
      have := hpositive.available_nonneg u
      obtain hsame | ⟨hle, hzero⟩ := htaken u <;> omega
    rw [hmax]
    exact isGreatest_excesses_concat (h.greatest u)

theorem Sourced.change {change : Int} {coinType : String} {tx : Transaction} {q : CoinPool}
    (h : Sourced r moves es w) (hq : w.pool.Changed coinType change q) (htx : w.tx.commands.Sublist tx.commands)
    (hm : ∀ u, m.acquired u - m.produced u = -if u = coinType then change else 0) :
    Sourced r (moves ++ [m]) es ⟨tx, q, w.wallet⟩ := by
  have hpooled : ∀ u, q.available u = r.taken w.wallet es u - excess u (moves ++ [m]) := by
    intro u
    rw [hq.available, h.pooled, excess_concat, hm]
    omega
  obtain ⟨xs, hxs⟩ := h.split
  exact h.next h.idle h.listed h.accounts ⟨xs, hxs.kept htx⟩ hq.positive hpooled fun u => .inl rfl

/-- What the pool covers is not asked for. What it lacks is split off the wallet, and no more than that. -/
structure Sourcing (t : Token) (amount : Int) (w : Workspace) (es : List Exchange) (w' : Workspace) : Prop where
  covered : amount ≤ w.pool.available t.coinType → es = [] ∧ w'.wallet = w.wallet
  lacking : w.pool.available t.coinType < amount → ∃ source more, w'.tx.commands = w.tx.commands ++ more ∧
    .splitCoins source [amount - w.pool.available t.coinType] ∈ more

theorem sourcing_of_covered (hle : amount ≤ w.pool.available t.coinType) {tx : Transaction} {q : CoinPool} :
    Sourcing t amount w [] ⟨tx, q, w.wallet⟩ :=
  ⟨fun _ => ⟨rfl, rfl⟩, fun hlt => absurd hle (Int.not_le.2 hlt)⟩

theorem sourcing_of_lacking (source : Handle) {more : List Command} {w' : Workspace}
    (hlt : w.pool.available t.coinType < amount) (htx : w'.tx.commands = w.tx.commands ++ more)
    (hmore : .splitCoins source [amount - w.pool.available t.coinType] ∈ more) : Sourcing t amount w es₁ w' :=
  ⟨fun hle => absurd hle (Int.not_le.2 hlt), fun _ => ⟨source, more, htx, hmore⟩⟩

theorem Sourced.topUp {units : Int} {opened next : Wallet} {source : Handle} {merged : List Handle} {tx : Transaction}
    {q : CoinPool} {more : List Command} (h : Sourced (.ofList ts) moves es w)
    (ht : t ∈ (TokenRegistry.ofList ts).tokens) (hlt : w.pool.available t.coinType < amount)
    (hq : w.pool.Changed t.coinType (-w.pool.available t.coinType) q) (ho : w.wallet.Opens t es₁ units opened)
    (hp : opened.Pays t (amount - w.pool.available t.coinType) source merged next)
    (htx : tx.commands = w.tx.commands ++ more)
    (hmore : .splitCoins source [amount - w.pool.available t.coinType] ∈ more) :
    Sourced (.ofList ts) (moves ++ [.acquire step t amount]) (es ++ es₁) ⟨tx, q, next⟩ := by
  have htaken := TokenRegistry.taken_of_pays ht h.accounts ho hp
  have hopened := ho.lists h.listed
  have howner : next.owner = w.wallet.owner := hp.same.1.trans ho.same.1
  obtain ⟨xs, hxs⟩ := h.split
  have hsplit : SplitOff (.ofList ts) (es ++ es₁) ⟨tx, q, next⟩
      (xs ++ [⟨t.coinType, source, amount - w.pool.available t.coinType⟩]) := by
    constructor
    · rw [List.map_append, htx]
      exact hxs.recorded.append (List.singleton_sublist.2 hmore)
    · intro x hx
      obtain hx | hx := List.mem_append.1 hx
      · exact howner ▸ (hxs.own x hx).append es₁
      · obtain rfl := List.mem_singleton.1 hx
        exact hp.same.1 ▸ WalletSplit.isOwn_of_pays ht hopened hp
    · intro u
      rw [htaken, hxs.taken, WalletSplit.total_concat]
  refine h.next (hp.idle (ho.idle h.idle)) (hp.lists hopened) (Wallet.drawn_of_pays h.accounts ho hp).1 ⟨_, hsplit⟩
    hq.positive ?_ ?_
  · intro u
    rw [hq.available, h.pooled, htaken, excess_concat, Move.change_acquire]
    split
    · next hu =>
      subst hu
      have := h.pooled t.coinType
      omega
    · omega
  · intro u
    rw [htaken, hq.available]
    by_cases hu : u = t.coinType
    · right
      subst hu
      simp only [if_true]
      omega
    · left
      simp [hu]

theorem commands_draw (tx : Transaction) (source : Handle) (merged : List Handle) (amount : Int) :
    ((tx.merge source merged).append (.splitCoins source [amount])).commands =
      tx.commands ++ (CoinStore.merging source merged ++ [.splitCoins source [amount]]) := by
  rw [Transaction.append, CoinStore.commands_merge, List.append_assoc]

theorem sourced_acquire (h : Sourced (.ofList ts) moves es w) (ht : t ∈ (TokenRegistry.ofList ts).tokens)
    (hpos : 0 < amount) (hy : Yields (acquire step t amount) w es₁ coin w') :
    Sourced (.ofList ts) (moves ++ [.acquire step t amount]) (es ++ es₁) w' ∧ Sourcing t amount w es₁ w' := by
  obtain ⟨hle, hw⟩ | ⟨hlt, hzero, hd⟩ | ⟨x, topUp, w₁, hf, hlt, hd, rfl, rfl⟩ := yields_acquire_of_available hy
  · cases hf : w.pool.find? t.coinType with
    | none =>
      rw [CoinPool.available_of_find?_none hf] at hle
      omega
    | some x =>
      have hm : ∀ u, (Move.acquire step t amount).acquired u - (Move.acquire step t amount).produced u =
          -if u = t.coinType then -amount else 0 := by
        intro u
        rw [Move.change_acquire]
        split <;> omega
      obtain ⟨rfl, -, ⟨hwhole, -, rfl⟩ | ⟨-, hpart, -, rfl⟩⟩ := yields_withdraw_of_find? hf hw
      · have hq := CoinPool.changed_erase h.positive hf
        rw [hwhole] at hq
        rw [List.append_nil]
        exact ⟨h.change hq (.refl _) hm, sourcing_of_covered hle⟩
      · have hq : w.pool.Changed t.coinType (-amount) (w.pool.adjust t.coinType (-amount)) :=
          CoinPool.changed_adjust h.positive hf (by omega)
        rw [List.append_nil]
        exact ⟨h.change hq (List.sublist_append_left _ _) hm, sourcing_of_covered hle⟩
  · -- There is nothing to top up, and all of the amount is drawn.
    have hsame : w.pool.Changed t.coinType (-w.pool.available t.coinType) w.pool :=
      ⟨h.positive, fun u => by simp [hzero]⟩
    have hdrawn := drawn_of_yields h.idle hpos hd
    rw [← Int.sub_zero amount, ← hzero] at hdrawn
    cases hdrawn with
    | @granted _ _ _ _ source merged ho _ hp =>
      have htx := commands_draw w.tx source merged (amount - w.pool.available t.coinType)
      exact ⟨h.topUp ht hlt hsame ho hp htx (by simp), sourcing_of_lacking source hlt htx (by simp)⟩
  · have hx := CoinPool.available_of_find? hf
    have hq := CoinPool.changed_erase h.positive hf
    have hidle : ({ w with pool := w.pool.erase t.coinType } : Workspace).wallet.Idle := h.idle
    have hdrawn := drawn_of_yields hidle (Int.sub_pos_of_lt hlt) hd
    rw [← hx] at hlt hq hdrawn
    cases hdrawn with
    | @granted _ _ _ _ source merged ho _ hp =>
      have htx := fun topUp => CoinStore.commands_merge
        ((w.tx.merge source merged).append (.splitCoins source [amount - w.pool.available t.coinType])) x.coin [topUp]
      simp only [commands_draw, List.append_assoc] at htx
      exact ⟨h.topUp ht hlt hq ho hp (htx _) (by simp), sourcing_of_lacking source hlt (htx _) (by simp)⟩

theorem sourced_produce (h : Sourced r moves es w) (hpos : 0 < amount) {a : Unit}
    (hy : Yields (produce t coin amount) w es₁ a w') :
    Sourced r (moves ++ [.produce t coin amount]) (es ++ es₁) w' := by
  have hm := fun u => Move.change_produce u t coin amount
  cases hf : w.pool.find? t.coinType with
  | none =>
    simp only [produce, deposit, yields_bind, yields_state, ↓existsAndEq, and_true, hf, yields_setPool, List.append_nil,
      true_and, exists_eq_left] at hy
    obtain ⟨rfl, rfl⟩ := hy
    have hq : w.pool.Changed t.coinType amount (w.pool.insert ⟨t.coinType, coin, amount⟩) :=
      CoinPool.changed_insert ⟨t.coinType, coin, amount⟩ h.positive hf hpos
    rw [List.append_nil]
    exact h.change hq (.refl _) hm
  | some x =>
    simp only [produce, deposit, yields_bind, yields_state, and_assoc, exists_and_left, ↓existsAndEq, true_and, hf,
      yields_merge, yields_setPool, List.append_nil, exists_const, exists_eq_left] at hy
    obtain ⟨rfl, rfl⟩ := hy
    have := h.positive _ x hf
    have hq : w.pool.Changed t.coinType amount (w.pool.adjust t.coinType amount) :=
      CoinPool.changed_adjust h.positive hf (by omega)
    rw [List.append_nil]
    exact h.change hq (List.sublist_append_left _ _) hm

theorem sourced_record {c : Command} (h : Sourced r moves es w) :
    Sourced r (moves ++ [.record c]) es { w with tx := w.tx.append c } := by
  have hq : w.pool.Changed "" 0 w.pool := ⟨h.positive, fun u => by simp⟩
  exact h.change hq (List.sublist_append_left _ _) fun u => by simp [Move.acquired, Move.produced]

theorem sourced_move (h : Sourced (.ofList ts) moves es w) (hm : m.Regular (.ofList ts)) {a : Unit}
    (hy : Yields m.perform w es₁ a w') : Sourced (.ofList ts) (moves ++ [m]) (es ++ es₁) w' := by
  cases m with
  | acquire step t amount =>
    obtain ⟨es₂, coin, w₁, hd, es₃, rfl, hr⟩ := yields_bind.1 hy
    obtain ⟨rfl, -, rfl⟩ := yields_pure.1 hr
    rw [List.append_nil]
    exact (sourced_acquire h hm.1 hm.2 hd).1
  | produce t coin amount => exact sourced_produce h hm.2 hy
  | record c =>
    obtain ⟨rfl, rfl⟩ := yields_update.1 hy
    rw [List.append_nil]
    exact sourced_record h

theorem sourced_start (r : TokenRegistry) (tx : Transaction) (owner : String) (reserve : Int) :
    Sourced r [] [] ⟨tx, .empty, .empty owner reserve⟩ where
  idle := Wallet.idle_empty
  listed := Wallet.lists_empty
  accounts := by
    intro s
    rw [Wallet.left_empty]
    rfl
  split := ⟨[], List.nil_sublist _, fun _ hx => absurd hx List.not_mem_nil, r.taken_empty owner reserve⟩
  positive := by
    intro t c hf
    cases hf
  pooled := by
    intro u
    rw [TokenRegistry.taken_empty]
    rfl
  greatest := by
    intro u
    rw [TokenRegistry.taken_empty]
    exact isGreatest_excesses_nil u

theorem sourced_performAll {tx : Transaction} {owner : String} {reserve : Int}
    (hm : ∀ m ∈ moves, m.Regular (.ofList ts)) {a : Unit}
    (hy : Yields (performAll moves) ⟨tx, .empty, .empty owner reserve⟩ es a w') : Sourced (.ofList ts) moves es w' := by
  -- The last call starts where those before it ended, so the row is taken from its end.
  induction moves using List.reverseRecOn generalizing es w' with
  | nil =>
    obtain ⟨rfl, -, rfl⟩ := yields_pure.1 hy
    exact sourced_start _ _ _ _
  | append_singleton before m ih =>
    obtain ⟨es₁, w₁, es₂, rfl, hbefore, hlast⟩ := yields_performAll_append.1 hy
    obtain ⟨es₃, _, w₂, hperform, es₄, rfl, hr⟩ := yields_bind.1 hlast
    obtain ⟨rfl, -, rfl⟩ := yields_pure.1 hr
    rw [List.append_nil]
    exact sourced_move (ih (fun m hm' => hm m (List.mem_append_left _ hm')) hbefore)
      (hm m (List.mem_append_right _ List.mem_cons_self)) hperform

end

/-- No more is taken from the wallet than is needed, at any time: of every coin type it is the largest excess of what
was acquired over what was produced, and the empty row of calls has none. What is taken is what the recorded splits of
the wallet's coins come to. -/
theorem performAll_takes_least {ts : List Token} {moves : List Move} (tx : Transaction) (owner : String) (reserve : Int)
    {es : List Exchange} {w' : Workspace} (hm : ∀ m ∈ moves, m.Regular (.ofList ts))
    (hy : Yields (performAll moves) ⟨tx, .empty, .empty owner reserve⟩ es () w') :
    (∀ u, IsGreatest (excesses u moves) ((TokenRegistry.ofList ts).taken w'.wallet es u) ∧
      w'.pool.available u =
        produced u moves + (TokenRegistry.ofList ts).taken w'.wallet es u - acquired u moves) ∧
    (∃ splits, SplitOff (.ofList ts) es w' splits) ∧
    ∀ before step t amount after, moves = before ++ .acquire step t amount :: after →
      ∃ es₁ w₁ es₂ coin w₂ es₃, es = es₁ ++ (es₂ ++ es₃) ∧
        Yields (performAll before) ⟨tx, .empty, .empty owner reserve⟩ es₁ () w₁ ∧
        Yields (acquire step t amount) w₁ es₂ coin w₂ ∧ Yields (performAll after) w₂ es₃ () w' ∧
        Sourcing t amount w₁ es₂ w₂ := by
  have h := sourced_performAll hm hy
  refine ⟨?_, h.split, ?_⟩
  · intro u
    refine ⟨h.greatest u, ?_⟩
    rw [h.pooled, excess]
    omega
  · rintro before step t amount after rfl
    obtain ⟨es₁, w₁, es', rfl, hbefore, hrest⟩ := yields_performAll_append.1 hy
    obtain ⟨es₂, _, w₂, hperform, es₃, rfl, hafter⟩ := yields_bind.1 hrest
    obtain ⟨es₂, coin, w₂, hacquire, es₄, rfl, hr⟩ := yields_bind.1 hperform
    obtain ⟨rfl, -, rfl⟩ := yields_pure.1 hr
    have h := sourced_performAll (fun m hm' => hm m (List.mem_append_left _ hm')) hbefore
    obtain ⟨ht, hpos⟩ := hm (.acquire step t amount) (by simp)
    exact ⟨es₁, w₁, es₂, coin, w₂, es₃, by rw [List.append_nil], hbefore, hacquire, hafter,
      (sourced_acquire h ht hpos hacquire).2⟩

def spender : Script :=
  { Rehearsal.blank with ledger := ⟨[("0x2::sui::SUI", 100)], [], [], [], none, none, none, none⟩ }

def toppedUp : List Move := [
  .produce ⟨"SUI", 9, "0x2::sui::SUI"⟩ (.result 7) 5, .acquire 1 ⟨"SUI", 9, "0x2::sui::SUI"⟩ 8,
  .acquire 2 ⟨"SUI", 9, "0x2::sui::SUI"⟩ 2, .produce ⟨"SUI", 9, "0x2::sui::SUI"⟩ (.result 9) 4,
  .acquire 3 ⟨"SUI", 9, "0x2::sui::SUI"⟩ 3]

def toppedUpRun : Program (Except Fault Unit × Workspace) :=
  (performAll toppedUp).run ⟨.empty "0x51", .empty, .empty "0x51" 1⟩

theorem performAll_takes_least_toppedUp :
    (∀ m ∈ toppedUp, m.Regular (.ofList TokenRegistry.mainnetTokens)) ∧
      ∃ es w' splits, Yields (performAll toppedUp) ⟨.empty "0x51", .empty, .empty "0x51" 1⟩ es () w' ∧
        IsGreatest (excesses "0x2::sui::SUI" toppedUp)
          ((TokenRegistry.ofList TokenRegistry.mainnetTokens).taken w'.wallet es "0x2::sui::SUI") ∧
        w'.pool.available "0x2::sui::SUI" = 1 ∧
        SplitOff (.ofList TokenRegistry.mainnetTokens) es w' splits ∧
        w'.tx.commands = [.splitCoins .gas [3], .mergeCoins (.result 7) [.nestedResult 0 0], .splitCoins .gas [2],
          .splitCoins (.result 9) [3]] := by
  have hm : ∀ m ∈ toppedUp, m.Regular (.ofList TokenRegistry.mainnetTokens) := by decide +kernel
  have hy := Rehearsal.yields_perform toppedUpRun (.create spender)
  have hok : (Rehearsal.perform toppedUpRun (.create spender)).1.1.isOk = true := by decide +kernel
  have hcommands : (Rehearsal.perform toppedUpRun (.create spender)).1.2.tx.commands =
      [.splitCoins .gas [3], .mergeCoins (.result 7) [.nestedResult 0 0], .splitCoins .gas [2],
        .splitCoins (.result 9) [3]] := by
    rfl
  have hleft : (Rehearsal.perform toppedUpRun (.create spender)).1.2.pool.available "0x2::sui::SUI" = 1 := by
    decide +kernel
  cases hrun : (Rehearsal.perform toppedUpRun (.create spender)).1 with
  | mk x w' =>
    rw [hrun] at hy hok hcommands hleft
    cases x with
    | error f => cases hok
    | ok a =>
      obtain ⟨htaken, ⟨splits, hsplits⟩, -⟩ := performAll_takes_least (.empty "0x51") "0x51" 1 hm hy
      exact ⟨hm, _, w', splits, hy, (htaken "0x2::sui::SUI").1, hleft, hsplits, hcommands⟩

end Assembly

end LedgerFlow
