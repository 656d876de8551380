import LedgerFlow.Proofs.Assembly.Operations
import LedgerFlow.Proofs.Replay.Demands
import LedgerFlow.Proofs.Wallet.Reruns

/-!
Two assemblies of one plan, with more to spend of one source in the second. Up to the coin that the first could not
acquire they acquire the same coins in the same order, whatever becomes of the transactions.
-/

namespace LedgerFlow

variable {σ : Type} {answer : (r : Request) → σ → r.Answer × σ} {reserve : Int} {source : Source}

theorem Protocol.Setting.find?_of_tokenOf {c : Protocol.Setting} {s : Step} {symbol : Option String} {t : Token}
    (h : c.tokenOf s symbol = .ok t) : ∃ symbol, c.tokens.find? symbol = some t := by
  cases symbol with
  | none => cases h
  | some symbol => exact ⟨symbol, find?_of_token h⟩

def AssemblySetting.redeemedTypes (c : AssemblySetting) (s : Step) : List String :=
  match s.node.data with
  | .lend d =>
    if c.redeems s then
      match c.tokens.find? d.asset with
      | some t => Protocol.Scallop.marketCoinType t ::
          (Protocol.Scallop.wrappedCoins.lookup t.symbol).toList.map (·.coinType)
      | none => []
    else []
  | _ => []

namespace Assembly

theorem stepsCourse_operations (c : AssemblySetting) (steps : List Step) :
    stepsCourse c (Plan.operations steps) = stepsCourse c steps := by
  induction steps with
  | nil => rfl
  | cons s rest ih =>
    rw [Plan.operations_cons, stepsCourse]
    cases hk : s.node.adapterKey? with
    | none => exact ih
    | some key =>
      have hlive : (s.isLive && !s.isBridge) = !(s.skipped || s.isBridge) := by rw [Step.isLive, Bool.not_or]
      rw [Option.isSome_some, Bool.true_and, hlive]
      cases hskip : s.skipped || s.isBridge with
      | true => exact ih
      | false => simp [stepsCourse, hk, hskip, ih]

theorem acquisitions_operations (c : AssemblySetting) (steps : List Step) (answer : (r : Request) → σ → r.Answer × σ)
    (s : σ) : acquisitions c (Plan.operations steps) answer s = acquisitions c steps answer s := by
  rw [acquisitions, stepsCourse_operations]
  rfl

end Assembly

namespace Rerun

open Assembly Protocol

variable {c : Setting} {r : Rerun answer c reserve source} {α β : Type}

/-! Courses side by side -/

/-- The same acquisitions in the same order, and in between the second run follows the first. -/
inductive Matched (r : Rerun answer c reserve source) {α : Type} (R : α → α → Prop) : Course α → Course α → Prop
  | done {a a' : α} (h : R a a') : Matched r R (.done a) (.done a')
  | act {β : Type} {S : β → β → Prop} {p p' : Assembly β} {next next' : β → Course α} (hp : r.Follows S p p')
      (hn : ∀ b b', S b b' → Matched r R (next b) (next' b')) : Matched r R (.act p next) (.act p' next')
  | acquire {a : Acquisition} {symbol : String} {next next' : Handle → Course α}
      (hknown : c.tokens.find? symbol = some a.token) (hn : ∀ coin coin', Matched r R (next coin) (next' coin')) :
      Matched r R (.acquire a next) (.acquire a next')

theorem Matched.bind {R : α → α → Prop} {S : β → β → Prop} {x x' : Course α} {f f' : α → Course β}
    (h : r.Matched R x x') (hf : ∀ a a', R a a' → r.Matched S (f a) (f' a')) :
    r.Matched S (x >>= f) (x' >>= f') := by
  induction h with
  | done h => exact hf _ _ h
  | act hp _ ih => exact .act hp ih
  | acquire hknown _ ih => exact .acquire hknown ih

theorem matched_pure {R : α → α → Prop} {a a' : α} (h : R a a') : r.Matched R (pure a) (pure a') := .done h

theorem matched_plain {R : α → α → Prop} {s : Step} {p p' : Assembly α} (hp : r.Follows R p p') :
    r.Matched R (.plain s p) (.plain s p') :=
  .act hp.mapFault fun _ _ h => .done h

theorem matched_coin {symbol : String} {t : Token} (hknown : c.tokens.find? symbol = some t) (s : Step) (amount : Int) :
    r.Matched (fun _ _ => True) (.coin s t amount) (.coin s t amount) :=
  .acquire hknown fun _ _ => .done trivial

def SamePayment (c : Setting) (x x' : Token × Int × β) : Prop :=
  x = x' ∧ ∃ symbol, c.tokens.find? symbol = some x.1

theorem matched_paying {s : Step} {before : Assembly (Token × Int × β)}
    {after : Token → Int → β → Handle → Assembly Unit} (hb : r.Follows (SamePayment c) before before)
    (ha : ∀ t amount b coin coin', r.Follows Eq (after t amount b coin) (after t amount b coin')) :
    r.Matched Eq (.paying s before after) (.paying s before after) := by
  apply (matched_plain hb).bind
  rintro ⟨t, amount, b⟩ _ ⟨rfl, symbol, hknown⟩
  apply (matched_coin hknown s amount).bind
  exact fun coin coin' _ => matched_plain (ha t amount b coin coin')

/-! What a run reaches, so does the other -/

theorem record_acquire_zero (a : Acquisition) (next : Handle → Course α) (w : Workspace) (s : σ) :
    ((Course.acquire a next).record answer w s)[0]? = some (a, (((coinOf a).run w).run answer s).1.1) := by
  rw [Course.record]
  cases h : ((coinOf a).run w).run answer s with
  | mk x s₁ =>
    obtain ⟨x, w₁⟩ := x
    cases x <;> rfl

theorem Matched.reaches {R : α → α → Prop} {p p' : Course α} {w w' : Workspace} {s : σ} {s' : r.State} {n : Nat}
    {a : Acquisition} {x : Except Fault Handle} (h : r.Matched R p p') (ha : r.Alike w w') (hs : r.Same s s')
    (hx : (p.record answer w s)[n]? = some (a, x)) :
    ∃ symbol w₁ w₁' s₁ s₁', c.tokens.find? symbol = some a.token ∧ r.Alike w₁ w₁' ∧ r.Same s₁ s₁' ∧
      x = (((coinOf a).run w₁).run answer s₁).1.1 ∧
      (p'.record r.again w' s')[n]? = some (a, (((coinOf a).run w₁').run r.again s₁').1.1) := by
  -- Up to the acquisition in question the books stay alike; what comes of it in the second run is left open.
  induction h generalizing w w' s s' n with
  | done => cases hx
  | act hp hn ih =>
    rw [Course.record] at hx
    split at hx
    · next b w₁ s₁ hrun =>
      obtain ⟨b', w₁', s₁', hrun', ha₁, hs₁, hb⟩ := hp _ _ _ _ _ _ _ ha hs hrun
      obtain ⟨symbol, w₂, w₂', s₂, s₂', hknown, ha₂, hs₂, heq, hrecord⟩ := ih b b' hb ha₁ hs₁ hx
      exact ⟨symbol, w₂, w₂', s₂, s₂', hknown, ha₂, hs₂, heq, by rw [Course.record, hrun']; exact hrecord⟩
    · cases hx
  | @acquire b symbol next next' hknown hn ih =>
    cases n with
    | zero =>
      rw [record_acquire_zero] at hx
      obtain ⟨rfl, rfl⟩ := Prod.mk.inj (Option.some.inj hx)
      exact ⟨symbol, w, w', s, s', hknown, ha, hs, rfl, record_acquire_zero _ _ _ _⟩
    | succ n =>
      rw [Course.record] at hx
      split at hx
      · next coin w₁ s₁ hrun =>
        obtain ⟨coin', w₁', s₁', hrun', ha₁, hs₁, -⟩ :=
          (follows_acquire b.step.index hknown b.amount).mapFault _ _ _ _ _ _ _ ha hs hrun
        obtain ⟨symbol, w₂, w₂', s₂, s₂', hfound, ha₂, hs₂, heq, hrecord⟩ := ih coin coin' ha₁ hs₁ hx
        refine ⟨symbol, w₂, w₂', s₂, s₂', hfound, ha₂, hs₂, heq, ?_⟩
        rw [Course.record, coinOf, hrun']
        exact hrecord
      · cases hx

/-! Builders -/

section

variable {s : Step}

theorem follows_payment (symbol : String) (units : Token → Except Fault Int) (b : β) :
    r.Follows (SamePayment c)
      (do
        let t ← Assembly.ofExcept (c.token s symbol)
        let n ← Assembly.ofExcept (units t)
        return (t, n, b))
      (do
        let t ← Assembly.ofExcept (c.token s symbol)
        let n ← Assembly.ofExcept (units t)
        return (t, n, b)) := by
  apply follows_ofExcept_bind
  intro t ht
  exact follows_ofExcept_bind fun n _ => follows_pure ⟨rfl, symbol, Setting.find?_of_token ht⟩

theorem matched_transferCourse (d : TransferData) :
    r.Matched Eq (Native.transferCourse c s d) (Native.transferCourse c s d) := by
  apply matched_paying
  · exact follows_payment _ _ _
  · intro t amount recipient coin coin'
    apply follows_eq_bind (follows_transfer _ _ _)
    intro _
    exact follows_ite Iff.rfl follows_throw (follows_pure rfl)

theorem matched_stakingCourse {d : StakeData} {validator : Assembly String} {after : String → Handle → Assembly Unit}
    (hv : r.Follows Eq validator validator) (ha : ∀ v coin coin', r.Follows Eq (after v coin) (after v coin')) :
    r.Matched Eq (Native.stakingCourse c s d validator after) (Native.stakingCourse c s d validator after) := by
  apply matched_paying
  · exact follows_eq_bind hv fun v => follows_payment _ _ v
  · exact fun _ _ v coin coin' => ha v coin coin'

theorem follows_call_only (target : String) (arguments arguments' : List Handle) (types : List String) :
    r.Follows Eq (do let _ ← call target arguments types) (do let _ ← call target arguments' types) :=
  follows_bind (follows_call _ _ _ _) fun _ _ _ => follows_pure rfl

theorem follows_call_transfer (target : String) (arguments arguments' : List Handle) (types : List String)
    (recipient : Option String) :
    r.Follows Eq (do let receipt ← call target arguments types; transfer [receipt] recipient)
      (do let receipt ← call target arguments' types; transfer [receipt] recipient) :=
  follows_bind (follows_call _ _ _ _) fun _ _ _ => follows_transfer _ _ _

theorem matched_nativeStake (d : StakeData) :
    r.Matched Eq (Native.stakeCourse c s d) (Native.stakeCourse c s d) := by
  apply matched_stakingCourse
  · unfold Native.chosenValidator
    split
    · exact follows_throw
    · exact follows_pure rfl
  · exact fun v coin coin' => follows_call_only _ _ _ _

theorem matched_aftermathStake (d : StakeData) :
    r.Matched Eq (Aftermath.stakeCourse c s d) (Aftermath.stakeCourse c s d) := by
  apply matched_stakingCourse
  · unfold Aftermath.validator
    split
    · exact follows_pure rfl
    · apply follows_eq_bind (follows_ask (by simp [Request.source?]) rfl)
      intro vs
      cases vs with
      | nil => exact follows_throw
      | cons v rest => exact follows_pure rfl
  · exact fun v coin coin' => follows_call_transfer _ _ _ _ _

theorem matched_voloStake (d : StakeData) : r.Matched Eq (Volo.stakeCourse c s d) (Volo.stakeCourse c s d) :=
  matched_stakingCourse (follows_pure rfl) fun _ _ _ => follows_call_transfer _ _ _ _ _

theorem follows_exchange (q : SwapQuote) (coin coin' : Handle) :
    r.Follows (fun _ _ => True) (Exchange.exchange c q coin) (Exchange.exchange c q coin') := by
  apply follows_bind follows_state
  intro x x' _
  have hbuild : r.Follows (fun _ _ => True) (ofEngine (Engine.swapBuild q coin c.slippage x.tx))
      (ofEngine (Engine.swapBuild q coin' c.slippage x'.tx)) := by
    intro w w' s s' out w₁ s₁ ha hs hrun
    have hfirst : ((ofEngine (Engine.swapBuild q coin c.slippage x.tx)).run w).run answer s =
      (((answer (.swapBuild q coin c.slippage x.tx) s).1, w), (answer (.swapBuild q coin c.slippage x.tx) s).2) := rfl
    have hagain : ((ofEngine (Engine.swapBuild q coin' c.slippage x'.tx)).run w').run r.again s' =
      (((r.again (.swapBuild q coin' c.slippage x'.tx) s').1, w'),
        (r.again (.swapBuild q coin' c.slippage x'.tx) s').2) := rfl
    rw [hfirst, Prod.mk.injEq, Prod.mk.injEq] at hrun
    obtain ⟨⟨hok, rfl⟩, rfl⟩ := hrun
    obtain ⟨hok', hs₁⟩ := r.routed q coin coin' c.slippage x.tx x'.tx s s' hs (by rw [hok]; rfl)
    rw [hagain]
    cases hanswer : (r.again (.swapBuild q coin' c.slippage x'.tx) s').1 with
    | ok out' => exact ⟨out', w', _, rfl, ha, hs₁, trivial⟩
    | error f =>
      rw [hanswer] at hok'
      cases hok'
  apply follows_bind hbuild
  intro out out' _
  exact follows_bind (follows_setTx _ _) fun _ _ _ => follows_pure trivial

theorem matched_swapCourse (d : SwapData) :
    r.Matched Eq (Exchange.swapCourse c s d) (Exchange.swapCourse c s d) := by
  apply matched_paying
  · apply follows_ite Iff.rfl follows_throw_bind
    apply follows_ofExcept_bind
    intro t ht
    apply follows_ofExcept_bind
    intro u _
    apply follows_ofExcept_bind
    intro n _
    refine follows_eq_bind ?_ fun offer => follows_pure ⟨rfl, Setting.find?_of_tokenOf ht⟩
    apply follows_eq_bind (follows_ask (by simp [Request.source?]) rfl)
    intro offer
    cases offer.filter fun q => 0 < q.amountOut with
    | none => exact follows_throw
    | some q => exact follows_pure rfl
  · intro t amount offer coin coin'
    exact follows_bind (follows_exchange _ _ _) fun _ _ _ => follows_transfer _ _ _

theorem follows_obtain (t : Token) (pool : Navi.LendingPool) (amount : Int) (action : String) :
    r.Follows Eq (Navi.obtain t pool amount action) (Navi.obtain t pool amount action) := by
  apply follows_bind (follows_call _ _ _ _)
  intro balance balance' _
  exact follows_bind (follows_call _ _ _ _) fun _ _ _ => follows_deposit _ _ _ _

theorem matched_naviLend (d : LendData) : r.Matched Eq (Navi.lendCourse c s d) (Navi.lendCourse c s d) := by
  unfold Navi.lendCourse
  split
  · apply matched_paying
    · apply follows_ofExcept_bind
      intro t ht
      cases Navi.pools.lookup t.symbol with
      | none => exact follows_throw
      | some pool => exact follows_ofExcept_bind fun n _ => follows_pure ⟨rfl, _, Setting.find?_of_token ht⟩
    · exact fun t amount pool coin coin' => follows_call_only _ _ _ _
  · next hdeposit =>
    apply matched_plain
    apply follows_ofExcept_bind
    intro t _
    cases Navi.pools.lookup t.symbol with
    | none => exact follows_throw
    | some pool =>
      apply follows_ofExcept_bind
      intro n _
      split
      · next h => exact absurd h hdeposit
      · exact follows_obtain _ _ _ _
      · exact follows_obtain _ _ _ _
      · exact follows_throw
      · exact follows_throw

theorem follows_gather (coins : List CoinRecord) (needed : Int) :
    r.Follows (fun _ _ => True) (Scallop.gather coins needed) (Scallop.gather coins needed) := by
  unfold Scallop.gather
  split
  · exact follows_throw
  · exact follows_bind (follows_merge _ _ _ _) fun _ _ _ => follows_splitOne _ _ _

theorem follows_marketCoin (t : Token) (wrapped : Option Scallop.WrappedCoin) (xs ys : List CoinRecord) (needed : Int) :
    r.Follows (fun _ _ => True) (Scallop.marketCoin s t wrapped xs ys needed)
      (Scallop.marketCoin s t wrapped xs ys needed) := by
  unfold Scallop.marketCoin
  dsimp only
  split
  · exact follows_bind (follows_gather _ _) fun _ _ _ => follows_call _ _ _ _
  · exact follows_ite Iff.rfl (follows_gather _ _) follows_fail

theorem follows_marketCoins {t : Token} {wrapped : Option Scallop.WrappedCoin}
    (hplain : source ≠ .coins (Scallop.marketCoinType t)) (hwrapped : ∀ x ∈ wrapped, source ≠ .coins x.coinType) :
    r.Follows Eq (Scallop.marketCoins c t wrapped) (Scallop.marketCoins c t wrapped) := by
  have hcoins : ∀ u, source ≠ .coins u →
      r.Follows Eq (ofEngine (Engine.coins c.signer u)) (ofEngine (Engine.coins c.signer u)) := by
    intro u hu
    have hq : (Request.coins c.signer u).source? ≠ some source := fun heq => hu (Option.some.inj heq).symm
    exact follows_ask hq rfl
  have hrest : ∀ xs : List CoinRecord, r.Follows Eq
      (do let ys ← ofEngine (Engine.coins c.signer (Scallop.marketCoinType t)); return (xs, ys))
      (do let ys ← ofEngine (Engine.coins c.signer (Scallop.marketCoinType t)); return (xs, ys)) := fun xs =>
    follows_eq_bind (hcoins _ hplain) fun ys => follows_pure rfl
  unfold Scallop.marketCoins
  cases wrapped with
  | none => exact follows_eq_bind (follows_pure rfl) hrest
  | some x => exact follows_eq_bind (hcoins _ (hwrapped x rfl)) hrest

theorem follows_withdrawal {d : LendData} {t : Token} (hplain : source ≠ .coins (Scallop.marketCoinType t))
    (hwrapped : ∀ x ∈ Scallop.wrappedCoins.lookup t.symbol, source ≠ .coins x.coinType) :
    r.Follows Eq (Scallop.withdraw c s d t) (Scallop.withdraw c s d t) := by
  apply follows_eq_bind (follows_marketCoins hplain hwrapped)
  rintro ⟨xs, ys⟩
  apply follows_ite Iff.rfl follows_throw_bind
  apply follows_ofExcept_bind
  intro shares _
  exact follows_bind (follows_marketCoin _ _ _ _ _) fun _ _ _ => follows_call_only _ _ _ _

theorem follows_obligation (d : LendData) (action : String) :
    r.Follows Eq (Scallop.obligation c s d action) (Scallop.obligation c s d action) := by
  have hfirst : ∀ (ids : List String) (f : Fault), r.Follows Eq (Scallop.first ids f) (Scallop.first ids f) := by
    intro ids f
    cases ids with
    | nil => exact follows_throw
    | cons id rest => exact follows_pure rfl
  unfold Scallop.obligation
  split
  · exact follows_pure rfl
  · apply follows_eq_bind (follows_ask (by simp [Request.source?]) rfl)
    intro ids
    apply follows_eq_bind (hfirst _ _)
    intro id
    apply follows_eq_bind (follows_ask (by simp [Request.source?]) rfl)
    intro keys
    exact follows_eq_bind (hfirst _ _) fun key => follows_pure rfl

theorem matched_scallopLend {d : LendData} (hclear : d.action = "withdraw" → ∀ t, c.token s d.asset = .ok t →
      source ≠ .coins (Scallop.marketCoinType t) ∧
        ∀ x ∈ Scallop.wrappedCoins.lookup t.symbol, source ≠ .coins x.coinType) :
    r.Matched Eq (Scallop.lendCourse c s d) (Scallop.lendCourse c s d) := by
  unfold Scallop.lendCourse
  split
  · apply matched_paying
    · exact follows_payment _ _ _
    · exact fun t amount _ coin coin' => follows_call_only _ _ _ _
  · apply matched_paying
    · apply follows_ofExcept_bind
      intro t ht
      apply follows_eq_bind (follows_obligation _ _)
      intro o
      exact follows_ofExcept_bind fun n _ => follows_pure ⟨rfl, _, Setting.find?_of_token ht⟩
    · exact fun t amount o coin coin' => follows_call_only _ _ _ _
  · next hdeposit hrepay =>
    apply matched_plain
    apply follows_ofExcept_bind
    intro t ht
    split
    · next h => exact absurd h hdeposit
    · next h =>
      obtain ⟨hplain, hwrapped⟩ := hclear h t ht
      exact follows_withdrawal hplain hwrapped
    · apply follows_eq_bind (follows_obligation _ _)
      intro o
      exact follows_ofExcept_bind fun n _ => follows_call_only _ _ _ _
    · next h => exact absurd h hrepay
    · exact follows_throw

theorem matched_handleCourse (a : MoveCall.Argument) :
    r.Matched (fun _ _ => True) (MoveCall.handleCourse c s a) (MoveCall.handleCourse c s a) := by
  cases a with
  | coin amount =>
    have hknown : r.Follows (fun t t' => t = t' ∧ c.tokens.find? nativeSymbol = some t) (MoveCall.coinToken c s amount)
        (MoveCall.coinToken c s amount) :=
      follows_ite Iff.rfl follows_throw_bind (follows_ofExcept fun t ht => ⟨rfl, Setting.find?_of_token ht⟩)
    apply Matched.bind (matched_plain hknown)
    rintro t _ ⟨rfl, hfind⟩
    exact matched_coin hfind s amount
  | bool b => exact matched_plain (follows_pure trivial)
  | object id => exact matched_plain (follows_pure trivial)
  | text t => exact matched_plain (follows_pure trivial)
  | plain v => exact matched_plain (follows_pure trivial)

theorem matched_handlesCourse (vs : List Json) :
    r.Matched (fun _ _ => True) (MoveCall.handlesCourse c s vs) (MoveCall.handlesCourse c s vs) := by
  induction vs with
  | nil => exact matched_pure trivial
  | cons v rest ih =>
    apply Matched.bind (matched_plain (follows_ofExcept fun _ _ => rfl))
    rintro a _ rfl
    exact (matched_handleCourse a).bind fun _ _ _ => ih.bind fun _ _ _ => matched_pure trivial

theorem matched_callCourse (d : CustomData) :
    r.Matched Eq (MoveCall.callCourse c s d) (MoveCall.callCourse c s d) := by
  apply Matched.bind (matched_plain (follows_ofExcept_bind fun values _ =>
    follows_ofExcept_bind fun types _ => follows_pure rfl))
  rintro ⟨values, types⟩ _ rfl
  exact (matched_handlesCourse values).bind fun _ _ _ => matched_plain (follows_call_only _ _ _ _)

theorem matched_course {b : Builder} (hclear : ∀ d, b = .scallopLending → s.node.data = .lend d →
      d.action = "withdraw" → ∀ t, c.token s d.asset = .ok t → source ≠ .coins (Scallop.marketCoinType t) ∧
        ∀ x ∈ Scallop.wrappedCoins.lookup t.symbol, source ≠ .coins x.coinType) :
    r.Matched Eq (b.course c s) (b.course c s) := by
  unfold Builder.course
  split
  · exact matched_transferCourse _
  · exact matched_swapCourse _
  · exact matched_callCourse _
  · exact matched_nativeStake _
  · exact matched_aftermathStake _
  · exact matched_voloStake _
  · exact matched_naviLend _
  · next d hd => exact matched_scallopLend (hclear d rfl hd)
  · exact matched_plain follows_throw

end

/-! Plans -/

section

variable {c : AssemblySetting} {r : Rerun answer (protocolSetting c) reserve source}

theorem matched_stepCourse {s : Step} {key : AdapterKey} (hk : s.node.adapterKey? = some key)
    (hclear : ∀ u ∈ c.redeemedTypes s, source ≠ .coins u) :
    r.Matched Eq (stepCourse c s key) (stepCourse c s key) := by
  unfold stepCourse
  cases hb : c.adapters.find? key with
  | none => exact .act follows_throw fun _ _ h => .done h
  | some b =>
    apply matched_course
    rintro d rfl hd haction t ht
    have htypes : c.redeemedTypes s =
        Scallop.marketCoinType t :: (Scallop.wrappedCoins.lookup t.symbol).toList.map (·.coinType) := by
      have hredeems : c.redeems s = true := by simp [AssemblySetting.redeems, hd, haction, hk, hb]
      have hfind : c.tokens.find? d.asset = some t := Setting.find?_of_token ht
      simp [AssemblySetting.redeemedTypes, hd, hredeems, hfind]
    rw [htypes] at hclear
    refine ⟨hclear _ List.mem_cons_self, fun x hx => hclear _ (.tail _ ?_)⟩
    exact List.mem_map.2 ⟨x, by simpa using hx, rfl⟩

theorem matched_stepsCourse {steps : List Step} (hclear : ∀ s ∈ steps, ∀ u ∈ c.redeemedTypes s, source ≠ .coins u) :
    r.Matched Eq (stepsCourse c steps) (stepsCourse c steps) := by
  induction steps with
  | nil => exact matched_pure rfl
  | cons s rest ih =>
    have hrest := ih fun x hx => hclear x (.tail _ hx)
    unfold stepsCourse
    cases hk : s.node.adapterKey? with
    | none => exact hrest
    | some key =>
      dsimp only
      split
      · exact hrest
      · apply (matched_stepCourse hk (hclear s List.mem_cons_self)).bind
        rintro _ _ -
        apply hrest.bind
        rintro m _ rfl
        exact matched_pure rfl

theorem alike_start (r : Rerun answer (protocolSetting c) reserve source) :
    r.Alike (start c reserve) (start c reserve) where
  pool := fun _ => rfl
  owner := ⟨rfl, rfl⟩
  reserve := ⟨rfl, rfl⟩
  left := by
    intro u
    rw [start, Wallet.left_empty]
    rfl
  idle := ⟨Wallet.idle_empty, Wallet.idle_empty⟩

end

end Rerun

end LedgerFlow
