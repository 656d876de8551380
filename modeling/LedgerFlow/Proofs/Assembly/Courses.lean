import LedgerFlow.Assembly.Transaction

/-!
The assembly of a plan cut at the coins that its steps acquire. In between a step asks, reckons and records; which coins
are acquired, and what comes of each acquisition, is read off.
-/

namespace LedgerFlow

theorem Program.lawfulMonad : LawfulMonad Program :=
  LawfulMonad.mk' Program Program.bind_done (fun _ _ => rfl) Program.bind_assoc

attribute [local instance] Program.lawfulMonad

structure Acquisition where
  step : Step
  token : Token
  amount : Int

namespace Assembly

section

variable {α β : Type} {f : Fault → Fault}

theorem mapFault_bind (p : Assembly α) (k : α → Assembly β) :
    mapFault f (p >>= k) = mapFault f p >>= fun a => mapFault f (k a) := by
  apply ExceptT.ext
  funext w
  have hl : (mapFault f (p >>= k)).run w =
      ((p.run w).bind fun x => ExceptT.bindCont k x.1 x.2).bind fun r => .done (r.1.mapError f, r.2) := rfl
  have hr : (mapFault f p >>= fun a => mapFault f (k a)).run w =
      ((p.run w).bind fun r => .done (r.1.mapError f, r.2)).bind fun x =>
        ExceptT.bindCont (fun a => mapFault f (k a)) x.1 x.2 := rfl
  rw [hl, hr, Program.bind_assoc, Program.bind_assoc]
  congr 1
  funext x
  obtain ⟨y, w₁⟩ := x
  cases y <;> rfl

theorem mapFault_map (g : α → β) (p : Assembly α) : mapFault f (g <$> p) = g <$> mapFault f p := by
  rw [map_eq_pure_bind, map_eq_pure_bind, mapFault_bind]
  rfl

theorem run_bind_error {σ : Type} {answer : (r : Request) → σ → r.Answer × σ} {p : Assembly α} {k : α → Assembly β}
    {w : Workspace} {s : σ} {e : Fault} (h : ((p.run w).run answer s).1.1 = .error e) :
    (((p >>= k).run w).run answer s).1.1 = .error e := by
  have hbind : (p >>= k).run w = (p.run w).bind fun x => ExceptT.bindCont k x.1 x.2 := rfl
  rw [hbind, Program.run_bind, h]
  rfl

theorem run_bind_of_run_ok {σ : Type} {answer : (r : Request) → σ → r.Answer × σ} {p : Assembly α} {k : α → Assembly β}
    {a : α} {w w₁ : Workspace} {s s₁ : σ} (h : (p.run w).run answer s = ((.ok a, w₁), s₁)) :
    ((p >>= k).run w).run answer s = ((k a).run w₁).run answer s₁ := by
  have hbind : (p >>= k).run w = (p.run w).bind fun x => ExceptT.bindCont k x.1 x.2 := rfl
  rw [hbind, Program.run_bind, h]
  rfl

end

def coinOf (a : Acquisition) : Assembly Handle :=
  mapFault (buildFailure a.step) (acquire a.step.index a.token a.amount)

/-- A computation on the workspace in which acquisitions are told from all else. -/
inductive Course (α : Type) : Type 1
  | done (a : α)
  | act {β : Type} (p : Assembly β) (next : β → Course α)
  | acquire (a : Acquisition) (next : Handle → Course α)

namespace Course

variable {α β σ : Type}

def bind : Course α → (α → Course β) → Course β
  | .done a, f => f a
  | .act p next, f => .act p fun b => (next b).bind f
  | .acquire a next, f => .acquire a fun coin => (next coin).bind f

instance : Monad Course where
  pure := .done
  bind := bind

def whole : Course α → Assembly α
  | .done a => pure a
  | .act p next => p >>= fun b => (next b).whole
  | .acquire a next => coinOf a >>= fun coin => (next coin).whole

/-- The acquisitions of a run, in order, and what comes of each. One that fails is the last. -/
def record (answer : (r : Request) → σ → r.Answer × σ) :
    Course α → Workspace → σ → List (Acquisition × Except Fault Handle)
  | .done _, _, _ => []
  | .act p next, w, s =>
    match (p.run w).run answer s with
    | ((.ok b, w₁), s₁) => (next b).record answer w₁ s₁
    | ((.error _, _), _) => []
  | .acquire a next, w, s =>
    match ((coinOf a).run w).run answer s with
    | ((.ok coin, w₁), s₁) => (a, .ok coin) :: (next coin).record answer w₁ s₁
    | ((.error f, _), _) => [(a, .error f)]

@[simp] theorem whole_pure (a : α) : (pure a : Course α).whole = pure a := rfl

@[simp] theorem whole_bind (p : Course α) (f : α → Course β) :
    (p >>= f).whole = p.whole >>= fun a => (f a).whole := by
  induction p with
  | done a => exact (pure_bind a fun a => (f a).whole).symm
  | act p next ih =>
    have h : (act p next >>= f).whole = p >>= fun b => (next b >>= f).whole := rfl
    rw [h, whole, bind_assoc]
    exact congrArg _ (funext ih)
  | acquire a next ih =>
    have h : (acquire a next >>= f).whole = coinOf a >>= fun coin => (next coin >>= f).whole := rfl
    rw [h, whole, bind_assoc]
    exact congrArg _ (funext ih)

/-! Steps -/

def plain (s : Step) (p : Assembly α) : Course α := .act (mapFault (buildFailure s) p) .done

def coin (s : Step) (t : Token) (amount : Int) : Course Handle := .acquire ⟨s, t, amount⟩ .done

@[simp] theorem whole_plain (s : Step) (p : Assembly α) : (plain s p).whole = mapFault (buildFailure s) p :=
  bind_pure _

@[simp] theorem whole_coin (s : Step) (t : Token) (amount : Int) :
    (coin s t amount).whole = mapFault (buildFailure s) (Assembly.acquire s.index t amount) :=
  bind_pure _

def paying (s : Step) (before : Assembly (Token × Int × β)) (after : Token → Int → β → Handle → Assembly Unit) :
    Course Unit := do
  let (t, amount, b) ← plain s before
  plain s (after t amount b (← coin s t amount))

theorem whole_paying (s : Step) (before : Assembly (Token × Int × β))
    (after : Token → Int → β → Handle → Assembly Unit) :
    (paying s before after).whole = mapFault (buildFailure s) (do
      let (t, amount, b) ← before
      after t amount b (← Assembly.acquire s.index t amount)) := by
  simp [paying, mapFault_bind]

end Course

end Assembly

namespace Protocol

open Assembly (Course)

variable (c : Setting) (s : Step)

namespace Native

def transferCourse (d : TransferData) : Course Unit :=
  .paying s (do
    let token ← Assembly.ofExcept (c.token s d.asset)
    let amount ← Assembly.ofExcept (positiveUnitsOf s "Transfer" token d.amount)
    return (token, amount, d.recipientAddress.map c.names.lookup))
  fun _ _ recipient coin => do
    Assembly.transfer [coin] recipient
    if recipient.isNone then throw (Fault.notSubscriptable "NoneType")

theorem whole_transferCourse (d : TransferData) :
    (transferCourse c s d).whole = Assembly.mapFault (Assembly.buildFailure s) (transfer c s d) := by
  simp [transferCourse, transfer, Course.whole_paying]

def stakingCourse (d : StakeData) (validator : Assembly String) (after : String → Handle → Assembly Unit) :
    Course Unit :=
  .paying s (do
    let validator ← validator
    let token ← Assembly.ofExcept (c.token s nativeSymbol)
    let amount ← Assembly.ofExcept (unitsOf token d.amount)
    return (token, amount, validator))
  fun _ _ validator coin => after validator coin

theorem whole_stakingCourse (d : StakeData) (validator : Assembly String)
    (after : String → Handle → Assembly Unit) :
    (stakingCourse c s d validator after).whole = Assembly.mapFault (Assembly.buildFailure s) (do
      let validator ← validator
      after validator (← stakeInput c s d)) := by
  simp [stakingCourse, stakeInput, Course.whole_paying]

def chosenValidator (d : StakeData) : Assembly String :=
  match d.validator.filter fun v => !v.isEmpty with
  | none => throw (s.error .execution .validatorRequired)
  | some validator => pure validator

def stakeCourse (d : StakeData) : Course Unit :=
  stakingCourse c s d (chosenValidator s d) fun validator coin => do
    let _ ← Assembly.call "0x3::sui_system::request_add_stake" [systemState, coin, addressArgument validator] []

theorem whole_stakeCourse (d : StakeData) :
    (stakeCourse c s d).whole = Assembly.mapFault (Assembly.buildFailure s) (stake c s d) := by
  rw [stakeCourse, whole_stakingCourse, chosenValidator, stake]
  cases d.validator.filter fun v => !v.isEmpty with
  | none => rfl
  | some validator => simp

end Native

namespace Aftermath

def stakeCourse (d : StakeData) : Course Unit :=
  Native.stakingCourse c s d (validator s d) fun validator coin => do
    let receipt ← Assembly.call (package ++ "::staked_sui_vault::request_stake")
      [vault, safe, systemState, referralVault, coin, addressArgument validator] []
    Assembly.transfer [receipt] (some c.signer)

theorem whole_stakeCourse (d : StakeData) :
    (stakeCourse c s d).whole = Assembly.mapFault (Assembly.buildFailure s) (stake c s d) :=
  Native.whole_stakingCourse c s d _ _

end Aftermath

namespace Volo

def stakeCourse (d : StakeData) : Course Unit :=
  Native.stakingCourse c s d (pure "") fun _ coin => do
    let receipt ← Assembly.call (package ++ "::stake_pool::stake") [stakePool, metadata, systemState, coin] []
    Assembly.transfer [receipt] (some c.signer)

theorem whole_stakeCourse (d : StakeData) :
    (stakeCourse c s d).whole = Assembly.mapFault (Assembly.buildFailure s) (stake c s d) := by
  rw [stakeCourse, Native.whole_stakingCourse, pure_bind, stake]

end Volo

namespace Exchange

def swapCourse (d : SwapData) : Course Unit :=
  .paying s (do
    if !c.hasRouter then throw (s.error .execution .noSwapRouter)
    let source ← Assembly.ofExcept (c.tokenOf s d.fromAsset)
    let target ← Assembly.ofExcept (c.tokenOf s d.toAsset)
    let amount ← Assembly.ofExcept (positiveUnitsOf s "Swap" source d.amount)
    let offer ← quote s source target amount
    return (source, amount, offer))
  fun _ _ offer coin => do
    let output ← exchange c offer coin
    Assembly.transfer [output] (some c.signer)

theorem whole_swapCourse (d : SwapData) :
    (swapCourse c s d).whole = Assembly.mapFault (Assembly.buildFailure s) (swap c s d) := by
  cases h : c.hasRouter with
  | false => simp [swapCourse, swap, Course.whole_paying, h]
  | true => simp [swapCourse, swap, Course.whole_paying, h]

end Exchange

namespace Navi

def depositCourse (d : LendData) : Course Unit :=
  .paying s (do
    let token ← Assembly.ofExcept (c.token s d.asset)
    match pools.lookup token.symbol with
    | none => throw (s.error .execution (.poolUnavailable token.symbol))
    | some pool =>
      let amount ← Assembly.ofExcept (unitsOf token d.amount)
      return (token, amount, pool))
  fun token amount pool coin => do
    let _ ← Assembly.call (function "entry_deposit")
      [clock, storage, .object pool.object, pool.assetArgument, coin, amountArgument amount, incentiveV2, incentiveV3]
      [token.coinType]

def lendCourse (d : LendData) : Course Unit :=
  if d.action = "deposit" then depositCourse c s d else .plain s (lend c s d)

theorem whole_lendCourse (d : LendData) :
    (lendCourse c s d).whole = Assembly.mapFault (Assembly.buildFailure s) (lend c s d) := by
  unfold lendCourse
  split
  · next h =>
    rw [depositCourse, Course.whole_paying, bind_assoc, lend]
    congr 2
    funext token
    cases pools.lookup token.symbol with
    | none => rfl
    | some pool => simp [h, deposit]
  · exact Course.whole_plain s _

end Navi

namespace Scallop

def depositCourse (d : LendData) : Course Unit :=
  .paying s (do
    let token ← Assembly.ofExcept (c.token s d.asset)
    let amount ← Assembly.ofExcept (unitsOf token d.amount)
    return (token, amount, ()))
  fun token _ _ coin => do
    let _ ← Assembly.call (package ++ "::mint::mint_entry") [version, market, coin, clock] [token.coinType]

def repayCourse (d : LendData) : Course Unit :=
  .paying s (do
    let token ← Assembly.ofExcept (c.token s d.asset)
    let o ← obligation c s d "repay"
    let amount ← Assembly.ofExcept (unitsOf token d.amount)
    return (token, amount, o))
  fun token _ o coin => do
    let _ ← Assembly.call (package ++ "::repay::repay_entry")
      [version, .object o.id, .object o.key, market, coin, clock] [token.coinType]

def lendCourse (d : LendData) : Course Unit :=
  match d.action with
  | "deposit" => depositCourse c s d
  | "repay" => repayCourse c s d
  | _ => .plain s (lend c s d)

theorem whole_lendCourse (d : LendData) :
    (lendCourse c s d).whole = Assembly.mapFault (Assembly.buildFailure s) (lend c s d) := by
  unfold lendCourse
  split
  · next h => simp [depositCourse, lend, deposit, h, Course.whole_paying]
  · next h => simp [repayCourse, lend, repay, h, Course.whole_paying]
  · exact Course.whole_plain s _

end Scallop

namespace MoveCall

def coinToken (amount : Int) : Assembly Token := do
  if amount ≤ 0 then throw (Fault.showing [amount] (s.error .execution (.coinArgumentNotPositive amount)))
  Assembly.ofExcept (c.token s nativeSymbol)

def handleCourse : Argument → Course Handle
  | .coin amount => do .coin s (← Course.plain s (coinToken c s amount)) amount
  | a => .plain s (handle c s a)

def handlesCourse : List Json → Course (List Handle)
  | [] => pure []
  | v :: rest => do
    let first ← handleCourse c s (← Course.plain s (Assembly.ofExcept (Argument.ofJson v)))
    return first :: (← handlesCourse rest)

def callCourse (d : CustomData) : Course Unit := do
  let (values, types) ← Course.plain s (do
    let values ← Assembly.ofExcept (listOf s d.arguments "arguments")
    return (values, ← Assembly.ofExcept (listOf s d.typeArguments "type arguments")))
  let arguments ← handlesCourse c s values
  .plain s do
    let _ ← Assembly.call (Condition.callTarget (part d.packageId) (part d.moduleName) (part d.functionName)) arguments
      (types.map Json.display)

theorem whole_handleCourse (a : Argument) :
    (handleCourse c s a).whole = Assembly.mapFault (Assembly.buildFailure s) (handle c s a) := by
  cases a with
  | coin amount =>
    by_cases h : amount ≤ 0
    · simp [handleCourse, coinToken, handle, nativeCoin, h]
      rfl
    · simp [handleCourse, coinToken, handle, nativeCoin, h, Assembly.mapFault_bind]
  | _ => exact Course.whole_plain s _

theorem whole_handlesCourse (vs : List Json) :
    (handlesCourse c s vs).whole = Assembly.mapFault (Assembly.buildFailure s) (handles c s vs) := by
  induction vs with
  | nil => rfl
  | cons v rest ih =>
    simp [handlesCourse, handles, Assembly.mapFault_bind, Assembly.mapFault_map, whole_handleCourse, ih]

theorem whole_callCourse (d : CustomData) :
    (callCourse c s d).whole = Assembly.mapFault (Assembly.buildFailure s) (call c s d) := by
  simp [callCourse, call, Assembly.mapFault_bind, Assembly.mapFault_map, whole_handlesCourse]

end MoveCall

end Protocol

namespace Builder

open Protocol

def course (b : Builder) (c : Setting) (s : Step) : Assembly.Course Unit :=
  match b, s.node.data with
  | .nativeTransfer, .transfer d => Native.transferCourse c s d
  | .exchange, .swap d => Exchange.swapCourse c s d
  | .moveCall, .custom d => MoveCall.callCourse c s d
  | .nativeStake, .stake d => Native.stakeCourse c s d
  | .aftermathStake, .stake d => Aftermath.stakeCourse c s d
  | .voloStake, .stake d => Volo.stakeCourse c s d
  | .naviLending, .lend d => Navi.lendCourse c s d
  | .scallopLending, .lend d => Scallop.lendCourse c s d
  | b, _ => .plain s (throw (s.error .execution (AdapterRegistry.unknown b.key)))

theorem whole_course (b : Builder) (c : Setting) (s : Step) :
    (b.course c s).whole = Assembly.mapFault (Assembly.buildFailure s) (b.build c s) := by
  unfold course
  split
  · next d hd => simp only [Native.whole_transferCourse, build, hd]
  · next d hd => simp only [Exchange.whole_swapCourse, build, hd]
  · next d hd => simp only [MoveCall.whole_callCourse, build, hd]
  · next d hd => simp only [Native.whole_stakeCourse, build, hd]
  · next d hd => simp only [Aftermath.whole_stakeCourse, build, hd]
  · next d hd => simp only [Volo.whole_stakeCourse, build, hd]
  · next d hd => simp only [Navi.whole_lendCourse, build, hd]
  · next d hd => simp only [Scallop.whole_lendCourse, build, hd]
  · rw [Assembly.Course.whole_plain, build] <;> assumption

end Builder

namespace Assembly

open Course (record)

variable {σ : Type} {c : AssemblySetting} {steps : List Step} {answer : (r : Request) → σ → r.Answer × σ} {s : σ}
  {a : Acquisition} {f : Fault} {n : Nat}

def stepCourse (c : AssemblySetting) (s : Step) (key : AdapterKey) : Course Unit :=
  match c.adapters.find? key with
  | none => .act (throw (s.error .execution (AdapterRegistry.unknown key))) .done
  | some b => b.course (protocolSetting c) s

def stepsCourse (c : AssemblySetting) : List Step → Course Nat
  | [] => pure 0
  | s :: rest =>
    match s.node.adapterKey? with
    | some key =>
      if s.skipped || s.isBridge then stepsCourse c rest
      else do
        stepCourse c s key
        return (← stepsCourse c rest) + 1
    | none => stepsCourse c rest

theorem whole_stepCourse (c : AssemblySetting) (s : Step) (key : AdapterKey) :
    (stepCourse c s key).whole = buildStep c s key := by
  unfold stepCourse buildStep
  cases c.adapters.find? key with
  | none => exact bind_pure (throw _ : Assembly Unit)
  | some b => exact Builder.whole_course b _ s

theorem whole_stepsCourse (c : AssemblySetting) (steps : List Step) :
    (stepsCourse c steps).whole = buildSteps c steps := by
  induction steps with
  | nil => rfl
  | cons s rest ih =>
    unfold stepsCourse buildSteps
    cases s.node.adapterKey? with
    | none => exact ih
    | some key =>
      dsimp only
      split
      · exact ih
      · simp [whole_stepCourse, ih]

def acquisitions (c : AssemblySetting) (steps : List Step) (answer : (r : Request) → σ → r.Answer × σ) (s : σ) :
    List (Acquisition × Except Fault Handle) :=
  match reserveUnits c with
  | .ok reserve => (stepsCourse c steps).record answer (start c reserve) s
  | .error _ => []

theorem Course.run_of_record {α : Type} {p : Course α} {w : Workspace}
    (h : (p.record answer w s)[n]? = some (a, .error f)) : ((p.whole.run w).run answer s).1.1 = .error f := by
  induction p generalizing w s n with
  | done a => cases h
  | act p next ih =>
    rw [record] at h
    split at h
    · next b w₁ s₁ hrun =>
      rw [whole, run_bind_of_run_ok hrun]
      exact ih b h
    · cases h
  | acquire a' next ih =>
    rw [record] at h
    split at h
    · next coin w₁ s₁ hrun =>
      cases n with
      | zero => cases h
      | succ n =>
        rw [whole, run_bind_of_run_ok hrun]
        exact ih coin h
    · next g w₁ s₁ hrun =>
      cases n with
      | zero =>
        cases h
        exact run_bind_error (congrArg (·.1.1) hrun)
      | succ n => cases h

theorem Course.record_bind_isPrefix {α β : Type} {p : Course α} {k l : α → Course β} {w : Workspace}
    (h : ∀ b w s, (k b).record answer w s <+: (l b).record answer w s) :
    (p >>= k).record answer w s <+: (p >>= l).record answer w s := by
  induction p generalizing w s with
  | done b => exact h b w s
  | act p next ih =>
    show (act p fun b => next b >>= k).record answer w s <+: (act p fun b => next b >>= l).record answer w s
    rw [record, record]
    split
    · exact ih _
    · exact List.prefix_rfl
  | acquire a next ih =>
    show (acquire a fun coin => next coin >>= k).record answer w s <+:
      (acquire a fun coin => next coin >>= l).record answer w s
    rw [record, record]
    split
    · exact List.cons_prefix_cons.2 ⟨rfl, ih _⟩
    · exact List.prefix_rfl

theorem Course.record_bind_pure {α β : Type} (p : Course α) (g : α → β) (w : Workspace) (s : σ) :
    (p >>= fun b => pure (g b)).record answer w s = p.record answer w s := by
  induction p generalizing w s with
  | done b => rfl
  | act p next ih =>
    show (act p fun b => next b >>= fun b => pure (g b)).record answer w s = (act p next).record answer w s
    rw [record, record]
    split
    · exact ih _ _ _
    · rfl
  | acquire a next ih =>
    show (acquire a fun coin => next coin >>= fun b => pure (g b)).record answer w s =
      (acquire a next).record answer w s
    rw [record, record]
    split
    · exact congrArg _ (ih _ _ _)
    · rfl

theorem record_stepsCourse_isPrefix (c : AssemblySetting) (before after : List Step) (w : Workspace) (s : σ) :
    (stepsCourse c before).record answer w s <+: (stepsCourse c (before ++ after)).record answer w s := by
  induction before generalizing w s with
  | nil => exact List.nil_prefix
  | cons x rest ih =>
    rw [List.cons_append]
    unfold stepsCourse
    cases x.node.adapterKey? with
    | none => exact ih w s
    | some key =>
      dsimp only
      split
      · exact ih w s
      · apply Course.record_bind_isPrefix
        intro _ w s
        rw [Course.record_bind_pure, Course.record_bind_pure]
        exact ih w s

theorem acquisitions_isPrefix (c : AssemblySetting) (before after : List Step)
    (answer : (r : Request) → σ → r.Answer × σ) (s : σ) :
    acquisitions c before answer s <+: acquisitions c (before ++ after) answer s := by
  unfold acquisitions
  split
  · exact record_stepsCourse_isPrefix c before after _ s
  · exact List.prefix_rfl

theorem getElem?_acquisitions_append {before : List Step} (after : List Step)
    (h : n < (acquisitions c before answer s).length) :
    (acquisitions c (before ++ after) answer s)[n]? = (acquisitions c before answer s)[n]? := by
  obtain ⟨rest, hrest⟩ := acquisitions_isPrefix c before after answer s
  rw [← hrest, List.getElem?_append_left h]

theorem assemble_of_acquisitions (h : (acquisitions c steps answer s)[n]? = some (a, .error f)) :
    ((assemble c steps).run.run answer s).1 = .error f := by
  unfold acquisitions at h
  split at h
  · next reserve hreserve =>
    have hsteps := Course.run_of_record h
    rw [whole_stepsCourse] at hsteps
    have hassemble : (assemble c steps).run = ((build c steps).run (start c reserve)).bind fun r => .done r.1 := by
      rw [assemble, hreserve]
      rfl
    rw [hassemble, Program.run_bind]
    exact run_bind_error hsteps
  · cases h

end Assembly

end LedgerFlow
