import LedgerFlow.Proofs.Assembly.Workspace
import LedgerFlow.Proofs.Phase

namespace LedgerFlow

def Request.IsReading : Request → Prop
  | .swapRoute _ _ n => 0 < n
  | q => q.phase = .building

theorem Request.IsReading.phase {q : Request} (h : q.IsReading) : q.phase = .building := by
  cases q with
  | swapRoute => rfl
  | _ => exact h

namespace Protocol

theorem pos_of_positiveUnitsOf {s : Step} {what : String} {t : Token} {amount : Option Decimal} {n : Int}
    (h : positiveUnitsOf s what t amount = .ok n) : 0 < n := by
  simp only [positiveUnitsOf, except_bind_eq_ok] at h
  obtain ⟨given, -, units, -, h⟩ := h
  split at h
  · obtain ⟨_, hx, -⟩ := except_bind_eq_ok.1 h
    cases hx
  · next hn =>
    cases h
    exact Int.not_le.1 hn

end Protocol

abbrev Engine.Reads {α : Type} (p : Engine α) : Prop := p.Asks Request.IsReading

theorem Engine.reads_ask {α : Type} {q : Request} {h : q.Answer = Except Fault α} (hq : q.IsReading) :
    (ask q h).Reads :=
  asks_ask.2 hq

namespace Assembly

abbrev Reads {α : Type} (p : Assembly α) : Prop := Asks Request.IsReading p

@[simp] theorem reads_splitOne (coin : Handle) (amount : Int) : Reads (splitOne coin amount) := by
  apply asks_bind asks_state
  intro w
  apply asks_bind asks_ofExcept
  intro r
  simp [setTx]

@[simp] theorem reads_merge (destination : Handle) (sources : List Handle) :
    Reads (merge destination sources) := by
  simp [merge, setTx]

@[simp] theorem reads_transfer (objects : List Handle) (recipient : Option String) :
    Reads (transfer objects recipient) := by
  simp [transfer, setTx]

@[simp] theorem reads_call (target : String) (arguments : List Handle) (types : List String) :
    Reads (call target arguments types) := by
  apply asks_bind asks_state
  intro w
  simp [setTx]

@[simp] theorem reads_deposit (coinType : String) (coin : Handle) (amount : Int) :
    Reads (deposit coinType coin amount) := by
  apply asks_bind asks_state
  intro w
  simp only
  split <;> simp [setPool]

@[simp] theorem reads_withdraw (coinType : String) (amount : Int) : Reads (withdraw coinType amount) := by
  apply asks_bind asks_state
  intro w
  simp only
  split
  · simp
  · apply asks_ite
    · simp
    · apply asks_ite <;> simp [setPool]

@[simp] theorem reads_take (coinType : String) : Reads (take coinType) := by
  apply asks_bind asks_state
  intro w
  simp [setPool]

@[simp] theorem reads_drain : Reads drain := by
  apply asks_bind asks_state
  intro w
  simp [setPool]

@[simp] theorem reads_nativeUnits (w : Wallet) (t : Token) : (w.nativeUnits t).Reads := by
  unfold Wallet.nativeUnits
  split
  · simp
  · apply Engine.asks_bind (Engine.reads_ask (by exact rfl))
    intro balance
    simp

@[simp] theorem reads_holding (w : Wallet) (t : Token) : (w.holding t).Reads := by
  unfold Wallet.holding
  split
  · simp
  · apply Engine.asks_bind (Engine.reads_ask (by exact rfl))
    intro coins
    simp

@[simp] theorem reads_drawNative (step : Int) (t : Token) (amount : Int) :
    Reads (drawNative step t amount) := by
  apply asks_bind asks_state
  intro w
  apply asks_bind (asks_ofEngine (reads_nativeUnits _ _))
  intro units
  apply asks_bind asks_update
  intro _
  apply asks_ite
  · simp
  · simp [setWallet]

@[simp] theorem reads_drawCoins (step : Int) (t : Token) (amount : Int) :
    Reads (drawCoins step t amount) := by
  apply asks_bind asks_state
  intro w
  apply asks_bind (asks_ofEngine (reads_holding _ _))
  intro held
  apply asks_bind asks_update
  intro _
  apply asks_ite
  · simp
  · apply asks_ite
    · simp
    · apply asks_bind (reads_merge _ _)
      intro _
      simp [setWallet]

@[simp] theorem reads_draw (step : Int) (t : Token) (amount : Int) : Reads (draw step t amount) := by
  unfold draw
  split <;> simp

@[simp] theorem reads_acquire (step : Int) (t : Token) (amount : Int) :
    Reads (acquire step t amount) := by
  apply asks_bind asks_state
  intro w
  simp only
  split
  · simp
  · split
    · simp
    · apply asks_bind (reads_take _)
      intro held
      cases held with
      | none => simp
      | some held =>
        apply asks_bind (reads_draw _ _ _)
        intro topUp
        simp

open Protocol

@[simp] theorem reads_nativeTransfer (c : Protocol.Setting) (s : Step) (d : TransferData) :
    Reads (Native.transfer c s d) := by
  apply asks_bind asks_ofExcept
  intro token
  apply asks_bind asks_ofExcept
  intro amount
  apply asks_bind (reads_acquire _ _ _)
  intro coin
  apply asks_bind (reads_transfer _ _)
  intro _
  split <;> simp

@[simp] theorem reads_stakeInput (c : Protocol.Setting) (s : Step) (d : StakeData) :
    Reads (Native.stakeInput c s d) := by
  apply asks_bind asks_ofExcept
  intro token
  simp

@[simp] theorem reads_nativeStake (c : Protocol.Setting) (s : Step) (d : StakeData) :
    Reads (Native.stake c s d) := by
  unfold Native.stake
  split <;> simp

@[simp] theorem reads_aftermathStake (c : Protocol.Setting) (s : Step) (d : StakeData) :
    Reads (Aftermath.stake c s d) := by
  apply asks_bind
  · unfold Aftermath.validator
    split
    · simp
    · apply asks_bind (asks_ofEngine (Engine.reads_ask (by exact rfl)))
      intro validators
      cases validators <;> simp
  · intro validator
    apply asks_bind (reads_stakeInput _ _ _)
    intro coin
    simp

@[simp] theorem reads_voloStake (c : Protocol.Setting) (s : Step) (d : StakeData) :
    Reads (Volo.stake c s d) := by
  apply asks_bind (reads_stakeInput _ _ _)
  intro coin
  simp

@[simp] theorem reads_swap (c : Protocol.Setting) (s : Step) (d : SwapData) :
    Reads (Exchange.swap c s d) := by
  apply asks_ite
  · simp
  · apply asks_bind asks_ofExcept
    intro source
    apply asks_bind asks_ofExcept
    intro target
    apply asks_ofExcept_bind
    intro amount hamount
    apply asks_bind
    · apply asks_bind (asks_ofEngine (Engine.reads_ask (by exact pos_of_positiveUnitsOf hamount)))
      intro offer
      split <;> simp
    · intro offer
      apply asks_bind (reads_acquire _ _ _)
      intro input
      apply asks_bind
      · apply asks_bind asks_state
        intro w
        apply asks_bind (asks_ofEngine (Engine.reads_ask (by exact rfl)))
        intro output
        simp [setTx]
      · intro output
        simp

@[simp] theorem reads_handle (c : Protocol.Setting) (s : Step) (a : MoveCall.Argument) :
    Reads (MoveCall.handle c s a) := by
  cases a with
  | coin amount =>
    simp only [MoveCall.handle, MoveCall.nativeCoin]
    split <;> simp
  | _ => simp [MoveCall.handle]

theorem reads_handles (c : Protocol.Setting) (s : Step) (vs : List Json) :
    Reads (MoveCall.handles c s vs) := by
  induction vs with
  | nil => simp [MoveCall.handles]
  | cons v rest ih =>
    apply asks_bind asks_ofExcept
    intro a
    apply asks_bind (reads_handle _ _ _)
    intro first
    simp [ih]

@[simp] theorem reads_moveCall (c : Protocol.Setting) (s : Step) (d : CustomData) :
    Reads (MoveCall.call c s d) := by
  apply asks_bind asks_ofExcept
  intro values
  apply asks_bind asks_ofExcept
  intro types
  apply asks_bind (reads_handles _ _ _)
  intro arguments
  simp

@[simp] theorem reads_navi (c : Protocol.Setting) (s : Step) (d : LendData) :
    Reads (Navi.lend c s d) := by
  have obtained : ∀ token pool amount action, Reads (Navi.obtain token pool amount action) := by
    intro token pool amount action
    apply asks_bind (reads_call _ _ _)
    intro balance
    simp [produce]
  apply asks_bind asks_ofExcept
  intro token
  split
  · simp
  · apply asks_bind asks_ofExcept
    intro amount
    split <;> simp [Navi.deposit, obtained]

@[simp] theorem reads_gather (coins : List CoinRecord) (needed : Int) :
    Reads (Scallop.gather coins needed) := by
  unfold Scallop.gather
  split <;> simp

@[simp] theorem reads_marketCoin (s : Step) (token : Token) (wrapped : Option Scallop.WrappedCoin)
    (wrappedCoins plainCoins : List CoinRecord) (needed : Int) :
    Reads (Scallop.marketCoin s token wrapped wrappedCoins plainCoins needed) := by
  unfold Scallop.marketCoin
  simp only
  split
  · simp [Scallop.unwrap]
  · split <;> simp

@[simp] theorem reads_marketCoins (c : Protocol.Setting) (token : Token)
    (wrapped : Option Scallop.WrappedCoin) : Reads (Scallop.marketCoins c token wrapped) := by
  have asked : ∀ owner coinType, Reads (ofEngine (Engine.coins owner coinType)) :=
    fun _ _ => asks_ofEngine (Engine.reads_ask (by exact rfl))
  cases wrapped with
  | none =>
    apply asks_bind asks_pure
    intro wrappedCoins
    simp [asked]
  | some w =>
    apply asks_bind (asked _ _)
    intro wrappedCoins
    simp [asked]

@[simp] theorem reads_redemption (c : Protocol.Setting) (s : Step) (d : LendData) (token : Token) :
    Reads (Scallop.withdraw c s d token) := by
  apply asks_bind (reads_marketCoins _ _ _)
  rintro ⟨wrappedCoins, plainCoins⟩
  simp only
  split
  · simp
  · apply asks_bind asks_ofExcept
    intro shares
    apply asks_bind (reads_marketCoin _ _ _ _ _ _)
    intro coin
    simp

@[simp] theorem reads_obligation (c : Protocol.Setting) (s : Step) (d : LendData) (action : String) :
    Reads (Scallop.obligation c s d action) := by
  have asked : ∀ owner structType, Reads (ofEngine (Engine.ownedObjects owner structType)) :=
    fun _ _ => asks_ofEngine (Engine.reads_ask (by exact rfl))
  have taken : ∀ objects f, Reads (Scallop.first objects f) := by
    intro objects f
    cases objects <;> simp [Scallop.first]
  unfold Scallop.obligation
  split
  · simp
  · apply asks_bind (asked _ _)
    intro ids
    apply asks_bind (taken _ _)
    intro id
    apply asks_bind (asked _ _)
    intro keys
    simp [taken]

@[simp] theorem reads_scallop (c : Protocol.Setting) (s : Step) (d : LendData) :
    Reads (Scallop.lend c s d) := by
  apply asks_bind asks_ofExcept
  intro token
  split
  · apply asks_bind asks_ofExcept
    intro amount
    simp
  · simp
  · apply asks_bind (reads_obligation _ _ _ _)
    intro o
    simp
  · apply asks_bind (reads_obligation _ _ _ _)
    intro o
    apply asks_bind asks_ofExcept
    intro amount
    simp
  · simp

@[simp] theorem reads_build (b : Builder) (c : Protocol.Setting) (s : Step) : Reads (b.build c s) := by
  unfold Builder.build
  split <;> simp

theorem reads_buildSteps (c : AssemblySetting) (steps : List Step) : Reads (buildSteps c steps) := by
  induction steps with
  | nil => simp [buildSteps]
  | cons s rest ih =>
    unfold buildSteps
    split
    · split
      · exact ih
      · apply asks_bind
        · unfold buildStep
          split <;> simp
        · intro _
          simp [ih]
    · exact ih

theorem reads_returnCoins (signer : String) (coins : List PooledCoin) :
    Reads (returnCoins signer coins) := by
  induction coins with
  | nil => simp [returnCoins]
  | cons c rest ih =>
    apply asks_bind (reads_transfer _ _)
    intro _
    exact ih

theorem reads_assembly (c : AssemblySetting) (steps : List Step) : Reads (Assembly.build c steps) := by
  apply asks_bind (reads_buildSteps _ _)
  intro operations
  apply asks_bind reads_drain
  intro left
  apply asks_bind (reads_returnCoins _ _)
  intro _
  split <;> simp

end Assembly

theorem reads_assemble (c : AssemblySetting) (steps : List Step) : (assemble c steps).Reads := by
  apply Engine.asks_bind Engine.asks_ofExcept
  intro reserve
  exact Program.asks_bind (Assembly.reads_assembly c steps _) fun _ => trivial

theorem within_assemble (c : AssemblySetting) (steps : List Step) : (assemble c steps).Within .building :=
  Engine.Asks.imp (reads_assemble c steps) fun _ hq => hq.phase

theorem inquires_assemble (c : AssemblySetting) (steps : List Step) : (assemble c steps).Inquires :=
  ((within_assemble c steps).until (by decide)).inquires

end LedgerFlow
