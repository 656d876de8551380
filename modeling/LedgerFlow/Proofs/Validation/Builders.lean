import LedgerFlow.Proofs.Replay.Demands
import LedgerFlow.Proofs.Validation.Failures

namespace LedgerFlow

namespace Wallet

theorem blameless_nativeUnits (w : Wallet) (t : Token) : (w.nativeUnits t).Blameless := by
  unfold nativeUnits
  split
  · exact Engine.blameless_pure
  · exact Engine.blameless_bind (Engine.blameless_ask fun _ => rfl) fun _ => Engine.blameless_pure

theorem blameless_holding (w : Wallet) (t : Token) : (w.holding t).Blameless := by
  unfold holding
  split
  · exact Engine.blameless_pure
  · exact Engine.blameless_bind (Engine.blameless_ask fun _ => rfl) fun _ => Engine.blameless_pure

theorem spoken_shortfall (step : Int) (t : Token) (needed available : Int) :
    Assembly.Spoken (shortfall step t needed available) := by
  constructor
  · apply harmless_bind (harmless_fromBaseUnits _ _)
    intro lacking
    apply harmless_bind (harmless_fromBaseUnits _ _)
    intro asked
    exact harmless_bind (harmless_fromBaseUnits _ _) fun _ => harmless_ok
  · intro f h
    obtain ⟨lacking, -, h₁⟩ := except_bind_eq_ok.1 h
    obtain ⟨asked, -, h₂⟩ := except_bind_eq_ok.1 h₁
    obtain ⟨held, -, h₃⟩ := except_bind_eq_ok.1 h₂
    cases h₃
    rfl

theorem spoken_noCoins (step : Int) (t : Token) (needed : Int) : Assembly.Spoken (noCoins step t needed) := by
  constructor
  · exact harmless_bind (harmless_fromBaseUnits _ _) fun _ => harmless_ok
  · intro f h
    obtain ⟨lacking, -, h₁⟩ := except_bind_eq_ok.1 h
    cases h₁
    rfl

end Wallet

namespace Assembly

theorem blameless_drawNative (step : Int) (t : Token) (amount : Int) : Blameless (drawNative step t amount) := by
  apply blameless_bind blameless_state
  intro w
  apply blameless_bind (blameless_ofEngine (Wallet.blameless_nativeUnits _ _))
  intro units
  apply blameless_bind blameless_update
  intro _
  apply blameless_ite (blameless_fail_bind (Wallet.spoken_shortfall _ _ _ _))
  exact blameless_bind blameless_update fun _ => blameless_splitOne _ _

theorem blameless_drawCoins (step : Int) (t : Token) (amount : Int) : Blameless (drawCoins step t amount) := by
  apply blameless_bind blameless_state
  intro w
  apply blameless_bind (blameless_ofEngine (Wallet.blameless_holding _ _))
  intro held
  apply blameless_bind blameless_update
  intro _
  apply blameless_ite (blameless_fail_bind (Wallet.spoken_noCoins _ _ _))
  apply blameless_ite (blameless_fail_bind (Wallet.spoken_shortfall _ _ _ _))
  apply blameless_bind (blameless_merge _ _)
  intro _
  exact blameless_bind blameless_update fun _ => blameless_splitOne _ _

theorem blameless_draw (step : Int) (t : Token) (amount : Int) : Blameless (draw step t amount) := by
  unfold draw
  split
  · exact blameless_drawNative _ _ _
  · exact blameless_drawCoins _ _ _

theorem blameless_acquire (step : Int) (t : Token) (amount : Int) : Blameless (acquire step t amount) := by
  apply blameless_bind blameless_state
  intro w
  apply blameless_ite (blameless_withdraw _ _)
  apply blameless_ite (blameless_draw _ _ _)
  apply blameless_bind (blameless_take _)
  intro held
  cases held with
  | none => exact blameless_draw _ _ _
  | some held =>
    apply blameless_bind (blameless_draw _ _ _)
    intro topUp
    exact blameless_bind (blameless_merge _ _) fun _ => blameless_pure

end Assembly

namespace Protocol

variable {c : Setting} {s : Step} {t : Token}

theorem Setting.token_of_find? {symbol : String} (h : c.tokens.find? symbol = some t) : c.token s symbol = .ok t := by
  rw [token, h]

def Navi.actions : List String := ["deposit", "withdraw", "borrow"]

end Protocol

namespace Assembly

open Protocol

variable {c : Protocol.Setting} {s : Step} {t : Token}

theorem harmless_unitsOf (t : Token) (amount : Option Decimal) : Harmless (unitsOf t amount) :=
  harmless_bind (harmless_given _) fun _ => harmless_toBaseUnits _ _

theorem harmless_positiveUnitsOf (s : Step) (what : String) (t : Token) (amount : Option Decimal) :
    Harmless (positiveUnitsOf s what t amount) := by
  apply harmless_bind (harmless_given _)
  intro given
  apply harmless_bind (harmless_toBaseUnits _ _)
  intro units
  split
  · exact harmless_error.2 rfl
  · exact harmless_ok

theorem blameless_nativeTransfer {d : TransferData} (h : c.tokens.find? d.asset = some t) :
    Blameless (Native.transfer c s d) := by
  apply blameless_known_bind (Setting.token_of_find? h)
  apply blameless_bind (blameless_ofExcept (harmless_positiveUnitsOf _ _ _ _))
  intro amount
  apply blameless_bind (blameless_acquire _ _ _)
  intro coin
  apply blameless_bind (blameless_transfer _ _)
  intro _
  exact blameless_ite (blameless_throw rfl) blameless_pure

theorem blameless_swap {d : SwapData} {source target : Token} {given wanted : String}
    (hg : d.fromAsset = some given) (hw : d.toAsset = some wanted) (hs : c.tokens.find? given = some source)
    (ht : c.tokens.find? wanted = some target) :
    Blameless (Exchange.swap c s d) := by
  apply blameless_ite (blameless_throw_bind rfl)
  apply blameless_known_bind (a := source) (by rw [hg]; exact Setting.token_of_find? hs)
  apply blameless_known_bind (a := target) (by rw [hw]; exact Setting.token_of_find? ht)
  apply blameless_bind (blameless_ofExcept (harmless_positiveUnitsOf _ _ _ _))
  intro amount
  apply blameless_bind
  · apply blameless_bind (blameless_ofEngine (Engine.blameless_ask fun _ => rfl))
    intro offer
    split
    · exact blameless_pure
    · exact blameless_throw rfl
  · intro offer
    apply blameless_bind (blameless_acquire _ _ _)
    intro input
    apply blameless_bind
    · apply blameless_bind blameless_state
      intro w
      apply blameless_bind (blameless_ofEngine (Engine.blameless_ask fun _ => rfl))
      intro output
      exact blameless_bind blameless_update fun _ => blameless_pure
    · intro output
      exact blameless_transfer _ _

theorem blameless_stakeInput (d : StakeData) (h : c.tokens.find? nativeSymbol = some t) :
    Blameless (Native.stakeInput c s d) := by
  apply blameless_known_bind (Setting.token_of_find? h)
  exact blameless_bind (blameless_ofExcept (harmless_unitsOf _ _)) fun _ => blameless_acquire _ _ _

theorem blameless_nativeStake {d : StakeData} {validator : String} (hn : c.tokens.find? nativeSymbol = some t)
    (hv : d.validator = some validator) (hne : validator.isEmpty = false) : Blameless (Native.stake c s d) := by
  have hpicked : d.validator.filter (fun v => !v.isEmpty) = some validator := by simp [hv, hne]
  simp only [Native.stake, hpicked]
  apply blameless_bind (blameless_stakeInput d hn)
  intro coin
  exact blameless_bind (blameless_call _ _ _) fun _ => blameless_pure

theorem blameless_aftermathStake (d : StakeData) (hn : c.tokens.find? nativeSymbol = some t) :
    Blameless (Aftermath.stake c s d) := by
  have hvalidator : Blameless (Aftermath.validator s d) := by
    unfold Aftermath.validator
    split
    · exact blameless_pure
    · apply blameless_bind (blameless_ofEngine (Engine.blameless_ask fun _ => rfl))
      intro validators
      split
      · exact blameless_throw rfl
      · exact blameless_pure
  apply blameless_bind hvalidator
  intro validator
  apply blameless_bind (blameless_stakeInput d hn)
  intro coin
  exact blameless_bind (blameless_call _ _ _) fun _ => blameless_transfer _ _

theorem blameless_voloStake (d : StakeData) (hn : c.tokens.find? nativeSymbol = some t) :
    Blameless (Volo.stake c s d) := by
  apply blameless_bind (blameless_stakeInput d hn)
  intro coin
  exact blameless_bind (blameless_call _ _ _) fun _ => blameless_transfer _ _

theorem harmless_integer (v : Json) : Harmless (Observation.integer v) := by
  cases v with
  | float x =>
    simp only [Observation.integer]
    split
    · exact harmless_ok
    · split
      · exact harmless_error.2 rfl
      · exact harmless_error.2 rfl
  | string text =>
    simp only [Observation.integer, Observation.integerOfText]
    split
    · exact harmless_ok
    · exact harmless_error.2 rfl
    · exact harmless_error.2 rfl
  | int n => exact harmless_ok
  | bool b => exact harmless_ok
  | null => exact harmless_error.2 rfl
  | array vs => exact harmless_error.2 rfl
  | object ms => exact harmless_error.2 rfl

theorem harmless_argumentOfJson (v : Json) : Harmless (MoveCall.Argument.ofJson v) := by
  cases v with
  | float x => exact harmless_bind (harmless_integer (.float x)) fun _ => harmless_ok
  | _ => exact harmless_ok

theorem blameless_handle (hn : c.tokens.find? nativeSymbol = some t) (a : MoveCall.Argument) :
    Blameless (MoveCall.handle c s a) := by
  cases a with
  | coin amount =>
    apply blameless_ite
    · exact blameless_throw_bind (Fault.isMisconfiguration_showing _ _ rfl)
    · exact blameless_known_bind (Setting.token_of_find? hn) (blameless_acquire _ _ _)
  | _ => exact blameless_pure

theorem blameless_handles (hn : c.tokens.find? nativeSymbol = some t) (vs : List Json) :
    Blameless (MoveCall.handles c s vs) := by
  induction vs with
  | nil => exact blameless_pure
  | cons v rest ih =>
    apply blameless_bind (blameless_ofExcept (harmless_argumentOfJson v))
    intro a
    apply blameless_bind (blameless_handle hn a)
    intro first
    exact blameless_bind ih fun _ => blameless_pure

theorem blameless_moveCall {d : CustomData} {values types : List Json} (hn : c.tokens.find? nativeSymbol = some t)
    (hv : Arguments.toList d.arguments "arguments" = .ok values)
    (ht : Arguments.toList d.typeArguments "type arguments" = .ok types) : Blameless (MoveCall.call c s d) := by
  apply blameless_known_bind (a := values) (by rw [MoveCall.listOf, hv]; rfl)
  apply blameless_known_bind (a := types) (by rw [MoveCall.listOf, ht]; rfl)
  apply blameless_bind (blameless_handles hn values)
  intro arguments
  exact blameless_bind (blameless_call _ _ _) fun _ => blameless_pure

theorem blameless_obtain (t : Token) (pool : Navi.LendingPool) (amount : Int) (action : String) :
    Blameless (Navi.obtain t pool amount action) := by
  apply blameless_bind (blameless_call _ _ _)
  intro balance
  exact blameless_bind (blameless_call _ _ _) fun _ => blameless_deposit _ _ _

theorem blameless_navi {d : LendData} {pool : Navi.LendingPool} (h : c.tokens.find? d.asset = some t)
    (hp : Navi.pools.lookup t.symbol = some pool) (ha : d.action ∈ Navi.actions) : Blameless (Navi.lend c s d) := by
  apply blameless_known_bind (Setting.token_of_find? h)
  simp only [hp]
  apply blameless_bind (blameless_ofExcept (harmless_unitsOf _ _))
  intro amount
  simp only [Navi.actions, List.mem_cons, List.not_mem_nil, or_false] at ha
  obtain ha | ha | ha := ha
  · simp only [ha]
    apply blameless_bind (blameless_acquire _ _ _)
    intro coin
    exact blameless_bind (blameless_call _ _ _) fun _ => blameless_pure
  · simp only [ha]
    exact blameless_obtain _ _ _ _
  · simp only [ha]
    exact blameless_obtain _ _ _ _

theorem harmless_sharesFor (t : Token) (amount : Option Decimal) : Harmless (Scallop.sharesFor t amount) := by
  cases amount with
  | none => exact harmless_error.2 rfl
  | some amount =>
    apply harmless_bind (harmless_ofResult _)
    intro shares
    apply harmless_bind (harmless_ofResult _)
    intro unit
    apply harmless_bind (harmless_ofResult _)
    intro units
    split
    · exact harmless_ok
    · exact harmless_toInt _

theorem spoken_insufficientShares (s : Step) (t : Token) (needed held : Int) :
    Spoken (Scallop.insufficientShares s t needed held) := by
  constructor
  · apply harmless_bind (harmless_fromBaseUnits _ _)
    intro asked
    exact harmless_bind (harmless_fromBaseUnits _ _) fun _ => harmless_ok
  · intro f h
    obtain ⟨asked, -, h₁⟩ := except_bind_eq_ok.1 h
    obtain ⟨lacking, -, h₂⟩ := except_bind_eq_ok.1 h₁
    cases h₂
    rfl

theorem blameless_gather (coins : List CoinRecord) (needed : Int) : Blameless (Scallop.gather coins needed) := by
  unfold Scallop.gather
  split
  · exact blameless_throw rfl
  · exact blameless_bind (blameless_merge _ _) fun _ => blameless_splitOne _ _

theorem blameless_marketCoins (c : Protocol.Setting) (t : Token) (wrapped : Option Scallop.WrappedCoin) :
    Blameless (Scallop.marketCoins c t wrapped) := by
  have hasked : ∀ owner coinType, Blameless (ofEngine (Engine.coins owner coinType)) :=
    fun _ _ => blameless_ofEngine (Engine.blameless_ask fun _ => rfl)
  cases wrapped with
  | none =>
    apply blameless_bind blameless_pure
    intro wrappedCoins
    exact blameless_bind (hasked _ _) fun _ => blameless_pure
  | some w =>
    apply blameless_bind (hasked _ _)
    intro wrappedCoins
    exact blameless_bind (hasked _ _) fun _ => blameless_pure

theorem blameless_marketCoin (s : Step) (t : Token) (wrapped : Option Scallop.WrappedCoin)
    (wrappedCoins plainCoins : List CoinRecord) (needed : Int) :
    Blameless (Scallop.marketCoin s t wrapped wrappedCoins plainCoins needed) := by
  simp only [Scallop.marketCoin]
  split
  · exact blameless_bind (blameless_gather _ _) fun _ => blameless_call _ _ _
  · exact blameless_ite (blameless_gather _ _) (blameless_fail (spoken_insufficientShares _ _ _ _))

theorem blameless_redemption (c : Protocol.Setting) (s : Step) (d : LendData) (t : Token) :
    Blameless (Scallop.withdraw c s d t) := by
  apply blameless_bind (blameless_marketCoins _ _ _)
  rintro ⟨wrappedCoins, plainCoins⟩
  apply blameless_ite (blameless_throw_bind rfl)
  apply blameless_bind (blameless_ofExcept (harmless_sharesFor _ _))
  intro shares
  apply blameless_bind (blameless_marketCoin _ _ _ _ _ _)
  intro coin
  exact blameless_bind (blameless_call _ _ _) fun _ => blameless_pure

theorem blameless_obligation (c : Protocol.Setting) (s : Step) (d : LendData) (action : String) :
    Blameless (Scallop.obligation c s d action) := by
  have hasked : ∀ owner structType, Blameless (ofEngine (Engine.ownedObjects owner structType)) :=
    fun _ _ => blameless_ofEngine (Engine.blameless_ask fun _ => rfl)
  have htaken : ∀ objects f, Fault.isMisconfiguration f = false → Blameless (Scallop.first objects f) := by
    intro objects f hf
    cases objects with
    | nil => exact blameless_throw hf
    | cons id rest => exact blameless_pure
  unfold Scallop.obligation
  split
  · exact blameless_pure
  · apply blameless_bind (hasked _ _)
    intro ids
    apply blameless_bind (htaken _ _ rfl)
    intro id
    apply blameless_bind (hasked _ _)
    intro keys
    exact blameless_bind (htaken _ _ rfl) fun _ => blameless_pure

theorem blameless_scallop {d : LendData} (h : c.tokens.find? d.asset = some t)
    (ha : d.action ∈ Validation.lendingActions) : Blameless (Scallop.lend c s d) := by
  apply blameless_known_bind (Setting.token_of_find? h)
  simp only [Validation.lendingActions, List.mem_cons, List.not_mem_nil, or_false] at ha
  obtain ha | ha | ha | ha := ha
  · simp only [ha]
    apply blameless_bind (blameless_ofExcept (harmless_unitsOf _ _))
    intro amount
    apply blameless_bind (blameless_acquire _ _ _)
    intro coin
    exact blameless_bind (blameless_call _ _ _) fun _ => blameless_pure
  · simp only [ha]
    exact blameless_redemption _ _ _ _
  · simp only [ha]
    apply blameless_bind (blameless_obligation _ _ _ _)
    intro o
    apply blameless_bind (blameless_ofExcept (harmless_unitsOf _ _))
    intro amount
    exact blameless_bind (blameless_call _ _ _) fun _ => blameless_pure
  · simp only [ha]
    apply blameless_bind (blameless_obligation _ _ _ _)
    intro o
    apply blameless_bind (blameless_ofExcept (harmless_unitsOf _ _))
    intro amount
    apply blameless_bind (blameless_acquire _ _ _)
    intro coin
    exact blameless_bind (blameless_call _ _ _) fun _ => blameless_pure

end Assembly

def Builder.Supports (tokens : TokenRegistry) : Builder → NodeData → Prop
  | .nativeTransfer, .transfer d => ∃ t, tokens.find? d.asset = some t
  | .exchange, .swap d => ∃ given wanted source target, d.fromAsset = some given ∧ d.toAsset = some wanted ∧
      tokens.find? given = some source ∧ tokens.find? wanted = some target
  | .moveCall, .custom d => (∃ t, tokens.find? nativeSymbol = some t) ∧
      (∃ values, Arguments.toList d.arguments "arguments" = .ok values) ∧
      ∃ types, Arguments.toList d.typeArguments "type arguments" = .ok types
  | .nativeStake, .stake d => (∃ t, tokens.find? nativeSymbol = some t) ∧
      ∃ validator, d.validator = some validator ∧ validator.isEmpty = false
  | .aftermathStake, .stake _ => ∃ t, tokens.find? nativeSymbol = some t
  | .voloStake, .stake _ => ∃ t, tokens.find? nativeSymbol = some t
  | .naviLending, .lend d => d.action ∈ Protocol.Navi.actions ∧
      ∃ t pool, tokens.find? d.asset = some t ∧ Protocol.Navi.pools.lookup t.symbol = some pool
  | .scallopLending, .lend d => d.action ∈ Validation.lendingActions ∧ ∃ t, tokens.find? d.asset = some t
  | _, _ => False

theorem Builder.blameless_build {b : Builder} {c : Protocol.Setting} {s : Step}
    (h : b.Supports c.tokens s.node.data) : Assembly.Blameless (b.build c s) := by
  cases hd : s.node.data with
  | transfer d =>
    rw [hd] at h
    cases b with
    | nativeTransfer =>
      obtain ⟨t, ht⟩ := h
      simpa only [build, hd] using Assembly.blameless_nativeTransfer ht
    | _ => exact h.elim
  | swap d =>
    rw [hd] at h
    cases b with
    | exchange =>
      obtain ⟨given, wanted, source, target, hg, hw, hs, ht⟩ := h
      simpa only [build, hd] using Assembly.blameless_swap hg hw hs ht
    | _ => exact h.elim
  | lend d =>
    rw [hd] at h
    cases b with
    | naviLending =>
      obtain ⟨ha, t, pool, ht, hp⟩ := h
      simpa only [build, hd] using Assembly.blameless_navi ht hp ha
    | scallopLending =>
      obtain ⟨ha, t, ht⟩ := h
      simpa only [build, hd] using Assembly.blameless_scallop ht ha
    | _ => exact h.elim
  | stake d =>
    rw [hd] at h
    cases b with
    | nativeStake =>
      obtain ⟨⟨t, ht⟩, validator, hv, hne⟩ := h
      simpa only [build, hd] using Assembly.blameless_nativeStake ht hv hne
    | aftermathStake =>
      obtain ⟨t, ht⟩ := h
      simpa only [build, hd] using Assembly.blameless_aftermathStake d ht
    | voloStake =>
      obtain ⟨t, ht⟩ := h
      simpa only [build, hd] using Assembly.blameless_voloStake d ht
    | _ => exact h.elim
  | custom d =>
    rw [hd] at h
    cases b with
    | moveCall =>
      obtain ⟨⟨t, ht⟩, ⟨values, hv⟩, types, hk⟩ := h
      simpa only [build, hd] using Assembly.blameless_moveCall ht hv hk
    | _ => exact h.elim
  | _ =>
    rw [hd] at h
    cases b <;> exact h.elim

end LedgerFlow
