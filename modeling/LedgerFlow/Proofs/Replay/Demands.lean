import LedgerFlow.Proofs.Replay.Ledger

namespace LedgerFlow

def Handle.objectId? : Handle → Option String
  | .object id => some id
  | _ => none

def TokenRegistry.Sound (r : TokenRegistry) : Prop :=
  ∀ symbol t, r.find? symbol = some t → t.isNative = true → t.coinType = nativeCoinType

namespace Protocol

def sharedHandles : List Handle :=
  [clock, systemState, Aftermath.vault, Aftermath.safe, Aftermath.referralVault, Volo.stakePool, Volo.metadata,
    Navi.storage, Navi.priceOracle, Navi.incentiveV2, Navi.incentiveV3, Scallop.version, Scallop.market]

def sharedObjects : List String :=
  sharedHandles.filterMap Handle.objectId? ++ (Navi.pools.map fun e => e.2.object) ++
    Scallop.wrappedCoins.map fun e => e.2.treasury

theorem objectId?_of_shared : ∀ h ∈ sharedHandles, h.objectId?.isSome = true := by decide

def demand (token : Except Fault Token) (amount : Option Decimal) : Except Fault (List Payment) := do
  let t ← token
  let n ← unitsOf t amount
  return [⟨t.coinType, n⟩]

def lendDemands (c : Setting) (s : Step) (d : LendData) : Except Fault (List Payment) :=
  if d.action = "deposit" ∨ d.action = "repay" then demand (c.token s d.asset) d.amount else .ok []

namespace MoveCall

def Argument.demands (c : Setting) (s : Step) : Argument → Except Fault (List Payment)
  | .coin amount => do return [⟨(← c.token s nativeSymbol).coinType, amount⟩]
  | _ => .ok []

def demands (c : Setting) (s : Step) : List Json → Except Fault (List Payment)
  | [] => .ok []
  | v :: rest => do
    let first ← (← Argument.ofJson v).demands c s
    return first ++ (← demands c s rest)

def objectOf? (v : Json) : Option String :=
  match Argument.ofJson v with
  | .ok (.object id) => some id
  | _ => none

end MoveCall

end Protocol

namespace Step

open Protocol

def demands (c : Setting) (s : Step) : Except Fault (List Payment) :=
  match s.node.data with
  | .transfer d => demand (c.token s d.asset) d.amount
  | .swap d => demand (c.tokenOf s d.fromAsset) d.amount
  | .stake d => demand (c.token s nativeSymbol) d.amount
  | .lend d => lendDemands c s d
  | .custom d => do MoveCall.demands c s (← MoveCall.listOf s d.arguments "arguments")
  | _ => .ok []

def namedObjects (s : Step) : List String :=
  match s.node.data with
  | .lend d => d.obligationId.toList ++ d.obligationKeyId.toList
  | .custom d =>
    match MoveCall.listOf s d.arguments "arguments" with
    | .ok values => values.filterMap MoveCall.objectOf?
    | .error _ => []
  | _ => []

end Step

/-- No object that a call may name besides its coins is one of these. -/
structure Ledger.Apart (l : Ledger) (ids named : List String) : Prop where
  shared : ∀ id ∈ Protocol.sharedObjects, id ∉ ids
  obligations : ∀ id ∈ l.ownedOf Protocol.Scallop.obligationType, id ∉ ids
  keys : ∀ id ∈ l.ownedOf Protocol.Scallop.obligationKeyType, id ∉ ids
  named : ∀ id ∈ named, id ∉ ids

theorem Ledger.Apart.mono {l : Ledger} {ids named more : List String} (h : l.Apart ids more)
    (hs : ∀ id ∈ named, id ∈ more) : l.Apart ids named :=
  ⟨h.shared, h.obligations, h.keys, fun id hid => h.named id (hs id hid)⟩

def AssemblySetting.redeems (c : AssemblySetting) (s : Step) : Bool :=
  match s.node.data with
  | .lend d => d.action == "withdraw" && s.node.adapterKey?.bind c.adapters.find? == some .scallopLending
  | _ => false

theorem Protocol.Setting.find?_of_token {c : Protocol.Setting} {s : Step} {symbol : String} {t : Token}
    (h : c.token s symbol = .ok t) : c.tokens.find? symbol = some t := by
  unfold token at h
  split at h
  · next hf =>
    cases h
    exact hf
  · cases h

namespace TokenRegistry

theorem mem_entries_of_find? {r : TokenRegistry} {symbol : String} {t : Token} (h : r.find? symbol = some t) :
    ∃ key, (key, t) ∈ r.entries := by
  unfold find? at h
  split at h
  · cases h
  · exact ⟨_, mem_of_lookup_eq_some h⟩

theorem sound_standard : standard.Sound := by
  intro symbol t h hn
  obtain ⟨key, hm⟩ := mem_entries_of_find? h
  have hs : ∀ e ∈ standard.entries, e.2.isNative = true → e.2.coinType = nativeCoinType := by decide +kernel
  exact hs _ hm hn

variable {c : Protocol.Setting} {s : Step} {t : Token}

theorem Sound.of_token {symbol : String} (h : c.tokens.Sound) (ht : c.token s symbol = .ok t) :
    t.isNative = true → t.coinType = nativeCoinType :=
  h symbol t (Protocol.Setting.find?_of_token ht)

theorem Sound.of_tokenOf {symbol : Option String} (h : c.tokens.Sound) (ht : c.tokenOf s symbol = .ok t) :
    t.isNative = true → t.coinType = nativeCoinType := by
  cases symbol with
  | none => cases ht
  | some symbol => exact h.of_token ht

end TokenRegistry

namespace Protocol

variable {s : Step} {t : Token} {token : Except Fault Token} {amount : Option Decimal} {what : String} {n : Int}

theorem demand_eq (ht : token = .ok t) (hn : unitsOf t amount = .ok n) :
    demand token amount = .ok [⟨t.coinType, n⟩] := by
  subst ht
  simp only [demand, except_bind_eq_ok]
  exact ⟨t, rfl, n, hn, rfl⟩

theorem lendDemands_eq {c : Setting} {d : LendData} (ha : d.action = "deposit" ∨ d.action = "repay")
    (ht : c.token s d.asset = .ok t) (hn : unitsOf t d.amount = .ok n) :
    lendDemands c s d = .ok [⟨t.coinType, n⟩] := by
  rw [lendDemands, if_pos ha, demand_eq ht hn]

theorem lendDemands_eq_nil {c : Setting} {d : LendData} (ha : ¬ (d.action = "deposit" ∨ d.action = "repay")) :
    lendDemands c s d = .ok [] := if_neg ha

theorem unitsOf_of_positive (h : positiveUnitsOf s what t amount = .ok n) : unitsOf t amount = .ok n := by
  simp only [positiveUnitsOf, except_bind_eq_ok] at h
  obtain ⟨given, hg, units, hu, h⟩ := h
  split at h
  · obtain ⟨_, hx, -⟩ := except_bind_eq_ok.1 h
    cases hx
  · cases h
    exact except_bind_eq_ok.2 ⟨given, hg, hu⟩

end Protocol

end LedgerFlow
