import LedgerFlow.Proofs.Assembly.Operations
import LedgerFlow.Proofs.Redemption.Builders
import LedgerFlow.Proofs.Redemption.Shares

namespace LedgerFlow

namespace Protocol.Scallop

/-- The types of market coins, those that are wrapped among them. -/
def shareTypes (r : TokenRegistry) : List String :=
  (r.entries.map fun e => marketCoinType e.2) ++ wrappedCoins.map fun e => e.2.coinType

def wrappedOf (l : Ledger) (t : Token) : List CoinRecord :=
  match wrappedCoins.lookup t.symbol with
  | some w => l.coinsOf w.coinType
  | none => []

def redeeming (l : Ledger) (t : Token) (shares : Int) : Redemption :=
  let needed := min shares (Holding.total (wrappedOf l t) + Holding.total (l.coinsOf (marketCoinType t)))
  match (wrappedCoins.lookup t.symbol).filter fun _ => needed ≤ Holding.total (wrappedOf l t) with
  | some w => ⟨w.coinType, leading needed (l.coinsOf w.coinType), needed⟩
  | none => ⟨marketCoinType t, leading needed (l.coinsOf (marketCoinType t)), needed⟩

/-- What a withdrawal redeems of the signer's market coins. -/
def redemption (l : Ledger) (c : Setting) (s : Step) (d : LendData) : Except Fault Redemption := do
  let t ← c.token s d.asset
  return redeeming l t (← sharesFor t d.amount)

variable {c : Setting} {l : Ledger} {s : Step} {d : LendData} {t : Token} {w w' : Workspace} {es : List Exchange}
  {needed shares : Int} {coin : Handle} {cs : List CoinRecord} {ids named : List String}

theorem prefix_leading (needed : Int) (cs : List CoinRecord) : leading needed cs <+: cs := by
  induction cs generalizing needed with
  | nil => exact List.nil_prefix
  | cons c rest ih =>
    unfold leading
    split
    · exact List.nil_prefix
    · exact List.cons_prefix_cons.2 ⟨rfl, ih _⟩

theorem yields_gather {u : String} (hy : Assembly.Yields (gather cs needed) w es coin w') :
    es = [] ∧ leading needed cs ≠ [] ∧ coin.objectId? = none ∧ w'.pool = w.pool ∧ w'.wallet = w.wallet ∧
      w'.tx.commands = w.tx.commands ++ Redemption.commands ⟨u, leading needed cs, needed⟩ := by
  unfold gather at hy
  cases hl : leading needed cs with
  | nil =>
    rw [hl] at hy
    exact absurd hy Assembly.yields_throw
  | cons c rest =>
    simp only [hl, List.map_cons, Assembly.yields_bind, Assembly.yields_merge, Assembly.yields_splitOne] at hy
    obtain ⟨_, _, _, ⟨rfl, rfl⟩, _, rfl, rfl, -, rfl, rfl⟩ := hy
    refine ⟨rfl, by simp, rfl, rfl, rfl, ?_⟩
    rw [Transaction.append, CoinStore.commands_merge, List.append_assoc]
    rfl

theorem marketCoinType_mem {symbol : String} (ht : c.token s symbol = .ok t) :
    marketCoinType t ∈ shareTypes c.tokens := by
  obtain ⟨key, hm⟩ := TokenRegistry.mem_entries_of_find? (Setting.find?_of_token ht)
  exact List.mem_append_left _ (List.mem_map.2 ⟨_, hm, rfl⟩)

theorem wrappedType_mem {x : WrappedCoin} (hx : wrappedCoins.lookup t.symbol = some x) :
    x.coinType ∈ shareTypes c.tokens :=
  List.mem_append_right _ (List.mem_map.2 ⟨_, mem_of_lookup_eq_some hx, rfl⟩)

theorem yields_marketCoin (hl : l.Apart ids named) (ht : marketCoinType t ∈ shareTypes c.tokens)
    (hn : needed = min shares (Holding.total (wrappedOf l t) + Holding.total (l.coinsOf (marketCoinType t))))
    (hy : Assembly.Yields (marketCoin s t (wrappedCoins.lookup t.symbol) (wrappedOf l t)
      (l.coinsOf (marketCoinType t)) needed) w es coin w') :
    es = [] ∧ coin.objectId? = none ∧ w'.pool = w.pool ∧ w'.wallet = w.wallet ∧
      (redeeming l t shares).Taken l (shareTypes c.tokens) ∧
      ∃ after, w'.tx.commands = w.tx.commands ++ (redeeming l t shares).commands ++ after ∧
        ∀ x ∈ after, x.Spares ids := by
  unfold redeeming
  simp only [← hn]
  unfold marketCoin at hy
  cases hf : (wrappedCoins.lookup t.symbol).filter fun _ => needed ≤ Holding.total (wrappedOf l t) with
  | some x =>
    obtain ⟨hx, hle⟩ := Option.filter_eq_some_iff.1 hf
    have hcs : wrappedOf l t = l.coinsOf x.coinType := by simp [wrappedOf, hx]
    simp only [hf, Assembly.yields_bind, unwrap, Assembly.yields_call] at hy
    obtain ⟨es₁, piece, w₁, hg, es₂, rfl, rfl, rfl, rfl⟩ := hy
    rw [hcs] at hg hle
    obtain ⟨rfl, hne, hpiece, hp, hwal, hc⟩ := yields_gather (u := x.coinType) hg
    have htreasury : x.treasury ∉ ids :=
      hl.shared _ (List.mem_append_right _ (List.mem_map_of_mem (mem_of_lookup_eq_some hx)))
    refine ⟨rfl, rfl, hp, hwal, ⟨wrappedType_mem hx, prefix_leading _ _, hne, by simpa using hle⟩, _,
      by rw [Transaction.append, hc], ?_⟩
    simpa [Command.Spares, Command.handles] using
      ⟨Handle.spares_object htreasury, Handle.spares_of_objectId? hpiece⟩
  | none =>
    simp only [hf] at hy
    split at hy
    · next hle =>
      obtain ⟨rfl, hne, hpiece, hp, hwal, hc⟩ := yields_gather (u := marketCoinType t) hy
      exact ⟨rfl, hpiece, hp, hwal, ⟨ht, prefix_leading _ _, hne, hle⟩, [], by rw [hc, List.append_nil], by simp⟩
    · exact absurd hy Assembly.yields_fail

theorem yields_marketCoins {wrapped plain : List CoinRecord} (ha : ∀ e ∈ es, l.Reports e)
    (hy : Assembly.Yields (marketCoins c t (wrappedCoins.lookup t.symbol)) w es (wrapped, plain) w') :
    wrapped = wrappedOf l t ∧ plain = l.coinsOf (marketCoinType t) ∧ w' = w := by
  unfold wrappedOf
  unfold marketCoins at hy
  have hread : ∀ {u cs}, (⟨.coins c.signer u, .ok cs⟩ : Exchange) ∈ es → cs = l.coinsOf u := fun hm => ha _ hm
  cases hx : wrappedCoins.lookup t.symbol with
  | some x =>
    simp only [hx, Assembly.yields_bind, Assembly.yields_ofEngine, Engine.yields_coins, Assembly.yields_pure] at hy
    obtain ⟨_, ws, _, ⟨rfl, rfl⟩, _, rfl, _, ps, _, ⟨rfl, rfl⟩, _, rfl, rfl, heq, rfl⟩ := hy
    cases heq
    exact ⟨hread (by simp), hread (by simp), rfl⟩
  | none =>
    simp only [hx, Assembly.yields_bind, Assembly.yields_ofEngine, Engine.yields_coins, Assembly.yields_pure] at hy
    obtain ⟨_, ws, _, ⟨rfl, rfl, rfl⟩, _, rfl, _, ps, _, ⟨rfl, rfl⟩, _, rfl, rfl, heq, rfl⟩ := hy
    cases heq
    exact ⟨rfl, hread (by simp), rfl⟩

theorem yields_withdraw {r : Unit} (hl : c.Aloof l ids named) (ht : c.token s d.asset = .ok t)
    (ha : ∀ e ∈ es, l.Reports e) (hy : Assembly.Yields (withdraw c s d t) w es r w') :
    ∃ x, redemption l c s d = .ok x ∧ x.Taken l (shareTypes c.tokens) ∧ w'.pool = w.pool ∧ w'.wallet = w.wallet ∧
      ∃ after, w'.tx.commands = w.tx.commands ++ x.commands ++ after ∧ ∀ y ∈ after, y.Spares ids := by
  unfold withdraw at hy
  simp only [Assembly.yields_bind] at hy
  obtain ⟨es₁, ⟨wrapped, plain⟩, w₁, hr, es₂, rfl, hy⟩ := hy
  obtain ⟨rfl, rfl, rfl⟩ := yields_marketCoins (fun e hm => ha e (by simp [hm])) hr
  split at hy
  · obtain ⟨_, _, _, hthrow, -⟩ := Assembly.yields_bind.1 hy
    exact absurd hthrow Assembly.yields_throw
  · simp only [Assembly.yields_bind, Assembly.yields_ofExcept, Assembly.yields_call, Assembly.yields_pure] at hy
    obtain ⟨_, shares, _, ⟨rfl, hs, rfl⟩, es₃, rfl, es₄, coin, w₂, hm, _, rfl, _, _, _, ⟨rfl, rfl, rfl⟩, _, rfl, rfl,
      -, rfl⟩ := hy
    have hknown := marketCoinType_mem ht
    obtain ⟨-, hcoin, hp, hw, hx, after, hc, hafter⟩ := yields_marketCoin hl.apart hknown rfl hm
    refine ⟨redeeming l t shares, except_bind_eq_ok.2 ⟨t, ht, except_bind_eq_ok.2 ⟨shares, hs, rfl⟩⟩, hx, hp, hw,
      after ++ [.moveCall (package ++ "::redeem::redeem_entry") [version, market, coin, clock] [t.coinType]], ?_, ?_⟩
    · rw [Transaction.append, hc, List.append_assoc]
    · intro y hy
      cases List.mem_append.1 hy with
      | inl hy => exact hafter y hy
      | inr hy =>
        cases List.mem_singleton.1 hy
        exact spares_shared hl (f := [version, market]) (by simp [sharedHandles])
          (spares_cons (Handle.spares_of_objectId? hcoin)
            (spares_shared hl (f := [clock]) (by simp [sharedHandles]) spares_nil))

end Protocol.Scallop

open Protocol.Scallop (shareTypes)

def AssemblySetting.redemptions (c : AssemblySetting) (l : Ledger) (s : Step) : Except Fault (List Redemption) :=
  match s.node.data with
  | .lend d => do
    if c.redeems s then return [← Protocol.Scallop.redemption l (Assembly.protocolSetting c) s d] else return []
  | _ => .ok []

def Plan.redemptions (c : AssemblySetting) (l : Ledger) (steps : List Step) : Except Fault (List Redemption) :=
  collect (c.redemptions l) steps

structure Workspace.Redeemed (l : Ledger) (types : List String) (rs : List Redemption) (w : Workspace) : Prop where
  ordered : w.Ordered l
  taken : ∀ r ∈ rs, r.Taken l types
  recorded : w.tx.commands.filter (Command.touches (l.idsOf types)) = rs.flatMap Redemption.commands

namespace Workspace.Redeemed

variable {l : Ledger} {types : List String} {rs : List Redemption} {w w' : Workspace}

theorem filter_of_spares {ids : List String} {cs : List Command} (h : ∀ x ∈ cs, x.Spares ids) :
    cs.filter (Command.touches ids) = [] := by
  rw [List.filter_eq_nil_iff]
  intro x hx
  simp [Command.touches_of_spares (h x hx)]

theorem spared {cs : List Command} (h : w.Redeemed l types rs) (ho : w'.Ordered l)
    (hc : w'.tx.commands = w.tx.commands ++ cs) (hs : ∀ x ∈ cs, x.Spares (l.idsOf types)) :
    w'.Redeemed l types rs where
  ordered := ho
  taken := h.taken
  recorded := by rw [hc, List.filter_append, h.recorded, filter_of_spares hs, List.append_nil]

theorem redeem {r : Redemption} {after : List Command} (h : w.Redeemed l types rs) (hr : r.Taken l types)
    (ho : w'.Ordered l) (hc : w'.tx.commands = w.tx.commands ++ r.commands ++ after)
    (hs : ∀ x ∈ after, x.Spares (l.idsOf types)) : w'.Redeemed l types (rs ++ [r]) where
  ordered := ho
  taken := by
    intro x hx
    cases List.mem_append.1 hx with
    | inl hx => exact h.taken x hx
    | inr hx =>
      cases List.mem_singleton.1 hx
      exact hr
  recorded := by
    have hall : r.commands.filter (Command.touches (l.idsOf types)) = r.commands :=
      List.filter_eq_self.2 (Redemption.touches_commands hr)
    rw [hc, List.filter_append, List.filter_append, h.recorded, filter_of_spares hs, hall]
    simp

end Workspace.Redeemed

end LedgerFlow
