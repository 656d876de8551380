import LedgerFlow.Proofs.Replay.Demands
import LedgerFlow.Proofs.Replay.Sourcing

/-!
Which objects of the ledger the commands of a computation name. A computation spares certain coins if none of the
commands that it records names them, as long as the pool holds results of commands only and the wallet keeps the
coins of each type apart.
-/

namespace LedgerFlow

def Handle.Spares (ids : List String) (h : Handle) : Prop := ∀ id, h = .object id → id ∉ ids

theorem Handle.spares_object {ids : List String} {id : String} (hid : id ∉ ids) : (Handle.object id).Spares ids := by
  rintro _ ⟨⟩
  exact hid

theorem Handle.spares_of_objectId? {ids : List String} {h : Handle} (hn : h.objectId? = none) : h.Spares ids := by
  rintro id rfl
  cases hn

namespace Command

def handles : Command → List Handle
  | .splitCoins coin _ => [coin]
  | .mergeCoins destination sources => destination :: sources
  | .transferObjects objects _ => objects
  | .moveCall _ arguments _ => arguments

def Spares (ids : List String) (x : Command) : Prop := ∀ h ∈ x.handles, h.Spares ids

end Command

/-- A router that names none of these objects, except its input. -/
def Exchange.Spares (ids : List String) : Exchange → Prop
  | ⟨.swapBuild _ input _ _, .ok out⟩ =>
    (∀ x ∈ out.commands, ∀ h ∈ x.handles, h = input ∨ h.Spares ids) ∧ (out.coin = input ∨ out.coin.Spares ids)
  | _ => True

structure Workspace.Ordered (l : Ledger) (w : Workspace) : Prop where
  pool : ∀ x ∈ w.pool.coins, x.coin.objectId? = none
  holdings : ∀ t h, w.wallet.holdings.lookup t = some h → (h.used ++ h.unused).Perm (l.coinsOf t)

theorem Workspace.Ordered.append {l : Ledger} {w : Workspace} (h : w.Ordered l) (x : Command) :
    ({ w with tx := w.tx.append x } : Workspace).Ordered l := ⟨h.pool, h.holdings⟩

namespace Assembly

def Spares (l : Ledger) (ids : List String) {α : Type} (p : Assembly α) (Q : α → Prop) : Prop :=
  ∀ w es a w', w.Ordered l → Yields p w es a w' → (∀ e ∈ es, l.Reports e ∧ e.Spares ids) →
    Q a ∧ w'.Ordered l ∧ ∃ cs, w'.tx.commands = w.tx.commands ++ cs ∧ ∀ x ∈ cs, x.Spares ids

variable {l : Ledger} {ids : List String} {α β : Type} {Q : α → Prop}

theorem spares_pure {a : α} (ha : Q a) : Spares l ids (pure a) Q := by
  intro w es b w' hw hy _
  obtain ⟨-, rfl, rfl⟩ := yields_pure.1 hy
  exact ⟨ha, hw, [], by simp, by simp⟩

theorem spares_throw {f : Fault} : Spares l ids (throw f : Assembly α) Q :=
  fun _ _ _ _ _ hy => absurd hy yields_throw

theorem Spares.imp {p : Assembly α} {R : α → Prop} (hp : Spares l ids p Q) (h : ∀ a, Q a → R a) :
    Spares l ids p R := by
  intro w es a w' hw hy he
  obtain ⟨ha, hrest⟩ := hp w es a w' hw hy he
  exact ⟨h a ha, hrest⟩

theorem spares_throw_bind {f : Fault} {k : β → Assembly α} : Spares l ids (throw f >>= k) Q := by
  intro w es a w' _ hy _
  obtain ⟨_, _, _, ht, -⟩ := yields_bind.1 hy
  exact absurd ht yields_throw

theorem spares_bind {p : Assembly α} {f : α → Assembly β} {R : β → Prop} (hp : Spares l ids p Q)
    (hf : ∀ a, Q a → Spares l ids (f a) R) : Spares l ids (p >>= f) R := by
  intro w es b w' hw hy he
  obtain ⟨es₁, a, w₁, h₁, es₂, rfl, h₂⟩ := yields_bind.1 hy
  obtain ⟨ha, hw₁, cs, hc, hcs⟩ := hp w es₁ a w₁ hw h₁ fun e hm => he e (List.mem_append_left _ hm)
  obtain ⟨hb, hw₂, ds, hd, hds⟩ := hf a ha w₁ es₂ b w' hw₁ h₂ fun e hm => he e (List.mem_append_right _ hm)
  refine ⟨hb, hw₂, cs ++ ds, by rw [hd, hc, List.append_assoc], ?_⟩
  intro x hx
  cases List.mem_append.1 hx with
  | inl hx => exact hcs x hx
  | inr hx => exact hds x hx

theorem spares_ofExcept {r : Except Fault α} : Spares l ids (ofExcept r) fun a => r = .ok a := by
  intro w es a w' hw hy _
  obtain ⟨-, ha, rfl⟩ := yields_ofExcept.1 hy
  exact ⟨ha, hw, [], by simp, by simp⟩

theorem spares_ofEngine {p : Engine α} : Spares l ids (ofEngine p) fun _ => True := by
  intro w es a w' hw hy _
  obtain ⟨-, rfl⟩ := yields_ofEngine.1 hy
  exact ⟨trivial, hw, [], by simp, by simp⟩

theorem spares_transfer {objects : List Handle} {recipient : Option String}
    (ho : ∀ h ∈ objects, h.Spares ids) : Spares l ids (transfer objects recipient) fun _ => True := by
  intro w es a w' hw hy _
  obtain ⟨-, rfl⟩ := yields_transfer.1 hy
  exact ⟨trivial, hw.append _, _, rfl, by simpa [Command.Spares, Command.handles] using ho⟩

theorem spares_call {target : String} {arguments : List Handle} {types : List String}
    (ha : ∀ h ∈ arguments, h.Spares ids) :
    Spares l ids (call target arguments types) fun h => h.objectId? = none := by
  intro w es a w' hw hy _
  obtain ⟨-, rfl, rfl⟩ := yields_call.1 hy
  exact ⟨rfl, hw.append _, _, rfl, by simpa [Command.Spares, Command.handles] using ha⟩

variable {t : Token} {step amount : Int}

theorem mem_coins_of_find? {p : CoinPool} {t : String} {x : PooledCoin} (h : p.find? t = some x) : x ∈ p.coins :=
  List.mem_of_find?_eq_some h

theorem spares_withdraw {t : String} : Spares l ids (withdraw t amount) fun h => h.objectId? = none := by
  intro w es coin w' hw hy _
  cases hf : w.pool.find? t with
  | none => simp [withdraw, yields_bind, hf] at hy
  | some x =>
    have hx := hw.pool x (mem_coins_of_find? hf)
    obtain ⟨-, rfl, rfl⟩ | ⟨-, -, rfl, rfl⟩ := yields_withdraw hf hy
    · refine ⟨hx, ⟨?_, hw.holdings⟩, [], by simp, by simp⟩
      intro y hy
      exact hw.pool y (List.mem_filter.1 hy).1
    · refine ⟨rfl, ⟨?_, hw.holdings⟩, _, rfl, ?_⟩
      · intro y hy
        obtain ⟨z, hz, rfl⟩ := List.mem_map.1 hy
        have := hw.pool z hz
        split <;> exact this
      · simpa [Command.Spares, Command.handles] using Handle.spares_of_objectId? hx

theorem spares_drawNative : Spares l ids (drawNative step t amount) fun h => h.objectId? = none := by
  intro w es coin w' hw hy _
  obtain ⟨units, -, -, -, rfl, rfl⟩ := yields_drawNative hy
  refine ⟨rfl, ⟨hw.pool, hw.holdings⟩, _, rfl, ?_⟩
  simpa [Command.Spares, Command.handles] using Handle.spares_of_objectId? (h := .gas) rfl

theorem holding_perm {w : Workspace} {es : List Exchange} {x : Holding} (hw : w.Ordered l)
    (hy : (w.wallet.holding t).Yields es (.ok x)) (he : ∀ e ∈ es, l.Reports e) :
    (x.used ++ x.unused).Perm (l.coinsOf t.coinType) := by
  unfold Wallet.holding at hy
  split at hy
  · next hn =>
    obtain ⟨-, heq⟩ := Engine.yields_pure.1 hy
    cases heq
    exact hw.holdings _ x hn
  · obtain ⟨es₁, es₂, cs, rfl, hb, hp⟩ := Engine.yields_bind_ok.1 hy
    obtain ⟨-, heq⟩ := Engine.yields_pure.1 hp
    cases heq
    rw [Engine.yields_coins] at hb
    subst hb
    have hl : cs = l.coinsOf t.coinType := he ⟨.coins w.wallet.owner t.coinType, .ok cs⟩ (by simp)
    exact hl ▸ List.mergeSort_perm _ _

theorem spares_primary {x : Holding} (hx : ∀ c ∈ x.used, c.objectId ∉ ids) : x.primary.Spares ids := by
  unfold Holding.primary
  split
  · exact Handle.spares_of_objectId? rfl
  · next c _ hu =>
    exact Handle.spares_object (hx c (hu ▸ List.mem_cons_self))

theorem spares_merged {x y : Holding} (hy : ∀ c ∈ y.used, c.objectId ∉ ids) : ∀ h ∈ x.merged y, h.Spares ids := by
  intro h hm
  obtain ⟨c, hc, rfl⟩ := List.mem_map.1 hm
  exact Handle.spares_object (hy c (List.mem_of_mem_drop hc))

theorem spares_merging {destination : Handle} {sources : List Handle} (hd : destination.Spares ids)
    (hs : ∀ h ∈ sources, h.Spares ids) : ∀ x ∈ CoinStore.merging destination sources, x.Spares ids := by
  intro x hx
  unfold CoinStore.merging at hx
  split at hx
  · cases hx
  · cases List.mem_singleton.1 hx
    intro h hm
    cases hm with
    | head => exact hd
    | tail _ hm => exact hs h hm

theorem spares_drawCoins (ht : ∀ c ∈ l.coinsOf t.coinType, c.objectId ∉ ids) :
    Spares l ids (drawCoins step t amount) fun h => h.objectId? = none := by
  intro w es coin w' hw hy he
  obtain ⟨x, hx, -, -, rfl, rfl⟩ := yields_drawCoins hy
  have hp : ((x.gather amount).used ++ (x.gather amount).unused).Perm (l.coinsOf t.coinType) :=
    Holding.gather_coins x amount ▸ holding_perm hw hx fun e hm => (he e hm).1
  have hused : ∀ c ∈ (x.gather amount).used, c.objectId ∉ ids := by
    intro c hc
    exact ht c (hp.mem_iff.1 (List.mem_append_left _ hc))
  have hprimary := spares_primary hused
  refine ⟨rfl, ⟨hw.pool, ?_⟩, CoinStore.merging (x.gather amount).primary (x.merged (x.gather amount)) ++
    [.splitCoins (x.gather amount).primary [amount]], ?_, ?_⟩
  · intro u y hy
    simp only [Wallet.setHolding, Json.lookup_put] at hy
    split at hy
    · next heq =>
      cases hy
      exact heq ▸ hp
    · exact hw.holdings u y hy
  · rw [Transaction.append, CoinStore.commands_merge, List.append_assoc]
  · intro y hy
    cases List.mem_append.1 hy with
    | inl hy => exact spares_merging hprimary (spares_merged hused) y hy
    | inr hy =>
      cases List.mem_singleton.1 hy
      simpa [Command.Spares, Command.handles] using hprimary

theorem spares_draw (ht : ∀ c ∈ l.coinsOf t.coinType, c.objectId ∉ ids) :
    Spares l ids (draw step t amount) fun h => h.objectId? = none := by
  unfold draw
  split
  · exact spares_drawNative
  · exact spares_drawCoins ht

theorem spares_acquire (ht : ∀ c ∈ l.coinsOf t.coinType, c.objectId ∉ ids) :
    Spares l ids (acquire step t amount) fun h => h.objectId? = none := by
  intro w es coin w' hw hy he
  obtain hy | hy | ⟨x, topUp, w₁, hf, hd, rfl, rfl⟩ := yields_acquire hy
  · exact spares_withdraw w es coin w' hw hy he
  · exact spares_draw ht w es coin w' hw hy he
  · have hx := hw.pool x (mem_coins_of_find? hf)
    have hw₀ : ({ w with pool := w.pool.erase t.coinType } : Workspace).Ordered l :=
      ⟨fun y hy => hw.pool y (List.mem_filter.1 hy).1, hw.holdings⟩
    obtain ⟨htop, hw₁, cs, hc, hcs⟩ := spares_draw ht _ es topUp w₁ hw₀ hd he
    refine ⟨hx, ⟨hw₁.pool, hw₁.holdings⟩, cs ++ CoinStore.merging x.coin [topUp], ?_, ?_⟩
    · rw [CoinStore.commands_merge, hc, List.append_assoc]
    · intro y hy
      cases List.mem_append.1 hy with
      | inl hy => exact hcs y hy
      | inr hy =>
        refine spares_merging (Handle.spares_of_objectId? hx) ?_ y hy
        intro h hm
        cases List.mem_singleton.1 hm
        exact Handle.spares_of_objectId? htop

theorem spares_deposit {t : String} {coin : Handle} (hc : coin.objectId? = none) :
    Spares l ids (deposit t coin amount) fun _ => True := by
  intro w es a w' hw hy _
  cases hf : w.pool.find? t with
  | none =>
    simp [deposit, yields_bind, hf] at hy
    obtain ⟨-, rfl⟩ := hy
    refine ⟨trivial, ⟨?_, hw.holdings⟩, [], by simp, by simp⟩
    intro y hy
    cases List.mem_append.1 hy with
    | inl hy => exact hw.pool y hy
    | inr hy =>
      cases List.mem_singleton.1 hy
      exact hc
  | some x =>
    simp [deposit, yields_bind, hf, and_assoc, yields_merge] at hy
    obtain ⟨-, rfl⟩ := hy
    have hx := hw.pool x (mem_coins_of_find? hf)
    refine ⟨trivial, ⟨?_, hw.holdings⟩, CoinStore.merging x.coin [coin], CoinStore.commands_merge _ _ _, ?_⟩
    · intro y hy
      obtain ⟨z, hz, rfl⟩ := List.mem_map.1 hy
      have := hw.pool z hz
      split <;> exact this
    · apply spares_merging (Handle.spares_of_objectId? hx)
      intro h hm
      cases List.mem_singleton.1 hm
      exact Handle.spares_of_objectId? hc

end Assembly

end LedgerFlow
