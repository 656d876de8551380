import LedgerFlow.Proofs.Assembly.Built
import LedgerFlow.Proofs.Assembly.Operations
import LedgerFlow.Proofs.Wallet.Pool

namespace LedgerFlow

namespace Handle

/-- The base units that a handle states by number. -/
def units? : Handle → Option Int
  | .pure (.int n) (some "u64") => some n
  | _ => none

@[simp] theorem units?_object (id : String) : (object id).units? = none := rfl

@[simp] theorem units?_result (i : Nat) : (result i).units? = none := rfl

@[simp] theorem units?_amountArgument (n : Int) : (Protocol.amountArgument n).units? = some n := rfl

@[simp] theorem units?_addressArgument (address : String) : (Protocol.addressArgument address).units? = none := rfl

@[simp] theorem units?_assetArgument (p : Protocol.Navi.LendingPool) : p.assetArgument.units? = none := rfl

end Handle

def Protocol.lendingCalls : List String := [
  Navi.function "entry_deposit", Navi.function "withdraw_v2", Navi.function "borrow_v2",
  Scallop.package ++ "::mint::mint_entry", Scallop.package ++ "::redeem::redeem_entry",
  Scallop.package ++ "::borrow::borrow_entry", Scallop.package ++ "::repay::repay_entry"]

namespace Command

def amounts : Command → List Int
  | .splitCoins _ amounts => amounts
  | .moveCall target arguments _ => if target ∈ Protocol.lendingCalls then arguments.filterMap Handle.units? else []
  | _ => []

theorem amounts_of_lending {target : String} {arguments : List Handle} {types : List String}
    (h : target ∈ Protocol.lendingCalls) :
    (moveCall target arguments types).amounts = arguments.filterMap Handle.units? := if_pos h

theorem amounts_eq_nil {target : String} {arguments : List Handle} {types : List String}
    (h : arguments.filterMap Handle.units? = []) : (moveCall target arguments types).amounts = [] := by
  rw [amounts, h, ite_self]

def dust (x : Command) : List Int := x.amounts.filter (· ≤ 0)

/-- By such commands a coin is made ready to be handed over. -/
def Sources : Command → Prop
  | .splitCoins _ amounts => ∀ n ∈ amounts, 0 < n
  | .mergeCoins .. => True
  | _ => False

theorem Sources.dust_eq_nil {x : Command} (h : x.Sources) : x.dust = [] := by
  cases x with
  | splitCoins coin amounts =>
    rw [dust, List.filter_eq_nil_iff]
    intro n hn
    simpa using h n hn
  | mergeCoins destination sources => rfl
  | _ => cases h

theorem dust_eq_nil_of_sources {xs : List Command} (h : ∀ x ∈ xs, x.Sources) : xs.flatMap dust = [] := by
  rw [List.flatMap_eq_nil_iff]
  exact fun x hx => (h x hx).dust_eq_nil

end Command

def Transaction.dust (tx : Transaction) : List Int := tx.commands.flatMap Command.dust

/-- A router that splits off positive amounts only, and states none to a lender. -/
def Exchange.Tidy : Exchange → Prop
  | ⟨.swapBuild .., .ok out⟩ => out.commands.flatMap Command.dust = []
  | _ => True

namespace CoinPool

def Plain (p : CoinPool) : Prop := ∀ x ∈ p.coins, x.coin.units? = none

variable {p : CoinPool} {t : String} {x : PooledCoin} {change : Int}

theorem Plain.erase (h : p.Plain) : (p.erase t).Plain := fun y hy => h y (List.mem_filter.1 hy).1

theorem Plain.adjust (h : p.Plain) : (p.adjust t change).Plain := by
  intro y hy
  obtain ⟨z, hz, rfl⟩ := List.mem_map.1 hy
  have := h z hz
  split <;> exact this

theorem Plain.insert (h : p.Plain) (hx : x.coin.units? = none) : (p.insert x).Plain :=
  List.forall_mem_append.2 ⟨h, List.forall_mem_singleton.2 hx⟩

end CoinPool

structure Workspace.Supplied (w : Workspace) (amount : Int) (coin : Handle) (w' : Workspace) : Prop where
  commands : ∃ cs, w'.tx.commands = w.tx.commands ++ cs ∧ ∀ x ∈ cs, x.Sources
  plain : w.pool.Plain → coin.units? = none ∧ w'.pool.Plain
  positive : w.pool.Positive → 0 < amount ∧ w'.pool.Positive

structure Workspace.Furnished (w : Workspace) (hs : List Handle) (w' : Workspace) : Prop where
  commands : ∃ cs, w'.tx.commands = w.tx.commands ++ cs ∧ ∀ x ∈ cs, x.Sources
  plain : w.pool.Plain → (∀ h ∈ hs, h.units? = none) ∧ w'.pool.Plain
  positive : w.pool.Positive → w'.pool.Positive

theorem Workspace.furnished_of_units? {w : Workspace} {x : Handle} (h : x.units? = none) : w.Furnished [x] w :=
  ⟨⟨[], by simp, by simp⟩, fun hw => ⟨List.forall_mem_singleton.2 h, hw⟩, id⟩

theorem Workspace.Furnished.append {w w₁ w' : Workspace} {hs ks : List Handle} (h : w.Furnished hs w₁)
    (h' : w₁.Furnished ks w') : w.Furnished (hs ++ ks) w' := by
  obtain ⟨cs, hcs, hsources⟩ := h.commands
  obtain ⟨ds, hds, hdsources⟩ := h'.commands
  refine ⟨⟨cs ++ ds, by rw [hds, hcs, List.append_assoc], List.forall_mem_append.2 ⟨hsources, hdsources⟩⟩,
    fun hw => ?_, fun hw => h'.positive (h.positive hw)⟩
  obtain ⟨hfirst, hw₁⟩ := h.plain hw
  obtain ⟨hrest, hw'⟩ := h'.plain hw₁
  exact ⟨List.forall_mem_append.2 ⟨hfirst, hrest⟩, hw'⟩

namespace Assembly

variable {w w' : Workspace} {es : List Exchange} {t : Token} {coin : Handle} {step amount : Int}

theorem sources_merging (destination : Handle) (sources : List Handle) :
    ∀ x ∈ CoinStore.merging destination sources, x.Sources := by
  intro x hx
  unfold CoinStore.merging at hx
  split at hx
  · cases hx
  · cases List.mem_singleton.1 hx
    trivial

theorem supplied_withdraw {t : String} (hy : Yields (withdraw t amount) w es coin w') : w.Supplied amount coin w' := by
  cases hf : w.pool.find? t with
  | none => simp [withdraw, yields_bind, hf] at hy
  | some x =>
    have hx := List.mem_of_find?_eq_some hf
    obtain ⟨-, -, ⟨rfl, rfl, rfl⟩ | ⟨hpos, hlt, rfl, rfl⟩⟩ := yields_withdraw_of_find? hf hy
    · refine ⟨⟨[], by simp, by simp⟩, fun h => ⟨h x hx, h.erase⟩, fun h => ⟨h t x hf, ?_⟩⟩
      exact (CoinPool.changed_erase h hf).positive
    · refine ⟨⟨_, rfl, by simpa [Command.Sources] using hpos⟩, fun h => ⟨rfl, h.adjust⟩, fun h => ⟨hpos, ?_⟩⟩
      exact (CoinPool.changed_adjust h hf (by omega)).positive

theorem supplied_draw (hy : Yields (draw step t amount) w es coin w') : w.Supplied amount coin w' := by
  unfold draw at hy
  split at hy
  · obtain ⟨units, -, -, hpos, rfl, rfl⟩ := yields_drawNative hy
    exact ⟨⟨_, rfl, by simpa [Command.Sources] using hpos⟩, fun h => ⟨rfl, h⟩, fun h => ⟨hpos, h⟩⟩
  · obtain ⟨x, -, -, hpos, rfl, rfl⟩ := yields_drawCoins hy
    refine ⟨⟨CoinStore.merging (x.gather amount).primary (x.merged (x.gather amount)) ++
      [.splitCoins (x.gather amount).primary [amount]], ?_, ?_⟩, fun h => ⟨rfl, h⟩, fun h => ⟨hpos, h⟩⟩
    · rw [Transaction.append, CoinStore.commands_merge, List.append_assoc]
    · exact List.forall_mem_append.2 ⟨sources_merging _ _, by simpa [Command.Sources] using hpos⟩

theorem supplied_acquire (hy : Yields (acquire step t amount) w es coin w') : w.Supplied amount coin w' := by
  obtain hy | hy | ⟨x, topUp, w₁, hf, hd, rfl, rfl⟩ := yields_acquire hy
  · exact supplied_withdraw hy
  · exact supplied_draw hy
  · have hx := List.mem_of_find?_eq_some hf
    obtain ⟨⟨cs, hc, hcs⟩, hplain, hpositive⟩ := supplied_draw hd
    refine ⟨⟨cs ++ CoinStore.merging x.coin [topUp], ?_, ?_⟩, fun h => ⟨h x hx, (hplain h.erase).2⟩, fun h => ?_⟩
    · rw [CoinStore.commands_merge, hc, List.append_assoc]
    · exact List.forall_mem_append.2 ⟨hcs, sources_merging _ _⟩
    · obtain ⟨htop, h'⟩ := hpositive (CoinPool.changed_erase h hf).positive
      have := h _ x hf
      exact ⟨by omega, h'⟩

theorem yields_deposit {t : String} {r : Unit} (hy : Yields (deposit t coin amount) w es r w') :
    (∃ cs, w'.tx.commands = w.tx.commands ++ cs ∧ ∀ x ∈ cs, x.Sources) ∧
      (coin.units? = none → w.pool.Plain → w'.pool.Plain) ∧ (0 < amount → w.pool.Positive → w'.pool.Positive) := by
  cases hf : w.pool.find? t with
  | none =>
    simp [deposit, yields_bind, hf] at hy
    obtain ⟨-, rfl⟩ := hy
    exact ⟨⟨[], by simp, by simp⟩, fun hc h => h.insert hc,
      fun hpos h => (CoinPool.changed_insert ⟨t, coin, amount⟩ h hf hpos).positive⟩
  | some x =>
    simp [deposit, yields_bind, hf, and_assoc, yields_merge] at hy
    obtain ⟨-, rfl⟩ := hy
    refine ⟨⟨CoinStore.merging x.coin [coin], CoinStore.commands_merge _ _ _, sources_merging _ _⟩,
      fun _ h => h.adjust, fun hpos h => (CoinPool.changed_adjust h hf ?_).positive⟩
    have := h t x hf
    omega

end Assembly

namespace Protocol

open Assembly

variable {c : Setting} {s : Step} {w w' : Workspace} {es : List Exchange} {coin : Handle} {needed : Int}

theorem Scallop.pool_of_gather {coins : List CoinRecord} (hy : Yields (Scallop.gather coins needed) w es coin w') :
    w'.pool = w.pool ∧ coin.units? = none ∧
      ∃ cs, w'.tx.commands = w.tx.commands ++ cs ∧ cs.flatMap Command.dust = [] := by
  unfold Scallop.gather at hy
  split at hy
  · exact absurd hy yields_throw
  · next primary rest _ =>
    simp only [yields_bind, yields_merge, yields_splitOne] at hy
    obtain ⟨_, _, _, ⟨rfl, rfl⟩, _, rfl, rfl, hpos, rfl, rfl⟩ := hy
    refine ⟨rfl, rfl, CoinStore.merging primary rest ++ [.splitCoins primary [needed]], ?_, ?_⟩
    · rw [Transaction.append, CoinStore.commands_merge, List.append_assoc]
    · apply Command.dust_eq_nil_of_sources
      exact List.forall_mem_append.2 ⟨sources_merging _ _, by simpa [Command.Sources] using hpos⟩

theorem Scallop.pool_of_marketCoin {t : Token} {wrapped : Option Scallop.WrappedCoin}
    {wrappedCoins plain : List CoinRecord}
    (hy : Yields (Scallop.marketCoin s t wrapped wrappedCoins plain needed) w es coin w') :
    w'.pool = w.pool ∧ coin.units? = none ∧
      ∃ cs, w'.tx.commands = w.tx.commands ++ cs ∧ cs.flatMap Command.dust = [] := by
  unfold Scallop.marketCoin at hy
  dsimp only at hy
  split at hy
  · simp only [yields_bind, Scallop.unwrap, yields_call] at hy
    obtain ⟨_, piece, w₁, hg, _, -, -, rfl, rfl⟩ := hy
    obtain ⟨hpool, hpiece, cs, hcs, hdust⟩ := pool_of_gather hg
    refine ⟨hpool, rfl, cs ++ [_], by rw [Transaction.append, hcs, List.append_assoc], ?_⟩
    rw [List.flatMap_append, hdust, List.nil_append, List.flatMap_singleton, Command.dust,
      Command.amounts_eq_nil (by simp [hpiece])]
    rfl
  · split at hy
    · exact pool_of_gather hy
    · exact absurd hy yields_fail

theorem MoveCall.furnished_handle {a : MoveCall.Argument} {x : Handle} (hy : Yields (MoveCall.handle c s a) w es x w') :
    w.Furnished [x] w' := by
  cases a with
  | coin n =>
    simp only [handle, nativeCoin] at hy
    split at hy
    · obtain ⟨_, _, _, ht, -⟩ := yields_bind.1 hy
      exact absurd ht yields_throw
    · simp only [yields_bind, yields_ofExcept] at hy
      obtain ⟨_, _, _, ⟨-, -, rfl⟩, _, -, ha⟩ := hy
      have hs := supplied_acquire ha
      exact ⟨hs.commands, fun h => ⟨List.forall_mem_singleton.2 (hs.plain h).1, (hs.plain h).2⟩, fun h => (hs.positive h).2⟩
  | plain v =>
    obtain ⟨-, rfl, rfl⟩ := yields_pure.1 hy
    exact Workspace.furnished_of_units? (by cases v <;> rfl)
  | _ =>
    obtain ⟨-, rfl, rfl⟩ := yields_pure.1 hy
    exact Workspace.furnished_of_units? rfl

theorem MoveCall.furnished_handles {values : List Json} {hs : List Handle}
    (hy : Yields (MoveCall.handles c s values) w es hs w') : w.Furnished hs w' := by
  induction values generalizing w es hs with
  | nil =>
    obtain ⟨-, rfl, rfl⟩ := yields_pure.1 hy
    exact ⟨⟨[], by simp, by simp⟩, fun h => ⟨by simp, h⟩, id⟩
  | cons v rest ih =>
    simp only [MoveCall.handles, yields_bind, yields_ofExcept, yields_pure, and_assoc, exists_and_left, exists_eq_left,
      List.nil_append, exists_eq_left'] at hy
    obtain ⟨a, -, es₁, x, w₁, hx, _, -, es₂, others, w₂, ho, _, -, -, rfl, rfl⟩ := hy
    exact (furnished_handle hx).append (ih ho)

end Protocol

end LedgerFlow
