import Mathlib.Algebra.Order.BigOperators.Group.List
import LedgerFlow.Proofs.Assembly.Endings
import LedgerFlow.Proofs.Balance.Spending
import LedgerFlow.Proofs.Decimal.Quotients
import LedgerFlow.Proofs.Token.Conversion
import LedgerFlow.Proofs.Validation.Coverage
import LedgerFlow.Proofs.Wallet.Counters

namespace LedgerFlow

/-- What the signer can spend of a source: native units but for the reserve, and the coins of any other type. -/
def Ledger.spendable (l : Ledger) (reserve : Int) : Source → Int
  | .native => max (l.native - reserve) 0
  | .coins coinType => Holding.total (l.coinsOf coinType)

def Fault.isResource : Fault → Bool
  | .engine e => match e.kind with
    | .resource .. => true
    | _ => false
  | _ => false

namespace Exchange

/-- The router finds a way and goes it, and there are validators. -/
def isServed : Exchange → Bool
  | ⟨.swapRoute .., .ok (some q)⟩ => 0 < q.amountOut
  | ⟨.swapRoute .., _⟩ => false
  | ⟨.swapBuild .., .ok _⟩ => true
  | ⟨.swapBuild .., .error _⟩ => false
  | ⟨.activeValidators, .ok (_ :: _)⟩ => true
  | ⟨.activeValidators, _⟩ => false
  | _ => true

/-- The ledger says what is so, and nobody else stands in the way. -/
structure Serves (l : Ledger) (e : Exchange) : Prop where
  reports : l.Reports e
  answered : e.isAnswered = true
  served : e.isServed = true

end Exchange

def Token.quantity (t : Token) (n : ℤ) : ℚ := n / 10 ^ t.decimals

def NodeData.isOutlay : NodeData → Bool
  | .transfer _ => true
  | .swap _ => true
  | .stake _ => true
  | .lend d => d.action == "deposit"
  | _ => false

/-- A node that takes a whole number of units of a token out of the wallet. -/
structure Outlay where
  node : Node
  symbol : String
  amount : Decimal
  token : Token
  units : Nat
  isOutlay : node.data.isOutlay = true
  stated : node.data.stated? = some (some symbol, some amount)
  known : TokenRegistry.standard.find? symbol = some token
  counted : amount.value? = some (token.quantity units)

theorem Token.quantity_eq_mul (t : Token) (n : ℤ) : t.quantity n = n * 10 ^ (-t.decimals) := by
  rw [quantity, zpow_neg, div_eq_mul_inv]

namespace TokenRegistry

theorem decimals_of_standard {symbol : String} {t : Token} (h : standard.find? symbol = some t) :
    0 ≤ t.decimals ∧ t.decimals ≤ 9 := by
  obtain ⟨key, hm⟩ := mem_entries_of_find? h
  have hdecimals : ∀ e ∈ standard.entries, 0 ≤ e.2.decimals ∧ e.2.decimals ≤ 9 := by decide +kernel
  exact hdecimals _ hm

end TokenRegistry

namespace Outlay

def source (x : Outlay) : Source := x.token.source

def total (s : Source) (xs : List Outlay) : Nat := ((xs.filter (·.source = s)).map (·.units)).sum

variable {x : Outlay} {s : Source} {xs : List Outlay} {names : NameTable} {strict : Bool}

theorem total_append (s : Source) (xs ys : List Outlay) : total s (xs ++ ys) = total s xs + total s ys := by
  simp [total]

theorem total_singleton (s : Source) (x : Outlay) : total s [x] = if x.source = s then x.units else 0 := by
  by_cases h : x.source = s <;> simp [total, h]

theorem units_le_total (hx : x ∈ xs) : x.units ≤ total x.source xs := by
  obtain ⟨before, rest, rfl⟩ := List.append_of_mem hx
  rw [List.append_cons, total_append, total_append, total_singleton, if_pos rfl]
  omega

theorem total_le_sum (s : Source) (xs : List Outlay) : total s xs ≤ (xs.map (·.units)).sum :=
  (List.filter_sublist.map _).sum_le_sum fun _ _ => Nat.zero_le _

inductive Form (x : Outlay) : Prop
  | transfer {d : TransferData} {recipient : String} (data : x.node.data = .transfer d) (asset : d.asset = x.symbol)
      (amount : d.amount = some x.amount) (sent : d.recipientAddress = some recipient)
  | swap {d : SwapData} {wanted : String} {t : Token} (data : x.node.data = .swap d)
      (given : d.fromAsset = some x.symbol) (amount : d.amount = some x.amount) (target : d.toAsset = some wanted)
      (known : TokenRegistry.standard.find? wanted = some t)
  | stake {d : StakeData} (data : x.node.data = .stake d) (asset : nativeSymbol = x.symbol)
      (amount : d.amount = some x.amount) (protocol : d.protocol ∈ Validation.stakingProtocols)
      (validator : d.protocol = "native" → Validation.Filled d.validator)
  | deposit {d : LendData} (data : x.node.data = .lend d) (asset : d.asset = x.symbol)
      (amount : d.amount = some x.amount) (protocol : d.protocol ∈ Validation.lendingProtocols)
      (action : d.action = "deposit")

theorem form_of_checkNode (h : Validation.checkNode ⟨.standard, names, strict⟩ x.node = .ok ()) :
    x.Form ∧ x.amount.isPositive = true := by
  have houtlay := x.isOutlay
  have hstated := x.stated
  have hpositive : ∀ {d : Option Decimal}, d = some x.amount → Validation.IsPositive d →
      x.amount.isPositive = true := by
    rintro d heq ⟨a, ha, hpos⟩
    cases heq.symm.trans ha
    exact hpos
  cases hd : x.node.data with
  | transfer d =>
    rw [Validation.checkNode, hd] at h
    rw [hd, NodeData.stated?, Option.some_inj, Prod.mk.injEq, Option.some_inj] at hstated
    obtain ⟨⟨recipient, hrecipient, -⟩, hamount, -⟩ := Validation.checkTransfer_eq_ok.1 h
    exact ⟨.transfer hd hstated.1 hstated.2 hrecipient, hpositive hstated.2 hamount⟩
  | swap d =>
    rw [Validation.checkNode, hd] at h
    rw [hd, NodeData.stated?, Option.some_inj, Prod.mk.injEq] at hstated
    obtain ⟨⟨source, target, -, ⟨htarget, -⟩, -, ⟨t, ht⟩, -⟩, hamount⟩ := Validation.checkSwap_eq_ok.1 h
    exact ⟨.swap hd hstated.1 hstated.2 htarget ht, hpositive hstated.2 hamount⟩
  | lend d =>
    rw [Validation.checkNode, hd] at h
    have haction : d.action = "deposit" := beq_iff_eq.1 (by rwa [hd] at houtlay)
    rw [hd, NodeData.stated?, haction, if_pos (by decide), Option.some_inj, Prod.mk.injEq, Option.some_inj] at hstated
    obtain ⟨hamount, hprotocol, -⟩ := Validation.checkLend_eq_ok.1 h
    exact ⟨.deposit hd hstated.1 hstated.2 hprotocol haction, hpositive hstated.2 hamount⟩
  | stake d =>
    rw [Validation.checkNode, hd] at h
    rw [hd, NodeData.stated?, Option.some_inj, Prod.mk.injEq, Option.some_inj] at hstated
    obtain ⟨⟨a, hamount, -⟩, hprotocol, hvalidator⟩ := Validation.checkStake_eq_ok.1 h
    exact ⟨.stake hd hstated.1 hstated.2 hprotocol hvalidator, hpositive hstated.2 ⟨a, hamount⟩⟩
  | _ =>
    rw [hd] at houtlay
    cases houtlay

/-- Every node that passed its check and takes whole units is an outlay. -/
theorem exists_of_checkNode {n : Node} (h : Validation.checkNode ⟨.standard, names, strict⟩ n = .ok ())
    (hn : n.data.isOutlay = true)
    (hwhole : ∀ symbol amount t, n.data.stated? = some (some symbol, some amount) →
      TokenRegistry.standard.find? symbol = some t → ∃ units : Nat, amount.value? = some (t.quantity units)) :
    ∃ x : Outlay, x.node = n := by
  suffices hstated : ∃ symbol amount t, n.data.stated? = some (some symbol, some amount) ∧
      TokenRegistry.standard.find? symbol = some t by
    obtain ⟨symbol, amount, t, hstated, ht⟩ := hstated
    obtain ⟨units, hunits⟩ := hwhole symbol amount t hstated ht
    exact ⟨⟨n, symbol, amount, t, units, hn, hstated, ht, hunits⟩, rfl⟩
  cases hd : n.data with
  | transfer d =>
    rw [Validation.checkNode, hd] at h
    obtain ⟨-, ⟨amount, hamount, -⟩, t, ht⟩ := Validation.checkTransfer_eq_ok.1 h
    exact ⟨d.asset, amount, t, by rw [NodeData.stated?, hamount], ht⟩
  | swap d =>
    rw [Validation.checkNode, hd] at h
    obtain ⟨⟨source, target, ⟨hsource, -⟩, -, ⟨t, ht⟩, -⟩, amount, hamount, -⟩ := Validation.checkSwap_eq_ok.1 h
    exact ⟨source, amount, t, by rw [NodeData.stated?, hsource, hamount], ht⟩
  | lend d =>
    rw [Validation.checkNode, hd] at h
    have haction : d.action = "deposit" := beq_iff_eq.1 (by rwa [hd] at hn)
    obtain ⟨⟨amount, hamount, -⟩, -, -, -, t, ht⟩ := Validation.checkLend_eq_ok.1 h
    exact ⟨d.asset, amount, t, by rw [NodeData.stated?, haction, if_pos (by decide), hamount], ht⟩
  | stake d =>
    rw [Validation.checkNode, hd] at h
    obtain ⟨⟨amount, ⟨hamount, -⟩, -⟩, -, -⟩ := Validation.checkStake_eq_ok.1 h
    obtain ⟨t, ht⟩ := TokenRegistry.find?_native_standard
    exact ⟨nativeSymbol, amount, t, by rw [NodeData.stated?, hamount], ht⟩
  | _ =>
    rw [hd] at hn
    cases hn

theorem units_pos (h : Validation.checkNode ⟨.standard, names, strict⟩ x.node = .ok ()) : 0 < x.units := by
  have hvalue := (Decimal.isPositive_iff x.counted).1 (form_of_checkNode h).2
  rw [Token.quantity, div_pos_iff_of_pos_right (Decimal.ten_zpow_pos _)] at hvalue
  exact_mod_cast hvalue

theorem unitsOf_eq (h : x.units < 10 ^ 28) : Protocol.unitsOf x.token (some x.amount) = .ok x.units := by
  obtain ⟨hlow, hhigh⟩ := TokenRegistry.decimals_of_standard x.known
  exact except_bind_eq_ok.2 ⟨x.amount, rfl, Token.toBaseUnits_quantity hlow (hhigh.trans (by decide)) h x.counted⟩

theorem positiveUnitsOf_eq (h : x.units < 10 ^ 28) (hpos : 0 < x.units) (s : Step) (what : String) :
    Protocol.positiveUnitsOf s what x.token (some x.amount) = .ok x.units := by
  obtain ⟨a, ha, hunits⟩ := except_bind_eq_ok.1 (unitsOf_eq h)
  refine except_bind_eq_ok.2 ⟨a, ha, except_bind_eq_ok.2 ⟨x.units, hunits, ?_⟩⟩
  rw [if_neg (by omega)]
  rfl

end Outlay

end LedgerFlow
