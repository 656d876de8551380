import LedgerFlow.Proofs.Assembly.Settlement
import LedgerFlow.Proofs.Balance.Estimates
import LedgerFlow.Proofs.Plan.Chains
import LedgerFlow.Proofs.Replay.Rehearsal

/-!
Estimates against the assembly. On a chain of steps that only spend, both count the same amounts, the one as decimals
and the other in base units, and come to the same verdict on whether there is enough.
-/

namespace LedgerFlow

theorem Token.quantity_sub (t : Token) (m n : ℤ) : t.quantity (m - n) = t.quantity m - t.quantity n := by
  simp only [quantity]
  push_cast
  ring

namespace Outlay

variable {x y : Outlay} {xs before after : List Outlay}

theorem mem_tokens (x : Outlay) : x.token ∈ TokenRegistry.standard.tokens := by
  obtain ⟨key, hm⟩ := TokenRegistry.mem_entries_of_find? x.known
  exact List.mem_map_of_mem hm

theorem symbol_ne_empty (x : Outlay) : x.symbol.isEmpty = false := by
  have h := x.known
  unfold TokenRegistry.find? at h
  split at h
  · cases h
  · next hne => simpa using hne

theorem lookup_eq (x : Outlay) : TokenRegistry.standard.entries.lookup (Text.upper x.symbol) = some x.token := by
  have h := x.known
  rwa [TokenRegistry.find?, x.symbol_ne_empty, if_neg Bool.false_ne_true] at h

theorem source_eq_iff : y.source = x.source ↔ Text.upper y.symbol = Text.upper x.symbol := by
  have hkeyed : TokenRegistry.standard.Keyed := TokenRegistry.keyed_ofList _
  have hdistinct : (TokenRegistry.standard.tokens.map (·.coinType)).Nodup := by decide +kernel
  have hupper : ∀ z : Outlay, Text.upper z.symbol = Text.upper z.token.symbol := fun z =>
    hkeyed.symbol _ (mem_of_lookup_eq_some z.lookup_eq)
  constructor
  · intro h
    have htype := (TokenRegistry.source_eq_iff hdistinct y.mem_tokens x.mem_tokens).1 h
    rw [hupper, hupper, List.inj_on_of_nodup_map hdistinct y.mem_tokens x.mem_tokens htype]
  · intro h
    have htoken : y.token = x.token := Option.some.inj (by rw [← y.lookup_eq, h, x.lookup_eq])
    rw [source, source, htoken]

theorem token_eq (h : y.source = x.source) : y.token = x.token := by
  have hlookup := y.lookup_eq
  rw [source_eq_iff.1 h, x.lookup_eq] at hlookup
  exact (Option.some.inj hlookup).symm

theorem consumption?_eq (hpos : x.amount.isPositive = true) :
    x.node.consumption? = some ⟨Text.upper x.symbol, x.amount⟩ := by
  have hsymbol : (some x.symbol).filter (fun a => !a.isEmpty) = some x.symbol :=
    Option.filter_eq_some_iff.2 ⟨rfl, by rw [x.symbol_ne_empty]; rfl⟩
  have hamount : (some x.amount).filter Decimal.isPositive = some x.amount := Option.filter_eq_some_iff.2 ⟨rfl, hpos⟩
  rw [Node.consumption?, x.stated]
  simp only [Option.bind_eq_bind, Option.bind_some, hsymbol, hamount]
  rfl

theorem abs_quantity_le (x : Outlay) {n : ℤ} (h : n.natAbs ≤ pow10 999998) :
    |x.token.quantity n| ≤ 10 ^ Decimal.highestAdjusted := by
  obtain ⟨hlow, -⟩ := TokenRegistry.decimals_of_standard x.known
  have hsize : |(n : ℚ)| ≤ 10 ^ (999998 : ℤ) := by
    rw [← Int.cast_abs, Int.abs_eq_natAbs, Int.cast_natCast]
    exact (Nat.cast_le.2 h).trans_eq (Decimal.cast_pow10 999998)
  rw [Token.quantity, abs_div, abs_of_pos (Decimal.ten_zpow_pos _)]
  calc |(n : ℚ)| / 10 ^ x.token.decimals ≤ |(n : ℚ)| :=
        div_le_self (abs_nonneg _) (one_le_zpow₀ (by norm_num) hlow)
    _ ≤ 10 ^ (999998 : ℤ) := hsize
    _ ≤ 10 ^ Decimal.highestAdjusted := zpow_le_zpow_right₀ (by norm_num) (by decide)

theorem isPassthrough_eq_false (x : Outlay) : x.node.isPassthrough = false := by
  have h := x.isOutlay
  unfold Node.isPassthrough Node.category
  cases hd : x.node.data with
  | wallet d => cases hd ▸ h
  | selector d => cases hd ▸ h
  | _ => rfl

theorem isPassthrough_of_mem {n : Node} (hn : n ∈ xs.map (·.node)) : n.isPassthrough = false := by
  obtain ⟨x, -, rfl⟩ := List.mem_map.1 hn
  exact x.isPassthrough_eq_false

section

variable {v : GraphView} (h : v.IsChain (xs.map (·.node)))

include h

theorem compile_eq : v.compile = number 0 (xs.map (·.node)) := h.compile_eq fun _ => isPassthrough_of_mem

theorem checkNode_of_isChain {rules : Validation.Rules} (hvalid : validateSteps rules v.compile = .ok ())
    (hx : x ∈ xs) : Validation.checkNode rules x.node = .ok () := by
  have hnode : x.node ∈ v.compile.map (·.node) := by
    rw [compile_eq h, map_node_number]
    exact List.mem_map_of_mem hx
  obtain ⟨s, hs, heq⟩ := List.mem_map.1 hnode
  rw [← heq]
  exact checkNode_of_validateSteps hvalid s hs

end

end Outlay

namespace BalanceEstimator

open Decimal

variable {v : GraphView} {n : Node} {before after : List Node} {x : Outlay}

theorem spentBefore_of_isChain (h : v.IsChain (before ++ n :: after))
    (hns : ∀ m ∈ before ++ n :: after, m.isPassthrough = false) (base : List (String × Decimal)) :
    spentBefore ⟨v, v.compile, base⟩ n.id = before.filterMap Node.consumption? := by
  have hcompile : v.compile = number 0 before ++ ⟨before.length, n, false⟩ :: number (before.length + 1) after := by
    rw [h.compile_eq hns, number_append, Nat.zero_add, number]
  have hstep : Plan.stepFor? v.compile n.id = some ⟨before.length, n, false⟩ :=
    (Plan.stepFor?_eq_some v.nodup_map_id).2 ⟨by simp [hcompile], rfl⟩
  have hbefore : ∀ s : Step, isBefore ⟨v, v.compile, base⟩ n.id s = decide (s.index < before.length) := fun s => by
    rw [isBefore, hstep]
  have hearlier : ∀ s ∈ number 0 before, ((v.ancestors n.id).contains s.node.id && decide (s.index < before.length)) =
      true := by
    intro s hs
    rw [Bool.and_eq_true, decide_eq_true_eq]
    exact ⟨List.contains_iff_mem.2 (h.mem_ancestors (node_of_mem_number hs)),
      (index_of_mem_number hs).2.trans_eq (Nat.zero_add _)⟩
  have hlater : ∀ s ∈ number before.length (n :: after), ¬((v.ancestors n.id).contains s.node.id &&
      decide (s.index < before.length)) = true := by
    intro s hs
    rw [Bool.and_eq_true, decide_eq_true_eq]
    exact fun hs' => Nat.not_lt.2 (index_of_mem_number hs).1 hs'.2
  have hnodes := map_node_number 0 before
  unfold spentBefore
  simp only [hbefore]
  rw [hcompile, ← number, List.filter_append, List.filter_eq_self.2 hearlier, List.filter_eq_nil_iff.2 hlater,
    List.append_nil]
  conv_rhs => rw [← hnodes, List.filterMap_map]
  rfl

theorem spentOn_of_isChain {before after : List Outlay} (h : v.IsChain ((before ++ x :: after).map (·.node)))
    (hpos : ∀ y ∈ before, y.amount.isPositive = true) (base : List (String × Decimal)) :
    spentOn ⟨v, v.compile, base⟩ x.node.id x.symbol = (before.filter (·.source = x.source)).map (·.amount) := by
  have hns : ∀ m ∈ (before ++ x :: after).map (·.node), m.isPassthrough = false := fun _ => Outlay.isPassthrough_of_mem
  rw [List.map_append, List.map_cons] at h hns
  rw [spentOn, spentBefore_of_isChain h hns, List.filterMap_map, List.filterMap_filterMap, ← List.filterMap_eq_map,
    ← List.filterMap_eq_filter, List.filterMap_filterMap]
  refine List.filterMap_congr fun y hy => ?_
  have hsame : (Text.upper y.symbol == Text.upper x.symbol) = decide (y.source = x.source) := by
    rw [Bool.eq_iff_iff, beq_iff_eq, decide_eq_true_eq, Outlay.source_eq_iff]
  rw [Function.comp_apply, Outlay.consumption?_eq (hpos y hy), Option.bind_some, hsame, Option.guard]
  by_cases hs : y.source = x.source <;> simp [hs]

theorem value?_quantity {c units : Nat} {e decimals : Int} {symbol coinType : String}
    (h : (c : ℚ) * 10 ^ e = units / 10 ^ decimals) :
    (Decimal.finite false c e).value? = some ((Token.mk symbol decimals coinType).quantity units) :=
  congrArg some (h.trans (by rw [Token.quantity, Int.cast_natCast]))

theorem exact_quantity (x : Outlay) {r : Except Signal Decimal} {n : ℤ} (h : Rounds r (x.token.quantity n))
    (hn : n.natAbs < 10 ^ 28) : ∃ b, r = .ok b ∧ b.value? = some (x.token.quantity n) := by
  obtain ⟨hlow, hhigh⟩ := TokenRegistry.decimals_of_standard x.known
  rw [Token.quantity_eq_mul] at h ⊢
  apply h.exact hn
  · simp only [lowestExponent]
    omega
  · simp only [highestAdjusted, precision]
    omega

/-- Sums of whole units are exact as long as they have no more than 28 digits. -/
theorem exists_sum {ys : List Outlay} {a : Decimal} {n : Nat} (ha : a.value? = some (x.token.quantity n))
    (hys : ∀ y ∈ ys, y.token = x.token) (hlt : n + (ys.map (·.units)).sum < 10 ^ 28) :
    ∃ b, sum a (ys.map (·.amount)) = .ok b ∧ b.value? = some (x.token.quantity (n + (ys.map (·.units)).sum : Nat)) := by
  induction ys generalizing a n with
  | nil => exact ⟨a, rfl, ha⟩
  | cons y ys ih =>
    simp only [List.map_cons, List.sum_cons, ← Nat.add_assoc] at hlt ⊢
    have hy : y.amount.value? = some (x.token.quantity y.units) := hys y List.mem_cons_self ▸ y.counted
    have hadd := rounds_add ha hy
    have hquantity : x.token.quantity n + x.token.quantity y.units = x.token.quantity (n + y.units : Nat) := by
      simp only [Token.quantity]
      push_cast
      ring
    rw [hquantity] at hadd
    obtain ⟨b, hb, hvalue⟩ := exact_quantity x hadd (show n + y.units < 10 ^ 28 by omega)
    obtain ⟨total, htotal, hresult⟩ := ih hvalue (fun z hz => hys z (.tail _ hz)) hlt
    exact ⟨total, sum_cons_eq_ok.2 ⟨b, hb, htotal⟩, hresult⟩

theorem quantity_le_iff {m : ℤ} (hpos : 0 < x.units) (hlt : x.units < 10 ^ 28) :
    x.token.quantity x.units ≤ max (Decimal.round (x.token.quantity m)) 0 ↔ x.units ≤ m := by
  obtain ⟨hlow, hhigh⟩ := TokenRegistry.decimals_of_standard x.known
  have hunit := ten_zpow_pos (-x.token.decimals)
  have hexponent : lowestExponent ≤ -x.token.decimals := by
    simp only [lowestExponent]
    omega
  rw [Token.quantity_eq_mul, Token.quantity_eq_mul]
  constructor
  · contrapose!
    intro hm
    have hle : Decimal.round (m * 10 ^ (-x.token.decimals)) ≤ ((x.units - 1 : ℤ) : ℚ) * 10 ^ (-x.token.decimals) := by
      apply round_le_of_le (show (x.units - 1 : ℤ).natAbs < 10 ^ 28 by omega) hexponent
      exact mul_le_mul_of_nonneg_right (Int.cast_le.2 (Int.le_sub_one_of_lt hm)) hunit.le
    apply max_lt
    · exact hle.trans_lt (mul_lt_mul_of_pos_right (Int.cast_lt.2 (sub_one_lt _)) hunit)
    · exact mul_pos (Int.cast_pos.2 (Int.natCast_pos.2 hpos)) hunit
  · intro hm
    apply le_max_of_le_left
    exact le_round_of_le hlt hexponent (mul_le_mul_of_nonneg_right (Int.cast_le.2 hm) hunit.le)

/-- The estimate at a node is no less than what the node takes. -/
def Covers (e : BalanceEstimator) (x : Outlay) : Prop :=
  ∃ y o, e.estimate x.node.id x.symbol = .ok y ∧ y.order? x.amount = some o ∧ o ≠ .lt

section

variable {l : Ledger} {reserve : Int} {before after : List Outlay} {e : BalanceEstimator}
  {base : List (String × Decimal)}

theorem estimate_of_isChain (h : v.IsChain ((before ++ x :: after).map (·.node)))
    (hrange : Outlay.InRange l reserve (before ++ x :: after)) (hpos : ∀ y ∈ before, y.amount.isPositive = true)
    (he : e = ⟨v, v.compile, base⟩)
    (hheld : (e.held x.symbol).value? = some (x.token.quantity (l.spendable reserve x.source))) :
    ∃ y, e.estimate x.node.id x.symbol = .ok y ∧ y.value? = some (max (Decimal.round
      (x.token.quantity (l.spendable reserve x.source - Outlay.total x.source before))) 0) := by
  have hbefore : Outlay.total x.source before < 10 ^ 28 := by
    have := hrange.total_lt x.source
    rw [Outlay.total_append] at this
    omega
  have hspent : e.spentOn x.node.id x.symbol = (before.filter (·.source = x.source)).map (·.amount) := by
    rw [he, spentOn_of_isChain h hpos]
  have hzero : (0 : Decimal).value? = some (x.token.quantity (0 : Nat)) := by
    simp [value?_zero, Token.quantity]
  have htokens : ∀ y ∈ before.filter (·.source = x.source), y.token = x.token := fun y hy =>
    Outlay.token_eq (of_decide_eq_true (List.mem_filter.1 hy).2)
  obtain ⟨spent, hsum, hvalue⟩ := exists_sum hzero htokens (by rwa [Nat.zero_add])
  rw [← hspent] at hsum
  rw [Nat.zero_add, ← Outlay.total] at hvalue
  have hsub := rounds_sub hheld hvalue
  rw [← Token.quantity_sub] at hsub
  obtain ⟨left, hleft, hrest⟩ := hsub.ok_of_le (x.abs_quantity_le (le_of_lt (lt_of_le_of_lt (by omega) hrange.left_lt)))
  obtain ⟨y, hy, hmax⟩ := value?_maximum hrest value?_zero
  exact ⟨y, estimate_eq_ok.2 ⟨spent, hsum, left, hleft, hy⟩, hmax⟩

theorem covers_iff_afforded (h : v.IsChain ((before ++ x :: after).map (·.node)))
    (hrange : Outlay.InRange l reserve (before ++ x :: after)) (hpos : ∀ y ∈ before, y.amount.isPositive = true)
    (hunits : 0 < x.units) (he : e = ⟨v, v.compile, base⟩)
    (hheld : (e.held x.symbol).value? = some (x.token.quantity (l.spendable reserve x.source))) :
    e.Covers x ↔ x.Afforded l reserve before := by
  obtain ⟨y, hy, hvalue⟩ := estimate_of_isChain h hrange hpos he hheld
  have horder := order?_eq_compare hvalue x.counted
  have hafforded : x.Afforded l reserve before ↔
      (x.units : ℤ) ≤ l.spendable reserve x.source - Outlay.total x.source before := by
    rw [Outlay.Afforded]
    omega
  rw [hafforded, ← quantity_le_iff hunits hrange.units_lt, ← not_lt, ← compare_lt_iff_lt]
  constructor
  · rintro ⟨y', o, hy', ho, hne⟩
    cases hy.symm.trans hy'
    cases horder.symm.trans ho
    exact hne
  · intro hne
    exact ⟨y, _, hy, horder, hne⟩

theorem covered_iff_covers {xs : List Outlay} (h : v.IsChain (xs.map (·.node)))
    (hrange : Outlay.InRange l reserve xs) (hpos : ∀ x ∈ xs, x.amount.isPositive = true)
    (hunits : ∀ x ∈ xs, 0 < x.units) (he : e = ⟨v, v.compile, base⟩)
    (hbase : ∀ x ∈ xs, (e.held x.symbol).value? = some (x.token.quantity (l.spendable reserve x.source))) :
    Outlay.Covered l reserve [] xs ↔ ∀ x ∈ xs, e.Covers x := by
  have hcovers : ∀ before x after, xs = before ++ x :: after → (e.Covers x ↔ x.Afforded l reserve before) := by
    rintro before x after rfl
    have hx : x ∈ before ++ x :: after := by simp
    exact covers_iff_afforded h hrange (fun y hy => hpos y (List.mem_append_left _ hy)) (hunits x hx) he (hbase x hx)
  constructor
  · intro hcovered x hx
    obtain ⟨before, after, heq⟩ := List.append_of_mem hx
    exact (hcovers before x after heq).2 (hcovered before x after heq)
  · intro hall before x after heq
    exact (hcovers before x after heq).1 (hall x (by simp [heq]))

/-- On a chain of steps that only spend, the assembly comes to an end without a shortage just if the estimate at each
step is no less than what the step takes. -/
theorem assembles_iff_covers {c : AssemblySetting} {xs : List Outlay} {names : NameTable} {strict : Bool}
    {balances : List (String × Json)} {es : List Exchange} {out : Except Fault AssemblyResult}
    (hc : c.tokens = .standard) (hadapters : c.adapters = Builder.standard) (hrouter : c.hasRouter = true)
    (hreserve : Assembly.reserveUnits c = .ok reserve) (hchain : v.IsChain (xs.map (·.node)))
    (hvalid : validateSteps ⟨c.tokens, names, strict⟩ v.compile = .ok ()) (hrange : Outlay.InRange l reserve xs)
    (hcreate : create v balances = .ok e)
    (hbase : ∀ x ∈ xs, (e.held x.symbol).value? = some (x.token.quantity (l.spendable reserve x.source)))
    (ha : ∀ q ∈ es, q.Serves l) (hy : (assemble c v.compile).Yields es out) :
    (∀ x ∈ xs, ∃ y, e.estimate x.node.id x.symbol = .ok y) ∧
      ((∃ result, out = .ok result) ∨ ∃ f, out = .error f ∧ f.isResource = true) ∧
      ((∀ f, out = .error f → f.isResource = false) ↔ ∀ x ∈ xs, e.Covers x) := by
  obtain ⟨base, -, he⟩ := create_eq_ok.1 hcreate
  have hchecked : ∀ x ∈ xs, Validation.checkNode ⟨.standard, names, strict⟩ x.node = .ok () := fun x hx =>
    hc ▸ Outlay.checkNode_of_isChain hchain hvalid hx
  have hpos := fun x hx => (Outlay.form_of_checkNode (hchecked x hx)).2
  have hunits := fun x hx => Outlay.units_pos (hchecked x hx)
  rw [Outlay.compile_eq hchain] at hy
  have hended := Assembly.ended_assemble hc hadapters hrouter hreserve hrange hchecked ha hy
  refine ⟨fun x hx => ?_, ?_, ?_⟩
  · obtain ⟨before, after, rfl⟩ := List.append_of_mem hx
    obtain ⟨y, hestimate, -⟩ :=
      estimate_of_isChain hchain hrange (fun y hy => hpos y (List.mem_append_left _ hy)) he (hbase x hx)
    exact ⟨y, hestimate⟩
  · exact hended.elim (fun h => .inl h.2) fun h => .inr h.2
  · rw [← covered_iff_covers hchain hrange hpos hunits he hbase]
    obtain ⟨h, result, rfl⟩ | ⟨h, f, rfl, hf⟩ := hended
    · exact iff_of_true (by rintro f ⟨⟩) h
    · refine iff_of_false (fun hnone => ?_) h
      exact absurd (hf.symm.trans (hnone f rfl)) (by decide)

end

def usdcType : String := "0xdba34672e30cb065b1f93e3ab55318768fd6fef66c15942c9f7cb846e2f900e7::usdc::USDC"

def spree : List Outlay := [
  ⟨.of "s1" (.transfer ⟨some "0x7", some 2, "SUI"⟩), "SUI", 2, ⟨"SUI", 9, nativeCoinType⟩, 2000000000, rfl, rfl,
    by decide +kernel, value?_quantity (by norm_num)⟩,
  ⟨.of "s2" (.swap ⟨some "USDC", some "SUI", some 3, none, none⟩), "USDC", 3, ⟨"USDC", 6, usdcType⟩, 3000000, rfl, rfl,
    by decide +kernel, value?_quantity (by norm_num)⟩,
  ⟨.of "s3" (.stake ⟨some 1, "aftermath", none⟩), "SUI", 1, ⟨"SUI", 9, nativeCoinType⟩, 1000000000, rfl, rfl,
    by decide +kernel, value?_quantity (by norm_num)⟩,
  ⟨.of "s4" (.lend ⟨"deposit", "USDC", some (.finite false 25 (-1)), "navi", none, none⟩), "USDC",
    .finite false 25 (-1), ⟨"USDC", 6, usdcType⟩, 2500000, by decide, by rfl, by decide +kernel,
    value?_quantity (by norm_num)⟩]

def spreeView : GraphView where
  graph := ⟨.of "wallet" (.wallet ⟨none⟩) :: spree.map (·.node),
    [⟨"e1", "wallet", "s1"⟩, ⟨"e2", "s1", "s2"⟩, ⟨"e3", "s2", "s3"⟩, ⟨"e4", "s3", "s4"⟩], [], by decide +kernel⟩
  epsilon := .float 50

theorem isChain_spree : spreeView.IsChain (spree.map (·.node)) := by
  apply GraphView.isChain_of_edges
  · rfl
  · decide +kernel

def spreeLedger : Ledger where
  native := 4000000000
  coins := [(usdcType, [⟨"0xa", 5000000⟩])]
  owned := []
  distinct := by simp

def spreeScript : Script :=
  { Rehearsal.blank with
    ledger := ⟨[(nativeCoinType, 4000000000)], spreeLedger.coins, [], ["0x7"], none, none, none, none⟩
    swap := ⟨true, 1000, none, none⟩ }

def spreeExchanges : List Exchange :=
  (assemble (holdingBack 1) (number 0 (spree.map (·.node)))).run.exchanges Rehearsal.answer (.create spreeScript)

def spreeOutcome : Except Fault AssemblyResult :=
  (Rehearsal.perform (assemble (holdingBack 1) (number 0 (spree.map (·.node)))).run (.create spreeScript)).1

theorem spree_serves : ∀ q ∈ spreeExchanges, q.Serves spreeLedger := by
  have hreports : ∀ q ∈ spreeExchanges, spreeLedger.Reports q :=
    Program.forall_exchanges (I := fun h : Rehearsal => h.script.ledger = spreeScript.ledger)
      (fun q h hsame => (Rehearsal.ledger_answer q).trans hsame)
      (fun q h hsame => Rehearsal.reports_answer (hsame ▸ ⟨rfl, rfl, rfl⟩) q) _ rfl
  have hserved : ∀ q ∈ spreeExchanges, q.isAnswered = true ∧ q.isServed = true := by decide +kernel
  exact fun q hq => ⟨hreports q hq, (hserved q hq).1, (hserved q hq).2⟩

theorem spree_short : ∀ result, spreeOutcome ≠ .ok result := by
  intro result h
  have hnone : spreeOutcome.toOption = none := by decide +kernel
  rw [h] at hnone
  cases hnone

theorem inRange_spree : Outlay.InRange spreeLedger 1000000000 spree := by
  constructor
  · intro s
    have hsum : (spree.map (·.units)).sum < 10 ^ 28 := by decide +kernel
    exact (Outlay.total_le_sum s spree).trans_lt hsum
  · intro x hx
    have hsmall : ∀ x ∈ spree, (spreeLedger.spendable 1000000000 x.source).natAbs < 10 ^ 28 := by decide +kernel
    exact (hsmall x hx).trans_le (pow10_le_pow10 (show 28 ≤ 999990 by decide))

theorem assembles_iff_covers_spree :
    ∃ e es f, create spreeView [("SUI", .string "3"), ("USDC", .string "5")] = .ok e ∧
      (∀ q ∈ es, q.Serves spreeLedger) ∧ (assemble (holdingBack 1) spreeView.compile).Yields es (.error f) ∧
      f.isResource = true ∧ ¬∀ x ∈ spree, e.Covers x := by
  have hcompile := Outlay.compile_eq isChain_spree
  have hvalid : validateSteps ⟨(holdingBack 1).tokens, .empty, true⟩ spreeView.compile = .ok () := by
    rw [hcompile]
    exact except_eq_ok.2 (by decide +kernel)
  have hcreate : create spreeView [("SUI", .string "3"), ("USDC", .string "5")] =
      .ok ⟨spreeView, spreeView.compile, [("SUI", 3), ("USDC", 5)]⟩ :=
    create_eq_ok.2 ⟨_, except_eq_ok.2 (by decide +kernel), rfl⟩
  have hbase : ∀ x ∈ spree, (held ⟨spreeView, spreeView.compile, [("SUI", 3), ("USDC", 5)]⟩ x.symbol).value? =
      some (x.token.quantity (spreeLedger.spendable 1000000000 x.source)) := by
    have hkinds : ∀ x ∈ spree,
        (x.symbol = "SUI" ∧ x.token = ⟨"SUI", 9, nativeCoinType⟩ ∧
          spreeLedger.spendable 1000000000 x.source = (3000000000 : Nat)) ∨
        (x.symbol = "USDC" ∧ x.token = ⟨"USDC", 6, usdcType⟩ ∧
          spreeLedger.spendable 1000000000 x.source = (5000000 : Nat)) := by decide +kernel
    have hnative : held ⟨spreeView, spreeView.compile, [("SUI", 3), ("USDC", 5)]⟩ "SUI" = .finite false 3 0 := by
      decide +kernel
    have hcoins : held ⟨spreeView, spreeView.compile, [("SUI", 3), ("USDC", 5)]⟩ "USDC" = .finite false 5 0 := by
      decide +kernel
    intro x hx
    obtain ⟨hsymbol, htoken, hleft⟩ | ⟨hsymbol, htoken, hleft⟩ := hkinds x hx
    · rw [hsymbol, htoken, hleft, hnative]
      exact value?_quantity (by norm_num)
    · rw [hsymbol, htoken, hleft, hcoins]
      exact value?_quantity (by norm_num)
  have hyields : (assemble (holdingBack 1) spreeView.compile).Yields spreeExchanges spreeOutcome := by
    rw [hcompile]
    exact Rehearsal.yields_perform _ _
  have hreserve : Assembly.reserveUnits (holdingBack 1) = .ok 1000000000 := except_eq_ok.2 (by decide +kernel)
  obtain ⟨-, hend, hiff⟩ :=
    assembles_iff_covers rfl rfl rfl hreserve isChain_spree hvalid inRange_spree hcreate hbase spree_serves hyields
  obtain ⟨result, hok⟩ | ⟨f, herror, hresource⟩ := hend
  · exact absurd hok (spree_short result)
  · refine ⟨_, _, f, hcreate, spree_serves, herror ▸ hyields, hresource, fun hcovers => ?_⟩
    exact absurd (hresource.symm.trans (hiff.2 hcovers f herror)) (by decide)

end BalanceEstimator

end LedgerFlow
