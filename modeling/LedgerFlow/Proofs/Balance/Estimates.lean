import LedgerFlow.Proofs.Balance.Spending
import LedgerFlow.Proofs.Members
import LedgerFlow.Proofs.Plan.Redrawn

namespace LedgerFlow

namespace BalanceEstimator

open Decimal

section

variable {v : GraphView} {e : BalanceEstimator} {balances : List (String × Json)} {id asset : String} {s t : Step}

theorem create_eq_ok : create v balances = .ok e ↔ ∃ base, readBase balances = .ok base ∧ e = ⟨v, v.compile, base⟩ := by
  rw [create, except_bind_eq_ok]
  exact exists_congr fun base => and_congr_right fun _ => ⟨fun h => by cases h; rfl, fun h => by rw [h]; rfl⟩

theorem create_of_text {symbol text : String} {d : Decimal} (hsymbol : Text.upper symbol = symbol)
    (htext : Decimal.ofText text = .ok d) :
    create v [(symbol, .string text)] = .ok ⟨v, v.compile, [(symbol, d)]⟩ := by
  have hread : readBase [(symbol, .string text)] = .ok [(symbol, d)] := by
    have hdisplay : (Json.string text).display = text := rfl
    rw [readBase, hdisplay, htext, readBase, hsymbol]
    rfl
  exact create_eq_ok.2 ⟨_, hread, rfl⟩

theorem exists_value_held (hbase : ∀ entry ∈ e.base, ∃ p, entry.2.value? = some p ∧ 0 ≤ p) (asset : String) :
    ∃ p, (e.held asset).value? = some p ∧ 0 ≤ p := by
  unfold held
  cases h : e.base.lookup (Text.upper asset) with
  | none => exact ⟨0, value?_zero, le_rfl⟩
  | some d => exact hbase _ (mem_of_lookup_eq_some h)

theorem spentOn_sublist (hs : s ∈ v.compile) (ht : t ∈ v.compile) (hlead : s.node.id ∈ v.ancestors t.node.id)
    (hlt : s.index < t.index) (base : List (String × Decimal)) (asset : String) :
    (spentOn ⟨v, v.compile, base⟩ s.node.id asset).Sublist (spentOn ⟨v, v.compile, base⟩ t.node.id asset) := by
  have hids : ∀ u ∈ v.compile, u.node.id ∈ v.graph.ids := fun u hu =>
    List.mem_map_of_mem (GraphView.mem_emitted.1 (node_of_mem_number hu)).1
  have hbefore : ∀ u ∈ v.compile, ∀ w : Step,
      isBefore ⟨v, v.compile, base⟩ u.node.id w = decide (w.index < u.index) := by
    intro u hu w
    rw [isBefore, (Plan.stepFor?_eq_some v.nodup_map_id).2 ⟨hu, rfl⟩]
  have himp : ∀ u ∈ v.compile, (v.ancestors s.node.id).contains u.node.id = true → u.index < s.index →
      (v.ancestors t.node.id).contains u.node.id = true ∧ u.index < t.index := by
    intro u hu hanc hus
    have hanc := (GraphView.mem_ancestors (hids s hs)).1 (List.contains_iff_mem.1 hanc)
    have hpath := ((GraphView.mem_ancestors (hids t ht)).1 hlead).2
    have hne : u.node.id ≠ t.node.id := by
      intro heq
      rw [List.inj_on_of_nodup_map v.nodup_map_id hu ht heq] at hus
      omega
    exact ⟨List.contains_iff_mem.2 ((GraphView.mem_ancestors (hids t ht)).2 ⟨hne, hanc.2.trans hpath⟩), by omega⟩
  refine List.Sublist.filterMap _ (List.Sublist.filterMap _ ?_)
  have hnarrow : (v.compile.filter fun u => (v.ancestors s.node.id).contains u.node.id &&
        isBefore ⟨v, v.compile, base⟩ s.node.id u) =
      (v.compile.filter fun u => (v.ancestors t.node.id).contains u.node.id &&
        isBefore ⟨v, v.compile, base⟩ t.node.id u).filter fun u => (v.ancestors s.node.id).contains u.node.id &&
          isBefore ⟨v, v.compile, base⟩ s.node.id u := by
    rw [List.filter_filter]
    refine List.filter_congr fun u hu => ?_
    rw [hbefore s hs, hbefore t ht, Bool.eq_iff_iff]
    simp only [Bool.and_eq_true, decide_eq_true_eq]
    exact ⟨fun h => ⟨h, himp u hu h.1 h.2⟩, fun h => h.1⟩
  exact hnarrow ▸ List.filter_sublist

theorem spentBefore_redrawn {data : Node → NodeData} {h : FlowGraph} (hgh : v.graph.Redraws data h)
    (hdata : ∀ n ∈ v.graph.nodes, n.id ∈ v.ancestors id → data n = n.data) (base : List (String × Decimal)) :
    spentBefore ⟨⟨h, v.epsilon⟩, (GraphView.mk h v.epsilon).compile, base⟩ id =
      spentBefore ⟨v, v.compile, base⟩ id := by
  have hstep : Plan.stepFor? (GraphView.mk h v.epsilon).compile id =
      (Plan.stepFor? v.compile id).map (Step.redrawn data) := by
    rw [GraphView.compile_redrawn hgh, Plan.stepFor?, List.find?_map]
    rfl
  have hbefore : ∀ u : Step, isBefore ⟨⟨h, v.epsilon⟩, (GraphView.mk h v.epsilon).compile, base⟩ id (u.redrawn data) =
      isBefore ⟨v, v.compile, base⟩ id u := by
    intro u
    rw [isBefore, isBefore, hstep]
    cases Plan.stepFor? v.compile id <;> rfl
  have hancestors : (GraphView.mk h v.epsilon).ancestors id = v.ancestors id :=
    congrFun (GraphView.ancestors_redrawn hgh v.epsilon) id
  have hfilter : (GraphView.mk h v.epsilon).compile.filter (fun s => (v.ancestors id).contains s.node.id &&
        isBefore ⟨⟨h, v.epsilon⟩, (GraphView.mk h v.epsilon).compile, base⟩ id s) =
      (v.compile.filter fun s => (v.ancestors id).contains s.node.id &&
        isBefore ⟨v, v.compile, base⟩ id s).map (Step.redrawn data) := by
    conv_lhs => rw [GraphView.compile_redrawn hgh, List.filter_map]
    congr 1
    exact List.filter_congr fun u _ => by rw [Function.comp_apply, ← GraphView.compile_redrawn hgh, hbefore]; rfl
  unfold spentBefore
  dsimp only
  rw [hancestors, hfilter, List.filterMap_map]
  refine List.filterMap_congr fun u hu => ?_
  obtain ⟨hu, hanc⟩ := List.mem_filter.1 hu
  have hnode := (GraphView.mem_emitted.1 (node_of_mem_number hu)).1
  have hsame : u.redrawn data = u := by
    have := hdata u.node hnode (List.contains_iff_mem.1 (Bool.and_eq_true_iff.1 hanc).1)
    rw [Step.redrawn, Node.redrawn, this]
  rw [Function.comp_apply, hsame]

theorem estimate_between (hbase : ∀ entry ∈ e.base, ∃ p, entry.2.value? = some p ∧ 0 ≤ p) (id asset : String) :
    e.estimate id asset = .error (Fault.ofSignal .overflow) ∨
      ∃ x p q, e.estimate id asset = .ok x ∧ (e.held asset).value? = some p ∧ x.value? = some q ∧
        0 ≤ q ∧ q ≤ Decimal.round p ∧ ((e.held asset).Fits → q ≤ p) := by
  obtain ⟨p, hp, hnonneg⟩ := exists_value_held hbase asset
  refine (estimate_cases _ hp).imp_right ?_
  rintro ⟨spent, x, hsum, hx, hvalue⟩
  have htotal := isTotal_sum isTotal_zero (fun d hd => isPositive_of_mem_spentOn hd) hsum
  have hle := remainder_le hnonneg htotal
  exact ⟨x, p, _, hx, hp, hvalue, remainder_nonneg, hle, fun h => hle.trans_eq (h.round_eq hp)⟩

theorem estimate_falls (hcreate : create v balances = .ok e)
    (hbase : ∀ entry ∈ e.base, ∃ p, entry.2.value? = some p ∧ 0 ≤ p) (hs : s ∈ v.compile) (ht : t ∈ v.compile)
    (hlead : s.node.id ∈ v.ancestors t.node.id) (hlt : s.index < t.index) {x y : Decimal}
    (hx : e.estimate s.node.id asset = .ok x) (hy : e.estimate t.node.id asset = .ok y) :
    ∃ p q, x.value? = some p ∧ y.value? = some q ∧ q ≤ p := by
  obtain ⟨base, -, rfl⟩ := create_eq_ok.1 hcreate
  obtain ⟨p, hp, -⟩ := exists_value_held hbase asset
  obtain hfails | ⟨spent, x', hspent, hx', hvalue⟩ := estimate_cases s.node.id hp
  · cases hx.symm.trans hfails
  obtain hfails | ⟨more, y', hmore, hy', hvalue'⟩ := estimate_cases t.node.id hp
  · cases hy.symm.trans hfails
  cases hx.symm.trans hx'
  cases hy.symm.trans hy'
  have hsub := spentOn_sublist hs ht hlead hlt base asset
  have hle := sum_atMost hsub (fun d hd => isPositive_of_mem_spentOn hd) isTotal_zero isTotal_zero
    isTotal_zero.atMost_self hspent hmore
  exact ⟨_, _, hvalue, hvalue', remainder_anti hle⟩

theorem estimate_redrawn (hcreate : create v balances = .ok e) {data : Node → NodeData} {h : FlowGraph}
    (hgh : v.graph.Redraws data h) (hdata : ∀ n ∈ v.graph.nodes, n.id ∈ v.ancestors id → data n = n.data) :
    ∃ e', create ⟨h, v.epsilon⟩ balances = .ok e' ∧ ∀ asset, e'.estimate id asset = e.estimate id asset := by
  obtain ⟨base, hread, rfl⟩ := create_eq_ok.1 hcreate
  refine ⟨_, create_eq_ok.2 ⟨base, hread, rfl⟩, fun asset => ?_⟩
  unfold estimate
  rw [spentBefore_redrawn hgh hdata]

/-- Unless there are too many digits, an estimate lies between nothing and the balance, which is rounded where its
digits do not fit; the estimate at a step is no larger than that at an earlier one which leads to it; and it stays what
it is when nodes that do not lead there are given other data. -/
theorem estimate_between_falls_redrawn (hcreate : create v balances = .ok e)
    (hbase : ∀ entry ∈ e.base, ∃ p, entry.2.value? = some p ∧ 0 ≤ p) :
    (∀ id asset, e.estimate id asset = .error (Fault.ofSignal .overflow) ∨
      ∃ x p q, e.estimate id asset = .ok x ∧ (e.held asset).value? = some p ∧ x.value? = some q ∧
        0 ≤ q ∧ q ≤ Decimal.round p ∧ ((e.held asset).Fits → q ≤ p)) ∧
    (∀ s ∈ v.compile, ∀ t ∈ v.compile, s.node.id ∈ v.ancestors t.node.id → s.index < t.index →
      ∀ asset x y, e.estimate s.node.id asset = .ok x → e.estimate t.node.id asset = .ok y →
        ∃ p q, x.value? = some p ∧ y.value? = some q ∧ q ≤ p) ∧
    (∀ id data h, v.graph.Redraws data h → (∀ n ∈ v.graph.nodes, n.id ∈ v.ancestors id → data n = n.data) →
      ∃ e', create ⟨h, v.epsilon⟩ balances = .ok e' ∧ ∀ asset, e'.estimate id asset = e.estimate id asset) := by
  refine ⟨estimate_between hbase, fun s hs t ht hlead hlt asset x y hx hy => ?_, fun id data h hgh hdata => ?_⟩
  · exact estimate_falls hcreate hbase hs ht hlead hlt hx hy
  · exact estimate_redrawn hcreate hgh hdata

end

def loopNodes (second : Decimal) : List Node := [
  ⟨"wallet", ⟨⟨0, false⟩, ⟨0, false⟩⟩, .wallet ⟨none⟩⟩,
  ⟨"first", ⟨⟨0, false⟩, ⟨100, false⟩⟩, .transfer ⟨none, some 1, "SUI"⟩⟩,
  ⟨"second", ⟨⟨0, false⟩, ⟨200, false⟩⟩, .transfer ⟨none, some second, "SUI"⟩⟩]

def loopEdges : List Edge := [⟨"e1", "wallet", "first"⟩, ⟨"e2", "first", "second"⟩, ⟨"e3", "second", "first"⟩]

def loop : GraphView := ⟨⟨loopNodes 2, loopEdges, [], by decide +kernel⟩, .float 50⟩

def largerLoop : FlowGraph := ⟨loopNodes 5, loopEdges, [], by decide +kernel⟩

def larger (n : Node) : NodeData :=
  match n.data with
  | .transfer d => if n.id = "second" then .transfer { d with amount := some 5 } else .transfer d
  | data => data

theorem redraws_largerLoop : loop.graph.Redraws larger largerLoop where
  nodes := rfl
  edges := rfl
  kind n := by
    unfold larger Node.kindName
    split
    · next d hd =>
      rw [hd]
      split <;> rfl
    · rfl

def tenCoins : BalanceEstimator := ⟨loop, number 0 ((loopNodes 2).drop 1), [("SUI", .finite false 10 0)]⟩

theorem create_loop : create loop [("SUI", .string "10")] = .ok tenCoins := by
  have hcompile : loop.compile = number 0 ((loopNodes 2).drop 1) := GraphView.compile_of_isRow (by decide +kernel)
  rw [tenCoins, ← hcompile]
  exact create_of_text (by decide +kernel) (by decide +kernel)

theorem ancestors_second : loop.ancestors "second" = ["first", "wallet"] := by
  have hfirst : loop.graph.sources "first" = ["wallet", "second"] := by decide +kernel
  have hwallet : loop.graph.sources "wallet" = [] := by decide +kernel
  have hsecond : loop.graph.sources "second" = ["first"] := by decide +kernel
  have hwalk : Traversal.preorder loop.graph.sources loop.graph.ids [] ["first"] = ["first", "wallet", "second"] := by
    rw [Traversal.preorder_of_notMem (by decide +kernel) (by decide), hfirst]
    refine (Traversal.preorder_of_notMem (by decide +kernel) (by decide)).trans ?_
    rw [hwallet]
    refine (Traversal.preorder_of_notMem (by decide +kernel) (by decide)).trans ?_
    rw [hsecond]
    exact Traversal.preorder.eq_1 _ _ _
  rw [GraphView.ancestors, Traversal.reachable, hsecond, hwalk]
  decide

theorem estimate_tenCoins : tenCoins.estimate "first" "SUI" = .ok (.finite false 10 0) ∧
    tenCoins.estimate "second" "SUI" = .ok (.finite false 9 0) := by
  have hfirst : tenCoins.spentOn "first" "SUI" = [] := by
    have hlater : ∀ s ∈ tenCoins.steps, tenCoins.isBefore "first" s = false := by decide +kernel
    have hnone : tenCoins.steps.filter (fun s => (tenCoins.view.ancestors "first").contains s.node.id &&
        tenCoins.isBefore "first" s) = [] :=
      List.filter_eq_nil_iff.2 fun s hs => by rw [hlater s hs, Bool.and_false]; exact Bool.false_ne_true
    rw [spentOn, spentBefore, hnone]
    rfl
  have hsecond : tenCoins.spentOn "second" "SUI" = [1] := by
    have hancestors : tenCoins.view.ancestors "second" = ["first", "wallet"] := ancestors_second
    rw [spentOn, spentBefore, hancestors]
    decide +kernel
  constructor
  · exact estimate_eq_ok.2 ⟨0, by rw [hfirst]; rfl, .finite false 10 0, by decide +kernel, by decide +kernel⟩
  · have hadd : (0 : Decimal).add 1 = .ok 1 := by decide +kernel
    have hsum : sum 0 [1] = .ok 1 := by
      rw [sum, hadd]
      rfl
    exact estimate_eq_ok.2 ⟨1, hsecond ▸ hsum, .finite false 9 0, by decide +kernel, by decide +kernel⟩

theorem estimate_between_falls_redrawn_loop :
    create loop [("SUI", .string "10")] = .ok tenCoins ∧
      (∀ entry ∈ tenCoins.base, ∃ p, entry.2.value? = some p ∧ 0 ≤ p) ∧
      tenCoins.estimate "first" "SUI" = .ok (.finite false 10 0) ∧
      tenCoins.estimate "second" "SUI" = .ok (.finite false 9 0) ∧
      (∃ p q, (tenCoins.held "SUI").value? = some p ∧ (Decimal.finite false 9 0).value? = some q ∧
        0 ≤ q ∧ q ≤ Decimal.round p ∧ ((tenCoins.held "SUI").Fits → q ≤ p)) ∧
      (∃ p q, (Decimal.finite false 10 0).value? = some p ∧ (Decimal.finite false 9 0).value? = some q ∧ q ≤ p) ∧
      ∃ e, create ⟨largerLoop, loop.epsilon⟩ [("SUI", .string "10")] = .ok e ∧
        e.estimate "second" "SUI" = .ok (.finite false 9 0) := by
  have hbase : ∀ entry ∈ tenCoins.base, ∃ p, entry.2.value? = some p ∧ 0 ≤ p := by
    intro entry hentry
    rw [List.mem_singleton.1 hentry]
    exact ⟨10 * 10 ^ (0 : ℤ), rfl, by norm_num⟩
  obtain ⟨hfirst, hsecond⟩ := estimate_tenCoins
  obtain ⟨hbetween, hfalls, hredrawn⟩ := estimate_between_falls_redrawn create_loop hbase
  have hbounds : ∃ p q, (tenCoins.held "SUI").value? = some p ∧ (Decimal.finite false 9 0).value? = some q ∧
      0 ≤ q ∧ q ≤ Decimal.round p ∧ ((tenCoins.held "SUI").Fits → q ≤ p) := by
    obtain hfails | ⟨x, p, q, hx, hp, hq, hrest⟩ := hbetween "second" "SUI"
    · cases hsecond.symm.trans hfails
    · cases hsecond.symm.trans hx
      exact ⟨p, q, hp, hq, hrest⟩
  have hlead : "first" ∈ loop.ancestors "second" := by
    rw [ancestors_second]
    exact .head _
  have hsteps : loop.compile = number 0 ((loopNodes 2).drop 1) := GraphView.compile_of_isRow (by decide +kernel)
  have hmonotone := hfalls ⟨0, ⟨"first", ⟨⟨0, false⟩, ⟨100, false⟩⟩, .transfer ⟨none, some 1, "SUI"⟩⟩, false⟩
    (hsteps ▸ .head _) ⟨1, ⟨"second", ⟨⟨0, false⟩, ⟨200, false⟩⟩, .transfer ⟨none, some 2, "SUI"⟩⟩, false⟩
    (hsteps ▸ .tail _ (.head _)) hlead (by decide) "SUI" _ _ hfirst hsecond
  have hkept : ∀ n ∈ loop.graph.nodes, n.id ∈ loop.ancestors "second" → larger n = n.data := by
    rw [ancestors_second]
    exact List.forall_mem_cons.2 ⟨fun _ => rfl, List.forall_mem_cons.2 ⟨fun _ => rfl,
      List.forall_mem_singleton.2 fun h => absurd h (by decide)⟩⟩
  obtain ⟨e, he, hsame⟩ := hredrawn "second" larger largerLoop redraws_largerLoop hkept
  exact ⟨create_loop, hbase, hfirst, hsecond, hbounds, hmonotone, e, he, (hsame "SUI").trans hsecond⟩

def lone : GraphView where
  graph := ⟨[⟨"wallet", ⟨⟨0, false⟩, ⟨0, false⟩⟩, .wallet ⟨none⟩⟩], [], [], by decide +kernel⟩
  epsilon := .float 50

theorem compile_lone : lone.compile = [] := by
  rw [GraphView.compile_of_isRow (by decide +kernel)]
  rfl

/-- A balance whose only digit lies below the least exponent is rounded up, to more than there is. -/
theorem estimate_above_balance :
    ∃ e x, create lone [("SUI", .string "6E-1000027")] = .ok e ∧ e.held "SUI" = .finite false 6 (-1000027) ∧
      e.estimate "wallet" "SUI" = .ok x ∧ x.order? (e.held "SUI") = some .gt := by
  have hheld : held ⟨lone, lone.compile, [("SUI", .finite false 6 (-1000027))]⟩ "SUI" = .finite false 6 (-1000027) := by
    decide +kernel
  have hspent : spentOn ⟨lone, lone.compile, [("SUI", .finite false 6 (-1000027))]⟩ "wallet" "SUI" = [] := by
    rw [compile_lone]
    rfl
  refine ⟨_, .finite false 1 (-1000026), create_of_text (by decide +kernel) (by decide +kernel), hheld,
    estimate_eq_ok.2 ⟨0, ?_, ?_⟩, ?_⟩
  · rw [hspent]
    rfl
  · rw [hheld]
    exact ⟨.finite false 1 (-1000026), by decide +kernel, by decide +kernel⟩
  · rw [hheld]
    decide +kernel

end BalanceEstimator

end LedgerFlow
