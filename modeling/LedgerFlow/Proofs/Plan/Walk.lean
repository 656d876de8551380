import LedgerFlow.Plan
import LedgerFlow.Proofs.Graph.Reachability

/-!
The recursive walk from the wallet. It comes to an end on every graph, and it emits the nodes of the plan's steps, in
their order: what the explicit stack holds twice or too late makes no difference.
-/

namespace LedgerFlow

open Traversal (Search)

def Node.emission (n : Node) : List Node := if n.isPassthrough then [] else [n]

namespace GraphView

/-- The recursive walk along a list of nodes, from the ids visited before it to those visited after it, with the
nodes that it emits. A node is visited the first time that it is reached: it is emitted, unless it only routes the walk,
and its successors are walked before the nodes that come after it. -/
inductive Walks (v : GraphView) : List String → List Node → List String → List Node → Prop
  | done {visited : List String} : Walks v visited [] visited []
  | seen {visited final : List String} {n : Node} {rest out : List Node} (h : n.id ∈ visited)
      (after : Walks v visited rest final out) : Walks v visited (n :: rest) final out
  | visit {visited below final : List String} {n : Node} {rest inner outer : List Node} (h : n.id ∉ visited)
      (inside : Walks v (n.id :: visited) (v.successors n.id) below inner)
      (after : Walks v below rest final outer) :
      Walks v visited (n :: rest) final (n.emission ++ (inner ++ outer))

variable {v : GraphView} {visited final : List String} {n : Node} {ns rest out : List Node}

theorem walks_nil : v.Walks visited [] final out ↔ final = visited ∧ out = [] := by
  constructor
  · intro h
    cases h
    exact ⟨rfl, rfl⟩
  · rintro ⟨rfl, rfl⟩
    exact .done

theorem walks_seen (h : n.id ∈ visited) : v.Walks visited (n :: rest) final out ↔ v.Walks visited rest final out := by
  constructor
  · intro hw
    cases hw with
    | seen _ after => exact after
    | visit hn _ _ => exact absurd h hn
  · exact .seen h

theorem walks_visit (h : n.id ∉ visited) :
    v.Walks visited (n :: rest) final out ↔
      ∃ below inner outer, v.Walks (n.id :: visited) (v.successors n.id) below inner ∧
        v.Walks below rest final outer ∧ out = n.emission ++ (inner ++ outer) := by
  constructor
  · intro hw
    cases hw with
    | seen hn _ => exact absurd hn h
    | visit _ inside after => exact ⟨_, _, _, inside, after, rfl⟩
  · rintro ⟨below, inner, outer, inside, after, rfl⟩
    exact .visit h inside after

theorem Walks.subset (h : v.Walks visited ns final out) : visited ⊆ final := by
  induction h with
  | done => exact List.Subset.refl _
  | seen _ _ ih => exact ih
  | visit _ _ _ inside after => exact fun _ ha => after (inside (.tail _ ha))

theorem walks_append {ms : List Node} :
    v.Walks visited (ns ++ ms) final out ↔
      ∃ between first second, v.Walks visited ns between first ∧ v.Walks between ms final second ∧
        out = first ++ second := by
  induction ns generalizing visited out with
  | nil => simp [walks_nil]
  | cons n ns ih =>
    by_cases h : n.id ∈ visited
    · simp only [List.cons_append, walks_seen h, ih]
    · simp only [List.cons_append, walks_visit h, ih]
      constructor
      · rintro ⟨below, inner, _, inside, ⟨between, first, second, hns, hms, rfl⟩, rfl⟩
        exact ⟨between, _, second, ⟨below, inner, first, inside, hns, rfl⟩, hms, by simp⟩
      · rintro ⟨between, _, second, ⟨below, inner, first, inside, hns, rfl⟩, hms, rfl⟩
        exact ⟨below, inner, _, inside, ⟨between, first, second, hns, hms, rfl⟩, by simp⟩

theorem walks_filter {hidden : List String} (hh : hidden ⊆ visited) :
    v.Walks visited (ns.filter fun n => !hidden.contains n.id) final out ↔ v.Walks visited ns final out := by
  induction ns generalizing visited out with
  | nil => rfl
  | cons n ns ih =>
    by_cases hn : n.id ∈ hidden
    · rw [List.filter_cons_of_neg (by simpa using hn), ih hh, walks_seen (hh hn)]
    · rw [List.filter_cons_of_pos (by simpa using hn)]
      by_cases h : n.id ∈ visited
      · simp only [walks_seen h, ih hh]
      · simp only [walks_visit h]
        refine exists_congr fun below => exists_congr fun inner => exists_congr fun outer => ?_
        refine and_congr_right fun inside => ?_
        rw [ih fun id hid => inside.subset (.tail _ (hh hid))]

theorem Walks.unique {final' : List String} {out' : List Node} (h : v.Walks visited ns final out)
    (h' : v.Walks visited ns final' out') : final' = final ∧ out' = out := by
  induction h generalizing final' out' with
  | done => exact walks_nil.1 h'
  | seen hn _ ih => exact ih ((walks_seen hn).1 h')
  | visit hn _ _ inside after =>
    obtain ⟨below, inner, outer, hi, ha, rfl⟩ := (walks_visit hn).1 h'
    obtain ⟨rfl, rfl⟩ := inside hi
    obtain ⟨rfl, rfl⟩ := after ha
    exact ⟨rfl, rfl⟩

/-- The loop simulates the recursion: from where it ends, the walk of what was on its stack is read off turn by turn. -/
theorem walks_of_turns {s : Search String} (h : Search.Turns v.next s ⟨final, []⟩) (hs : ns.map (·.id) = s.stack) :
    ∃ out, v.Walks s.visited ns final out := by
  induction h using Relation.ReflTransGen.head_induction_on generalizing ns with
  | refl =>
    obtain rfl := List.map_eq_nil_iff.1 hs
    exact ⟨[], .done⟩
  | head turn _ ih =>
    cases turn with
    | @seen visited stack a ha =>
      obtain ⟨n, rest, rfl, rfl, hrest⟩ := List.map_eq_cons_iff.1 hs
      obtain ⟨out, hw⟩ := ih hrest
      exact ⟨out, .seen ha hw⟩
    | @fresh visited stack a ha =>
      obtain ⟨n, rest, rfl, rfl, hrest⟩ := List.map_eq_cons_iff.1 hs
      have hstack : ((v.successors n.id).filter (fun m => !(n.id :: visited).contains m.id) ++ rest).map (·.id) =
          ((v.next n.id).filter fun b => !(n.id :: visited).contains b) ++ stack := by
        rw [List.map_append, hrest, next, List.filter_map]
        rfl
      obtain ⟨out, hw⟩ := ih hstack
      obtain ⟨below, inner, outer, inside, after, -⟩ := walks_append.1 hw
      exact ⟨_, .visit ha ((walks_filter (List.Subset.refl _)).1 inside) after⟩

def emittedOf (v : GraphView) (ids : List String) : List Node :=
  (ids.filterMap v.node?).filter fun n => !n.isPassthrough

theorem emittedOf_append (ids more : List String) :
    v.emittedOf (ids ++ more) = v.emittedOf ids ++ v.emittedOf more := by
  simp [emittedOf]

theorem emittedOf_cons (hn : n ∈ v.graph.nodes) (ids : List String) :
    v.emittedOf (n.id :: ids) = n.emission ++ v.emittedOf ids := by
  have hnode : v.node? n.id = some n := FlowGraph.node?_eq_some.2 ⟨hn, rfl⟩
  rw [emittedOf, List.filterMap_cons_some hnode, List.filter_cons, Node.emission]
  cases n.isPassthrough <;> rfl

theorem emittedOf_map (hns : ∀ n ∈ ns, n ∈ v.graph.nodes) :
    v.emittedOf (ns.map (·.id)) = ns.filter fun n => !n.isPassthrough := by
  have hnodes : (ns.map (·.id)).filterMap v.node? = ns := by
    rw [List.filterMap_map]
    exact (List.filterMap_congr fun n hn => FlowGraph.node?_eq_some.2 ⟨hns n hn, rfl⟩).trans List.filterMap_some
  rw [emittedOf, hnodes]

theorem compile_of_isRow (h : v.isRow = true) :
    v.compile = number 0 (v.graph.nodes.filter fun n => !n.isPassthrough) := by
  rw [compile, emitted, walk_of_isRow h]
  exact congrArg (number 0) (emittedOf_map fun _ hn => hn)

theorem Walks.emitted (h : v.Walks visited ns final out) (hns : ∀ n ∈ ns, n ∈ v.graph.nodes) :
    ∃ ids, final = ids.reverse ++ visited ∧ out = v.emittedOf ids := by
  induction h with
  | done => exact ⟨[], rfl, rfl⟩
  | seen _ _ ih => exact ih fun m hm => hns m (.tail _ hm)
  | @visit _ _ _ n _ _ _ _ _ _ inside after =>
    obtain ⟨ids, rfl, rfl⟩ := inside fun m hm => (mem_successors.1 hm).1
    obtain ⟨more, rfl, rfl⟩ := after fun m hm => hns m (.tail _ hm)
    refine ⟨n.id :: (ids ++ more), by simp, ?_⟩
    rw [emittedOf_cons (hns n List.mem_cons_self), emittedOf_append]

theorem turns_walk (v : GraphView) : Search.Turns v.next ⟨[], [v.root.id]⟩ ⟨v.walk.reverse, []⟩ :=
  Traversal.turns_preorder v.closed_next v.root_mem_ids

theorem map_node_compile (v : GraphView) : v.compile.map (·.node) = v.emitted := map_node_number 0 v.emitted

/-- The recursive walk from the wallet ends, and the plan has just the nodes that it emits, in its order. -/
theorem walks_root_iff (v : GraphView) (out : List Node) :
    (∃ final, v.Walks [] [v.root] final out) ↔ v.compile.map (·.node) = out := by
  have hroot : ∀ n ∈ [v.root], n ∈ v.graph.nodes := by
    intro n hn
    rw [List.mem_singleton.1 hn]
    exact v.graph.root_mem
  obtain ⟨emitted, hw⟩ : ∃ emitted, v.Walks [] [v.root] v.walk.reverse emitted := walks_of_turns v.turns_walk rfl
  have he : emitted = v.emitted := by
    obtain ⟨ids, hids, rfl⟩ := hw.emitted hroot
    rw [List.append_nil, List.reverse_inj] at hids
    rw [← hids]
    rfl
  subst he
  rw [map_node_compile]
  constructor
  · rintro ⟨final, h⟩
    exact (h.unique hw).2
  · rintro rfl
    exact ⟨_, hw⟩

end GraphView

end LedgerFlow
