import LedgerFlow.Proofs.Plan.Walk
import Mathlib.Data.Set.Function
import Mathlib.Order.Interval.Set.Defs

namespace LedgerFlow

open Traversal (Search)

variable {start : Nat} {ns ms : List Node} {s t : Step}

theorem number_append : number start (ns ++ ms) = number start ns ++ number (start + ns.length) ms := by
  induction ns generalizing start with
  | nil => rfl
  | cons n ns ih => simp [number, ih, Nat.add_assoc, Nat.add_comm 1]

theorem map_index_number : (number start ns).map (·.index) = List.range' start ns.length := by
  induction ns generalizing start with
  | nil => rfl
  | cons n ns ih => simp [number, ih, List.range'_succ]

theorem index_of_mem_number (h : s ∈ number start ns) : start ≤ s.index ∧ s.index < start + ns.length := by
  have hi : s.index ∈ (number start ns).map (·.index) := List.mem_map_of_mem h
  rw [map_index_number, List.mem_range'_1] at hi
  exact hi

theorem node_of_mem_number (h : s ∈ number start ns) : s.node ∈ ns := by
  have hn : s.node ∈ (number start ns).map (·.node) := List.mem_map_of_mem h
  rwa [map_node_number] at hn

theorem skipped_of_mem_number (h : s ∈ number start ns) : s.skipped = false := by
  induction ns generalizing start with
  | nil => cases h
  | cons n ns ih =>
    cases h with
    | head => rfl
    | tail _ h => exact ih h

namespace GraphView

variable {v : GraphView} {n : Node}

theorem mem_emittedOf {ids : List String} :
    n ∈ v.emittedOf ids ↔ n ∈ v.graph.nodes ∧ n.id ∈ ids ∧ n.isPassthrough = false := by
  simp only [emittedOf, List.mem_filter, List.mem_filterMap, Bool.not_eq_true']
  constructor
  · rintro ⟨⟨id, hid, hn⟩, hp⟩
    obtain ⟨hmem, rfl⟩ := FlowGraph.node?_eq_some.1 hn
    exact ⟨hmem, hid, hp⟩
  · rintro ⟨hmem, hid, hp⟩
    exact ⟨⟨n.id, hid, FlowGraph.node?_eq_some.2 ⟨hmem, rfl⟩⟩, hp⟩

theorem mem_emitted :
    n ∈ v.emitted ↔
      n ∈ v.graph.nodes ∧ n.isPassthrough = false ∧ Relation.ReflTransGen v.graph.Leads v.root.id n.id := by
  have h : n ∈ v.emitted ↔ n ∈ v.emittedOf v.walk := Iff.rfl
  rw [h, mem_emittedOf, mem_walk, and_comm (a := Relation.ReflTransGen _ _ _)]

theorem nodup_emitted (v : GraphView) : v.emitted.Nodup := by
  apply List.Nodup.filter
  apply List.Nodup.filterMap _ v.nodup_walk
  intro a b n ha hb
  rw [← (FlowGraph.node?_eq_some.1 ha).2, ← (FlowGraph.node?_eq_some.1 hb).2]

theorem nodup_map_id (v : GraphView) : (v.compile.map (·.node.id)).Nodup := by
  have h : v.compile.map (·.node.id) = v.emitted.map (·.id) := by
    rw [← map_node_compile, List.map_map]
    rfl
  rw [h]
  apply List.Nodup.map_on _ v.nodup_emitted
  intro m hm n hn hid
  exact List.inj_on_of_nodup_map v.graph.nodup_ids (mem_emitted.1 hm).1 (mem_emitted.1 hn).1 hid

theorem map_index_compile (v : GraphView) : v.compile.map (·.index) = List.range v.compile.length := by
  rw [compile, map_index_number, length_number, List.range_eq_range']

theorem index_lt_index {before after : List String} (hw : v.walk = before ++ s.node.id :: after) (hs : s ∈ v.compile)
    (ht : t ∈ v.compile) (hb : t.node.id ∈ before) : t.index < s.index := by
  have hsplit : v.compile = number 0 (v.emittedOf before) ++
      number (0 + (v.emittedOf before).length) (v.emittedOf (s.node.id :: after)) := by
    rw [← number_append, ← emittedOf_append, ← hw]
    rfl
  have hnodup := v.nodup_walk
  rw [hw] at hnodup
  have apart := (List.nodup_append.1 hnodup).2.2
  rw [hsplit] at hs ht
  have ht : t ∈ number 0 (v.emittedOf before) := by
    refine (List.mem_append.1 ht).resolve_right fun h => ?_
    exact apart _ hb _ (mem_emittedOf.1 (node_of_mem_number h)).2.1 rfl
  have hs : s ∈ number (0 + (v.emittedOf before).length) (v.emittedOf (s.node.id :: after)) := by
    refine (List.mem_append.1 hs).resolve_left fun h => ?_
    exact apart _ (mem_emittedOf.1 (node_of_mem_number h)).2.1 _ List.mem_cons_self rfl
  exact Nat.lt_of_lt_of_le (index_of_mem_number ht).2 (index_of_mem_number hs).1

structure Lists (v : GraphView) (steps : List Step) : Prop where
  complete : ∀ n, (∃ s ∈ steps, s.node = n) ↔
    n ∈ v.graph.nodes ∧ n.isPassthrough = false ∧ Relation.ReflTransGen v.graph.Leads v.root.id n.id
  once : (steps.map (·.node.id)).Nodup
  numbered : steps.map (·.index) = List.range steps.length
  unskipped : ∀ s ∈ steps, s.skipped = false
  path : ∀ s ∈ steps, ∃ path, List.IsChain v.graph.Leads (path ++ [s.node.id]) ∧
    (path ++ [s.node.id]).head? = some v.root.id ∧ ∀ t ∈ steps, t.node.id ∈ path → t.index < s.index

theorem path_compile (hs : s ∈ v.compile) :
    ∃ path, List.IsChain v.graph.Leads (path ++ [s.node.id]) ∧ (path ++ [s.node.id]).head? = some v.root.id ∧
      ∀ t ∈ v.compile, t.node.id ∈ path → t.index < s.index := by
  have hwalk : s.node.id ∈ v.walk := mem_walk.2 (mem_emitted.1 (node_of_mem_number hs)).2.2
  obtain ⟨before, after, hw⟩ := List.append_of_mem hwalk
  obtain ⟨path, hchain, ⟨root, hroot, hhead⟩, hpath⟩ :=
    (Traversal.traced_preorder v.closed_next v.root_mem_ids).path before after hw
  rw [List.mem_singleton.1 hroot] at hhead
  refine ⟨path, hchain.imp fun _ _ => mem_next.1, hhead, fun t ht hid => ?_⟩
  exact index_lt_index hw hs ht (hpath _ hid)

theorem lists_compile (v : GraphView) : v.Lists v.compile where
  complete n := by
    rw [← mem_emitted, ← map_node_compile, List.mem_map]
  once := v.nodup_map_id
  numbered := v.map_index_compile
  unskipped _ hs := skipped_of_mem_number hs
  path _ hs := path_compile hs

end GraphView

namespace Plan

variable {steps : List Step} {id : String} {k : Nat}

theorem lookup_sequenceMap : (sequenceMap steps).lookup id = (stepFor? steps id).map (·.index + 1) := by
  induction steps with
  | nil => rfl
  | cons s rest ih =>
    by_cases h : s.node.id = id
    · simp [sequenceMap, stepFor?, h]
    · have hne : (id == s.node.id) = false := by simpa using Ne.symm h
      simpa [sequenceMap, stepFor?, List.lookup_cons, h, hne] using ih

theorem stepFor?_eq_some (hn : (steps.map (·.node.id)).Nodup) :
    stepFor? steps id = some s ↔ s ∈ steps ∧ s.node.id = id :=
  find?_key_eq_some hn

theorem lookup_sequenceMap_eq_some (hn : (steps.map (·.node.id)).Nodup) :
    (sequenceMap steps).lookup id = some k ↔ ∃ s ∈ steps, s.node.id = id ∧ s.index + 1 = k := by
  simp only [lookup_sequenceMap, Option.map_eq_some_iff, stepFor?_eq_some hn, and_assoc]

theorem bijOn_sequenceMap (hn : (steps.map (·.node.id)).Nodup) (hi : steps.map (·.index) = List.range steps.length) :
    Set.BijOn (fun id => ((sequenceMap steps).lookup id).getD 0) {id | id ∈ steps.map (·.node.id)}
      (Set.Icc 1 steps.length) := by
  have value : ∀ s ∈ steps, ((sequenceMap steps).lookup s.node.id).getD 0 = s.index + 1 := by
    intro s hs
    rw [(lookup_sequenceMap_eq_some hn).2 ⟨s, hs, rfl, rfl⟩, Option.getD_some]
  have hindex : ∀ i, (∃ s ∈ steps, s.index = i) ↔ i < steps.length := by
    intro i
    rw [← List.mem_range, ← hi, List.mem_map]
  refine ⟨?_, ?_, ?_⟩
  · intro id hid
    obtain ⟨s, hs, rfl⟩ := List.mem_map.1 hid
    have hlt := (hindex s.index).1 ⟨s, hs, rfl⟩
    simp only [value s hs, Set.mem_Icc]
    omega
  · intro a ha b hb hab
    obtain ⟨s, hs, rfl⟩ := List.mem_map.1 ha
    obtain ⟨t, ht, rfl⟩ := List.mem_map.1 hb
    simp only [value s hs, value t ht, Nat.add_right_cancel_iff] at hab
    have hnodup : (steps.map (·.index)).Nodup := hi ▸ List.nodup_range
    rw [List.inj_on_of_nodup_map hnodup hs ht hab]
  · intro k hk
    obtain ⟨s, hs, hsk⟩ := (hindex (k - 1)).2 (by have := hk.1; have := hk.2; omega)
    refine ⟨s.node.id, List.mem_map.2 ⟨s, hs, rfl⟩, ?_⟩
    simp only [value s hs, hsk]
    have := hk.1
    omega

end Plan

namespace GraphView

/-- The loop ends on every graph and finds every node that it looks up; its steps list what the wallet leads to, and
their numbers, counted from one, go with their nodes one to one. -/
theorem compile_lists (v : GraphView) :
    Search.Turns v.next ⟨[], [v.root.id]⟩ ⟨v.walk.reverse, []⟩ ∧
    (∀ id ∈ v.walk, (v.node? id).isSome = true ∧ ∀ b ∈ v.graph.targets id, (v.node? b).isSome = true) ∧
    v.Lists v.compile ∧
    (∀ id, ((Plan.sequenceMap v.compile).lookup id).isSome = true ↔ id ∈ v.compile.map (·.node.id)) ∧
    Set.BijOn (fun id => ((Plan.sequenceMap v.compile).lookup id).getD 0) {id | id ∈ v.compile.map (·.node.id)}
      (Set.Icc 1 v.compile.length) := by
  refine ⟨v.turns_walk, fun id hid => ⟨?_, fun b hb => ?_⟩, v.lists_compile, fun id => ?_, ?_⟩
  · exact FlowGraph.isSome_node?.2 (mem_ids_of_mem_walk hid)
  · exact FlowGraph.isSome_node?.2 (FlowGraph.mem_ids_of_leads (FlowGraph.mem_targets.1 hb)).2
  · simp [Option.isSome_iff_exists, Plan.lookup_sequenceMap_eq_some v.nodup_map_id]
  · exact Plan.bijOn_sequenceMap v.nodup_map_id v.map_index_compile

end GraphView

end LedgerFlow
