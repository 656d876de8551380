import LedgerFlow.Proofs.Graph.Reachability

namespace LedgerFlow

namespace Traversal

variable {α : Type} [DecidableEq α]

def follow (arcs : List (α × α)) (a : α) : List α := (arcs.filter (·.1 = a)).map (·.2)

theorem mem_follow {arcs : List (α × α)} {a b : α} : b ∈ follow arcs a ↔ (a, b) ∈ arcs := by
  simp [follow]

namespace Search

/-- What was visited before is dropped; else its targets go on the stack, also those that were visited. -/
def turn (next : α → List α) (s : Search α) : Search α :=
  match s.stack.getLast? with
  | none => s
  | some a =>
    if a ∈ s.visited then ⟨s.visited, s.stack.dropLast⟩
    else ⟨a :: s.visited, s.stack.dropLast ++ next a⟩

variable {next : α → List α} {start visited rest : List α} {arcs : List (α × α)} {a : α} {s : Search α}

theorem turn_seen (ha : a ∈ visited) : turn next ⟨visited, rest ++ [a]⟩ = ⟨visited, rest⟩ := by
  simp [turn, ha]

theorem turn_fresh (ha : a ∉ visited) : turn next ⟨visited, rest ++ [a]⟩ = ⟨a :: visited, rest ++ next a⟩ := by
  simp [turn, ha]

theorem Sound.turn (hs : Sound next start s) : Sound next start (s.turn next) := by
  obtain ⟨visited, stack⟩ := s
  obtain rfl | ⟨rest, a, rfl⟩ := List.eq_nil_or_concat' stack
  · exact hs
  · have hstack : ∀ b, b ∈ rest ++ [a] ↔ b = a ∨ b ∈ rest := fun b => by simp [or_comm]
    by_cases ha : a ∈ visited
    · rw [turn_seen ha]
      exact hs.seen ha hstack
    · rw [turn_fresh ha]
      refine hs.fresh ha hstack ?_ ?_ ?_
      · exact fun b hb => (List.mem_append.1 hb).symm
      · exact fun b hb => List.mem_append_left _ hb
      · exact fun b hb => .inr (List.mem_append_right _ hb)

theorem Sound.turns (turns : ℕ) (hs : Sound next start s) : Sound next start ((Search.turn next)^[turns] s) := by
  induction turns generalizing s with
  | zero => exact hs
  | succ turns ih => exact ih hs.turn

def load (arcs : List (α × α)) (s : Search α) : ℕ :=
  s.stack.length + (arcs.filter (·.1 ∉ s.visited)).length

theorem load_start (arcs : List (α × α)) (start : List α) : load arcs ⟨[], start⟩ = start.length + arcs.length := by
  simp [load]

theorem length_follow (arcs : List (α × α)) (ha : a ∉ visited) :
    (follow arcs a).length + (arcs.filter (·.1 ∉ a :: visited)).length = (arcs.filter (·.1 ∉ visited)).length := by
  simp only [follow, List.length_map, ← List.countP_eq_length_filter]
  induction arcs with
  | nil => rfl
  | cons arc arcs ih =>
    simp only [List.countP_cons, List.mem_cons, not_or, decide_eq_true_eq] at ih ⊢
    by_cases hfrom : arc.1 = a
    · simp only [hfrom, ha, not_true_eq_false, not_false_eq_true, false_and, if_true, if_false]
      omega
    · simp only [hfrom, not_false_eq_true, true_and, if_false]
      omega

theorem load_turn (arcs : List (α × α)) (h : s.stack ≠ []) : load arcs (s.turn (follow arcs)) + 1 = load arcs s := by
  obtain ⟨visited, stack⟩ := s
  obtain rfl | ⟨rest, a, rfl⟩ := List.eq_nil_or_concat' stack
  · exact absurd rfl h
  · by_cases ha : a ∈ visited
    · rw [turn_seen ha]
      simp only [load, List.length_append, List.length_singleton]
      omega
    · have hfollow := length_follow arcs ha
      rw [turn_fresh ha]
      simp only [load, List.length_append, List.length_singleton]
      omega

theorem stack_of_load {turns : ℕ} (h : load arcs s ≤ turns) : ((Search.turn (follow arcs))^[turns] s).stack = [] := by
  induction turns generalizing s with
  | zero =>
    have hlength : s.stack.length = 0 := by
      unfold load at h
      omega
    exact List.eq_nil_of_length_eq_zero hlength
  | succ turns ih =>
    by_cases hstack : s.stack = []
    · have hturn : s.turn (follow arcs) = s := by simp [Search.turn, hstack]
      rwa [Function.iterate_fixed hturn]
    · have hload := load_turn arcs hstack
      exact ih (by omega)

theorem exists_seen (arcs : List (α × α)) (a : α) :
    ∃ seen, (Search.turn (follow arcs))^[(follow arcs a).length + arcs.length] ⟨[], follow arcs a⟩ = ⟨seen, []⟩ ∧
      seen.Nodup ∧ ∀ b, b ∈ seen ↔ Relation.TransGen (fun x y => (x, y) ∈ arcs) a b := by
  have hstack := stack_of_load (load_start arcs (follow arcs a)).le
  have sound : Sound (follow arcs) (follow arcs a) _ :=
    Search.sound_start.turns ((follow arcs a).length + arcs.length)
  generalize (Search.turn (follow arcs))^[(follow arcs a).length + arcs.length] ⟨[], follow arcs a⟩ = s
    at hstack sound ⊢
  obtain ⟨seen, stack⟩ := s
  obtain rfl : stack = [] := hstack
  refine ⟨seen, rfl, sound.nodup, fun b => ?_⟩
  rw [sound.mem_visited_iff, Relation.TransGen.head'_iff]
  simp only [mem_follow]

end Search

end Traversal

namespace FlowGraph

variable (g : FlowGraph) {a b : String}

/-- One arc for each edge, also for a second one between the same nodes. -/
def outgoing : List (String × String) := g.edges.map fun e => (e.source, e.target)

def incoming : List (String × String) := g.edges.map fun e => (e.target, e.source)

variable {g}

theorem mem_outgoing : (a, b) ∈ g.outgoing ↔ g.Leads a b := by
  simp [outgoing, Leads]

theorem mem_incoming : (a, b) ∈ g.incoming ↔ g.Leads b a := by
  simp [incoming, Leads, and_comm]

theorem mem_ids_of_transGen (h : Relation.TransGen g.Leads a b) : a ∈ g.ids ∧ b ∈ g.ids := by
  obtain ⟨c, hac, -⟩ := Relation.TransGen.head'_iff.1 h
  obtain ⟨d, -, hdb⟩ := Relation.TransGen.tail'_iff.1 h
  exact ⟨(mem_ids_of_leads hac).1, (mem_ids_of_leads hdb).2⟩

theorem targets_of_notMem (ha : a ∉ g.ids) : g.targets a = [] :=
  List.eq_nil_iff_forall_not_mem.2 fun _ hb => ha (mem_ids_of_leads (mem_targets.1 hb)).1

theorem sources_of_notMem (ha : a ∉ g.ids) : g.sources a = [] :=
  List.eq_nil_iff_forall_not_mem.2 fun _ hb => ha (mem_ids_of_leads (mem_sources.1 hb)).2

end FlowGraph

namespace GraphView

open Traversal (Search follow)

variable {v : GraphView} {a b : String}

theorem mem_descendants_iff : b ∈ v.descendants a ↔ b ≠ a ∧ Relation.TransGen v.graph.Leads a b := by
  by_cases ha : a ∈ v.graph.ids
  · exact mem_descendants ha
  · have hpath : ¬Relation.TransGen v.graph.Leads a b := fun h => ha (FlowGraph.mem_ids_of_transGen h).1
    simp [descendants, Traversal.reachable, FlowGraph.targets_of_notMem ha, Traversal.preorder, hpath]

theorem mem_ancestors_iff : b ∈ v.ancestors a ↔ b ≠ a ∧ Relation.TransGen v.graph.Leads b a := by
  by_cases ha : a ∈ v.graph.ids
  · exact mem_ancestors ha
  · have hpath : ¬Relation.TransGen v.graph.Leads b a := fun h => ha (FlowGraph.mem_ids_of_transGen h).2
    simp [ancestors, Traversal.reachable, FlowGraph.sources_of_notMem ha, Traversal.preorder, hpath]

/-- A node is below another one if and only if a path of edges leads there and the two differ, and just then the other
is above it. Along either list of arcs the loop ends, with what it gives once the start is taken out again. -/
theorem reaches_iff (v : GraphView) (a b : String) :
    (b ∈ v.descendants a ↔ a ≠ b ∧ Relation.TransGen v.graph.Leads a b) ∧
      (b ∈ v.descendants a ↔ a ∈ v.ancestors b) ∧
      (∃ seen, (Search.turn (follow v.graph.outgoing))^[(follow v.graph.outgoing a).length + v.graph.edges.length]
          ⟨[], follow v.graph.outgoing a⟩ = ⟨seen, []⟩ ∧ seen.Nodup ∧ ∀ c, c ∈ v.descendants a ↔ c ∈ seen ∧ c ≠ a) ∧
      ∃ seen, (Search.turn (follow v.graph.incoming))^[(follow v.graph.incoming b).length + v.graph.edges.length]
          ⟨[], follow v.graph.incoming b⟩ = ⟨seen, []⟩ ∧ seen.Nodup ∧ ∀ c, c ∈ v.ancestors b ↔ c ∈ seen ∧ c ≠ b := by
  refine ⟨?_, ?_, ?_, ?_⟩
  · rw [mem_descendants_iff, ne_comm]
  · rw [mem_descendants_iff, mem_ancestors_iff, ne_comm]
  · obtain ⟨seen, hturns, hnodup, hseen⟩ := Search.exists_seen v.graph.outgoing a
    simp only [FlowGraph.mem_outgoing] at hseen
    refine ⟨seen, ?_, hnodup, fun c => ?_⟩
    · simpa [FlowGraph.outgoing] using hturns
    · rw [mem_descendants_iff, hseen, and_comm]
  · obtain ⟨seen, hturns, hnodup, hseen⟩ := Search.exists_seen v.graph.incoming b
    simp only [FlowGraph.mem_incoming] at hseen
    refine ⟨seen, ?_, hnodup, fun c => ?_⟩
    · simpa [FlowGraph.incoming] using hturns
    · rw [mem_ancestors_iff, hseen, and_comm, ← Relation.transGen_swap]

end GraphView

end LedgerFlow
