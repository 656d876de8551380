import LedgerFlow.Graph.View
import LedgerFlow.Proofs.Graph.Traversal

namespace LedgerFlow

open Traversal (Closed)

theorem find?_key_eq_some {α κ : Type} [BEq κ] [LawfulBEq κ] {key : α → κ} {l : List α} {k : κ} {a : α}
    (hn : (l.map key).Nodup) : l.find? (key · == k) = some a ↔ a ∈ l ∧ key a = k := by
  constructor
  · intro h
    exact ⟨List.mem_of_find?_eq_some h, by simpa using List.find?_some h⟩
  · rintro ⟨ha, rfl⟩
    obtain ⟨b, hb⟩ : ∃ b, l.find? (key · == key a) = some b :=
      Option.isSome_iff_exists.1 (List.find?_isSome.2 ⟨a, ha, by simp⟩)
    have hkey : key b = key a := by simpa using List.find?_some hb
    rw [hb, List.inj_on_of_nodup_map hn (List.mem_of_find?_eq_some hb) ha hkey]

theorem nodup_eraseDups (l : List String) : l.eraseDups.Nodup := by
  induction hn : l.length using Nat.strongRecOn generalizing l with
  | ind n ih =>
    cases l with
    | nil => exact .nil
    | cons a l =>
      rw [List.eraseDups_cons, List.nodup_cons]
      refine ⟨by simp [List.mem_eraseDups], ih _ ?_ _ rfl⟩
      rw [← hn]
      exact Nat.lt_succ_of_le (List.length_filter_le _ _)

namespace FlowGraph

variable (g : FlowGraph) {a b id : String} {n : Node}

def Leads (a b : String) : Prop := ∃ e ∈ g.edges, e.source = a ∧ e.target = b

theorem repeated_ids : repeated g.ids = [] ∧ g.edges.findSome? (edgeDefect? g.ids) = none := by
  have h := g.sound
  unfold graphDefect? at h
  simp only [g.countP_isWallet, ne_eq, not_true_eq_false, if_false] at h
  cases hr : repeated g.ids with
  | nil =>
    rw [ids] at hr
    simp only [hr] at h
    exact ⟨rfl, h⟩
  | cons id rest =>
    rw [ids] at hr
    simp [hr] at h

theorem nodup_of_repeated {ids : List String} (h : repeated ids = []) : ids.Nodup := by
  rw [List.nodup_iff_count_le_one]
  intro id
  by_contra hc
  have hlt : 1 < ids.count id := by omega
  have hm : id ∈ repeated ids := by
    have hid : id ∈ ids := List.count_pos_iff.1 (by omega)
    simp [repeated, List.mem_mergeSort, List.mem_eraseDups, hid, hlt]
  simp [h] at hm

theorem nodup_ids : g.ids.Nodup := nodup_of_repeated g.repeated_ids.1

variable {g}

theorem mem_ids_of_leads (h : g.Leads a b) : a ∈ g.ids ∧ b ∈ g.ids := by
  obtain ⟨e, he, rfl, rfl⟩ := h
  have hd := List.findSome?_eq_none_iff.1 g.repeated_ids.2 e he
  unfold edgeDefect? at hd
  split at hd
  · next hm => simpa [Edge.unknownEnds] using hm
  · cases hd

theorem mem_targets : b ∈ g.targets a ↔ g.Leads a b := by
  simp [targets, Leads, List.mem_eraseDups, and_assoc]

theorem mem_sources : b ∈ g.sources a ↔ g.Leads b a := by
  simp [sources, Leads, List.mem_eraseDups, and_assoc, and_comm]

theorem node?_eq_some : g.node? id = some n ↔ n ∈ g.nodes ∧ n.id = id := find?_key_eq_some g.nodup_ids

theorem isSome_node? : (g.node? id).isSome = true ↔ id ∈ g.ids := by
  simp [node?, ids]

variable (g)

theorem root_mem : g.root ∈ g.nodes := List.get_find?_mem _

theorem nodup_targets (a : String) : (g.targets a).Nodup := nodup_eraseDups _

theorem isWallet_root : g.root.isWallet = true := by
  have hroot : g.nodes.find? (·.isWallet) = some g.root := (Option.some_get _).symm
  exact List.find?_some (p := Node.isWallet) hroot

variable {g} in
theorem eq_root {n : Node} (hn : n ∈ g.nodes) (hw : n.isWallet = true) : n = g.root := by
  have hlength : (g.nodes.filter (·.isWallet)).length = 1 := by rw [← List.countP_eq_length_filter, g.countP_isWallet]
  obtain ⟨wallet, hwallet⟩ := List.length_eq_one_iff.1 hlength
  have heq : ∀ m ∈ g.nodes, m.isWallet = true → m = wallet := fun m hm hmw => by
    simpa [hwallet] using List.mem_filter.2 ⟨hm, hmw⟩
  rw [heq n hn hw, heq g.root g.root_mem g.isWallet_root]

theorem closed_targets : Closed g.targets g.ids := by
  intro a _ b hb
  exact (mem_ids_of_leads (mem_targets.1 hb)).2

theorem closed_sources : Closed g.sources g.ids := by
  intro a _ b hb
  exact (mem_ids_of_leads (mem_sources.1 hb)).1

end FlowGraph

namespace GraphView

variable {v : GraphView} {a b : String} {n : Node}

theorem mem_successors : n ∈ v.successors a ↔ n ∈ v.graph.nodes ∧ v.graph.Leads a n.id := by
  rw [successors, (orderByPosition_perm _ _).mem_iff, List.mem_filterMap]
  constructor
  · rintro ⟨id, hid, hn⟩
    obtain ⟨hmem, rfl⟩ := FlowGraph.node?_eq_some.1 hn
    exact ⟨hmem, FlowGraph.mem_targets.1 hid⟩
  · rintro ⟨hmem, hlead⟩
    exact ⟨n.id, FlowGraph.mem_targets.2 hlead, FlowGraph.node?_eq_some.2 ⟨hmem, rfl⟩⟩

variable (v)

def next (id : String) : List String := (v.successors id).map (·.id)

variable {v}

theorem mem_next : b ∈ v.next a ↔ v.graph.Leads a b := by
  simp only [next, List.mem_map, mem_successors]
  constructor
  · rintro ⟨n, ⟨-, hlead⟩, rfl⟩
    exact hlead
  · intro hlead
    obtain ⟨n, hn, rfl⟩ := List.mem_map.1 (FlowGraph.mem_ids_of_leads hlead).2
    exact ⟨n, ⟨hn, hlead⟩, rfl⟩

variable (v)

theorem closed_next : Closed v.next v.graph.ids := by
  intro a _ b hb
  exact (FlowGraph.mem_ids_of_leads (mem_next.1 hb)).2

theorem root_mem_ids : ∀ a ∈ [v.root.id], a ∈ v.graph.ids := by
  intro a ha
  rw [List.mem_singleton.1 ha]
  exact List.mem_map_of_mem v.graph.root_mem

theorem nodup_walk : v.walk.Nodup := Traversal.nodup_preorder v.closed_next v.root_mem_ids

def isRow : Bool :=
  v.graph.ids.take 1 == [v.root.id] && Traversal.inRow v.next v.graph.ids [] v.graph.ids

def isFan : Bool :=
  decide ((v.root.id :: v.next v.root.id).Nodup ∧ ∀ a ∈ v.next v.root.id, v.next a = [])

variable {v}

theorem walk_of_isRow (h : v.isRow = true) : v.walk = v.graph.ids := by
  rw [isRow, Bool.and_eq_true, beq_iff_eq] at h
  obtain ⟨hroot, hrow⟩ := h
  have hwalk := Traversal.preorder_of_inRow hrow
  rwa [hroot] at hwalk

theorem walk_of_isFan (hfan : v.isFan = true) : v.walk = v.root.id :: v.next v.root.id := by
  obtain ⟨hnodup, hleaves⟩ := of_decide_eq_true hfan
  obtain ⟨hroot, hnext⟩ := List.nodup_cons.1 hnodup
  have hplaces : v.root.id ∈ v.graph.ids := v.root_mem_ids _ (List.mem_singleton_self _)
  have hne : ∀ b ∈ v.next v.root.id, b ∉ [v.root.id] := by
    intro b hb hmem
    rw [List.mem_singleton.1 hmem] at hb
    exact hroot hb
  have hfresh : ((v.next v.root.id).filter fun b => !List.contains [v.root.id] b) = v.next v.root.id :=
    List.filter_eq_self.2 fun b hb => by simpa using hne b hb
  have hrest : Traversal.preorder v.next v.graph.ids [v.root.id] (v.next v.root.id) =
      [v.root.id].reverse ++ v.next v.root.id :=
    Traversal.preorder_of_leaves hnext fun b hb =>
      ⟨v.closed_next _ hplaces b hb, hleaves b hb, hne b hb⟩
  have hwalk : v.walk = Traversal.preorder v.next v.graph.ids [] [v.root.id] := rfl
  rw [hwalk, Traversal.preorder_of_notMem hplaces List.not_mem_nil, hfresh, List.append_nil, hrest,
    List.reverse_singleton, List.singleton_append]

theorem mem_walk : a ∈ v.walk ↔ Relation.ReflTransGen v.graph.Leads v.root.id a := by
  have h := Traversal.mem_preorder_iff (a := a) v.closed_next v.root_mem_ids
  simp only [List.mem_singleton, exists_eq_left, mem_next] at h
  exact h

theorem mem_ids_of_mem_walk (h : a ∈ v.walk) : a ∈ v.graph.ids := by
  obtain heq | ⟨b, -, hlead⟩ := Relation.ReflTransGen.cases_tail (mem_walk.1 h)
  · exact heq ▸ v.root_mem_ids _ (List.mem_singleton_self _)
  · exact (FlowGraph.mem_ids_of_leads hlead).2

theorem mem_descendants (ha : a ∈ v.graph.ids) :
    b ∈ v.descendants a ↔ b ≠ a ∧ Relation.TransGen v.graph.Leads a b := by
  have h := Traversal.mem_reachable_iff (b := b) v.graph.closed_targets ha
  simp only [FlowGraph.mem_targets] at h
  exact h

theorem mem_ancestors (ha : a ∈ v.graph.ids) :
    b ∈ v.ancestors a ↔ b ≠ a ∧ Relation.TransGen v.graph.Leads b a := by
  have h := Traversal.mem_reachable_iff (b := b) v.graph.closed_sources ha
  simp only [FlowGraph.mem_sources] at h
  rw [← Relation.transGen_swap]
  exact h

end GraphView

end LedgerFlow
