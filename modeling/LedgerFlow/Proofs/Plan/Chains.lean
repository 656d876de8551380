import LedgerFlow.Proofs.Plan.Steps

namespace LedgerFlow

theorem infix_pair_iff {α : Type} {a b : α} {as bs : List α} (h : (as ++ a :: bs).Nodup) :
    [a, b] <:+: as ++ a :: bs ↔ b ∈ bs.take 1 := by
  have hnext : b ∈ bs.take 1 ↔ ∃ cs, bs = b :: cs := by
    cases bs with
    | nil => simp
    | cons c cs => simp [eq_comm]
  rw [hnext]
  obtain ⟨has, hbs⟩ : a ∉ as ∧ a ∉ bs := by
    simpa only [List.mem_append, not_or] using (List.nodup_cons.1 (List.nodup_middle.1 h)).1
  constructor
  · rintro ⟨ds, cs, heq⟩
    rw [List.append_assoc] at heq
    obtain ⟨-, -, hrest⟩ := (List.append_cons_inj_of_notMem has hbs).1 heq.symm
    exact ⟨cs, hrest⟩
  · rintro ⟨cs, rfl⟩
    exact ⟨as, cs, by simp⟩

theorem infix_pair_iff_mem_zip {α : Type} {a b : α} {l : List α} : [a, b] <:+: l ↔ (a, b) ∈ l.zip l.tail := by
  induction l with
  | nil => simp
  | cons c l ih =>
    rw [List.infix_cons_iff, ih, List.prefix_cons_iff]
    cases l with
    | nil => simp
    | cons d l => simp [List.prefix_cons_iff]

namespace GraphView

/-- The wallet and these nodes are all that there are; each leads to the one after it, and nowhere else. -/
structure IsChain (v : GraphView) (ns : List Node) : Prop where
  nodes : v.graph.nodes.Perm (v.root :: ns)
  leads : ∀ a b, v.graph.Leads a b ↔ [a, b] <:+: (v.root :: ns).map (·.id)

section

variable {v : GraphView} {n : Node} {ns before after : List Node} {a : String} {ids more : List String}

theorem nodup_next (v : GraphView) (a : String) : (v.next a).Nodup := by
  have hfound : ((v.graph.targets a).filterMap v.node?).Nodup := by
    refine (v.graph.nodup_targets a).filterMap fun a b n ha hb => ?_
    rw [← (FlowGraph.node?_eq_some.1 ha).2, ← (FlowGraph.node?_eq_some.1 hb).2]
  have hordered : (v.successors a).Nodup := (orderByPosition_perm _ _).nodup_iff.2 hfound
  refine hordered.map_on fun m hm n hn hid => ?_
  exact List.inj_on_of_nodup_map v.graph.nodup_ids (mem_successors.1 hm).1 (mem_successors.1 hn).1 hid

theorem isChain_of_edges (hnodes : v.graph.nodes = v.root :: ns)
    (hedges : v.graph.edges.map (fun e => (e.source, e.target)) =
      ((v.root :: ns).map (·.id)).zip ((v.root :: ns).map (·.id)).tail) : v.IsChain ns where
  nodes := hnodes ▸ List.Perm.refl _
  leads a b := by
    rw [infix_pair_iff_mem_zip, ← hedges, List.mem_map]
    simp [FlowGraph.Leads]

namespace IsChain

theorem ids_perm (h : v.IsChain ns) : v.graph.ids.Perm ((v.root :: ns).map (·.id)) := h.nodes.map Node.id

theorem nodup (h : v.IsChain ns) : ((v.root :: ns).map (·.id)).Nodup := h.ids_perm.nodup_iff.1 v.graph.nodup_ids

theorem next_eq (h : v.IsChain ns) (hids : (v.root :: ns).map (·.id) = ids ++ a :: more) : v.next a = more.take 1 := by
  have hnodup := hids ▸ h.nodup
  have hmem : ∀ b, b ∈ v.next a ↔ b ∈ more.take 1 := fun b => by rw [mem_next, h.leads, hids, infix_pair_iff hnodup]
  have hperm : (v.next a).Perm (more.take 1) := by
    refine (List.perm_ext_iff_of_nodup (v.nodup_next a) ?_).2 hmem
    exact ((List.nodup_append.1 hnodup).2.1.of_cons).sublist (List.take_sublist 1 more)
  cases more with
  | nil => exact List.perm_nil.1 hperm
  | cons b more => exact List.perm_singleton.1 hperm

theorem inRow (h : v.IsChain ns) (hids : (v.root :: ns).map (·.id) = ids ++ more) :
    Traversal.inRow v.next v.graph.ids ids.reverse more = true := by
  induction more generalizing ids with
  | nil => rfl
  | cons a more ih =>
    have hnodup := hids ▸ h.nodup
    have hrest : ids ++ a :: more = ids ++ [a] ++ more := by simp
    rw [Traversal.inRow, Bool.and_eq_true, decide_eq_true_eq]
    refine ⟨⟨?_, ?_, ?_⟩, ?_⟩
    · rw [h.ids_perm.mem_iff, hids]
      simp
    · rw [List.mem_reverse]
      exact fun ha => (List.nodup_append.1 hnodup).2.2 a ha a List.mem_cons_self rfl
    · rw [h.next_eq hids, List.filter_eq_self]
      intro b hb
      have hb := List.mem_of_mem_take hb
      have hvisited : b ∉ a :: ids.reverse := fun hb' =>
        (List.nodup_append.1 (hrest ▸ hnodup)).2.2 b (by simpa [or_comm] using hb') b hb rfl
      simpa using hvisited
    · have := ih (hids.trans hrest)
      rwa [List.reverse_append] at this

theorem walk_eq (h : v.IsChain ns) : v.walk = (v.root :: ns).map (·.id) := by
  have hrow := h.inRow (List.nil_append ((v.root :: ns).map (·.id))).symm
  exact Traversal.preorder_of_inRow hrow

theorem compile_eq (h : v.IsChain ns) (hns : ∀ n ∈ ns, n.isPassthrough = false) : v.compile = number 0 ns := by
  have hmem : ∀ n ∈ v.root :: ns, n ∈ v.graph.nodes := fun n hn => h.nodes.mem_iff.2 hn
  have hroot : v.root.isPassthrough = true := by
    rw [Node.isPassthrough, Bool.or_eq_true]
    exact .inl v.graph.isWallet_root
  have hemitted : v.emitted = v.emittedOf v.walk := rfl
  rw [compile, hemitted, h.walk_eq, emittedOf_map hmem, List.filter_cons_of_neg (by simp [hroot]),
    List.filter_eq_self.2 fun n hn => by simp [hns n hn]]

theorem mem_ancestors (h : v.IsChain (before ++ n :: after)) {m : Node} (hm : m ∈ before) :
    m.id ∈ v.ancestors n.id := by
  have hpath : ((v.root :: (before ++ n :: after)).map (·.id)).Pairwise (Relation.TransGen v.graph.Leads) := by
    refine List.isChain_iff_pairwise.1 (List.isChain_iff_forall_rel_of_append_cons_cons.2 ?_)
    intro a b ids more heq
    exact .single ((h.leads a b).2 ⟨ids, more, by simp [heq]⟩)
  have hsplit : (v.root :: (before ++ n :: after)).map (·.id) =
      (v.root :: before).map (·.id) ++ (n :: after).map (·.id) := by simp
  have hmid : m.id ∈ (v.root :: before).map (·.id) := List.mem_map_of_mem (.tail _ hm)
  have hn : n.id ∈ v.graph.ids := h.ids_perm.mem_iff.2 (by simp)
  rw [GraphView.mem_ancestors hn]
  constructor
  · exact (List.nodup_append.1 (hsplit ▸ h.nodup)).2.2 _ hmid _ List.mem_cons_self
  · exact (List.pairwise_append.1 (hsplit ▸ hpath)).2.2 _ hmid _ List.mem_cons_self

end IsChain

end

end GraphView

end LedgerFlow
