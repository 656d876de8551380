import LedgerFlow.Graph.Traversal
import Mathlib.Logic.Relation
import Mathlib.Data.List.Chain
import Mathlib.Data.List.Nodup

namespace LedgerFlow.Traversal

variable {α : Type} {next : α → List α} {places start : List α} {a : α}

def Closed (next : α → List α) (places : List α) : Prop := ∀ a ∈ places, ∀ b ∈ next a, b ∈ places

def Traced (next : α → List α) (start places : List α) : Prop :=
  ∀ before a after, places = before ++ a :: after → a ∈ start ∨ ∃ b ∈ before, a ∈ next b

theorem traced_nil : Traced next start [] := by
  intro before a after h
  simp at h

theorem traced_concat (h : Traced next start places) (ha : a ∈ start ∨ ∃ b ∈ places, a ∈ next b) :
    Traced next start (places ++ [a]) := by
  intro before b after hb
  obtain ⟨others, rfl, hl⟩ | ⟨others, rfl, hr⟩ := List.append_eq_append_iff.1 hb
  · cases others with
    | nil =>
      cases hl
      simpa using ha
    | cons c others => simp at hl
  · cases others with
    | nil =>
      cases hr
      simpa using ha
    | cons c others =>
      cases hr
      exact h before b others rfl

theorem Traced.path (h : Traced next start places) (before after : List α) (hp : places = before ++ a :: after) :
    ∃ path, List.IsChain (fun x y => y ∈ next x) (path ++ [a]) ∧ (∃ s ∈ start, (path ++ [a]).head? = some s) ∧
      ∀ x ∈ path, x ∈ before := by
  induction hn : before.length using Nat.strongRecOn generalizing before a after with
  | ind n ih =>
    obtain hs | ⟨b, hb, hab⟩ := h before a after hp
    · exact ⟨[], by simp, ⟨a, hs, rfl⟩, by simp⟩
    · obtain ⟨first, between, rfl⟩ := List.append_of_mem hb
      have hlt : first.length < n := by
        simp only [List.length_append, List.length_cons] at hn
        omega
      obtain ⟨path, hchain, ⟨s, hs, hhead⟩, hpath⟩ :=
        ih _ hlt first (between ++ a :: after) (by simpa using hp) rfl
      refine ⟨path ++ [b], ?_, ⟨s, hs, ?_⟩, ?_⟩
      · rw [List.append_assoc]
        exact List.isChain_split.2 ⟨hchain, .cons_cons hab (.singleton a)⟩
      · simpa using hhead
      · simp only [List.mem_append, List.mem_singleton]
        rintro x (hx | rfl)
        · exact .inl (hpath x hx)
        · simp

/-- What was visited, the latest first, and what is still on the stack. -/
structure Search (α : Type) where
  visited : List α
  stack : List α

/-- What holds before and after every turn of a walk from `start`. -/
structure Search.Sound (next : α → List α) (start : List α) (s : Search α) : Prop where
  nodup : s.visited.Nodup
  traced : Traced next start s.visited.reverse
  stack_traced : ∀ a ∈ s.stack, a ∈ start ∨ ∃ b ∈ s.visited, a ∈ next b
  start_due : ∀ a ∈ start, a ∈ s.visited ∨ a ∈ s.stack
  next_due : ∀ a ∈ s.visited, ∀ b ∈ next a, b ∈ s.visited ∨ b ∈ s.stack

theorem Search.sound_start : Search.Sound next start ⟨[], start⟩ where
  nodup := .nil
  traced := traced_nil
  stack_traced := fun _ ha => .inl ha
  start_due := fun _ ha => .inr ha
  next_due := by simp

namespace Search.Sound

variable {visited stack rest added : List α}

theorem seen (hs : Sound next start ⟨visited, stack⟩) (ha : a ∈ visited) (hstack : ∀ b, b ∈ stack ↔ b = a ∨ b ∈ rest) :
    Sound next start ⟨visited, rest⟩ := by
  have due : ∀ b, b ∈ visited ∨ b ∈ stack → b ∈ visited ∨ b ∈ rest := by
    rintro b (hb | hb)
    · exact .inl hb
    · obtain rfl | hb := (hstack b).1 hb
      · exact .inl ha
      · exact .inr hb
  exact {
    nodup := hs.nodup
    traced := hs.traced
    stack_traced := fun b hb => hs.stack_traced b ((hstack b).2 (.inr hb))
    start_due := fun b hb => due b (hs.start_due b hb)
    next_due := fun b hb c hcb => due c (hs.next_due b hb c hcb) }

theorem fresh (hs : Sound next start ⟨visited, stack⟩) (ha : a ∉ visited)
    (hstack : ∀ b, b ∈ stack ↔ b = a ∨ b ∈ rest) (hadded : ∀ b ∈ added, b ∈ next a ∨ b ∈ rest)
    (hrest : ∀ b ∈ rest, b ∈ added) (hnext : ∀ b ∈ next a, b ∈ a :: visited ∨ b ∈ added) :
    Sound next start ⟨a :: visited, added⟩ := by
  have due : ∀ b, b ∈ visited ∨ b ∈ stack → b ∈ a :: visited ∨ b ∈ added := by
    rintro b (hb | hb)
    · exact .inl (.tail _ hb)
    · obtain rfl | hb := (hstack b).1 hb
      · exact .inl List.mem_cons_self
      · exact .inr (hrest b hb)
  refine { nodup := ?_, traced := ?_, stack_traced := ?_, start_due := ?_, next_due := ?_ }
  · exact List.nodup_cons.2 ⟨ha, hs.nodup⟩
  · rw [List.reverse_cons]
    apply traced_concat hs.traced
    simpa using hs.stack_traced a ((hstack a).2 (.inl rfl))
  · intro b hb
    obtain hb | hb := hadded b hb
    · exact .inr ⟨a, List.mem_cons_self, hb⟩
    · obtain hb | ⟨c, hc, hbc⟩ := hs.stack_traced b ((hstack b).2 (.inr hb))
      · exact .inl hb
      · exact .inr ⟨c, .tail _ hc, hbc⟩
  · exact fun b hb => due b (hs.start_due b hb)
  · intro b hb c hcb
    cases hb with
    | head => exact hnext c hcb
    | tail _ hb => exact due c (hs.next_due b hb c hcb)

theorem mem_visited_iff (hs : Sound next start ⟨visited, []⟩) :
    a ∈ visited ↔ ∃ s ∈ start, Relation.ReflTransGen (fun x y => y ∈ next x) s a := by
  constructor
  · intro ha
    obtain ⟨before, after, hp⟩ := List.append_of_mem (List.mem_reverse.2 ha)
    obtain ⟨path, hchain, ⟨s, hstart, hhead⟩, -⟩ := hs.traced.path before after hp
    have hreach := List.relationReflTransGen_of_exists_isChain (path ++ [a]) hchain (by simp)
    rw [List.getLast_append_singleton, List.head_of_mem_head? hhead] at hreach
    exact ⟨s, hstart, hreach⟩
  · rintro ⟨s, hstart, hpath⟩
    induction hpath with
    | refl => simpa using hs.start_due s hstart
    | tail _ hb ih => simpa using hs.next_due _ ih _ hb

end Search.Sound

variable [DecidableEq α] {visited stack rest : List α}

inductive Search.Turn (next : α → List α) : Search α → Search α → Prop
  | seen {visited rest : List α} {a : α} (h : a ∈ visited) : Turn next ⟨visited, a :: rest⟩ ⟨visited, rest⟩
  | fresh {visited rest : List α} {a : α} (h : a ∉ visited) :
      Turn next ⟨visited, a :: rest⟩ ⟨a :: visited, ((next a).filter fun b => !(a :: visited).contains b) ++ rest⟩

abbrev Search.Turns (next : α → List α) : Search α → Search α → Prop := Relation.ReflTransGen (Search.Turn next)

theorem preorder_of_mem (h : a ∈ visited) :
    preorder next places visited (a :: rest) = preorder next places visited rest := by
  rw [preorder, if_pos]
  simp [h]

theorem preorder_of_notMem (hp : a ∈ places) (h : a ∉ visited) :
    preorder next places visited (a :: rest) =
      preorder next places (a :: visited) (((next a).filter fun b => !(a :: visited).contains b) ++ rest) := by
  rw [preorder, if_neg]
  simp [hp, h]

def inRow (next : α → List α) (places : List α) : List α → List α → Bool
  | _, [] => true
  | visited, a :: rest =>
    decide (a ∈ places ∧ a ∉ visited ∧ ((next a).filter fun b => !(a :: visited).contains b) = rest.take 1) &&
      inRow next places (a :: visited) rest

theorem preorder_of_inRow {row : List α} (h : inRow next places visited row = true) :
    preorder next places visited (row.take 1) = visited.reverse ++ row := by
  induction row generalizing visited with
  | nil => simp [preorder]
  | cons a rest ih =>
    rw [inRow, Bool.and_eq_true, decide_eq_true_eq] at h
    obtain ⟨⟨hp, hv, hnext⟩, hrest⟩ := h
    rw [List.take_succ_cons, List.take_zero, preorder_of_notMem hp hv, hnext, List.append_nil, ih hrest,
      List.reverse_cons, List.append_assoc, List.singleton_append]

theorem preorder_of_leaves {leaves : List α} (hnodup : leaves.Nodup)
    (h : ∀ a ∈ leaves, a ∈ places ∧ next a = [] ∧ a ∉ visited) :
    preorder next places visited leaves = visited.reverse ++ leaves := by
  induction leaves generalizing visited with
  | nil => simp [preorder]
  | cons a leaves ih =>
    obtain ⟨⟨hp, hnext, hv⟩, hrest⟩ := List.forall_mem_cons.1 h
    obtain ⟨ha, hleaves⟩ := List.nodup_cons.1 hnodup
    rw [preorder_of_notMem hp hv, hnext, List.filter_nil, List.nil_append, ih hleaves]
    · simp
    · intro b hb
      have hne : b ≠ a := fun heq => ha (heq ▸ hb)
      exact ⟨(hrest b hb).1, (hrest b hb).2.1, by simp [hne, (hrest b hb).2.2]⟩

theorem preorder_congr {places' : List α} (h : ∀ a, a ∈ places ↔ a ∈ places') (visited stack : List α) :
    preorder next places visited stack = preorder next places' visited stack := by
  have hcontains : ∀ a, places.contains a = places'.contains a := fun a => by
    rw [Bool.eq_iff_iff, List.contains_iff_mem, List.contains_iff_mem, h]
  induction visited, stack using preorder.induct next places with
  | case1 visited => rw [preorder, preorder]
  | case2 visited a rest hseen ih =>
    rw [preorder, if_pos hseen, ih]
    rw [hcontains] at hseen
    rw [preorder.eq_def next places' visited (a :: rest)]
    exact (if_pos hseen).symm
  | case3 visited a rest hfresh fresh ih =>
    rw [preorder, if_neg hfresh, ih]
    rw [hcontains] at hfresh
    rw [preorder.eq_def next places' visited (a :: rest)]
    exact (if_neg hfresh).symm

theorem mem_fresh {b : α} :
    (b ∈ (next a).filter fun b => !(a :: visited).contains b) ↔ b ∈ next a ∧ b ∉ a :: visited := by
  simp

theorem turns_preorder (hc : Closed next places) (hs : ∀ a ∈ stack, a ∈ places) :
    Search.Turns next ⟨visited, stack⟩ ⟨(preorder next places visited stack).reverse, []⟩ := by
  induction visited, stack using preorder.induct next places with
  | case1 visited =>
    rw [preorder, List.reverse_reverse]
  | case2 visited a rest h ih =>
    have hp : a ∈ places := hs a List.mem_cons_self
    have hv : a ∈ visited := by simpa [hp] using h
    rw [preorder_of_mem hv]
    exact .head (.seen hv) (ih fun b hb => hs b (.tail _ hb))
  | case3 visited a rest h fresh ih =>
    have hp : a ∈ places := hs a List.mem_cons_self
    have hv : a ∉ visited := by simpa [hp] using h
    rw [preorder_of_notMem hp hv]
    refine .head (.fresh hv) (ih fun b hb => ?_)
    obtain hb | hb := List.mem_append.1 hb
    · exact hc a hp b (mem_fresh.1 hb).1
    · exact hs b (.tail _ hb)

namespace Search

variable {s t : Search α}

theorem Turn.sound (h : Turn next s t) (hs : Sound next start s) : Sound next start t := by
  cases h with
  | @seen visited rest a h => exact hs.seen h fun b => List.mem_cons
  | @fresh visited rest a h =>
    refine hs.fresh h (fun b => List.mem_cons) ?_ ?_ ?_
    · intro b hb
      obtain hb | hb := List.mem_append.1 hb
      · exact .inl (mem_fresh.1 hb).1
      · exact .inr hb
    · exact fun b hb => List.mem_append_right _ hb
    · intro b hb
      by_cases hv : b ∈ a :: visited
      · exact .inl hv
      · exact .inr (List.mem_append_left _ (mem_fresh.2 ⟨hb, hv⟩))

theorem Turns.sound (h : Turns next s t) (hs : Sound next start s) : Sound next start t := by
  induction h with
  | refl => exact hs
  | tail _ hturn ih => exact hturn.sound ih

end Search

theorem sound_preorder (hc : Closed next places) (hs : ∀ a ∈ start, a ∈ places) :
    Search.Sound next start ⟨(preorder next places [] start).reverse, []⟩ :=
  (turns_preorder hc hs).sound Search.sound_start

theorem nodup_preorder (hc : Closed next places) (hs : ∀ a ∈ start, a ∈ places) :
    (preorder next places [] start).Nodup :=
  List.nodup_reverse.1 (sound_preorder hc hs).nodup

theorem traced_preorder (hc : Closed next places) (hs : ∀ a ∈ start, a ∈ places) :
    Traced next start (preorder next places [] start) := by
  simpa using (sound_preorder hc hs).traced

theorem mem_preorder_iff (hc : Closed next places) (hs : ∀ a ∈ start, a ∈ places) :
    a ∈ preorder next places [] start ↔ ∃ s ∈ start, Relation.ReflTransGen (fun x y => y ∈ next x) s a := by
  rw [← (sound_preorder hc hs).mem_visited_iff, List.mem_reverse]

theorem mem_reachable_iff {b : α} (hc : Closed next places) (ha : a ∈ places) :
    b ∈ reachable next places a ↔ b ≠ a ∧ Relation.TransGen (fun x y => y ∈ next x) a b := by
  rw [reachable, List.mem_filter, mem_preorder_iff hc (hc a ha), Relation.TransGen.head'_iff]
  simp [and_comm]

end LedgerFlow.Traversal
