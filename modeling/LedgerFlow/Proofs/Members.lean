import LedgerFlow.Json.Basic

namespace LedgerFlow

theorem lookup_eq_some_of_mem {α β : Type} [BEq α] [LawfulBEq α] {l : List (α × β)} {a : α} {b : β}
    (hl : (l.map Prod.fst).Nodup) (h : (a, b) ∈ l) : l.lookup a = some b := by
  induction l with
  | nil => cases h
  | cons e rest ih =>
    obtain ⟨c, d⟩ := e
    obtain ⟨hc, hr⟩ := List.nodup_cons.1 hl
    cases h with
    | head => simp
    | tail _ h =>
      have hne : a ≠ c := by
        rintro rfl
        exact hc (List.mem_map.2 ⟨(a, b), h, rfl⟩)
      rw [List.lookup_cons, beq_eq_false_iff_ne.2 hne]
      exact ih hr h

theorem mem_of_lookup_eq_some {α β : Type} [BEq α] [LawfulBEq α] {l : List (α × β)} {a : α} {b : β}
    (h : l.lookup a = some b) : (a, b) ∈ l := by
  induction l with
  | nil => cases h
  | cons e rest ih =>
    obtain ⟨c, d⟩ := e
    rw [List.lookup_cons] at h
    split at h
    · next hc =>
      cases h
      rw [beq_iff_eq.1 hc]
      exact List.mem_cons_self
    · exact .tail _ (ih h)

namespace Json

variable {α : Type} {members : List (String × α)} {key : String} {value : α}

theorem lookup_put (members : List (String × α)) (key other : String) (value : α) :
    (put members key value).lookup other = if other = key then some value else members.lookup other := by
  induction members with
  | nil =>
    rw [put, List.lookup_cons]
    by_cases h : other = key
    · simp [h]
    · simp [beq_eq_false_iff_ne.2 h, h]
  | cons e rest ih =>
    obtain ⟨k, v⟩ := e
    by_cases hk : k = key
    · subst hk
      by_cases h : other = k
      · simp [put, h]
      · simp [put, List.lookup_cons, beq_eq_false_iff_ne.2 h, h]
    · by_cases ho : other = k
      · subst ho
        simp [put, hk]
      · simp [put, hk, List.lookup_cons, beq_eq_false_iff_ne.2 ho, ih]

theorem put_of_lookup (h : members.lookup key = some value) : put members key value = members := by
  induction members with
  | nil => cases h
  | cons e rest ih =>
    obtain ⟨k, v⟩ := e
    rw [List.lookup_cons] at h
    by_cases hk : key = k
    · subst hk
      simp only [beq_self_eq_true, Option.some.injEq] at h
      simp [put, h]
    · rw [beq_eq_false_iff_ne.2 hk] at h
      simp [put, Ne.symm hk, ih h]

theorem put_put (members : List (String × α)) (key : String) (value later : α) :
    put (put members key value) key later = put members key later := by
  induction members with
  | nil => simp [put]
  | cons e rest ih =>
    obtain ⟨k, v⟩ := e
    by_cases hk : k = key
    · simp [put, hk]
    · simp [put, hk, ih]

theorem mem_put {e : String × α} (h : e ∈ put members key value) : e = (key, value) ∨ e ∈ members := by
  induction members with
  | nil => exact .inl (List.mem_singleton.1 h)
  | cons first rest ih =>
    rw [put] at h
    split at h
    · obtain rfl | h := List.mem_cons.1 h
      · next hk => exact .inl (by rw [beq_iff_eq.1 hk])
      · exact .inr (.tail _ h)
    · obtain rfl | h := List.mem_cons.1 h
      · exact .inr List.mem_cons_self
      · exact (ih h).imp_right (.tail _)

theorem nodup_put (h : (members.map Prod.fst).Nodup) : ((put members key value).map Prod.fst).Nodup := by
  induction members with
  | nil => simp [put]
  | cons first rest ih =>
    obtain ⟨hfirst, hrest⟩ := List.nodup_cons.1 h
    rw [put]
    split
    · exact h
    · next hk =>
      refine List.nodup_cons.2 ⟨?_, ih hrest⟩
      intro hm
      obtain ⟨e, he, heq⟩ := List.mem_map.1 hm
      obtain rfl | he := mem_put he
      · exact hk (beq_iff_eq.2 heq.symm)
      · exact hfirst (List.mem_map.2 ⟨e, he, heq⟩)

end Json

end LedgerFlow
