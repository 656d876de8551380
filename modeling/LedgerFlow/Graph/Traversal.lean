namespace LedgerFlow.Traversal

variable {α : Type} [DecidableEq α]

def unvisited (places visited : List α) : List α :=
  places.filter fun a => !visited.contains a

theorem length_unvisited_cons_lt {places visited : List α} {a : α} (ha : a ∈ places)
    (hv : visited.contains a = false) :
    (unvisited places (a :: visited)).length < (unvisited places visited).length := by
  induction places with
  | nil => cases ha
  | cons b rest ih =>
    have le : ∀ ps : List α, (unvisited ps (a :: visited)).length ≤ (unvisited ps visited).length := by
      intro ps
      induction ps with
      | nil => simp [unvisited]
      | cons c ps ihp =>
        simp only [unvisited, List.filter_cons, List.contains_cons] at ihp ⊢
        by_cases hc : visited.contains c <;> by_cases hca : c == a <;> simp_all
        omega
    by_cases hb : b = a
    · subst hb
      have := le rest
      simp only [unvisited, List.filter_cons, List.contains_cons, beq_self_eq_true, Bool.true_or,
        Bool.not_true, Bool.false_eq_true, if_false, hv, Bool.not_false, if_true, List.length_cons] at this ⊢
      omega
    · have hr : a ∈ rest := by
        cases ha with
        | head => exact absurd rfl hb
        | tail _ h => exact h
      have := ih hr
      simp only [unvisited, List.filter_cons, List.contains_cons] at this ⊢
      by_cases hc : visited.contains b <;> simp_all

/-- Visits what is on the stack, each place once, the targets of a place before what lay below it. The
result lists the visited places in the order of their first visit. -/
def preorder (next : α → List α) (places visited stack : List α) : List α :=
  match stack with
  | [] => visited.reverse
  | a :: rest =>
    if visited.contains a || !places.contains a then preorder next places visited rest
    else
      let fresh := (next a).filter fun b => !(a :: visited).contains b
      preorder next places (a :: visited) (fresh ++ rest)
termination_by ((unvisited places visited).length, stack.length)
decreasing_by
  · exact Prod.Lex.right _ (by simp)
  · next h =>
    simp only [Bool.or_eq_true, Bool.not_eq_true', not_or, Bool.not_eq_true, Bool.not_eq_false] at h
    exact Prod.Lex.left _ _ (length_unvisited_cons_lt (List.contains_iff_mem.1 h.2) h.1)

def reachable (next : α → List α) (places : List α) (a : α) : List α :=
  (preorder next places [] (next a)).filter (· != a)

end LedgerFlow.Traversal
