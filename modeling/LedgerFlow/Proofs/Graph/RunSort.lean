import LedgerFlow.Graph.RunSort
import LedgerFlow.Proofs.Graph.RunMerge
import Mathlib.Data.List.Chain
import Mathlib.Data.List.Sort

namespace LedgerFlow.RunSort

open RunMerge

variable {α K : Type} [LinearOrder K] {lt : α → α → Bool} {key : α → K} {S : α → Prop} {as bs : List α}

theorem pairwise_falling (h : OrderedBy lt key S) {a : α} (hall : ∀ x ∈ a :: as, S x) :
    (a :: as.take (falling lt a as)).Pairwise fun x y => key y ≤ key x := by
  induction as generalizing a with
  | nil => simp
  | cons b rest ih =>
    obtain ⟨ha, hrest⟩ := List.forall_mem_cons.1 hall
    rw [falling]
    split
    · next hlt =>
      have hle := ((h b a (hrest b (List.mem_cons_self ..)) ha).1 hlt).le
      rw [List.take_succ_cons]
      exact List.pairwise_cons_cons_iff_of_trans.2 ⟨hle, ih hrest⟩
    · simp

theorem pairwise_rising (h : OrderedBy lt key S) {a : α} (hall : ∀ x ∈ a :: as, S x) :
    (a :: as.take (rising lt a as)).Pairwise (key · ≤ key ·) := by
  induction as generalizing a with
  | nil => simp
  | cons b rest ih =>
    obtain ⟨ha, hrest⟩ := List.forall_mem_cons.1 hall
    rw [rising]
    split
    · simp
    · next hlt =>
      have hle := h.le_of_not (hrest b (List.mem_cons_self ..)) ha (by simpa using hlt)
      rw [List.take_succ_cons]
      exact List.pairwise_cons_cons_iff_of_trans.2 ⟨hle, ih hrest⟩

theorem isRun_firstRun (h : OrderedBy lt key S) (hall : ∀ x ∈ as, S x) : IsRun key S (firstRun lt as).1 := by
  refine ⟨fun x hx => hall x ((firstRun_perm lt as).subset (List.mem_append_left _ hx)), ?_⟩
  match as with
  | [] => exact .nil
  | [a] => exact List.pairwise_singleton _ a
  | a :: b :: rest =>
    rw [firstRun]
    split
    · next hlt =>
      have hfalling := pairwise_falling h hall
      rw [falling, if_pos hlt, List.take_succ_cons] at hfalling
      exact List.pairwise_reverse.2 hfalling
    · next hlt =>
      have hrising := pairwise_rising h hall
      rw [rising, if_neg hlt, List.take_succ_cons] at hrising
      exact hrising

theorem firstRun_ne_nil (lt : α → α → Bool) {as : List α} (has : as ≠ []) : (firstRun lt as).1 ≠ [] := by
  match as with
  | [a] => exact List.cons_ne_nil a []
  | a :: b :: rest =>
    rw [firstRun]
    split <;> simp

theorem middle_forward {low high : Nat} (h : low < high) : middle false low high = (low + high) / 2 := by
  simp only [middle, Bool.false_eq_true, if_false]
  omega

theorem placeOf_eq_halve (lt : α → α → Bool) (a : α) (sorted : List α) (low high : Nat) :
    placeOf lt a sorted low high = halve false (fun m => !sorted[m]?.any (lt a)) low high := by
  induction low, high using placeOf.induct lt a sorted with
  | case1 low high hlt mid hbelow ih =>
    rw [placeOf, if_pos hlt, if_pos hbelow, halve, if_pos hlt, middle_forward hlt, hbelow]
    exact ih
  | case2 low high hlt mid hbelow ih =>
    have hnotBelow : sorted[(low + high) / 2]?.any (lt a) = false := by simpa using hbelow
    rw [placeOf, if_pos hlt, if_neg hbelow, halve, if_pos hlt, middle_forward hlt, hnotBelow]
    exact ih
  | case3 low high hlt => rw [placeOf, if_neg hlt, halve, if_neg hlt]

theorem isRun_insert (h : OrderedBy lt key S) {a : α} (ha : S a) (has : IsRun key S as) :
    IsRun key S (insert lt as a) := by
  have hplace : Boundary (fun m => !as[m]?.any (lt a)) as.length (placeOf lt a as 0 as.length) := by
    rw [placeOf_eq_halve]
    exact halve_spec (Nat.zero_le _) le_rfl (fun hpos => absurd hpos (Nat.lt_irrefl 0))
      fun hlt => absurd hlt (Nat.lt_irrefl _)
  obtain ⟨hbefore, hbeyond⟩ := hplace.split (Q := (key · ≤ key ·)) (c := a) (fun _ _ _ => le_trans) has.ascending
    (fun i b hi hp => h.le_of_not ha (has.all b (List.mem_of_getElem? hi)) (by simpa [hi] using hp))
    fun i b hi hp => ((h a b ha (has.all b (List.mem_of_getElem? hi))).1 (by simpa [hi] using hp)).le
  rw [insert]
  generalize placeOf lt a as 0 as.length = place at hbefore hbeyond
  have hrest : IsRun key S (a :: as.drop place) :=
    ⟨List.forall_mem_cons.2 ⟨ha, fun x hx => has.all x (List.mem_of_mem_drop hx)⟩,
      List.pairwise_cons.2 ⟨hbeyond, has.ascending.drop⟩⟩
  refine (has.sublist (List.take_sublist place as)).append hrest fun x hx y hy => ?_
  obtain rfl | hy := List.mem_cons.1 hy
  · exact hbefore x hx
  · exact (hbefore x hx).trans (hbeyond y hy)

theorem isRun_foldl_insert (h : OrderedBy lt key S) (has : IsRun key S as) (hbs : ∀ b ∈ bs, S b) :
    IsRun key S (bs.foldl (insert lt) as) := by
  induction bs generalizing as with
  | nil => exact has
  | cons b bs ih =>
    obtain ⟨hb, hbs⟩ := List.forall_mem_cons.1 hbs
    exact ih (isRun_insert h hb has) hbs

theorem isRun_nextRun (h : OrderedBy lt key S) (hall : ∀ x ∈ as, S x) (least : Nat) :
    IsRun key S (nextRun lt least as).1 :=
  isRun_foldl_insert h (isRun_firstRun h hall) fun b hb =>
    hall b ((firstRun_perm lt as).subset (List.mem_append_right _ (List.mem_of_mem_take hb)))

theorem length_nextRun_lt (lt : α → α → Bool) (least : Nat) (has : as ≠ []) :
    (nextRun lt least as).2.length < as.length := by
  have hlength := (firstRun_perm lt as).length_eq
  have hpos := List.length_pos_iff.2 (firstRun_ne_nil lt has)
  rw [List.length_append] at hlength
  simp only [nextRun, List.length_drop]
  omega

theorem mem_of_mem_nextRun {least : Nat} {x : α} (hx : x ∈ (nextRun lt least as).2) : x ∈ as :=
  (nextRun_perm lt least as).subset (List.mem_append_right _ hx)

structure Ascending (key : α → K) (S : α → Prop) (p : Pile α) : Prop where
  latest : IsRun key S p.latest
  earlier : ∀ e ∈ p.earlier, IsRun key S e.1

theorem ascending_settle (h : OrderedBy lt key S) (power patience : Nat) {earlier : List (List α × Nat)}
    (hlatest : IsRun key S as) (hearlier : ∀ e ∈ earlier, IsRun key S e.1) :
    Ascending key S (Pile.settle lt power as patience earlier) := by
  induction earlier generalizing as patience with
  | nil => exact ⟨hlatest, hearlier⟩
  | cons e earlier ih =>
    obtain ⟨hrun, hearlier'⟩ := List.forall_mem_cons.1 hearlier
    rw [Pile.settle]
    split
    · exact ih _ (isRun_merge h hrun hlatest patience) hearlier'
    · exact ⟨hlatest, hearlier⟩

theorem Ascending.push (h : OrderedBy lt key S) {p : Pile α} (hp : Ascending key S p) {run : List α}
    (hrun : IsRun key S run) (n : Nat) : Ascending key S (p.push lt n run) := by
  obtain ⟨hlatest, hearlier⟩ := ascending_settle h
    (borderPower n (n + 1) (2 * (p.earlier.map (·.1.length)).foldl (· + ·) 0 + p.latest.length)
      (2 * (p.earlier.map (·.1.length)).foldl (· + ·) 0 + p.latest.length + p.latest.length + run.length))
    p.patience hp.latest hp.earlier
  exact ⟨hrun, List.forall_mem_cons.2 ⟨hlatest, hearlier⟩⟩

theorem isRun_finish (h : OrderedBy lt key S) {patience : Nat} {latest : List α} {runs : List (List α)}
    (hlatest : IsRun key S latest) (hruns : ∀ run ∈ runs, IsRun key S run) :
    IsRun key S (Pile.finish lt patience latest runs) := by
  induction patience, latest, runs using Pile.finish.induct lt with
  | case1 => simpa [Pile.finish] using hlatest
  | case2 patience latest run =>
    rw [Pile.finish]
    exact isRun_merge h (hruns run (List.mem_singleton_self run)) hlatest patience
  | case3 patience latest run before earlier hshort merged next e ih =>
    obtain ⟨hrun, hbefore, hearlier⟩ : IsRun key S run ∧ IsRun key S before ∧ ∀ r ∈ earlier, IsRun key S r := by
      simpa using hruns
    have hmerged := isRun_merge h hbefore hrun patience
    rw [e] at hmerged
    rw [Pile.finish, if_pos hshort, e]
    exact ih hlatest (List.forall_mem_cons.2 ⟨hmerged, hearlier⟩)
  | case4 patience latest run before earlier hshort merged next e ih =>
    obtain ⟨hrun, hrest⟩ := List.forall_mem_cons.1 hruns
    have hmerged := isRun_merge h hrun hlatest patience
    rw [e] at hmerged
    rw [Pile.finish, if_neg hshort, e]
    exact ih hmerged hrest

theorem Ascending.finish (h : OrderedBy lt key S) {p : Pile α} (hp : Ascending key S p) :
    IsRun key S (Pile.finish lt p.patience p.latest (p.earlier.map (·.1))) :=
  isRun_finish h hp.latest (List.forall_mem_map.2 hp.earlier)

theorem isRun_gather (h : OrderedBy lt key S) {n least fuel : Nat} {p : Pile α} {rest : List α}
    (hp : Ascending key S p) (hrest : ∀ x ∈ rest, S x) (hfuel : rest.length ≤ fuel) :
    IsRun key S (gather lt n least fuel p rest) := by
  induction fuel generalizing p rest with
  | zero =>
    rw [gather, List.length_eq_zero_iff.1 (Nat.le_zero.1 hfuel), List.append_nil]
    exact hp.finish h
  | succ fuel ih =>
    rw [gather]
    split
    · exact hp.finish h
    · next hsome =>
      have hlength := length_nextRun_lt lt least (mt List.isEmpty_iff.2 hsome)
      exact ih (hp.push h (isRun_nextRun h hrest least) n) (fun x hx => hrest x (mem_of_mem_nextRun hx))
        (Nat.le_of_lt_succ (hlength.trans_le hfuel))

theorem isRun_sort (h : OrderedBy lt key S) (hall : ∀ x ∈ as, S x) : IsRun key S (sort lt as) := by
  refine isRun_gather h ⟨isRun_nextRun h hall _, by simp⟩ (fun x hx => hall x (mem_of_mem_nextRun hx)) le_rfl

theorem sort_eq_of_perm (h : OrderedBy lt key S) (hall : ∀ x ∈ as, S x)
    (hinj : ∀ a b, S a → S b → key a = key b → a = b) (hperm : as.Perm bs) : sort lt as = sort lt bs := by
  have hrun := isRun_sort h hall
  have hrun' := isRun_sort h fun x hx => hall x (hperm.mem_iff.2 hx)
  have hsorted : (sort lt as).Perm (sort lt bs) := (sort_perm lt as).trans (hperm.trans (sort_perm lt bs).symm)
  refine hsorted.eq_of_pairwise (fun a b ha hb hab hba => ?_) hrun.ascending hrun'.ascending
  exact hinj a b (hrun.all a ha) (hrun'.all b hb) (le_antisymm hab hba)

end LedgerFlow.RunSort
