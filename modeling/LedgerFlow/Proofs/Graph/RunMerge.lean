import LedgerFlow.Graph.RunMerge
import Mathlib.Order.Lattice

namespace LedgerFlow.RunMerge

variable {α : Type}

structure Boundary (p : Nat → Bool) (n k : Nat) : Prop where
  le : k ≤ n
  before : 0 < k → p (k - 1) = true
  beyond : k < n → p k = false

theorem leap_spec {p : Nat → Bool} {n fuel last next : Nat} (hlast : p last = true) (hlt : last < n)
    (hnext : last < next) (hfuel : n ≤ next + fuel) :
    p (leap p n fuel last next).1 = true ∧ (leap p n fuel last next).1 < (leap p n fuel last next).2 ∧
      (leap p n fuel last next).2 ≤ n ∧ ((leap p n fuel last next).2 < n → p (leap p n fuel last next).2 = false) := by
  induction fuel generalizing last next with
  | zero =>
    have hn : min next n = n := Nat.min_eq_right (by omega)
    simp [leap, hn, hlast, hlt]
  | succ fuel ih =>
    rw [leap]
    split
    · next h =>
      rw [Bool.and_eq_true, decide_eq_true_eq] at h
      exact ih h.2 h.1 (by omega) (by omega)
    · next h =>
      rw [Bool.and_eq_true, decide_eq_true_eq, not_and, Bool.not_eq_true] at h
      refine ⟨hlast, by simp only [Nat.lt_min]; exact ⟨hnext, hlt⟩, Nat.min_le_right _ _, fun hn => ?_⟩
      have hn' : next < n := by omega
      rw [Nat.min_eq_left (Nat.le_of_lt hn')]
      exact h hn'

theorem halve_spec {backward : Bool} {p : Nat → Bool} {n low high : Nat} (hle : low ≤ high) (hn : high ≤ n)
    (hlow : 0 < low → p (low - 1) = true) (hhigh : high < n → p high = false) :
    Boundary p n (halve backward p low high) := by
  induction low, high using halve.induct backward p with
  | case1 low high hlt hp ih =>
    have hmiddle := middle_between backward hlt
    rw [halve, if_pos hlt, if_pos hp]
    exact ih (by omega) hn (fun _ => by simpa using hp) hhigh
  | case2 low high hlt hp ih =>
    have hmiddle := middle_between backward hlt
    rw [halve, if_pos hlt, if_neg hp]
    exact ih (by omega) (by omega) hlow fun _ => by simpa using hp
  | case3 low high hlt =>
    have heq : low = high := by omega
    rw [halve, if_neg hlt]
    exact ⟨by omega, hlow, heq ▸ hhigh⟩

theorem boundary_countBefore (backward : Bool) (p : Nat → Bool) (n : Nat) :
    Boundary p n (countBefore backward p n) := by
  unfold countBefore
  split
  · next h =>
    rw [Bool.and_eq_true, decide_eq_true_eq] at h
    obtain ⟨hlast, hlt, hn, hnext⟩ := leap_spec h.2 h.1 (Nat.zero_lt_succ 0) (Nat.le_add_left n 1)
    exact halve_spec hlt hn (fun _ => by simpa using hlast) hnext
  · next h =>
    rw [Bool.and_eq_true, decide_eq_true_eq, not_and, Bool.not_eq_true] at h
    exact ⟨Nat.zero_le n, by omega, h⟩

section

variable {Q : α → α → Prop} {picks : List Bool} {as bs : List α} {n : Nat}

/-- Each pick takes an item that may come before all that are left of the other list, and what is picked from neither
list is in order as it stands. -/
inductive Fits (Q : α → α → Prop) : List Bool → List α → List α → Prop
  | rest {as bs : List α} (h : ∀ a ∈ as, ∀ b ∈ bs, Q a b) : Fits Q [] as bs
  | left {picks : List Bool} {a : α} {as bs : List α} (h : ∀ b ∈ bs, Q a b) (fits : Fits Q picks as bs) :
    Fits Q (false :: picks) (a :: as) bs
  | right {picks : List Bool} {b : α} {as bs : List α} (h : ∀ a ∈ as, Q b a) (fits : Fits Q picks as bs) :
    Fits Q (true :: picks) as (b :: bs)

theorem pairwise_interleave (h : Fits Q picks as bs) (ha : as.Pairwise Q) (hb : bs.Pairwise Q) :
    (interleave picks as bs).Pairwise Q := by
  induction h with
  | rest h => exact List.pairwise_append.2 ⟨ha, hb, h⟩
  | @left picks a as bs h _ ih =>
    refine List.pairwise_cons.2 ⟨fun c hc => ?_, ih (List.pairwise_cons.1 ha).2 hb⟩
    obtain hc | hc := List.mem_append.1 ((interleave_perm picks as bs).mem_iff.1 hc)
    · exact List.rel_of_pairwise_cons ha hc
    · exact h c hc
  | @right picks b as bs h _ ih =>
    refine List.pairwise_cons.2 ⟨fun c hc => ?_, ih ha (List.pairwise_cons.1 hb).2⟩
    obtain hc | hc := List.mem_append.1 ((interleave_perm picks as bs).mem_iff.1 hc)
    · exact h c hc
    · exact List.rel_of_pairwise_cons hb hc

theorem fits_replicate_left (hn : n ≤ as.length) (h : ∀ a ∈ as.take n, ∀ b ∈ bs, Q a b)
    (fits : Fits Q picks (as.drop n) bs) : Fits Q (List.replicate n false ++ picks) as bs := by
  induction n generalizing as with
  | zero => exact fits
  | succ n ih =>
    cases as with
    | nil => simp at hn
    | cons a as =>
      rw [List.take_succ_cons, List.forall_mem_cons] at h
      exact .left h.1 (ih (by simpa using hn) h.2 fits)

theorem fits_replicate_right (hn : n ≤ bs.length) (h : ∀ b ∈ bs.take n, ∀ a ∈ as, Q b a)
    (fits : Fits Q picks as (bs.drop n)) : Fits Q (List.replicate n true ++ picks) as bs := by
  induction n generalizing bs with
  | zero => exact fits
  | succ n ih =>
    cases bs with
    | nil => simp at hn
    | cons b bs =>
      rw [List.take_succ_cons, List.forall_mem_cons] at h
      exact .right h.1 (ih (by simpa using hn) h.2 fits)

theorem forall_mem_drop {c b : α} {j : Nat} (htrans : ∀ a b c, Q a b → Q b c → Q a c) (hb : bs.Pairwise Q)
    (hj : bs[j]? = some b) (h : Q c b) : ∀ x ∈ bs.drop j, Q c x := by
  obtain ⟨hlt, rfl⟩ := List.getElem?_eq_some_iff.1 hj
  have hdrop := hb.drop (i := j)
  rw [List.drop_eq_getElem_cons hlt] at hdrop ⊢
  intro x hx
  obtain rfl | hx := List.mem_cons.1 hx
  · exact h
  · exact htrans _ _ _ h (List.rel_of_pairwise_cons hdrop hx)

theorem forall_mem_take {a c : α} {j : Nat} (htrans : ∀ a b c, Q a b → Q b c → Q a c) (ha : as.Pairwise Q)
    (hj : as[j]? = some a) (h : Q a c) : ∀ x ∈ as.take (j + 1), Q x c := by
  obtain ⟨hlt, rfl⟩ := List.getElem?_eq_some_iff.1 hj
  have htake := ha.take (i := j + 1)
  rw [List.take_add_one, List.getElem?_eq_getElem hlt] at htake ⊢
  intro x hx
  obtain hx | hx := List.mem_append.1 hx
  · exact htrans _ _ _ ((List.pairwise_append.1 htake).2.2 x hx _ (by simp)) h
  · obtain rfl := List.mem_singleton.1 hx
    exact h

theorem Boundary.split {p : Nat → Bool} {k : Nat} {c : α} (hk : Boundary p as.length k)
    (htrans : ∀ a b c, Q a b → Q b c → Q a c) (ha : as.Pairwise Q)
    (hbefore : ∀ i a, as[i]? = some a → p i = true → Q a c) (hbeyond : ∀ i a, as[i]? = some a → p i = false → Q c a) :
    (∀ x ∈ as.take k, Q x c) ∧ ∀ x ∈ as.drop k, Q c x := by
  constructor
  · cases k with
    | zero => simp
    | succ k =>
      have hitem := List.getElem?_eq_getElem (Nat.lt_of_succ_le hk.le)
      exact forall_mem_take htrans ha hitem (hbefore k _ hitem (hk.before (Nat.succ_pos k)))
  · obtain hend | hlt := hk.le.eq_or_lt
    · simp [hend]
    · have hitem := List.getElem?_eq_getElem hlt
      exact forall_mem_drop htrans ha hitem (hbeyond k _ hitem (hk.beyond hlt))

end

namespace Runs

structure Ordered (r : Runs α) (Q : α → α → Prop) : Prop where
  trans : ∀ a b c, Q a b → Q b c → Q a c
  left : r.left.toList.Pairwise Q
  right : r.right.toList.Pairwise Q
  leftNext : ∀ {i j a b}, r.left.toList[i]? = some a → r.right.toList[j]? = some b → r.isLeftNext i j = true → Q a b
  rightNext : ∀ {i j a b}, r.left.toList[i]? = some a → r.right.toList[j]? = some b → r.isLeftNext i j = false → Q b a

/-- The picks so far are right, whatever right picks may follow. -/
structure Sound (r : Runs α) (Q : α → α → Prop) (s : Progress) : Prop where
  left_le : s.left ≤ r.left.toList.length
  right_le : s.right ≤ r.right.toList.length
  fits : ∀ picks, Fits Q picks (r.left.toList.drop s.left) (r.right.toList.drop s.right) →
    Fits Q (s.picks ++ picks) r.left.toList r.right.toList

def remaining (r : Runs α) (s : Progress) : Nat := (r.left.size - s.left) + (r.right.size - s.right)

structure Ends (r : Runs α) (Q : α → α → Prop) (s : Progress) : Prop where
  sound : r.Sound Q s
  ended : r.isOver s = true

variable {r : Runs α} {Q : α → α → Prop} {s : Progress} {n : Nat}

theorem lt_of_isOver_eq_false (h : r.isOver s = false) :
    s.left < r.left.toList.length ∧ s.right < r.right.toList.length := by
  simp only [Array.length_toList]
  unfold isOver at h
  cases hb : r.backward <;> simp [hb] at h <;> omega

theorem isOver_of_remaining (h : r.remaining s = 0) : r.isOver s = true := by
  unfold remaining at h
  unfold isOver
  cases r.backward <;> simp <;> omega

theorem Sound.take_left (h : r.Sound Q s) (hn : s.left + n ≤ r.left.toList.length)
    (hQ : ∀ a ∈ (r.left.toList.drop s.left).take n, ∀ b ∈ r.right.toList.drop s.right, Q a b) :
    r.Sound Q (s.take false n) where
  left_le := hn
  right_le := h.right_le
  fits picks hpicks := by
    have hfits : Fits Q (List.replicate n false ++ picks) (r.left.toList.drop s.left)
        (r.right.toList.drop s.right) := by
      refine fits_replicate_left ?_ hQ ?_
      · rw [List.length_drop]
        omega
      · rw [List.drop_drop]
        exact hpicks
    simpa [Progress.take] using h.fits _ hfits

theorem Sound.take_right (h : r.Sound Q s) (hn : s.right + n ≤ r.right.toList.length)
    (hQ : ∀ b ∈ (r.right.toList.drop s.right).take n, ∀ a ∈ r.left.toList.drop s.left, Q b a) :
    r.Sound Q (s.take true n) where
  left_le := h.left_le
  right_le := hn
  fits picks hpicks := by
    have hfits : Fits Q (List.replicate n true ++ picks) (r.left.toList.drop s.left)
        (r.right.toList.drop s.right) := by
      refine fits_replicate_right ?_ hQ ?_
      · rw [List.length_drop]
        omega
      · rw [List.drop_drop]
        exact hpicks
    simpa [Progress.take] using h.fits _ hfits

theorem ends_unlessOver {next : Progress → Progress} (h : r.Sound Q s)
    (hnext : r.isOver s = false → r.Ends Q (next s)) : r.Ends Q (r.unlessOver s next) := by
  unfold unlessOver
  split
  · next hover => exact ⟨h, hover⟩
  · next hover => exact hnext (by simpa using hover)

theorem Ordered.take_left (ho : r.Ordered Q) (h : r.Sound Q s) (hright : s.right < r.right.toList.length)
    (hn : s.left + n ≤ r.left.toList.length) (hnext : 0 < n → r.isLeftNext (s.left + (n - 1)) s.right = true) :
    r.Sound Q (s.take false n) := by
  refine h.take_left hn ?_
  cases n with
  | zero => simp
  | succ n =>
    have hlast : s.left + n < r.left.toList.length := by omega
    have hQ : ∀ b ∈ r.right.toList.drop s.right, Q r.left.toList[s.left + n] b :=
      forall_mem_drop ho.trans ho.right (List.getElem?_eq_getElem hright)
        (ho.leftNext (List.getElem?_eq_getElem hlast) (List.getElem?_eq_getElem hright) (hnext (Nat.succ_pos n)))
    intro a ha b hb
    refine forall_mem_take ho.trans (ho.left.drop (i := s.left)) ?_ (hQ b hb) a ha
    rw [List.getElem?_drop, List.getElem?_eq_getElem hlast]

theorem Ordered.take_right (ho : r.Ordered Q) (h : r.Sound Q s) (hleft : s.left < r.left.toList.length)
    (hn : s.right + n ≤ r.right.toList.length) (hnext : 0 < n → r.isLeftNext s.left (s.right + (n - 1)) = false) :
    r.Sound Q (s.take true n) := by
  refine h.take_right hn ?_
  cases n with
  | zero => simp
  | succ n =>
    have hlast : s.right + n < r.right.toList.length := by omega
    have hQ : ∀ a ∈ r.left.toList.drop s.left, Q r.right.toList[s.right + n] a :=
      forall_mem_drop ho.trans ho.left (List.getElem?_eq_getElem hleft)
        (ho.rightNext (List.getElem?_eq_getElem hleft) (List.getElem?_eq_getElem hlast) (hnext (Nat.succ_pos n)))
    intro b hb a ha
    refine forall_mem_take ho.trans (ho.right.drop (i := s.right)) ?_ (hQ a ha) b hb
    rw [List.getElem?_drop, List.getElem?_eq_getElem hlast]

theorem remaining_take_left (h : s.left + n ≤ r.left.toList.length) :
    r.remaining (s.take false n) + n = r.remaining s := by
  simp only [remaining, Progress.take, Array.length_toList] at h ⊢
  simp only [Bool.false_eq_true, if_false]
  omega

theorem remaining_take_right (h : s.right + n ≤ r.right.toList.length) :
    r.remaining (s.take true n) + n = r.remaining s := by
  simp only [remaining, Progress.take, Array.length_toList] at h ⊢
  simp only [if_true]
  omega

theorem Sound.setPatience (h : r.Sound Q s) (patience : Nat) : r.Sound Q { s with patience := patience } :=
  ⟨h.left_le, h.right_le, h.fits⟩

theorem Ordered.leapLeft (ho : r.Ordered Q) (h : r.Sound Q s) (hright : s.right < r.right.toList.length) :
    r.Sound Q (s.take false (r.leapLeft s)) ∧ s.left + r.leapLeft s ≤ r.left.toList.length ∧
      (s.left + r.leapLeft s < r.left.toList.length → r.isLeftNext (s.left + r.leapLeft s) s.right = false) := by
  have hb : Boundary (fun m => r.isLeftNext (s.left + m) s.right) (r.left.toList.length - s.left) (r.leapLeft s) :=
    boundary_countBefore _ _ _
  have hn : s.left + r.leapLeft s ≤ r.left.toList.length := by
    have hle := hb.le
    have hleft := h.left_le
    omega
  exact ⟨ho.take_left h hright hn hb.before, hn, fun hlt => hb.beyond (by omega)⟩

theorem Ordered.leapRight (ho : r.Ordered Q) (h : r.Sound Q s) (hleft : s.left < r.left.toList.length) :
    r.Sound Q (s.take true (r.leapRight s)) ∧ s.right + r.leapRight s ≤ r.right.toList.length ∧
      (s.right + r.leapRight s < r.right.toList.length → r.isLeftNext s.left (s.right + r.leapRight s) = true) := by
  have hb : Boundary (fun m => !r.isLeftNext s.left (s.right + m)) (r.right.toList.length - s.right)
      (r.leapRight s) :=
    boundary_countBefore _ _ _
  have hn : s.right + r.leapRight s ≤ r.right.toList.length := by
    have hle := hb.le
    have hright := h.right_le
    omega
  exact ⟨ho.take_right h hleft hn fun hpos => by simpa using hb.before hpos, hn,
    fun hlt => by simpa using hb.beyond (by omega)⟩

theorem Ordered.take_next (ho : r.Ordered Q) (h : r.Sound Q s) (hover : r.isOver s = false) :
    r.Sound Q (s.take (!r.isLeftNext s.left s.right) 1) ∧
      r.remaining (s.take (!r.isLeftNext s.left s.right) 1) + 1 = r.remaining s := by
  obtain ⟨hleft, hright⟩ := lt_of_isOver_eq_false hover
  cases hnext : r.isLeftNext s.left s.right with
  | true => exact ⟨ho.take_left h hright hleft fun _ => hnext, remaining_take_left hleft⟩
  | false => exact ⟨ho.take_right h hleft hright fun _ => hnext, remaining_take_right hright⟩

theorem ends_singly_leaping (ho : r.Ordered Q) (fuel : Nat) :
    (∀ lefts rights s, r.Sound Q s → r.isOver s = false → r.remaining s ≤ fuel →
      r.Ends Q (r.singly fuel lefts rights s)) ∧
      ∀ s, r.Sound Q s → r.isOver s = false → r.remaining s ≤ fuel → r.Ends Q (r.leaping fuel s) := by
  induction fuel with
  | zero =>
    have never : ∀ s, r.isOver s = false → r.remaining s ≤ 0 → False := by
      intro s hover hfuel
      rw [isOver_of_remaining (Nat.le_zero.1 hfuel)] at hover
      cases hover
    exact ⟨fun _ _ s _ hover hfuel => (never s hover hfuel).elim, fun s _ hover hfuel => (never s hover hfuel).elim⟩
  | succ fuel ih =>
    obtain ⟨singly, leaping⟩ := ih
    constructor
    · intro lefts rights s h hover hfuel
      obtain ⟨htaken, hremaining⟩ := ho.take_next h hover
      have hless := Nat.le_of_succ_le_succ (hremaining.trans_le hfuel)
      rw [Runs.singly]
      refine ends_unlessOver htaken fun hover' => iteInduction (fun _ => ?_) fun _ => ?_
      · exact leaping _ (htaken.setPatience _) hover' hless
      · exact singly _ _ _ htaken hover' hless
    · intro s h hover hfuel
      obtain ⟨-, hright⟩ := lt_of_isOver_eq_false hover
      have h₀ := h.setPatience (max 1 (s.patience - 1))
      have hremaining₀ : r.remaining { s with patience := max 1 (s.patience - 1) } = r.remaining s := rfl
      obtain ⟨h₁, hn₁, hend₁⟩ := ho.leapLeft h₀ hright
      have hremaining₁ := remaining_take_left (r := r) hn₁
      rw [Runs.leaping]
      refine ends_unlessOver h₁ fun hover₁ => ?_
      obtain ⟨hleft₁, hright₁⟩ := lt_of_isOver_eq_false hover₁
      have h₂ := ho.take_right (n := 1) h₁ hleft₁ hright₁ fun _ => hend₁ hleft₁
      have hremaining₂ := remaining_take_right (r := r) (n := 1) hright₁
      refine ends_unlessOver h₂ fun hover₂ => ?_
      obtain ⟨hleft₂, -⟩ := lt_of_isOver_eq_false hover₂
      obtain ⟨h₃, hn₃, hend₃⟩ := ho.leapRight h₂ hleft₂
      have hremaining₃ := remaining_take_right (r := r) hn₃
      refine ends_unlessOver h₃ fun hover₃ => ?_
      obtain ⟨hleft₃, hright₃⟩ := lt_of_isOver_eq_false hover₃
      have h₄ := ho.take_left (n := 1) h₃ hright₃ hleft₃ fun _ => hend₃ hright₃
      have hremaining₄ := remaining_take_left (r := r) (n := 1) hleft₃
      have hfuel₄ := hremaining₄.trans_le (by omega : _ ≤ fuel + 1)
      refine ends_unlessOver h₄ fun hover₄ => iteInduction (fun _ => ?_) fun _ => ?_
      · exact leaping _ h₄ hover₄ (Nat.le_of_succ_le_succ hfuel₄)
      · exact singly _ _ _ (h₄.setPatience _) hover₄ (Nat.le_of_succ_le_succ hfuel₄)

theorem sound_start (r : Runs α) (Q : α → α → Prop) (patience : Nat) : r.Sound Q ⟨0, 0, [], patience⟩ :=
  ⟨Nat.zero_le _, Nat.zero_le _, fun _ hpicks => hpicks⟩

theorem ends_progress (ho : r.Ordered Q) {patience : Nat}
    (h : r.Sound Q ((⟨0, 0, [], patience⟩ : Progress).take (!r.backward) 1)) : r.Ends Q (r.progress patience) := by
  refine ends_unlessOver h fun hover => (ends_singly_leaping ho _).1 _ _ _ h hover ?_
  unfold remaining
  omega

theorem forall_mem_drop_of_getLast {P : α → Prop} {as : List α} {a : α} {k : Nat} (hlast : as.getLast? = some a)
    (hk : as.length - k ≤ 1) (h : P a) : ∀ x ∈ as.drop k, P x := by
  intro x hx
  have hlength : (as.drop k).length ≤ 1 := by simpa using hk
  have hlast' : (as.drop k).getLast? = some x := by
    obtain ⟨y, hy⟩ := List.length_eq_one_iff.1 (Nat.le_antisymm hlength (List.length_pos_of_mem hx))
    rw [hy] at hx ⊢
    rw [List.mem_singleton.1 hx]
    rfl
  rw [List.getLast?_drop] at hlast'
  split at hlast'
  · cases hlast'
  · rw [hlast] at hlast'
    cases hlast'
    exact h

theorem fits_picks_forward (ho : r.Ordered Q) (hforward : r.backward = false) {x y : α}
    (hfirst : r.right.toList.head? = some y) (hy : ∀ a ∈ r.left.toList, Q y a)
    (hlast : r.left.toList.getLast? = some x) (hx : ∀ b ∈ r.right.toList, Q b x) (patience : Nat) :
    Fits Q (r.picks (r.progress patience)) r.left.toList r.right.toList := by
  have hstart : r.Sound Q ((⟨0, 0, [], patience⟩ : Progress).take (!r.backward) 1) := by
    obtain ⟨rest, hrest⟩ := List.head?_eq_some_iff.1 hfirst
    rw [hforward]
    refine (sound_start r Q patience).take_right ?_ ?_
    · simp [hrest]
    · simpa [hrest] using hy
  obtain ⟨hsound, hover⟩ := ends_progress ho hstart
  generalize r.progress patience = s at hsound hover
  have hover' : r.left.toList.length - s.left ≤ 1 ∨ r.right.toList.length - s.right = 0 := by
    simpa [isOver, hforward] using hover
  have hrest : Fits Q (List.replicate (r.right.size - s.right) true) (r.left.toList.drop s.left)
      (r.right.toList.drop s.right) := by
    rw [← List.append_nil (List.replicate _ _)]
    refine fits_replicate_right (by simp) (fun b hb a ha => ?_) ?_
    · obtain hleft | hright := hover'
      · exact forall_mem_drop_of_getLast (P := (Q b ·)) hlast hleft
          (hx b (List.mem_of_mem_drop (List.mem_of_mem_take hb))) a ha
      · rw [List.drop_eq_nil_of_le (by omega), List.take_nil] at hb
        cases hb
    · have hnone : r.right.toList.drop (s.right + (r.right.size - s.right)) = [] :=
        List.drop_eq_nil_of_le (by rw [Array.length_toList]; omega)
      rw [List.drop_drop, hnone]
      exact .rest (by simp)
  simpa [picks, hforward] using hsound.fits _ hrest

theorem fits_picks_backward (ho : r.Ordered Q) (hbackward : r.backward = true) {x y : α}
    (hfirst : r.left.toList.head? = some x) (hx : ∀ b ∈ r.right.toList, Q x b)
    (hlast : r.right.toList.getLast? = some y) (hy : ∀ a ∈ r.left.toList, Q a y) (patience : Nat) :
    Fits Q (r.picks (r.progress patience)) r.left.toList r.right.toList := by
  have hstart : r.Sound Q ((⟨0, 0, [], patience⟩ : Progress).take (!r.backward) 1) := by
    obtain ⟨rest, hrest⟩ := List.head?_eq_some_iff.1 hfirst
    rw [hbackward]
    refine (sound_start r Q patience).take_left ?_ ?_
    · simp [hrest]
    · simpa [hrest] using hx
  obtain ⟨hsound, hover⟩ := ends_progress ho hstart
  generalize r.progress patience = s at hsound hover
  have hover' : r.left.toList.length - s.left = 0 ∨ r.right.toList.length - s.right ≤ 1 := by
    simpa [isOver, hbackward] using hover
  have hrest : Fits Q [] (r.left.toList.drop s.left) (r.right.toList.drop s.right) := by
    refine .rest fun a ha b hb => ?_
    obtain hleft | hright := hover'
    · rw [List.drop_eq_nil_of_le (by omega)] at ha
      cases ha
    · exact forall_mem_drop_of_getLast (P := (Q a ·)) hlast hright (hy a (List.mem_of_mem_drop ha)) b hb
  simpa [picks, hbackward] using hsound.fits _ hrest

end Runs

section

variable {K : Type} [LinearOrder K] {lt : α → α → Bool} {key : α → K} {S : α → Prop} {as bs : List α}

def OrderedBy (lt : α → α → Bool) (key : α → K) (S : α → Prop) : Prop :=
  ∀ a b, S a → S b → (lt a b = true ↔ key a < key b)

structure IsRun (key : α → K) (S : α → Prop) (as : List α) : Prop where
  all : ∀ a ∈ as, S a
  ascending : as.Pairwise (key · ≤ key ·)

theorem OrderedBy.le_of_not (h : OrderedBy lt key S) {a b : α} (ha : S a) (hb : S b) (hlt : lt a b = false) :
    key b ≤ key a :=
  not_lt.1 fun hkey => by rw [(h a b ha hb).2 hkey] at hlt; cases hlt

theorem IsRun.append (ha : IsRun key S as) (hb : IsRun key S bs) (h : ∀ a ∈ as, ∀ b ∈ bs, key a ≤ key b) :
    IsRun key S (as ++ bs) where
  all a hmem := (List.mem_append.1 hmem).elim (ha.all a) (hb.all a)
  ascending := List.pairwise_append.2 ⟨ha.ascending, hb.ascending, h⟩

theorem IsRun.head_le (h : IsRun key S as) {a : α} (hfirst : as.head? = some a) : ∀ x ∈ as, key a ≤ key x := by
  obtain ⟨rest, rfl⟩ := List.head?_eq_some_iff.1 hfirst
  exact List.forall_mem_cons.2 ⟨le_rfl, fun x hx => List.rel_of_pairwise_cons h.ascending hx⟩

theorem IsRun.le_last (h : IsRun key S as) {a : α} (hlast : as.getLast? = some a) : ∀ x ∈ as, key x ≤ key a := by
  obtain ⟨rest, rfl⟩ := List.getLast?_eq_some_iff.1 hlast
  intro x hx
  obtain hx | hx := List.mem_append.1 hx
  · exact (List.pairwise_append.1 h.ascending).2.2 x hx a (List.mem_singleton_self a)
  · rw [List.mem_singleton.1 hx]

theorem IsRun.sublist (h : IsRun key S bs) (hsub : as.Sublist bs) : IsRun key S as :=
  ⟨fun a ha => h.all a (hsub.subset ha), h.ascending.sublist hsub⟩

theorem ordered_forward (h : OrderedBy lt key S) (ha : IsRun key S as) (hb : IsRun key S bs) :
    (⟨lt, false, as.toArray, bs.toArray⟩ : Runs α).Ordered (key · ≤ key ·) where
  trans _ _ _ := le_trans
  left := ha.ascending
  right := hb.ascending
  leftNext {i j a b} hi hj hnext := by
    simp only at hi hj
    have hlt : lt b a = false := by simpa [Runs.isLeftNext, hi, hj] using hnext
    exact h.le_of_not (hb.all b (List.mem_of_getElem? hj)) (ha.all a (List.mem_of_getElem? hi)) hlt
  rightNext {i j a b} hi hj hnext := by
    simp only at hi hj
    have hlt : lt b a = true := by simpa [Runs.isLeftNext, hi, hj] using hnext
    exact ((h b a (hb.all b (List.mem_of_getElem? hj)) (ha.all a (List.mem_of_getElem? hi))).1 hlt).le

theorem ordered_backward (h : OrderedBy lt key S) (ha : IsRun key S as) (hb : IsRun key S bs) :
    (⟨lt, true, as.reverse.toArray, bs.reverse.toArray⟩ : Runs α).Ordered (fun a b => key b ≤ key a) where
  trans _ _ _ h₁ h₂ := le_trans h₂ h₁
  left := List.pairwise_reverse.2 ha.ascending
  right := List.pairwise_reverse.2 hb.ascending
  leftNext {i j a b} hi hj hnext := by
    simp only at hi hj
    have hlt : lt b a = true := by simpa [Runs.isLeftNext, hi, hj] using hnext
    exact ((h b a (hb.all b (List.mem_reverse.1 (List.mem_of_getElem? hj)))
      (ha.all a (List.mem_reverse.1 (List.mem_of_getElem? hi)))).1 hlt).le
  rightNext {i j a b} hi hj hnext := by
    simp only at hi hj
    have hlt : lt b a = false := by simpa [Runs.isLeftNext, hi, hj] using hnext
    exact h.le_of_not (hb.all b (List.mem_reverse.1 (List.mem_of_getElem? hj)))
      (ha.all a (List.mem_reverse.1 (List.mem_of_getElem? hi))) hlt

theorem isRun_mergeInner (h : OrderedBy lt key S) (ha : IsRun key S as) (hb : IsRun key S bs) {x y : α}
    (hfirst : bs.head? = some y) (hy : ∀ a ∈ as, key y ≤ key a) (hlast : as.getLast? = some x)
    (hx : ∀ b ∈ bs, key b ≤ key x) (patience : Nat) : IsRun key S (mergeInner lt patience as bs).1 := by
  refine ⟨fun c hc => ?_, ?_⟩
  · obtain hc | hc := List.mem_append.1 ((mergeInner_perm lt patience as bs).mem_iff.1 hc)
    · exact ha.all c hc
    · exact hb.all c hc
  · unfold mergeInner
    split
    · have hfits := Runs.fits_picks_forward (ordered_forward h ha hb) rfl hfirst hy hlast hx patience
      exact pairwise_interleave hfits ha.ascending hb.ascending
    · have ho := ordered_backward h ha hb
      have hfits := Runs.fits_picks_backward ho rfl (by simpa using hlast) (by simpa using hx) (by simpa using hfirst)
        (by simpa using hy) patience
      exact List.pairwise_reverse.2 (pairwise_interleave hfits ho.left ho.right)

theorem inFront_spec (h : OrderedBy lt key S) (ha : IsRun key S as) {b : α} (hSb : S b) (hfirst : bs.head? = some b) :
    (∀ x ∈ as.take (inFront lt as bs), key x ≤ key b) ∧ ∀ x ∈ as.drop (inFront lt as bs), key b ≤ key x := by
  refine (boundary_countBefore false _ as.length).split (Q := (key · ≤ key ·)) (fun _ _ _ => le_trans) ha.ascending
    (fun i a hi hp => ?_) fun i a hi hp => ?_
  · have hlt : lt b a = false := by simpa [hi, hfirst] using hp
    exact h.le_of_not hSb (ha.all a (List.mem_of_getElem? hi)) hlt
  · have hlt : lt b a = true := by simpa [hi, hfirst] using hp
    exact ((h b a hSb (ha.all a (List.mem_of_getElem? hi))).1 hlt).le

theorem behind_spec (h : OrderedBy lt key S) (hb : IsRun key S bs) {a : α} (hSa : S a) (hlast : as.getLast? = some a) :
    (∀ x ∈ bs.drop (bs.length - behind lt as bs), key a ≤ key x) ∧
      ∀ x ∈ bs.take (bs.length - behind lt as bs), key x ≤ key a := by
  have hS : ∀ i b, bs.reverse[i]? = some b → S b := fun i b hi =>
    hb.all b (List.mem_reverse.1 (List.mem_of_getElem? hi))
  have hboundary := boundary_countBefore true (fun m => !(bs.reverse[m]?.any fun b => as.getLast?.any (lt b)))
    bs.reverse.length
  have hsplit := hboundary.split (Q := fun x y => key y ≤ key x) (c := a) (fun _ _ _ h₁ h₂ => le_trans h₂ h₁)
    (List.pairwise_reverse.2 hb.ascending) (fun i b hi hp => ?_) fun i b hi hp => ?_
  · rw [List.length_reverse, List.take_reverse, List.drop_reverse] at hsplit
    simpa [behind] using hsplit
  · have hlt : lt b a = false := by simpa only [hi, hlast, Option.any_some, Bool.not_eq_true'] using hp
    exact h.le_of_not (hS i b hi) hSa hlt
  · have hlt : lt b a = true := by simpa only [hi, hlast, Option.any_some, Bool.not_eq_false'] using hp
    exact ((h b a (hS i b hi) hSa).1 hlt).le

theorem merge_nil (lt : α → α → Bool) (patience : Nat) (as : List α) : merge lt patience as [] = (as, patience) := by
  simp [merge]

theorem isRun_merge (h : OrderedBy lt key S) (ha : IsRun key S as) (hb : IsRun key S bs) (patience : Nat) :
    IsRun key S (merge lt patience as bs).1 := by
  cases hfirst : bs.head? with
  | none =>
    rw [List.head?_eq_none_iff.1 hfirst, merge_nil]
    exact ha
  | some b =>
    obtain ⟨hbefore, hbeyond⟩ := inFront_spec h ha (hb.all b (List.mem_of_mem_head? hfirst)) hfirst
    simp only [merge]
    generalize inFront lt as bs = front at hbefore hbeyond
    have hfront : IsRun key S (as.take front) := ha.sublist (List.take_sublist _ _)
    have hfront_le : ∀ x ∈ as.take front, ∀ y ∈ bs, key x ≤ key y := fun x hx y hy =>
      (hbefore x hx).trans (hb.head_le hfirst y hy)
    have hinner : IsRun key S (as.drop front) := ha.sublist (List.drop_sublist _ _)
    cases hlast : (as.drop front).getLast? with
    | none =>
      have hnone : as.drop front = [] := List.getLast?_eq_none_iff.1 hlast
      have hall : as.take front = as := by simpa [hnone] using List.take_append_drop front as
      rw [hnone, if_pos List.isEmpty_nil]
      exact ha.append hb (hall ▸ hfront_le)
    | some a =>
      obtain ⟨hbehind, hwithin⟩ := behind_spec h hb (hinner.all a (List.mem_of_getLast? hlast)) hlast
      generalize behind lt (as.drop front) bs = back at hbehind hwithin
      have hback : IsRun key S (bs.drop (bs.length - back)) := hb.sublist (List.drop_sublist _ _)
      have hback_le : ∀ x ∈ as.drop front, ∀ y ∈ bs.drop (bs.length - back), key x ≤ key y := fun x hx y hy =>
        (hinner.le_last hlast x hx).trans (hbehind y hy)
      have hsome : (as.drop front).isEmpty = false := by
        rw [← Bool.not_eq_true, List.isEmpty_iff, ← List.getLast?_eq_none_iff, hlast]
        exact Option.some_ne_none a
      rw [hsome, if_neg Bool.false_ne_true]
      split
      · next hplace =>
        rw [hplace, List.drop_zero] at hback_le
        refine ha.append hb fun x hx => ?_
        rw [← List.take_append_drop front as] at hx
        exact (List.mem_append.1 hx).elim (hfront_le x) (hback_le x)
      · next hplace =>
        have hkept : IsRun key S (bs.take (bs.length - back)) := hb.sublist (List.take_sublist _ _)
        have hhead : (bs.take (bs.length - back)).head? = some b := by rw [List.head?_take, if_neg hplace, hfirst]
        have hmerged := isRun_mergeInner h hinner hkept hhead hbeyond hlast hwithin patience
        have hmem : ∀ c ∈ (mergeInner lt patience (as.drop front) (bs.take (bs.length - back))).1,
            key b ≤ key c ∧ key c ≤ key a := by
          intro c hc
          obtain hc | hc := List.mem_append.1 ((mergeInner_perm _ _ _ _).mem_iff.1 hc)
          · exact ⟨hbeyond c hc, hinner.le_last hlast c hc⟩
          · exact ⟨hkept.head_le hhead c hc, hwithin c hc⟩
        refine (hfront.append hmerged fun x hx c hc => (hbefore x hx).trans (hmem c hc).1).append hback ?_
        intro c hc y hy
        obtain hc | hc := List.mem_append.1 hc
        · exact hfront_le c hc y (List.mem_of_mem_drop hy)
        · exact (hmem c hc).2.trans (hbehind y hy)

end

end LedgerFlow.RunMerge
