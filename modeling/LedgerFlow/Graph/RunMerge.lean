namespace LedgerFlow.RunMerge

variable {α : Type}

/-- The last place at which `p` was met and the first at which it was not, by leaps that double. -/
def leap (p : Nat → Bool) (n : Nat) : Nat → Nat → Nat → Nat × Nat
  | 0, last, next => (last, min next n)
  | fuel + 1, last, next =>
    if next < n && p next then leap p n fuel next (2 * next + 1) else (last, min next n)

/-- The place to try: of two in the middle the upper one going forward, the lower one going backward. -/
def middle (backward : Bool) (low high : Nat) : Nat :=
  if backward then high - 1 - (high - low) / 2 else low + (high - low) / 2

theorem middle_between {low high : Nat} (backward : Bool) (h : low < high) :
    low ≤ middle backward low high ∧ middle backward low high < high := by
  unfold middle
  split <;> omega

def halve (backward : Bool) (p : Nat → Bool) (low high : Nat) : Nat :=
  if low < high then
    if p (middle backward low high) then halve backward p (middle backward low high + 1) high
    else halve backward p low (middle backward low high)
  else low
termination_by high - low
decreasing_by
  all_goals
    have := middle_between backward ‹low < high›
    omega

def countBefore (backward : Bool) (p : Nat → Bool) (n : Nat) : Nat :=
  if 0 < n && p 0 then
    let (last, next) := leap p n n 0 1
    halve backward p (last + 1) next
  else 0

structure Runs (α : Type) where
  lt : α → α → Bool
  backward : Bool
  left : Array α
  right : Array α

/-- How far a merge is: what was taken from either side, the picks so far (the right side is `true`), and how
many wins in a row it takes to start leaping. -/
structure Progress where
  left : Nat
  right : Nat
  picks : List Bool
  patience : Nat

namespace Progress

def take (s : Progress) (right : Bool) (n : Nat) : Progress :=
  { s with
    left := if right then s.left else s.left + n
    right := if right then s.right + n else s.right
    picks := s.picks ++ List.replicate n right }

end Progress

namespace Runs

def isLeftNext (r : Runs α) (i j : Nat) : Bool :=
  match r.left[i]?, r.right[j]? with
  | some x, some y => if r.backward then r.lt y x else !r.lt y x
  | _, _ => false

def isOver (r : Runs α) (s : Progress) : Bool :=
  let left := r.left.size - s.left
  let right := r.right.size - s.right
  if r.backward then left = 0 || right ≤ 1 else left ≤ 1 || right = 0

def unlessOver (r : Runs α) (s : Progress) (next : Progress → Progress) : Progress :=
  if r.isOver s then s else next s

def leapLeft (r : Runs α) (s : Progress) : Nat :=
  countBefore r.backward (fun m => r.isLeftNext (s.left + m) s.right) (r.left.size - s.left)

def leapRight (r : Runs α) (s : Progress) : Nat :=
  countBefore r.backward (fun m => !r.isLeftNext s.left (s.right + m)) (r.right.size - s.right)

def worthwhile : Nat := 7

mutual

/-- One item at a time, until a side has won often enough; the wins in a row are those of either side. -/
def singly (r : Runs α) : Nat → Nat → Nat → Progress → Progress
  | 0, _, _, s => s
  | fuel + 1, lefts, rights, s =>
    let right := !r.isLeftNext s.left s.right
    let lefts := if right then 0 else lefts + 1
    let rights := if right then rights + 1 else 0
    r.unlessOver (s.take right 1) fun s =>
      if s.patience ≤ max lefts rights then r.leaping fuel { s with patience := s.patience + 1 }
      else r.singly fuel lefts rights s

def leaping (r : Runs α) : Nat → Progress → Progress
  | 0, s => s
  | fuel + 1, s =>
    let s := { s with patience := max 1 (s.patience - 1) }
    let lefts := r.leapLeft s
    r.unlessOver (s.take false lefts) fun s =>
      r.unlessOver (s.take true 1) fun s =>
        let rights := r.leapRight s
        r.unlessOver (s.take true rights) fun s =>
          r.unlessOver (s.take false 1) fun s =>
            if worthwhile ≤ max lefts rights then r.leaping fuel s
            else r.singly fuel 0 0 { s with patience := s.patience + 1 }

end

/-- The merge from its start: the first item is known to be one of the run that is not put aside. -/
def progress (r : Runs α) (patience : Nat) : Progress :=
  let start : Progress := ⟨0, 0, [], patience⟩
  r.unlessOver (start.take (!r.backward) 1) (r.singly (r.left.size + r.right.size) 0 0)

def picks (r : Runs α) (s : Progress) : List Bool :=
  if r.backward then s.picks else s.picks ++ List.replicate (r.right.size - s.right) true

end Runs

def interleave : List Bool → List α → List α → List α
  | true :: picks, as, b :: bs => b :: interleave picks as bs
  | false :: picks, a :: as, bs => a :: interleave picks as bs
  | _, as, bs => as ++ bs

def mergeInner (lt : α → α → Bool) (patience : Nat) (as bs : List α) : List α × Nat :=
  if as.length ≤ bs.length then
    let r : Runs α := ⟨lt, false, as.toArray, bs.toArray⟩
    let s := r.progress patience
    (interleave (r.picks s) as bs, s.patience)
  else
    let r : Runs α := ⟨lt, true, as.reverse.toArray, bs.reverse.toArray⟩
    let s := r.progress patience
    ((interleave (r.picks s) as.reverse bs.reverse).reverse, s.patience)

def inFront (lt : α → α → Bool) (as bs : List α) : Nat :=
  countBefore false (fun m => !(as[m]?.any fun a => bs.head?.any (lt · a))) as.length

def behind (lt : α → α → Bool) (as bs : List α) : Nat :=
  let upwards := bs.reverse
  countBefore true (fun m => !(upwards[m]?.any fun b => as.getLast?.any (lt b))) bs.length

def merge (lt : α → α → Bool) (patience : Nat) (as bs : List α) : List α × Nat :=
  let front := inFront lt as bs
  let inner := as.drop front
  if inner.isEmpty then (as ++ bs, patience)
  else
    let place := bs.length - behind lt inner bs
    if place = 0 then (as ++ bs, patience)
    else
      let (merged, patience) := mergeInner lt patience inner (bs.take place)
      (as.take front ++ merged ++ bs.drop place, patience)

theorem interleave_perm (picks : List Bool) (as bs : List α) : (interleave picks as bs).Perm (as ++ bs) := by
  induction picks generalizing as bs with
  | nil => simp [interleave]
  | cons pick picks ih =>
    cases pick with
    | true =>
      cases bs with
      | nil => simp [interleave]
      | cons b bs => exact ((ih as bs).cons b).trans List.perm_middle.symm
    | false =>
      cases as with
      | nil => simp [interleave]
      | cons a as => exact (ih as bs).cons a

theorem mergeInner_perm (lt : α → α → Bool) (patience : Nat) (as bs : List α) :
    (mergeInner lt patience as bs).1.Perm (as ++ bs) := by
  unfold mergeInner
  split
  · exact interleave_perm _ _ _
  · exact (List.reverse_perm _).trans ((interleave_perm _ _ _).trans
      ((List.reverse_perm as).append (List.reverse_perm bs)))

theorem merge_perm (lt : α → α → Bool) (patience : Nat) (as bs : List α) :
    (merge lt patience as bs).1.Perm (as ++ bs) := by
  simp only [merge]
  split
  · exact .refl _
  · split
    · exact .refl _
    · generalize inFront lt as bs = front
      generalize bs.length - behind lt (as.drop front) bs = place
      have h := mergeInner_perm lt patience (as.drop front) (bs.take place)
      have e : as ++ bs = as.take front ++ (as.drop front ++ bs.take place) ++ bs.drop place := by
        rw [List.append_assoc, List.append_assoc, List.take_append_drop, ← List.append_assoc,
          List.take_append_drop]
      rw [e]
      exact (h.append_left _).append_right _

end LedgerFlow.RunMerge
