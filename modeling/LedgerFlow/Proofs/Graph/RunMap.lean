import LedgerFlow.Graph.RunSort

namespace LedgerFlow

variable {α β : Type} {f : α → β} {lt : α → α → Bool} {lt' : β → β → Bool}

namespace RunMerge

theorem interleave_map (f : α → β) (picks : List Bool) (as bs : List α) :
    interleave picks (as.map f) (bs.map f) = (interleave picks as bs).map f := by
  induction picks generalizing as bs with
  | nil => simp [interleave]
  | cons pick picks ih =>
    cases pick with
    | true =>
      cases bs with
      | nil => simp [interleave]
      | cons b bs => simpa [interleave] using ih as bs
    | false =>
      cases as with
      | nil => simp [interleave]
      | cons a as => simpa [interleave] using ih as bs

namespace Runs

structure Alike (r : Runs α) (r' : Runs β) : Prop where
  backward : r'.backward = r.backward
  left : r'.left.size = r.left.size
  right : r'.right.size = r.right.size
  isLeftNext : r'.isLeftNext = r.isLeftNext

variable {r : Runs α} {r' : Runs β}

theorem Alike.unlessOver (h : r.Alike r') : r'.unlessOver = r.unlessOver := by
  funext s next
  rw [Runs.unlessOver, Runs.unlessOver, isOver, isOver, h.backward, h.left, h.right]

theorem Alike.leapLeft (h : r.Alike r') : r'.leapLeft = r.leapLeft := by
  funext s
  rw [Runs.leapLeft, Runs.leapLeft, h.backward, h.left, h.isLeftNext]

theorem Alike.leapRight (h : r.Alike r') : r'.leapRight = r.leapRight := by
  funext s
  rw [Runs.leapRight, Runs.leapRight, h.backward, h.right, h.isLeftNext]

theorem Alike.turns (h : r.Alike r') (fuel : Nat) :
    (∀ lefts rights s, r'.singly fuel lefts rights s = r.singly fuel lefts rights s) ∧
      ∀ s, r'.leaping fuel s = r.leaping fuel s := by
  induction fuel with
  | zero => exact ⟨fun _ _ _ => rfl, fun _ => rfl⟩
  | succ fuel ih =>
    constructor
    · intro lefts rights s
      simp only [singly, h.isLeftNext, h.unlessOver, ih.1, ih.2]
    · intro s
      simp only [leaping, h.leapLeft, h.leapRight, h.unlessOver, ih.1, ih.2]

theorem Alike.progress (h : r.Alike r') (patience : Nat) : r'.progress patience = r.progress patience := by
  have hturns := funext ((h.turns (r.left.size + r.right.size)).1 0 0)
  simp only [Runs.progress, h.backward, h.left, h.right, h.unlessOver, hturns]

theorem Alike.picks (h : r.Alike r') : r'.picks = r.picks := by
  funext s
  rw [Runs.picks, Runs.picks, h.backward, h.right]

theorem alike_map (hlt : ∀ a b, lt' (f a) (f b) = lt a b) (backward : Bool) (as bs : List α) :
    Alike ⟨lt, backward, as.toArray, bs.toArray⟩ ⟨lt', backward, (as.map f).toArray, (bs.map f).toArray⟩ where
  backward := rfl
  left := by simp
  right := by simp
  isLeftNext := by
    funext i j
    simp only [Runs.isLeftNext, List.getElem?_toArray, List.getElem?_map]
    cases as[i]? with
    | none => rfl
    | some a =>
      cases bs[j]? with
      | none => rfl
      | some b => simp [hlt]

end Runs

variable (hlt : ∀ a b, lt' (f a) (f b) = lt a b)

include hlt

theorem mergeInner_map (patience : Nat) (as bs : List α) :
    mergeInner lt' patience (as.map f) (bs.map f) =
      ((mergeInner lt patience as bs).1.map f, (mergeInner lt patience as bs).2) := by
  have hforward := Runs.alike_map hlt false as bs
  have hbackward := Runs.alike_map hlt true as.reverse bs.reverse
  unfold mergeInner
  simp only [List.length_map, ← List.map_reverse, hforward.progress, hforward.picks, hbackward.progress,
    hbackward.picks, interleave_map]
  split
  · rfl
  · simp only [List.map_reverse]

theorem inFront_map (as bs : List α) : inFront lt' (as.map f) (bs.map f) = inFront lt as bs := by
  unfold inFront
  simp only [List.length_map, List.getElem?_map, List.head?_map, Option.any_map, hlt]

theorem behind_map (as bs : List α) : behind lt' (as.map f) (bs.map f) = behind lt as bs := by
  unfold behind
  simp only [List.length_map, ← List.map_reverse, List.getElem?_map, List.getLast?_map, Option.any_map, hlt]

theorem merge_map (patience : Nat) (as bs : List α) :
    merge lt' patience (as.map f) (bs.map f) = ((merge lt patience as bs).1.map f, (merge lt patience as bs).2) := by
  unfold merge
  simp only [inFront_map hlt, ← List.map_drop, ← List.map_take, behind_map hlt, mergeInner_map hlt, List.length_map,
    List.isEmpty_map, ← List.map_append]
  split
  · rfl
  · split <;> rfl

end RunMerge

namespace RunSort

variable (hlt : ∀ a b, lt' (f a) (f b) = lt a b)

include hlt

theorem falling_map (a : α) (as : List α) : falling lt' (f a) (as.map f) = falling lt a as := by
  induction as generalizing a with
  | nil => rfl
  | cons b as ih => simp [falling, hlt, ih]

theorem rising_map (a : α) (as : List α) : rising lt' (f a) (as.map f) = rising lt a as := by
  induction as generalizing a with
  | nil => rfl
  | cons b as ih => simp [rising, hlt, ih]

theorem firstRun_map (as : List α) :
    firstRun lt' (as.map f) = ((firstRun lt as).1.map f, (firstRun lt as).2.map f) := by
  match as with
  | [] => rfl
  | [a] => rfl
  | a :: b :: rest =>
    simp only [List.map_cons, firstRun, hlt, falling_map hlt, rising_map hlt]
    split <;> simp

theorem placeOf_map (a : α) (sorted : List α) (low high : Nat) :
    placeOf lt' (f a) (sorted.map f) low high = placeOf lt a sorted low high := by
  induction low, high using placeOf.induct lt a sorted with
  | case1 low high hlow middle hany ih =>
    rw [placeOf, placeOf, if_pos hlow, if_pos hlow]
    simp only [List.getElem?_map, Option.any_map, hlt]
    rw [if_pos hany, if_pos hany, ih]
  | case2 low high hlow middle hany ih =>
    rw [placeOf, placeOf, if_pos hlow, if_pos hlow]
    simp only [List.getElem?_map, Option.any_map, hlt]
    rw [if_neg hany, if_neg hany, ih]
  | case3 low high hlow => rw [placeOf, placeOf, if_neg hlow, if_neg hlow]

theorem insert_map (sorted : List α) (a : α) : insert lt' (sorted.map f) (f a) = (insert lt sorted a).map f := by
  simp [insert, placeOf_map hlt]

theorem foldl_insert_map (rest run : List α) :
    (rest.map f).foldl (insert lt') (run.map f) = (rest.foldl (insert lt) run).map f := by
  induction rest generalizing run with
  | nil => rfl
  | cons a rest ih => rw [List.map_cons, List.foldl_cons, List.foldl_cons, insert_map hlt, ih]

theorem nextRun_map (least : Nat) (as : List α) :
    nextRun lt' least (as.map f) = ((nextRun lt least as).1.map f, (nextRun lt least as).2.map f) := by
  simp only [nextRun, firstRun_map hlt, List.length_map, ← List.map_take, ← List.map_drop, foldl_insert_map hlt]

namespace Pile

def map (f : α → β) (p : Pile α) : Pile β :=
  ⟨p.latest.map f, p.earlier.map fun e => (e.1.map f, e.2), p.patience⟩

theorem settle_map (power : Nat) (latest : List α) (patience : Nat) (earlier : List (List α × Nat)) :
    settle lt' power (latest.map f) patience (earlier.map fun e => (e.1.map f, e.2)) =
      (settle lt power latest patience earlier).map f := by
  induction earlier generalizing latest patience with
  | nil => rfl
  | cons e earlier ih =>
    simp only [List.map_cons, settle, RunMerge.merge_map hlt]
    split
    · exact ih _ _
    · rfl

theorem push_map (n : Nat) (p : Pile α) (run : List α) :
    (p.map f).push lt' n (run.map f) = (p.push lt n run).map f := by
  have hlengths : (p.earlier.map fun e => (e.1.map f, e.2)).map (·.1.length) = p.earlier.map (·.1.length) := by
    simp [Function.comp_def]
  simp only [push, map, hlengths, List.length_map, settle_map hlt, List.map_cons]

theorem finish_map (patience : Nat) (latest : List α) (runs : List (List α)) :
    finish lt' patience (latest.map f) (runs.map (List.map f)) = (finish lt patience latest runs).map f := by
  induction patience, latest, runs using finish.induct lt with
  | case1 => simp [finish]
  | case2 patience latest run => simp [finish, RunMerge.merge_map hlt]
  | case3 patience latest run before earlier h merged next e ih =>
    have h' : (before.map f).length < (latest.map f).length := by simpa using h
    rw [List.map_cons, List.map_cons, finish, finish, if_pos h, if_pos h', RunMerge.merge_map hlt, e]
    exact ih
  | case4 patience latest run before earlier h merged next e ih =>
    have h' : ¬(before.map f).length < (latest.map f).length := by simpa using h
    rw [List.map_cons, List.map_cons, finish, finish, if_neg h, if_neg h', RunMerge.merge_map hlt, e]
    exact ih

end Pile

theorem gather_map (n least fuel : Nat) (p : Pile α) (rest : List α) :
    gather lt' n least fuel (p.map f) (rest.map f) = (gather lt n least fuel p rest).map f := by
  have hfinish : ∀ p : Pile α, Pile.finish lt' (p.map f).patience (p.map f).latest ((p.map f).earlier.map (·.1)) =
      (Pile.finish lt p.patience p.latest (p.earlier.map (·.1))).map f := by
    intro p
    rw [← Pile.finish_map hlt]
    simp [Pile.map, Function.comp_def]
  induction fuel generalizing p rest with
  | zero => simp only [gather, hfinish, List.map_append]
  | succ fuel ih =>
    simp only [gather, List.isEmpty_map, nextRun_map hlt, Pile.push_map hlt, ih, hfinish]
    split <;> rfl

theorem sort_map (as : List α) : sort lt' (as.map f) = (sort lt as).map f := by
  simp only [sort, List.length_map, nextRun_map hlt]
  exact gather_map hlt _ _ _ ⟨_, [], firstPatience⟩ _

end RunSort

end LedgerFlow
