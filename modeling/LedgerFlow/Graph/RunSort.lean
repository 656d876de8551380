import LedgerFlow.Graph.RunMerge

/-!
Sorting by runs: a run with which a list begins is kept, turned round where it falls. A run that is too short
is made longer, each further item being put into its place, which is found by halving. Neighbouring runs are
merged; which ones are merged first depends on where they lie in the whole. For an order that is linear this
is the sorted list; for one with items that nothing compares to, where an item ends up depends on where the
halving and the merging meet them.
-/

namespace LedgerFlow.RunSort

variable {α : Type}

def falling (lt : α → α → Bool) (a : α) : List α → Nat
  | [] => 0
  | b :: rest => if lt b a then falling lt b rest + 1 else 0

def rising (lt : α → α → Bool) (a : α) : List α → Nat
  | [] => 0
  | b :: rest => if lt b a then 0 else rising lt b rest + 1

def firstRun (lt : α → α → Bool) : List α → List α × List α
  | [] => ([], [])
  | [a] => ([a], [])
  | a :: b :: rest =>
    if lt b a then
      let n := falling lt b rest
      ((a :: b :: rest.take n).reverse, rest.drop n)
    else
      let n := rising lt b rest
      (a :: b :: rest.take n, rest.drop n)

def placeOf (lt : α → α → Bool) (a : α) (sorted : List α) (low high : Nat) : Nat :=
  if low < high then
    let middle := (low + high) / 2
    if sorted[middle]?.any (lt a) then placeOf lt a sorted low middle
    else placeOf lt a sorted (middle + 1) high
  else low
termination_by high - low
decreasing_by
  all_goals omega

def insert (lt : α → α → Bool) (sorted : List α) (a : α) : List α :=
  let place := placeOf lt a sorted 0 sorted.length
  sorted.take place ++ a :: sorted.drop place

/-- The least length of a run of a list of `n` items: a short list is one run, a longer one is halved until it
is short, and then rounded up. -/
def leastRun (n : Nat) (odd : Bool) : Nat :=
  if n < 64 then if odd then n + 1 else n
  else leastRun (n / 2) (odd || n % 2 = 1)
termination_by n
decreasing_by omega

def nextRun (lt : α → α → Bool) (least : Nat) (as : List α) : List α × List α :=
  let (run, rest) := firstRun lt as
  let missing := least - run.length
  ((rest.take missing).foldl (insert lt) run, rest.drop missing)

structure Pile (α : Type) where
  latest : List α
  earlier : List (List α × Nat)
  patience : Nat

/-- The power of the border between two runs: the place of the first binary digit in which their middles
differ, as fractions of the whole. -/
def borderPower (n : Nat) : Nat → Nat → Nat → Nat
  | 0, _, _ => 0
  | fuel + 1, a, b =>
    if n ≤ a then borderPower n fuel (2 * (a - n)) (2 * (b - n)) + 1
    else if n ≤ b then 1
    else borderPower n fuel (2 * a) (2 * b) + 1

namespace Pile

def items (p : Pile α) : List α := (p.earlier.map (·.1)).reverse.flatten ++ p.latest

def settle (lt : α → α → Bool) (power : Nat) (latest : List α) (patience : Nat) :
    List (List α × Nat) → Pile α
  | [] => ⟨latest, [], patience⟩
  | (run, border) :: earlier =>
    if power < border then
      let (merged, patience) := RunMerge.merge lt patience run latest
      settle lt power merged patience earlier
    else ⟨latest, (run, border) :: earlier, patience⟩

def push (lt : α → α → Bool) (n : Nat) (p : Pile α) (run : List α) : Pile α :=
  let start := (p.earlier.map (·.1.length)).foldl (· + ·) 0
  let a := 2 * start + p.latest.length
  let power := borderPower n (n + 1) a (a + p.latest.length + run.length)
  let settled := settle lt power p.latest p.patience p.earlier
  { settled with latest := run, earlier := (settled.latest, power) :: settled.earlier }

/-- Merges what is left: the two latest runs, or the two before the latest if the first of them is shorter
than the latest. -/
def finish (lt : α → α → Bool) (patience : Nat) (latest : List α) : List (List α) → List α
  | [] => latest
  | [run] => (RunMerge.merge lt patience run latest).1
  | run :: before :: earlier =>
    if before.length < latest.length then
      let (merged, patience) := RunMerge.merge lt patience before run
      finish lt patience latest (merged :: earlier)
    else
      let (merged, patience) := RunMerge.merge lt patience run latest
      finish lt patience merged (before :: earlier)
termination_by runs => runs.length

end Pile

def gather (lt : α → α → Bool) (n least : Nat) : Nat → Pile α → List α → List α
  | 0, p, rest => Pile.finish lt p.patience p.latest (p.earlier.map (·.1)) ++ rest
  | fuel + 1, p, rest =>
    if rest.isEmpty then Pile.finish lt p.patience p.latest (p.earlier.map (·.1))
    else
      let (run, rest) := nextRun lt least rest
      gather lt n least fuel (p.push lt n run) rest

def firstPatience : Nat := 7

def sort (lt : α → α → Bool) (as : List α) : List α :=
  let least := leastRun as.length false
  let (run, rest) := nextRun lt least as
  gather lt as.length least rest.length ⟨run, [], firstPatience⟩ rest

theorem insert_perm (lt : α → α → Bool) (sorted : List α) (a : α) : (insert lt sorted a).Perm (a :: sorted) := by
  refine List.perm_middle.trans (List.Perm.cons a ?_)
  rw [List.take_append_drop]

theorem firstRun_perm (lt : α → α → Bool) (as : List α) :
    ((firstRun lt as).1 ++ (firstRun lt as).2).Perm as := by
  match as with
  | [] => exact .nil
  | [a] => exact .refl _
  | a :: b :: rest =>
    by_cases h : lt b a
    · simp only [firstRun, h, if_true]
      refine ((List.reverse_perm _).append_right _).trans ?_
      simp
    · simp [firstRun, h]

theorem foldl_insert_perm (lt : α → α → Bool) (rest run : List α) :
    (rest.foldl (insert lt) run).Perm (run ++ rest) := by
  induction rest generalizing run with
  | nil => simp
  | cons a rest ih =>
    refine (ih _).trans (((insert_perm lt run a).append_right rest).trans ?_)
    exact List.perm_middle.symm

theorem nextRun_perm (lt : α → α → Bool) (least : Nat) (as : List α) :
    ((nextRun lt least as).1 ++ (nextRun lt least as).2).Perm as := by
  simp only [nextRun]
  refine ((foldl_insert_perm lt _ _).append_right _).trans ?_
  rw [List.append_assoc, List.take_append_drop]
  exact firstRun_perm lt as

namespace Pile

theorem settle_perm (lt : α → α → Bool) (power : Nat) (latest : List α) (patience : Nat)
    (earlier : List (List α × Nat)) :
    (settle lt power latest patience earlier).items.Perm ((earlier.map (·.1)).reverse.flatten ++ latest) := by
  induction earlier generalizing latest patience with
  | nil => simp [settle, items]
  | cons e earlier ih =>
    simp only [settle]
    split
    · refine (ih _ _).trans ?_
      simp only [List.map_cons, List.reverse_cons, List.flatten_append, List.flatten_singleton,
        List.append_assoc]
      exact (RunMerge.merge_perm lt patience e.1 latest).append_left _
    · exact .refl _

theorem push_perm (lt : α → α → Bool) (n : Nat) (p : Pile α) (run : List α) :
    (p.push lt n run).items.Perm (p.items ++ run) := by
  simp only [push, items, List.map_cons, List.reverse_cons, List.flatten_append, List.flatten_singleton]
  exact (settle_perm lt _ p.latest p.patience p.earlier).append_right run

theorem finish_perm (lt : α → α → Bool) (patience : Nat) (latest : List α) (runs : List (List α)) :
    (finish lt patience latest runs).Perm (runs.reverse.flatten ++ latest) := by
  induction patience, latest, runs using finish.induct lt with
  | case1 => simp [finish]
  | case2 patience latest run => simpa [finish] using RunMerge.merge_perm lt patience run latest
  | case3 patience latest run before earlier h merged next e ih =>
    have h' := RunMerge.merge_perm lt patience before run
    rw [e] at h'
    rw [finish, if_pos h, e]
    refine ih.trans ?_
    simp only [List.reverse_cons, List.flatten_append, List.flatten_singleton, List.append_assoc]
    refine List.Perm.append_left _ ?_
    rw [← List.append_assoc]
    exact h'.append_right latest
  | case4 patience latest run before earlier h merged next e ih =>
    have h' := RunMerge.merge_perm lt patience run latest
    rw [e] at h'
    rw [finish, if_neg h, e]
    refine ih.trans ?_
    simp only [List.reverse_cons, List.flatten_append, List.flatten_singleton, List.append_assoc]
    exact (h'.append_left _).append_left _

end Pile

theorem gather_perm (lt : α → α → Bool) (n least fuel : Nat) (p : Pile α) (rest : List α) :
    (gather lt n least fuel p rest).Perm (p.items ++ rest) := by
  induction fuel generalizing p rest with
  | zero => exact (Pile.finish_perm lt _ _ _).append_right rest
  | succ fuel ih =>
    simp only [gather]
    split
    · next h =>
      rw [List.isEmpty_iff.mp h, List.append_nil]
      exact Pile.finish_perm lt _ _ _
    · refine (ih _ _).trans (((Pile.push_perm lt n p _).append_right _).trans ?_)
      rw [List.append_assoc]
      exact (nextRun_perm lt least rest).append_left _

theorem sort_perm (lt : α → α → Bool) (as : List α) : (sort lt as).Perm as :=
  (gather_perm lt _ _ _ _ _).trans (nextRun_perm lt _ as)

end LedgerFlow.RunSort
