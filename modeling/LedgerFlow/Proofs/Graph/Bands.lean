import LedgerFlow.Proofs.Graph.Distances

namespace LedgerFlow

namespace Node

def IsPlaced (n : Node) : Prop := n.position.x.value.isNaN = false ∧ n.position.y.value.isNaN = false

variable {m n top : Node} {epsilon : Number}

theorem IsPlaced.comparable (hm : m.IsPlaced) (hn : n.IsPlaced) : m.Comparable n :=
  ⟨.inl ⟨hm.1, hn.1⟩, .inl ⟨hm.2, hn.2⟩⟩

theorem IsPlaced.y_le (htop : top.IsPlaced) (hn : n.IsPlaced) (h : n ≠ top → top.above n = true) :
    top.position.y.value.rank ≤ n.position.y.value.rank := by
  by_cases heq : n = top
  · rw [heq]
  · obtain hlt | ⟨heq, -⟩ := rank_lt_iff.1 ((htop.comparable hn).above_iff.1 (h heq))
    · exact hlt.le
    · exact heq.le

theorem isBeyond_iff (heps : epsilon.IsNonneg) :
    n.isBeyond epsilon top.position.y.value = true ↔
      epsilon.rank < (n.position.y.value.sub top.position.y.value).rank :=
  Number.isBelow_iff heps _

theorem y_lt_of_isBeyond (heps : epsilon.IsNonneg) (htop : top.IsPlaced)
    (hn : top.position.y.value.rank ≤ n.position.y.value.rank)
    (hin : m.isBeyond epsilon top.position.y.value = false) (hout : n.isBeyond epsilon top.position.y.value = true) :
    m.position.y.value.rank < n.position.y.value.rank := by
  by_contra hle
  have hfar := Binary64.rank_sub_mono htop.2 hn (not_lt.1 hle)
  rw [← Bool.not_eq_true, isBeyond_iff heps] at hin
  exact hin (((isBeyond_iff heps).1 hout).trans_le hfar)

theorem isBeyond_self (heps : epsilon.IsNonneg) (n : Node) : n.isBeyond epsilon n.position.y.value = false := by
  rw [← Bool.not_eq_true, isBeyond_iff heps]
  exact ((Binary64.rank_sub_self _).trans heps.le_rank).not_gt

end Node

/-- Nodes divided into bands from the top. A band starts at the topmost node that is left, it holds just those that are
left and not beyond it, and it lists them from the left, by their ids where they are equally far to the right. -/
inductive Banding (epsilon : Number) : List Node → List (List Node) → Prop
  | nil : Banding epsilon [] []
  | cons {nodes band : List Node} {bands : List (List Node)} (top : Node) (htop : top ∈ nodes)
      (habove : ∀ n ∈ nodes, n ≠ top → top.above n = true)
      (hband : band.Perm (nodes.filter fun n => !n.isBeyond epsilon top.position.y.value))
      (hrow : band.Pairwise fun m n => m.leftOf n = true)
      (hrest : Banding epsilon (nodes.filter fun n => n.isBeyond epsilon top.position.y.value) bands) :
      Banding epsilon nodes (band :: bands)

namespace Banding

variable {epsilon : Number} {nodes ns : List Node} {bands : List (List Node)}

theorem congr (h : Banding epsilon nodes bands) (hperm : nodes.Perm ns) : Banding epsilon ns bands := by
  induction h generalizing ns with
  | nil => rw [List.nil_perm.1 hperm]; exact .nil
  | cons top htop habove hband hrow hrest ih =>
    exact .cons top (hperm.mem_iff.1 htop) (fun n hn => habove n (hperm.mem_iff.2 hn)) (hband.trans (hperm.filter _)) hrow
      (ih (hperm.filter _))

theorem mem_of_mem (h : Banding epsilon nodes bands) : ∀ band ∈ bands, ∀ n ∈ band, n ∈ nodes := by
  induction h with
  | nil => simp
  | cons top htop habove hband hrow hrest ih =>
    intro band' hb n hn
    obtain rfl | hb := List.mem_cons.1 hb
    · exact List.mem_of_mem_filter (hband.mem_iff.1 hn)
    · exact List.mem_of_mem_filter (ih _ hb n hn)

theorem pairwise (heps : epsilon.IsNonneg) (hplaced : ∀ n ∈ nodes, n.IsPlaced) (h : Banding epsilon nodes bands) :
    bands.Pairwise fun upper lower => ∀ m ∈ upper, ∀ n ∈ lower, m.position.y.lt n.position.y = true := by
  induction h with
  | nil => exact .nil
  | cons top htop habove hband hrow hrest ih =>
    refine List.pairwise_cons.2 ⟨fun band hb m hm n hn => ?_, ih fun n hn => hplaced n (List.mem_of_mem_filter hn)⟩
    obtain ⟨hmem, hin⟩ := List.mem_filter.1 (hband.mem_iff.1 hm)
    obtain ⟨hnem, hout⟩ := List.mem_filter.1 (hrest.mem_of_mem band hb n hn)
    have hle := (hplaced top htop).y_le (hplaced n hnem) (habove n hnem)
    have hcomparable := (hplaced m hmem).comparable (hplaced n hnem)
    exact hcomparable.2.lt_iff.2 (Node.y_lt_of_isBeyond heps (hplaced top htop) hle (by simpa using hin) hout)

end Banding

theorem takeWhile_eq_filter {α : Type} {p : α → Bool} {l : List α} (h : l.Pairwise fun a b => p b = true → p a = true) :
    l.takeWhile p = l.filter p ∧ l.dropWhile p = l.filter fun a => !p a := by
  induction h with
  | nil => simp
  | @cons a l ha _ ih =>
    cases hp : p a with
    | true => simp [hp, ih]
    | false =>
      have hnone : ∀ b ∈ l, p b = false := fun b hb => by simpa [hp] using ha b hb
      rw [List.takeWhile_cons_of_neg (by simp [hp]), List.dropWhile_cons_of_neg (by simp [hp]),
        List.filter_cons_of_neg (by simp [hp]), List.filter_cons_of_pos (by simp [hp])]
      exact ⟨(List.filter_eq_nil_iff.2 fun b hb => by simp [hnone b hb]).symm,
        congrArg (a :: ·) (List.filter_eq_self.2 fun b hb => by simp [hnone b hb]).symm⟩

theorem append_filter {α : Type} {p : α → Bool} {l : List α} (h : l.Pairwise fun a b => p b = true → p a = true) :
    l.filter p ++ l.filter (fun a => !p a) = l := by
  rw [← (takeWhile_eq_filter h).1, ← (takeWhile_eq_filter h).2, List.takeWhile_append_dropWhile]

def bandsAt (epsilon : Number) (band : ℕ) : List Node → List Banded
  | [] => []
  | n :: rest => ⟨band, n⟩ :: bandsFrom epsilon band n.position.y.value rest

section

variable {epsilon : Number} {nodes ns : List Node} {band : ℕ}

theorem bands_eq (epsilon : Number) (nodes : List Node) : bands epsilon nodes = bandsAt epsilon 0 nodes := by
  cases nodes <;> rfl

theorem bandsFrom_eq (epsilon : Number) (band : ℕ) (top : Binary64) (rest : List Node) :
    bandsFrom epsilon band top rest =
      (rest.takeWhile fun n => !n.isBeyond epsilon top).map (⟨band, ·⟩) ++
        bandsAt epsilon (band + 1) (rest.dropWhile fun n => !n.isBeyond epsilon top) := by
  induction rest with
  | nil => rfl
  | cons n rest ih =>
    cases h : n.isBeyond epsilon top <;> simp [bandsFrom, bandsAt, h, ih]

theorem le_band_of_mem {b : Banded} (hb : b ∈ bandsAt epsilon band nodes) : band ≤ b.band := by
  have hfrom : ∀ (rest : List Node) (top : Binary64) (k : ℕ), ∀ b ∈ bandsFrom epsilon k top rest, k ≤ b.band := by
    intro rest
    induction rest with
    | nil => simp [bandsFrom]
    | cons n rest ih =>
      intro top k b hb
      unfold bandsFrom at hb
      split at hb
      · obtain rfl | hb := List.mem_cons.1 hb
        · exact Nat.le_succ k
        · exact (Nat.le_succ k).trans (ih _ _ b hb)
      · obtain rfl | hb := List.mem_cons.1 hb
        · exact le_rfl
        · exact ih _ _ b hb
  cases nodes with
  | nil => cases hb
  | cons n rest =>
    obtain rfl | hb := List.mem_cons.1 hb
    · exact le_rfl
    · exact hfrom _ _ _ b hb

namespace Banded

def rank (b : Banded) : ℕ ×ₗ (ℕ ×ₗ ℚ) ×ₗ String := toLex (b.band, b.node.rowRank)

variable {a b : Banded}

theorem rank_lt_iff : a.rank < b.rank ↔ a.band < b.band ∨ a.band = b.band ∧ a.node.rowRank < b.node.rowRank :=
  Prod.Lex.toLex_lt_toLex

theorem before_iff (ha : a.node.IsPlaced) (hb : b.node.IsPlaced) : a.before b = true ↔ a.rank < b.rank := by
  rw [before, rank_lt_iff, ← Node.leftOf_iff (ha.comparable hb).1]
  by_cases h : a.band = b.band <;> simp [h]

theorem orderedBy_before : RunMerge.OrderedBy before rank (·.node.IsPlaced) := fun _ _ => before_iff

end Banded

theorem exists_row {first : List Node} {later sorted : List Banded}
    (hperm : sorted.Perm (first.map (⟨band, ·⟩) ++ later)) (hlater : ∀ b ∈ later, band < b.band)
    (hrank : sorted.Pairwise (·.rank < ·.rank)) :
    ∃ row lower, sorted = row ++ lower ∧ (∀ b ∈ row, b.band = band) ∧ (row.map (·.node)).Perm first ∧
      lower.Perm later := by
  have hle : ∀ b ∈ sorted, band ≤ b.band := by
    intro b hb
    obtain hb | hb := List.mem_append.1 (hperm.mem_iff.1 hb)
    · obtain ⟨n, -, rfl⟩ := List.mem_map.1 hb
      exact le_rfl
    · exact (hlater b hb).le
  have hclosed : sorted.Pairwise fun a b => (b.band == band) = true → (a.band == band) = true := by
    refine hrank.imp_of_mem fun {a b} ha _ hab hb => ?_
    have hband : a.band ≤ b.band := (Banded.rank_lt_iff.1 hab).elim le_of_lt fun heq => heq.1.le
    have ha := hle a ha
    simp only [beq_iff_eq] at hb ⊢
    omega
  have hfirst : ((first.map fun n => (⟨band, n⟩ : Banded)) ++ later).filter (·.band == band) =
      first.map (⟨band, ·⟩) := by
    rw [List.filter_append, List.filter_eq_self.2, List.filter_eq_nil_iff.2, List.append_nil]
    · intro b hb
      simpa using (hlater b hb).ne'
    · simp
  have hrest : ((first.map fun n => (⟨band, n⟩ : Banded)) ++ later).filter (fun b => !(b.band == band)) = later := by
    rw [List.filter_append, List.filter_eq_nil_iff.2, List.filter_eq_self.2, List.nil_append]
    · intro b hb
      simpa using (hlater b hb).ne'
    · simp
  refine ⟨_, _, (append_filter hclosed).symm, ?_, ?_, ?_⟩
  · intro b hb
    exact beq_iff_eq.1 (List.mem_filter.1 hb).2
  · have hrow := (hperm.filter (·.band == band)).map (·.node)
    have hnodes : first.map ((·.node) ∘ fun n => (⟨band, n⟩ : Banded)) = first := List.map_id first
    rwa [hfirst, List.map_map, hnodes] at hrow
  · have hlower := hperm.filter fun b => !(b.band == band)
    rwa [hrest] at hlower

theorem exists_banding (band : ℕ) (heps : epsilon.IsNonneg) (hplaced : ∀ n ∈ nodes, n.IsPlaced)
    (hsorted : nodes.Pairwise (·.rank < ·.rank)) {sorted : List Banded}
    (hperm : sorted.Perm (bandsAt epsilon band nodes)) (hrank : sorted.Pairwise (·.rank < ·.rank)) :
    ∃ bands, Banding epsilon nodes bands ∧ sorted.map (·.node) = bands.flatten := by
  induction hn : nodes.length using Nat.strongRecOn generalizing nodes band sorted with
  | ind k ih =>
    cases nodes with
    | nil =>
      rw [List.perm_nil.1 hperm]
      exact ⟨[], .nil, rfl⟩
    | cons top rest =>
      obtain ⟨htop, hrest⟩ := List.pairwise_cons.1 hsorted
      obtain ⟨hptop, hprest⟩ := List.forall_mem_cons.1 hplaced
      have hy : ∀ {m n : Node}, m.rank < n.rank → m.position.y.value.rank ≤ n.position.y.value.rank := fun h =>
        (Node.rank_lt_iff.1 h).elim le_of_lt fun heq => heq.1.le
      -- what is further down than a node beyond the band is beyond it as well
      have hclosed : rest.Pairwise fun m n => (!n.isBeyond epsilon top.position.y.value) = true →
          (!m.isBeyond epsilon top.position.y.value) = true := by
        refine hrest.imp_of_mem fun {m n} hm _ hmn hin => ?_
        by_contra hout
        refine absurd (Node.y_lt_of_isBeyond (m := n) (n := m) heps hptop (hy (htop m hm)) ?_ ?_) (hy hmn).not_gt
        · simpa using hin
        · simpa using hout
      have hself := Node.isBeyond_self heps top
      have hlist : bandsAt epsilon band (top :: rest) =
          ((top :: rest).filter fun n => !n.isBeyond epsilon top.position.y.value).map (⟨band, ·⟩) ++
            bandsAt epsilon (band + 1) ((top :: rest).filter fun n => n.isBeyond epsilon top.position.y.value) := by
        rw [bandsAt, bandsFrom_eq, (takeWhile_eq_filter hclosed).1, (takeWhile_eq_filter hclosed).2]
        simp [hself]
      obtain ⟨row, lower, rfl, hband, hrow, hlower⟩ := exists_row (hlist ▸ hperm) (fun b hb => le_band_of_mem hb) hrank
      obtain ⟨hrowRank, hlowerRank, -⟩ := List.pairwise_append.1 hrank
      have hfewer : ((top :: rest).filter fun n => n.isBeyond epsilon top.position.y.value).length < k := by
        rw [List.filter_cons_of_neg (by simp [hself]), ← hn, List.length_cons]
        exact Nat.lt_succ_of_le (List.length_filter_le _ _)
      obtain ⟨bands, hbands, hflatten⟩ := ih _ hfewer (band + 1) (fun n hn => hplaced n (List.mem_of_mem_filter hn))
        (hsorted.filter _) hlower hlowerRank rfl
      refine ⟨row.map (·.node) :: bands, .cons top List.mem_cons_self ?_ hrow ?_ hbands, ?_⟩
      · intro n hn hne
        obtain rfl | hn := List.mem_cons.1 hn
        · exact absurd rfl hne
        · exact (hptop.comparable (hprest n hn)).above_iff.2 (htop n hn)
      · have hplacedRow : ∀ b ∈ row, b.node.IsPlaced := fun b hb =>
          hplaced b.node (List.mem_of_mem_filter (hrow.mem_iff.1 (List.mem_map_of_mem hb)))
        refine List.pairwise_map.2 (hrowRank.imp_of_mem fun {a b} ha hb hab => ?_)
        rw [Node.leftOf_iff ((hplacedRow a ha).comparable (hplacedRow b hb)).1]
        exact ((Banded.rank_lt_iff.1 hab).resolve_left (by rw [hband a ha, hband b hb]; exact lt_irrefl _)).2
      · rw [List.map_append, hflatten, List.flatten_cons]

theorem pairwise_lt_of_nodup {α K L : Type} [LinearOrder K] {key : α → K} {f : α → L} {l : List α}
    (hkey : ∀ a b, key a = key b → f a = f b) (h : l.Pairwise (key · ≤ key ·)) (hnodup : (l.map f).Nodup) :
    l.Pairwise (key · < key ·) :=
  (h.and (List.pairwise_map.1 hnodup)).imp fun ⟨hle, hne⟩ => lt_of_le_of_ne hle fun heq => hne (hkey _ _ heq)

/-- Nodes with ids of their own and placed by numbers come out in bands, and in one order however they are listed. -/
theorem orderByPosition_bands (hids : (nodes.map (·.id)).Nodup) (hplaced : ∀ n ∈ nodes, n.IsPlaced)
    (heps : epsilon.IsNonneg) :
    (orderByPosition epsilon nodes).Perm nodes ∧
      (∀ ns, ns.Perm nodes → orderByPosition epsilon ns = orderByPosition epsilon nodes) ∧
      ∃ bands, Banding epsilon nodes bands ∧ orderByPosition epsilon nodes = bands.flatten ∧
        bands.Pairwise fun upper lower => ∀ m ∈ upper, ∀ n ∈ lower, m.position.y.lt n.position.y = true := by
  have hcomparable : PairwiseComparable nodes := fun m hm n hn _ => (hplaced m hm).comparable (hplaced n hn)
  refine ⟨orderByPosition_perm epsilon nodes, fun ns hperm => ?_, ?_⟩
  · exact (orderByPosition_eq_of_perm epsilon hids hcomparable hperm.symm).symm
  · have hsort := RunSort.sort_perm Node.above nodes
    have hplacedSort : ∀ n ∈ RunSort.sort Node.above nodes, n.IsPlaced := fun n hn => hplaced n (hsort.mem_iff.1 hn)
    have hbands : ∀ b ∈ bands epsilon (RunSort.sort Node.above nodes), b.node.IsPlaced := by
      intro b hb
      apply hplacedSort
      rw [← map_node_bands epsilon (RunSort.sort Node.above nodes)]
      exact List.mem_map_of_mem hb
    -- both sorts are strict, as no two nodes have one id
    have hsorted : (RunSort.sort Node.above nodes).Pairwise (·.rank < ·.rank) :=
      pairwise_lt_of_nodup (fun m n heq => congrArg (fun r => (ofLex (ofLex r).2).2) heq)
        (RunSort.isRun_sort (orderedBy_above hcomparable) fun _ => id).ascending ((hsort.map (·.id)).nodup_iff.2 hids)
    have hrank : (RunSort.sort Banded.before (bands epsilon (RunSort.sort Node.above nodes))).Pairwise
        (·.rank < ·.rank) := by
      refine pairwise_lt_of_nodup (f := (·.node.id)) (fun a b heq => congrArg (fun r => (ofLex (ofLex r).2).2) heq)
        (RunSort.isRun_sort Banded.orderedBy_before hbands).ascending ?_
      have hperm := (orderByPosition_perm epsilon nodes).map (·.id)
      rw [orderByPosition, List.map_map] at hperm
      exact hperm.nodup_iff.2 hids
    obtain ⟨bands, hbanding, hflatten⟩ := exists_banding 0 heps hplacedSort hsorted
      (bands_eq epsilon _ ▸ RunSort.sort_perm Banded.before _) hrank
    have hbanding := hbanding.congr hsort
    exact ⟨bands, hbanding, hflatten, hbanding.pairwise heps hplaced⟩

end

def Node.placedAt (x y : Binary64) (id : String) : Node := ⟨id, ⟨⟨x, false⟩, ⟨y, false⟩⟩, .transfer ⟨none, none, "SUI"⟩⟩

/-- What is near to a node in a band need not be in it: `c` and `d` are near to `b`, which is in the band of `a`. -/
def scattered : List Node :=
  [.placedAt 50 (.infinity false) "f", .placedAt 0 125 "c", .placedAt 0 (.infinity false) "e", .placedAt 300 100 "a",
    .placedAt 100 115 "b", .placedAt 0 125 "d"]

theorem orderByPosition_bands_scattered :
    (orderByPosition (.int 20) scattered).map (·.id) = ["b", "a", "c", "d", "e", "f"] ∧
      ∃ bands, Banding (.int 20) scattered bands ∧ orderByPosition (.int 20) scattered = bands.flatten ∧
        bands.Pairwise fun upper lower => ∀ m ∈ upper, ∀ n ∈ lower, m.position.y.lt n.position.y = true := by
  have hplaced : ∀ n ∈ scattered, n.IsPlaced := by
    unfold Node.IsPlaced
    decide
  have heps : Number.IsNonneg (.int 20) := show (0 : ℤ) ≤ 20 by decide
  exact ⟨by decide +kernel, (orderByPosition_bands (by decide) hplaced heps).2.2⟩

end LedgerFlow
