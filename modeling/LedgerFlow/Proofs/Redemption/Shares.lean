import LedgerFlow.Proofs.Redemption.Sparing

namespace LedgerFlow

/-- Market coins that are redeemed at once: coins of one type, of which some units are split off. -/
structure Redemption where
  coinType : String
  coins : List CoinRecord
  units : Int
deriving DecidableEq, Repr

namespace Redemption

def ids (r : Redemption) : List String := r.coins.map (·.objectId)

def commands (r : Redemption) : List Command :=
  match r.coins with
  | [] => []
  | c :: rest =>
    CoinStore.merging (.object c.objectId) (CoinStore.handles rest) ++ [.splitCoins (.object c.objectId) [r.units]]

structure Taken (l : Ledger) (types : List String) (r : Redemption) : Prop where
  known : r.coinType ∈ types
  leading : r.coins <+: l.coinsOf r.coinType
  some : r.coins ≠ []
  within : r.units ≤ Holding.total (l.coinsOf r.coinType)

/-- At most one of two redemptions of a type takes several coins. -/
def Compatible (a b : Redemption) : Prop :=
  a.coinType = b.coinType → a.coins.length ≤ 1 ∨ b.coins.length ≤ 1

instance (a b : Redemption) : Decidable (Compatible a b) :=
  inferInstanceAs (Decidable (_ → _))

def unitsOf (t : String) (rs : List Redemption) : Int :=
  totalUnits (rs.map fun r => if r.coinType = t then r.units else 0)

end Redemption

def Ledger.idsOf (l : Ledger) (types : List String) : List String :=
  types.flatMap fun t => (l.coinsOf t).map (·.objectId)

namespace Command

def objects (x : Command) : List String := x.handles.filterMap Handle.objectId?

/-- The objects that a command merges into another one. -/
def mergedAway : Command → List String
  | .mergeCoins _ sources => sources.filterMap Handle.objectId?
  | _ => []

def unitsSplit (ids : List String) : Command → Int
  | .splitCoins (.object id) amounts => if id ∈ ids then totalUnits amounts else 0
  | _ => 0

def touches (ids : List String) (x : Command) : Bool := x.objects.any (ids.contains ·)

/-- What is merged away by the first command is not named by the second one. -/
def Follows (ids : List String) (x y : Command) : Prop := ∀ id ∈ ids, id ∈ x.mergedAway → id ∉ y.objects

instance (ids : List String) (x y : Command) : Decidable (Follows ids x y) :=
  inferInstanceAs (Decidable (∀ id ∈ ids, id ∈ x.mergedAway → id ∉ y.objects))

end Command

/-- No coin of these types is named after it was merged away, and of none of the types more is split off than there
is. -/
structure Transaction.KeepsShares (l : Ledger) (types : List String) (tx : Transaction) : Prop where
  apart : tx.commands.Pairwise (Command.Follows (l.idsOf types))
  within : ∀ t ∈ types, totalUnits (tx.commands.map (Command.unitsSplit ((l.coinsOf t).map (·.objectId)))) ≤
    Holding.total (l.coinsOf t)

namespace Command

variable {ids some : List String} {x y : Command}

theorem touches_eq_true : x.touches ids = true ↔ ∃ id ∈ x.objects, id ∈ ids := by
  simp [touches]

theorem touches_of_spares (h : x.Spares ids) : x.touches ids = false := by
  rw [Bool.eq_false_iff, ne_eq, touches_eq_true]
  rintro ⟨id, hid, hm⟩
  obtain ⟨a, ha, hao⟩ := List.mem_filterMap.1 hid
  cases a with
  | object _ =>
    cases hao
    exact h _ ha id rfl hm
  | _ => cases hao

theorem mergedAway_subset : x.mergedAway ⊆ x.objects := by
  cases x with
  | mergeCoins destination sources =>
    intro id hid
    obtain ⟨a, ha, hao⟩ := List.mem_filterMap.1 hid
    exact List.mem_filterMap.2 ⟨a, .tail _ ha, hao⟩
  | _ => exact List.nil_subset _

theorem follows_iff_of_touches :
    Follows ids x y ↔ (x.touches ids = true → y.touches ids = true → Follows ids x y) := by
  constructor
  · exact fun h _ _ => h
  · intro h id hid hx hy
    exact h (touches_eq_true.2 ⟨id, mergedAway_subset hx, hid⟩) (touches_eq_true.2 ⟨id, hy, hid⟩) id hid hx hy

theorem unitsSplit_of_touches (h : x.touches ids = false) (hs : some ⊆ ids) : x.unitsSplit some = 0 := by
  cases x with
  | splitCoins coin amounts =>
    cases coin with
    | object id =>
      simp only [unitsSplit, ite_eq_right_iff]
      intro hid
      rw [Bool.eq_false_iff, ne_eq, touches_eq_true] at h
      exact absurd ⟨id, List.mem_singleton.2 rfl, hs hid⟩ h
    | _ => rfl
  | _ => rfl

theorem sum_unitsSplit_filter {cs : List Command} (hs : some ⊆ ids) :
    totalUnits ((cs.filter (touches ids)).map (unitsSplit some)) = totalUnits (cs.map (unitsSplit some)) := by
  induction cs with
  | nil => rfl
  | cons x rest ih =>
    rw [List.filter_cons]
    split
    · rw [List.map_cons, List.map_cons, totalUnits, totalUnits, ih]
    · next h =>
      rw [List.map_cons, totalUnits, unitsSplit_of_touches (Bool.eq_false_iff.2 h) hs, ih, Int.zero_add]

end Command

namespace Ledger

variable {l : Ledger} {types : List String} {t : String} {c : CoinRecord}

theorem mem_idsOf (ht : t ∈ types) (hc : c ∈ l.coinsOf t) : c.objectId ∈ l.idsOf types :=
  List.mem_flatMap.2 ⟨t, ht, List.mem_map_of_mem hc⟩

theorem ids_subset_idsOf (ht : t ∈ types) : (l.coinsOf t).map (·.objectId) ⊆ l.idsOf types := by
  intro id hid
  obtain ⟨c, hc, rfl⟩ := List.mem_map.1 hid
  exact mem_idsOf ht hc

end Ledger

namespace Redemption

variable {l : Ledger} {types : List String} {a b r : Redemption} {rs : List Redemption} {id : String}

theorem Taken.mem (h : r.Taken l types) {c : CoinRecord} (hc : c ∈ r.coins) : c ∈ l.coinsOf r.coinType :=
  h.leading.subset hc

theorem Taken.nodup (h : r.Taken l types) : r.ids.Nodup :=
  ((h.leading.sublist).map _).nodup (l.nodup_coinsOf r.coinType)

theorem Taken.mem_idsOf (h : r.Taken l types) (hid : id ∈ r.ids) : id ∈ l.idsOf types := by
  obtain ⟨c, hc, rfl⟩ := List.mem_map.1 hid
  exact Ledger.mem_idsOf h.known (h.mem hc)

theorem objects_handles (cs : List CoinRecord) :
    (CoinStore.handles cs).filterMap Handle.objectId? = cs.map (·.objectId) := by
  simp [CoinStore.handles, List.filterMap_map, Function.comp_def, Handle.objectId?]

theorem mem_commands {c : CoinRecord} {rest : List CoinRecord} (hr : r.coins = c :: rest) {x : Command} :
    x ∈ r.commands ↔
      (rest ≠ [] ∧ x = .mergeCoins (.object c.objectId) (CoinStore.handles rest)) ∨
        x = .splitCoins (.object c.objectId) [r.units] := by
  unfold commands
  rw [hr]
  cases rest with
  | nil => simp [CoinStore.merging, CoinStore.handles]
  | cons d rest => simp [CoinStore.merging, CoinStore.handles]

theorem mem_mergedAway (h : r.coins ≠ []) : (∃ x ∈ r.commands, id ∈ x.mergedAway) ↔ id ∈ r.ids.tail := by
  cases hr : r.coins with
  | nil => exact absurd hr h
  | cons c rest =>
    simp only [mem_commands hr, ids, hr, List.map_cons, List.tail_cons]
    constructor
    · rintro ⟨x, ⟨-, rfl⟩ | rfl, hid⟩
      · rwa [Command.mergedAway, objects_handles] at hid
      · cases hid
    · intro hid
      refine ⟨_, .inl ⟨?_, rfl⟩, by rwa [Command.mergedAway, objects_handles]⟩
      rintro rfl
      cases hid

theorem mem_objects (h : r.coins ≠ []) : (∃ x ∈ r.commands, id ∈ x.objects) ↔ id ∈ r.ids := by
  cases hr : r.coins with
  | nil => exact absurd hr h
  | cons c rest =>
    simp only [mem_commands hr, ids, hr, List.map_cons]
    constructor
    · rintro ⟨x, ⟨-, rfl⟩ | rfl, hid⟩
      · simpa [Command.objects, Command.handles, Handle.objectId?, objects_handles] using hid
      · cases List.mem_singleton.1 hid
        exact List.mem_cons_self
    · intro hid
      cases hid with
      | head => exact ⟨_, .inr rfl, List.mem_cons_self⟩
      | tail _ hid =>
        refine ⟨_, .inl ⟨?_, rfl⟩, ?_⟩
        · rintro rfl
          cases hid
        · show id ∈ c.objectId :: (CoinStore.handles rest).filterMap Handle.objectId?
          rw [objects_handles]
          exact .tail _ hid

theorem touches_commands (h : r.Taken l types) : ∀ x ∈ r.commands, x.touches (l.idsOf types) = true := by
  cases hr : r.coins with
  | nil => exact absurd hr h.some
  | cons c rest =>
    have hc : c.objectId ∈ l.idsOf types := h.mem_idsOf (by simp [ids, hr])
    intro x hx
    rw [Command.touches_eq_true]
    obtain ⟨-, rfl⟩ | rfl := (mem_commands hr).1 hx
    · exact ⟨c.objectId, by simp [Command.objects, Command.handles, Handle.objectId?], hc⟩
    · exact ⟨c.objectId, List.mem_cons_self, hc⟩

theorem pairwise_commands (h : r.Taken l types) : r.commands.Pairwise (Command.Follows (l.idsOf types)) := by
  cases hr : r.coins with
  | nil => exact absurd hr h.some
  | cons c rest =>
    have hn := h.nodup
    simp only [ids, hr, List.map_cons, List.nodup_cons] at hn
    unfold commands
    rw [hr, List.pairwise_append]
    refine ⟨?_, List.pairwise_singleton _ _, ?_⟩
    · unfold CoinStore.merging
      split
      · exact .nil
      · exact List.pairwise_singleton _ _
    · intro x hx y hy id _ hid hm
      cases List.mem_singleton.1 hy
      cases List.mem_singleton.1 hm
      unfold CoinStore.merging at hx
      split at hx
      · cases hx
      · cases List.mem_singleton.1 hx
        rw [Command.mergedAway, objects_handles] at hid
        exact hn.1 hid

theorem tail_disjoint_of_leading {as bs cs : List String} (ha : as <+: cs) (hb : bs <+: cs) (hn : cs.Nodup) :
    (∀ id ∈ as.tail, id ∉ bs) ↔ as.length ≤ 1 ∨ bs.length ≤ 1 := by
  cases cs with
  | nil => simp [List.prefix_nil.1 ha]
  | cons c cs =>
    have hc := (List.nodup_cons.1 hn).1
    obtain rfl | ⟨as, rfl, has⟩ := List.prefix_cons_iff.1 ha
    · simp
    obtain rfl | ⟨bs, rfl, hbs⟩ := List.prefix_cons_iff.1 hb
    · simp
    constructor
    · intro h
      cases as with
      | nil => simp
      | cons d as =>
        cases bs with
        | nil => simp
        | cons e bs =>
          obtain ⟨xs, rfl⟩ := has
          have hde : e = d := (List.cons_prefix_cons.1 hbs).1
          simpa [hde] using h d List.mem_cons_self
    · intro hlen id hid hm
      cases hlen with
      | inl hlen =>
        have hnil : as = [] := by simpa using hlen
        simp [hnil] at hid
      | inr hlen =>
        have hnil : bs = [] := by simpa using hlen
        have hidc : id = c := by simpa [hnil] using hm
        exact hc (hidc ▸ has.subset hid)

theorem tail_disjoint_iff (ha : a.Taken l types) (hb : b.Taken l types) :
    (∀ id ∈ a.ids.tail, id ∉ b.ids) ↔ a.Compatible b := by
  by_cases ht : a.coinType = b.coinType
  · have hpa : a.ids <+: (l.coinsOf a.coinType).map (·.objectId) := ha.leading.map _
    have hpb : b.ids <+: (l.coinsOf a.coinType).map (·.objectId) := ht ▸ hb.leading.map _
    rw [tail_disjoint_of_leading hpa hpb (l.nodup_coinsOf _)]
    simp [Compatible, ht, ids]
  · constructor
    · exact fun _ heq => absurd heq ht
    · intro _ id hid hm
      obtain ⟨c, hc, rfl⟩ := List.mem_map.1 (List.mem_of_mem_tail hid)
      obtain ⟨d, hd, heq⟩ := List.mem_map.1 hm
      exact Ledger.ne_of_coinType (ha.mem hc) (hb.mem hd) ht heq.symm

theorem follows_iff (ha : a.Taken l types) (hb : b.Taken l types) :
    (∀ x ∈ a.commands, ∀ y ∈ b.commands, Command.Follows (l.idsOf types) x y) ↔ a.Compatible b := by
  rw [← tail_disjoint_iff ha hb]
  constructor
  · intro h id hid hm
    obtain ⟨x, hx, hxid⟩ := (mem_mergedAway ha.some).2 hid
    obtain ⟨y, hy, hyid⟩ := (mem_objects hb.some).2 hm
    exact h x hx y hy id (hb.mem_idsOf hm) hxid hyid
  · intro h x hx y hy id _ hxid hyid
    exact h id ((mem_mergedAway ha.some).1 ⟨x, hx, hxid⟩) ((mem_objects hb.some).1 ⟨y, hy, hyid⟩)

theorem sum_unitsSplit (h : r.Taken l types) (t : String) :
    totalUnits (r.commands.map (Command.unitsSplit ((l.coinsOf t).map (·.objectId)))) =
      if r.coinType = t then r.units else 0 := by
  cases hr : r.coins with
  | nil => exact absurd hr h.some
  | cons c rest =>
    have hc : c ∈ l.coinsOf r.coinType := h.mem (hr ▸ List.mem_cons_self)
    have hm : ∀ d ss, totalUnits ((CoinStore.merging d ss).map
        (Command.unitsSplit ((l.coinsOf t).map (·.objectId)))) = 0 := by
      intro d ss
      unfold CoinStore.merging
      split <;> rfl
    unfold commands
    simp only [hr, List.map_append, totalUnits_append, hm, List.map_cons, List.map_nil, Command.unitsSplit,
      totalUnits, Int.zero_add, Int.add_zero]
    by_cases ht : r.coinType = t
    · subst ht
      rw [if_pos (List.mem_map_of_mem hc), if_pos rfl]
    · rw [if_neg ht, if_neg]
      intro hid
      obtain ⟨d, hd, heq⟩ := List.mem_map.1 hid
      exact Ledger.ne_of_coinType hc hd ht heq.symm

theorem sum_flatMap_commands (h : ∀ r ∈ rs, r.Taken l types) (t : String) :
    totalUnits ((rs.flatMap commands).map (Command.unitsSplit ((l.coinsOf t).map (·.objectId)))) = unitsOf t rs := by
  induction rs with
  | nil => rfl
  | cons r rest ih =>
    rw [List.flatMap_cons, List.map_append, totalUnits_append, sum_unitsSplit (h r List.mem_cons_self),
      ih fun r hr => h r (.tail _ hr), unitsOf, unitsOf, List.map_cons, totalUnits]

end Redemption

theorem Redemption.compatible_of_nodup {rs : List Redemption} (hn : (rs.map (·.coinType)).Nodup) :
    rs.Pairwise Redemption.Compatible :=
  (List.pairwise_map.1 hn).imp fun hne ht => absurd ht hne

theorem Redemption.unitsOf_eq_zero {t : String} {rs : List Redemption} (h : t ∉ rs.map (·.coinType)) :
    unitsOf t rs = 0 := by
  induction rs with
  | nil => rfl
  | cons r rest ih =>
    rw [List.map_cons, List.mem_cons, not_or] at h
    simpa [unitsOf, totalUnits, Ne.symm h.1] using ih h.2

theorem Redemption.unitsOf_le_of_nodup {l : Ledger} {types : List String} {rs : List Redemption}
    (hr : ∀ r ∈ rs, r.Taken l types) (hn : (rs.map (·.coinType)).Nodup) {t : String}
    (ht : 0 ≤ Holding.total (l.coinsOf t)) : unitsOf t rs ≤ Holding.total (l.coinsOf t) := by
  induction rs with
  | nil => exact ht
  | cons r rest ih =>
    rw [List.map_cons, List.nodup_cons] at hn
    have hrest := ih (fun r hm => hr r (.tail _ hm)) hn.2
    rw [unitsOf, List.map_cons, totalUnits, ← unitsOf]
    split
    · next heq =>
      have hwithin := (hr r List.mem_cons_self).within
      rw [unitsOf_eq_zero (heq ▸ hn.1), Int.add_zero]
      exact heq ▸ hwithin
    · rwa [Int.zero_add]

theorem Transaction.keepsShares_iff {l : Ledger} {types : List String} {tx : Transaction} {rs : List Redemption}
    (hf : tx.commands.filter (Command.touches (l.idsOf types)) = rs.flatMap Redemption.commands)
    (hr : ∀ r ∈ rs, r.Taken l types) :
    tx.KeepsShares l types ↔
      rs.Pairwise Redemption.Compatible ∧
        ∀ t ∈ types, Redemption.unitsOf t rs ≤ Holding.total (l.coinsOf t) := by
  have happart : tx.commands.Pairwise (Command.Follows (l.idsOf types)) ↔ rs.Pairwise Redemption.Compatible := by
    calc tx.commands.Pairwise (Command.Follows (l.idsOf types))
      _ ↔ (tx.commands.filter (Command.touches (l.idsOf types))).Pairwise (Command.Follows (l.idsOf types)) := by
        rw [List.pairwise_filter]
        exact List.Pairwise.iff fun _ _ => Command.follows_iff_of_touches
      _ ↔ rs.Pairwise fun a b => ∀ x ∈ a.commands, ∀ y ∈ b.commands, Command.Follows (l.idsOf types) x y := by
        rw [hf, List.pairwise_flatMap]
        exact and_iff_right fun r hm => Redemption.pairwise_commands (hr r hm)
      _ ↔ rs.Pairwise Redemption.Compatible :=
        List.Pairwise.iff_of_mem fun {a b} ha hb => Redemption.follows_iff (hr a ha) (hr b hb)
  have hunits : ∀ t ∈ types, totalUnits (tx.commands.map (Command.unitsSplit ((l.coinsOf t).map (·.objectId)))) =
      Redemption.unitsOf t rs := by
    intro t ht
    rw [← Command.sum_unitsSplit_filter (Ledger.ids_subset_idsOf ht), hf, Redemption.sum_flatMap_commands hr]
  constructor
  · rintro ⟨ha, hw⟩
    exact ⟨happart.1 ha, fun t ht => hunits t ht ▸ hw t ht⟩
  · rintro ⟨ha, hw⟩
    exact ⟨happart.2 ha, fun t ht => (hunits t ht).symm ▸ hw t ht⟩

end LedgerFlow
