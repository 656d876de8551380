import LedgerFlow.Coin.Wallet
import LedgerFlow.Proofs.Replay.Ledger

namespace LedgerFlow

namespace Holding

theorem le_total_take {balance amount : Int} {coins : List CoinRecord} (h : amount ≤ balance + total coins) :
    amount ≤ balance + total (coins.take (needed balance amount coins)) := by
  induction coins generalizing balance with
  | nil => simpa [needed] using h
  | cons c rest ih =>
    unfold needed
    split
    · rw [total] at h
      have := @ih (balance + c.balance) (by omega)
      rw [List.take_succ_cons, total]
      omega
    · next hb =>
      simp only [List.take_zero, total]
      omega

theorem take_needed_ne_nil {balance amount : Int} {coins : List CoinRecord} (hb : balance < amount)
    (hc : coins ≠ []) : coins.take (needed balance amount coins) ≠ [] := by
  cases coins with
  | nil => exact absurd rfl hc
  | cons c rest => simp [needed, hb]

theorem gather_coins (h : Holding) (amount : Int) :
    (h.gather amount).used ++ (h.gather amount).unused = h.used ++ h.unused := by
  simp [gather, List.append_assoc]

structure Stocked (l : Ledger) (st : CoinStore) (coinType : String) (h : Holding) : Prop where
  listed : (h.used ++ h.unused).Perm (l.coinsOf coinType)
  unused : ∀ c ∈ h.unused, st.worth (.object c.objectId) = some (.coin coinType c.balance)
  primary : ∀ c rest, h.used = c :: rest → st.worth (.object c.objectId) = some (.coin coinType h.balance)
  idle : h.used = [] → h.balance = 0

theorem stocked_ofCoins {l : Ledger} {st : CoinStore} {t : String}
    (h : ∀ c ∈ l.coinsOf t, st.worth (.object c.objectId) = some (.coin t c.balance)) :
    (Holding.ofCoins (l.coinsOf t)).Stocked l st t where
  listed := List.mergeSort_perm _ _
  unused c hc := h c ((List.mergeSort_perm _ _).mem_iff.1 hc)
  primary _ _ hu := by cases hu
  idle _ := rfl

namespace Stocked

variable {l : Ledger} {st other : CoinStore} {t : String} {h : Holding}

theorem congr (hs : h.Stocked l st t)
    (hw : ∀ c ∈ l.coinsOf t, other.worth (.object c.objectId) = st.worth (.object c.objectId)) :
    h.Stocked l other t where
  listed := hs.listed
  unused c hc := (hw c (hs.listed.mem_iff.1 (List.mem_append_right _ hc))).trans (hs.unused c hc)
  primary c rest hu := by
    have hc : c ∈ l.coinsOf t := hs.listed.mem_iff.1 (by simp [hu])
    exact (hw c hc).trans (hs.primary c rest hu)
  idle := hs.idle

theorem nodup (hs : h.Stocked l st t) : ((h.used ++ h.unused).map (·.objectId)).Nodup :=
  (hs.listed.map _).nodup_iff.2 (l.nodup_coinsOf t)

end Stocked

end Holding

namespace Wallet

structure Stocked (l : Ledger) (st : CoinStore) (x : Wallet) : Prop where
  reserve : 0 ≤ x.reserve
  unread : x.native = none → st.worth .gas = some (.coin nativeCoinType l.native)
  read : ∀ units, x.native = some units →
    ∃ g, st.worth .gas = some (.coin nativeCoinType g) ∧ (units = 0 ∨ units ≤ g)
  untouched : ∀ t, x.holdings.lookup t = none →
    ∀ c ∈ l.coinsOf t, st.worth (.object c.objectId) = some (.coin t c.balance)
  holdings : ∀ t h, x.holdings.lookup t = some h → h.Stocked l st t
  foreign : ∀ id, id ∉ l.coinIds → st.worth (.object id) = none

theorem Stocked.congr {l : Ledger} {st other : CoinStore} {x : Wallet} (h : x.Stocked l st)
    (hs : CoinStore.SameLedger st other) : x.Stocked l other where
  reserve := h.reserve
  unread hn := hs.gas.trans (h.unread hn)
  read units hu := by
    obtain ⟨g, hg, hle⟩ := h.read units hu
    exact ⟨g, hs.gas.trans hg, hle⟩
  untouched t ht c hc := (hs.object _).trans (h.untouched t ht c hc)
  holdings t x hx := (h.holdings t x hx).congr fun _ _ => hs.object _
  foreign id hid := (hs.object id).trans (h.foreign id hid)

theorem stocked_empty {l : Ledger} {owner : String} {reserve : Int} (hr : 0 ≤ reserve) :
    (Wallet.empty owner reserve).Stocked l l.opening where
  reserve := hr
  unread _ := rfl
  read _ hu := by cases hu
  untouched _ _ _ hc := Ledger.worth_opening hc
  holdings _ _ hx := by cases hx
  foreign _ := Ledger.worth_opening_of_notMem

theorem Stocked.setNative {l : Ledger} {st other : CoinStore} {x : Wallet} {units g : Int} (h : x.Stocked l st)
    (hg : other.worth .gas = some (.coin nativeCoinType g)) (hu : units = 0 ∨ units ≤ g)
    (ho : ∀ id, other.worth (.object id) = st.worth (.object id)) : (x.setNative units).Stocked l other where
  reserve := h.reserve
  unread hn := by cases hn
  read n hn := by
    cases hn
    exact ⟨g, hg, hu⟩
  untouched t ht c hc := (ho _).trans (h.untouched t ht c hc)
  holdings t x hx := (h.holdings t x hx).congr fun _ _ => ho _
  foreign id hid := (ho id).trans (h.foreign id hid)

theorem Stocked.setHolding {l : Ledger} {st other : CoinStore} {x : Wallet} {t : String} {y : Holding}
    (h : x.Stocked l st) (hy : y.Stocked l other t) (hg : other.worth .gas = st.worth .gas)
    (ho : ∀ id, (∀ c ∈ l.coinsOf t, id ≠ c.objectId) → other.worth (.object id) = st.worth (.object id)) :
    (x.setHolding t y).Stocked l other := by
  have away : ∀ u, u ≠ t → ∀ c ∈ l.coinsOf u, other.worth (.object c.objectId) = st.worth (.object c.objectId) := by
    intro u hu c hc
    apply ho
    intro d hd
    exact Ledger.ne_of_coinType hc hd hu
  refine ⟨h.reserve, fun hn => hg.trans (h.unread hn), ?_, ?_, ?_, ?_⟩
  · intro units hu
    obtain ⟨g, hw, hle⟩ := h.read units hu
    exact ⟨g, hg.trans hw, hle⟩
  · intro u hu c hc
    rw [Wallet.setHolding, Json.lookup_put] at hu
    split at hu
    · cases hu
    · next hne => exact (away u hne c hc).trans (h.untouched u hu c hc)
  · intro u z hz
    rw [Wallet.setHolding, Json.lookup_put] at hz
    split at hz
    · next heq =>
      cases hz
      exact heq ▸ hy
    · next hne => exact (h.holdings u z hz).congr (away u hne)
  · intro id hid
    rw [ho, h.foreign id hid]
    rintro c hc rfl
    exact hid (Ledger.mem_coinIds hc)

end Wallet

namespace CoinStore

variable {st : CoinStore} {t : String} {n amount : Int} {id : String} {cs : List CoinRecord} {bs : List PooledCoin}

def handles (cs : List CoinRecord) : List Handle := cs.map fun c => .object c.objectId

theorem absorb_records (hp : st.worth (.object id) = some (.coin t n))
    (hw : ∀ c ∈ cs, st.worth (.object c.objectId) = some (.coin t c.balance))
    (hd : (id :: cs.map (·.objectId)).Nodup) :
    ∃ st', absorb (.object id) (handles cs) st = some st' ∧ st'.kinds = st.kinds ∧ st'.paid = st.paid ∧
      st'.worth (.object id) = some (.coin t (n + Holding.total cs)) ∧
      ∀ q, q ≠ .object id → (∀ c ∈ cs, q ≠ .object c.objectId) → st'.worth q = st.worth q := by
  induction cs generalizing st n with
  | nil => exact ⟨st, rfl, rfl, rfl, by simpa [Holding.total] using hp, fun _ _ _ => rfl⟩
  | cons c rest ih =>
    simp only [List.map_cons, List.nodup_cons, List.mem_cons, not_or] at hd
    obtain ⟨⟨hne, hid⟩, hc, hr⟩ := hd
    let next := (st.set (.object c.objectId) .spent).set (.object id) (.coin t (n + c.balance))
    have hn : next.worth (.object id) = some (.coin t (n + c.balance)) := worth_set_self
    have kept : ∀ q, q ≠ .object id → q ≠ .object c.objectId → next.worth q = st.worth q := by
      intro q hq hqc
      rw [worth_set_of_ne hq, worth_set_of_ne hqc]
    have hnw : ∀ d ∈ rest, next.worth (.object d.objectId) = some (.coin t d.balance) := by
      intro d hd
      have hm : d.objectId ∈ rest.map (·.objectId) := List.mem_map_of_mem hd
      rw [kept, hw d (.tail _ hd)]
      · intro heq
        exact hid (Place.object.inj heq ▸ hm)
      · intro heq
        exact hc (Place.object.inj heq ▸ hm)
    obtain ⟨st', ha, hk, hpd, hp', hq⟩ := ih hn hnw (List.nodup_cons.2 ⟨hid, hr⟩)
    refine ⟨st', ?_, hk, hpd, ?_, ?_⟩
    · have hwc := coinAt?_eq_some.2 (hw c List.mem_cons_self)
      have hcp : ¬ c.objectId = id := fun heq => hne heq.symm
      rw [handles, List.map_cons, absorb]
      simp only [find, coinAt?_eq_some.2 hp, hwc, Option.bind_eq_bind, Option.bind_some, Place.object.injEq, hcp,
        reduceCtorEq, ne_eq, not_true_eq_false, or_self, if_false]
      exact ha
    · rw [hp', Holding.total, Int.add_assoc]
    · intro q hqp hqc
      rw [hq q hqp fun d hd => hqc d (.tail _ hd), kept q hqp (hqc c List.mem_cons_self)]

def merging (destination : Handle) (sources : List Handle) : List Command :=
  if sources.isEmpty then [] else [.mergeCoins destination sources]

theorem commands_merge (tx : Transaction) (destination : Handle) (sources : List Handle) :
    (tx.merge destination sources).commands = tx.commands ++ merging destination sources := by
  unfold Transaction.merge merging
  split
  · simp
  · rfl

theorem merge_records (hb : st.Backs bs) (hp : st.worth (.object id) = some (.coin t n))
    (hw : ∀ c ∈ cs, st.worth (.object c.objectId) = some (.coin t c.balance))
    (hd : (id :: cs.map (·.objectId)).Nodup) :
    ∃ st', replay (merging (.object id) (handles cs)) st = some st' ∧ st'.Backs bs ∧ st'.paid = st.paid ∧
      st'.worth (.object id) = some (.coin t (n + Holding.total cs)) ∧ st'.worth .gas = st.worth .gas ∧
      ∀ other, other ≠ id → (∀ c ∈ cs, other ≠ c.objectId) →
        st'.worth (.object other) = st.worth (.object other) := by
  cases cs with
  | nil => exact ⟨st, rfl, hb, rfl, by simpa [Holding.total] using hp, rfl, fun _ _ _ => rfl⟩
  | cons c rest =>
    obtain ⟨st', ha, hk, hpd, hp', hq⟩ := absorb_records hp hw hd
    refine ⟨st'.push .mergeCoins fun _ => none, ?_, ?_, hpd, hp', ?_, ?_⟩
    · have hm : merging (.object id) (handles (c :: rest)) = [.mergeCoins (.object id) (handles (c :: rest))] := rfl
      simp [hm, replay, apply, merge, find, coinAt?_eq_some.2 hp, ha]
    · have hb' : st'.Backs bs := hb.congr hk fun i k => hq _ (by simp) (by simp)
      exact hb'.push_nothing
    · exact hq _ (by simp) (by simp)
    · intro other ho hoc
      exact hq _ (fun heq => ho (Place.object.inj heq)) fun d hd heq => hoc d hd (Place.object.inj heq)

end CoinStore

namespace Holding

open CoinStore (handles merging merge_records split_ledger)

variable {l : Ledger} {st : CoinStore} {t : String} {h : Holding} {amount : Int} {bs : List PooledCoin}

theorem Stocked.gathered (hs : h.Stocked l st t) (hpos : 0 < amount) (hle : amount ≤ h.remaining) :
    ∃ c rest sources b, (h.gather amount).used = c :: rest ∧ h.merged (h.gather amount) = handles sources ∧
      st.worth (.object c.objectId) = some (.coin t b) ∧ b + total sources = (h.gather amount).balance ∧
      (∀ d ∈ sources, d ∈ h.unused) ∧
      ((c :: sources ++ (h.gather amount).unused).map (·.objectId)).Nodup := by
  have hn := hs.nodup
  have htd := List.take_append_drop (needed h.balance amount h.unused) h.unused
  cases hu : h.used with
  | nil =>
    have hb := hs.idle hu
    have hne : h.unused ≠ [] := by
      intro hnil
      simp only [remaining, hb, hnil, total] at hle
      omega
    cases ht : h.unused.take (needed h.balance amount h.unused) with
    | nil => exact absurd ht (take_needed_ne_nil (hb ▸ hpos) hne)
    | cons c rest =>
      have hc : ∀ d ∈ c :: rest, d ∈ h.unused := by
        intro d hd
        exact List.mem_of_mem_take (ht ▸ hd)
      refine ⟨c, rest, rest, c.balance, ?_, ?_, hs.unused c (hc c List.mem_cons_self), ?_, ?_, ?_⟩
      · simp [gather, hu, ht]
      · simp [merged, gather, hu, ht, handles]
      · show _ = h.balance + total (h.unused.take (needed h.balance amount h.unused))
        rw [ht, hb, total, Int.zero_add]
      · intro d hd
        exact hc d (.tail _ hd)
      · rw [ht] at htd
        simpa [gather, htd, hu] using hn
  | cons c us =>
    refine ⟨c, us ++ h.unused.take (needed h.balance amount h.unused),
      h.unused.take (needed h.balance amount h.unused), h.balance, ?_, ?_, hs.primary c us hu, rfl, ?_, ?_⟩
    · simp [gather, hu]
    · simp [merged, gather, hu, handles]
    · intro d hd
      exact List.mem_of_mem_take hd
    · have hsub : (c :: h.unused).Sublist (h.used ++ h.unused) := by
        rw [hu]
        exact .cons_cons c (List.sublist_append_right us h.unused)
      have := (hsub.map (·.objectId)).nodup hn
      rw [List.cons_append]
      simpa [gather, htd] using this

theorem Stocked.draw (hs : h.Stocked l st t) (hb : st.Backs bs) (hpos : 0 < amount) (hle : amount ≤ h.remaining) :
    ∃ id st₁ st', (h.gather amount).primary = .object id ∧
      CoinStore.replay (merging (.object id) (h.merged (h.gather amount))) st = some st₁ ∧
      st₁.apply (.splitCoins (.object id) [amount]) = some st' ∧
      st'.Backs (⟨t, .nestedResult st₁.size 0, amount⟩ :: bs) ∧ st'.paid = st.paid ∧
      ((h.gather amount).spend amount).Stocked l st' t ∧ st'.worth .gas = st.worth .gas ∧
      ∀ other, (∀ c ∈ l.coinsOf t, other ≠ c.objectId) → st'.worth (.object other) = st.worth (.object other) := by
  obtain ⟨c, rest, sources, b, hu, hm, hc, hsum, hmem, hd⟩ := hs.gathered hpos hle
  have hamount : amount ≤ (h.gather amount).balance := le_total_take hle
  have hd' : (c.objectId :: sources.map (·.objectId)).Nodup := by
    rw [List.map_append] at hd
    exact (List.nodup_append.1 hd).1
  obtain ⟨st₁, hr, hb₁, hp₁, hw₁, hg₁, ho₁⟩ :=
    merge_records hb hc (fun d hd => hs.unused d (hmem d hd)) hd'
  rw [hsum] at hw₁
  have hf : st₁.find (.object c.objectId) = some (.object c.objectId) := rfl
  obtain ⟨st', ha, hb', hp', hw', hq'⟩ := split_ledger hb₁ hf (by simp) hw₁ hpos hamount
  have kept : ∀ other, other ≠ c.objectId → (∀ d ∈ sources, other ≠ d.objectId) →
      st'.worth (.object other) = st.worth (.object other) := by
    intro other hoc hos
    rw [hq' (.object other) (by simp) fun heq => hoc (Place.object.inj heq), ho₁ other hoc hos]
  have listed : ((h.gather amount).used ++ (h.gather amount).unused).Perm (l.coinsOf t) :=
    gather_coins h amount ▸ hs.listed
  have hapart : ∀ d ∈ (h.gather amount).unused, ∀ e ∈ c :: sources, d.objectId ≠ e.objectId := by
    intro d hdu e he heq
    rw [List.map_append] at hd
    exact (List.nodup_append.1 hd).2.2 _ (List.mem_map_of_mem he) _ (List.mem_map_of_mem hdu) heq.symm
  have hct : c ∈ l.coinsOf t := listed.mem_iff.1 (List.mem_append_left _ (hu ▸ List.mem_cons_self))
  refine ⟨c.objectId, st₁, st', by simp [Holding.primary, hu], hm ▸ hr, ha, hb', hp'.trans hp₁, ?_, ?_, ?_⟩
  · refine ⟨listed, ?_, ?_, ?_⟩
    · intro d hdu
      have hdu' : d ∈ h.unused := List.mem_of_mem_drop hdu
      have hne := hapart d hdu
      rw [kept d.objectId (hne c List.mem_cons_self) fun e he => hne e (.tail _ he)]
      exact hs.unused d hdu'
    · intro d rest' hd
      have : d = c := by
        have := hu.symm.trans hd
        cases this
        rfl
      subst this
      exact hw'
    · intro hnil
      exact absurd (hu.symm.trans hnil) (List.cons_ne_nil _ _)
  · exact (hq' .gas (by simp) (by simp)).trans hg₁
  · intro other ho
    apply kept other (ho c hct)
    intro d hd
    exact ho d (hs.listed.mem_iff.1 (List.mem_append_right _ (hmem d hd)))

end Holding

end LedgerFlow
