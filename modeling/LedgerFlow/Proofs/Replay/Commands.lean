import LedgerFlow.Proofs.Replay.Backing

namespace LedgerFlow

def PooledCoin.payment (c : PooledCoin) : Payment := ⟨c.coinType, c.amount⟩

namespace CoinStore

structure Reaches (st other : CoinStore) (cs : List PooledCoin) (paid : List Payment) : Prop where
  backs : other.Backs cs
  same : SameLedger st other
  paid : other.paid = st.paid ++ paid

variable {st : CoinStore} {c d : PooledCoin} {cs rest : List PooledCoin}

theorem find_nestedResult_push {p : Place} {x : Worth} {made : Nat → Option Worth} :
    ((st.set p x).push .splitCoins made).find (.nestedResult st.size 0) = some (.made st.size 0) := by
  simp [find, size]

theorem find_result_push {made : Nat → Option Worth} :
    (st.push .moveCall made).find (.result st.size) = some (.made st.size 0) := by
  simp [find, size]

theorem split_eq {h : Handle} {p : Place} {t : String} {n amount : Int} (hp : st.find h = some p)
    (hw : st.worth p = some (.coin t n)) (hpos : 0 < amount) (hle : amount ≤ n) :
    st.split h [amount] = some ((st.set p (.coin t (n - amount))).push .splitCoins
      fun k => [amount][k]?.map (.coin t)) := by
  simp [split, hp, coinAt?_eq_some.2 hw, hpos, hle]

theorem piece_backs {t : String} {amount : Int} {p : Place} {x : Worth}
    (h : (st.set p x).Backs cs) :
    ((st.set p x).push .splitCoins fun k => [amount][k]?.map (.coin t)).Backs
      (⟨t, .nestedResult st.size 0, amount⟩ :: cs) := by
  apply h.push_coin rfl
  · intro k x hk hx
    cases k with
    | zero => exact absurd rfl hk
    | succ k => simp at hx
  · exact find_nestedResult_push

theorem split_backs (h : st.Backs (c :: rest)) {amount : Int} (hpos : 0 < amount) (hle : amount ≤ c.amount) :
    ∃ st', st.apply (.splitCoins c.coin [amount]) = some st' ∧
      st.Reaches st' (⟨c.coinType, .nestedResult st.size 0, amount⟩ ::
        { c with amount := c.amount - amount } :: rest) [] := by
  obtain ⟨n, k, hf, hw⟩ := h.held c List.mem_cons_self
  refine ⟨_, split_eq hf hw hpos hle, ?_, ?_, ?_⟩
  · exact piece_backs (h.set_amount hf _)
  · exact SameLedger.set_made.trans SameLedger.push
  · simp

theorem split_ledger (h : st.Backs cs) {handle : Handle} {p : Place} {t : String} {n amount : Int}
    (hp : st.find handle = some p) (hm : ∀ i k, p ≠ .made i k) (hw : st.worth p = some (.coin t n))
    (hpos : 0 < amount) (hle : amount ≤ n) :
    ∃ st', st.apply (.splitCoins handle [amount]) = some st' ∧
      st'.Backs (⟨t, .nestedResult st.size 0, amount⟩ :: cs) ∧ st'.paid = st.paid ∧
      st'.worth p = some (.coin t (n - amount)) ∧
      ∀ q, (∀ i k, q ≠ .made i k) → q ≠ p → st'.worth q = st.worth q := by
  have hs : (st.set p (.coin t (n - amount))).Backs cs :=
    h.congr rfl fun i k => worth_set_of_ne (hm i k).symm
  refine ⟨_, split_eq hp hw hpos hle, piece_backs hs, rfl, ?_, ?_⟩
  · cases p with
    | made i k => exact absurd rfl (hm i k)
    | _ => simp
  · intro q hq hne
    cases q with
    | made i k => exact absurd rfl (hq i k)
    | _ => exact worth_set_of_ne hne

theorem merge_backs (h : st.Backs (c :: d :: rest)) (ht : d.coinType = c.coinType) :
    ∃ st', st.apply (.mergeCoins c.coin [d.coin]) = some st' ∧
      st.Reaches st' ({ c with amount := c.amount + d.amount } :: rest) [] := by
  obtain ⟨n, k, hf, hw⟩ := h.held c List.mem_cons_self
  obtain ⟨m, j, hg, hv⟩ := h.held d (.tail _ List.mem_cons_self)
  have hne : (Place.made m j) ≠ .made n k := by
    intro heq
    exact List.rel_of_pairwise_cons h.apart List.mem_cons_self (hf.trans (heq ▸ hg.symm))
  have hs : st.merge c.coin [d.coin] = some (((st.set (.made m j) .spent).set (.made n k)
      (.coin c.coinType (c.amount + d.amount))).push .mergeCoins fun _ => none) := by
    simp [merge, absorb, hf, hg, coinAt?_eq_some.2 hw, coinAt?_eq_some.2 hv, hne, ht]
  refine ⟨_, hs, ?_, ?_, ?_⟩
  · have hd := (h.perm (.swap d c rest)).set_spent hg
    exact (hd.set_amount ((find_set _).trans hf) _).push_nothing
  · exact (SameLedger.set_made.trans SameLedger.set_made).trans SameLedger.push
  · simp

theorem consume_backs (h : st.Backs (c :: rest)) :
    ∃ n k st', st.find c.coin = some (.made n k) ∧ st.worth (.made n k) = some (.coin c.coinType c.amount) ∧
      st.consume (.made n k) = some st' ∧ st'.kinds = st.kinds ∧ st.Reaches st' rest [c.payment] := by
  obtain ⟨n, k, hf, hw⟩ := h.held c List.mem_cons_self
  refine ⟨n, k, (st.set (.made n k) .spent).pay c.payment, hf, hw, ?_, rfl, ?_, ?_, ?_⟩
  · simp [consume, hw, PooledCoin.payment]
  · exact (h.set_spent hf).congr rfl fun _ _ => rfl
  · exact SameLedger.set_made.trans SameLedger.pay
  · simp

theorem consume_output (h : st.Backs cs) {n k : Nat} (hw : st.worth (.made n k) = some .output) :
    ∃ st', st.consume (.made n k) = some st' ∧ st'.kinds = st.kinds ∧ st.Reaches st' cs [] := by
  refine ⟨st.set (.made n k) .spent, by simp [consume, hw], rfl, h.set_output hw, SameLedger.set_made, ?_⟩
  simp

theorem transfer_backs (h : st.Backs (c :: rest)) (recipient : Option String) :
    ∃ st', st.apply (.transferObjects [c.coin] recipient) = some st' ∧ st.Reaches st' rest [c.payment] := by
  obtain ⟨n, k, st', hf, -, hc, -, hr⟩ := consume_backs h
  refine ⟨st'.push .transferObjects fun _ => none, by simp [apply, give, hf, hc], ?_, ?_, ?_⟩
  · exact hr.backs.push_nothing
  · exact hr.same.trans SameLedger.push
  · exact hr.paid

theorem transfer_output (h : st.Backs cs) {handle : Handle} {n k : Nat}
    (hf : st.find handle = some (.made n k)) (hw : st.worth (.made n k) = some .output)
    (recipient : Option String) :
    ∃ st', st.apply (.transferObjects [handle] recipient) = some st' ∧ st.Reaches st' cs [] := by
  obtain ⟨st', hc, -, hr⟩ := consume_output h hw
  refine ⟨st'.push .transferObjects fun _ => none, by simp [apply, give, hf, hc], ?_, ?_, ?_⟩
  · exact hr.backs.push_nothing
  · exact hr.same.trans SameLedger.push
  · exact hr.paid

inductive Passes (st : CoinStore) : List Handle → List PooledCoin → Prop
  | nil : Passes st [] []
  | pure {v : Json} {tag : Option String} {hs : List Handle} {cs : List PooledCoin} (rest : Passes st hs cs) :
      Passes st (.pure v tag :: hs) cs
  | object {id : String} {hs : List Handle} {cs : List PooledCoin} (hid : st.worth (.object id) = none)
      (rest : Passes st hs cs) : Passes st (.object id :: hs) cs
  | coin (c : PooledCoin) {hs : List Handle} {cs : List PooledCoin} (rest : Passes st hs cs) :
      Passes st (c.coin :: hs) (c :: cs)

theorem Passes.of_same {other : CoinStore} {hs : List Handle} (h : st.Passes hs cs)
    (hs' : SameLedger st other) : other.Passes hs cs := by
  induction h with
  | nil => exact .nil
  | pure _ ih => exact .pure ih
  | object hid _ ih => exact .object ((hs'.object _).trans hid) ih
  | coin c _ ih => exact .coin c ih

theorem pass_made {h : Handle} {hs : List Handle} {n k : Nat} {t : String} {amount : Int} {st' : CoinStore}
    (hf : st.find h = some (.made n k)) (hw : st.worth (.made n k) = some (.coin t amount))
    (hc : st.consume (.made n k) = some st') : pass (h :: hs) st = pass hs st' := by
  cases h with
  | pure v tag => cases hf
  | _ => simp [pass, hf, hw, hc]

theorem pass_backs {hs : List Handle} (hp : st.Passes hs cs) (h : st.Backs (cs ++ rest)) :
    ∃ st', pass hs st = some st' ∧ st'.kinds = st.kinds ∧ st.Reaches st' rest (cs.map PooledCoin.payment) := by
  induction hs generalizing st cs with
  | nil =>
    cases hp
    exact ⟨st, rfl, rfl, h, .refl st, by simp⟩
  | cons handle hs ih =>
    cases hp with
    | pure hp => exact ih hp h
    | object hid hp =>
      obtain ⟨st', hs', hk, hr⟩ := ih hp h
      exact ⟨st', by simpa [pass, find, hid] using hs', hk, hr⟩
    | coin c hp =>
      obtain ⟨n, k, st₁, hf, hw, hc, hk, hr⟩ := consume_backs h
      obtain ⟨st', hs', hk', hr'⟩ := ih (hp.of_same hr.same) hr.backs
      refine ⟨st', by rw [pass_made hf hw hc, hs'], hk'.trans hk, hr'.backs, hr.same.trans hr'.same, ?_⟩
      rw [hr'.paid, hr.paid, List.map_cons, List.append_assoc]
      rfl

theorem call_backs {target : String} {hs : List Handle} {types : List String} (hp : st.Passes hs cs)
    (h : st.Backs (cs ++ rest)) (hm : st.minted target hs types = .output) :
    ∃ st', st.apply (.moveCall target hs types) = some st' ∧ st.Reaches st' rest (cs.map PooledCoin.payment) ∧
      st'.find (.result st.size) = some (.made st.size 0) ∧ st'.worth (.made st.size 0) = some .output := by
  obtain ⟨st₁, hs', hk, hr⟩ := pass_backs hp h
  have hsize : st₁.size = st.size := congrArg List.length hk
  refine ⟨st₁.push .moveCall fun _ => some .output, ?_, ⟨?_, ?_, ?_⟩, ?_, ?_⟩
  · simp [apply, call, hs', hm]
  · apply hr.backs.push
    intro k x hx
    cases hx
    rfl
  · exact hr.same.trans SameLedger.push
  · exact hr.paid
  · rw [← hsize]
    exact find_result_push
  · rw [← hsize]
    exact worth_push_made

theorem set_push {kind : CommandKind} {made : Nat → Option Worth} {x : Worth} :
    (st.push kind made).set (.made st.size 0) x = st.push kind fun k => if k = 0 then some x else made k := by
  unfold set push
  congr 1
  funext q
  cases q with
  | made n k => by_cases hn : n = st.size <;> by_cases hk : k = 0 <;> simp [hn, hk]
  | _ => simp

theorem draw_backs {target : String} {hs : List Handle} {t : String} {amount : Int} (hp : st.Passes hs [])
    (h : st.Backs cs) (ht : target ∈ drawing) (hu : statedUnits? hs = some amount) :
    ∃ st₁ st₂, st.apply (.moveCall target hs [t]) = some st₁ ∧
      st₁.apply (.moveCall fromBalance [.result st.size] [t]) = some st₂ ∧
      st.Reaches st₂ (⟨t, .result (st.size + 1), amount⟩ :: cs) [] := by
  obtain ⟨st₀, hs', hk, hr⟩ := pass_backs hp h
  have hsize : st₀.size = st.size := congrArg List.length hk
  let drawn : Nat → Option Worth := fun k => if k = 0 then some (.balance t amount) else some .output
  let coined : Nat → Option Worth := fun k => if k = 0 then some (.coin t amount) else some .output
  let emptied := (st₀.push .moveCall drawn).set (.made st₀.size 0) .spent
  have hfirst : st.apply (.moveCall target hs [t]) = some (st₀.push .moveCall drawn) := by
    simp [apply, call, hs', minted, ht, hu, drawn]
  have hf : (st₀.push .moveCall drawn).find (.result st.size) = some (.made st₀.size 0) := by
    rw [← hsize]
    exact find_result_push
  have hw : (st₀.push .moveCall drawn).worth (.made st₀.size 0) = some (.balance t amount) := worth_push_made
  have hno : fromBalance ∉ drawing := by decide
  have hsecond : (st₀.push .moveCall drawn).apply (.moveCall fromBalance [.result st.size] [t]) =
      some (emptied.push .moveCall coined) := by
    simp [apply, call, pass, minted, hno, hf, hw, coined, emptied]
  have hempty : emptied.Backs cs := by
    rw [show emptied = _ from set_push]
    apply hr.backs.push
    intro k x hx
    by_cases hk : k = 0 <;> simp only [hk, drawn, if_true, if_false, Option.some.injEq] at hx <;> cases hx <;> rfl
  have hes : emptied.size = st.size + 1 := by
    rw [← hsize]
    exact @size_push st₀ .moveCall drawn
  refine ⟨_, _, hfirst, hsecond, ?_, ?_, hr.paid⟩
  · apply hempty.push_coin rfl
    · intro k x hk hx
      simp only [coined, hk, if_false, Option.some.injEq] at hx
      cases hx
      rfl
    · rw [← hes]
      exact find_result_push
  · exact hr.same.trans ((SameLedger.push.trans SameLedger.set_made).trans SameLedger.push)

end CoinStore

end LedgerFlow
