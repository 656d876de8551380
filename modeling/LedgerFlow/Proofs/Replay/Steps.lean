import LedgerFlow.Proofs.Replay.Demands
import LedgerFlow.Proofs.Replay.Sourcing

namespace LedgerFlow

namespace CoinStore

variable {st : CoinStore} {cs rest : List PooledCoin} {target : String} {hs : List Handle} {types : List String}

theorem minted_of_other (h : target ∉ drawing) (h' : target ≠ fromBalance) :
    st.minted target hs types = .output := by
  simp [minted, h, h']

theorem minted_of_passes (hp : st.Passes hs cs) (hb : st.Backs (cs ++ rest)) (hu : statedUnits? hs = none) :
    st.minted target hs types = .output := by
  unfold minted
  split
  · rw [hu]
    split
    · next heq => cases heq
    · rfl
  · split
    · cases hp with
      | nil => rfl
      | pure hp => cases hp <;> rfl
      | object hid hp =>
        cases hp with
        | nil => simp [find, hid]
        | _ => rfl
      | coin c hp =>
        obtain ⟨n, k, hf, hw⟩ := hb.held c List.mem_cons_self
        cases hp with
        | nil => simp [hf, hw]
        | _ => rfl
    · rfl

end CoinStore

namespace Workspace.Backed

open CoinStore (Passes)

variable {l : Ledger} {w : Workspace} {held : List PooledCoin} {paid : List Payment} {st : CoinStore}
  {c : PooledCoin} {target : String} {hs : List Handle} {types : List String} {id : String}

theorem foreign (h : w.Backed l held paid st) (hid : id ∉ l.coinIds) : st.worth (.object id) = none :=
  h.stocked.foreign id hid

theorem passes {named : List String} {f : List Handle} {cs : List PooledCoin} (h : w.Backed l held paid st)
    (ha : l.Apart l.coinIds named) (hf : ∀ x ∈ f, x ∈ Protocol.sharedHandles) (hp : st.Passes hs cs) :
    st.Passes (f ++ hs) cs := by
  induction f with
  | nil => exact hp
  | cons x f ih =>
    have hx := hf x List.mem_cons_self
    obtain ⟨id, hid⟩ := Option.isSome_iff_exists.1 (Protocol.objectId?_of_shared x hx)
    have hm : id ∈ Protocol.sharedObjects :=
      List.mem_append_left _ (List.mem_append_left _ (List.mem_filterMap.2 ⟨x, hx, hid⟩))
    cases x with
    | object _ =>
      cases hid
      exact .object (h.foreign (ha.shared id hm)) (ih fun y hy => hf y (.tail _ hy))
    | _ => cases hid

theorem call (h : w.Backed l held paid st) (target : String) (hp : st.Passes hs held)
    (hm : st.minted target hs types = .output) :
    ∃ st', ({ w with tx := w.tx.append (.moveCall target hs types) } : Workspace).Backed l []
        (paid ++ held.map PooledCoin.payment) st' ∧
      st'.find (.result w.tx.size) = some (.made w.tx.size 0) ∧
      st'.worth (.made w.tx.size 0) = some .output := by
  obtain ⟨st', ha, hr, hf, hw⟩ := CoinStore.call_backs hp h.backs hm
  rw [h.size] at hf hw
  exact ⟨st', h.append ha hr, hf, hw⟩

theorem draw {t : String} {amount : Int} (h : w.Backed l [] paid st) (hp : st.Passes hs [])
    (ht : target ∈ CoinStore.drawing) (hu : CoinStore.statedUnits? hs = some amount) :
    ∃ st', ({ w with
        tx := (w.tx.append (.moveCall target hs [t])).append (.moveCall CoinStore.fromBalance [.result w.tx.size] [t])
        } : Workspace).Backed l [⟨t, .result (w.tx.size + 1), amount⟩] paid st' := by
  obtain ⟨st₁, st₂, ha₁, ha₂, hr⟩ := CoinStore.draw_backs hp h.backs ht hu
  rw [h.size] at ha₂ hr
  refine ⟨st₂, ?_, hr.backs, h.types, h.stocked.congr hr.same, ?_⟩
  · simp only [Transaction.append, CoinStore.replay_concat, h.replayed, Option.bind_some, ha₁]
    exact ha₂
  · simpa [h.paid] using hr.paid

theorem give (h : w.Backed l (c :: held) paid st) (recipient : Option String) :
    ∃ st', ({ w with tx := w.tx.append (.transferObjects [c.coin] recipient) } : Workspace).Backed l held
      (paid ++ [c.payment]) st' := by
  obtain ⟨st', ha, hr⟩ := CoinStore.transfer_backs h.backs recipient
  exact ⟨st', h.append ha hr⟩

theorem giveOutput {handle : Handle} {n k : Nat} (h : w.Backed l held paid st)
    (hf : st.find handle = some (.made n k)) (hw : st.worth (.made n k) = some .output) (recipient : Option String) :
    ∃ st', ({ w with tx := w.tx.append (.transferObjects [handle] recipient) } : Workspace).Backed l held
      paid st' := by
  obtain ⟨st', ha, hr⟩ := CoinStore.transfer_output h.backs hf hw recipient
  exact ⟨st', h.record ha hr⟩

theorem swap {out : SwapOutput} (h : w.Backed l [c] paid st) (hf : FairSwap l w.tx c.coin out) :
    ∃ st', ({ w with tx := { w.tx with commands := w.tx.commands ++ out.commands } } : Workspace).Backed l []
        (paid ++ [c.payment]) st' ∧
      ∃ i k, st'.find out.coin = some (.made i k) ∧ st'.worth (.made i k) = some .output := by
  obtain ⟨n, k, hc, hw⟩ := h.backs.held c List.mem_cons_self
  obtain ⟨st', hr, hp, hs, hkept, hnew, i, j, -, hfo, hwo⟩ := hf st n k _ _ h.replayed hc hw
  have hkinds := CoinStore.kinds_of_replay hr
  have ledger : ∀ p, (∀ i k, p ≠ .made i k) → st'.worth p = st.worth p := by
    intro p hp
    exact hkept p (hp n k) fun i k heq => absurd heq (hp i k)
  refine ⟨st', ⟨?_, ⟨?_, ?_, ?_, ?_⟩, h.types, ?_, ?_⟩, i, j, hfo, hwo⟩
  · rw [CoinStore.replay_append, h.replayed]
    exact hr
  · intro d hd
    obtain ⟨m, j, hfd, hwd⟩ := h.backs.held d (.tail _ hd)
    refine ⟨m, j, CoinStore.find_of_prefix hkinds hfd, ?_⟩
    rw [hkept, hwd]
    · intro heq
      exact List.rel_of_pairwise_cons h.backs.apart hd (hc.trans (heq ▸ hfd.symm))
    · intro i k heq
      cases heq
      by_contra hle
      rw [h.backs.fresh m j (h.size ▸ Nat.not_lt.1 hle)] at hwd
      cases hwd
  · apply (List.pairwise_cons.1 h.backs.apart).2.imp_of_mem
    intro a b ha hb hab
    obtain ⟨m, j, hfa, -⟩ := h.backs.held a (.tail _ ha)
    obtain ⟨m', j', hfb, -⟩ := h.backs.held b (.tail _ hb)
    rwa [CoinStore.find_of_prefix hkinds hfa, CoinStore.find_of_prefix hkinds hfb, ← hfa, ← hfb]
  · intro m j x hx hl
    by_cases hm : m < w.tx.size
    · by_cases heq : (Place.made m j) = .made n k
      · rw [heq, hs] at hx
        cases hx
        cases hl
      · rw [hkept _ heq fun i k he => by cases he; exact hm] at hx
        obtain ⟨d, hd, hfd⟩ := h.backs.known m j x hx hl
        cases hd with
        | head => exact absurd (Option.some.inj (hc.symm.trans hfd)).symm heq
        | tail _ hd => exact ⟨d, hd, CoinStore.find_of_prefix hkinds hfd⟩
    · rw [hnew m j x (Nat.not_lt.1 hm) hx] at hl
      cases hl
  · exact CoinStore.fresh_of_replay h.backs.fresh hr
  · exact h.stocked.congr ⟨ledger _ (by simp), fun _ => ledger _ (by simp)⟩
  · rw [hp, h.paid]
    rfl

end Workspace.Backed

namespace Assembly

def Settles (l : Ledger) (p : Assembly Unit) (due : Except Fault (List Payment)) : Prop :=
  ∀ w es r w' paid st, w.Backed l [] paid st → Yields p w es r w' → (∀ e ∈ es, l.Answers e) →
    ∃ ds st', due = .ok ds ∧ w'.Backed l [] (paid ++ ds) st'

end Assembly

end LedgerFlow
