import LedgerFlow.Proofs.Exchange
import LedgerFlow.Proofs.Members
import LedgerFlow.Proofs.Replay.Commands
import Mathlib.Data.List.Nodup

/-!
A ledger that does not change while a transaction is assembled: what the signer's coins are worth, and what the
signer owns besides. Its answers, and those of a fair router, are all that the replay of a transaction rests on.
-/

namespace LedgerFlow

def nativeCoinType : String := "0x2::sui::SUI"

/-- What the signer has. No two coins are one object. -/
structure Ledger where
  native : Int
  coins : List (String × List CoinRecord)
  owned : List (String × List String)
  distinct : (coins.flatMap fun e => e.2.map (·.objectId)).Nodup

namespace Ledger

variable (l : Ledger)

def coinsOf (coinType : String) : List CoinRecord := (l.coins.lookup coinType).getD []

def ownedOf (structType : String) : List String := (l.owned.lookup structType).getD []

def coinIds : List String := l.coins.flatMap fun e => e.2.map (·.objectId)

def objects : List (String × Worth) :=
  l.coins.flatMap fun e => e.2.map fun c => (c.objectId, .coin e.1 c.balance)

def opening : CoinStore where
  kinds := []
  worth
    | .gas => some (.coin nativeCoinType l.native)
    | .object id => l.objects.lookup id
    | .made .. => none
  paid := []

end Ledger

namespace Ledger

variable {l : Ledger} {t u : String} {c d : CoinRecord}

theorem map_fst_objects : l.objects.map Prod.fst = l.coinIds := by
  simp [objects, coinIds, List.map_flatMap, Function.comp_def]

theorem mem_objects (hc : c ∈ l.coinsOf t) : (c.objectId, Worth.coin t c.balance) ∈ l.objects := by
  unfold coinsOf at hc
  cases ht : l.coins.lookup t with
  | none => simp [ht] at hc
  | some cs =>
    rw [ht] at hc
    exact List.mem_flatMap.2 ⟨(t, cs), mem_of_lookup_eq_some ht, List.mem_map_of_mem hc⟩

theorem worth_opening (hc : c ∈ l.coinsOf t) :
    l.opening.worth (.object c.objectId) = some (.coin t c.balance) :=
  lookup_eq_some_of_mem (map_fst_objects ▸ l.distinct) (mem_objects hc)

theorem mem_coinIds (hc : c ∈ l.coinsOf t) : c.objectId ∈ l.coinIds := by
  rw [← map_fst_objects]
  exact List.mem_map_of_mem (mem_objects hc)

theorem worth_opening_of_notMem {id : String} (hid : id ∉ l.coinIds) :
    l.opening.worth (.object id) = none := by
  rw [← map_fst_objects] at hid
  cases h : l.objects.lookup id with
  | none => exact h
  | some x => exact absurd (List.mem_map_of_mem (mem_of_lookup_eq_some h)) hid

theorem ne_of_coinType (hc : c ∈ l.coinsOf t) (hd : d ∈ l.coinsOf u) (h : t ≠ u) :
    c.objectId ≠ d.objectId := by
  intro heq
  have hw := (worth_opening hc).symm.trans ((congrArg _ (congrArg Place.object heq)).trans (worth_opening hd))
  simp only [Option.some.injEq, Worth.coin.injEq] at hw
  exact h hw.1

theorem size_of_replay {cs : List Command} {st : CoinStore} (h : CoinStore.replay cs l.opening = some st) :
    st.size = cs.length := by
  have hk := CoinStore.kinds_of_replay h
  have ho : l.opening.kinds = [] := rfl
  simp [CoinStore.size, hk, ho]

theorem fresh_of_replay {cs : List Command} {st : CoinStore} (h : CoinStore.replay cs l.opening = some st) :
    st.Fresh :=
  CoinStore.fresh_of_replay (fun _ _ _ => rfl) h

theorem nodup_coinsOf (t : String) : ((l.coinsOf t).map (·.objectId)).Nodup := by
  unfold coinsOf
  cases ht : l.coins.lookup t with
  | none => simp
  | some cs => exact (List.nodup_flatMap.1 l.distinct).1 (t, cs) (mem_of_lookup_eq_some ht)

end Ledger

/-- A router that deals fairly: where the transaction so far leaves the input as a coin that a command made, the
router's commands hand that coin over once, touch nothing else that was there, leave no coin behind, and end in
something fresh. -/
def FairSwap (l : Ledger) (tx : Transaction) (input : Handle) (out : SwapOutput) : Prop :=
  ∀ st n k t units, CoinStore.replay tx.commands l.opening = some st → st.find input = some (.made n k) →
    st.worth (.made n k) = some (.coin t units) →
    ∃ st', CoinStore.replay out.commands st = some st' ∧ st'.paid = st.paid ++ [⟨t, units⟩] ∧
      st'.worth (.made n k) = some .spent ∧
      (∀ p, p ≠ .made n k → (∀ i j, p = .made i j → i < tx.size) → st'.worth p = st.worth p) ∧
      (∀ i j x, tx.size ≤ i → st'.worth (.made i j) = some x → x.isLive = false) ∧
      ∃ i j, tx.size ≤ i ∧ st'.find out.coin = some (.made i j) ∧ st'.worth (.made i j) = some .output

/-- An exchange in which the ledger, if it gives an answer, says what is so. -/
def Ledger.Reports (l : Ledger) : Exchange → Prop
  | ⟨.balance _ t, .ok n⟩ => t = nativeCoinType → n = l.native
  | ⟨.coins _ t, .ok cs⟩ => cs = l.coinsOf t
  | ⟨.ownedObjects _ t, .ok ids⟩ => ids = l.ownedOf t
  | _ => True

/-- An exchange in which the router, if it builds a swap, deals fairly. -/
def Exchange.IsFair (l : Ledger) : Exchange → Prop
  | ⟨.swapBuild _ input _ tx, .ok out⟩ => FairSwap l tx input out
  | _ => True

def Ledger.Answers (l : Ledger) (e : Exchange) : Prop := l.Reports e ∧ e.IsFair l

end LedgerFlow
