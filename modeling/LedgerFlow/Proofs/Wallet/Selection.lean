import LedgerFlow.Proofs.Replay.Wallet
import Mathlib.Logic.Relation

namespace LedgerFlow

namespace Holding

open Relation (ReflTransGen)

/-- The largest coin that is left is taken into use, as what those in use are worth falls short of the amount. -/
inductive Turn (amount : Int) : Holding → Holding → Prop
  | take {used unused : List CoinRecord} {c : CoinRecord} {balance spent : Int} (short : balance < amount) :
      Turn amount ⟨used, c :: unused, balance, spent⟩ ⟨used ++ [c], unused, balance + c.balance, spent⟩

structure Selects (amount : Int) (h final : Holding) : Prop where
  turns : ReflTransGen (Turn amount) h final
  enough : amount ≤ final.balance
  available : ∀ x, ReflTransGen (Turn amount) h x → x.balance < amount → x.unused ≠ []
  terminates : Acc (fun y x => Turn amount x y) h

variable {amount : Int} {h x y : Holding}

theorem Turn.remaining (ht : Turn amount x y) : y.remaining = x.remaining := by
  cases ht
  simp only [Holding.remaining, total]
  omega

theorem remaining_of_turns (ht : ReflTransGen (Turn amount) x y) : y.remaining = x.remaining := by
  induction ht with
  | refl => rfl
  | tail _ hy ih => exact hy.remaining.trans ih

theorem acc_turn (amount : Int) (h : Holding) : Acc (fun y x => Turn amount x y) h := by
  obtain ⟨used, unused, balance, spent⟩ := h
  induction unused generalizing used balance with
  | nil => exact ⟨_, fun y hy => by cases hy⟩
  | cons c rest ih =>
    constructor
    rintro y ⟨-⟩
    exact ih _ _

theorem turns_gather (amount : Int) (h : Holding) : ReflTransGen (Turn amount) h (h.gather amount) := by
  obtain ⟨used, unused, balance, spent⟩ := h
  induction unused generalizing used balance with
  | nil => simp [gather, needed, total, ReflTransGen.refl]
  | cons c rest ih =>
    by_cases hshort : balance < amount
    · have hnext := ih (used ++ [c]) (balance + c.balance)
      have hgather : gather ⟨used ++ [c], rest, balance + c.balance, spent⟩ amount =
          gather ⟨used, c :: rest, balance, spent⟩ amount := by
        simp [gather, needed, hshort, total, Int.add_assoc]
      exact .head (.take hshort) (hgather ▸ hnext)
    · simp [gather, needed, hshort, total, ReflTransGen.refl]

theorem selects_gather (hle : amount ≤ h.remaining) : h.Selects amount (h.gather amount) where
  turns := turns_gather amount h
  enough := le_total_take hle
  available := by
    intro x hx hshort hnil
    have hsame := remaining_of_turns hx
    simp only [Holding.remaining, hnil, total] at hsame hle
    omega
  terminates := acc_turn amount h

theorem total_perm {as bs : List CoinRecord} (h : as.Perm bs) : total as = total bs := by
  induction h with
  | nil => rfl
  | cons c _ ih => simp only [total, ih]
  | swap c d rest =>
    simp only [total]
    omega
  | trans _ _ ih₁ ih₂ => exact ih₁.trans ih₂

theorem total_append (xs ys : List CoinRecord) : total (xs ++ ys) = total xs + total ys := by
  induction xs with
  | nil => exact (Int.zero_add _).symm
  | cons x rest ih => rw [List.cons_append, total, total, ih, Int.add_assoc]

theorem remaining_ofCoins (cs : List CoinRecord) : (ofCoins cs).remaining = total cs := by
  have h : (ofCoins cs).remaining = 0 + total (cs.mergeSort fun a b => b.balance ≤ a.balance) := rfl
  rw [h, Int.zero_add, total_perm (List.mergeSort_perm _ _)]

theorem remaining_spend (h : Holding) (amount : Int) :
    ((h.gather amount).spend amount).remaining = h.remaining - amount := by
  have hsame := remaining_of_turns (turns_gather amount h)
  have hspend : ((h.gather amount).spend amount).remaining =
      (h.gather amount).balance - amount + total (h.gather amount).unused := rfl
  rw [hspend, ← hsame, Holding.remaining]
  omega

/-- Coins that are not in use are worth nothing to the books yet. -/
def Idle (h : Holding) : Prop := h.used = [] → h.balance = 0

theorem remaining_of_isEmpty {h : Holding} (hi : h.Idle) (he : h.isEmpty = true) : h.remaining = 0 := by
  obtain ⟨hu, hunused⟩ : h.used = [] ∧ h.unused = [] := by simpa [isEmpty] using he
  simp [Holding.remaining, hi hu, hunused, total]

theorem used_gather {h : Holding} {amount : Int} (hi : h.Idle) (hpos : 0 < amount) (hle : amount ≤ h.remaining) :
    ∃ c rest, (h.gather amount).used = c :: rest := by
  cases hu : h.used with
  | cons c rest => exact ⟨c, rest ++ h.unused.take (needed h.balance amount h.unused), by simp [gather, hu]⟩
  | nil =>
    have hb := hi hu
    have hne : h.unused ≠ [] := by
      intro hnil
      simp only [Holding.remaining, hb, hnil, total] at hle
      omega
    cases ht : h.unused.take (needed h.balance amount h.unused) with
    | nil => exact absurd ht (take_needed_ne_nil (hb ▸ hpos) hne)
    | cons c rest => exact ⟨c, rest, by simp [gather, hu, ht]⟩

end Holding

end LedgerFlow
