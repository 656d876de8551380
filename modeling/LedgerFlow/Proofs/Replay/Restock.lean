import LedgerFlow.Proofs.Replay.Rehearsal
import LedgerFlow.Proofs.Wallet.Reruns

namespace LedgerFlow

namespace Rehearsal

def held (coinType : String) (s : Rehearsal) : List CoinRecord := (s.script.ledger.coins.lookup coinType).getD []

def restock (coinType : String) (more : List CoinRecord) (s : Rehearsal) : Rehearsal :=
  { s with script.ledger.coins := (coinType, s.held coinType ++ more) :: s.script.ledger.coins }

variable {owner coinType : String} {more : List CoinRecord} {s s' : Rehearsal}

theorem answer_restock_coins : answer (.coins owner coinType) (s.restock coinType more) =
    (orFail s.script.ledger.coinsFailure (s.held coinType ++ more),
      (answer (.coins owner coinType) s).2.restock coinType more) := by
  simp [answer, restock, held, record]

theorem answer_restock_of_ne {q : Request} (hq : q.source? ≠ some (.coins coinType)) :
    answer q (s.restock coinType more) = ((answer q s).1, (answer q s).2.restock coinType more) := by
  obtain ⟨⟨ledger, predicates, names, swap, ⟨offers, executions⟩, signer⟩, audience, silent, events⟩ := s
  cases q with
  | coins owner t =>
    have hne : (t == coinType) = false := beq_eq_false_iff_ne.2 fun h => hq (congrArg (some <| Source.coins ·) h)
    simp [answer, restock, held, record, List.lookup_cons, hne]
  | predicateBalance owner t => cases predicates <;> rfl
  | contractQuery target arguments => cases predicates <;> rfl
  | routes request => cases offers <;> rfl
  | executeRoute route => cases executions <;> rfl
  | publish status => cases silent <;> rfl
  | _ => rfl

structure Speaks (s : Rehearsal) : Prop where
  balance : s.script.ledger.balanceFailure = none
  coins : s.script.ledger.coinsFailure = none

theorem Speaks.answer (h : s.Speaks) (q : Request) : (Rehearsal.answer q s).2.Speaks :=
  ⟨by rw [ledger_answer, h.balance], by rw [ledger_answer, h.coins]⟩

def restocked (c : Protocol.Setting) (reserve : Int) {source : Source} (hs : source = .coins coinType)
    (more : List CoinRecord) (hmore : 0 ≤ Holding.total more) : Rerun answer c reserve source where
  State := Rehearsal
  again := answer
  Same s s' := s.Speaks ∧ s' = s.restock coinType more
  more := Holding.total more
  nonneg := hmore
  next := by
    rintro q s _ ⟨hspeaks, rfl⟩
    refine ⟨hspeaks.answer q, ?_⟩
    by_cases hq : q.source? = some (.coins coinType)
    · cases q with
      | coins owner t =>
        cases hq
        rw [answer_restock_coins]
      | _ => cases hq
    · rw [answer_restock_of_ne hq]
  replenished := by
    rintro q s _ units ⟨hspeaks, rfl⟩ ⟨symbol, t, -, hsource, rfl⟩ hunits
    have hq := t.source?_inquiry c.signer
    rw [hsource, hs] at hq
    cases hinquiry : t.inquiry c.signer with
    | coins owner u =>
      rw [hinquiry] at hq hunits
      cases hq
      rw [answer_restock_coins, hspeaks.coins]
      simp only [answer, hspeaks.coins, orFail, Exchange.opening?, Option.some.injEq] at hunits ⊢
      rw [Holding.total_append, ← hunits, held]
    | _ =>
      rw [hinquiry] at hq
      cases hq
  others := by
    rintro q s _ ⟨-, rfl⟩ hq
    rw [answer_restock_of_ne (hs ▸ hq)]
  routed := by
    rintro q h h' slippage tx tx' s _ ⟨hspeaks, rfl⟩ hok
    refine ⟨?_, hspeaks, rfl⟩
    cases hfailure : s.script.swap.buildFailure with
    | none => simp [answer, restock, hfailure, orFail, Except.isOk, Except.toBool]
    | some f => simp [answer, hfailure, orFail, Except.isOk, Except.toBool] at hok
  candid := by
    rintro s _ ⟨hspeaks, -⟩
    constructor
    · intro owner t f h
      simp [answer, hspeaks.balance, orFail] at h
    · intro owner t f h
      simp [answer, hspeaks.coins, orFail] at h

end Rehearsal

end LedgerFlow
