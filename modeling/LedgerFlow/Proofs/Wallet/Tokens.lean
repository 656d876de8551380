import LedgerFlow.Proofs.Members
import LedgerFlow.Token
import Mathlib.Data.List.Induction

namespace LedgerFlow

namespace TokenRegistry

def tokens (r : TokenRegistry) : List Token := r.entries.map (·.2)

def nativeType? (r : TokenRegistry) : Option String := (r.find? nativeSymbol).map (·.coinType)

structure Keyed (r : TokenRegistry) : Prop where
  nodup : (r.entries.map Prod.fst).Nodup
  symbol : ∀ e ∈ r.entries, e.1 = Text.upper e.2.symbol

theorem keyed_ofList (ts : List Token) : (ofList ts).Keyed := by
  induction ts using List.reverseRecOn with
  | nil => exact ⟨.nil, fun _ he => nomatch he⟩
  | append_singleton ts t ih =>
    have hstep : ofList (ts ++ [t]) = (ofList ts).register t := by simp [ofList]
    rw [hstep]
    refine ⟨Json.nodup_put ih.nodup, fun e he => ?_⟩
    obtain rfl | he := Json.mem_put he
    · rfl
    · exact ih.symbol e he

theorem nativeType?_of_mem {ts : List Token} {t : Token} (ht : t ∈ (ofList ts).tokens) (hn : t.isNative = true) :
    (ofList ts).nativeType? = some t.coinType := by
  obtain ⟨⟨key, u⟩, he, rfl⟩ := List.mem_map.1 ht
  have hkeyed := keyed_ofList ts
  have hkey : key = Text.upper nativeSymbol := (hkeyed.symbol _ he).trans (congrArg Text.upper (beq_iff_eq.1 hn))
  have hlookup := lookup_eq_some_of_mem hkeyed.nodup he
  have hne : nativeSymbol.isEmpty = false := rfl
  rw [nativeType?, find?, hne, if_neg Bool.false_ne_true, ← hkey, hlookup]
  rfl

end TokenRegistry

end LedgerFlow
