import LedgerFlow.Names.Resolution
import LedgerFlow.Proofs.Exchange
import LedgerFlow.Proofs.Members

namespace LedgerFlow

def Node.nameKey? (n : Node) : Option String := n.nameToResolve?.map NameTable.key

theorem mem_collectNames {steps : List Step} {i : Nat} {name : String} :
    (i, name) ∈ collectNames steps ↔
      ∃ s ∈ steps, ∃ written, s.node.nameToResolve? = some written ∧ i = s.index ∧ name = Text.trim written := by
  rw [collectNames, List.mem_filterMap]
  refine exists_congr fun s => and_congr_right fun _ => ?_
  rw [Option.map_eq_some_iff]
  simp [eq_comm]

def Exchange.addressFor? (key : String) : Exchange → Option String
  | ⟨.resolveName name, .ok (some address)⟩ => if Text.lower name = key then some address else none
  | _ => none

namespace NameTable

def answered (es : List Exchange) (key : String) : Option String := es.findSome? (·.addressFor? key)

theorem yields_addressOf {resolver : Bool} {index : Nat} {name address : String} {es : List Exchange}
    (h : (addressOf resolver index name).Yields es (.ok address)) :
    es = [⟨.resolveName name, .ok (some address)⟩] ∧ address.isEmpty = false := by
  cases resolver with
  | false => exact nomatch (Program.yields_done.1 h).2
  | true =>
    obtain ⟨es₁, es₂, answer, rfl, ha, hm⟩ := Engine.yields_bind_ok.1 h
    obtain ⟨x, hx, hr⟩ := Engine.yields_mapFault.1 ha
    cases x with
    | error f => cases hx
    | ok given =>
      cases hx
      split at hm
      · next found hf =>
        obtain ⟨rfl, heq⟩ := Engine.yields_pure.1 hm
        cases heq
        obtain ⟨rfl, hne⟩ := Option.filter_eq_some_iff.1 hf
        rw [Engine.resolveName, Engine.yields_ask, cast_eq] at hr
        exact ⟨by simp [hr], by simpa using hne⟩
      · exact nomatch (Engine.yields_throw.1 hm).2

theorem asks_addressOf (resolver : Bool) (index : Nat) (name : String) :
    (addressOf resolver index name).Asks (· = .resolveName name) := by
  cases resolver with
  | false => trivial
  | true =>
    refine Engine.asks_bind (P := (· = .resolveName name)) (Engine.asks_mapFault (Engine.asks_ask.2 rfl)) ?_
    intro given
    split <;> trivial

theorem asks_extend {resolver : Bool} {t : NameTable} (wanted : List (Nat × String)) :
    (extend resolver t wanted).Asks fun r => ∃ n ∈ wanted, r = .resolveName n.2 := by
  induction wanted generalizing t with
  | nil => trivial
  | cons n rest ih =>
    have hrest : ∀ t, (extend resolver t rest).Asks fun r => ∃ m ∈ n :: rest, r = .resolveName m.2 := fun t =>
      ih.imp fun r ⟨m, hm, hr⟩ => ⟨m, .tail _ hm, hr⟩
    unfold extend
    split
    · exact hrest t
    · apply Engine.asks_bind ((asks_addressOf resolver n.1 n.2).imp fun r hr => ⟨n, List.mem_cons_self, hr⟩)
      exact fun address => hrest _

structure Grows (t : NameTable) (wanted : List (Nat × String)) (es : List Exchange) (t' : NameTable) : Prop where
  lookup : ∀ key, t'.addresses.lookup key = (t.addresses.lookup key).or (answered es key)
  asked : ∀ e ∈ es, ∃ n ∈ wanted, ∃ address, e = ⟨.resolveName n.2, .ok (some address)⟩ ∧
    t.addresses.lookup (Text.lower n.2) = none ∧ answered es (Text.lower n.2) = some address
  known : ∀ n ∈ wanted, (t'.addresses.lookup (Text.lower n.2)).isSome = true

theorem answered_cons {name address : String} {es : List Exchange} (key : String) :
    answered (⟨.resolveName name, .ok (some address)⟩ :: es) key =
      if key = Text.lower name then some address else answered es key := by
  by_cases hk : key = Text.lower name
  · simp [hk, answered, Exchange.addressFor?]
  · simp [hk, Ne.symm hk, answered, Exchange.addressFor?]

theorem grows_extend {resolver : Bool} {t t' : NameTable} {wanted : List (Nat × String)} {es : List Exchange}
    (h : (extend resolver t wanted).Yields es (.ok t')) : t.Grows wanted es t' := by
  induction wanted generalizing t es with
  | nil =>
    obtain ⟨rfl, heq⟩ := Engine.yields_pure.1 h
    cases heq
    exact ⟨fun key => by simp [answered], by simp, by simp⟩
  | cons n rest ih =>
    obtain ⟨index, name⟩ := n
    unfold extend at h
    split at h
    · next hknown =>
      have hr := ih h
      refine ⟨hr.lookup, fun e he => ?_, fun n hn => ?_⟩
      · obtain ⟨n, hn, hasked⟩ := hr.asked e he
        exact ⟨n, .tail _ hn, hasked⟩
      · cases hn with
        | head => rw [hr.lookup, Option.isSome_or, hknown, Bool.true_or]
        | tail _ hn => exact hr.known n hn
    · next hnew =>
      obtain ⟨es₁, es₂, address, rfl, ha, hx⟩ := Engine.yields_bind_ok.1 h
      obtain ⟨rfl, -⟩ := yields_addressOf ha
      have hr := ih hx
      have hnone : t.addresses.lookup (Text.lower name) = none := by
        rwa [Option.not_isSome_iff_eq_none] at hnew
      have hinsert : ∀ key, (t.insert name address).addresses.lookup key =
          if key = Text.lower name then some address else t.addresses.lookup key :=
        fun key => Json.lookup_put _ _ key _
      have hlookup : ∀ key, t'.addresses.lookup key =
          (t.addresses.lookup key).or (answered (⟨.resolveName name, .ok (some address)⟩ :: es₂) key) := by
        intro key
        rw [hr.lookup, hinsert, answered_cons]
        split
        · next hk => rw [hk, hnone, Option.none_or, Option.some_or]
        · rfl
      refine ⟨hlookup, fun e he => ?_, fun n hn => ?_⟩
      · cases he with
        | head => exact ⟨(index, name), List.mem_cons_self, address, rfl, hnone, by simp [answered_cons]⟩
        | tail _ he =>
          obtain ⟨n, hn, given, hgiven, hfresh, hanswer⟩ := hr.asked e he
          rw [hinsert] at hfresh
          split at hfresh
          · cases hfresh
          · next hne =>
            refine ⟨n, .tail _ hn, given, hgiven, hfresh, ?_⟩
            rw [List.singleton_append, answered_cons, if_neg hne, hanswer]
      · cases hn with
        | head => simp [hlookup, hnone, answered_cons]
        | tail _ hn => exact hr.known n hn

end NameTable

open NameTable (answered)

section

variable {resolver : Bool} {steps : List Step} {names : NameTable} {es : List Exchange}

theorem grows_resolveNames (h : (resolveNames resolver steps).Yields es (.ok names)) :
    NameTable.empty.Grows (collectNames steps) es names :=
  NameTable.grows_extend h

theorem lookup_of_resolveNames (h : (resolveNames resolver steps).Yields es (.ok names)) (value : String) :
    names.lookup value = (answered es (NameTable.key value)).getD (Text.trim value) := by
  rw [NameTable.lookup, (grows_resolveNames h).lookup]
  rfl

theorem of_answered (h : (resolveNames resolver steps).Yields es (.ok names)) {key address : String}
    (ha : answered es key = some address) :
    ∃ s ∈ steps, ∃ written, s.node.nameToResolve? = some written ∧ NameTable.key written = key ∧
      ⟨.resolveName (Text.trim written), .ok (some address)⟩ ∈ es := by
  obtain ⟨e, he, hea⟩ := List.exists_of_findSome?_eq_some ha
  obtain ⟨⟨i, name⟩, hn, given, rfl, -⟩ := (grows_resolveNames h).asked e he
  obtain ⟨s, hs, written, hw, -, rfl⟩ := mem_collectNames.1 hn
  simp only [Exchange.addressFor?, Option.ite_none_right_eq_some, Option.some.injEq] at hea
  obtain ⟨hkey, rfl⟩ := hea
  exact ⟨s, hs, written, hw, hkey, he⟩

theorem isSome_answered (h : (resolveNames resolver steps).Yields es (.ok names)) {key : String} :
    (answered es key).isSome = true ↔ ∃ s ∈ steps, s.node.nameKey? = some key := by
  constructor
  · intro hsome
    obtain ⟨address, ha⟩ := Option.isSome_iff_exists.1 hsome
    obtain ⟨s, hs, written, hw, hkey, -⟩ := of_answered h ha
    exact ⟨s, hs, by simp [Node.nameKey?, hw, hkey]⟩
  · rintro ⟨s, hs, hk⟩
    obtain ⟨written, hw, rfl⟩ := Option.map_eq_some_iff.1 hk
    have hg := grows_resolveNames h
    have hknown := hg.known _ (mem_collectNames.2 ⟨s, hs, written, hw, rfl, rfl⟩)
    rwa [hg.lookup] at hknown

end

end LedgerFlow
