import LedgerFlow.Proofs.Names.Addresses
import Mathlib.Data.List.DropRight

namespace LedgerFlow

namespace Text

variable {c d : Char} {before after cs : List Char}

theorem toNat_ofNat (n : ℕ) : (Char.ofNat n).toNat = n ∨ (Char.ofNat n).toNat = 0 := by
  by_cases h : n.isValidChar
  · left
    rw [Char.ofNat, dif_pos h]
    rfl
  · right
    rw [Char.ofNat, dif_neg h]
    rfl

theorem lt_partner? : ∀ r ∈ lowerRuns, r.last < 128 ∨ 64 < r.first + r.shift := by
  decide +kernel

theorem toNat_partner (hc : 128 ≤ c.toNat) : (partner lowerRuns c).toNat = 0 ∨ 64 < (partner lowerRuns c).toNat := by
  unfold partner
  cases hp : lowerRuns.findSome? (·.partner? c.toNat) with
  | none =>
    right
    simp only [Option.map_none, Option.getD_none]
    omega
  | some n =>
    obtain ⟨r, hr, hn⟩ := List.exists_of_findSome?_eq_some hp
    have hrun := lt_partner? r hr
    simp only [CaseRun.partner?, Option.ite_none_right_eq_some, Bool.and_eq_true, decide_eq_true_eq,
      Option.some.injEq] at hn
    obtain ⟨⟨⟨hfirst, hlast⟩, -⟩, rfl⟩ := hn
    have hnat := toNat_ofNat (c.toNat + r.shift).toNat
    simp only [Option.map_some, Option.getD_some]
    omega

theorem eq_of_mem_lowerAt (hd : 0 < d.toNat ∧ d.toNat ≤ 64) (h : d ∈ lowerAt before c after) : c = d := by
  unfold lowerAt at h
  split at h
  · next hc =>
    have hsame := of_ascii (P := fun c => 0 < c.toLower.toNat ∧ c.toLower.toNat ≤ 64 → c = c.toLower)
      (by decide +kernel) hc
    rw [List.mem_singleton] at h
    subst h
    exact hsame hd
  · next hc =>
    exfalso
    split at h
    · rw [List.mem_singleton] at h
      split at h <;> subst h <;> revert hd <;> decide
    · split at h
      · simp only [List.mem_cons, List.not_mem_nil, or_false] at h
        obtain rfl | rfl := h <;> revert hd <;> decide
      · rw [List.mem_singleton] at h
        have hwide : 128 ≤ c.toNat := by
          have := UInt32.not_lt.1 hc
          exact UInt32.le_iff_toNat_le.1 this
        have hpartner := toNat_partner hwide
        rw [← h] at hpartner
        omega

theorem mem_of_mem_trimBy {skip : Char → Bool} (h : d ∈ trimBy skip cs) : d ∈ cs :=
  (List.dropWhile_sublist skip).mem (List.mem_reverse.1 ((List.dropWhile_sublist skip).mem (List.mem_reverse.1 h)))

theorem trimBy_trimBy {skip : Char → Bool} : trimBy skip (trimBy skip cs) = trimBy skip cs := by
  have hfirst : (trimBy skip cs).dropWhile skip = trimBy skip cs := by
    cases ht : trimBy skip cs with
    | nil => rfl
    | cons c rest =>
      obtain ⟨blanks, happend⟩ : trimBy skip cs <+: cs.dropWhile skip := List.rdropWhile_prefix skip _
      have hc := List.head?_dropWhile_not skip cs
      rw [← happend, ht] at hc
      exact List.dropWhile_cons_of_neg (by simpa using hc)
  rw [trimBy, hfirst]
  exact List.rdropWhile_idempotent skip (cs.dropWhile skip)

theorem trim_trim (s : String) : trim (trim s) = trim s := by
  rw [trim, trim, String.toList_ofList, trimBy_trimBy]

theorem mem_of_mem_lowerFrom (hd : 0 < d.toNat ∧ d.toNat ≤ 64) (h : d ∈ lowerFrom before cs) : d ∈ cs := by
  obtain ⟨c, hc, seen, left, hat⟩ := mem_lowerFrom h
  exact eq_of_mem_lowerAt hd hat ▸ hc

end Text

namespace NameForm

open Text

theorem mem_of_isName {foreign : Bool} {s : String} (h : isName foreign s = true) :
    '.' ∈ trimBy isBlank s.toList ∨ '@' ∈ trimBy isBlank s.toList := by
  have hdot : ∀ last, isDotted 1 last (trimBy isBlank s.toList) = true → '.' ∈ trimBy isBlank s.toList := by
    intro last hd
    by_contra hno
    have hlabels : labels (trimBy isBlank s.toList) = [trimBy isBlank s.toList] :=
      List.splitOnP_eq_singleton fun c hc => beq_eq_false_iff_ne.2 fun heq => hno (heq ▸ hc)
    simp [isDotted, hlabels] at hd
  cases foreign with
  | true => exact .inl (hdot _ h)
  | false =>
    obtain h | h := Bool.or_eq_true_iff.1 h
    · exact .inl (hdot _ h)
    · right
      obtain ⟨front, part, hcs, hhandle, -⟩ := of_isDotted h
      rw [hcs]
      unfold isHandle at hhandle
      split at hhandle
      · simp
      · cases hhandle

end NameForm

open NameTable (key answered)

theorem Node.nameKey?_ne {n : Node} {value : String} (hdot : '.' ∉ value.toList) (hat : '@' ∉ value.toList) :
    n.nameKey? ≠ some (key value) := by
  intro h
  obtain ⟨written, hw, hk⟩ := Option.map_eq_some_iff.1 h
  have hmem : ∀ c ∈ (key value).toList, 0 < c.toNat ∧ c.toNat ≤ 64 → c ∈ value.toList := by
    intro c hc hsign
    rw [NameForm.toList_key] at hc
    exact Text.mem_of_mem_trimBy (Text.mem_of_mem_lowerFrom hsign hc)
  rw [← hk, NameForm.toList_key] at hmem
  obtain h | h := NameForm.mem_of_isName (Node.isName_of_nameToResolve? hw)
  · exact hdot (hmem _ (Text.mem_lowerFrom_of_ascii h (by decide)) (by decide))
  · exact hat (hmem _ (Text.mem_lowerFrom_of_ascii h (by decide)) (by decide))

/-- Of the names, those whose lower case comes for the first time, and is not among those seen before. -/
def firstUses (seen : List String) : List (Nat × String) → List (Nat × String)
  | [] => []
  | n :: rest =>
    if Text.lower n.2 ∈ seen then firstUses seen rest
    else n :: firstUses (Text.lower n.2 :: seen) rest

section

variable {seen : List String} {wanted : List (Nat × String)}

theorem find?_mem_firstUses (seen : List String) {n : Nat × String} (hn : n ∈ wanted) (hs : Text.lower n.2 ∉ seen) :
    ∃ m ∈ firstUses seen wanted, wanted.find? (fun m => Text.lower m.2 = Text.lower n.2) = some m := by
  induction wanted generalizing seen with
  | nil => cases hn
  | cons m rest ih =>
    by_cases hk : Text.lower m.2 = Text.lower n.2
    · exact ⟨m, by simp [firstUses, hk, hs], by simp [hk]⟩
    · have hmem : n ∈ rest := (List.mem_cons.1 hn).resolve_left fun heq => hk (by rw [heq])
      rw [List.find?_cons_of_neg (by simpa using hk)]
      unfold firstUses
      split
      · exact ih seen hmem hs
      · obtain ⟨first, hfirst, hfind⟩ := ih (Text.lower m.2 :: seen) hmem (by simp [hs, Ne.symm hk])
        exact ⟨first, .tail _ hfirst, hfind⟩

theorem nodup_firstUses (seen : List String) (wanted : List (Nat × String)) :
    (seen ++ (firstUses seen wanted).map fun n => Text.lower n.2).Nodup ↔ seen.Nodup := by
  induction wanted generalizing seen with
  | nil => simp [firstUses]
  | cons n rest ih =>
    unfold firstUses
    split
    · exact ih seen
    · next hnew =>
      rw [List.map_cons, (List.perm_middle).nodup_iff, ← List.cons_append, ih, List.nodup_cons]
      simp [hnew]

end

namespace NameTable

/-- A name in the step that uses it first, with the address that it was given. -/
structure Grant where
  use : Nat × String
  address : String

def Grant.exchange (g : Grant) : Exchange := ⟨.resolveName g.use.2, .ok (some g.address)⟩

/-- Why a name has no address, with what was asked for it. -/
inductive Refused (resolver : Bool) (name : String) : List Exchange → Reason → Prop
  | noResolver (h : resolver = false) : Refused resolver name [] (.noResolver name)
  | failed (h : resolver = true) (f : Fault) :
      Refused resolver name [⟨.resolveName name, .error f⟩] (.resolutionFailed name f.text)
  | unknown (h : resolver = true) {given : Option String} (hg : ∀ address ∈ given, address = "") :
      Refused resolver name [⟨.resolveName name, .ok given⟩] (.unresolvedName name)

variable {resolver : Bool} {index : Nat} {name : String} {es : List Exchange}

theorem refused_of_addressOf {f : Fault} (h : (addressOf resolver index name).Yields es (.error f)) :
    ∃ reason, Refused resolver name es reason ∧ f = unresolved index reason := by
  cases resolver with
  | false =>
    obtain ⟨rfl, heq⟩ := Program.yields_done.1 h
    cases heq
    exact ⟨_, .noResolver rfl, rfl⟩
  | true =>
    obtain ⟨answer, es', rfl, ⟨g, rfl, rfl, heq⟩ | ⟨given, rfl, hk⟩⟩ := Engine.yields_mapFault_ask_bind.1 h
    · cases heq
      exact ⟨_, .failed rfl g, rfl⟩
    · split at hk
      · exact nomatch (Engine.yields_pure.1 hk).2
      · next hnone =>
        obtain ⟨rfl, heq⟩ := Engine.yields_throw.1 hk
        cases heq
        exact ⟨_, .unknown rfl (by simpa using hnone), rfl⟩

theorem granted_of_addressOf {address : String} (h : (addressOf resolver index name).Yields es (.ok address)) :
    es = [Grant.exchange ⟨(index, name), address⟩] ∧ resolver = true ∧ address ≠ "" := by
  obtain ⟨rfl, hne⟩ := yields_addressOf h
  refine ⟨rfl, ?_, by simpa using hne⟩
  cases resolver with
  | false => exact nomatch (Program.yields_done.1 h).2
  | true => rfl

theorem granted_of_extend {t : NameTable} {seen : List String} {wanted : List (Nat × String)}
    {r : Except Fault NameTable} (hseen : ∀ k, k ∈ seen ↔ (t.addresses.lookup k).isSome = true)
    (h : (extend resolver t wanted).Yields es r) :
    ∃ granted : List Grant, (∀ g ∈ granted, resolver = true ∧ g.address ≠ "") ∧
      ((firstUses seen wanted = granted.map (·.use) ∧ es = granted.map (·.exchange) ∧ ∃ t', r = .ok t') ∨
        ∃ n rest refused reason, firstUses seen wanted = granted.map (·.use) ++ n :: rest ∧
          es = granted.map (·.exchange) ++ refused ∧ Refused resolver n.2 refused reason ∧
          r = .error (unresolved n.1 reason)) := by
  induction wanted generalizing t seen es with
  | nil =>
    obtain ⟨rfl, rfl⟩ := Engine.yields_pure.1 h
    exact ⟨[], by simp, .inl ⟨rfl, rfl, t, rfl⟩⟩
  | cons n rest ih =>
    obtain ⟨index, name⟩ := n
    unfold extend at h
    split at h
    · next hknown =>
      rw [firstUses, if_pos ((hseen _).2 hknown)]
      exact ih hseen h
    · next hnew =>
      rw [firstUses, if_neg fun hk => hnew ((hseen _).1 hk)]
      obtain ⟨es₁, es₂, address, rfl, ha, hx⟩ | ⟨f, rfl, ha⟩ := Engine.yields_bind.1 h
      · obtain ⟨rfl, hresolver, hne⟩ := granted_of_addressOf ha
        have hseen' : ∀ k, k ∈ Text.lower name :: seen ↔
            ((t.insert name address).addresses.lookup k).isSome = true := by
          intro k
          rw [insert, Json.lookup_put, List.mem_cons, hseen]
          by_cases hk : k = Text.lower name <;> simp [hk]
        obtain ⟨granted, hgranted, hrest⟩ := ih hseen' hx
        refine ⟨⟨(index, name), address⟩ :: granted, ?_, ?_⟩
        · exact List.forall_mem_cons.2 ⟨⟨hresolver, hne⟩, hgranted⟩
        · obtain ⟨hdue, rfl, ht⟩ | ⟨n, later, refused, reason, hdue, rfl, hrefused, hr⟩ := hrest
          · exact .inl ⟨by rw [hdue, List.map_cons], rfl, ht⟩
          · exact .inr ⟨n, later, refused, reason, by rw [hdue, List.map_cons, List.cons_append], rfl, hrefused, hr⟩
      · obtain ⟨reason, hrefused, rfl⟩ := refused_of_addressOf ha
        exact ⟨[], by simp, .inr ⟨(index, name), _, es, reason, rfl, rfl, hrefused, rfl⟩⟩

theorem answered_exchange {granted : List Grant} {g : Grant}
    (hnodup : (granted.map fun g => Text.lower g.use.2).Nodup) (hg : g ∈ granted) :
    answered (granted.map (·.exchange)) (Text.lower g.use.2) = some g.address := by
  induction granted with
  | nil => cases hg
  | cons first granted ih =>
    obtain ⟨hfirst, hrest⟩ := List.nodup_cons.1 hnodup
    rw [List.map_cons, Grant.exchange, answered_cons]
    cases hg with
    | head => rw [if_pos rfl]
    | tail _ hg =>
      rw [if_neg fun heq => hfirst (List.mem_map.2 ⟨g, hg, heq⟩)]
      exact ih hrest hg

end NameTable

open NameTable (Grant Refused unresolved)

section

variable {resolver : Bool} {steps : List Step} {names : NameTable} {es : List Exchange}

theorem lookup_of_mem_collectNames (h : (resolveNames resolver steps).Yields es (.ok names)) {granted : List Grant}
    (hdue : firstUses [] (collectNames steps) = granted.map (·.use)) (hes : es = granted.map (·.exchange))
    {n : Nat × String} (hn : n ∈ collectNames steps) :
    ∃ g ∈ granted, (collectNames steps).find? (fun m => Text.lower m.2 = Text.lower n.2) = some g.use ∧
      names.lookup n.2 = g.address := by
  obtain ⟨first, hfirst, hfind⟩ := find?_mem_firstUses [] hn List.not_mem_nil
  rw [hdue] at hfirst
  obtain ⟨g, hg, rfl⟩ := List.mem_map.1 hfirst
  have hnodup : (granted.map fun g => Text.lower g.use.2).Nodup := by
    have hkeys := nodup_firstUses [] (collectNames steps)
    rw [hdue, List.map_map] at hkeys
    exact hkeys.2 .nil
  have hkey : key n.2 = Text.lower g.use.2 := by
    obtain ⟨s, hs, written, hw, -, htrim⟩ := mem_collectNames.1 (show (n.1, n.2) ∈ collectNames steps from hn)
    rw [key, htrim, Text.trim_trim, ← htrim]
    have hfound := List.find?_some hfind
    exact (of_decide_eq_true hfound).symm
  refine ⟨g, hg, hfind, ?_⟩
  rw [lookup_of_resolveNames h, hes, hkey, NameTable.answered_exchange hnodup hg, Option.getD_some]

end

/-- Whatever the collaborators do, the names are asked for as they are written where they come first, letter case aside,
and in that order. Either each of them is given an address, and then all names of the plan stand for the address of the
first one of the same lower case, or the first one that is not ends it all at the step that it comes from. What has
neither a dot nor an at sign in it is not asked for, and it stands for itself, trimmed. -/
theorem resolveNames_once {σ : Type} (answer : (r : Request) → σ → r.Answer × σ) (s : σ) (resolver : Bool)
    (steps : List Step) :
    let wanted := collectNames steps
    let es := (resolveNames resolver steps).run.exchanges answer s
    let r := ((resolveNames resolver steps).run.run answer s).1
    (∃ granted : List Grant, (∀ g ∈ granted, resolver = true ∧ g.address ≠ "") ∧
      ((firstUses [] wanted = granted.map (·.use) ∧ es = granted.map (·.exchange) ∧ ∃ names, r = .ok names ∧
          ∀ n ∈ wanted, ∃ g ∈ granted, wanted.find? (fun m => Text.lower m.2 = Text.lower n.2) = some g.use ∧
            names.lookup n.2 = g.address) ∨
        ∃ n rest refused reason, firstUses [] wanted = granted.map (·.use) ++ n :: rest ∧
          es = granted.map (·.exchange) ++ refused ∧ Refused resolver n.2 refused reason ∧
          r = .error (unresolved n.1 reason))) ∧
      ∀ value : String, '.' ∉ value.toList → '@' ∉ value.toList → (∀ e ∈ es, e.request ≠ .resolveName value) ∧
        ∀ names, r = .ok names → names.lookup value = Text.trim value := by
  intro wanted es r
  have h : (resolveNames resolver steps).Yields es r := Program.yields_run answer _ s
  constructor
  · have hnone : ∀ k, k ∈ ([] : List String) ↔ (NameTable.empty.addresses.lookup k).isSome = true := by
      simp [NameTable.empty]
    obtain ⟨granted, hgranted, ⟨hdue, hes, names, hr⟩ | hrefused⟩ := NameTable.granted_of_extend hnone h
    · rw [hr] at h
      exact ⟨granted, hgranted, .inl ⟨hdue, hes, names, hr, fun n hn => lookup_of_mem_collectNames h hdue hes hn⟩⟩
    · exact ⟨granted, hgranted, .inr hrefused⟩
  · intro value hdot hat
    have hplain : ∀ s ∈ steps, s.node.nameKey? ≠ some (key value) := fun s _ => Node.nameKey?_ne hdot hat
    constructor
    · intro e he heq
      obtain ⟨n, hn, hasked⟩ := (NameTable.asks_extend (collectNames steps)).of_yields h e he
      cases hasked.symm.trans heq
      obtain ⟨s, hs, written, hw, -, htrim⟩ := mem_collectNames.1 (show (n.1, n.2) ∈ collectNames steps from hn)
      refine hplain s hs ?_
      rw [Node.nameKey?, hw, Option.map_some, key, key, htrim, Text.trim_trim]
    · intro names hr
      rw [hr] at h
      exact lookup_eq_trim h hplain

def aliceTwice : List Step :=
  [.of 0 (.transfer ⟨some "@Alice", some 1, "SUI"⟩), .of 1 (.transfer ⟨some " @ALICE ", some 2, "SUI"⟩),
    .of 2 (.transfer ⟨some "0xb0b", some 3, "SUI"⟩)]

def knowingAlice : Rehearsal := .create { Rehearsal.blank with names := ⟨[("@Alice", "0xa11ce")], []⟩ }

theorem resolveNames_once_aliceTwice :
    firstUses [] (collectNames aliceTwice) = [(0, "@Alice")] ∧
      ((resolveNames true aliceTwice).run.run Rehearsal.answer knowingAlice).1 = .ok ⟨[("@alice", "0xa11ce")]⟩ ∧
      (∀ e ∈ (resolveNames true aliceTwice).run.exchanges Rehearsal.answer knowingAlice,
        e.request ≠ .resolveName "0xb0b") ∧
      NameTable.lookup ⟨[("@alice", "0xa11ce")]⟩ "0xb0b" = Text.trim "0xb0b" := by
  have hplain := (resolveNames_once Rehearsal.answer knowingAlice true aliceTwice).2 "0xb0b" (by decide) (by decide)
  exact ⟨by decide, rfl, hplain.1, hplain.2 _ rfl⟩

end LedgerFlow
