import LedgerFlow.Proofs.Names.Forms
import LedgerFlow.Proofs.Names.Resolution

/-!
What address a text in a plan stands for. A name stands for the address which the resolver gave for it. Any other text is
an address itself and is only trimmed, but for one case: some step may need a name which, in lower case, is the same text,
and then it stands for the address of that name.
-/

namespace LedgerFlow

open NameTable (key answered)

namespace NameForm

def isName (foreign : Bool) (s : String) : Bool := if foreign then isForeignName s else isLedgerName s

theorem foreign_eq_of_key {f g : Bool} {a b : String} (ha : isName f a = true) (hb : isName g b = true)
    (hk : key a = key b) : f = g := by
  cases f <;> cases g
  · rfl
  · exact absurd hk (key_ne_key ha hb)
  · exact absurd hk.symm (key_ne_key hb ha)
  · rfl

end NameForm

theorem Node.isName_of_nameToResolve? {n : Node} {name : String} (h : n.nameToResolve? = some name) :
    NameForm.isName n.isBridge name = true := by
  obtain ⟨id, position, data⟩ := n
  cases data with
  | transfer d => exact (Option.filter_eq_some_iff.1 h).2
  | logic d => exact (Option.filter_eq_some_iff.1 h).2
  | bridge d => exact (Option.filter_eq_some_iff.1 h).2
  | _ => cases h

/-- The address for a text in a place for names of one chain, by what the resolver answered and by the names of the plan. -/
inductive Addressed (foreign : Bool) (steps : List Step) (es : List Exchange) (text : String) : String → Prop
  /-- A name, which some step with names of that chain spells as it was asked for. -/
  | named {s : Step} {written address : String} (hr : NameForm.isName foreign text = true) (hs : s ∈ steps)
      (hb : s.isBridge = foreign) (hw : s.node.nameToResolve? = some written) (hk : key written = key text)
      (ha : answered es (key text) = some address) : Addressed foreign steps es text address
  /-- No name, and not the text of one that some step needs. -/
  | literal (hr : NameForm.isName foreign text = false) (hn : ∀ s ∈ steps, s.node.nameKey? ≠ some (key text)) :
      Addressed foreign steps es text (Text.trim text)
  /-- No name, but the text of one that some other step needs. -/
  | redirected {s : Step} {address : String} (hr : NameForm.isName foreign text = false) (hs : s ∈ steps)
      (hn : s.node.nameKey? = some (key text)) (ha : answered es (key text) = some address) :
      Addressed foreign steps es text address

section

variable {resolver : Bool} {steps : List Step} {names : NameTable} {es : List Exchange}

theorem lookup_of_nameKey? (h : (resolveNames resolver steps).Yields es (.ok names)) {value : String} {s : Step}
    (hs : s ∈ steps) (hk : s.node.nameKey? = some (key value)) : answered es (key value) = some (names.lookup value) := by
  obtain ⟨address, ha⟩ := Option.isSome_iff_exists.1 ((isSome_answered h).2 ⟨s, hs, hk⟩)
  rw [lookup_of_resolveNames h, ha, Option.getD_some]

theorem lookup_eq_trim (h : (resolveNames resolver steps).Yields es (.ok names)) {value : String}
    (hn : ∀ s ∈ steps, s.node.nameKey? ≠ some (key value)) : names.lookup value = Text.trim value := by
  have hnone : answered es (key value) = none := by
    rw [← Option.not_isSome_iff_eq_none, isSome_answered h]
    rintro ⟨s, hs, hk⟩
    exact hn s hs hk
  rw [lookup_of_resolveNames h, hnone, Option.getD_none]

theorem spelled_of_answered (h : (resolveNames resolver steps).Yields es (.ok names)) {foreign : Bool}
    {value address : String} (hv : NameForm.isName foreign value = true) (ha : answered es (key value) = some address) :
    ∃ s ∈ steps, s.isBridge = foreign ∧ ∃ written, s.node.nameToResolve? = some written ∧ key written = key value := by
  obtain ⟨s, hs, written, hw, hk, -⟩ := of_answered h ha
  exact ⟨s, hs, NameForm.foreign_eq_of_key (Node.isName_of_nameToResolve? hw) hv hk, written, hw, hk⟩

theorem addressed_lookup (h : (resolveNames resolver steps).Yields es (.ok names)) {s : Step} (hs : s ∈ steps)
    {foreign : Bool} {text : String}
    (hneeds : NameForm.isName foreign text = true → s.node.nameToResolve? = some text) :
    Addressed foreign steps es text (names.lookup text) := by
  cases hform : NameForm.isName foreign text with
  | true =>
    have hkey : s.node.nameKey? = some (key text) := by rw [Node.nameKey?, hneeds hform, Option.map_some]
    have ha := lookup_of_nameKey? h hs hkey
    obtain ⟨t, ht, hb, written, hw, hk⟩ := spelled_of_answered h hform ha
    exact .named hform ht hb hw hk ha
  | false =>
    by_cases hn : ∃ t ∈ steps, t.node.nameKey? = some (key text)
    · obtain ⟨t, ht, hk⟩ := hn
      exact .redirected hform ht hk (lookup_of_nameKey? h ht hk)
    · have hn : ∀ t ∈ steps, t.node.nameKey? ≠ some (key text) := fun t ht hk => hn ⟨t, ht, hk⟩
      rw [lookup_eq_trim h hn]
      exact .literal hform hn

end

namespace Addressed

variable {foreign : Bool} {steps : List Step} {es : List Exchange} {text address : String}

theorem congr {marked : List Step} (h : Addressed foreign steps es text address)
    (hm : marked.map (·.node) = steps.map (·.node)) : Addressed foreign marked es text address := by
  have hnode : ∀ s ∈ steps, ∃ t ∈ marked, t.node = s.node := by
    intro s hs
    exact List.mem_map.1 (hm ▸ List.mem_map_of_mem hs)
  cases h with
  | named hr hs hb hw hk ha =>
    obtain ⟨t, ht, heq⟩ := hnode _ hs
    exact .named hr ht (by rwa [Step.isBridge, heq]) (heq ▸ hw) hk ha
  | literal hr hn =>
    refine .literal hr fun t ht => ?_
    obtain ⟨s, hs, heq⟩ := List.mem_map.1 (hm ▸ List.mem_map_of_mem ht : t.node ∈ steps.map (·.node))
    exact heq ▸ hn s hs
  | redirected hr hs hn ha =>
    obtain ⟨t, ht, heq⟩ := hnode _ hs
    exact .redirected hr ht (heq ▸ hn) ha

theorem widen {es' : List Exchange} (h : Addressed foreign steps es text address)
    (he : ∀ k, answered es' k = answered es k) : Addressed foreign steps es' text address := by
  cases h with
  | named hr hs hb hw hk ha => exact .named hr hs hb hw hk ((he _).trans ha)
  | literal hr hn => exact .literal hr hn
  | redirected hr hs hn ha => exact .redirected hr hs hn ((he _).trans ha)

end Addressed

end LedgerFlow
