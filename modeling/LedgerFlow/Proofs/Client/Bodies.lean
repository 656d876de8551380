import LedgerFlow.Client.Connection
import LedgerFlow.Proofs.Decimal.Numerals
import LedgerFlow.Proofs.Text.Points

namespace LedgerFlow

namespace Text

theorem hasHalf_toString (n : Int) : hasHalf (toString n) = false := by
  apply hasHalf_of_notMem
  rw [Decimal.toList_toString, List.mem_append, not_or]
  constructor
  · by_cases hn : n < 0 <;> simp [Decimal.signText, hn, mark]
  · intro hmem
    have hdigit := Nat.isDigit_of_mem_toDigits (by decide) (by decide) hmem
    exact absurd hdigit (by decide)

theorem hasHalf_intercalate {parts : List String} (h : ∀ s ∈ parts, hasHalf s = false) :
    hasHalf (",".intercalate parts) = false := by
  induction parts with
  | nil => rfl
  | cons s rest ih =>
    obtain ⟨hs, hrest⟩ := List.forall_mem_cons.1 h
    cases rest with
    | nil => simpa using hs
    | cons t rest =>
      rw [String.intercalate_cons_cons,
        hasHalf_of_toList s (",".intercalate (t :: rest)) (c := ',') rfl (by simp), hs, ih hrest]
      rfl

theorem hasHalf_bracketed {s : String} {parts : List String} {opening closing : Char} (ho : marked? opening = none)
    (hc : marked? closing = none) (hs : s.toList = opening :: (",".intercalate parts).toList ++ [closing])
    (h : ∀ p ∈ parts, hasHalf p = false) : hasHalf s = false := by
  have hinner : hasHalf (",".intercalate parts ++ String.singleton closing) = false := by
    rw [hasHalf_of_toList (",".intercalate parts) "" hc (by simp), hasHalf_intercalate h]
    rfl
  rw [hasHalf_of_toList "" (",".intercalate parts ++ String.singleton closing) ho (by simpa using hs), hinner]
  rfl

end Text

namespace Client

/-- The value has a text that can be written as bytes. -/
def CanBeSent (v : Json) : Prop := ∃ text, bodyText v = .ok text

theorem canBeSent_iff {v : Json} : CanBeSent v ↔ v.isFinite = true ∧ Text.hasHalf v.render = false := by
  rw [← Text.unwritable?_eq_none]
  unfold CanBeSent bodyText
  cases hf : v.isFinite <;> cases hu : Text.unwritable? v.render <;> simp [hu]

theorem canBeSent_string {s : String} (h : Text.hasHalf (Json.string s).render = false) : CanBeSent (.string s) :=
  canBeSent_iff.2 ⟨by simp [Json.isFinite], h⟩

theorem canBeSent_null : CanBeSent .null :=
  canBeSent_iff.2 ⟨by simp [Json.isFinite], rfl⟩

theorem canBeSent_bool (b : Bool) : CanBeSent (.bool b) :=
  canBeSent_iff.2 ⟨by simp [Json.isFinite], by cases b <;> rfl⟩

theorem canBeSent_int (n : Int) : CanBeSent (.int n) :=
  canBeSent_iff.2 ⟨by simp [Json.isFinite], by simpa [Json.render] using Text.hasHalf_toString n⟩

theorem areFinite_eq_true {vs : List Json} : Json.areFinite vs = true ↔ ∀ v ∈ vs, v.isFinite = true := by
  induction vs with
  | nil => simp [Json.areFinite]
  | cons v rest ih => simp [Json.areFinite, ih]

theorem renderItems_eq_map (vs : List Json) : Json.renderItems vs = vs.map Json.render := by
  induction vs with
  | nil => simp [Json.renderItems]
  | cons v rest ih => simp [Json.renderItems, ih]

theorem membersFinite_eq_true {ms : List (String × Json)} :
    Json.membersFinite ms = true ↔ ∀ m ∈ ms, m.2.isFinite = true := by
  induction ms with
  | nil => simp [Json.membersFinite]
  | cons m rest ih => simp [Json.membersFinite, ih]

theorem renderMembers_eq_map (ms : List (String × Json)) :
    Json.renderMembers ms = ms.map fun m => Json.stringText m.1 ++ ":" ++ m.2.render := by
  induction ms with
  | nil => simp [Json.renderMembers]
  | cons m rest ih => simp [Json.renderMembers, ih]

theorem canBeSent_array {vs : List Json} (h : ∀ v ∈ vs, CanBeSent v) : CanBeSent (.array vs) := by
  simp only [canBeSent_iff] at h ⊢
  have hfinite : (Json.array vs).isFinite = true := by
    rw [Json.isFinite, areFinite_eq_true]
    exact fun v hv => (h v hv).1
  have htext : (Json.array vs).render.toList = '[' :: (",".intercalate (Json.renderItems vs)).toList ++ [']'] := by
    rw [Json.render, String.toList_append, String.toList_append]
    rfl
  refine ⟨hfinite, Text.hasHalf_bracketed rfl rfl htext ?_⟩
  rw [renderItems_eq_map, List.forall_mem_map]
  exact fun v hv => (h v hv).2

theorem canBeSent_object {ms : List (String × Json)} (hkeys : ∀ m ∈ ms, CanBeSent (.string m.1))
    (hvalues : ∀ m ∈ ms, CanBeSent m.2) : CanBeSent (.object ms) := by
  simp only [canBeSent_iff] at hkeys hvalues ⊢
  have hfinite : (Json.object ms).isFinite = true := by
    rw [Json.isFinite, membersFinite_eq_true]
    exact fun m hm => (hvalues m hm).1
  have htext : (Json.object ms).render.toList =
      '\x7b' :: (",".intercalate (Json.renderMembers ms)).toList ++ ['\x7d'] := by
    rw [Json.render, String.toList_append, String.toList_append]
    rfl
  refine ⟨hfinite, Text.hasHalf_bracketed rfl rfl htext ?_⟩
  rw [renderMembers_eq_map, List.forall_mem_map]
  intro m hm
  rw [Text.hasHalf_of_toList (Json.stringText m.1) m.2.render (c := ':') rfl (by simp),
    (hvalues m hm).2, Bool.or_false]
  simpa [Json.render] using (hkeys m hm).2

end Client

end LedgerFlow
