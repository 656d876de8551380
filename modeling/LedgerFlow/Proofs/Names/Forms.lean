import LedgerFlow.Names
import Mathlib.Data.List.Basic

namespace LedgerFlow

namespace Text

variable {c d : Char} {before after cs : List Char}

theorem of_ascii {P : Char → Prop} (h : ∀ n < 128, P (Char.ofNat n)) (hc : c.val < 128) : P c := by
  have hn : c.toNat < 128 := UInt32.lt_iff_toNat_lt.1 hc
  simpa using h c.toNat hn

def foreignLetters : List Char := ['İ', 'ı', 'ſ', Char.ofNat 0x212A]

theorem of_foreignLetters {P : Char → Prop} [DecidablePred P] (h : foreignLetters.all (P ·) = true)
    (hc : c ∈ foreignLetters) : P c :=
  of_decide_eq_true (List.all_eq_true.1 h c hc)

theorem of_fold (h : fold c = d) (hd : d.val < 128) : (c.val < 128 ∧ c.toLower = d) ∨ c ∈ foreignLetters := by
  unfold fold at h
  split at h
  · next hc =>
    right
    simp only [Bool.or_eq_true, decide_eq_true_eq] at hc
    rcases hc with rfl | rfl <;> decide
  · split at h
    · next hc => exact .inr (hc ▸ by decide)
    · split at h
      · next hc => exact .inr (hc ▸ by decide)
      · split at h
        · next hc => exact .inl ⟨hc, h⟩
        · next hc => exact absurd (h ▸ hd) hc

theorem lowerAt_of_ascii (hc : c.val < 128) : lowerAt before c after = [c.toLower] := if_pos hc

theorem lowerAt_ne_nil : lowerAt before c after ≠ [] := by
  unfold lowerAt
  split
  · simp
  · split
    · simp
    · split <;> simp

theorem lowerAt_foreign : ∀ c ∈ foreignLetters, ∀ before after,
    lowerAt before c after = if c = 'İ' then ['i', Char.ofNat 0x307] else [partner lowerRuns c] := by
  intro c hc before after
  obtain ⟨hwide, hsigma⟩ := of_foreignLetters (P := fun c => ¬ c.val < 128 ∧ c ≠ 'Σ') (by decide) hc
  rw [lowerAt, if_neg hwide, if_neg hsigma]

theorem mem_lowerFrom (h : d ∈ lowerFrom before cs) : ∃ c ∈ cs, ∃ seen left, d ∈ lowerAt seen c left := by
  induction cs generalizing before with
  | nil => cases h
  | cons c rest ih =>
    obtain h | h := List.mem_append.1 h
    · exact ⟨c, List.mem_cons_self, before, rest, h⟩
    · obtain ⟨c', hc', hd⟩ := ih h
      exact ⟨c', .tail _ hc', hd⟩

theorem mem_lowerFrom_of_ascii (h : c ∈ cs) (hc : c.val < 128) : c.toLower ∈ lowerFrom before cs := by
  induction cs generalizing before with
  | nil => cases h
  | cons d rest ih =>
    rw [lowerFrom]
    cases h with
    | head => exact List.mem_append_left _ (by simp [lowerAt_of_ascii hc])
    | tail _ h => exact List.mem_append_right _ (ih h)

theorem getLast?_lowerFrom (front : List Char) (c : Char) :
    ∃ seen, (lowerFrom before (front ++ [c])).getLast? = (lowerAt seen c []).getLast? := by
  induction front generalizing before with
  | nil => exact ⟨before, by simp [lowerFrom]⟩
  | cons d rest ih =>
    obtain ⟨seen, hs⟩ := @ih (d :: before)
    refine ⟨seen, ?_⟩
    rw [List.cons_append, lowerFrom, List.getLast?_append, hs]
    cases hl : lowerAt seen c [] with
    | nil => exact absurd hl lowerAt_ne_nil
    | cons x more => simp [List.getLast?_cons]

theorem notMem_lowerAt_of_isLabelChar (h : isLabelChar c = true) : '@' ∉ lowerAt before c after := by
  have hfold : (fold c).val < 128 := by
    simp only [isLabelChar, Bool.or_eq_true, Bool.and_eq_true, decide_eq_true_eq, beq_iff_eq] at h
    rcases h with (⟨-, h⟩ | ⟨-, h⟩) | h
    · exact UInt32.lt_of_le_of_lt h (by decide)
    · exact UInt32.lt_of_le_of_lt h (by decide)
    · rw [h]
      decide
  obtain ⟨hc, -⟩ | hc := of_fold rfl hfold
  · rw [lowerAt_of_ascii hc]
    have hat := of_ascii (P := fun c => isLabelChar c = true → c.toLower ≠ '@') (by decide +kernel) hc h
    simpa using hat.symm
  · rw [lowerAt_foreign c hc]
    exact of_foreignLetters
      (P := fun c => '@' ∉ (if c = 'İ' then ['i', Char.ofNat 0x307] else [partner lowerRuns c]))
      (by decide +kernel) hc

end Text

namespace NameForm

open Text

variable {atLeast : Nat} {last : List Char → Bool} {cs : List Char}

theorem intercalate_concat (before : List (List Char)) (part : List Char) :
    ∃ front, ['.'].intercalate (before ++ [part]) = front ++ part ∧
      ∀ c ∈ front, c = '.' ∨ ∃ l ∈ before, c ∈ l := by
  induction before with
  | nil => exact ⟨[], by simp [List.intercalate], by simp⟩
  | cons l rest ih =>
    obtain ⟨front, hf, hc⟩ := ih
    refine ⟨l ++ ['.'] ++ front, ?_, ?_⟩
    · rw [List.cons_append, List.intercalate_cons_of_ne_nil (by simp), hf, List.append_assoc (l ++ ['.'])]
    · intro c hm
      simp only [List.mem_append, List.mem_singleton] at hm
      rcases hm with (hm | hm) | hm
      · exact .inr ⟨l, List.mem_cons_self, hm⟩
      · exact .inl hm
      · exact (hc c hm).imp_right fun ⟨k, hk, hck⟩ => ⟨k, .tail _ hk, hck⟩

theorem of_isDotted (h : isDotted atLeast last cs = true) :
    ∃ front part, cs = front ++ part ∧ last part = true ∧ ∀ c ∈ front, c = '.' ∨ isLabelChar c = true := by
  simp only [isDotted, Bool.and_eq_true, List.all_eq_true] at h
  obtain ⟨⟨-, hbefore⟩, hlast⟩ := h
  cases hp : (labels cs).getLast? with
  | none => simp [hp] at hlast
  | some part =>
    obtain ⟨before, hb⟩ := List.getLast?_eq_some_iff.1 hp
    rw [hb, List.dropLast_concat] at hbefore
    obtain ⟨front, hf, hc⟩ := intercalate_concat before part
    refine ⟨front, part, ?_, by simpa [hp] using hlast, fun c hm => (hc c hm).imp_right ?_⟩
    · rw [← hf, ← hb, labels, List.intercalate_splitOn]
    · rintro ⟨l, hl, hcl⟩
      have hlabel := hbefore l hl
      simp only [isLabel, Bool.and_eq_true, List.all_eq_true] at hlabel
      exact hlabel.2 c hcl

theorem of_hasWord {word : String} {d : Char} (h : hasWord word cs = true) (hd : word.toList.getLast? = some d) :
    ∃ front c, cs = front ++ [c] ∧ fold c = d := by
  rw [← beq_iff_eq.1 h, List.getLast?_map, Option.map_eq_some_iff] at hd
  obtain ⟨c, hc, hfold⟩ := hd
  obtain ⟨front, hf⟩ := List.getLast?_eq_some_iff.1 hc
  exact ⟨front, c, hf, hfold⟩

theorem toList_key (s : String) : (NameTable.key s).toList = lowerFrom [] (trimBy isBlank s.toList) := by
  simp [NameTable.key, lower, trim]

theorem key_of_isForeignName {s : String} (h : isForeignName s = true) :
    (NameTable.key s).toList.getLast? = some 'h' ∧ '@' ∉ (NameTable.key s).toList := by
  rw [toList_key]
  obtain ⟨front, part, hcs, hword, hfront⟩ := of_isDotted h
  rw [hcs]
  constructor
  · obtain ⟨more, c, rfl, hc⟩ := of_hasWord (d := 'h') hword (by decide)
    rw [← List.append_assoc]
    obtain ⟨seen, hl⟩ := @getLast?_lowerFrom [] (front ++ more) c
    rw [hl]
    obtain ⟨hascii, hlow⟩ | hforeign := of_fold hc (by decide)
    · simp [lowerAt_of_ascii hascii, hlow]
    · exact absurd hc (of_foreignLetters (P := fun c => fold c ≠ 'h') (by decide +kernel) hforeign)
  · intro hm
    obtain ⟨c, hc, seen, left, hat⟩ := mem_lowerFrom hm
    have hlabel : c = '.' ∨ isLabelChar c = true := by
      obtain hc | hc := List.mem_append.1 hc
      · exact hfront c hc
      · right
        have hfold : fold c ∈ "eth".toList := beq_iff_eq.1 hword ▸ List.mem_map_of_mem hc
        have hword : "eth".toList.all (fun d => 'a' ≤ d && d ≤ 'z') = true := by decide
        simp [isLabelChar, List.all_eq_true.1 hword _ hfold]
    obtain rfl | hlabel := hlabel
    · rw [lowerAt_of_ascii (by decide)] at hat
      simp at hat
    · exact notMem_lowerAt_of_isLabelChar hlabel hat

theorem key_of_isLedgerName {s : String} (h : isLedgerName s = true) :
    (NameTable.key s).toList.getLast? ≠ some 'h' ∨ '@' ∈ (NameTable.key s).toList := by
  rw [toList_key]
  obtain h | h := Bool.or_eq_true_iff.1 h
  · left
    obtain ⟨front, part, hcs, hword, -⟩ := of_isDotted h
    obtain ⟨more, c, rfl, hc⟩ := of_hasWord (d := 'i') hword (by decide)
    rw [hcs, ← List.append_assoc]
    obtain ⟨seen, hl⟩ := @getLast?_lowerFrom [] (front ++ more) c
    rw [hl]
    obtain ⟨hascii, hlow⟩ | hforeign := of_fold hc (by decide)
    · simp [lowerAt_of_ascii hascii, hlow]
    · rw [lowerAt_foreign c hforeign]
      exact of_foreignLetters
        (P := fun c => (if c = 'İ' then ['i', Char.ofNat 0x307] else [partner lowerRuns c]).getLast? ≠ some 'h')
        (by decide +kernel) hforeign
  · right
    obtain ⟨front, part, hcs, hhandle, -⟩ := of_isDotted h
    rw [hcs]
    cases part with
    | nil => cases hhandle
    | cons c rest =>
      unfold isHandle at hhandle
      split at hhandle
      · next heq =>
        cases heq
        exact mem_lowerFrom_of_ascii (c := '@') (by simp) (by decide)
      · cases hhandle

theorem key_ne_key {a b : String} (ha : isLedgerName a = true) (hb : isForeignName b = true) :
    NameTable.key a ≠ NameTable.key b := by
  intro heq
  obtain ⟨hlast, hat⟩ := key_of_isForeignName hb
  rw [← heq] at hlast hat
  obtain h | h := key_of_isLedgerName ha
  · exact h hlast
  · exact hat h

end NameForm

end LedgerFlow
