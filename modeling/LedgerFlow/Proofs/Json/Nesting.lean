import LedgerFlow.Json.Parser
import Mathlib.Data.List.TakeWhile

/-!
How deep arrays and objects may be nested for a text to be read. Reading breaks off in no text that is as short as the
limit, and in every one that begins with more brackets than that.
-/

namespace LedgerFlow.Json

variable {α β : Type} {innermost : Container}

theorem except_map_eq_error {ε : Type} {f : α → β} {x : Except ε α} {e : ε} :
    x.map f = .error e ↔ x = .error e := by
  cases x <;> simp [Except.map]

theorem length_skipWhite_tail_lt {c : Char} {tail cs : List Char} (h : skipWhite cs = c :: tail) :
    (skipWhite tail).length < cs.length := by
  have hcs := length_skipWhite_le cs
  have htail := length_skipWhite_le tail
  rw [h, List.length_cons] at hcs
  omega

theorem number_ne_tooDeep {negative : Bool} {start : Nat} {cs : List Char} :
    number negative start cs ≠ .error (.tooDeep innermost) := by
  unfold number
  split
  · simp
  · rw [ne_eq, except_map_eq_error]
    unfold numberOf
    split
    · split <;> simp
    · simp

theorem stringPieces_ne_tooDeep {whole : List Char} {start : Nat} {acc : List Piece} {cs : List Char}
    {h : cs.length ≤ whole.length} : stringPieces start acc cs h ≠ .error (.tooDeep innermost) := by
  intro e
  rw [stringPieces.eq_def] at e
  split at e
  · cases e
  · cases e
  · cases e
  · split at e
    · cases e
    · exact stringPieces_ne_tooDeep e
  · cases e
  · split at e
    · cases e
    · exact stringPieces_ne_tooDeep e
  · split at e
    · cases e
    · exact stringPieces_ne_tooDeep e
termination_by cs.length

theorem stringBody_ne_tooDeep {cs : List Char} : stringBody cs ≠ .error (.tooDeep innermost) := by
  rw [stringBody, ne_eq, except_map_eq_error]
  exact stringPieces_ne_tooDeep

mutual

theorem length_of_value {room : Nat} {cs : List Char} (h : value room cs = .error (.tooDeep innermost)) :
    room < cs.length := by
  rw [value.eq_def] at h
  split at h
  · exact absurd (except_map_eq_error.1 h) stringBody_ne_tooDeep
  · next rest =>
    split at h
    · simp
    · next room =>
      have hw := length_skipWhite_le rest
      dsimp only at h
      split at h
      · cases h
      · have hlt := length_of_members (except_map_eq_error.1 h)
        rw [List.length_cons]
        omega
  · next rest =>
    split at h
    · simp
    · next room =>
      have hw := length_skipWhite_le rest
      dsimp only at h
      split at h
      · cases h
      · have hlt := length_of_elements (except_map_eq_error.1 h)
        rw [List.length_cons]
        omega
  · cases h
  · cases h
  · cases h
  · cases h
  · cases h
  · cases h
  · exact absurd (except_map_eq_error.1 h) number_ne_tooDeep
  · exact absurd h number_ne_tooDeep
termination_by (cs.length, 1)
decreasing_by all_goals (subst_vars; apply Prod.Lex.left; simp only [List.length_cons]; omega)

theorem length_of_elements {room : Nat} {acc : List Json} {cs : List Char}
    (h : elements room acc cs = .error (.tooDeep innermost)) : room < cs.length := by
  rw [elements.eq_def] at h
  split at h
  · next e he =>
    cases h
    exact length_of_value he
  · next v after ha hv =>
    dsimp only at h
    split at h
    · cases h
    · next tail hafter =>
      have hshorter : (skipWhite tail).length < cs.length := (length_skipWhite_tail_lt hafter).trans ha
      have hlt := length_of_elements (except_map_eq_error.1 h)
      omega
    · cases h
termination_by (cs.length, 2)
decreasing_by
  · apply Prod.Lex.right; omega
  · apply Prod.Lex.left; assumption

theorem length_of_members {room : Nat} {acc : List (String × Json)} {cs : List Char}
    (h : members room acc cs = .error (.tooDeep innermost)) : room < cs.length := by
  rw [members.eq_def] at h
  split at h
  · next rest =>
    split at h
    · next e he =>
      cases h
      exact absurd he stringBody_ne_tooDeep
    · next key after ha hkey =>
      dsimp only at h
      split at h
      · next tail hafter =>
        have htail : (skipWhite tail).length < rest.length := (length_skipWhite_tail_lt hafter).trans ha
        split at h
        · next e he =>
          cases h
          have hlt := length_of_value he
          rw [List.length_cons]
          omega
        · next v next hn hv =>
          split at h
          · cases h
          · next final hnext =>
            have hfinal : (skipWhite final).length < rest.length :=
              ((length_skipWhite_tail_lt hnext).trans hn).trans htail
            have hlt := length_of_members (except_map_eq_error.1 h)
            rw [List.length_cons]
            omega
          · cases h
      · cases h
  · cases h
termination_by (cs.length, 0)
decreasing_by all_goals (subst_vars; apply Prod.Lex.left; simp only [List.length_cons]; omega)

end

theorem length_of_parse {s : String} (h : parse s = .error (.tooDeep innermost)) : nestingLimit < s.toList.length := by
  have hdocument : document s.toList = .error (.tooDeep innermost) := by
    unfold parse at h
    cases hd : document s.toList with
    | ok v =>
      rw [hd] at h
      cases h
    | error stop =>
      rw [hd] at h
      cases stop with
      | tooDeep c =>
        cases h
        rfl
      | _ => cases h
  unfold document at hdocument
  split at hdocument
  · cases hdocument
  · split at hdocument
    · next e he =>
      cases hdocument
      exact Nat.lt_of_lt_of_le (length_of_value he) (length_skipWhite_le s.toList)
    · dsimp only at hdocument
      split at hdocument <;> cases hdocument

theorem skipWhite_bracket (rest : List Char) : skipWhite ('[' :: rest) = '[' :: rest :=
  List.dropWhile_eq_self_iff.2 fun _ => by
    rw [List.getElem_cons_zero]
    decide

theorem value_brackets (room : Nat) (rest : List Char) :
    value room (List.replicate (room + 1) '[' ++ rest) = .error (.tooDeep .array) := by
  induction room with
  | zero => rw [value.eq_def]; rfl
  | succ room ih =>
    have hinner : elements room [] ('[' :: (List.replicate room '[' ++ rest)) = .error (.tooDeep .array) := by
      rw [elements.eq_def, ← List.cons_append, ← List.replicate_succ, ih]
    rw [List.replicate_succ, List.cons_append, value.eq_def]
    simp only [List.replicate_succ, List.cons_append]
    split
    · next tail h =>
      rw [skipWhite_bracket] at h
      cases h
    · exact except_map_eq_error.2 (by rw [skipWhite_bracket]; exact hinner)

theorem parse_brackets {n : Nat} (h : nestingLimit < n) (rest : List Char) :
    parse (String.ofList (List.replicate n '[' ++ rest)) = .error (.tooDeep .array) := by
  obtain ⟨k, rfl⟩ := Nat.exists_eq_add_of_lt h
  have hsplit : List.replicate (nestingLimit + k + 1) '[' ++ rest =
      List.replicate (nestingLimit + 1) '[' ++ (List.replicate k '[' ++ rest) := by
    rw [← List.append_assoc, List.replicate_append_replicate, Nat.add_right_comm]
  have hvalue : value nestingLimit
      (skipWhite (List.replicate (nestingLimit + 1) '[' ++ (List.replicate k '[' ++ rest))) =
      .error (.tooDeep .array) := by
    rw [List.replicate_succ, List.cons_append, skipWhite_bracket, ← List.cons_append, ← List.replicate_succ]
    exact value_brackets nestingLimit _
  unfold parse document
  rw [String.toList_ofList, hsplit, hvalue]
  rfl

end LedgerFlow.Json
