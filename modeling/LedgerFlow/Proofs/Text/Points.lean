import LedgerFlow.Text.Point

namespace LedgerFlow.Text

theorem points_append_cons {c : Char} (h : marked? c = none) (front rest : List Char) :
    points (front ++ c :: rest) = points front ++ .char c :: points rest := by
  have hne : c ≠ mark := by
    rintro rfl
    cases h
  fun_induction points front with
  | case1 => exact points_cons hne rest
  | case2 d => simp [points, h, points_cons hne]
  | case3 a d more p hp ih => simp [points, hp, ih]
  | case4 a d more hp ih =>
    rw [List.cons_append] at ih
    simp [points, hp, ih]

theorem points_of_notMem {cs : List Char} (h : mark ∉ cs) : points cs = cs.map .char := by
  induction cs with
  | nil => rfl
  | cons c rest ih =>
    rw [points_cons (List.ne_of_not_mem_cons h).symm, ih (List.not_mem_of_not_mem_cons h), List.map_cons]

theorem hasHalf_of_notMem {s : String} (h : mark ∉ s.toList) : hasHalf s = false := by
  simp [hasHalf, pointsOf, points_of_notMem h, Point.isHalf]

theorem hasHalf_of_toList {c : Char} {s : String} (front rest : String) (h : marked? c = none)
    (hs : s.toList = front.toList ++ c :: rest.toList) : hasHalf s = (hasHalf front || hasHalf rest) := by
  simp [hasHalf, pointsOf, hs, points_append_cons h, Point.isHalf]

end LedgerFlow.Text
