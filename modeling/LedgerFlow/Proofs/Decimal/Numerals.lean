import LedgerFlow.Decimal.Text
import LedgerFlow.Number
import LedgerFlow.Proofs.Decimal.Range
import LedgerFlow.Proofs.Decimal.Value
import Mathlib.Data.List.TakeWhile

namespace LedgerFlow

theorem pow2_pos (k : Nat) : 0 < pow2 k := Nat.pow_pos (by decide)

namespace Decimal

def isKept (c : Char) : Bool := 0 < c.toNat && c.toNat < 128 && c ≠ '_' && !Text.isBlank c

inductive Numeral : List Char → Int → Prop
  | whole {ds r : List Char} {v : Int} (hne : ds ≠ []) (hds : ∀ c ∈ ds, c.isDigit = true) (hr : exponent? r = some v) :
    Numeral (ds ++ r) v
  | point {ds fs r : List Char} {v : Int} (hne : ds ≠ []) (hds : ∀ c ∈ ds, c.isDigit = true)
      (hfs : ∀ c ∈ fs, c.isDigit = true) (hr : exponent? r = some v) :
    Numeral (ds ++ '.' :: (fs ++ r)) (v - fs.length)

section

variable {cs ds fs r : List Char} {c : Char} {s : Bool} {u v : Int} {a : Decimal}

theorem toNat_of_isDigit (h : c.isDigit = true) : 48 ≤ c.toNat ∧ c.toNat ≤ 57 := by
  simpa [Char.isDigit, UInt32.le_iff_toNat_le] using h

theorem isKept_of_isDigit (h : c.isDigit = true) : isKept c = true := by
  have hrange := toNat_of_isDigit h
  have hne : c ≠ '_' := by
    rintro rfl
    exact absurd h (by decide)
  simp [isKept, Text.isBlank, Text.isSpace, hne]
  omega

theorem toLower_of_isDigit (h : c.isDigit = true) : c.toLower = c := by
  have hrange := toNat_of_isDigit h
  refine dif_neg fun hupper => ?_
  have hlow : 65 ≤ c.toNat := UInt32.le_iff_toNat_le.1 hupper.1
  omega

theorem exponent?_cons (h : exponent? (c :: cs) = some v) :
    c.toLower = 'e' ∧ ∀ d ∈ (splitSign cs).2, d.isDigit = true := by
  simp only [exponent?, Option.ite_none_right_eq_some, Bool.and_eq_true, List.all_eq_true] at h
  exact ⟨h.1, h.2.1.2⟩

theorem exponent?_head (h : exponent? r = some v) (hc : r.head? = some c) : c.isDigit = false ∧ c ≠ '.' := by
  cases r with
  | nil => cases hc
  | cons d rest =>
    cases hc
    have hlower := (exponent?_cons h).1
    refine ⟨Bool.eq_false_iff.2 fun hdigit => ?_, ?_⟩
    · rw [toLower_of_isDigit hdigit] at hlower
      rw [hlower] at hdigit
      exact absurd hdigit (by decide)
    · rintro rfl
      exact absurd hlower (by decide)

theorem span_digits (hds : ∀ c ∈ ds, c.isDigit = true) (hr : ∀ c, r.head? = some c → c.isDigit = false) :
    (ds ++ r).takeWhile Char.isDigit = ds ∧ (ds ++ r).dropWhile Char.isDigit = r := by
  rw [List.takeWhile_append_of_pos hds, List.dropWhile_append_of_pos hds]
  cases r with
  | nil => simp
  | cons c rest => simp [hr c rfl]

theorem Numeral.finite? (h : Numeral cs u) : ∃ c, finite? s cs = some (.finite s c u) := by
  cases h with
  | @whole ds r v hne hds hr =>
    obtain ⟨htake, hdrop⟩ := span_digits hds fun c hc => (exponent?_head hr hc).1
    refine ⟨natOfDigits ds, ?_⟩
    simp only [Decimal.finite?, htake, hdrop]
    cases r with
    | nil => simp [hne, hr]
    | cons c rest =>
      have hc : c ≠ '.' := (exponent?_head hr rfl).2
      simp [hne, hr, hc]
  | @point ds fs r v hne hds hfs hr =>
    obtain ⟨htake, hdrop⟩ := span_digits (r := '.' :: (fs ++ r)) hds fun c hc => by cases hc; rfl
    obtain ⟨htake', hdrop'⟩ := span_digits hfs fun c hc => (exponent?_head hr hc).1
    refine ⟨natOfDigits (ds ++ fs), ?_⟩
    simp [Decimal.finite?, htake, hdrop, htake', hdrop', hne, hr]

theorem Numeral.head (h : Numeral cs u) : ∃ c rest, cs = c :: rest ∧ c.isDigit = true := by
  cases h with
  | @whole ds r v hne hds hr =>
    obtain ⟨c, rest, rfl⟩ := List.exists_cons_of_ne_nil hne
    exact ⟨c, _, rfl, hds c List.mem_cons_self⟩
  | @point ds fs r v hne hds hfs hr =>
    obtain ⟨c, rest, rfl⟩ := List.exists_cons_of_ne_nil hne
    exact ⟨c, _, rfl, hds c List.mem_cons_self⟩

theorem splitSign_signText (s : Bool) (h : Numeral cs u) : splitSign ((signText s).toList ++ cs) = (s, cs) := by
  obtain ⟨c, rest, rfl, hc⟩ := h.head
  cases s with
  | true => rfl
  | false =>
    change splitSign (c :: rest) = _
    unfold splitSign
    split
    · cases ‹c :: rest = _›
      exact absurd hc (by decide)
    · cases ‹c :: rest = _›
      exact absurd hc (by decide)
    · rfl

theorem Numeral.numeral? (s : Bool) (h : Numeral cs u) :
    ∃ c, numeral? ((signText s).toList ++ cs) = some (.finite s c u) := by
  obtain ⟨n, hn⟩ := h.finite? (s := s)
  refine ⟨n, ?_⟩
  unfold Decimal.numeral?
  rw [splitSign_signText s h]
  obtain ⟨c, rest, rfl, hc⟩ := h.head
  -- A digit begins none of the other texts.
  have hhead : ∀ d tail, (c :: rest).map Char.toLower = d :: tail → d.isDigit = true := by
    rintro d tail ⟨⟩
    rwa [toLower_of_isDigit hc]
  dsimp only
  split
  · exact absurd (hhead _ _ ‹_›) (by decide)
  · exact absurd (hhead _ _ ‹_›) (by decide)
  · exact absurd (hhead _ _ ‹_›) (by decide)
  · exact absurd (hhead _ _ ‹_›) (by decide)
  · exact hn

theorem isKept_iff : isKept c = true ↔ (0 < c.toNat ∧ c.toNat < 128) ∧ c ≠ '_' ∧ Text.isBlank c = false := by
  simp [isKept, and_assoc]

theorem dropWhile_isBlank (h : ∀ c ∈ cs, isKept c = true) : cs.dropWhile Text.isBlank = cs := by
  cases cs with
  | nil => rfl
  | cons c rest => simp [(isKept_iff.1 (h c List.mem_cons_self)).2.2]

theorem numeralChars_of_isKept (h : ∀ c ∈ cs, isKept c = true) :
    numeralChars (Text.trimBy Text.isBlank cs) = some cs := by
  have hreverse : ∀ c ∈ cs.reverse, isKept c = true := fun c hc => h c (List.mem_reverse.1 hc)
  rw [Text.trimBy, dropWhile_isBlank h, dropWhile_isBlank hreverse, List.reverse_reverse]
  clear hreverse
  induction cs with
  | nil => rfl
  | cons c rest ih =>
    obtain ⟨hrange, hne, -⟩ := isKept_iff.1 (h c List.mem_cons_self)
    have hrest := ih fun d hd => h d (List.mem_cons_of_mem c hd)
    rw [numeralChars] at hrest ⊢
    rw [List.filter_cons_of_pos (by simpa using hne), List.mapM_cons, hrest, if_pos (by simpa using hrange)]
    rfl

theorem mem_splitSign (h : c ∈ cs) : c = '-' ∨ c = '+' ∨ c ∈ (splitSign cs).2 := by
  unfold splitSign
  split
  · exact (List.mem_cons.1 h).imp_right .inr
  · exact .inr (List.mem_cons.1 h)
  · exact .inr (.inr h)

theorem isKept_of_toLower (h : c.toLower = 'e') : isKept c = true := by
  by_cases hupper : 'A'.val ≤ c.val ∧ c.val ≤ 'Z'.val
  · have hshift : c.toLower.val = c.val + 32 := congrArg Char.val (dif_pos hupper)
    have hc : c = 'E' := Char.ext ((UInt32.add_left_inj 32).1 (hshift.symm.trans (congrArg Char.val h)))
    rw [hc]
    decide
  · have hsame : c.toLower = c := dif_neg hupper
    rw [← hsame, h]
    decide

theorem isKept_of_exponent? (h : exponent? r = some v) (hc : c ∈ r) : isKept c = true := by
  cases r with
  | nil => cases hc
  | cons d rest =>
    obtain ⟨hlower, hdigits⟩ := exponent?_cons h
    obtain rfl | hrest := List.mem_cons.1 hc
    · exact isKept_of_toLower hlower
    · obtain rfl | rfl | hmem := mem_splitSign hrest
      · decide
      · decide
      · exact isKept_of_isDigit (hdigits c hmem)

theorem Numeral.isKept (h : Numeral cs u) (hc : c ∈ cs) : Decimal.isKept c = true := by
  cases h with
  | whole hne hds hr =>
    obtain hc | hc := List.mem_append.1 hc
    · exact isKept_of_isDigit (hds c hc)
    · exact isKept_of_exponent? hr hc
  | point hne hds hfs hr =>
    simp only [List.mem_append, List.mem_cons] at hc
    obtain hc | rfl | hc | hc := hc
    · exact isKept_of_isDigit (hds c hc)
    · decide
    · exact isKept_of_isDigit (hfs c hc)
    · exact isKept_of_exponent? hr hc

theorem Numeral.ofText {t : String} (h : Numeral cs u) (ht : t.toList = (signText s).toList ++ cs)
    (ha : Decimal.ofText t = .ok a) : ∃ c, a = .finite s c u := by
  have hkept : ∀ c ∈ t.toList, Decimal.isKept c = true := by
    intro c hc
    rw [ht, List.mem_append] at hc
    obtain hc | hc := hc
    · cases s with
      | false => cases hc
      | true =>
        obtain rfl := List.mem_singleton.1 hc
        decide
    · exact h.isKept hc
  obtain ⟨n, hn⟩ := h.numeral? s
  rw [Decimal.ofText, numeralChars_of_isKept hkept, Option.bind_some, ht, hn] at ha
  dsimp only at ha
  split at ha
  · cases ha
    exact ⟨n, rfl⟩
  · cases ha

theorem numeral_toDigits (n : Nat) : Numeral (Nat.toDigits 10 n) 0 := by
  have hdigits : ∀ c ∈ Nat.toDigits 10 n, c.isDigit = true :=
    fun c hc => Nat.isDigit_of_mem_toDigits (by decide) (by decide) hc
  simpa using Numeral.whole (r := []) Nat.toDigits_ne_nil hdigits rfl

theorem toList_toString (n : Int) : (toString n).toList = (signText (n < 0)).toList ++ Nat.toDigits 10 n.natAbs := by
  rw [Int.toString_eq_repr, Int.repr_eq_if]
  split
  · next hn =>
    have hnot : ¬n < 0 := by omega
    have habs : n.toNat = n.natAbs := by omega
    simp [signText, hnot, habs]
  · next hn =>
    have hneg : n < 0 := by omega
    have habs : (-n).toNat = n.natAbs := by omega
    simp [signText, hneg, habs]

end

end Decimal

namespace Binary64

open Decimal

section

variable {m count tries d : Nat} {e x places lead u : Int} {b : Neighbourhood} {ds : List Char}

theorem ratioPlaces_ge (n d : Nat) : (digitCount n : Int) - digitCount d ≤ ratioPlaces n d := by
  unfold ratioPlaces
  dsimp only
  split <;> omega

theorem pow10_le_ratio {n d : Nat} (hn : n ≠ 0) :
    d * pow10 (ratioPlaces n d - 1).toNat ≤ n * pow10 (1 - ratioPlaces n d).toNat := by
  unfold ratioPlaces
  extract_lets k
  split
  · next h => simpa [sub_eq_neg_add] using h
  · have hlow := pow10_le_of_digitCount hn
    have hhigh := (lt_pow10_digitCount d).le
    calc d * pow10 (k - 1).toNat ≤ pow10 (digitCount d) * pow10 (k - 1).toNat := Nat.mul_le_mul_right _ hhigh
      _ = pow10 (digitCount n - 1) * pow10 (1 - k).toNat := by
          rw [← pow10_add, ← pow10_add]
          have := digitCount_pos n
          congr 1
          omega
      _ ≤ n * pow10 (1 - k).toNat := Nat.mul_le_mul_right _ hlow

theorem nearest?_pos {step : Int} (hlow : 0 < b.low) (h : b.nearest? step = some d) : d ≠ 0 := by
  unfold Neighbourhood.nearest? at h
  extract_lets up unit inside q r below first second at h
  have hinside : ∀ n, inside n = true → n ≠ 0 := by
    rintro n hn rfl
    have hpos : 0 < b.low * up := Nat.mul_pos hlow (pow10_pos _)
    have hzero : inside 0 = false := by
      simp only [inside]
      split <;> simp [Nat.ne_of_gt hpos]
    rw [hzero] at hn
    cases hn
  split at h
  · next hfirst => exact Option.some.inj h ▸ hinside _ hfirst
  · split at h
    · next hsecond => exact Option.some.inj h ▸ hinside _ hsecond
    · cases h

theorem search_spec (hunit : 0 < b.unit) (hlow : 0 < b.low) (hcount : 1 ≤ count)
    (hvalue : b.unit * pow10 (places - 1).toNat ≤ b.value * pow10 (1 - places).toNat)
    (h : b.search places tries count = (d, x)) : d ≠ 0 ∧ places - (count + tries) ≤ x := by
  induction tries generalizing count with
  | zero =>
    cases h
    refine ⟨Nat.ne_of_gt (Nat.div_pos ?_ hunit), by omega⟩
    calc b.unit ≤ b.unit * pow10 (places - 1).toNat := Nat.le_mul_of_pos_right _ (pow10_pos _)
      _ ≤ b.value * pow10 (1 - places).toNat := hvalue
      _ ≤ b.value * pow10 (count - places).toNat := Nat.mul_le_mul_left _ (pow10_le_pow10 (by omega))
  | succ tries ih =>
    unfold Neighbourhood.search at h
    split at h
    · next hnearest =>
      cases h
      exact ⟨nearest?_pos hlow hnearest, by omega⟩
    · obtain ⟨hd, hx⟩ := ih (Nat.le_succ_of_le hcount) h
      exact ⟨hd, by omega⟩

theorem shortest_spec (hm : m ≠ 0) (he : lowestExponent ≤ e) (h : shortest m e = (d, x)) :
    d ≠ 0 ∧ lowestExponent - 20 ≤ x := by
  have hscale := pow2_pos (e - 2).toNat
  have hlow : 0 < (neighbourhood m e).low := by
    refine Nat.mul_pos ?_ hscale
    split <;> omega
  have hvalue : (neighbourhood m e).value ≠ 0 := Nat.ne_of_gt (Nat.mul_pos (by omega) hscale)
  obtain ⟨hd, hx⟩ := search_spec (pow2_pos _) hlow le_rfl (pow10_le_ratio hvalue) h
  have hunit : digitCount (neighbourhood m e).unit ≤ (2 - e).toNat + 1 := by
    apply digitCount_le (Nat.succ_pos _)
    calc pow2 (-(e - 2)).toNat ≤ pow10 (-(e - 2)).toNat := pow2_le_pow10 _
      _ < pow10 ((2 - e).toNat + 1) := Nat.pow_lt_pow_right (by decide) (by omega)
  have hplaces := ratioPlaces_ge (neighbourhood m e).value (neighbourhood m e).unit
  have := digitCount_pos (neighbourhood m e).value
  simp only [lowestExponent] at *
  exact ⟨hd, by omega⟩

theorem natOfDigits_toDigits (n : Nat) : natOfDigits (Nat.toDigits 10 n) = n := Nat.ofDigitChars_ten_toDigits

theorem exponent?_paddedExponent (n : Int) : exponent? ('e' :: (paddedExponent n).toList) = some n := by
  obtain ⟨ds, hds, hall, hvalue, htext⟩ : ∃ ds : List Char, ds ≠ [] ∧ (∀ c ∈ ds, c.isDigit = true) ∧
      natOfDigits ds = n.natAbs ∧ (paddedExponent n).toList = (if n < 0 then '-' else '+') :: ds := by
    have hall : ∀ c ∈ Nat.toDigits 10 n.natAbs, c.isDigit = true :=
      fun c hc => Nat.isDigit_of_mem_toDigits (by decide) (by decide) hc
    have hsign : (if n < 0 then "-" else "+").toList = [if n < 0 then '-' else '+'] := by
      split <;> rfl
    unfold paddedExponent
    extract_lets sign digits
    have hdigits : digits.toList = Nat.toDigits 10 n.natAbs := Nat.toList_repr
    split
    · refine ⟨'0' :: Nat.toDigits 10 n.natAbs, List.cons_ne_nil _ _, by simpa using hall, ?_, ?_⟩
      · exact natOfDigits_toDigits n.natAbs
      · simp [sign, hdigits, hsign]
    · refine ⟨Nat.toDigits 10 n.natAbs, Nat.toDigits_ne_nil, hall, natOfDigits_toDigits _, ?_⟩
      simp [sign, hdigits, hsign]
  have hmatch : (ds.all Char.isDigit) = true := List.all_eq_true.2 hall
  rw [htext]
  by_cases hn : n < 0
  · simp only [exponent?, splitSign, hn, if_true, hmatch, List.isEmpty_eq_false_iff.2 hds, hvalue]
    exact congrArg some (by omega)
  · simp only [exponent?, splitSign, hn, if_false, hmatch, List.isEmpty_eq_false_iff.2 hds, hvalue]
    exact congrArg some (Int.natAbs_of_nonneg (not_lt.1 hn))

theorem isDigit_of_mem_zeros {k : Nat} : ∀ c ∈ List.replicate k '0', c.isDigit = true := by
  intro c hc
  rw [List.eq_of_mem_replicate hc]
  decide

theorem isDigit_of_mem_zero : ∀ c ∈ ['0'], c.isDigit = true := isDigit_of_mem_zeros (k := 1)

theorem numeral_positional (hds : ∀ c ∈ ds, c.isDigit = true) (lead : Int) :
    ∃ u, Numeral (positional ds lead) u ∧ min (-1) (lead - ds.length) ≤ u := by
  have hend : exponent? [] = some 0 := rfl
  unfold positional
  split
  · next hlead =>
    have hfraction := List.forall_mem_append.2 ⟨isDigit_of_mem_zeros (k := (-lead).toNat), hds⟩
    have hnumeral := Numeral.point (List.cons_ne_nil _ _) isDigit_of_mem_zero hfraction hend
    refine ⟨_, by simpa using hnumeral, ?_⟩
    simp
    omega
  · next hlead =>
    extract_lets whole rest
    have hwhole : ∀ c ∈ whole ++ List.replicate (lead.toNat - whole.length) '0', c.isDigit = true :=
      List.forall_mem_append.2 ⟨fun c hc => hds c (List.mem_of_mem_take hc), isDigit_of_mem_zeros⟩
    have hlength : whole ++ List.replicate (lead.toNat - whole.length) '0' ≠ [] := by
      apply List.ne_nil_of_length_pos
      simp
      omega
    have hrest : ∀ c ∈ rest, c.isDigit = true := fun c hc => hds c (List.mem_of_mem_drop hc)
    split
    · have hnumeral := Numeral.point hlength hwhole isDigit_of_mem_zero hend
      exact ⟨_, by simpa using hnumeral, by simp⟩
    · have hnumeral := Numeral.point hlength hwhole hrest hend
      refine ⟨_, by simpa using hnumeral, ?_⟩
      simp [rest]
      omega

theorem stripped_spec (hd : d ≠ 0) (h : ds = ((Nat.toDigits 10 d).reverse.dropWhile (· = '0')).reverse) :
    ds ≠ [] ∧ ds.length ≤ (Nat.toDigits 10 d).length ∧ ∀ c ∈ ds, c.isDigit = true := by
  subst h
  refine ⟨fun hnil => hd ?_, ?_, fun c hc => ?_⟩
  · rw [List.reverse_eq_nil_iff, List.dropWhile_eq_nil_iff] at hnil
    have hzeros := List.eq_replicate_of_mem fun c (hc : c ∈ Nat.toDigits 10 d) =>
      of_decide_eq_true (hnil c (List.mem_reverse.2 hc))
    rw [← natOfDigits_toDigits d, hzeros]
    exact Nat.ofDigitChars_replicate_zero
  · simpa using (List.dropWhile_suffix (l := (Nat.toDigits 10 d).reverse) fun c => decide (c = '0')).length_le
  · have hmem : c ∈ (Nat.toDigits 10 d).reverse := List.dropWhile_subset _ (List.mem_reverse.1 hc)
    exact Nat.isDigit_of_mem_toDigits (by decide) (by decide) (List.mem_reverse.1 hmem)

theorem numeral_scientific (hne : ds ≠ []) (hds : ∀ c ∈ ds, c.isDigit = true) (n : Int) :
    Numeral ((ds.take 1 ++ if (ds.drop 1).isEmpty then [] else '.' :: ds.drop 1) ++ 'e' :: (paddedExponent n).toList)
      (n + 1 - ds.length) := by
  have hexponent := exponent?_paddedExponent n
  obtain ⟨c, rest, rfl⟩ := List.exists_cons_of_ne_nil hne
  have hlead : ∀ d ∈ [c], d.isDigit = true := by simpa using hds c List.mem_cons_self
  have hrest : ∀ d ∈ rest, d.isDigit = true := fun d hd => hds d (List.mem_cons_of_mem c hd)
  cases rest with
  | nil => simpa using Numeral.whole (List.cons_ne_nil c []) hlead hexponent
  | cons d rest =>
    have hnumeral := Numeral.point (List.cons_ne_nil c []) hlead hrest hexponent
    convert hnumeral using 1
    · simp
    · simp

theorem numeral_magnitudeText (he : lowestExponent ≤ e) :
    ∃ u, Numeral (magnitudeText m e).toList u ∧ lowestExponent - 20 ≤ u := by
  unfold magnitudeText
  split
  · exact ⟨_, Numeral.point (List.cons_ne_nil _ _) isDigit_of_mem_zero isDigit_of_mem_zero rfl, by decide⟩
  · next hm =>
    obtain ⟨d, x, hshortest⟩ : ∃ d x, shortest m e = (d, x) := ⟨_, _, rfl⟩
    obtain ⟨hd, hx⟩ := shortest_spec hm he hshortest
    rw [hshortest]
    dsimp -zeta only
    extract_lets digits lead stripped fraction
    obtain ⟨hne, hlength, hdigits⟩ := stripped_spec hd (rfl : stripped = _)
    have hlead : x ≤ lead - stripped.length := by
      simp only [lead, digits]
      omega
    split
    · obtain ⟨u, hu, hplace⟩ := numeral_positional hdigits lead
      refine ⟨u, by rwa [String.toList_ofList], ?_⟩
      simp only [lowestExponent] at *
      omega
    · have htext : (String.ofList (stripped.take 1 ++ if fraction.isEmpty then [] else '.' :: fraction) ++ "e" ++
          paddedExponent (lead - 1)).toList =
          (stripped.take 1 ++ if fraction.isEmpty then [] else '.' :: fraction) ++
            'e' :: (paddedExponent (lead - 1)).toList := by
        simp
      rw [htext]
      exact ⟨_, numeral_scientific hne hdigits (lead - 1), by omega⟩

/-- A number is a multiple of the least positive one. -/
def OnGrid : Binary64 → Prop
  | .finite _ _ e => lowestExponent ≤ e
  | _ => True

theorem onGrid_ofRatio (negative : Bool) (n d : Nat) : (ofRatio negative n d).OnGrid := by
  unfold ofRatio
  split
  · exact le_rfl
  · extract_lets e m
    have he : lowestExponent ≤ e := le_max_left _ _
    split
    split
    · trivial
    · next hpair _ =>
      split at hpair <;> cases hpair
      · exact he.trans (lt_add_one e).le
      · exact he

theorem onGrid_ofDecimal (negative : Bool) (digits : Nat) (exponent : Int) :
    (ofDecimal negative digits exponent).OnGrid := by
  unfold ofDecimal
  extract_lets places
  split
  · exact le_rfl
  · split
    · trivial
    · split
      · exact le_rfl
      · exact onGrid_ofRatio _ _ _

end

end Binary64

/-- A floating point setting is a multiple of the least positive number, as all that can be read are. -/
def Number.OnGrid : Number → Prop
  | .float x => x.OnGrid
  | _ => True

theorem Number.le_place {t : Number} {s : Bool} {c : Nat} {u : Int} (ht : t.OnGrid)
    (h : Decimal.ofText t.text = .ok (.finite s c u)) : Binary64.lowestExponent - 20 ≤ u := by
  cases t with
  | int n =>
    obtain ⟨d, ⟨⟩⟩ := (Decimal.numeral_toDigits n.natAbs).ofText (Decimal.toList_toString n) h
    decide
  | float x =>
    cases x with
    | nan =>
      have hnan : Decimal.ofText (Binary64.text .nan) = .ok (.nan false false 0) := by decide +kernel
      exact nomatch hnan.symm.trans h
    | infinity t =>
      have hinfinity : Decimal.ofText (Binary64.text (.infinity t)) = .ok (.infinity t) := by
        cases t <;> decide +kernel
      exact nomatch hinfinity.symm.trans h
    | finite t m e =>
      obtain ⟨v, hv, hplace⟩ := Binary64.numeral_magnitudeText (m := m) ht
      have htext : (Binary64.text (.finite t m e)).toList =
          (Decimal.signText t).toList ++ (Binary64.magnitudeText m e).toList := String.toList_append
      obtain ⟨d, ⟨⟩⟩ := hv.ofText htext h
      exact hplace
  | bool b =>
    have hbool : Decimal.ofText (Number.text (.bool b)) = .error .conversionSyntax := by
      cases b <;> decide +kernel
    exact nomatch hbool.symm.trans h

end LedgerFlow
