import LedgerFlow.Proofs.Decimal.Sign
import LedgerFlow.Proofs.Decimal.WholePart

namespace LedgerFlow

open Decimal (HasDigits KeepsWhole wholePart ten_zpow_pos)

namespace Token

variable {t : Token} {a b : Decimal} {p q : ℚ}

/-- The amount can be counted in base units: there are not too many of them for a decimal. -/
def Scales (t : Token) (a : Decimal) : Prop :=
  ∃ unit scaled, Decimal.tenPow t.decimals = .ok unit ∧ a.mul unit = .ok scaled

theorem exists_unit (hlow : 0 ≤ t.decimals) (hhigh : t.decimals ≤ 255) :
    ∃ unit, Decimal.tenPow t.decimals = .ok unit ∧ unit.value? = some (10 ^ t.decimals) :=
  Decimal.value?_tenPow hlow (hhigh.trans (by decide))

theorem toBaseUnits_eq (hlow : 0 ≤ t.decimals) (hhigh : t.decimals ≤ 255) (ha : a.value? = some p) (hs : t.Scales a) :
    t.toBaseUnits a = .ok (wholePart (Decimal.round (p * 10 ^ t.decimals))) := by
  obtain ⟨unit, hunit, hvalue⟩ := exists_unit hlow hhigh
  obtain ⟨unit', scaled, hunit', hscaled⟩ := hs
  cases hunit.symm.trans hunit'
  have hround := (Decimal.rounds_mul ha hvalue).value? hscaled
  refine except_bind_eq_ok.2 ⟨unit, Amount.ofResult_eq_ok.2 hunit, ?_⟩
  exact except_bind_eq_ok.2 ⟨scaled, Amount.ofResult_eq_ok.2 hscaled, Decimal.toInt_eq hround⟩

theorem fromBaseUnits_eq (hlow : 0 ≤ t.decimals) (hhigh : t.decimals ≤ 255) {n : ℤ} (hn : n.natAbs < 10 ^ 28) :
    ∃ d, t.fromBaseUnits n = .ok d ∧ d.value? = some ((n : ℚ) / 10 ^ t.decimals) := by
  obtain ⟨unit, hunit, hvalue⟩ := exists_unit hlow hhigh
  have hdiv := Decimal.rounds_div (Decimal.value?_ofInt n) hvalue (ten_zpow_pos _).ne'
  have hshift : (n / 10 ^ t.decimals : ℚ) = n * 10 ^ (-t.decimals) := by rw [zpow_neg, div_eq_mul_inv]
  rw [hshift] at hdiv
  have hbelow : Decimal.lowestExponent ≤ -t.decimals := by
    simp only [Decimal.lowestExponent]
    omega
  have habove : -t.decimals ≤ Decimal.highestAdjusted - Decimal.precision := by
    simp only [Decimal.highestAdjusted, Decimal.precision]
    omega
  obtain ⟨d, hd, hexact⟩ := hdiv.exact hn hbelow habove
  refine ⟨d, except_bind_eq_ok.2 ⟨unit, Amount.ofResult_eq_ok.2 hunit, Amount.ofResult_eq_ok.2 hd⟩, ?_⟩
  rw [hexact, hshift]

theorem toBaseUnits_quantity (hlow : 0 ≤ t.decimals) (hhigh : t.decimals ≤ 255) {n : ℤ} (hn : n.natAbs < 10 ^ 28)
    (ha : a.value? = some ((n : ℚ) / 10 ^ t.decimals)) : t.toBaseUnits a = .ok n := by
  have hwhole : (n / 10 ^ t.decimals : ℚ) * 10 ^ t.decimals = n * 10 ^ (0 : ℤ) := by
    rw [div_mul_cancel₀ _ (ten_zpow_pos _).ne', zpow_zero, mul_one]
  have hscales : t.Scales a := by
    obtain ⟨unit, hunit, hvalue⟩ := exists_unit hlow hhigh
    have hmul := Decimal.rounds_mul ha hvalue
    rw [hwhole] at hmul
    obtain ⟨scaled, hscaled, -⟩ := hmul.exact hn (by decide) (by decide)
    exact ⟨unit, scaled, hunit, hscaled⟩
  rw [toBaseUnits_eq hlow hhigh ha hscales, hwhole, Decimal.round_eq_self hn (by decide), zpow_zero, mul_one,
    Decimal.wholePart_intCast]

def native : Token := ⟨nativeSymbol, 9, "0x2::sui::SUI"⟩

def nearlyOne : Decimal := .finite false (10 ^ 31 - 1) (-31)

theorem value?_nearlyOne : nearlyOne.value? = some (1 - 10 ^ (-31 : ℤ)) := by
  rw [nearlyOne, Decimal.value?_finite, Decimal.ratio_false]
  norm_num

theorem scales_nearlyOne : native.Scales nearlyOne := ⟨_, _, rfl, rfl⟩

/-- Up to 28 digits base units are shown exactly and read back as they were; and no larger amount of a token comes to
fewer base units, however many digits it is written with. -/
theorem toBaseUnits_of_fromBaseUnits (hlow : 0 ≤ t.decimals) (hhigh : t.decimals ≤ 255) :
    (∀ n : ℤ, |n| < 10 ^ 28 → ∃ d, t.fromBaseUnits n = .ok d ∧ d.value? = some ((n : ℚ) / 10 ^ t.decimals) ∧
      t.toBaseUnits d = .ok n) ∧
    ∀ a b p q, a.value? = some p → b.value? = some q → t.Scales a → t.Scales b → p ≤ q →
      ∃ m n, t.toBaseUnits a = .ok m ∧ t.toBaseUnits b = .ok n ∧ m ≤ n := by
  refine ⟨fun n hn => ?_, fun a b p q ha hb hsa hsb hle => ?_⟩
  · rw [Int.abs_eq_natAbs] at hn
    have hn : n.natAbs < 10 ^ 28 := by exact_mod_cast hn
    obtain ⟨d, hd, hvalue⟩ := fromBaseUnits_eq hlow hhigh hn
    exact ⟨d, hd, hvalue, toBaseUnits_quantity hlow hhigh hn hvalue⟩
  · refine ⟨_, _, toBaseUnits_eq hlow hhigh ha hsa, toBaseUnits_eq hlow hhigh hb hsb, ?_⟩
    exact Decimal.wholePart_mono (Decimal.round_mono (mul_le_mul_of_nonneg_right hle (ten_zpow_pos _).le))

theorem toBaseUnits_of_fromBaseUnits_nearlyOne :
    (0 ≤ native.decimals ∧ native.decimals ≤ 255) ∧
      (|(1 - 10 ^ 28 : ℤ)| < 10 ^ 28 ∧ ∃ d, native.fromBaseUnits (1 - 10 ^ 28) = .ok d ∧
        d.value? = some (((1 - 10 ^ 28 : ℤ) : ℚ) / 10 ^ native.decimals) ∧ native.toBaseUnits d = .ok (1 - 10 ^ 28)) ∧
      (native.Scales nearlyOne ∧ native.Scales 1) ∧
      ∃ m n, native.toBaseUnits nearlyOne = .ok m ∧ native.toBaseUnits 1 = .ok n ∧ m ≤ n := by
  obtain ⟨hexact, hmono⟩ := toBaseUnits_of_fromBaseUnits (t := native) (by decide) (by decide)
  have hfew : |(1 - 10 ^ 28 : ℤ)| < 10 ^ 28 := by decide +kernel
  have hone : native.Scales 1 := ⟨_, _, rfl, rfl⟩
  refine ⟨by decide, ⟨hfew, hexact _ hfew⟩, ⟨scales_nearlyOne, hone⟩, ?_⟩
  exact hmono nearlyOne 1 _ _ value?_nearlyOne (Decimal.value?_ofInt 1) scales_nearlyOne hone (by norm_num)

/-- What an amount comes to is what it is in whole base units, just as long as rounding to 28 digits does not take it past
these: always for an amount of at most 28 digits. Otherwise, of less than `10 ^ 28`, it is one unit more. -/
theorem toBaseUnits_eq_floor_iff (hlow : 0 ≤ t.decimals) (hhigh : t.decimals ≤ 255) (ha : a.value? = some q)
    (hq : 0 ≤ q) (hs : t.Scales a) :
    ∃ n, t.toBaseUnits a = .ok n ∧ (n = ⌊q * 10 ^ t.decimals⌋ ↔ KeepsWhole (q * 10 ^ t.decimals)) ∧
      (HasDigits 28 q → n = ⌊q * 10 ^ t.decimals⌋) ∧
      (q * 10 ^ t.decimals < 10 ^ 28 → n = ⌊q * 10 ^ t.decimals⌋ ∨ n = ⌊q * 10 ^ t.decimals⌋ + 1) := by
  have hunits : 0 ≤ q * 10 ^ t.decimals := mul_nonneg hq (ten_zpow_pos _).le
  refine ⟨⌊Decimal.round (q * 10 ^ t.decimals)⌋, ?_, Decimal.floor_round_eq_iff hunits,
    fun h => Decimal.floor_round_of_hasDigits hunits (h.mul_zpow _), Decimal.floor_round_cases hunits⟩
  rw [toBaseUnits_eq hlow hhigh ha hs, Decimal.wholePart_of_nonneg (Decimal.round_nonneg hunits)]

theorem toBaseUnits_eq_floor_iff_nearlyOne :
    (0 ≤ native.decimals ∧ native.decimals ≤ 255) ∧ nearlyOne.value? = some (1 - 10 ^ (-31 : ℤ)) ∧
      (0 : ℚ) ≤ 1 - 10 ^ (-31 : ℤ) ∧ native.Scales nearlyOne ∧
      ∃ n, native.toBaseUnits nearlyOne = .ok n ∧
        (n = ⌊(1 - 10 ^ (-31 : ℤ) : ℚ) * 10 ^ native.decimals⌋ ↔ KeepsWhole ((1 - 10 ^ (-31 : ℤ)) * 10 ^ native.decimals)) ∧
        (HasDigits 28 (1 - 10 ^ (-31 : ℤ)) → n = ⌊(1 - 10 ^ (-31 : ℤ) : ℚ) * 10 ^ native.decimals⌋) ∧
        ((1 - 10 ^ (-31 : ℤ) : ℚ) * 10 ^ native.decimals < 10 ^ 28 →
          n = ⌊(1 - 10 ^ (-31 : ℤ) : ℚ) * 10 ^ native.decimals⌋ ∨
            n = ⌊(1 - 10 ^ (-31 : ℤ) : ℚ) * 10 ^ native.decimals⌋ + 1) := by
  have hnonneg : (0 : ℚ) ≤ 1 - 10 ^ (-31 : ℤ) := by norm_num
  exact ⟨by decide, value?_nearlyOne, hnonneg, scales_nearlyOne,
    toBaseUnits_eq_floor_iff (t := native) (by decide) (by decide) value?_nearlyOne hnonneg scales_nearlyOne⟩

/-- An amount of 31 digits that is less than one comes to as many base units as one does. -/
theorem nearlyOne_rounded_up :
    TokenRegistry.standard.find? "SUI" = some native ∧
      Decimal.ofText "0.9999999999999999999999999999999" = .ok nearlyOne ∧
      native.toBaseUnits nearlyOne = .ok (10 ^ 9) ∧
      nearlyOne.value? = some (1 - 10 ^ (-31 : ℤ)) ∧
      ⌊(1 - 10 ^ (-31 : ℤ) : ℚ) * 10 ^ native.decimals⌋ = 10 ^ 9 - 1 := by
  refine ⟨by decide +kernel, by decide +kernel, except_eq_ok.2 (by decide +kernel), value?_nearlyOne, ?_⟩
  rw [Int.floor_eq_iff]
  norm_num [native]

end Token

end LedgerFlow
