import LedgerFlow.Proofs.Assembly.Lockstep
import LedgerFlow.Proofs.Replay.Restock

namespace LedgerFlow

variable {σ : Type} {answer : (r : Request) → σ → r.Answer × σ} {reserve : Int}

namespace Assembly

variable {c : AssemblySetting} {steps : List Step} {s : σ} {n : Nat} {a : Acquisition} {f : Fault} {asset : String}
  {d : Decimal}

def GetsPast (c : AssemblySetting) (steps : List Step) (answer : (r : Request) → σ → r.Answer × σ) (s : σ) (n : Nat)
    (a : Acquisition) : Prop :=
  ∃ coin, (acquisitions c steps answer s)[n]? = some (a, .ok coin)

structure StopsAt (c : AssemblySetting) (steps : List Step) (answer : (r : Request) → σ → r.Answer × σ) (s : σ)
    (n : Nat) (a : Acquisition) (f : Fault) : Prop where
  acquisition : (acquisitions c steps answer s)[n]? = some (a, .error f)
  failed : ((assemble c steps).run.run answer s).1 = .error f

theorem stopsAt_iff : StopsAt c steps answer s n a f ↔ (acquisitions c steps answer s)[n]? = some (a, .error f) :=
  ⟨fun h => h.acquisition, fun h => ⟨h, assemble_of_acquisitions h⟩⟩

theorem run_coinOf (w : Workspace) : (((coinOf a).run w).run answer s).1.1 =
    (((acquire a.step.index a.token a.amount).run w).run answer s).1.1.mapError (buildFailure a.step) := by
  have hmap : (coinOf a).run w = ((acquire a.step.index a.token a.amount).run w).bind fun x =>
    .done (x.1.mapError (buildFailure a.step), x.2) := rfl
  rw [hmap, Program.run_bind]
  rfl

theorem buildFailure_of_shortfall? {x : String × Decimal} (s : Step) (h : f.shortfall? = some x) :
    buildFailure s f = f := by
  obtain ⟨-, e, rfl⟩ := Fault.engine_of_shortfall? h
  rfl

theorem run_acquire_of_coinOf {x : String × Decimal} {w : Workspace}
    (h : (((coinOf a).run w).run answer s).1.1 = .error f) (hf : f.shortfall? = some x) :
    (((acquire a.step.index a.token a.amount).run w).run answer s).1.1 = .error f := by
  rw [run_coinOf] at h
  cases hx : (((acquire a.step.index a.token a.amount).run w).run answer s).1.1 with
  | ok coin =>
    rw [hx] at h
    cases h
  | error g =>
    rw [hx] at h
    cases h
    cases g with
    | engine e => rfl
    | _ => cases hf

/-- The step is begun before the acquisition with this number. -/
def Begun (c : AssemblySetting) (steps : List Step) (answer : (r : Request) → σ → r.Answer × σ) (s : σ) (n : Nat)
    (x : Step) : Prop :=
  ∃ before after, Plan.operations steps = before ++ x :: after ∧ (acquisitions c before answer s).length ≤ n

theorem exists_begun {y : Acquisition × Except Fault Handle} (h : (acquisitions c steps answer s)[n]? = some y) :
    ∃ begun after, Plan.operations steps = begun ++ after ∧ (acquisitions c begun answer s)[n]? = some y ∧
      ∀ x ∈ begun, Begun c steps answer s n x := by
  have hparts : ∀ begun after, Plan.operations steps = begun ++ after → (acquisitions c begun answer s)[n]? = some y →
      ∃ begun after, Plan.operations steps = begun ++ after ∧ (acquisitions c begun answer s)[n]? = some y ∧
        ∀ x ∈ begun, Begun c steps answer s n x := by
    -- The last step is dropped as long as the acquisition is one of those of the steps before it.
    intro begun
    induction begun using List.reverseRecOn with
    | nil => exact fun after hsteps hy => ⟨[], after, hsteps, hy, fun x hx => absurd hx List.not_mem_nil⟩
    | append_singleton before x ih =>
      intro after hsteps hy
      rw [List.append_assoc, List.singleton_append] at hsteps
      obtain hlt | hle := Nat.lt_or_ge n (acquisitions c before answer s).length
      · exact ih (x :: after) hsteps (getElem?_acquisitions_append [x] hlt ▸ hy)
      · refine ⟨before ++ [x], after, by rw [hsteps, List.append_assoc, List.singleton_append], hy, ?_⟩
        intro z hz
        obtain hz | hz := List.mem_append.1 hz
        · obtain ⟨first, rest, rfl⟩ := List.append_of_mem hz
          have hfirst := (acquisitions_isPrefix c first (z :: rest) answer s).length_le
          exact ⟨first, rest ++ x :: after, by rw [hsteps, List.append_assoc, List.cons_append], hfirst.trans hle⟩
        · obtain rfl := List.mem_singleton.1 hz
          exact ⟨before, after, hsteps, hle⟩
  apply hparts (Plan.operations steps) [] (List.append_nil _).symm
  rw [acquisitions_operations]
  exact h

/-- What an assembly says is lacking is lacking: if there is as much more to spend, the same acquisition succeeds, and
if there is less, it fails again, for want of the rest. -/
theorem shortfall_exact (hreserve : reserveUnits c = .ok reserve)
    (hclear : ∀ x, Begun c steps answer s n x → ∀ u ∈ c.redeemedTypes x, a.token.source ≠ .coins u)
    (hstops : StopsAt c steps answer s n a f) (hf : f.shortfall? = some (asset, d))
    (hlimit : ∀ q, d.value? = some q → q < a.token.quantity (10 ^ 28))
    (r : Rerun answer (protocolSetting c) reserve a.token.source) {s' : r.State} (hs : r.Same s s') :
    ∃ lacking, 0 < lacking ∧ d.value? = some (a.token.quantity lacking) ∧
      (lacking ≤ r.more → GetsPast c steps r.again s' n a) ∧
      (r.more < lacking → ∃ f' rest, StopsAt c steps r.again s' n a f' ∧ f'.shortfall? = some (asset, rest) ∧
        rest.value? = some (a.token.quantity (lacking - r.more))) := by
  have hrecord : ∀ {τ : Type} (answer : (r : Request) → τ → r.Answer × τ) (s : τ) (steps : List Step),
      acquisitions c steps answer s = (stepsCourse c steps).record answer (start c reserve) s := by
    intro τ answer s steps
    rw [acquisitions, hreserve]
  obtain ⟨begun, after, hsteps, hfirst, hbegun⟩ := exists_begun hstops.acquisition
  rw [hrecord] at hfirst
  obtain ⟨symbol, w, w', s₁, s₁', hknown, ha, hs₁, hx, hagain⟩ :=
    (Rerun.matched_stepsCourse fun x hx => hclear x (hbegun x hx)).reaches r.alike_start hs hfirst
  have hagain : (acquisitions c steps r.again s')[n]? = some (a, (((coinOf a).run w').run r.again s₁').1.1) := by
    rw [← hrecord] at hagain
    rw [← acquisitions_operations, hsteps,
      getElem?_acquisitions_append after (List.getElem?_eq_some_iff.1 hagain).1]
    exact hagain
  obtain ⟨lacking, hpos, hshown, hpast, hrest⟩ := ha.topUp hs₁ hknown rfl (run_acquire_of_coinOf hx.symm hf) hf
  have hsmall := Token.lt_of_shown hshown hlimit
  refine ⟨lacking, hpos, Token.value?_of_lt hshown (by omega), fun hle => ?_, fun hlt => ?_⟩
  · obtain ⟨coin, hcoin⟩ := hpast hle
    refine ⟨coin, ?_⟩
    rw [hagain, run_coinOf, hcoin]
    rfl
  · obtain ⟨f', rest, hfail, hf', hshown'⟩ := hrest hlt
    have hmore := r.nonneg
    refine ⟨f', rest, stopsAt_iff.2 ?_, hf', Token.value?_of_lt hshown' (by omega)⟩
    rw [hagain, run_coinOf, hfail]
    exact congrArg (fun g => some (a, Except.error g)) (buildFailure_of_shortfall? a.step hf')

def lackOf (x : Acquisition × Except Fault Handle) : Token × Option (String × Decimal) :=
  (x.1.token, match x.2 with
    | .ok _ => none
    | .error f => f.shortfall?)

theorem exists_stopsAt {t : Token} (h : (acquisitions c steps answer s)[n]?.map lackOf = some (t, some (asset, d))) :
    ∃ a f, a.token = t ∧ StopsAt c steps answer s n a f ∧ f.shortfall? = some (asset, d) := by
  obtain ⟨⟨a, x⟩, hx, hlack⟩ := Option.map_eq_some_iff.1 h
  obtain ⟨rfl, hshort⟩ := Prod.mk.inj hlack
  cases x with
  | ok coin => cases hshort
  | error f => exact ⟨a, f, rfl, stopsAt_iff.2 hx, hshort⟩

def usd : Token := ⟨"USDC", 6, "0xdba34672e30cb065b1f93e3ab55318768fd6fef66c15942c9f7cb846e2f900e7::usdc::USDC"⟩

def payment (index : Nat) (amount : Decimal) (asset : String) : Step :=
  .of index (.transfer ⟨some "0x7", some amount, asset⟩)

def twoPayments : List Step := [payment 0 7 "USDC", payment 1 4 "USDC"]

def tenUsd : Rehearsal :=
  .create { Rehearsal.blank with
    ledger := ⟨[], [(usd.coinType, [⟨"0xc1", 10000000⟩])], [], [], none, none, none, none⟩ }

theorem shortfall_exact_twoPayments :
    ∃ a f d, a.token = usd ∧ StopsAt (holdingBack 1) twoPayments Rehearsal.answer tenUsd 1 a f ∧
      f.shortfall? = some ("USDC", d) ∧ d.value? = some 1 ∧
      GetsPast (holdingBack 1) twoPayments Rehearsal.answer (tenUsd.restock usd.coinType [⟨"0xc2", 1000000⟩]) 1 a ∧
      ∃ f' rest, StopsAt (holdingBack 1) twoPayments Rehearsal.answer
          (tenUsd.restock usd.coinType [⟨"0xc2", 999999⟩]) 1 a f' ∧
        f'.shortfall? = some ("USDC", rest) ∧ rest.value? = some (a.token.quantity 1) := by
  have hlack : (acquisitions (holdingBack 1) twoPayments Rehearsal.answer tenUsd)[1]?.map lackOf =
      some (usd, some ("USDC", 1)) := by decide +kernel
  obtain ⟨a, f, ha, hstops, hf⟩ := exists_stopsAt hlack
  have hsource : a.token.source = .coins usd.coinType := by rw [ha]; rfl
  have hone : (1 : Decimal).value? = some 1 := (Decimal.value?_ofInt 1).trans (congrArg some (by norm_num))
  have hunits : (1 : Decimal).value? = some (a.token.quantity 1000000) := by
    rw [hone, ha]
    norm_num [Token.quantity, usd]
  have hreserve : reserveUnits (holdingBack 1) = .ok 1000000000 := except_eq_ok.2 (by decide +kernel)
  have hclear : ∀ x, Begun (holdingBack 1) twoPayments Rehearsal.answer tenUsd 1 x →
      ∀ u ∈ (holdingBack 1).redeemedTypes x, a.token.source ≠ .coins u := by
    have hnone : ∀ x ∈ Plan.operations twoPayments, (holdingBack 1).redeemedTypes x = [] := by decide +kernel
    rintro x ⟨before, after, hsteps, -⟩ u hu
    rw [hnone x (hsteps ▸ List.mem_append_right _ List.mem_cons_self)] at hu
    cases hu
  have hlimit : ∀ q, (1 : Decimal).value? = some q → q < a.token.quantity (10 ^ 28) := by
    intro q hq
    cases hunits.symm.trans hq
    exact Token.quantity_lt_iff.2 (by norm_num)
  obtain ⟨lacking, -, hlacking, hpast, -⟩ := shortfall_exact hreserve hclear hstops hf hlimit
    (Rehearsal.restocked _ _ hsource [⟨"0xc2", 1000000⟩] (by decide)) ⟨⟨rfl, rfl⟩, rfl⟩
  obtain rfl := Token.quantity_inj.1 (Option.some.inj (hlacking.symm.trans hunits))
  obtain ⟨lacking, -, hlacking', -, hrest⟩ := shortfall_exact hreserve hclear hstops hf hlimit
    (Rehearsal.restocked _ _ hsource [⟨"0xc2", 999999⟩] (by decide)) ⟨⟨rfl, rfl⟩, rfl⟩
  obtain rfl := Token.quantity_inj.1 (Option.some.inj (hlacking'.symm.trans hunits))
  exact ⟨a, f, 1, ha, hstops, hf, hone, hpast (Int.le_refl 1000000), hrest (Int.lt_succ 999999)⟩

def StillStops (c : AssemblySetting) (steps : List Step) (s s' : Rehearsal) (n : Nat) (lacking : Int) : Prop :=
  ∃ a f asset d, StopsAt c steps Rehearsal.answer s n a f ∧ f.shortfall? = some (asset, d) ∧
    d.value? = some (a.token.quantity lacking) ∧ ¬GetsPast c steps Rehearsal.answer s' n a

theorem stillStops_of_lackOf {t : Token} {s s' : Rehearsal} {lacking : Int}
    (h : (acquisitions c steps Rehearsal.answer s)[n]?.map lackOf = some (t, some (asset, d)))
    (hd : d.value? = some (t.quantity lacking))
    (h' : (acquisitions c steps Rehearsal.answer s')[n]?.map (fun x => x.2.isOk) ≠ some true) :
    StillStops c steps s s' n lacking := by
  obtain ⟨a, f, rfl, hstops, hf⟩ := exists_stopsAt h
  refine ⟨a, f, asset, d, hstops, hf, hd, ?_⟩
  rintro ⟨coin, hcoin⟩
  rw [hcoin] at h'
  exact h' rfl

def suiHolder (units : Int) : Rehearsal :=
  .create { Rehearsal.blank with ledger := ⟨[(nativeCoinType, units)], [], [], [], none, none, none, none⟩ }

def sui : Token := ⟨"SUI", 9, nativeCoinType⟩

def wrappedSui : Token :=
  ⟨"SSUI", 9, "0xaafc4f740de0dd0dde642a31148fb94517087052f19afb0f7bed1dc41a50c77b::scallop_sui::SCALLOP_SUI"⟩

def wrappedAsToken : AssemblySetting := { holdingBack 1 with tokens := TokenRegistry.standard.register wrappedSui }

def redeemThenPay : List Step :=
  [.of 0 (.lend ⟨"withdraw", "SUI", some 1, "scallop", none, none⟩), payment 1 (.finite false 1 (-1)) "SSUI"]

def wrapHolder (wrapped : List CoinRecord) : Rehearsal :=
  .create { Rehearsal.blank with
    ledger := ⟨[], [(Protocol.Scallop.marketCoinType sui, [⟨"0xs1", 500000000⟩]), (wrappedSui.coinType, wrapped)],
      [], [], none, none, none, none⟩ }

/-- What there is less than the reserve is lacking too, but is not reported. And where the coins that are lacking are
market coins, an earlier redemption may want more of them the more there are. -/
theorem shortfall_inexact :
    validateSteps ⟨(holdingBack 1).tokens, .empty, true⟩ [payment 0 1 "SUI"] = .ok () ∧
      StillStops (holdingBack 1) [payment 0 1 "SUI"] (suiHolder 0) (suiHolder 1000000000) 0 1000000000 ∧
      validateSteps ⟨wrappedAsToken.tokens, .empty, true⟩ redeemThenPay = .ok () ∧
      StillStops wrappedAsToken redeemThenPay (wrapHolder []) (wrapHolder [⟨"0xs2", 100000000⟩]) 0 100000000 := by
  have hsui : (acquisitions (holdingBack 1) [payment 0 1 "SUI"] Rehearsal.answer (suiHolder 0))[0]?.map lackOf =
      some (sui, some ("SUI", .finite false 1 0)) := by decide +kernel
  have hwrapped : (acquisitions wrappedAsToken redeemThenPay Rehearsal.answer (wrapHolder []))[0]?.map lackOf =
      some (wrappedSui, some ("SSUI", .finite false 1 (-1))) := by decide +kernel
  refine ⟨except_eq_ok.2 (by decide +kernel), stillStops_of_lackOf hsui ?_ (by decide +kernel),
    except_eq_ok.2 (by decide +kernel), stillStops_of_lackOf hwrapped ?_ (by decide +kernel)⟩
  · norm_num [Decimal.value?, Decimal.ratio, Token.quantity, sui]
  · norm_num [Decimal.value?, Decimal.ratio, Token.quantity, wrappedSui]

end Assembly

end LedgerFlow
