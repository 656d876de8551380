import LedgerFlow.Condition
import LedgerFlow.Proofs.Bridge.Scope
import LedgerFlow.Proofs.Decimal.Sign

namespace LedgerFlow

/-- The failure is none of the engine's own. -/
def Fault.IsForeign (f : Fault) : Prop := ∀ e, f ≠ .engine e

def Escaped {α : Type} (x : Except Fault α) : Prop := ∃ f, x = .error f ∧ f.IsForeign

section

variable {α β : Type} {x : Except Fault α}

theorem escaped_bind_iff {g : α → Except Fault β} :
    Escaped (x >>= g) ↔ Escaped x ∨ ∃ a, x = .ok a ∧ Escaped (g a) := by
  cases x with
  | error f => simp [Escaped, bind, Except.bind]
  | ok a => simp [Escaped, bind, Except.bind]

theorem escaped_map_iff {g : α → β} : Escaped (x.map g) ↔ Escaped x := by
  cases x <;> simp [Escaped, Except.map]

theorem Raises.escaped_iff (h : Raises x) : Escaped x ↔ ∀ a, x ≠ .ok a := by
  cases x with
  | error f =>
    have hf : f.IsForeign := by
      rintro e rfl
      exact h e rfl
    simp [Escaped, hf]
  | ok a => simp [Escaped]

end

theorem raises_fromBaseUnits (t : Token) (n : Int) : Raises (t.fromBaseUnits n) :=
  raises_bind (raises_ofResult _) fun _ => raises_ofResult _

namespace Observation

inductive Whole : Json → Int → Prop
  | int (n : Int) : Whole (.int n) n
  | bool (b : Bool) : Whole (.bool b) (if b then 1 else 0)
  | float {x : Binary64} {n : Int} (h : x.toInt? = some n) : Whole (.float x) n
  | text {s : String} {n : Int} (h : Text.readInteger s.toList = .value n) : Whole (.string s) n

inductive Leading : Json → Json → Prop
  | item (v : Json) (rest : List Json) : Leading (.array (v :: rest)) v
  | letter {s : String} {p : Text.Point} {rest : List Text.Point} (h : Text.pointsOf s = p :: rest) :
    Leading (.string s) (.string (Text.ofPoints [p]))

theorem integer_eq_ok {v : Json} {n : Int} : integer v = .ok n ↔ Whole v n := by
  constructor
  · intro h
    cases v with
    | int m =>
      cases h
      exact .int n
    | bool b =>
      cases h
      exact .bool b
    | float x =>
      simp only [integer] at h
      split at h
      · next m hx =>
        cases h
        exact .float hx
      · split at h <;> cases h
    | string s =>
      simp only [integer, integerOfText] at h
      split at h
      · next m hs =>
        cases h
        exact .text hs
      · cases h
      · cases h
    | _ => cases h
  · intro h
    cases h with
    | int n => rfl
    | bool b => rfl
    | float hx => simp [integer, hx]
    | text hs => simp [integer, integerOfText, hs]

theorem raises_integer (v : Json) : Raises (integer v) := by
  intro e h
  cases v with
  | float x =>
    simp only [integer] at h
    split at h
    · cases h
    · split at h <;> cases h
  | string s =>
    simp only [integer, integerOfText] at h
    split at h <;> cases h
  | _ => cases h

theorem first_eq_ok {v w : Json} : first v = .ok w ↔ Leading v w := by
  constructor
  · intro h
    unfold first at h
    split at h
    · cases h
      exact .item _ _
    · cases h
    · split at h
      · next hs =>
        cases h
        exact .letter hs
      · cases h
    · cases h
    · cases h
  · intro h
    cases h with
    | item v rest => rfl
    | letter hs => simp [first, hs]

theorem first_eq_error {v : Json} {f : Fault} (h : first v = .error f) :
    f.IsForeign ∧ ∀ message cause, f ≠ .raised .value message cause := by
  unfold first at h
  split at h
  · cases h
  · cases h
    exact ⟨by rintro e ⟨⟩, by rintro message cause ⟨⟩⟩
  · split at h
    · cases h
    · cases h
      exact ⟨by rintro e ⟨⟩, by rintro message cause ⟨⟩⟩
  · cases h
    exact ⟨by rintro e ⟨⟩, by rintro message cause ⟨⟩⟩
  · cases h
    exact ⟨by rintro e ⟨⟩, by rintro message cause ⟨⟩⟩

theorem raises_first (v : Json) : Raises (first v) :=
  fun e h => (first_eq_error h).1 e rfl

theorem ofJson_eq_error {v : Json} {f : Fault} (h : ofJson v = .error f) :
    (∃ message cause, f = .raised .value message cause) ∨ ∃ x, v = .float x ∧ ∀ a, Decimal.ofText x.text ≠ .ok a := by
  unfold ofJson at h
  split at h
  · cases h
  · cases h
  · next x =>
    refine .inr ⟨x, rfl, fun a ha => ?_⟩
    rw [ha] at h
    cases h
  · unfold ofText at h
    split at h
    · cases h
    · cases h
      exact .inl ⟨_, _, rfl⟩
  · cases h
    exact .inl ⟨_, _, rfl⟩
  · split at h
    · cases h
    · cases h
      exact .inl ⟨_, _, rfl⟩
  · cases h
    exact .inl ⟨_, _, rfl⟩

theorem raises_ofJson (v : Json) : Raises (ofJson v) := by
  intro e h
  obtain ⟨message, cause, ⟨⟩⟩ | ⟨x, rfl, -⟩ := ofJson_eq_error h
  exact raises_ofResult _ e h

end Observation

section

variable {ε α β : Type}

theorem exists_bind_iff {x : Except ε α} {f : α → Except ε β} :
    (∃ b, x >>= f = .ok b) ↔ ∃ a, x = .ok a ∧ ∃ b, f a = .ok b := by
  simp only [except_bind_eq_ok]
  constructor
  · rintro ⟨b, a, hx, hf⟩
    exact ⟨a, hx, b, hf⟩
  · rintro ⟨a, hx, b, hf⟩
    exact ⟨b, a, hx, hf⟩

theorem exists_pure {a : α} : (∃ b, (pure a : Except ε α) = .ok b) ↔ True :=
  iff_true_intro ⟨a, rfl⟩

end

namespace Comparison

def distance (a b : Decimal) : Except Decimal.Signal Decimal := do
  (← a.sub b).abs

def Decides (c : Comparison) (tolerance : Number) (a b : Decimal) : Prop :=
  ∃ ε, Comparison.tolerance tolerance = .ok ε ∧
    if c = .eq ∨ c = .ne then ε.isNaN = false ∧ ∃ d, distance a b = .ok d ∧ d.isNaN = false
    else a.isNaN = false ∧ b.isNaN = false

theorem exists_order_iff {a b : Decimal} : (∃ o, a.order b = .ok o) ↔ a.isNaN = false ∧ b.isNaN = false := by
  cases a <;> cases b <;> simp [Decimal.order, Decimal.order?, Decimal.isNaN]

theorem exists_near_iff {actual expected ε : Decimal} :
    (∃ b, near actual expected ε = .ok b) ↔
      ε.isNaN = false ∧ ∃ d, distance actual expected = .ok d ∧ d.isNaN = false := by
  have hdistance : ∀ d, distance actual expected = .ok d ↔ ∃ a, actual.sub expected = .ok a ∧ a.abs = .ok d :=
    fun d => except_bind_eq_ok
  simp only [near, hdistance, exists_bind_iff, Amount.ofResult_eq_ok, exists_pure, and_true, exists_order_iff]
  constructor
  · rintro ⟨a, ha, d, hd, hdn, hε⟩
    exact ⟨hε, d, ⟨a, ha, hd⟩, hdn⟩
  · rintro ⟨hε, d, ⟨a, ha, hd⟩, hdn⟩
    exact ⟨a, ha, d, hd, hdn, hε⟩

theorem raises_near (actual expected ε : Decimal) : Raises (near actual expected ε) :=
  raises_bind (raises_ofResult _) fun _ =>
    raises_bind (raises_ofResult _) fun _ => raises_bind (raises_ofResult _) fun _ => by rintro e ⟨⟩

theorem raises_holds (c : Comparison) (actual expected : Decimal) (tolerance : Number) :
    Raises (c.holds actual expected tolerance) := by
  refine raises_bind (raises_ofResult _) fun ε => ?_
  cases c with
  | eq => exact raises_near _ _ _
  | ne => exact raises_bind (raises_near _ _ _) fun _ => by rintro e ⟨⟩
  | _ => exact raises_bind (raises_ofResult _) fun _ => by rintro e ⟨⟩

theorem exists_holds_iff {c : Comparison} {actual expected : Decimal} {tolerance : Number} :
    (∃ b, c.holds actual expected tolerance = .ok b) ↔ c.Decides tolerance actual expected := by
  unfold holds Decides
  rw [exists_bind_iff]
  refine exists_congr fun ε => and_congr_right fun _ => ?_
  cases c <;>
    simp only [exists_bind_iff, Amount.ofResult_eq_ok, exists_pure, and_true, exists_order_iff, exists_near_iff,
      reduceCtorEq, or_self, or_true, true_or, if_true, if_false]

end Comparison

namespace Condition

open Observation (Whole Leading)

namespace Query

def operator : Query → Comparison
  | .balance _ _ operator _ => operator
  | .contract _ _ operator _ => operator

def expected : Query → Decimal
  | .balance _ _ _ expected => expected
  | .contract _ _ _ expected => expected

end Query

theorem query?_of_balance {d : LogicData} {q : Query} (hl : d.logicType = some .balance) (h : query? d = some q) :
    ∃ address operator expected, q = .balance address d.balanceAsset operator expected := by
  simp only [query?, hl, Option.bind_eq_bind, Option.bind_eq_some_iff, Option.pure_def, Option.some.injEq] at h
  obtain ⟨address, -, operator, -, expected, -, rfl⟩ := h
  exact ⟨address, operator, expected, rfl⟩

theorem query?_of_contract {d : LogicData} {q : Query} (hl : d.logicType = some .contract) (h : query? d = some q) :
    ∃ target operator expected, q = .contract target d.contractArguments operator expected := by
  simp only [query?, hl, Option.bind_eq_bind, Option.bind_eq_some_iff, Option.pure_def, Option.some.injEq] at h
  obtain ⟨package, -, moduleName, -, function, -, operator, -, expected, -, rfl⟩ := h
  exact ⟨_, operator, expected, rfl⟩

inductive Observes (c : Setting) : Query → Json → Decimal → Prop
  | balance {address asset : String} {operator : Comparison} {expected a : Decimal} {raw : Json} {n : Int} {t : Token}
      (hn : Whole raw n) (ht : c.tokens.find? asset = some t) (ha : t.fromBaseUnits n = .ok a) :
    Observes c (.balance address asset operator expected) raw a
  | contract {target : String} {arguments : Option Arguments} {operator : Comparison} {expected a : Decimal}
      {raw v : Json} (htruthy : raw.isTruthy = true) (hv : Leading raw v) (ha : Observation.ofJson v = .ok a) :
    Observes c (.contract target arguments operator expected) raw a

/-- The answers from which no number can be read, and which are not reported as unreadable either: those that are no
integer or no list where one is due, and those out of range. -/
inductive Unreadable (c : Setting) : Query → Json → Prop
  | notWhole {address asset : String} {operator : Comparison} {expected : Decimal} {raw : Json}
      (h : ∀ n, ¬ Whole raw n) : Unreadable c (.balance address asset operator expected) raw
  | outOfRange {address asset : String} {operator : Comparison} {expected : Decimal} {raw : Json} {n : Int} {t : Token}
      (hn : Whole raw n) (ht : c.tokens.find? asset = some t) (h : ∀ a, t.fromBaseUnits n ≠ .ok a) :
    Unreadable c (.balance address asset operator expected) raw
  | notListed {target : String} {arguments : Option Arguments} {operator : Comparison} {expected : Decimal}
      {raw : Json} (htruthy : raw.isTruthy = true) (h : ∀ v, ¬ Leading raw v) :
    Unreadable c (.contract target arguments operator expected) raw
  | unwritten {target : String} {arguments : Option Arguments} {operator : Comparison} {expected : Decimal}
      {raw : Json} {x : Binary64} (htruthy : raw.isTruthy = true) (hx : Leading raw (.float x))
      (h : ∀ a, Decimal.ofText x.text ≠ .ok a) : Unreadable c (.contract target arguments operator expected) raw

/-- The answers that no handler is prepared for. -/
def Escapes (c : Setting) (q : Query) (raw : Json) : Prop :=
  Unreadable c q raw ∨ ∃ a, Observes c q raw a ∧ ¬ q.operator.Decides c.tolerance a q.expected

section

variable {c : Setting} {s : Step} {es : List Exchange}

def readBalance (t : Token) (raw : Json) : Except Fault Decimal := do
  t.fromBaseUnits (← Observation.integer raw)

def readContract (s : Step) (target : String) (raw : Json) : Except Fault Decimal :=
  if raw.isTruthy then (Observation.first raw >>= Observation.ofJson).mapError (unreadableValue s target)
  else .error (s.error .predicate (.queryEmpty target))

theorem readBalance_eq_ok {address asset : String} {operator : Comparison} {expected a : Decimal} {t : Token}
    {raw : Json} (ht : c.tokens.find? asset = some t) :
    readBalance t raw = .ok a ↔ Observes c (.balance address asset operator expected) raw a := by
  simp only [readBalance, except_bind_eq_ok, Observation.integer_eq_ok]
  constructor
  · rintro ⟨n, hn, ha⟩
    exact .balance hn ht ha
  · rintro ⟨hn, ht', ha⟩
    cases ht.symm.trans ht'
    exact ⟨_, hn, ha⟩

theorem readBalance_escaped_iff {address asset : String} {operator : Comparison} {expected : Decimal} {t : Token}
    {raw : Json} (ht : c.tokens.find? asset = some t) :
    Escaped (readBalance t raw) ↔ Unreadable c (.balance address asset operator expected) raw := by
  simp only [readBalance, escaped_bind_iff, (Observation.raises_integer raw).escaped_iff, ne_eq,
    Observation.integer_eq_ok, (raises_fromBaseUnits t _).escaped_iff]
  constructor
  · rintro (h | ⟨n, hn, h⟩)
    · exact .notWhole h
    · exact .outOfRange hn ht h
  · rintro (h | ⟨hn, ht', h⟩)
    · exact .inl h
    · cases ht.symm.trans ht'
      exact .inr ⟨_, hn, h⟩

theorem readContract_eq_ok {target : String} {arguments : Option Arguments} {operator : Comparison}
    {expected a : Decimal} {raw : Json} :
    readContract s target raw = .ok a ↔ Observes c (.contract target arguments operator expected) raw a := by
  unfold readContract
  split
  · next htruthy =>
    simp only [mapError_eq_ok, except_bind_eq_ok, Observation.first_eq_ok]
    constructor
    · rintro ⟨v, hv, ha⟩
      exact .contract htruthy hv ha
    · intro h
      cases h with
      | contract _ hv ha => exact ⟨_, hv, ha⟩
  · next htruthy =>
    constructor
    · rintro ⟨⟩
    · intro h
      cases h with
      | contract h => exact absurd h htruthy

theorem escaped_unreadableValue_iff {x : Except Fault Decimal} {target : String} :
    Escaped (x.mapError (unreadableValue s target)) ↔
      ∃ f, x = .error f ∧ f.IsForeign ∧ ∀ message cause, f ≠ .raised .value message cause := by
  cases x with
  | ok a =>
    constructor
    · rintro ⟨f, ⟨⟩, -⟩
    · rintro ⟨f, ⟨⟩, -⟩
  | error f =>
    have hf : (unreadableValue s target f).IsForeign ↔
        f.IsForeign ∧ ∀ message cause, f ≠ .raised .value message cause := by
      unfold unreadableValue
      split
      · simp [Fault.IsForeign, Step.error]
      · next h => exact ⟨fun hf => ⟨hf, h⟩, fun hf => hf.1⟩
    have hmap : (Except.error f : Except Fault Decimal).mapError (unreadableValue s target) =
      .error (unreadableValue s target f) := rfl
    simpa [Escaped, hmap] using hf

theorem readContract_escaped_iff {target : String} {arguments : Option Arguments} {operator : Comparison}
    {expected : Decimal} {raw : Json} :
    Escaped (readContract s target raw) ↔ Unreadable c (.contract target arguments operator expected) raw := by
  unfold readContract
  split
  · next htruthy =>
    rw [escaped_unreadableValue_iff]
    constructor
    · rintro ⟨f, hf, -, hvalue⟩
      cases hv : Observation.first raw with
      | error g =>
        refine .notListed htruthy fun v h => ?_
        exact nomatch hv.symm.trans (Observation.first_eq_ok.2 h)
      | ok v =>
        rw [hv] at hf
        obtain ⟨message, cause, rfl⟩ | ⟨x, rfl, hx⟩ := Observation.ofJson_eq_error hf
        · exact absurd rfl (hvalue message cause)
        · exact .unwritten htruthy (Observation.first_eq_ok.1 hv) hx
    · intro h
      cases h with
      | notListed _ h =>
        cases hv : Observation.first raw with
        | ok v => exact absurd (Observation.first_eq_ok.1 hv) (h v)
        | error f => exact ⟨f, rfl, Observation.first_eq_error hv⟩
      | @unwritten _ _ _ _ _ x _ hx h =>
        rw [Observation.first_eq_ok.2 hx]
        cases hread : Decimal.ofText x.text with
        | ok a => exact absurd hread (h a)
        | error signal =>
          have hofJson : Observation.ofJson (.float x) = .error (.ofSignal signal) := by
            simp only [Observation.ofJson, hread]
            rfl
          exact ⟨_, hofJson, by rintro e ⟨⟩, by rintro message cause ⟨⟩⟩
  · next htruthy =>
    constructor
    · rintro ⟨f, ⟨⟩, hf⟩
      exact absurd rfl (hf _)
    · intro h
      cases h with
      | notListed h => exact absurd h htruthy
      | unwritten h => exact absurd h htruthy

end

end Condition

end LedgerFlow
