import LedgerFlow.Proofs.Graph.Decoded
import LedgerFlow.Proofs.Json.Nesting
import LedgerFlow.Proofs.Plan.Arrangement
import LedgerFlow.Proofs.Plan.Steps
import LedgerFlow.Proofs.Validation.Checks

/-!
What becomes of a plan when it is checked. A check breaks off on an amount that is no number, which no graph that is
accepted states, and on the text of arguments that are nested too deep to be read. All other verdicts are about the first
step that would be rejected on its own, whichever steps are marked.
-/

namespace LedgerFlow

namespace Validation

def Completes {α : Type} (x : Except Objection α) : Prop := ∀ f, x ≠ .error (.failed f)

section

variable {α β : Type} {x : Except Objection α} {rules : Rules} {a b : Decimal}

theorem completes_ok (a : α) : Completes (.ok a : Except Objection α) := by rintro f ⟨⟩

theorem completes_refuse (reason : Reason) : Completes (refuse reason : Except Objection α) := by rintro f ⟨⟩

theorem completes_bind {f : α → Except Objection β} (hx : Completes x) (hf : ∀ a, x = .ok a → Completes (f a)) :
    Completes (x >>= f) := by
  cases x with
  | ok a => exact hf a rfl
  | error o =>
    rintro g ⟨⟩
    exact hx g rfl

theorem completes_demand (condition : Bool) (reason : Reason) : Completes (demand condition reason) := by
  unfold demand
  split
  · exact completes_ok ()
  · exact completes_refuse reason

theorem completes_present (field : Option String) (reason : Reason) : Completes (present field reason) := by
  unfold present
  split
  · split
    · exact completes_refuse reason
    · exact completes_ok _
  · exact completes_refuse reason

theorem completes_knownAsset (symbol : String) : Completes (knownAsset rules symbol) := completes_demand _ _

theorem completes_order_iff : Completes (order a b) ↔ a.isNaN = false ∧ b.isNaN = false := by
  have hbroken : ∀ {f : Fault}, ¬Completes (.error (.failed f) : Except Objection Ordering) := fun h => h _ rfl
  cases a with
  | nan s signalling payload => exact iff_of_false hbroken fun h => nomatch h.1
  | _ =>
    cases b with
    | nan t signalling payload => exact iff_of_false hbroken fun h => nomatch h.2
    | _ => exact iff_of_true (completes_ok _) ⟨rfl, rfl⟩

theorem completes_positive_iff {amount : Option Decimal} {what : String} :
    Completes (positive amount what) ↔ ∀ d, amount = some d → d.isNaN = false := by
  cases amount with
  | none => exact iff_of_true (completes_refuse _) fun _ h => nomatch h
  | some d =>
    constructor
    · rintro h _ ⟨⟩
      cases d with
      | finite s c e => rfl
      | infinity s => rfl
      | nan s signalling payload => exact absurd rfl (h _)
    · intro h
      refine completes_bind (completes_order_iff.2 ⟨h d rfl, rfl⟩) fun o _ => ?_
      split
      · exact completes_ok d
      · exact completes_refuse _

theorem completes_positive {amount : Option Decimal} (h : IsFiniteAmount amount) (what : String) :
    Completes (positive amount what) :=
  completes_positive_iff.2 fun _ hd => h.isNaN hd

theorem completes_checkTransfer {d : TransferData} (h : IsFiniteAmount d.amount) : Completes (checkTransfer rules d) :=
  completes_bind (completes_present _ _) fun _ _ =>
    completes_bind (completes_positive h _) fun _ _ => completes_knownAsset _

theorem completes_checkSwap {d : SwapData} (h : IsFiniteAmount d.amount) : Completes (checkSwap rules d) :=
  completes_bind (completes_present _ _) fun _ _ =>
    completes_bind (completes_present _ _) fun _ _ =>
      completes_bind (completes_knownAsset _) fun _ _ =>
        completes_bind (completes_knownAsset _) fun _ _ =>
          completes_bind (completes_demand _ _) fun _ _ =>
            completes_bind (completes_positive h _) fun _ _ => completes_ok ()

theorem completes_checkLend {d : LendData} (h : IsFiniteAmount d.amount) : Completes (checkLend rules d) :=
  completes_bind (completes_positive h _) fun _ _ =>
    completes_bind (completes_demand _ _) fun _ _ =>
      completes_bind (completes_demand _ _) fun _ _ =>
        completes_bind (completes_demand _ _) fun _ _ => completes_knownAsset _

theorem completes_checkStake {d : StakeData} (h : IsFiniteAmount d.amount) : Completes (checkStake d) := by
  refine completes_bind (completes_positive h _) fun x hx => ?_
  have hamount : x.isNaN = false := h.isNaN (positive_eq_ok.1 hx).1
  refine completes_bind (completes_demand _ _) fun _ _ => ?_
  split
  · exact completes_bind (completes_order_iff.2 ⟨hamount, rfl⟩) fun _ _ =>
      completes_bind (completes_demand _ _) fun _ _ =>
        completes_bind (completes_present _ _) fun _ _ => completes_ok ()
  · exact completes_ok ()

theorem completes_checkDestination (destination : String) : Completes (checkDestination rules destination) := by
  unfold checkDestination
  split
  · exact completes_demand _ _
  · exact completes_demand _ _

theorem completes_checkBridge {d : BridgeData} (h : IsFiniteAmount d.amount) : Completes (checkBridge rules d) := by
  refine completes_bind (completes_present _ _) fun _ _ =>
    completes_bind (completes_present _ _) fun _ _ =>
      completes_bind (completes_present _ _) fun _ _ =>
        completes_bind (completes_positive h _) fun _ _ =>
          completes_bind (completes_present _ _) fun _ _ =>
            completes_bind (completes_checkDestination _) fun _ _ => ?_
  split
  · exact completes_refuse _
  · exact completes_bind (completes_demand _ _) fun _ _ => completes_demand _ _

def TooDeep (arguments : Option Arguments) (innermost : Json.Container) : Prop :=
  ∃ s, arguments = some (.text s) ∧ Json.parse (Text.trim s) = .error (.tooDeep innermost)

theorem ofText_eq_tooDeep {s what : String} {innermost : Json.Container} :
    Arguments.ofText s what = .error (.tooDeep innermost) ↔ Json.parse (Text.trim s) = .error (.tooDeep innermost) := by
  have hempty : Json.parse "" ≠ .error (.tooDeep innermost) := fun h => by
    have hlength := Json.length_of_parse h
    simp [Json.nestingLimit] at hlength
  unfold Arguments.ofText
  dsimp only
  split
  · next hblank =>
    rw [String.isEmpty_iff.1 hblank]
    exact iff_of_false (fun h => nomatch h) hempty
  · split <;> simp_all

theorem toList_eq_tooDeep {arguments : Option Arguments} {what : String} {innermost : Json.Container} :
    Arguments.toList arguments what = .error (.tooDeep innermost) ↔ TooDeep arguments innermost := by
  rcases arguments with _ | s | vs
  · simp [Arguments.toList, TooDeep]
  · simp [Arguments.toList, TooDeep, ofText_eq_tooDeep]
  · simp [Arguments.toList, TooDeep]

theorem argumentList_eq_failed {arguments : Option Arguments} {what : String} {f : Fault} :
    argumentList arguments what = .error (.failed f) ↔
      ∃ innermost, TooDeep arguments innermost ∧ f = .tooDeep innermost := by
  have hdeep : ∀ c, TooDeep arguments c ↔ Arguments.toList arguments what = .error (.tooDeep c) :=
    fun _ => toList_eq_tooDeep.symm
  simp only [argumentList, hdeep]
  cases Arguments.toList arguments what with
  | ok vs => simp
  | error e =>
    cases e <;> simp [Objection.ofArguments, ArgumentsError.reason?, ArgumentsError.fault, faultOfRead, eq_comm]

end

end Validation

/-- Where the check of a step breaks off: at arguments that are nested too deep, with nothing before them to refuse. -/
def NodeData.BreaksOff : NodeData → Json.Container → Prop
  | .custom d, innermost =>
    (Validation.Filled d.packageId ∧ Validation.Filled d.moduleName ∧ Validation.Filled d.functionName) ∧
      (Validation.TooDeep d.arguments innermost ∨
        (∃ vs, Arguments.toList d.arguments "arguments" = .ok vs) ∧ Validation.TooDeep d.typeArguments innermost)
  | .logic d, innermost => d.logicType = some .contract ∧ Validation.TooDeep d.contractArguments innermost
  | _, _ => False

namespace Validation

section

variable {α β : Type} {x : Except Objection α} {rules : Rules} {f : Fault}

theorem bind_eq_failed {k : α → Except Objection β} :
    x >>= k = .error (.failed f) ↔ x = .error (.failed f) ∨ ∃ a, x = .ok a ∧ k a = .error (.failed f) := by
  cases x <;> simp [bind, Except.bind]

theorem checkCustom_eq_failed {d : CustomData} :
    checkCustom d = .error (.failed f) ↔
      ∃ innermost, (NodeData.custom d).BreaksOff innermost ∧ f = .tooDeep innermost := by
  have hpresent : ∀ field reason, present field reason ≠ .error (.failed f) := fun _ _ => completes_present _ _ f
  simp only [checkCustom, bind_eq_failed, hpresent, false_or, present_eq_ok, argumentList_eq_ok,
    argumentList_eq_failed, exists_and_right, exists_const, NodeData.BreaksOff, Filled]
  constructor
  · rintro ⟨hp, hm, hn, ⟨c, hc, rfl⟩ | ⟨ha, c, hc, rfl⟩⟩
    · exact ⟨c, ⟨⟨hp, hm, hn⟩, .inl hc⟩, rfl⟩
    · exact ⟨c, ⟨⟨hp, hm, hn⟩, .inr ⟨ha, hc⟩⟩, rfl⟩
  · rintro ⟨c, ⟨⟨hp, hm, hn⟩, hc | ⟨ha, hc⟩⟩, rfl⟩
    · exact ⟨hp, hm, hn, .inl ⟨c, hc, rfl⟩⟩
    · exact ⟨hp, hm, hn, .inr ⟨ha, c, hc, rfl⟩⟩

theorem checkLogic_eq_failed {d : LogicData} :
    checkLogic rules d = .error (.failed f) ↔
      ∃ innermost, (NodeData.logic d).BreaksOff innermost ∧ f = .tooDeep innermost := by
  unfold checkLogic
  extract_lets last
  have hlast : ∀ u, Completes (last u) := by
    intro u
    dsimp only [last]
    split
    · split
      · exact completes_ok ()
      · exact completes_refuse _
    · exact completes_ok ()
  cases hl : d.logicType with
  | none => exact iff_of_false (hlast () f) (by simp [NodeData.BreaksOff, hl])
  | some kind =>
    cases kind with
    | balance =>
      refine iff_of_false ?_ (by simp [NodeData.BreaksOff, hl])
      dsimp only
      split
      · exact hlast () f
      · exact completes_bind (completes_knownAsset _) (fun u _ => hlast u) f
    | contract => simp [bind_eq_failed, argumentList_eq_failed, hlast _ f, NodeData.BreaksOff, hl]

theorem checkNode_eq_failed {n : Node} (h : n.data.HasFiniteAmounts) :
    checkNode rules n = .error (.failed f) ↔ ∃ innermost, n.data.BreaksOff innermost ∧ f = .tooDeep innermost := by
  have hcompletes : ∀ {y : Verdict} {data : NodeData}, Completes y → (∀ c, ¬data.BreaksOff c) →
      (y = .error (.failed f) ↔ ∃ c, data.BreaksOff c ∧ f = .tooDeep c) :=
    fun hy hdata => iff_of_false (hy f) fun ⟨c, hc, _⟩ => hdata c hc
  unfold checkNode
  unfold NodeData.HasFiniteAmounts at h
  cases hd : n.data with
  | wallet d => exact hcompletes (completes_ok ()) fun _ => id
  | selector d => exact hcompletes (completes_ok ()) fun _ => id
  | logic d => exact checkLogic_eq_failed
  | transfer d => exact hcompletes (completes_checkTransfer (h d.amount (hd ▸ List.mem_cons_self))) fun _ => id
  | swap d => exact hcompletes (completes_checkSwap (h d.amount (hd ▸ List.mem_cons_self))) fun _ => id
  | lend d => exact hcompletes (completes_checkLend (h d.amount (hd ▸ List.mem_cons_self))) fun _ => id
  | stake d => exact hcompletes (completes_checkStake (h d.amount (hd ▸ List.mem_cons_self))) fun _ => id
  | bridge d => exact hcompletes (completes_checkBridge (h d.amount (hd ▸ List.mem_cons_self))) fun _ => id
  | custom d => exact checkCustom_eq_failed

end

end Validation

/-! Verdicts on plans -/

def remark (mark : Step → Bool) (steps : List Step) : List Step := steps.map fun s => { s with skipped := mark s }

section

variable {rules : Validation.Rules} {steps : List Step}

open Validation (Completes)

theorem validateSteps_remark (mark : Step → Bool) :
    validateSteps rules (remark mark steps) = validateSteps rules steps := by
  induction steps with
  | nil => rfl
  | cons s rest ih =>
    simp only [remark, List.map_cons] at ih ⊢
    simp only [validateSteps, ih]
    rfl

theorem validateSteps_singleton (s : Step) :
    validateSteps rules [s] = match Validation.checkNode rules s.node with
      | .ok () => .ok ()
      | .error (.refused reason) => .error (s.error .validation reason)
      | .error (.failed f) => .error f := rfl

/-- All steps pass, each on its own, or the error is that of the first of them that is rejected on its own. -/
def RejectsFirst (rules : Validation.Rules) (steps : List Step) : Prop :=
  (validateSteps rules steps = .ok () ∧ ∀ s ∈ steps, validateSteps rules [s] = .ok ()) ∨
    ∃ before s after reason, steps = before ++ s :: after ∧ (∀ t ∈ before, validateSteps rules [t] = .ok ()) ∧
      validateSteps rules [s] = .error (.engine (.onStep .validation s.index reason)) ∧
      validateSteps rules steps = .error (.engine (.onStep .validation s.index reason))

/-- The first step that does not pass on its own is one whose check breaks off. -/
def BreaksOffFirst (rules : Validation.Rules) (steps : List Step) (innermost : Json.Container) : Prop :=
  ∃ before s after, steps = before ++ s :: after ∧ (∀ t ∈ before, validateSteps rules [t] = .ok ()) ∧
    s.node.data.BreaksOff innermost

theorem validateSteps_append {before : List Step} (h : ∀ t ∈ before, validateSteps rules [t] = .ok ()) :
    validateSteps rules (before ++ steps) = validateSteps rules steps := by
  induction before with
  | nil => rfl
  | cons t rest ih =>
    obtain ⟨ht, hrest⟩ := List.forall_mem_cons.1 h
    cases hcheck : Validation.checkNode rules t.node with
    | ok u =>
      rw [List.cons_append, validateSteps, hcheck]
      exact ih hrest
    | error o => cases o <;> simp [validateSteps_singleton, hcheck] at ht

theorem BreaksOffFirst.error {innermost : Json.Container} (h : BreaksOffFirst rules steps innermost)
    (hfinite : ∀ s ∈ steps, s.node.data.HasFiniteAmounts) :
    validateSteps rules steps = .error (.tooDeep innermost) := by
  obtain ⟨before, s, after, rfl, hbefore, hs⟩ := h
  have hcheck : Validation.checkNode rules s.node = .error (.failed (.tooDeep innermost)) :=
    (Validation.checkNode_eq_failed (hfinite s (by simp))).2 ⟨innermost, hs, rfl⟩
  rw [validateSteps_append hbefore, validateSteps, hcheck]

theorem rejectsFirst_or_breaksOffFirst (hfinite : ∀ s ∈ steps, s.node.data.HasFiniteAmounts) :
    RejectsFirst rules steps ∨ ∃ innermost, BreaksOffFirst rules steps innermost := by
  induction steps with
  | nil => exact .inl (.inl ⟨rfl, fun _ hs => (List.not_mem_nil hs).elim⟩)
  | cons s rest ih =>
    obtain ⟨hs, hrest⟩ := List.forall_mem_cons.1 hfinite
    cases hcheck : Validation.checkNode rules s.node with
    | ok u =>
      have hsingle : validateSteps rules [s] = .ok () := by rw [validateSteps_singleton, hcheck]
      have hskip : validateSteps rules (s :: rest) = validateSteps rules rest :=
        @validateSteps_append rules rest [s] (List.forall_mem_singleton.2 hsingle)
      obtain (⟨hok, hall⟩ | ⟨before, t, after, reason, rfl, hbefore, hreject, herror⟩) |
        ⟨innermost, before, t, after, rfl, hbefore, ht⟩ := ih hrest
      · exact .inl (.inl ⟨hskip.trans hok, List.forall_mem_cons.2 ⟨hsingle, hall⟩⟩)
      · exact .inl (.inr ⟨s :: before, t, after, reason, rfl, List.forall_mem_cons.2 ⟨hsingle, hbefore⟩, hreject,
          hskip.trans herror⟩)
      · exact .inr ⟨innermost, s :: before, t, after, rfl, List.forall_mem_cons.2 ⟨hsingle, hbefore⟩, ht⟩
    | error o =>
      cases o with
      | refused reason =>
        have hreject : ∀ more, validateSteps rules (s :: more) = .error (s.error .validation reason) := fun more => by
          simp only [validateSteps, hcheck]
        exact .inl (.inr ⟨[], s, rest, reason, rfl, fun _ ht => (List.not_mem_nil ht).elim, hreject [], hreject rest⟩)
      | failed f =>
        obtain ⟨innermost, hbreaks, -⟩ := (Validation.checkNode_eq_failed hs).1 hcheck
        exact .inr ⟨innermost, [], s, rest, rfl, fun _ ht => (List.not_mem_nil ht).elim, hbreaks⟩

theorem not_rejectsFirst {innermost : Json.Container} (h : validateSteps rules steps = .error (.tooDeep innermost)) :
    ¬RejectsFirst rules steps := by
  rintro (⟨hok, -⟩ | ⟨_, _, _, _, -, -, -, herror⟩)
  · cases h.symm.trans hok
  · cases h.symm.trans herror

end

/-! Accepted graphs -/

/-- Graphs that are accepted: read from text or from an object, or, once that was done, handed over again. -/
inductive FlowGraph.Accepted : FlowGraph → Prop
  | text {wording : Schema.Wording} {s : String} {g : FlowGraph} (h : (Payload.text s).toGraph wording = .ok g) :
    Accepted g
  | value {wording : Schema.Wording} {v : Json} {g : FlowGraph} (h : (Payload.value v).toGraph wording = .ok g) :
    Accepted g
  | again {wording : Schema.Wording} {g h : FlowGraph} (hg : Accepted g)
      (hh : (Payload.graph g).toGraph wording = .ok h) : Accepted h

theorem decodeGraph_of_readGraph {wording : Schema.Wording} {v : Json} {g : FlowGraph}
    (h : readGraph wording v = .ok g) : decodeGraph v = .valid g := by
  unfold readGraph at h
  cases hd : decodeGraph v with
  | valid a =>
    rw [hd] at h
    exact congrArg Schema.Checked.valid (Except.ok.inj h)
  | invalid is =>
    rw [hd] at h
    cases h

theorem FlowGraph.Accepted.decoded {g : FlowGraph} (h : g.Accepted) : ∃ v, decodeGraph v = .valid g := by
  induction h with
  | @text wording s g h =>
    obtain ⟨v, -, hv⟩ := except_bind_eq_ok.1 h
    exact ⟨v, decodeGraph_of_readGraph hv⟩
  | @value wording v g h =>
    cases v with
    | object ms => exact ⟨_, decodeGraph_of_readGraph h⟩
    | _ => cases h
  | again _ hh ih =>
    cases hh
    exact ih

/-- Every amount of a graph that is accepted is a finite number if it is there at all. Whatever tokens and names there
are, strict or not, its plan passes its checks, or the error is about the first step that would be rejected on its own,
unless the first that does not pass on its own has arguments that are nested too deep to be read: their failure leaves the
check as it is. Which steps are marked makes no difference. -/
theorem verdict_of_accepted {g : FlowGraph} (hg : g.Accepted) :
    (∀ n ∈ g.nodes, n.data.HasFiniteAmounts) ∧
    ∀ (epsilon : Number) (rules : Validation.Rules) (mark : Step → Bool),
      (RejectsFirst rules (remark mark (GraphView.compile ⟨g, epsilon⟩)) ↔
        ∀ innermost, ¬BreaksOffFirst rules (remark mark (GraphView.compile ⟨g, epsilon⟩)) innermost) ∧
      (∀ innermost, BreaksOffFirst rules (remark mark (GraphView.compile ⟨g, epsilon⟩)) innermost →
        validateSteps rules (remark mark (GraphView.compile ⟨g, epsilon⟩)) = .error (.tooDeep innermost)) ∧
      validateSteps rules (remark mark (GraphView.compile ⟨g, epsilon⟩)) =
        validateSteps rules (GraphView.compile ⟨g, epsilon⟩) := by
  obtain ⟨v, hv⟩ := hg.decoded
  have hfinite := hasFiniteAmounts_of_decodeGraph hv
  refine ⟨hfinite, fun epsilon rules mark => ?_⟩
  have hsteps : ∀ s ∈ remark mark (GraphView.compile ⟨g, epsilon⟩), s.node.data.HasFiniteAmounts := fun s hs => by
    obtain ⟨t, ht, rfl⟩ := List.mem_map.1 hs
    exact hfinite t.node (GraphView.mem_emitted.1 (node_of_mem_number ht)).1
  refine ⟨⟨fun hreject innermost hbreaks => not_rejectsFirst (hbreaks.error hsteps) hreject, fun hnone => ?_⟩,
    fun innermost hbreaks => hbreaks.error hsteps, validateSteps_remark mark⟩
  exact (rejectsFirst_or_breaksOffFirst hsteps).resolve_right fun ⟨innermost, hbreaks⟩ => hnone innermost hbreaks

theorem verdict_of_accepted_placed :
    Fan.placed.Accepted ∧ (∀ n ∈ Fan.placed.nodes, n.data.HasFiniteAmounts) ∧
      validateSteps ⟨.standard, .empty, true⟩ (remark (·.index == 0) (GraphView.compile ⟨Fan.placed, .float 50⟩)) =
        .error (.engine (.onStep .validation 0 .recipientRequired)) := by
  have hread : (Payload.value (.object (Fan.payload 0 Fan.edges))).toGraph .heading = .ok Fan.placed :=
    readGraph_of_parts (Fan.decodeParts_payload 0 rfl) .heading
  obtain ⟨hfinite, hverdict⟩ := verdict_of_accepted (.value hread)
  have hreject : ∀ (position : Position) (rest : List Node),
      validateSteps ⟨.standard, .empty, true⟩ (number 0 (⟨"first", position, .transfer ⟨none, none, "SUI"⟩⟩ :: rest)) =
        .error (.engine (.onStep .validation 0 .recipientRequired)) := fun _ _ => rfl
  have hwalk : (GraphView.mk Fan.placed (.float 50)).walk = (Fan.nodes 0).map (·.id) := by
    rw [GraphView.walk_of_isFan (by decide +kernel)]
    decide +kernel
  have hnodes : ∀ n ∈ Fan.nodes 0, n ∈ (GraphView.mk Fan.placed (.float 50)).graph.nodes := fun _ hn => hn
  have hcompile : GraphView.compile ⟨Fan.placed, .float 50⟩ =
      number 0 ((Fan.nodes 0).filter fun n => !n.isPassthrough) := by
    rw [GraphView.compile, GraphView.emitted, hwalk]
    exact congrArg (number 0) (GraphView.emittedOf_map hnodes)
  refine ⟨.value hread, hfinite, ?_⟩
  rw [(hverdict (.float 50) ⟨.standard, .empty, true⟩ (·.index == 0)).2.2, hcompile]
  exact hreject _ _

/-! A call whose arguments are nested deeper than they can be read. -/

def nestedArrays (n : Nat) : String := String.ofList (List.replicate n '[' ++ List.replicate n ']')

theorem trim_nestedArrays (n : Nat) : Text.trim (nestedArrays (n + 1)) = nestedArrays (n + 1) := by
  have hdrop : ∀ {c : Char}, Text.isBlank c = false → ∀ rest : List Char,
      (List.replicate (n + 1) c ++ rest).dropWhile Text.isBlank = List.replicate (n + 1) c ++ rest := fun hc _ => by
    rw [List.replicate_succ, List.cons_append, List.dropWhile_cons_of_neg (by simp [hc])]
  have hreverse : ∀ a b : Char, (List.replicate (n + 1) a ++ List.replicate (n + 1) b).reverse =
      List.replicate (n + 1) b ++ List.replicate (n + 1) a := fun a b => by
    rw [List.reverse_append, List.reverse_replicate, List.reverse_replicate]
  rw [Text.trim, nestedArrays, String.toList_ofList, Text.trimBy, hdrop (by decide), hreverse, hdrop (by decide),
    hreverse]

namespace DeepCall

open Schema

def nodes (text : String) : List Node := [
  ⟨"wallet", ⟨⟨0, false⟩, ⟨0, false⟩⟩, .wallet ⟨none⟩⟩,
  ⟨"call", ⟨⟨0, false⟩, ⟨0, false⟩⟩, .custom ⟨some "0x2", some "pool", some "swap", some (.text text), none⟩⟩]

def payload (text : String) : Members := [
  ("nodes", .array [
    .object [("id", .string "wallet"), ("type", .string "wallet")],
    .object [("id", .string "call"), ("type", .string "custom"), ("data", .object [
      ("customPackageId", .string "0x2"), ("customModule", .string "pool"), ("customFunction", .string "swap"),
      ("customArguments", .string text)])]]),
  ("edges", .array [.object [("id", .string "first"), ("source", .string "wallet"), ("target", .string "call")]])]

theorem decodeParts_payload (text : String) :
    decodeParts (.object (payload text)) = .valid ⟨nodes text, [⟨"first", "wallet", "call"⟩], []⟩ := by
  rfl

def graph : FlowGraph where
  nodes := nodes (nestedArrays 20000)
  edges := [⟨"first", "wallet", "call"⟩]
  metadata := []
  sound := by decide +kernel

/-- The arguments are JSON, and yet the check of the call ends in a failure that is no rejection of the step. -/
theorem breaks_off :
    graph.Accepted ∧
      validateSteps ⟨.standard, .empty, false⟩ (GraphView.compile ⟨graph, .float 50⟩) = .error (.tooDeep .array) ∧
      ¬RejectsFirst ⟨.standard, .empty, false⟩ (GraphView.compile ⟨graph, .float 50⟩) := by
  have hread : (Payload.value (.object (payload (nestedArrays 20000)))).toGraph .heading = .ok graph :=
    readGraph_of_parts (decodeParts_payload _) .heading
  have hcompile : GraphView.compile ⟨graph, .float 50⟩ = number 0 ((nodes (nestedArrays 20000)).drop 1) :=
    GraphView.compile_of_isRow (by decide +kernel)
  have hdeep : Json.parse (Text.trim (nestedArrays 20000)) = .error (.tooDeep .array) := by
    rw [trim_nestedArrays 19999]
    exact Json.parse_brackets (by decide) _
  have hfirst : BreaksOffFirst ⟨.standard, .empty, false⟩ (GraphView.compile ⟨graph, .float 50⟩) .array := by
    rw [hcompile]
    refine ⟨[], _, [], rfl, fun _ ht => (List.not_mem_nil ht).elim, ?_, .inl ⟨_, rfl, hdeep⟩⟩
    exact ⟨⟨_, rfl, rfl⟩, ⟨_, rfl, rfl⟩, _, rfl, rfl⟩
  have herror := hfirst.error fun s hs => by
    rw [hcompile] at hs
    obtain rfl := List.mem_singleton.1 hs
    exact fun _ ha => (List.not_mem_nil ha).elim
  exact ⟨.value hread, herror, not_rejectsFirst herror⟩

end DeepCall

end LedgerFlow
