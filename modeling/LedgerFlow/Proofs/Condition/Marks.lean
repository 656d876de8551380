import LedgerFlow.Proofs.Plan.Steps
import LedgerFlow.Proofs.Run.Preparation
import LedgerFlow.Settings
import Mathlib.Data.List.Forall2

namespace LedgerFlow

open Relation (TransGen)

def Step.KeepsMark (s t : Step) : Prop := t = s ∨ t = s.skip

structure GraphView.Fresh (v : GraphView) (steps : List Step) : Prop where
  ids : (steps.map (·.node.id)).Nodup
  indexes : (steps.map (·.index)).Nodup
  known : ∀ s ∈ steps, s.node.id ∈ v.graph.ids
  unskipped : ∀ s ∈ steps, s.skipped = false

theorem GraphView.fresh_of_perm {v : GraphView} {steps : List Step} (h : steps.Perm v.compile) : v.Fresh steps where
  ids := ((h.map _).nodup_iff).2 v.nodup_map_id
  indexes := ((h.map _).nodup_iff).2 (v.map_index_compile ▸ List.nodup_range)
  known _ hs := List.mem_map_of_mem (mem_emitted.1 (node_of_mem_number (h.mem_iff.1 hs))).1
  unskipped _ hs := skipped_of_mem_number (h.mem_iff.1 hs)

namespace Plan

variable {v : GraphView} {ids more : List String} {steps : List Step} {s t : Step}

theorem skipNodes_nil (steps : List Step) : skipNodes [] steps = steps := by
  simp [skipNodes]

theorem skipNodes_skipNodes (ids more : List String) (steps : List Step) :
    skipNodes more (skipNodes ids steps) = skipNodes (ids ++ more) steps := by
  simp only [skipNodes, List.map_map]
  apply List.map_congr_left
  intro s _
  by_cases hi : s.node.id ∈ ids <;> by_cases hm : s.node.id ∈ more <;> simp [hi, hm, Step.skip]

theorem mem_skipNodes (hf : v.Fresh steps) :
    t ∈ skipNodes ids steps ↔ ∃ s ∈ steps, t = { s with skipped := ids.contains s.node.id } := by
  rw [skipNodes, List.mem_map]
  refine exists_congr fun s => and_congr_right fun hs => ?_
  have hstep : (if ids.contains s.node.id then s.skip else s) = { s with skipped := ids.contains s.node.id } := by
    cases ids.contains s.node.id with
    | true => rfl
    | false => simp [← hf.unskipped s hs]
  rw [hstep]
  exact eq_comm

theorem keepsMark_skipNodes (steps : List Step) (h : ids ⊆ more) :
    List.Forall₂ Step.KeepsMark (skipNodes ids steps) (skipNodes more steps) := by
  simp only [skipNodes, List.forall₂_map_left_iff, List.forall₂_map_right_iff, List.forall₂_same]
  intro s _
  by_cases hi : s.node.id ∈ ids
  · simp [hi, h hi, Step.KeepsMark]
  · by_cases hm : s.node.id ∈ more <;> simp [hi, hm, Step.KeepsMark]

theorem isSkippedNow_skipNodes (hf : v.Fresh steps) (hs : s ∈ steps) :
    Condition.isSkippedNow (skipNodes ids steps) s = ids.contains s.node.id := by
  rw [Bool.eq_iff_iff, Condition.isSkippedNow, List.any_eq_true]
  constructor
  · rintro ⟨t, ht, hst⟩
    obtain ⟨s', hs', rfl⟩ := (mem_skipNodes hf).1 ht
    simp only [Bool.and_eq_true, beq_iff_eq] at hst
    rw [List.inj_on_of_nodup_map hf.indexes hs hs' hst.1.symm]
    exact hst.2
  · intro hi
    exact ⟨_, (mem_skipNodes hf).2 ⟨s, hs, rfl⟩, by simpa using hi⟩

theorem mem_skippedIndexes {i : Nat} : i ∈ skippedIndexes steps ↔ ∃ t ∈ steps, t.skipped = true ∧ t.index = i := by
  simp [skippedIndexes, and_assoc]

theorem sublist_skippedIndexes : (skippedIndexes steps).Sublist (steps.map (·.index)) :=
  List.filter_sublist.map _

end Plan

namespace Condition

section Turns

variable (v : GraphView) (unmet : Step → Bool)

def afterTurn (ids : List String) (b : Step) : List String :=
  if b.isBranch && !ids.contains b.node.id && unmet b then ids ++ v.descendants b.node.id else ids

def afterTurns (ids : List String) (turn : List Step) : List String := turn.foldl (afterTurn v unmet) ids

def evaluated (ids : List String) : List Step → List Step
  | [] => []
  | b :: rest =>
    (if b.isBranch && !ids.contains b.node.id then [b] else []) ++ evaluated (afterTurn v unmet ids b) rest

/-- What the marks mean once the steps of `turn` have had theirs: the ids that carry one are below an unmet branch, and
all that are below an unmet branch carry one, branches aside. -/
structure Marked (steps turn : List Step) (ids : List String) : Prop where
  sound : ∀ id ∈ ids, ∃ b ∈ turn, b.isBranch = true ∧ unmet b = true ∧ TransGen v.graph.Leads b.node.id id
  complete : ∀ b ∈ turn, b.isBranch = true → unmet b = true →
    ∀ id, (∀ t ∈ steps, t.isBranch = true → t.node.id ≠ id) → TransGen v.graph.Leads b.node.id id → id ∈ ids

variable {v unmet} {ids : List String} {steps turn more : List Step} {b : Step}

theorem afterTurn_of_idle (h : b.isBranch = false ∨ b.node.id ∈ ids) : afterTurn v unmet ids b = ids := by
  obtain h | h := h <;> simp [afterTurn, h]

theorem evaluated_of_idle {rest : List Step} (h : b.isBranch = false ∨ b.node.id ∈ ids) :
    evaluated v unmet ids (b :: rest) = evaluated v unmet ids rest := by
  rw [evaluated, afterTurn_of_idle h]
  obtain h | h := h <;> simp [h]

theorem evaluated_of_live {rest : List Step} (hb : b.isBranch = true) (h : b.node.id ∉ ids) :
    evaluated v unmet ids (b :: rest) = b :: evaluated v unmet (afterTurn v unmet ids b) rest := by
  simp [evaluated, hb, h]

theorem subset_afterTurn : ids ⊆ afterTurn v unmet ids b := by
  unfold afterTurn
  split
  · exact List.subset_append_left _ _
  · exact List.Subset.refl _

theorem subset_afterTurns : ids ⊆ afterTurns v unmet ids turn := by
  induction turn generalizing ids with
  | nil => exact List.Subset.refl _
  | cons b rest ih => exact List.Subset.trans subset_afterTurn ih

theorem afterTurns_append :
    afterTurns v unmet ids (turn ++ more) = afterTurns v unmet (afterTurns v unmet ids turn) more :=
  List.foldl_append

theorem marked_nil : Marked v unmet steps [] [] where
  sound := by simp
  complete := by simp

theorem Marked.leave (h : Marked v unmet steps turn ids)
    (hb : b.isBranch = true → unmet b = true →
      ∀ id, (∀ t ∈ steps, t.isBranch = true → t.node.id ≠ id) → TransGen v.graph.Leads b.node.id id → id ∈ ids) :
    Marked v unmet steps (turn ++ [b]) ids where
  sound id hid := by
    obtain ⟨b', hb', rest⟩ := h.sound id hid
    exact ⟨b', List.mem_append_left _ hb', rest⟩
  complete b' hb' := by
    obtain hb' | hb' := List.mem_append.1 hb'
    · exact h.complete b' hb'
    · rw [List.mem_singleton.1 hb']
      exact hb

theorem Marked.afterTurn (h : Marked v unmet steps turn ids) (hb : b ∈ steps) (hk : b.node.id ∈ v.graph.ids) :
    Marked v unmet steps (turn ++ [b]) (Condition.afterTurn v unmet ids b) := by
  unfold Condition.afterTurn
  split
  · next hc =>
    simp only [Bool.and_eq_true, Bool.not_eq_true', List.contains_eq_mem, decide_eq_false_iff_not] at hc
    obtain ⟨⟨hbranch, -⟩, hunmet⟩ := hc
    constructor
    · intro id hid
      obtain hid | hid := List.mem_append.1 hid
      · obtain ⟨b', hb', rest⟩ := h.sound id hid
        exact ⟨b', List.mem_append_left _ hb', rest⟩
      · exact ⟨b, by simp, hbranch, hunmet, ((GraphView.mem_descendants hk).1 hid).2⟩
    · intro b' hb' hbranch' hunmet' id hid hpath
      obtain hb' | hb' := List.mem_append.1 hb'
      · exact List.mem_append_left _ (h.complete b' hb' hbranch' hunmet' id hid hpath)
      · rw [List.mem_singleton.1 hb'] at hpath
        exact List.mem_append_right _ ((GraphView.mem_descendants hk).2 ⟨(hid b hb hbranch).symm, hpath⟩)
  · next hc =>
    apply h.leave
    intro hbranch hunmet id hid hpath
    -- an unmet branch that marks nothing carries a mark: what marked it leads on to all that it leads to
    have hmark : b.node.id ∈ ids := by simpa [hbranch, hunmet] using hc
    obtain ⟨b', hb', hbranch', hunmet', hpath'⟩ := h.sound _ hmark
    exact h.complete b' hb' hbranch' hunmet' id hid (hpath'.trans hpath)

theorem Marked.afterTurns (h : Marked v unmet steps turn ids) (hm : more ⊆ steps)
    (hk : ∀ s ∈ steps, s.node.id ∈ v.graph.ids) :
    Marked v unmet steps (turn ++ more) (Condition.afterTurns v unmet ids more) := by
  induction more generalizing turn ids with
  | nil => simpa [Condition.afterTurns] using h
  | cons b rest ih =>
    have hb : b ∈ steps := hm List.mem_cons_self
    simpa [Condition.afterTurns] using ih (h.afterTurn hb (hk b hb)) fun s hs => hm (.tail _ hs)

theorem Marked.skipped_iff (h : Marked v unmet steps steps ids) (hf : v.Fresh steps) {t : Step}
    (ht : t ∈ Plan.skipNodes ids steps) (hb : t.isBranch = false) :
    t.skipped = true ↔
      ∃ b ∈ steps, b.isBranch = true ∧ unmet b = true ∧ TransGen v.graph.Leads b.node.id t.node.id := by
  obtain ⟨s, hs, rfl⟩ := (Plan.mem_skipNodes hf).1 ht
  have hother : ∀ b ∈ steps, b.isBranch = true → b.node.id ≠ s.node.id := by
    intro b hbs hbranch hid
    rw [List.inj_on_of_nodup_map hf.ids hbs hs hid] at hbranch
    exact Bool.false_ne_true (hb.symm.trans hbranch)
  constructor
  · intro hi
    exact h.sound _ (by simpa using hi)
  · rintro ⟨b, hbs, hbranch, hunmet, hpath⟩
    simpa using h.complete b hbs hbranch hunmet _ hother hpath

theorem sublist_evaluated : (evaluated v unmet ids turn).Sublist (turn.filter (·.isBranch)) := by
  induction turn generalizing ids with
  | nil => exact .slnil
  | cons b rest ih =>
    rw [evaluated, List.filter_cons]
    cases hb : b.isBranch with
    | false => simpa using ih
    | true =>
      cases hi : ids.contains b.node.id with
      | true => simpa using ih.cons b
      | false => simpa using ih

theorem evaluated_append :
    evaluated v unmet ids (turn ++ more) =
      evaluated v unmet ids turn ++ evaluated v unmet (afterTurns v unmet ids turn) more := by
  induction turn generalizing ids with
  | nil => rfl
  | cons b rest ih =>
    rw [List.cons_append, evaluated, ih, evaluated, List.append_assoc]
    rfl

theorem mem_evaluated {rest : List Step} (hn : (turn ++ b :: rest).Nodup) (hb : b.isBranch = true) :
    b ∈ evaluated v unmet ids (turn ++ b :: rest) ↔ b.node.id ∉ afterTurns v unmet ids turn := by
  have apart := List.nodup_middle.1 hn
  have hbefore : b ∉ evaluated v unmet ids turn := by
    intro h
    exact (List.nodup_cons.1 apart).1 (List.mem_append_left _ (List.mem_of_mem_filter (sublist_evaluated.subset h)))
  have hafter : ∀ ids', b ∉ evaluated v unmet ids' rest := by
    intro ids' h
    exact (List.nodup_cons.1 apart).1 (List.mem_append_right _ (List.mem_of_mem_filter (sublist_evaluated.subset h)))
  rw [evaluated_append, evaluated]
  simp [hbefore, hafter, hb]

end Turns

variable {σ : Type} (answer : (q : Request) → σ → q.Answer × σ) (s : σ) (c : Setting)

def outcome (b : Step) : Except Fault ConditionOutcome := ((evaluateStep c b).run.run answer s).1

def unmet (b : Step) : Bool :=
  match outcome answer s c b with
  | .ok o => !o.satisfied
  | .error _ => false

/-- The steps as they are marked once those of `turn` have had their turn. -/
def marksAfter (v : GraphView) (turn steps : List Step) : List Step :=
  ((applyFrom c v true turn steps).run answer s).1.2

variable {answer s c} {v : GraphView} {steps turn : List Step} {b : Step}

theorem applyFrom_of_idle (h : b.isBranch = false ∨ isSkippedNow steps b = true) :
    applyFrom c v true (b :: turn) steps = applyFrom c v true turn steps := by
  rw [applyFrom, if_pos]
  obtain h | h := h <;> simp [h]

theorem applyFrom_of_live (hb : b.isBranch = true) (h : isSkippedNow steps b = false) :
    applyFrom c v true (b :: turn) steps = (evaluateStep c b).run.bind fun
      | .error f => .done (.error f, steps)
      | .ok o => applyFrom c v true turn (if o.satisfied then steps else markDownstream v b.node.id steps) := by
  have hlive : (!b.isBranch || isSkippedNow steps b) = false := by simp [hb, h]
  rw [applyFrom, hlive]
  rfl

theorem applyFrom_skipNodes (ha : Program.Steady (·.phase = .judging) answer) (hf : v.Fresh steps)
    (hturn : turn ⊆ steps) (he : ∀ b ∈ turn, b.isBranch = true → ∃ o, outcome answer s c b = .ok o)
    (ids : List String) (s' : σ) :
    ((applyFrom c v true turn (Plan.skipNodes ids steps)).run answer s').1 =
        (.ok (), Plan.skipNodes (afterTurns v (unmet answer s c) ids turn) steps) ∧
      (applyFrom c v true turn (Plan.skipNodes ids steps)).exchanges answer s' =
        (evaluated v (unmet answer s c) ids turn).flatMap fun b => (evaluateStep c b).run.exchanges answer s := by
  induction turn generalizing ids s' with
  | nil => exact ⟨rfl, rfl⟩
  | cons b rest ih =>
    have hnow : isSkippedNow (Plan.skipNodes ids steps) b = ids.contains b.node.id :=
      Plan.isSkippedNow_skipNodes hf (hturn List.mem_cons_self)
    have ih := ih (fun t ht => hturn (.tail _ ht)) fun t ht => he t (.tail _ ht)
    by_cases hidle : b.isBranch = false ∨ b.node.id ∈ ids
    · rw [evaluated_of_idle hidle, afterTurns, List.foldl_cons, afterTurn_of_idle hidle]
      rw [applyFrom_of_idle (hidle.imp_right fun hi => hnow.trans (by simpa using hi))]
      exact ih ids s'
    · obtain ⟨hb, hi⟩ := not_or.1 hidle
      have hb : b.isBranch = true := by simpa using hb
      obtain ⟨o, ho⟩ := he b List.mem_cons_self hb
      have hasks := within_evaluateStep c b
      have hvalue : ((evaluateStep c b).run.run answer s').1 = .ok o := (hasks.run_eq ha s' s).trans ho
      have hids : (if o.satisfied then Plan.skipNodes ids steps
          else markDownstream v b.node.id (Plan.skipNodes ids steps)) =
          Plan.skipNodes (afterTurn v (unmet answer s c) ids b) steps := by
        simp only [afterTurn, hb, unmet, ho, markDownstream, Plan.skipNodes_skipNodes]
        cases o.satisfied <;> simp [hi]
      rw [applyFrom_of_live hb (hnow.trans (by simpa using hi)), Program.run_bind, Program.exchanges_bind, hvalue,
        hasks.exchanges_eq ha s' s]
      simp only [hids]
      obtain ⟨hrun, hasked⟩ := ih (afterTurn v (unmet answer s c) ids b) ((evaluateStep c b).run.run answer s').2
      rw [evaluated_of_live hb hi, List.flatMap_cons]
      exact ⟨hrun, congrArg (_ ++ ·) hasked⟩

theorem marksAfter_eq (ha : Program.Steady (·.phase = .judging) answer) (hf : v.Fresh steps) (hturn : turn ⊆ steps)
    (he : ∀ b ∈ turn, b.isBranch = true → ∃ o, outcome answer s c b = .ok o) :
    marksAfter answer s c v turn steps = Plan.skipNodes (afterTurns v (unmet answer s c) [] turn) steps := by
  have h := (applyFrom_skipNodes ha hf hturn he [] s).1
  rw [Plan.skipNodes_nil] at h
  rw [marksAfter, h]

variable (answer s c)

/-- The branches of the steps were gone through, and these of them evaluated, which left the steps so marked. -/
structure Judged (v : GraphView) (steps marked evaluated : List Step) : Prop where
  value : ((applyAll c v true steps).run answer s).1 = (.ok (), marked)
  skipped_iff : ∀ t ∈ marked, t.isBranch = false →
    (t.skipped = true ↔
      ∃ b ∈ steps, b.isBranch = true ∧ unmet answer s c b = true ∧ TransGen v.graph.Leads b.node.id t.node.id)
  exchanges : (applyAll c v true steps).exchanges answer s =
    evaluated.flatMap fun b => (evaluateStep c b).run.exchanges answer s
  once : evaluated.Nodup
  branches : evaluated.Sublist (steps.filter (·.isBranch))
  live : ∀ turn b rest, steps = turn ++ b :: rest → b.isBranch = true →
    (b ∈ evaluated ↔ isSkippedNow (marksAfter answer s c v turn steps) b = false)
  kept : ∀ turn more rest, steps = turn ++ more ++ rest →
    List.Forall₂ Step.KeepsMark (marksAfter answer s c v turn steps) (marksAfter answer s c v (turn ++ more) steps)
  start : marksAfter answer s c v [] steps = steps
  listed : ∀ i, i ∈ Plan.skippedIndexes marked ↔ ∃ t ∈ marked, t.skipped = true ∧ t.index = i
  ascending : steps = v.compile → (Plan.skippedIndexes marked).Pairwise (· < ·)

variable {answer s c}

/-- Conditions that are answered alike whenever they are asked, and that all can be judged, leave the same steps out in
whatever order the branches come. -/
theorem judged_applyAll (ha : Program.Steady (·.phase = .judging) answer) (hs : steps.Perm v.compile)
    (he : ∀ b ∈ steps, b.isBranch = true → ∃ o, outcome answer s c b = .ok o) :
    ∃ marked evaluated, Judged answer s c v steps marked evaluated := by
  have hf := GraphView.fresh_of_perm hs
  have hnodup : steps.Nodup := hf.indexes.of_map
  obtain ⟨hrun, hasked⟩ := applyFrom_skipNodes ha hf (List.Subset.refl steps) he [] s
  rw [Plan.skipNodes_nil] at hrun hasked
  have hmarked : Marked v (unmet answer s c) steps steps (afterTurns v (unmet answer s c) [] steps) :=
    marked_nil.afterTurns (List.Subset.refl steps) hf.known
  have hafter : ∀ turn rest, steps = turn ++ rest →
      marksAfter answer s c v turn steps = Plan.skipNodes (afterTurns v (unmet answer s c) [] turn) steps := by
    intro turn rest hsteps
    have hturn : turn ⊆ steps := hsteps ▸ List.subset_append_left _ _
    exact marksAfter_eq ha hf hturn fun b hb => he b (hturn hb)
  exact ⟨Plan.skipNodes (afterTurns v (unmet answer s c) [] steps) steps, evaluated v (unmet answer s c) [] steps, {
    value := hrun
    skipped_iff := fun t ht hb => hmarked.skipped_iff hf ht hb
    exchanges := hasked
    once := (hnodup.filter _).sublist sublist_evaluated
    branches := sublist_evaluated
    live := by
      intro turn b rest hsteps hb
      have hmem : b ∈ steps := by simp [hsteps]
      rw [hafter turn (b :: rest) hsteps, Plan.isSkippedNow_skipNodes hf hmem]
      conv_lhs => rw [hsteps]
      simpa using mem_evaluated (hsteps ▸ hnodup) hb
    kept := by
      intro turn more rest hsteps
      rw [hafter (turn ++ more) rest hsteps, hafter turn (more ++ rest) (by rw [hsteps, List.append_assoc]),
        afterTurns_append]
      exact Plan.keepsMark_skipNodes steps subset_afterTurns
    start := rfl
    listed := fun i => Plan.mem_skippedIndexes
    ascending := by
      rintro rfl
      refine List.Pairwise.sublist Plan.sublist_skippedIndexes ?_
      rw [Plan.map_skipNodes fun _ => rfl, v.map_index_compile]
      exact List.pairwise_lt_range }⟩

def nested : FlowGraph where
  nodes := [
    .of "wallet" (.wallet ⟨none⟩),
    .of "above" (.transfer ⟨some "0x54", some 1, "SUI"⟩),
    .of "outer" (.logic ⟨some .balance, some "0x51", "SUI", some .gt, some 5, none, none, none, none, none, none⟩),
    .of "between" (.transfer ⟨some "0x52", some 1, "SUI"⟩),
    .of "inner" (.logic ⟨some .balance, some "0x52", "SUI", some .lt, some 5, none, none, none, none, none, none⟩),
    .of "below" (.transfer ⟨some "0x53", some 1, "SUI"⟩)]
  edges := [⟨"1", "wallet", "above"⟩, ⟨"2", "above", "outer"⟩, ⟨"3", "outer", "between"⟩, ⟨"4", "between", "inner"⟩,
    ⟨"5", "inner", "below"⟩, ⟨"6", "below", "outer"⟩]
  metadata := []
  sound := by decide +kernel

def nestedView : GraphView := ⟨nested, Settings.standard.runSettings.positionEpsilon⟩

def standardSetting : Setting := ⟨.standard, .empty, Settings.standard.runSettings.comparisonTolerance⟩

/-- Collaborators that answer as at the beginning of the script, whatever they have recorded. -/
def unchanging (script : Script) (q : Request) (s : Rehearsal) : q.Answer × Rehearsal :=
  (((Rehearsal.create script).answer q).1, s.record (.asked q))

def oneCoin : Script :=
  { Rehearsal.blank with predicates := some ⟨[("0x51|0x2::sui::SUI", .int 1000000000)], [], none⟩ }

theorem compile_nestedView : nestedView.compile = number 0 (nested.nodes.drop 1) :=
  GraphView.compile_of_isRow (by decide +kernel)

theorem outcome_nestedView : ∀ b ∈ nestedView.compile, b.isBranch = true →
    (outcome (unchanging oneCoin) (.create oneCoin) standardSetting b).toBool = true := by
  rw [compile_nestedView]
  decide +kernel

def nestedSteps : List Step := number 0 (nested.nodes.drop 1)

def outerStep : Step := nestedSteps[1]

def innerStep : Step := nestedSteps[3]

def nestedUnmet : Step → Bool := unmet (unchanging oneCoin) (.create oneCoin) standardSetting

theorem descendants_outer : nestedView.descendants "outer" = ["between", "inner", "below"] := by
  have htargets : nestedView.graph.targets "outer" = ["between"] := by decide +kernel
  have hrow : Traversal.inRow nestedView.graph.targets nestedView.graph.ids [] ["between", "inner", "below", "outer"] =
      true := by decide +kernel
  have hreached := Traversal.preorder_of_inRow hrow
  rw [List.take_succ_cons, List.take_zero] at hreached
  rw [GraphView.descendants, Traversal.reachable, htargets, hreached]
  decide

theorem afterTurns_nestedSteps :
    afterTurns nestedView nestedUnmet [] (nestedSteps.take 3) = ["between", "inner", "below"] ∧
      afterTurns nestedView nestedUnmet [] nestedSteps = ["between", "inner", "below"] := by
  have habove : afterTurn nestedView nestedUnmet [] nestedSteps[0] = [] := afterTurn_of_idle (.inl rfl)
  have houter : afterTurn nestedView nestedUnmet [] outerStep = ["between", "inner", "below"] := by
    have hlive : (outerStep.isBranch && !List.contains [] outerStep.node.id && nestedUnmet outerStep) = true := by
      decide +kernel
    rw [afterTurn, hlive]
    exact descendants_outer
  have hidle : ∀ b ∈ nestedSteps.drop 2,
      afterTurn nestedView nestedUnmet ["between", "inner", "below"] b = ["between", "inner", "below"] := by
    have h : ∀ b ∈ nestedSteps.drop 2, b.isBranch = false ∨ b.node.id ∈ ["between", "inner", "below"] := by
      decide +kernel
    exact fun b hb => afterTurn_of_idle (h b hb)
  have hsteps : nestedSteps = [nestedSteps[0], outerStep, nestedSteps[2], innerStep, nestedSteps[4]] := rfl
  have hbetween := hidle nestedSteps[2] (.head _)
  have hinner := hidle innerStep (.tail _ (.head _))
  have hbelow := hidle nestedSteps[4] (.tail _ (.tail _ (.head _)))
  have htake : nestedSteps.take 3 = [nestedSteps[0], outerStep, nestedSteps[2]] := rfl
  constructor
  · rw [htake]
    simp only [afterTurns, List.foldl_cons, List.foldl_nil, habove, houter, hbetween]
  · rw [hsteps]
    simp only [afterTurns, List.foldl_cons, List.foldl_nil, habove, houter, hbetween, hinner, hbelow]

theorem judged_applyAll_nested :
    ∃ marked evaluated, Judged (unchanging oneCoin) (.create oneCoin) standardSetting nestedView nestedView.compile
        marked evaluated ∧
      (marked.filter (·.skipped)).map (·.node.id) = ["between", "inner", "below"] ∧
      Plan.skippedIndexes marked = [2, 3, 4] ∧ evaluated.map (·.node.id) = ["outer"] := by
  have ha : Program.Steady (·.phase = .judging) (unchanging oneCoin) := fun _ _ _ _ => rfl
  have he : ∀ b ∈ nestedView.compile, b.isBranch = true →
      ∃ o, outcome (unchanging oneCoin) (.create oneCoin) standardSetting b = .ok o := by
    intro b hb hbranch
    have h := outcome_nestedView b hb hbranch
    cases ho : outcome (unchanging oneCoin) (.create oneCoin) standardSetting b with
    | ok o => exact ⟨o, rfl⟩
    | error f => simp [ho, Except.toBool] at h
  obtain ⟨marked, evaluated, h⟩ := judged_applyAll ha (.refl _) he
  have hcompile : nestedView.compile = nestedSteps := compile_nestedView
  have hfresh := GraphView.fresh_of_perm (List.Perm.refl nestedView.compile)
  rw [hcompile] at h he hfresh
  obtain ⟨hturns, hall⟩ := afterTurns_nestedSteps
  have hmarked : marked = Plan.skipNodes ["between", "inner", "below"] nestedSteps := by
    have hvalue := (applyFrom_skipNodes ha hfresh (List.Subset.refl nestedSteps) he [] (.create oneCoin)).1
    rw [Plan.skipNodes_nil] at hvalue
    have heq := h.value.symm.trans hvalue
    rw [← hall]
    exact (Prod.mk.inj heq).2
  have houter : outerStep ∈ evaluated :=
    (h.live [nestedSteps[0]] outerStep (nestedSteps.drop 2) rfl rfl).2 (by decide +kernel)
  have hinner : innerStep ∉ evaluated := by
    rw [h.live (nestedSteps.take 3) innerStep (nestedSteps.drop 4) rfl rfl, marksAfter_eq ha hfresh
      (List.take_subset 3 nestedSteps) fun b hb => he b (List.mem_of_mem_take hb)]
    have hmarks : isSkippedNow (Plan.skipNodes (afterTurns nestedView nestedUnmet [] (nestedSteps.take 3)) nestedSteps)
        innerStep = true := by
      rw [hturns]
      decide +kernel
    exact fun hlive => Bool.false_ne_true (hlive.symm.trans hmarks)
  have hbranches : evaluated.Sublist [outerStep, innerStep] := h.branches
  have hevaluated : evaluated = [outerStep] := by
    cases hbranches with
    | cons _ hrest =>
      have hindex := congrArg Step.index (List.mem_singleton.1 (hrest.subset houter))
      exact absurd hindex (by decide)
    | cons_cons _ hrest =>
      cases hrest with
      | cons _ hnone => rw [List.eq_nil_of_sublist_nil hnone]
      | cons_cons _ _ => exact absurd (.tail _ (.head _)) hinner
  refine ⟨marked, evaluated, hcompile ▸ h, ?_, ?_, ?_⟩
  · rw [hmarked]
    decide +kernel
  · rw [hmarked]
    decide +kernel
  · rw [hevaluated]
    rfl

end Condition

end LedgerFlow
