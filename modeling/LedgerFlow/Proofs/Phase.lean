import LedgerFlow.Proofs.Exchange

/-!
The phases of a run, told by what the collaborators are asked for. Where a computation that asks only for what belongs
to earlier phases is followed by one that asks only for what belongs to a phase or to later ones, the exchanges fall
into two parts: the second is there only if the first computation succeeded.
-/

namespace LedgerFlow

/-- The parts of a run that ask the collaborators, in their order. -/
inductive Phase
  | naming
  | judging
  | building
  | submitting
  | bridging
deriving DecidableEq, Repr

def Phase.rank : Phase → Nat
  | .naming => 0
  | .judging => 1
  | .building => 2
  | .submitting => 3
  | .bridging => 4

def Request.phase : Request → Phase
  | .resolveName _ => .naming
  | .predicateBalance .. => .judging
  | .contractQuery .. => .judging
  | .submit _ => .submitting
  | .routes _ => .bridging
  | .executeRoute _ => .bridging
  | .publish _ => .bridging
  | _ => .building

def Request.isInquiry : Request → Bool
  | .submit _ => false
  | .routes _ => false
  | .executeRoute _ => false
  | .publish _ => false
  | _ => true

theorem Request.isInquiry_of_rank {q : Request} (h : q.phase.rank < Phase.submitting.rank) : q.isInquiry = true := by
  cases q <;> first | rfl | simp [phase, Phase.rank] at h

namespace Phase

variable {phase : Phase} {es : List Exchange}

def earlier (phase : Phase) (es : List Exchange) : List Exchange :=
  es.filter fun e => decide (e.request.phase.rank < phase.rank)

def onward (phase : Phase) (es : List Exchange) : List Exchange :=
  es.filter fun e => decide (phase.rank ≤ e.request.phase.rank)

def InOrder (es : List Exchange) : Prop := es.Pairwise fun a b => a.request.phase.rank ≤ b.request.phase.rank

theorem earlier_append {es₁ es₂ : List Exchange} (h₁ : ∀ e ∈ es₁, e.request.phase.rank < phase.rank)
    (h₂ : ∀ e ∈ es₂, phase.rank ≤ e.request.phase.rank) :
    phase.earlier (es₁ ++ es₂) = es₁ ∧ phase.onward (es₁ ++ es₂) = es₂ := by
  have h₁' : ∀ e ∈ es₁, ¬phase.rank ≤ e.request.phase.rank := fun e he => Nat.not_le.2 (h₁ e he)
  have h₂' : ∀ e ∈ es₂, ¬e.request.phase.rank < phase.rank := fun e he => Nat.not_lt.2 (h₂ e he)
  constructor
  · rw [earlier, List.filter_append, List.filter_eq_self.2 (by simpa using h₁),
      List.filter_eq_nil_iff.2 (by simpa using h₂'), List.append_nil]
  · rw [onward, List.filter_append, List.filter_eq_nil_iff.2 (by simpa using h₁'),
      List.filter_eq_self.2 (by simpa using h₂), List.nil_append]

theorem inOrder_of_split (h : ∀ phase, es = earlier phase es ++ onward phase es) : InOrder es := by
  rw [InOrder, List.pairwise_iff_forall_sublist]
  intro a b hab
  rw [h a.request.phase, List.sublist_append_iff] at hab
  obtain ⟨first, second, hsplit, hfirst, hsecond⟩ := hab
  cases first with
  | nil =>
    obtain rfl : [a, b] = second := hsplit
    have hb : b ∈ onward a.request.phase es := hsecond.subset (by simp)
    simpa [onward] using (List.mem_filter.1 hb).2
  | cons x rest =>
    obtain ⟨rfl, -⟩ := List.cons_eq_cons.1 hsplit
    have ha : a ∈ earlier a.request.phase es := hfirst.subset List.mem_cons_self
    simp [earlier] at ha

end Phase

namespace Engine

variable {α β : Type} {phase : Phase}

abbrev Inquires (p : Engine α) : Prop := p.Asks fun q => q.isInquiry = true

abbrev Within (phase : Phase) (p : Engine α) : Prop := p.Asks fun q => q.phase = phase

abbrev Until (phase : Phase) (p : Engine α) : Prop := p.Asks fun q => q.phase.rank < phase.rank

abbrev Since (phase : Phase) (p : Engine α) : Prop := p.Asks fun q => phase.rank ≤ q.phase.rank

theorem within_ask {r : Request} {h : r.Answer = Except Fault α} (hr : r.phase = phase) : (ask r h).Within phase :=
  asks_ask.2 hr

section

variable {p : Engine α} {f : α → Engine β} {other : Phase}

theorem Within.until (hp : p.Within phase) (h : phase.rank < other.rank) : p.Until other :=
  Asks.imp hp fun _ hq => hq ▸ h

theorem Within.since (hp : p.Within phase) (h : other.rank ≤ phase.rank) : p.Since other :=
  Asks.imp hp fun _ hq => hq ▸ h

theorem Until.mono (hp : p.Until phase) (h : phase.rank ≤ other.rank) : p.Until other :=
  Asks.imp hp fun _ hq => Nat.lt_of_lt_of_le hq h

theorem Since.mono (hp : p.Since phase) (h : other.rank ≤ phase.rank) : p.Since other :=
  Asks.imp hp fun _ hq => Nat.le_trans h hq

theorem Until.inquires (hp : p.Until .submitting) : p.Inquires :=
  Asks.imp hp fun _ hq => Request.isInquiry_of_rank hq

/-- A phase begins only after the computation before it succeeded, which had just the earlier exchanges. -/
theorem yields_bind_phase {es : List Exchange} {r : Except Fault β} (hp : p.Until phase) (hf : ∀ a, (f a).Since phase)
    (h : (p >>= f).Yields es r) :
    es = phase.earlier es ++ phase.onward es ∧
      ((∃ a, p.Yields (phase.earlier es) (.ok a) ∧ (f a).Yields (phase.onward es) r) ∨
        ∃ e, r = .error e ∧ p.Yields (phase.earlier es) (.error e) ∧ phase.onward es = []) := by
  obtain ⟨es₁, es₂, a, rfl, hp₁, hf₂⟩ | ⟨e, rfl, hp₁⟩ := yields_bind.1 h
  · obtain ⟨he, ho⟩ := Phase.earlier_append (Asks.of_yields hp hp₁) (Asks.of_yields (hf a) hf₂)
    rw [he, ho]
    exact ⟨rfl, .inl ⟨a, hp₁, hf₂⟩⟩
  · have hparts : phase.earlier (es ++ []) = es ∧ phase.onward (es ++ []) = [] :=
      Phase.earlier_append (Asks.of_yields hp hp₁) (by simp)
    rw [List.append_nil] at hparts
    rw [hparts.1, hparts.2, List.append_nil]
    exact ⟨rfl, .inr ⟨e, rfl, hp₁, rfl⟩⟩

end

end Engine

end LedgerFlow
