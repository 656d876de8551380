import LedgerFlow.Proofs.Run.Submission
import Mathlib.Logic.Relation

/-!
Several calls of one runner. A run waits at each of its requests, and other calls may be made before the answer comes;
a step of a session is a call, an answer to a run that waits for it, or the end of such a run from outside.
-/

namespace LedgerFlow

/-- Where the same is asked for at the same place, it is answered alike. -/
def Exchange.Agree (es es' : List Exchange) : Prop :=
  ∀ (n : Nat) (r : Request) (answer answer' : r.Answer), es[n]? = some ⟨r, answer⟩ → es'[n]? = some ⟨r, answer'⟩ →
    answer = answer'

namespace Program

variable {α : Type} {p : Program α} {es es' : List Exchange} {a b : α} {r : Request} {k : r.Answer → Program α}

inductive Leads : Program α → List Exchange → Program α → Prop
  | here (p : Program α) : Leads p [] p
  | request {r : Request} {k : r.Answer → Program α} {es : List Exchange} {rest : Program α} (answer : r.Answer)
      (h : Leads (k answer) es rest) : Leads (.request r k) (⟨r, answer⟩ :: es) rest

theorem Leads.yields (h : Leads p es (.done a)) : p.Yields es a := by
  generalize hrest : Program.done a = rest at h
  induction h with
  | here p => exact hrest ▸ .done a
  | request answer _ ih => exact .request answer (ih hrest)

theorem Leads.answered (h : Leads p es (.request r k)) (answer : r.Answer) :
    Leads p (es ++ [⟨r, answer⟩]) (k answer) := by
  generalize hrest : Program.request r k = rest at h
  induction h with
  | here p => exact hrest ▸ .request answer (.here _)
  | request earlier _ ih => exact .request earlier (ih hrest)

theorem Yields.determined (h : p.Yields es a) (h' : p.Yields es' b) (hagree : Exchange.Agree es es') :
    es = es' ∧ a = b := by
  induction h generalizing es' with
  | done a =>
    obtain ⟨rfl, rfl⟩ := yields_done.1 h'
    exact ⟨rfl, rfl⟩
  | request answer _ ih =>
    obtain ⟨answer', rest, rfl, hk⟩ := yields_request.1 h'
    obtain rfl := hagree 0 _ answer answer' rfl rfl
    obtain ⟨rfl, rfl⟩ := ih hk fun n r x x' hx hx' => hagree (n + 1) r x x' hx hx'
    exact ⟨rfl, rfl⟩

end Program

def Request.lastPublished (qs : List Request) : Option BridgeStatus :=
  qs.foldl (fun last q => match q with
    | .publish status => some status
    | _ => last) none

theorem Request.nonempty_answer (q : Request) : Nonempty q.Answer := by
  cases q with
  | executeRoute => exact ⟨⟨[], none⟩⟩
  | publish => exact ⟨()⟩
  | _ => exact ⟨.error (.raised .runtime "" none)⟩

namespace Runner

structure Pending where
  payload : Payload
  exchanged : List Exchange
  request : Request
  next : request.Answer → Program (Except Fault ExecutionResult)

structure Concluded where
  payload : Payload
  exchanged : List Exchange
  outcome : Except Fault ExecutionResult
  bySelf : Bool
  left : Runner

/-- A runner that is called any number of times. -/
structure Session where
  runner : Runner
  pending : List Pending
  concluded : List Concluded
  refusals : List Fault

namespace Session

variable (services : RunServices) (settings : RunSettings)

def opening (r : Runner) : Session := ⟨r, [], [], []⟩

def advance (s : Session) (r : Runner) (payload : Payload) (exchanged : List Exchange) :
    Program (Except Fault ExecutionResult) → Session
  | .done outcome =>
    let left := r.finish outcome
    { s with runner := left, concluded := s.concluded ++ [⟨payload, exchanged, outcome, true, left⟩] }
  | .request q k => { s with runner := r.noting q, pending := s.pending ++ [⟨payload, exchanged, q, k⟩] }

def call (s : Session) (payload : Payload) : Session :=
  match s.runner.start with
  | .error f => { s with refusals := s.refusals ++ [f] }
  | .ok started => s.advance started payload [] (execute services settings payload).run

def answer (s : Session) (before after : List Pending) (x : Pending) (answer : x.request.Answer) : Session :=
  advance { s with pending := before ++ after } s.runner x.payload (x.exchanged ++ [⟨x.request, answer⟩])
    (x.next answer)

def cut (s : Session) (before after : List Pending) (x : Pending) (f : Fault) : Session :=
  let left := s.runner.finish (.error f : Except Fault ExecutionResult)
  { s with
    runner := left
    pending := before ++ after
    concluded := s.concluded ++ [⟨x.payload, x.exchanged, .error f, false, left⟩] }

inductive Step : Session → Session → Prop
  | call {s : Session} (payload : Payload) : Step s (s.call services settings payload)
  | answer {s : Session} {before after : List Pending} {x : Pending} (h : s.pending = before ++ x :: after)
      (answer : x.request.Answer) : Step s (s.answer before after x answer)
  | cut {s : Session} {before after : List Pending} {x : Pending} (h : s.pending = before ++ x :: after) {f : Fault}
      (hf : ∀ e, f ≠ .engine e) : Step s (s.cut before after x f)

/-- What can come about from one session, in any order of calls and answers. -/
abbrev Reaches : Session → Session → Prop := Relation.ReflTransGen (Step services settings)

end Session

structure Shows (r : Runner) (qs : List Request) : Prop where
  inProgress : r.inProgress = true
  lastError : r.lastError = none
  bridgeStatus : r.bridgeStatus = Request.lastPublished qs

structure Pending.Sound (services : RunServices) (settings : RunSettings) (r : Runner) (x : Pending) : Prop where
  leads : (execute services settings x.payload).run.Leads x.exchanged (.request x.request x.next)
  shows : r.Shows (x.exchanged.map (·.request) ++ [x.request])

structure Concluded.Sound (services : RunServices) (settings : RunSettings) (x : Concluded) : Prop where
  inProgress : x.left.inProgress = false
  lastError : x.left.lastError = errorOf x.outcome
  yields : x.bySelf = true → (execute services settings x.payload).Yields x.exchanged x.outcome
  bridgeStatus : x.bySelf = true → x.left.bridgeStatus = Request.lastPublished (x.exchanged.map (·.request))

namespace Session

/-- Either nothing is in progress and no run waits, or one run waits and is in progress. -/
inductive Guarded (services : RunServices) (settings : RunSettings) (r : Runner) : List Pending → Prop
  | idle (h : r.inProgress = false) : Guarded services settings r []
  | busy {x : Pending} (h : x.Sound services settings r) : Guarded services settings r [x]

structure Sound (services : RunServices) (settings : RunSettings) (s : Session) : Prop where
  guarded : Guarded services settings s.runner s.pending
  concluded : ∀ x ∈ s.concluded, x.Sound services settings

end Session

variable {services : RunServices} {settings : RunSettings} {r : Runner} {qs : List Request} {q : Request}
  {payload : Payload} {es : List Exchange} {s s' : Session}

theorem shows_start {started : Runner} (h : r.start = .ok started) : r.inProgress = false ∧ started.Shows [] := by
  unfold start at h
  split at h
  · cases h
  · next hr =>
    cases h
    exact ⟨by simpa using hr, rfl, rfl, rfl⟩

theorem Shows.noting (h : r.Shows qs) (q : Request) : (r.noting q).Shows (qs ++ [q]) := by
  obtain ⟨hp, he, hb⟩ := h
  cases q with
  | publish status => exact ⟨hp, he, by simp [Runner.noting, publish, Request.lastPublished]⟩
  | _ => exact ⟨hp, he, by simpa [Runner.noting, Request.lastPublished] using hb⟩

namespace Session

theorem Guarded.length_le (h : Guarded services settings r s.pending) : s.pending.length ≤ 1 := by
  generalize s.pending = xs at h
  cases h with
  | idle => exact Nat.zero_le 1
  | busy => exact Nat.le_refl 1

theorem Guarded.inProgress_iff (h : Guarded services settings r s.pending) :
    r.inProgress = true ↔ s.pending ≠ [] := by
  generalize s.pending = xs at h
  cases h with
  | idle h => simp [h]
  | busy h => simp [h.shows.inProgress]

theorem Guarded.sole {before after : List Pending} {x : Pending} (h : Guarded services settings r s.pending)
    (hx : s.pending = before ++ x :: after) : before ++ after = [] ∧ x.Sound services settings r := by
  rw [hx] at h
  generalize hxs : before ++ x :: after = xs at h
  cases h with
  | idle => simp at hxs
  | busy h =>
    obtain ⟨rfl, ⟨⟩⟩ | ⟨rest, rfl, hrest⟩ := List.append_eq_cons_iff.1 hxs
    · exact ⟨rfl, h⟩
    · simp at hrest

theorem sound_advance {p : Program (Except Fault ExecutionResult)} (hs : ∀ x ∈ s.concluded, x.Sound services settings)
    (hnone : s.pending = []) (hr : r.Shows (es.map (·.request)))
    (hl : (execute services settings payload).run.Leads es p) : (s.advance r payload es p).Sound services settings := by
  cases p with
  | done outcome =>
    refine ⟨hnone ▸ .idle rfl, fun x hx => ?_⟩
    obtain hx | hx := List.mem_append.1 hx
    · exact hs x hx
    · cases List.mem_singleton.1 hx
      exact ⟨rfl, rfl, fun _ => hl.yields, fun _ => hr.bridgeStatus⟩
  | request q k =>
    refine ⟨?_, hs⟩
    simp only [advance, hnone]
    exact .busy ⟨hl, hr.noting q⟩

theorem Step.sound (h : Step services settings s s') (hs : s.Sound services settings) : s'.Sound services settings := by
  cases h with
  | call payload =>
    unfold Session.call
    cases hstart : s.runner.start with
    | error f => exact ⟨hs.guarded, hs.concluded⟩
    | ok started =>
      obtain ⟨hidle, hshows⟩ := shows_start hstart
      have hnone : s.pending = [] := by
        by_contra hne
        exact Bool.false_ne_true (hidle.symm.trans (hs.guarded.inProgress_iff.2 hne))
      exact sound_advance hs.concluded hnone hshows (.here _)
  | @answer before after x hx answer =>
    obtain ⟨hnone, hsound⟩ := hs.guarded.sole hx
    refine sound_advance (s := { s with pending := before ++ after }) hs.concluded hnone ?_
      (hsound.leads.answered answer)
    simpa using hsound.shows
  | @cut before after x hx f hf =>
    obtain ⟨hnone, -⟩ := hs.guarded.sole hx
    refine ⟨?_, fun y hy => ?_⟩
    · simp only [Session.cut, hnone]
      exact .idle rfl
    · obtain hy | hy := List.mem_append.1 hy
      · exact hs.concluded y hy
      · cases List.mem_singleton.1 hy
        exact ⟨rfl, rfl, nofun, nofun⟩

theorem sound_of_reaches (hr : r.inProgress = false) (h : Reaches services settings (opening r) s) :
    s.Sound services settings := by
  induction h with
  | refl => exact ⟨.idle hr, fun _ hx => nomatch hx⟩
  | tail _ hstep ih => exact hstep.sound ih

end Session

/-! Runs that are not disturbed -/

variable {σ : Type} {c : Collaborators σ} {st : σ}

theorem start_of_idle (hr : r.inProgress = false) :
    r.start = .ok { r with inProgress := true, lastError := none, bridgeStatus := none } := by
  simp [start, hr]

theorem shows_perform (h : r.Shows qs) (p : Program (Except Fault ExecutionResult)) :
    (perform c p r st).2.1.Shows (qs ++ (p.exchanges (answering c) (r, st)).map (·.request)) := by
  induction p generalizing r qs st with
  | done outcome => simpa [Program.exchanges, perform, Program.run] using h
  | request q k ih =>
    rw [Program.exchanges, List.map_cons, List.append_cons]
    exact ih _ (h.noting q)

theorem sound_run (services : RunServices) (settings : RunSettings) (payload : Payload) (hr : r.inProgress = false)
    (c : Collaborators σ) (st : σ) :
    (⟨payload, r.exchanges services settings payload c st, (r.run services settings payload c st).1, true,
      (r.run services settings payload c st).2.1⟩ : Concluded).Sound services settings := by
  have hshows := (shows_start (start_of_idle hr)).2
  unfold exchanges run
  rw [start_of_idle hr]
  exact ⟨rfl, rfl, fun _ => Program.yields_run _ _ _, fun _ => (shows_perform hshows _).bridgeStatus⟩

theorem reaches_perform (r₀ : Runner) (before : List Concluded) (refusals : List Fault)
    (p : Program (Except Fault ExecutionResult)) :
    Session.Reaches services settings (Session.advance ⟨r₀, [], before, refusals⟩ r payload es p)
      (let left := (perform c p r st).2.1.finish (perform c p r st).1
       ⟨left, [], before ++ [⟨payload, es ++ p.exchanges (answering c) (r, st), (perform c p r st).1, true, left⟩],
         refusals⟩) := by
  induction p generalizing r r₀ es st with
  | done outcome =>
    simp only [Program.exchanges, List.append_nil]
    exact .refl
  | request q k ih =>
    have hpending : [(⟨payload, es, q, k⟩ : Pending)] = [] ++ [⟨payload, es, q, k⟩] := rfl
    rw [Program.exchanges, List.append_cons]
    refine .head (.answer hpending (c q (r.noting q) st).1) ?_
    exact ih _ (r.noting q)

/-- A run that nothing disturbs is a session of its own. -/
theorem reaches_run (hr : r.inProgress = false) (c : Collaborators σ) (st : σ) :
    Session.Reaches services settings (.opening r) ⟨(r.run services settings payload c st).2.1, [],
      [⟨payload, r.exchanges services settings payload c st, (r.run services settings payload c st).1, true,
        (r.run services settings payload c st).2.1⟩], []⟩ := by
  have hcall : Session.Step services settings (.opening r) _ := .call payload
  rw [Session.call, Session.opening, start_of_idle hr] at hcall
  rw [exchanges, run, start_of_idle hr]
  exact .head hcall (reaches_perform r [] [] _)

/-! Runs on a runner that has done nothing yet -/

open Classical in
/-- Collaborators that give the answers which they were told to give, in order. -/
noncomputable def recital : Collaborators (List Exchange) := fun q _ es =>
  match es with
  | [] => (Classical.choice q.nonempty_answer, [])
  | ⟨q', answer⟩ :: rest => (if h : q' = q then h ▸ answer else Classical.choice q.nonempty_answer, rest)

theorem exchanges_recital {α : Type} {p : Program α} {a : α} (h : p.Yields es a) :
    p.exchanges (answering recital) (r, es) = es := by
  induction h generalizing r with
  | done a => rfl
  | request answer _ ih => simp [Program.exchanges, answering, recital, ih]

/-- Whatever collaborators there are, as long as they answer alike, the run asks for the same and comes to the same on
a new runner, which then shows the same. -/
structure Concluded.AsNew (services : RunServices) (settings : RunSettings) (x : Concluded) : Prop where
  exists_collaborators : ∃ (σ : Type) (c : Collaborators σ) (st : σ),
    new.exchanges services settings x.payload c st = x.exchanged
  same : ∀ {σ : Type} (c : Collaborators σ) (st : σ),
    Exchange.Agree x.exchanged (new.exchanges services settings x.payload c st) →
      new.exchanges services settings x.payload c st = x.exchanged ∧
        (new.run services settings x.payload c st).1 = x.outcome ∧
        (new.run services settings x.payload c st).2.1.lastError = x.left.lastError ∧
        (new.run services settings x.payload c st).2.1.bridgeStatus = x.left.bridgeStatus

theorem Concluded.Sound.asNew {x : Concluded} (h : x.Sound services settings) (hself : x.bySelf = true) :
    x.AsNew services settings where
  exists_collaborators := by
    refine ⟨_, recital, x.exchanged, ?_⟩
    rw [exchanges, start_of_idle (rfl : new.inProgress = false)]
    exact exchanges_recital (h.yields hself)
  same := by
    intro σ c st hagree
    have hnew := sound_run services settings x.payload (rfl : new.inProgress = false) c st
    obtain ⟨hes, hout⟩ := (h.yields hself).determined (hnew.yields rfl) hagree
    refine ⟨hes.symm, hout.symm, ?_, ?_⟩
    · rw [h.lastError, hout]
      exact hnew.lastError
    · rw [h.bridgeStatus hself, hes]
      exact hnew.bridgeStatus rfl

/-- Whatever was called and answered in whatever order: one run at most is past the guard; a call meanwhile is refused
and changes nothing; a run leaves the runner idle however it ends, and one that ends by itself ends as on a new
runner. -/
theorem Session.isolated (hr : r.inProgress = false) (h : Session.Reaches services settings (.opening r) s) :
    s.pending.length ≤ 1 ∧ (s.runner.inProgress = true ↔ s.pending ≠ []) ∧
      (s.runner.inProgress = true → ∀ payload,
        s.call services settings payload = { s with refusals := s.refusals ++ [Runner.busy] }) ∧
      ∀ x ∈ s.concluded, x.left.inProgress = false ∧ (x.bySelf = true → x.AsNew services settings) := by
  have hs := Session.sound_of_reaches hr h
  refine ⟨hs.guarded.length_le, hs.guarded.inProgress_iff, fun hbusy payload => ?_, fun x hx => ?_⟩
  · have hstart : s.runner.start = .error Runner.busy := by simp [start, hbusy]
    rw [Session.call, hstart]
  · exact ⟨(hs.concluded x hx).inProgress, (hs.concluded x hx).asNew⟩

/-! A call that fails at once, one that waits, and one that is refused -/

def busySession : Session :=
  let call := Session.call mainServices Settings.standard.runSettings
  call (call (call (.opening new) (.value (.array []))) (.graph longBridge)) (.graph longBridge)

theorem reaches_busySession :
    Session.Reaches mainServices Settings.standard.runSettings (.opening new) busySession :=
  .tail (.tail (.tail .refl (.call _)) (.call _)) (.call _)

theorem lengths_busySession :
    busySession.concluded.length = 1 ∧ busySession.pending.length = 1 ∧ busySession.refusals.length = 1 := by
  simp only [busySession, Session.call, execute, plan_longBridge]
  decide +kernel

theorem isolated_busySession :
    new.inProgress = false ∧ busySession.refusals.length = 1 ∧ busySession.pending.length ≤ 1 ∧
      busySession.runner.inProgress = true ∧ ∃ x ∈ busySession.concluded, x.left.inProgress = false := by
  obtain ⟨hone, hpending, hrefused⟩ := lengths_busySession
  obtain ⟨hle, hbusy, -, hconcluded⟩ := Session.isolated rfl reaches_busySession
  obtain ⟨x, hx⟩ := List.length_eq_one_iff.1 hone
  refine ⟨rfl, hrefused, hle, hbusy.2 ?_, x, ?_, (hconcluded x ?_).1⟩
  · exact List.ne_nil_of_length_eq_add_one hpending
  · simp [hx]
  · simp [hx]

end Runner

end LedgerFlow
