import LedgerFlow.Run

namespace LedgerFlow

/-- `listeners` are numbered in the order in which they came; a number is never used again. -/
structure Runner where
  inProgress : Bool
  lastError : Option String
  bridgeStatus : Option BridgeStatus
  listeners : List Nat
  nextListener : Nat
deriving DecidableEq, Repr

namespace Runner

def new : Runner := ⟨false, none, none, [], 0⟩

def subscribe (r : Runner) : Nat × Runner :=
  (r.nextListener,
    { r with listeners := r.listeners ++ [r.nextListener], nextListener := r.nextListener + 1 })

def unsubscribe (r : Runner) (listener : Nat) : Runner :=
  { r with listeners := r.listeners.erase listener }

def busy : Fault := .engine (.plain .runInProgress .alreadyExecuting)

def start (r : Runner) : Except Fault Runner :=
  if r.inProgress then .error busy
  else .ok { r with inProgress := true, lastError := none, bridgeStatus := none }

def publish (r : Runner) (status : BridgeStatus) : Runner :=
  { r with bridgeStatus := some status }

def errorOf {α : Type} : Except Fault α → Option String
  | .error (.engine e) => (Fault.engine e).userMessage
  | _ => none

def finish {α : Type} (r : Runner) (outcome : Except Fault α) : Runner :=
  { r with inProgress := false, lastError := errorOf outcome }

/-- Collaborators see the runner as it is when they are asked. -/
abbrev Collaborators (σ : Type) := (q : Request) → Runner → σ → q.Answer × σ

def noting (r : Runner) : Request → Runner
  | .publish status => r.publish status
  | _ => r

def answering {σ : Type} (c : Collaborators σ) (q : Request) (s : Runner × σ) : q.Answer × (Runner × σ) :=
  let r := s.1.noting q
  let (answer, rest) := c q r s.2
  (answer, (r, rest))

def perform {α σ : Type} (c : Collaborators σ) (p : Program α) (r : Runner) (s : σ) : α × (Runner × σ) :=
  p.run (answering c) (r, s)

def run {σ : Type} (r : Runner) (services : RunServices) (settings : RunSettings) (p : Payload)
    (c : Collaborators σ) (s : σ) : Except Fault ExecutionResult × (Runner × σ) :=
  match r.start with
  | .error f => (.error f, (r, s))
  | .ok started =>
    let (outcome, (ended, rest)) := perform c (execute services settings p).run started s
    (outcome, (ended.finish outcome, rest))

end Runner

end LedgerFlow
