import LedgerFlow.Rehearsal.Script
import LedgerFlow.Runner

/-!
Running flows against a script: the collaborators answer as the script says, and everything that they are
asked or told is recorded.
-/

namespace LedgerFlow

inductive Event
  | asked (q : Request)
  | heard (listener : Option String) (status : BridgeStatus)
  | refused (why : Fault) (inProgress : Bool)

structure Rehearsal where
  script : Script
  audience : List (Nat × String)
  silent : Bool
  events : List Event

namespace Rehearsal

def create (script : Script) : Rehearsal := ⟨script, [], false, []⟩

def record (s : Rehearsal) (e : Event) : Rehearsal := { s with events := s.events ++ [e] }

def takeEvents (s : Rehearsal) : List Event × Rehearsal := (s.events, { s with events := [] })

def orFail {α : Type} (failure : Option Fault) (a : α) : Except Fault α :=
  match failure with
  | some f => .error f
  | none => .ok a

def nextOffer (s : Rehearsal) : Except Fault (List Route) × Rehearsal :=
  match s.script.routes.offers with
  | [] => (.ok [], s)
  | offer :: rest => (offer, { s with script.routes.offers := rest })

def noExecution : RouteExecution := ⟨[], some (.raised .runtime "no scripted execution" none)⟩

def nextExecution (s : Rehearsal) : RouteExecution × Rehearsal :=
  match s.script.routes.executions with
  | [] => (noExecution, s)
  | execution :: rest => (execution, { s with script.routes.executions := rest })

def quote (s : SwapScript) (amount : Int) : Option SwapQuote :=
  if s.available then some ⟨amount, s.amountOut, 2⟩ else none

def swapOutput (q : SwapQuote) (input : Handle) (slippage : Number) (tx : Transaction) : SwapOutput :=
  ⟨[.moveCall "0xaggregator::router::swap"
      [input, .pure (.int q.amountOut) (some "u64"), .pure slippage.toJson (some "f64")] []],
    .result tx.size⟩

def predicate (s noted : Rehearsal) (missing : String) (value : PredicateScript → Json) :
    Except Fault Json × Rehearsal :=
  match s.script.predicates with
  | some c => (orFail c.failure (value c), noted)
  | none => (.error (.noAttribute "NoneType" missing), s)

/-- Answers a request; building a swap leaves no record of its own. -/
def answer (q : Request) (s : Rehearsal) : q.Answer × Rehearsal :=
  let c := s.script
  let noted := s.record (.asked q)
  match q with
  | .resolveName name =>
    (orFail (c.names.failures.lookup name) (c.names.addresses.lookup name), noted)
  | .predicateBalance owner coinType =>
    s.predicate noted "get_balance" fun c => (c.balances.lookup s!"{owner}|{coinType}").getD (.int 0)
  | .contractQuery target _ =>
    s.predicate noted "query_contract" fun c => (c.values.lookup target).getD (.array [])
  | .balance _ coinType =>
    (orFail c.ledger.balanceFailure ((c.ledger.balances.lookup coinType).getD 0), noted)
  | .coins _ coinType =>
    (orFail c.ledger.coinsFailure ((c.ledger.coins.lookup coinType).getD []), noted)
  | .ownedObjects _ structType =>
    (orFail c.ledger.ownedFailure ((c.ledger.owned.lookup structType).getD []), noted)
  | .activeValidators => (orFail c.ledger.validatorsFailure c.ledger.validators, noted)
  | .swapRoute _ _ amount => (orFail c.swap.findFailure (quote c.swap amount), noted)
  | .swapBuild q input slippage tx => (orFail c.swap.buildFailure (swapOutput q input slippage tx), s)
  | .submit _ => (orFail c.signer.failure c.signer.digest, noted)
  | .routes _ => noted.nextOffer
  | .executeRoute _ => noted.nextExecution
  | .publish status => ((), if s.silent then s else s.record (.heard none status))

def announce (r : Runner) (status : BridgeStatus) (s : Rehearsal) : Rehearsal :=
  (r.listeners.filterMap fun n => s.audience.lookup n).foldl
    (fun s name => s.record (.heard (some name) status)) s

def startAnother (r : Runner) (s : Rehearsal) : Rehearsal :=
  match s.script.signer.startsAnother, r.start with
  | true, .error why => s.record (.refused why r.inProgress)
  | _, _ => s

def collaborators : Runner.Collaborators Rehearsal := fun q r s =>
  match q with
  | .publish status => ((), s.announce r status)
  | .submit tx =>
    let (result, s) := s.answer (.submit tx)
    (result, s.startAnother r)
  | q => s.answer q

def perform {α : Type} (p : Program α) (s : Rehearsal) : α × Rehearsal := p.run answer s

end Rehearsal

end LedgerFlow
