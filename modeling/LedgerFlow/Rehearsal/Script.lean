import LedgerFlow.Json.Access
import LedgerFlow.Program

namespace LedgerFlow

structure LedgerScript where
  balances : List (String × Int)
  coins : List (String × List CoinRecord)
  owned : List (String × List String)
  validators : List String
  balanceFailure : Option Fault
  coinsFailure : Option Fault
  ownedFailure : Option Fault
  validatorsFailure : Option Fault

structure PredicateScript where
  balances : List (String × Json)
  values : List (String × Json)
  failure : Option Fault

structure NameScript where
  addresses : List (String × String)
  failures : List (String × Fault)

structure SwapScript where
  available : Bool
  amountOut : Int
  findFailure : Option Fault
  buildFailure : Option Fault

structure RouteScript where
  offers : List (Except Fault (List Route))
  executions : List RouteExecution

structure SignerScript where
  digest : String
  failure : Option Fault
  startsAnother : Bool

structure Script where
  ledger : LedgerScript
  predicates : Option PredicateScript
  names : NameScript
  swap : SwapScript
  routes : RouteScript
  signer : SignerScript

namespace Script

def failureKind? : String → Option ErrorKind
  | "SequenceEngineError" => some .engine
  | "ValidationPhaseError" => some .validation
  | "PredicateError" => some .predicate
  | "ResourceError" => some (.resource "" (some 0))
  | "ExecutionError" => some .execution
  | "SubmissionError" => some .submission
  | "UserRejectedError" => some .userRejected
  | "BridgeError" => some .bridge
  | "RouteSimulationError" => some .routeSimulation
  | "RunInProgressError" => some .runInProgress
  | _ => none

def failureClass : String → FaultClass
  | "ValueError" => .value
  | "ConnectionError" => .connection
  | _ => .runtime

def memberOf (ms : List (String × Json)) (key : String) : Json := (ms.lookup key).getD .null

def failureOf (ms : List (String × Json)) (cause : Option String) : Fault :=
  let kind := (memberOf ms "kind").text?.getD "RuntimeError"
  let message := (memberOf ms "message").text
  match failureKind? kind with
  | some k => .engine ⟨k, .given message, (memberOf ms "step_index").int?, cause⟩
  | none => .raised (failureClass kind) message cause

mutual

def failure : Json → Fault
  | .object ms => failureOf ms (causeOf ms)
  | _ => failureOf [] none

def causeOf : List (String × Json) → Option String
  | [] => none
  | (k, v) :: rest =>
    if k == "cause" then
      match v with
      | .null => none
      | v => some (failure v).text
    else causeOf rest

end

def failure? (v : Json) : Option Fault := if v.isNull then none else some (failure v)

def coin (v : Json) : CoinRecord := ⟨(v.element 0).text, (v.element 1).toInt⟩

def ledgerOf (v : Json) : LedgerScript :=
  let errors := v.field "errors"
  { balances := (v.field "balances").toMembers.map fun (k, v) => (k, v.toInt)
    coins := (v.field "coins").toMembers.map fun (k, v) => (k, v.toList.map coin)
    owned := (v.field "owned").toMembers.map fun (k, v) => (k, v.texts)
    validators := (v.field "validators").texts
    balanceFailure := failure? (errors.field "get_balance")
    coinsFailure := failure? (errors.field "get_coins")
    ownedFailure := failure? (errors.field "get_owned_objects")
    validatorsFailure := failure? (errors.field "get_active_validators") }

def predicatesOf (v : Json) : Option PredicateScript :=
  if v.isNull then none
  else some ⟨(v.field "balances").toMembers, (v.field "contract_values").toMembers, failure? (v.field "error")⟩

def namesOf (v : Json) : NameScript :=
  ⟨(v.field "map").toMembers.filterMap fun (k, v) => v.text?.map fun s => (k, s),
    (v.field "errors").toMembers.map fun (k, v) => (k, failure v)⟩

def swapOf (v : Json) : SwapScript :=
  ⟨(v.field "available").isNull || (v.field "available").isTruthy,
    (v.field "amount_out").int?.getD 1000000, failure? (v.field "find_error"), failure? (v.field "build_error")⟩

def offerOf (wording : Schema.Wording) : Json → Except Fault (List Route)
  | .array rs => rs.mapM fun r => (Route.decode r).orFault wording "Route" r
  | v => .error (failure (v.field "error"))

def updateOf (v : Json) : RouteUpdate := ⟨(v.field "processes").toList, (v.field "tool").text?⟩

def executionOf (v : Json) : RouteExecution :=
  ⟨(v.field "updates").toList.map updateOf, failure? (v.field "error")⟩

def routesOf (wording : Schema.Wording) (v : Json) : RouteScript :=
  ⟨(v.field "routes").toList.map (offerOf wording), (v.field "executions").toList.map executionOf⟩

def signerOf (v : Json) : SignerScript :=
  ⟨(v.field "digest").text?.getD "DIGEST", failure? (v.field "error"), (v.get? "reenter").isSome⟩

def ofJson (wording : Schema.Wording) (v : Json) : Script where
  ledger := ledgerOf (v.field "ledger")
  predicates := predicatesOf (v.field "predicates")
  names := namesOf (v.field "names")
  swap := swapOf (v.field "swap")
  routes := routesOf wording (v.field "routes")
  signer := signerOf (v.field "signer")

end Script

end LedgerFlow
