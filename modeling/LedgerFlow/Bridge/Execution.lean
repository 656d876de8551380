import LedgerFlow.Amount
import LedgerFlow.Bridge.Retry
import LedgerFlow.Chain
import LedgerFlow.Names
import LedgerFlow.Program

/-!
Carrying bridges out, one after the other. Every change of a bridge's status is published. A route that
fails before the source chain has a transaction may be tried again by another provider; once there is a
transaction, the bridge is never tried again.
-/

namespace LedgerFlow

namespace Bridge

structure Setting where
  signer : String
  names : NameTable
  maxAttempts : Int
  trackingBase : String
  wording : Schema.Wording

def defaultAttempts : Int := 3

def defaultTrackingBase : String := "https://scan.li.fi/tx/"

/-- Nothing stated, or nothing at all, stands for the default. -/
def Setting.create (signer : String) (names : NameTable) (maxAttempts : Option Int)
    (trackingBase : Option String) (wording : Schema.Wording) : Setting :=
  ⟨signer, names, (maxAttempts.filter (· ≠ 0)).getD defaultAttempts,
    (trackingBase.filter (· ≠ "")).getD defaultTrackingBase, wording⟩

def stated (field : Option String) (change : String) : Except Fault String :=
  match field with
  | some s => .ok s
  | none => .error (.noAttribute "NoneType" change)

def shownField (field : Option String) : String := field.getD "None"

def noParameters (s : Step) (d : BridgeData) : Fault :=
  s.error .bridge (.noRouteParameters (shownField d.asset) (shownField d.outputAsset) (shownField d.chain))

structure Ends where
  chain : Int
  source : String
  target : String
deriving DecidableEq, Repr

def ends? (asset : String) (output : Option String) (chainId : Option Int) : Except Fault (Option Ends) := do
  match chainId with
  | none => return none
  | some id =>
    let output ← stated output "upper"
    return do return ⟨id, ← Chain.sourceToken? asset, ← Chain.destinationToken? output id⟩

def unitsSent (d : BridgeData) (asset : String) : Except Fault Int := do
  Amount.toUnits (Chain.sourceDecimals asset) (← Amount.given d.amount)

/-- A request with nowhere to go does not fit its schema. -/
def unaddressed (c : Setting) (ends : Ends) (amount : String) : Fault :=
  let issues := [⟨[.name "to_address"], .stringType⟩]
  .schema issues <| c.wording "RouteRequest" (.object [
    ("from_chain_id", .int Chain.sourceChainId),
    ("to_chain_id", .int ends.chain),
    ("from_token_address", .string ends.source),
    ("to_token_address", .string ends.target),
    ("from_amount", .string amount),
    ("from_address", .string c.signer),
    ("to_address", .null)]) issues

def routeRequest (c : Setting) (s : Step) (d : BridgeData) : Except Fault RouteRequest := do
  let chain ← stated d.chain "lower"
  let asset ← stated d.asset "upper"
  match ← ends? asset d.outputAsset (Chain.destinationId? chain) with
  | none => throw (noParameters s d)
  | some ends =>
    let amount ← unitsSent d asset
    let amountText ← Amount.textOf amount
    match d.ethereumAddress.map c.names.lookup with
    | none => throw (unaddressed c ends amountText)
    | some destination =>
      return ⟨Chain.sourceChainId, ends.chain, ends.source, ends.target, amountText, c.signer, destination, [],
        RouteRequest.recommended⟩

def requestRoute (request : RouteRequest) : Program (Except String Route) := do
  match ← (Engine.routes request).run with
  | .error f => return .error s!"Route request failed: {f.text}"
  | .ok [] =>
    return .error (if request.denyBridges.isEmpty then "No bridge routes found"
      else "No alternative routes available")
  | .ok (route :: _) => return .ok route

structure Progress where
  status : BridgeStatus
  sourceHash : Option String
deriving DecidableEq, Repr

def decodeProcess (wording : Schema.Wording) (v : Json) : Except Fault BridgeProcess :=
  (BridgeProcess.decode v).orFault wording "BridgeProcess" v

def Progress.report (wording : Schema.Wording) (p : Progress) (u : RouteUpdate) : Except Fault Progress := do
  let parts ← u.processes.mapM (decodeProcess wording)
  let tool := (u.tool.filter fun t => !t.isEmpty).or p.status.tool
  return {
    status := { p.status with phase := derivePhase parts, processes := parts, tool := tool }
    sourceHash := p.sourceHash.or (parts.findSome? BridgeProcess.hash?) }

def publish (status : BridgeStatus) : Program Unit := do
  let _ ← (Engine.publish status).run

/-- Publishes what each report says. A report that is not well formed ends the attempt. -/
def follow (wording : Schema.Wording) (p : Progress) : List RouteUpdate → Program (Progress × Option Fault)
  | [] => .done (p, none)
  | u :: rest =>
    match p.report wording u with
    | .error f => .done (p, some f)
    | .ok next => (publish next.status).bind fun _ => follow wording next rest

def attempt (wording : Schema.Wording) (status : BridgeStatus) (route : Route) : Program (Progress × Option Fault) := do
  let start : Progress := ⟨{ status with tool := some route.tool }, none⟩
  publish start.status
  match ← (Engine.executeRoute route).run with
  | .error f => return (start, some f)
  | .ok execution =>
    let (reached, bad) ← follow wording start execution.updates
    return (reached, bad.or execution.failure)

def result (s : Step) (status : BridgeStatus) (hash : Option String) (r : RetryState) : BridgeResult :=
  ⟨s.index, s.node.id, status, hash, r.attempt, r.routeRequests⟩

def finish (s : Step) (status : BridgeStatus) (hash : Option String) (r : RetryState) : Engine BridgeResult := do
  Engine.publish status
  return result s status hash r

def failedWith (status : BridgeStatus) (error : String) : BridgeStatus :=
  { status with phase := .failed, error := some error }

def complete (c : Setting) (s : Step) (p : Progress) (r : RetryState) : Engine BridgeResult :=
  if p.status.phase = .failed then
    finish s (failedWith p.status "Bridge execution failed") p.sourceHash r
  else match p.sourceHash with
    | none => finish s { p.status with phase := .done } none r
    | some hash =>
      finish s { p.status with phase := .done, trackingUrl := some (c.trackingBase ++ hash) } (some hash) r

def decline (s : Step) (p : Progress) (f : Fault) : Engine BridgeResult := do
  Engine.publish { p.status with phase := .failed }
  throw (s.error .userRejected (.rejected f.text))

inductive Ending
  | declined
  | underWay (hash : String)
  | failed
  | retry

def Ending.of (p : Progress) (f : Fault) : Ending :=
  if f.isUserRejection then .declined
  else match p.sourceHash with
    | some hash => .underWay hash
    | none => if f.isRetryable then .retry else .failed

def exhausted (r : RetryState) (f : Fault) : String :=
  s!"Bridge failed after {r.attempt} attempts: {f.text}"

def tryRoutes (c : Setting) (s : Step) (request : RouteRequest) (status : BridgeStatus) (r : RetryState) (left : Nat) :
    Engine BridgeResult := do
  let r := r.requested
  match ← ExceptT.lift (requestRoute { request with denyBridges := r.denied }) with
  | .error why => finish s (failedWith status why) none r
  | .ok route =>
    match ← ExceptT.lift (attempt c.wording status route) with
    | (p, none) => complete c s p r
    | (p, some f) =>
      match Ending.of p f with
      | .declined => decline s p f
      | .underWay hash =>
        finish s { p.status with phase := .bridging, trackingUrl := some (c.trackingBase ++ hash) } (some hash) r
      | .failed => finish s (failedWith p.status f.text) none r
      | .retry =>
        match left with
        | 0 => finish s (failedWith p.status (exhausted r f)) none r
        | left + 1 => tryRoutes c s request status (r.afterFailure route.tool) left

def initialStatus (d : BridgeData) : BridgeStatus :=
  ⟨.signing, [], none, d.asset, d.outputAsset, some "sui", d.chain, none, none⟩

def executeStep (c : Setting) (s : Step) (d : BridgeData) : Engine BridgeResult := do
  let request ← Engine.ofExcept (routeRequest c s d)
  Engine.publish (initialStatus d)
  tryRoutes c s request (initialStatus d) .first (c.maxAttempts - 1).toNat

end Bridge

/-- Carries out the bridges among the steps in order. One that fails does not keep the next from running. -/
def runBridges (c : Bridge.Setting) : List Step → Engine (List BridgeResult)
  | [] => pure []
  | s :: rest =>
    match s.node.data with
    | .bridge d => do
      let result ← Bridge.executeStep c s d
      return result :: (← runBridges c rest)
    | _ => runBridges c rest

end LedgerFlow
