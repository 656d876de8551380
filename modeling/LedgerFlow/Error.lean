import LedgerFlow.Json.Parser
import LedgerFlow.Decimal.Arith
import LedgerFlow.Schema.Checked

/-!
What can go wrong. An engine error has a kind, a reason and often the step it is about; every other
failure is a fault raised by a collaborator or by a conversion. The words for a user are all here.
-/

namespace LedgerFlow

/-- Steps are counted from one where people read them. -/
def stepLabel (index : Int) : String :=
  s!"Step {index + 1}"

inductive Reason
  | malformedText (e : Json.SyntaxError)
  | unsupportedPayload (kindName : String)
  | badSchema (issues : List Schema.Issue) (text : String)
  | noTransactions
  | alreadyExecuting
  | noRouteService
  | submissionFailed (text : String)
  | rejected (text : String)
  | noResolver (name : String)
  | resolutionFailed (name text : String)
  | unresolvedName (name : String)
  | recipientRequired
  | notPositive (amount : String)
  | unsupportedAsset (symbol : String)
  | swapAssetsRequired
  | swapToItself (symbol : String)
  | unsupportedLendingProtocol (protocol : String)
  | unsupportedLendingAction (action : String)
  | repayUnsupported
  | unsupportedStakingProtocol (protocol : String)
  | belowMinimumStake
  | validatorRequired
  | bridgeSourceRequired
  | bridgeDestinationRequired
  | bridgeChainRequired
  | destinationRequired
  | badDestination
  | unresolvedDestination (name : String)
  | unsupportedChain (chain : String)
  | notBridgeable (asset : String)
  | notAvailableOn (asset chain : String)
  | callTargetRequired
  | malformedArguments (what : String)
  | incompleteCondition (missing : List String)
  | noPredicateFetcher
  | uncomparableAsset (symbol : String)
  | balanceUnavailable (symbol address text : String)
  | queryFailed (target text : String)
  | queryEmpty (target : String)
  | queryUnreadable (target text : String)
  | noCoins (symbol : String)
  | insufficientBalance (symbol : String) (needed available : Decimal)
  | noShares (symbol : String)
  | insufficientShares (symbol : String) (needed : Decimal)
  | belowSmallestUnit (what : String) (amount : Decimal) (symbol : String)
  | noSwapRouter
  | noSwapRoute (source target : String)
  | noValidators
  | poolUnavailable (symbol : String)
  | noObligation (action : String)
  | noObligationKey (action : String)
  | coinArgumentNotPositive (amount : Int)
  | unknownAdapter (kind protocol : String)
  | buildFailed (kind text : String)
  | noRouteParameters (source target chain : String)
  | routeRequestRefused (status : Int) (text : String)
  | noRouteExecutor
  | given (text : String)
deriving DecidableEq

def Reason.text : Reason → String
  | .malformedText e => s!"Invalid graph JSON payload: {e.message}"
  | .unsupportedPayload kind => s!"Unsupported payload type {kind}; expected str, Mapping or FlowGraph"
  | .badSchema _ text => s!"Graph validation failed: {text}"
  | .noTransactions => "No transactions to execute"
  | .alreadyExecuting => "A sequence is already executing"
  | .noRouteService => "Bridging is not available: no route service configured"
  | .submissionFailed text => s!"Transaction failed: {text}"
  | .rejected text => text
  | .noResolver name => s!"Cannot resolve \"{name}\": no name resolver configured"
  | .resolutionFailed name text => s!"Failed to resolve name \"{name}\": {text}"
  | .unresolvedName name => s!"Name \"{name}\" does not resolve to an address"
  | .recipientRequired => "Recipient address is required"
  | .notPositive amount => s!"{amount} must be greater than zero"
  | .unsupportedAsset symbol => s!"Asset '{symbol}' is not supported"
  | .swapAssetsRequired => "Swap requires both a source and a destination asset"
  | .swapToItself symbol => s!"Cannot swap {symbol} to itself"
  | .unsupportedLendingProtocol protocol => s!"Unsupported lending protocol '{protocol}'"
  | .unsupportedLendingAction action => s!"Unsupported lending action '{action}'"
  | .repayUnsupported => "Navi repay is not supported yet"
  | .unsupportedStakingProtocol protocol => s!"Unsupported staking protocol '{protocol}'"
  | .belowMinimumStake => "Minimum stake amount is 1 SUI"
  | .validatorRequired => "Please select a validator"
  | .bridgeSourceRequired => "Bridge source asset is required"
  | .bridgeDestinationRequired => "Bridge destination asset is required"
  | .bridgeChainRequired => "Bridge destination chain is required"
  | .destinationRequired => "Destination address is required"
  | .badDestination => "Invalid destination address. Use a 0x address or an ENS name (.eth)"
  | .unresolvedDestination name => s!"Could not resolve ENS name {name}"
  | .unsupportedChain chain => s!"Unsupported destination chain '{chain}'"
  | .notBridgeable asset => s!"{asset} cannot be bridged from Sui"
  | .notAvailableOn asset chain => s!"{asset} is not available on {chain}"
  | .callTargetRequired => "Custom call requires a package, module and function"
  | .malformedArguments what => s!"Invalid {what} format. Must be a valid JSON array."
  | .incompleteCondition missing => "Logic condition is incomplete: missing " ++ ", ".intercalate missing
  | .noPredicateFetcher => "No predicate fetcher configured"
  | .uncomparableAsset symbol => s!"Unsupported asset '{symbol}'"
  | .balanceUnavailable symbol address text => s!"Failed to fetch {symbol} balance of {address}: {text}"
  | .queryFailed target text => s!"Contract query {target} failed: {text}"
  | .queryEmpty target => s!"Contract query {target} returned no value"
  | .queryUnreadable target text => s!"Contract query {target}: {text}"
  | .noCoins symbol => s!"No {symbol} coins found in wallet"
  | .insufficientBalance symbol needed available =>
    s!"Insufficient {symbol} balance. Need {needed.text}, have {available.text} available"
  | .noShares symbol => s!"No s{symbol} coins found in wallet. Deposit first to get sCoin tokens."
  | .insufficientShares symbol needed =>
    s!"Insufficient s{symbol}. Need ~{needed.fixed 4} s{symbol}"
  | .belowSmallestUnit what amount symbol =>
    s!"{what} amount {amount.text} {symbol} is below the smallest unit"
  | .noSwapRouter => "Swaps are not available: no swap router configured"
  | .noSwapRoute source target =>
    s!"No swap route found for {source} → {target}. Try a different amount or pair."
  | .noValidators => "No active validators found"
  | .poolUnavailable symbol => s!"Navi does not support {symbol}"
  | .noObligation action => s!"No Scallop obligation found. You need an open position to {action}."
  | .noObligationKey action => s!"No Scallop obligation key found. Cannot {action} without the key."
  | .coinArgumentNotPositive amount => s!"Coin argument must be a positive amount of MIST, got {amount}"
  | .unknownAdapter kind protocol => s!"No adapter registered for {kind} via '{protocol}'"
  | .buildFailed kind text => s!"Failed to build {kind} step: {text}"
  | .noRouteParameters source target chain => s!"No route parameters for {source} -> {target} on {chain}"
  | .routeRequestRefused status text => s!"Route request failed ({status}): {text}"
  | .noRouteExecutor => "No route executor configured; connect a wallet to bridge"
  | .given text => text

inductive ErrorKind
  | engine
  | validation
  | predicate
  | resource (asset : String) (shortfall : Option Decimal)
  | execution
  | submission
  | userRejected
  | bridge
  | routeSimulation
  | runInProgress
deriving DecidableEq

/-- An error of the engine itself; `cause` is the text of the failure that led to it. -/
structure EngineError where
  kind : ErrorKind
  reason : Reason
  step : Option Int
  cause : Option String
deriving DecidableEq

inductive FaultClass
  | value
  | type
  | runtime
  | connection
  | key
  | position
  | unknownToken
  | unknownAdapter
  | index
  | missingMember
  | decimal (signal : Decimal.Signal)
  | overflow
  | memory
  | recursion
  | httpStatus
  | httpConnect
  | jsonText
  | webAddress
  | unwritable
  | unreadable
  | hostName
  | hostDirection
  | hostCharacter
  | hostContext
  | rpc (method : String) (code : Json)
deriving BEq

inductive Fault
  | engine (e : EngineError)
  | schema (issues : List Schema.Issue) (text : String)
  | raised (kind : FaultClass) (message : String) (cause : Option String)
deriving BEq

namespace EngineError

def message (e : EngineError) : String :=
  match e.step with
  | some index => stepLabel index ++ ": " ++ e.reason.text
  | none => e.reason.text

def onStep (kind : ErrorKind) (step : Int) (reason : Reason) : EngineError :=
  ⟨kind, reason, some step, none⟩

def plain (kind : ErrorKind) (reason : Reason) : EngineError :=
  ⟨kind, reason, none, none⟩

end EngineError

namespace Fault

def badValue (message : String) : Fault := .raised .value message none

def badType (message : String) : Fault := .raised .type message none

def ofSignal (s : Decimal.Signal) : Fault := .raised (.decimal s) s.message none

def missingKey (key : String) : Fault := .raised .key key none

def noAttribute (typeName name : String) : Fault :=
  .raised .missingMember s!"'{typeName}' object has no attribute '{name}'" none

def notSubscriptable (typeName : String) : Fault :=
  badType s!"'{typeName}' object is not subscriptable"

def missingPosition (i : Int) : Fault := .raised .position (toString i) none

def tooManyDigits (count : Nat) : Fault :=
  badValue <| "Exceeds the limit (4300 digits) for integer string conversion: value has " ++
    toString count ++ " digits; use sys.set_int_max_str_digits() to increase the limit"

def tooDeep (innermost : Json.Container) : Fault :=
  .raised .recursion ("maximum recursion depth exceeded while decoding a JSON " ++ innermost.word ++
    " from a unicode string") none

def unshowable : Fault :=
  badValue <| "Exceeds the limit (4300 digits) for integer string conversion; " ++
    "use sys.set_int_max_str_digits() to increase the limit"

def showing (ns : List Int) (f : Fault) : Fault :=
  if ns.any fun n => pow10 Text.digitLimit ≤ n.natAbs then unshowable else f

def indexOutOfRange : Fault := .raised .index "list index out of range" none

def showsKey : FaultClass → Bool
  | .key => true
  | .unknownToken => true
  | .unknownAdapter => true
  | _ => false

def text : Fault → String
  | .engine e => e.message
  | .schema _ text => text
  | .raised kind message _ => if showsKey kind then Text.quoted message else message

def causeText : Fault → Option String
  | .engine e => e.cause
  | .schema _ _ => none
  | .raised _ _ cause => cause

def isUserRejectedKind : Fault → Bool
  | .engine e => e.kind == .userRejected
  | _ => false

def rejectionPhrases : List String :=
  ["user rejected", "rejected the request", "rejected the transaction"]

/-- The signer declined: by the kind of the failure or by its words, or by its cause's if it has none. -/
def isUserRejection (f : Fault) : Bool :=
  f.isUserRejectedKind ||
    let words := if f.text.isEmpty then f.causeText.getD "" else f.text
    rejectionPhrases.any (Text.mentions words)

def retryPhrases : List String :=
  ["Dry run failed", "MoveAbort", "422"]

def isSimulationFailure : Fault → Bool
  | .engine e => e.kind == .routeSimulation
  | _ => false

def isRetryable (f : Fault) : Bool :=
  f.isSimulationFailure ||
    retryPhrases.any fun phrase => Text.contains f.text.toList phrase.toList

/-- What the user is told; nothing, if it was the user's own doing. -/
def userMessage (f : Fault) : Option String :=
  if f.isUserRejection then none
  else some (if f.text.isEmpty then "Execution failed" else f.text)

end Fault

def Schema.Checked.orFault {α : Type} (wording : Schema.Wording) (model : String) (v : Json) (c : Schema.Checked α) :
    Except Fault α :=
  c.toExcept.mapError fun issues => .schema issues (wording model v issues)

end LedgerFlow
