import LedgerFlow.Arguments
import LedgerFlow.Chain
import LedgerFlow.Names
import LedgerFlow.Token

/-!
What every step must state before anything is asked of the ledger. Steps are checked in order and the
first one that fails is reported; a mark that it is to be skipped makes no difference.
-/

namespace LedgerFlow

namespace LogicData

def missingFields (d : LogicData) : List String :=
  match d.logicType with
  | none => ["logic type"]
  | some .balance =>
    (if d.balanceAddress.isNone then ["address"] else []) ++
    (if d.comparisonOperator.isNone then ["operator"] else []) ++
    (if d.compareValue.isNone then ["compare value"] else [])
  | some .contract =>
    (if d.contractPackageId.isNone then ["package"] else []) ++
    (if d.contractModule.isNone then ["module"] else []) ++
    (if d.contractFunction.isNone then ["function"] else []) ++
    (if d.contractComparisonOperator.isNone then ["operator"] else []) ++
    (if d.contractCompareValue.isNone then ["compare value"] else [])

end LogicData

namespace Validation

structure Rules where
  tokens : TokenRegistry
  names : NameTable
  strictBranches : Bool

/-- What keeps a step from passing its check: it is refused, or the check itself breaks off. -/
inductive Objection
  | refused (reason : Reason)
  | failed (f : Fault)

def Objection.ofArguments (e : ArgumentsError) : Objection :=
  match e.reason? with
  | some reason => .refused reason
  | none => .failed e.fault

abbrev Verdict := Except Objection Unit

def refuse {α : Type} (reason : Reason) : Except Objection α := .error (.refused reason)

def demand (condition : Bool) (reason : Reason) : Verdict :=
  if condition then .ok () else refuse reason

def present (s : Option String) (reason : Reason) : Except Objection String :=
  match s with
  | some s => if s.isEmpty then refuse reason else .ok s
  | none => refuse reason

def order (a b : Decimal) : Except Objection Ordering :=
  (a.order b).mapError fun signal => .failed (.ofSignal signal)

def positive (amount : Option Decimal) (what : String) : Except Objection Decimal :=
  match amount with
  | some d => do
    if (← order d 0) == .gt then .ok d else refuse (.notPositive what)
  | none => refuse (.notPositive what)

def knownAsset (rules : Rules) (symbol : String) : Verdict :=
  demand (rules.tokens.find? symbol).isSome (.unsupportedAsset symbol)

def argumentList (a : Option Arguments) (what : String) : Verdict :=
  match Arguments.toList a what with
  | .ok _ => .ok ()
  | .error e => .error (.ofArguments e)

def checkTransfer (rules : Rules) (d : TransferData) : Verdict := do
  let _ ← present d.recipientAddress .recipientRequired
  let _ ← positive d.amount "Transfer amount"
  knownAsset rules d.asset

def checkSwap (rules : Rules) (d : SwapData) : Verdict := do
  let source ← present d.fromAsset .swapAssetsRequired
  let target ← present d.toAsset .swapAssetsRequired
  knownAsset rules source
  knownAsset rules target
  demand (Text.upper source != Text.upper target) (.swapToItself source)
  let _ ← positive d.amount "Swap amount"

def lendingProtocols : List String := ["scallop", "navi"]

def lendingActions : List String := ["deposit", "withdraw", "borrow", "repay"]

def checkLend (rules : Rules) (d : LendData) : Verdict := do
  let _ ← positive d.amount "Lend amount"
  demand (lendingProtocols.contains d.protocol) (.unsupportedLendingProtocol d.protocol)
  demand (lendingActions.contains d.action) (.unsupportedLendingAction d.action)
  demand (!(d.protocol == "navi" && d.action == "repay")) .repayUnsupported
  knownAsset rules d.asset

def stakingProtocols : List String := ["native", "aftermath", "volo"]

def minimumStake : Decimal := 1

def checkStake (d : StakeData) : Verdict := do
  let amount ← positive d.amount "Stake amount"
  demand (stakingProtocols.contains d.protocol) (.unsupportedStakingProtocol d.protocol)
  if d.protocol == "native" then
    demand ((← order amount minimumStake) != .lt) .belowMinimumStake
    let _ ← present d.validator .validatorRequired

/-- A destination is an address of 42 characters or a name that was resolved. -/
def checkDestination (rules : Rules) (destination : String) : Verdict :=
  if NameForm.isForeignName destination then
    demand (rules.names.contains destination) (.unresolvedDestination destination)
  else demand ("0x".isPrefixOf destination && Text.size destination == 42) .badDestination

def checkBridge (rules : Rules) (d : BridgeData) : Verdict := do
  let asset ← present d.asset .bridgeSourceRequired
  let output ← present d.outputAsset .bridgeDestinationRequired
  let chain ← present d.chain .bridgeChainRequired
  let _ ← positive d.amount "Bridge amount"
  let destination ← present d.ethereumAddress .destinationRequired
  checkDestination rules destination
  match Chain.destinationId? chain with
  | none => refuse (.unsupportedChain chain)
  | some id =>
    demand (Chain.sourceToken? asset).isSome (.notBridgeable asset)
    demand (Chain.destinationToken? output id).isSome (.notAvailableOn output chain)

def checkCustom (d : CustomData) : Verdict := do
  let _ ← present d.packageId .callTargetRequired
  let _ ← present d.moduleName .callTargetRequired
  let _ ← present d.functionName .callTargetRequired
  argumentList d.arguments "arguments"
  argumentList d.typeArguments "type arguments"

/-- A condition may be incomplete unless the rules are strict; what it does state has to make sense. -/
def checkLogic (rules : Rules) (d : LogicData) : Verdict := do
  match d.logicType with
  | some .contract => argumentList d.contractArguments "contract arguments"
  | some .balance => if d.balanceAsset.isEmpty then pure () else knownAsset rules d.balanceAsset
  | none => pure ()
  if rules.strictBranches then
    match d.missingFields with
    | [] => pure ()
    | missing => refuse (.incompleteCondition missing)

def checkNode (rules : Rules) (n : Node) : Verdict :=
  match n.data with
  | .wallet _ => .ok ()
  | .selector _ => .ok ()
  | .logic d => checkLogic rules d
  | .transfer d => checkTransfer rules d
  | .swap d => checkSwap rules d
  | .lend d => checkLend rules d
  | .stake d => checkStake d
  | .bridge d => checkBridge rules d
  | .custom d => checkCustom d

end Validation

/-- The first step that does not pass its check is reported; a check that breaks off is not about its step. -/
def validateSteps (rules : Validation.Rules) : List Step → Except Fault Unit
  | [] => .ok ()
  | s :: rest =>
    match Validation.checkNode rules s.node with
    | .ok () => validateSteps rules rest
    | .error (.refused reason) => .error (s.error .validation reason)
    | .error (.failed f) => .error f

end LedgerFlow
