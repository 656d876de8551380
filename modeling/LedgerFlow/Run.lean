import LedgerFlow.Assembly.Transaction
import LedgerFlow.Bridge.Execution
import LedgerFlow.Condition
import LedgerFlow.Graph.Decode
import LedgerFlow.Names.Resolution

/-!
Running a flow from end to end: names are resolved, steps checked, branches evaluated, the transaction of
the ledger assembled and submitted, and then the bridges carried out. A later stage begins only when the
earlier ones have succeeded.
-/

namespace LedgerFlow

structure RunServices where
  tokens : TokenRegistry
  adapters : AdapterRegistry Builder
  signer : String
  hasResolver : Bool
  hasFetcher : Bool
  hasRouter : Bool
  hasRoutes : Bool
  wording : Schema.Wording

structure RunSettings where
  positionEpsilon : Number
  comparisonTolerance : Number
  gasReserve : Number
  slippage : Number
  maxBridgeAttempts : Int
  trackingBase : String
  strictBranches : Bool
deriving DecidableEq, Repr

namespace Run

def allSkippedMessage : String := "All operations skipped - logic condition(s) not met"

def nothingToDo : ExecutionResult := ⟨none, [], 0, allSkippedMessage⟩

def operationsPart (n : Nat) : String :=
  s!"Transaction confirmed ({n} operation" ++ (if n = 1 then "" else "s") ++ ")"

def bridgesPart (bridges : List BridgeResult) : String :=
  s!"{(bridges.filter (·.succeeded)).length}/{bridges.length} bridge step(s) submitted"

def summary (operations : Nat) (bridges : List BridgeResult) : String :=
  "; ".intercalate <|
    (if operations = 0 then [] else [operationsPart operations]) ++
    (if bridges.isEmpty then [] else [bridgesPart bridges])

def plan (services : RunServices) (settings : RunSettings) (p : Payload) : Except Fault (GraphView × List Step) := do
  let graph ← p.toGraph services.wording
  let view : GraphView := ⟨graph, settings.positionEpsilon⟩
  match view.compile with
  | [] => .error (.engine (.plain .validation .noTransactions))
  | steps => .ok (view, steps)

def submissionFault : Fault → Fault
  | .engine e => .engine e
  | f =>
    if f.isUserRejection then .engine (.plain .userRejected (.rejected f.text))
    else .engine (.plain .submission (.submissionFailed f.text))

def submit (tx : Transaction) : Engine String :=
  Engine.mapFault submissionFault (Engine.submit tx)

def submitIfAny : Option Transaction → Engine (Option String)
  | none => pure none
  | some tx => some <$> submit tx

def applyConditions (services : RunServices) (settings : RunSettings) (names : NameTable) (v : GraphView)
    (steps : List Step) : Engine (List Step) :=
  let setting : Condition.Setting := ⟨services.tokens, names, settings.comparisonTolerance⟩
  ExceptT.mk <| (Condition.applyAll setting v services.hasFetcher steps).bind fun r =>
    .done (r.1.map fun _ => r.2)

def assemblySetting (services : RunServices) (settings : RunSettings) (names : NameTable) :
    AssemblySetting :=
  ⟨services.tokens, services.adapters, names, services.signer, services.hasRouter, settings.gasReserve,
    settings.slippage⟩

def bridgeSetting (services : RunServices) (settings : RunSettings) (names : NameTable) : Bridge.Setting :=
  .create services.signer names (some settings.maxBridgeAttempts) (some settings.trackingBase) services.wording

def rulesOf (services : RunServices) (settings : RunSettings) (names : NameTable) : Validation.Rules :=
  ⟨services.tokens, names, settings.strictBranches⟩

def demandRoutes (services : RunServices) : List Step → Except Fault Unit
  | [] => .ok ()
  | s :: _ => if services.hasRoutes then .ok () else .error (s.error .execution .noRouteService)

def carryOut (services : RunServices) (settings : RunSettings) (names : NameTable) (a : AssemblyResult) :
    Engine ExecutionResult := do
  if a.operations = 0 && a.bridges.isEmpty then return nothingToDo
  Engine.ofExcept (demandRoutes services a.bridges)
  let digest ← submitIfAny a.transaction
  let bridges ← runBridges (bridgeSetting services settings names) a.bridges
  return ⟨digest, bridges, (a.operations + a.bridges.length : Nat), summary a.operations bridges⟩

end Run

def execute (services : RunServices) (settings : RunSettings) (p : Payload) : Engine ExecutionResult := do
  let (view, steps) ← Engine.ofExcept (Run.plan services settings p)
  let names ← resolveNames services.hasResolver steps
  Engine.ofExcept (validateSteps (Run.rulesOf services settings names) steps)
  let steps ← Run.applyConditions services settings names view steps
  let assembly ← assemble (Run.assemblySetting services settings names) steps
  Run.carryOut services settings names assembly

end LedgerFlow
