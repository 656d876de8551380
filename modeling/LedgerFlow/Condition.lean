import LedgerFlow.Json.Access
import LedgerFlow.Program
import LedgerFlow.Text.Integer
import LedgerFlow.Validation

/-!
Branch conditions. Each live branch is evaluated once, in order; a condition that is not met, or that is
not fully stated, marks every step that can be reached from the branch as skipped. A value that cannot be
fetched is an error about the branch.
-/

namespace LedgerFlow

namespace Comparison

def named (v : Json) : Except Fault Comparison :=
  match v.text?.bind ofName? with
  | some c => .ok c
  | none => .error (.badValue (v.shown ++ " is not a valid ComparisonOperator"))

def tolerance (t : Number) : Except Fault Decimal :=
  Amount.ofResult (Decimal.ofText t.text)

def near (actual expected tolerance : Decimal) : Except Fault Bool := do
  let difference ← Amount.ofResult (actual.sub expected)
  let distance ← Amount.ofResult difference.abs
  return (← Amount.ofResult (distance.order tolerance)) == .lt

def holds (c : Comparison) (actual expected : Decimal) (tolerance : Number) : Except Fault Bool := do
  let epsilon ← Comparison.tolerance tolerance
  match c with
  | .gt => return (← Amount.ofResult (actual.order expected)) == .gt
  | .gte => return (← Amount.ofResult (actual.order expected)) != .lt
  | .lt => return (← Amount.ofResult (actual.order expected)) == .lt
  | .lte => return (← Amount.ofResult (actual.order expected)) != .gt
  | .eq => near actual expected epsilon
  | .ne => return !(← near actual expected epsilon)

end Comparison

namespace Observation

/-- The unsigned integer that bytes write, the lowest byte first. -/
def ofBytes : List Nat → Nat
  | [] => 0
  | b :: rest => b + 256 * ofBytes rest

def byte? : Json → Option Nat
  | .int n => if 0 ≤ n && n < 256 then some n.toNat else none
  | .bool b => some (if b then 1 else 0)
  | _ => none

def unreadable (shown : String) : Fault :=
  .badValue s!"Cannot interpret {shown} as a number"

/-- Text as a number; unreadable text is one failure, a number out of all range the same. -/
def ofText (s : String) : Except Fault Decimal :=
  match Decimal.ofText s with
  | .ok d => .ok d
  | .error _ => .error (unreadable (Text.quoted s))

def ofJson : Json → Except Fault Decimal
  | .bool b => .ok (if b then 1 else 0)
  | .int n => .ok (.ofInt n)
  | .float x => Amount.ofResult (Decimal.ofText x.text)
  | .string s => ofText s
  | .array [] => .error (unreadable "list")
  | .array vs => match vs.mapM byte? with
    | some bytes => .ok (.ofInt (ofBytes bytes))
    | none => .error (unreadable "list")
  | v => .error (unreadable v.kindName)

def first : Json → Except Fault Json
  | .array (v :: _) => .ok v
  | .array [] => .error .indexOutOfRange
  | .string s => match Text.pointsOf s with
    | p :: _ => .ok (.string (Text.ofPoints [p]))
    | [] => .error (.raised .index "string index out of range" none)
  | .object _ => .error (.missingPosition 0)
  | v => .error (.notSubscriptable v.kindName)

def integerOfText (s : String) : Except Fault Int :=
  match Text.readInteger s.toList with
  | .value n => .ok n
  | .tooManyDigits count => .error (.tooManyDigits count)
  | .malformed => .error <| .badValue <|
    "invalid literal for int() with base 10: " ++ String.ofList ((Text.quoted s).toList.take 200)

def integer : Json → Except Fault Int
  | .int n => .ok n
  | .bool b => .ok (if b then 1 else 0)
  | .float x => match x.toInt? with
    | some n => .ok n
    | none =>
      if x.isNaN then .error (.badValue "cannot convert float NaN to integer")
      else .error (.raised .overflow "cannot convert float infinity to integer" none)
  | .string s => integerOfText s
  | v => .error (.badType
    s!"int() argument must be a string, a bytes-like object or a real number, not '{v.kindName}'")

end Observation

structure ConditionOutcome where
  satisfied : Bool
  observed : Option Decimal
  reason : Option String
deriving DecidableEq, Repr

namespace Condition

structure Setting where
  tokens : TokenRegistry
  names : NameTable
  tolerance : Number

def incomplete : ConditionOutcome :=
  ⟨false, none, some "incomplete configuration"⟩

inductive Query
  | balance (address asset : String) (operator : Comparison) (expected : Decimal)
  | contract (target : String) (arguments : Option Arguments) (operator : Comparison)
      (expected : Decimal)

def callTarget (package moduleName function : String) : String :=
  s!"{package}::{moduleName}::{function}"

def query? (d : LogicData) : Option Query :=
  match d.logicType with
  | none => none
  | some .balance => do
    return .balance (← d.balanceAddress) d.balanceAsset (← d.comparisonOperator) (← d.compareValue)
  | some .contract => do
    let target := callTarget (← d.contractPackageId) (← d.contractModule) (← d.contractFunction)
    return .contract target d.contractArguments (← d.contractComparisonOperator)
      (← d.contractCompareValue)

def fetchBalance (c : Setting) (s : Step) (address asset : String) : Engine Decimal := do
  match c.tokens.find? asset with
  | none => throw (s.error .predicate (.uncomparableAsset asset))
  | some token =>
    let owner := c.names.lookup address
    let raw ← Engine.mapFault
      (fun f => s.error .predicate (.balanceUnavailable token.symbol owner f.text))
      (Engine.predicateBalance owner token.coinType)
    let units ← Engine.ofExcept (Observation.integer raw)
    Engine.ofExcept (token.fromBaseUnits units)

/-- Only a value that is no number is reported as unreadable. -/
def unreadableValue (s : Step) (target : String) (f : Fault) : Fault :=
  match f with
  | .raised .value .. => s.error .predicate (.queryUnreadable target f.text)
  | f => f

def fetchContract (s : Step) (target : String) (arguments : Option Arguments) : Engine Decimal := do
  match Arguments.toList arguments "contract arguments" with
  | .error e => throw (e.reported (s.error .predicate))
  | .ok values =>
    let answer ← Engine.mapFault (fun f => s.error .predicate (.queryFailed target f.text))
      (Engine.contractQuery target values)
    if !answer.isTruthy then throw (s.error .predicate (.queryEmpty target))
    Engine.mapFault (unreadableValue s target)
      (Engine.ofExcept (Observation.first answer >>= Observation.ofJson))

def judge (c : Setting) (operator : Comparison) (observed expected : Decimal) : Engine ConditionOutcome := do
  let satisfied ← Engine.ofExcept (operator.holds observed expected c.tolerance)
  return ⟨satisfied, some observed, none⟩

def evaluate (c : Setting) (s : Step) (d : LogicData) : Engine ConditionOutcome :=
  match query? d with
  | none => pure incomplete
  | some (.balance address asset operator expected) => do
    judge c operator (← fetchBalance c s address asset) expected
  | some (.contract target arguments operator expected) => do
    judge c operator (← fetchContract s target arguments) expected

def evaluateStep (c : Setting) (s : Step) : Engine ConditionOutcome :=
  match s.node.data with
  | .logic d => evaluate c s d
  | _ => throw (.badType s!"{s.label} is not a logic node")

def newlyMarked (downstream : List String) (steps : List Step) : List Nat :=
  (steps.filter fun s => downstream.contains s.node.id && s.isLive).map (·.index)

def markDownstream (v : GraphView) (branch : String) (steps : List Step) : List Step :=
  Plan.skipNodes (v.descendants branch) steps

def isSkippedNow (steps : List Step) (s : Step) : Bool :=
  steps.any fun t => t.index == s.index && t.skipped

/-- Evaluates the branches of `turn` in order; `steps` carries the marks made so far, which stay when an
evaluation fails. -/
def applyFrom (c : Setting) (v : GraphView) (fetcher : Bool) (turn steps : List Step) :
    Program (Except Fault Unit × List Step) :=
  match turn with
  | [] => .done (.ok (), steps)
  | s :: rest =>
    if !s.isBranch || isSkippedNow steps s then applyFrom c v fetcher rest steps
    else if !fetcher then .done (.error (s.error .predicate .noPredicateFetcher), steps)
    else (evaluateStep c s).run.bind fun
      | .error f => .done (.error f, steps)
      | .ok outcome =>
        applyFrom c v fetcher rest (if outcome.satisfied then steps else markDownstream v s.node.id steps)

def applyAll (c : Setting) (v : GraphView) (fetcher : Bool) (steps : List Step) :
    Program (Except Fault Unit × List Step) :=
  applyFrom c v fetcher steps steps

end Condition

end LedgerFlow
