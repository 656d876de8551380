import LedgerFlow.Error
import LedgerFlow.Schema.Scalar

namespace LedgerFlow

open Schema

inductive BridgePhase
  | signing
  | pending
  | bridging
  | done
  | failed
deriving DecidableEq, Repr

namespace BridgePhase

def name : BridgePhase → String
  | .signing => "signing"
  | .pending => "pending"
  | .bridging => "bridging"
  | .done => "done"
  | .failed => "failed"

def ofName? : String → Option BridgePhase
  | "signing" => some .signing
  | "pending" => some .pending
  | "bridging" => some .bridging
  | "done" => some .done
  | "failed" => some .failed
  | _ => none

end BridgePhase

structure BridgeProcess where
  type : String
  status : String
  txHash : Option String
  txLink : Option String
deriving DecidableEq, Repr

def BridgeProcess.hash? (p : BridgeProcess) : Option String :=
  p.txHash.filter fun h => !h.isEmpty

structure BridgeStatus where
  phase : BridgePhase
  processes : List BridgeProcess
  tool : Option String
  fromAsset : Option String
  toAsset : Option String
  fromChain : Option String
  toChain : Option String
  error : Option String
  trackingUrl : Option String
deriving DecidableEq, Repr

structure BridgeResult where
  stepIndex : Int
  nodeId : String
  status : BridgeStatus
  sourceTxHash : Option String
  attempts : Int
  routeRequests : Int
deriving DecidableEq, Repr

structure ExecutionResult where
  sameChainTxId : Option String
  bridgeResults : List BridgeResult
  stepCount : Int
  message : String
deriving DecidableEq, Repr

/-- The phase that a list of parts amounts to. One failure decides; all of them have to be done. -/
def derivePhase (ps : List BridgeProcess) : BridgePhase :=
  if ps.isEmpty then .signing
  else if ps.any (·.status == "FAILED") then .failed
  else if ps.all (·.status == "DONE") then .done
  else if ps.any fun p => p.type == "CROSS_CHAIN" && (p.status == "PENDING" || p.status == "DONE") then
    .bridging
  else if ps.any (·.hash?.isSome) then .pending
  else .signing

def BridgeResult.succeeded (r : BridgeResult) : Bool :=
  r.status.phase == .done || r.status.phase == .bridging

namespace ExecutionResult

def allSkipped (r : ExecutionResult) : Bool :=
  r.sameChainTxId.isNone && r.bridgeResults.isEmpty && r.stepCount == 0

def digest (r : ExecutionResult) : String :=
  match r.sameChainTxId.filter fun id => !id.isEmpty with
  | some id => id
  | none =>
    match r.bridgeResults.findSome? fun b => b.sourceTxHash.filter fun h => !h.isEmpty with
    | some hash => hash
    | none => if r.bridgeResults.isEmpty then "" else "bridge-pending"

end ExecutionResult

section Decoding

def optionalPart (ms : Members) (key : String) : Checked (Option String) :=
  optionalField ms [key] none (nullable text)

def BridgeProcess.fields : List String := ["type", "status", "tx_hash", "tx_link"]

def BridgeProcess.decode : Decoder BridgeProcess := record fun ms =>
  closed ms fields <| BridgeProcess.mk
    <$> optionalField ms ["type"] "UNKNOWN" text
    <*> optionalField ms ["status"] "UNKNOWN" text
    <*> optionalPart ms "tx_hash"
    <*> optionalPart ms "tx_link"

def BridgeStatus.fields : List String :=
  ["phase", "processes", "tool", "from_asset", "to_asset", "from_chain", "to_chain", "error",
    "tracking_url"]

def BridgeStatus.decode : Decoder BridgeStatus := record fun ms =>
  closed ms fields <| BridgeStatus.mk
    <$> optionalField ms ["phase"] .signing (oneOf BridgePhase.ofName?)
    <*> optionalField ms ["processes"] [] (list BridgeProcess.decode)
    <*> optionalPart ms "tool"
    <*> optionalPart ms "from_asset"
    <*> optionalPart ms "to_asset"
    <*> optionalPart ms "from_chain"
    <*> optionalPart ms "to_chain"
    <*> optionalPart ms "error"
    <*> optionalPart ms "tracking_url"

def BridgeResult.fields : List String :=
  ["step_index", "node_id", "status", "source_tx_hash", "attempts", "route_requests"]

def BridgeResult.decode : Decoder BridgeResult := record fun ms =>
  closed ms fields <| BridgeResult.mk
    <$> requiredField ms "step_index" int
    <*> requiredField ms "node_id" text
    <*> requiredField ms "status" BridgeStatus.decode
    <*> optionalPart ms "source_tx_hash"
    <*> optionalField ms ["attempts"] 0 int
    <*> optionalField ms ["route_requests"] 0 int

def ExecutionResult.fields : List String :=
  ["same_chain_tx_id", "bridge_results", "step_count", "message"]

def ExecutionResult.decode : Decoder ExecutionResult := record fun ms =>
  closed ms fields <| ExecutionResult.mk
    <$> optionalPart ms "same_chain_tx_id"
    <*> optionalField ms ["bridge_results"] [] (list BridgeResult.decode)
    <*> optionalField ms ["step_count"] 0 int
    <*> optionalField ms ["message"] "" text

def assignField {α β : Type} (key : String) (d : Decoder α) (v : Json) (set : α → β) : Checked β :=
  set <$> (d v).within (.name key)

def noSuchField {α : Type} (key : String) : Checked α :=
  Checked.within (.name key) (.issue .noSuchAttribute)

def BridgeStatus.assign (s : BridgeStatus) (key : String) (v : Json) : Checked BridgeStatus :=
  match key with
  | "phase" => assignField key (oneOf BridgePhase.ofName?) v fun p => { s with phase := p }
  | "processes" => assignField key (list BridgeProcess.decode) v fun ps => { s with processes := ps }
  | "tool" => assignField key (nullable text) v fun t => { s with tool := t }
  | "from_asset" => assignField key (nullable text) v fun t => { s with fromAsset := t }
  | "to_asset" => assignField key (nullable text) v fun t => { s with toAsset := t }
  | "from_chain" => assignField key (nullable text) v fun t => { s with fromChain := t }
  | "to_chain" => assignField key (nullable text) v fun t => { s with toChain := t }
  | "error" => assignField key (nullable text) v fun t => { s with error := t }
  | "tracking_url" => assignField key (nullable text) v fun t => { s with trackingUrl := t }
  | _ => noSuchField key

def BridgeResult.assign (r : BridgeResult) (key : String) (v : Json) : Checked BridgeResult :=
  match key with
  | "step_index" => assignField key int v fun n => { r with stepIndex := n }
  | "node_id" => assignField key text v fun t => { r with nodeId := t }
  | "status" => assignField key BridgeStatus.decode v fun s => { r with status := s }
  | "source_tx_hash" => assignField key (nullable text) v fun t => { r with sourceTxHash := t }
  | "attempts" => assignField key int v fun n => { r with attempts := n }
  | "route_requests" => assignField key int v fun n => { r with routeRequests := n }
  | _ => noSuchField key

def ExecutionResult.assign (r : ExecutionResult) (key : String) (v : Json) : Checked ExecutionResult :=
  match key with
  | "same_chain_tx_id" => assignField key (nullable text) v fun t => { r with sameChainTxId := t }
  | "bridge_results" => assignField key (list BridgeResult.decode) v fun bs => { r with bridgeResults := bs }
  | "step_count" => assignField key int v fun n => { r with stepCount := n }
  | "message" => assignField key text v fun t => { r with message := t }
  | _ => noSuchField key

end Decoding

end LedgerFlow
