import LedgerFlow.Bridge.Route
import LedgerFlow.Bridge.Status
import LedgerFlow.Json.Access

namespace LedgerFlow

open Json

def RouteRequest.toJson (r : RouteRequest) : Json := .object [
  ("from_chain_id", .int r.fromChainId),
  ("to_chain_id", .int r.toChainId),
  ("from_token_address", .string r.fromTokenAddress),
  ("to_token_address", .string r.toTokenAddress),
  ("from_amount", .string r.fromAmount),
  ("from_address", .string r.fromAddress),
  ("to_address", .string r.toAddress),
  ("deny_bridges", ofTexts r.denyBridges),
  ("order", .string r.order)]

def Route.toJson (r : Route) : Json := .object <| [
  ("id", .string r.id),
  ("tool", .string r.tool),
  ("to_address", ofText? r.toAddress),
  ("from_amount", ofText? r.fromAmount),
  ("to_amount", ofText? r.toAmount),
  ("raw", .object r.raw)] ++ r.extra

def BridgeProcess.toJson (p : BridgeProcess) : Json := .object [
  ("type", .string p.type),
  ("status", .string p.status),
  ("tx_hash", ofText? p.txHash),
  ("tx_link", ofText? p.txLink)]

def BridgeStatus.toJson (s : BridgeStatus) : Json := .object [
  ("phase", .string s.phase.name),
  ("processes", .array (s.processes.map BridgeProcess.toJson)),
  ("tool", ofText? s.tool),
  ("from_asset", ofText? s.fromAsset),
  ("to_asset", ofText? s.toAsset),
  ("from_chain", ofText? s.fromChain),
  ("to_chain", ofText? s.toChain),
  ("error", ofText? s.error),
  ("tracking_url", ofText? s.trackingUrl)]

def BridgeResult.toJson (r : BridgeResult) : Json := .object [
  ("step_index", .int r.stepIndex),
  ("node_id", .string r.nodeId),
  ("status", r.status.toJson),
  ("source_tx_hash", ofText? r.sourceTxHash),
  ("attempts", .int r.attempts),
  ("route_requests", .int r.routeRequests)]

def ExecutionResult.toJson (r : ExecutionResult) : Json := .object [
  ("same_chain_tx_id", ofText? r.sameChainTxId),
  ("bridge_results", .array (r.bridgeResults.map BridgeResult.toJson)),
  ("step_count", .int r.stepCount),
  ("message", .string r.message)]

end LedgerFlow
