import LedgerFlow.Run
import LedgerFlow.Schema.Scalar

namespace LedgerFlow

open Schema

structure Settings where
  network : String
  ledgerUrl : String
  httpTimeout : Binary64
  routingUrl : String
  routingKey : Option String
  integrator : String
  trackingBase : String
  maxBridgeAttempts : Int
  positionEpsilon : Binary64
  comparisonTolerance : Binary64
  gasReserve : Binary64
  slippage : Binary64
  strictBranches : Bool
  logLevel : String
  logPropagate : Bool
deriving DecidableEq, Repr

namespace Settings

def standard : Settings where
  network := "mainnet"
  ledgerUrl := "https://fullnode.mainnet.sui.io:443"
  httpTimeout := 20
  routingUrl := "https://li.quest/v1"
  routingKey := none
  integrator := "Suiquencer"
  trackingBase := Bridge.defaultTrackingBase
  maxBridgeAttempts := Bridge.defaultAttempts
  positionEpsilon := 50
  comparisonTolerance := 1e-4
  gasReserve := 0.01
  slippage := 0.02
  strictBranches := false
  logLevel := "INFO"
  logPropagate := false

def variableStart : String := "suiquencer_"

/-- The variables under the names of settings; of names that are then the same the last one counts. -/
def environment (env : List (String × String)) : Members :=
  env.foldl (fun ms (key, value) => Json.put ms (Text.lower key) (.string value)) []

def setting (ms : Members) (name : String) {α : Type} (default : α) (d : Decoder α) : Checked α :=
  match ms.lookup (variableStart ++ name) with
  | none => .valid default
  | some v => (d v).within (.name name)

/-- A value that has to be no lower than a bound. What is no number has no order and is within no bound. -/
def atLeast (bound : Binary64) (d : Decoder Binary64) : Decoder Binary64 := fun v =>
  (d v).andThen fun x => if bound.lt x || bound.eq x then .valid x else .issue .greaterThanEqual

def above (bound : Binary64) (d : Decoder Binary64) : Decoder Binary64 := fun v =>
  (d v).andThen fun x => if bound.lt x then .valid x else .issue .greaterThan

def below (bound : Binary64) (d : Decoder Binary64) : Decoder Binary64 := fun v =>
  (d v).andThen fun x => if x.lt bound then .valid x else .issue .lessThan

def positiveInt : Decoder Int := fun v =>
  (int v).andThen fun n => if n < 1 then .issue .greaterThanEqual else .valid n

def flag : Decoder Bool
  | .string s => boolOfText s
  | _ => .issue .boolParsing

def ofEnvironment (env : List (String × String)) : Checked Settings :=
  let ms := environment env
  let base := standard
  Settings.mk
    <$> setting ms "network" base.network text
    <*> setting ms "sui_rpc_url" base.ledgerUrl text
    <*> setting ms "http_timeout_seconds" base.httpTimeout float
    <*> setting ms "lifi_api_url" base.routingUrl text
    <*> setting ms "lifi_api_key" base.routingKey (nullable text)
    <*> setting ms "lifi_integrator" base.integrator text
    <*> setting ms "bridge_tracking_base_url" base.trackingBase text
    <*> setting ms "max_bridge_attempts" base.maxBridgeAttempts positiveInt
    <*> setting ms "position_epsilon" base.positionEpsilon (atLeast 0 float)
    <*> setting ms "comparison_tolerance" base.comparisonTolerance (above 0 float)
    <*> setting ms "sui_gas_reserve" base.gasReserve (atLeast 0 float)
    <*> setting ms "swap_slippage" base.slippage (atLeast 0 (below 1 float))
    <*> setting ms "strict_branch_config" base.strictBranches flag
    <*> setting ms "log_level" base.logLevel text
    <*> setting ms "log_propagate" base.logPropagate flag

def routingHeaders (s : Settings) : List (String × String) :=
  ("x-lifi-integrator", s.integrator) ::
    match s.routingKey.filter fun key => !key.isEmpty with
    | some key => [("x-lifi-api-key", key)]
    | none => []

def runSettings (s : Settings) : RunSettings where
  positionEpsilon := .float s.positionEpsilon
  comparisonTolerance := .float s.comparisonTolerance
  gasReserve := .float s.gasReserve
  slippage := .float s.slippage
  maxBridgeAttempts := s.maxBridgeAttempts
  trackingBase := s.trackingBase
  strictBranches := s.strictBranches

end Settings

end LedgerFlow
