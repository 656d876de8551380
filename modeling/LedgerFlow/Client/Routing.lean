import LedgerFlow.Client.Answer
import LedgerFlow.Client.Connection
import LedgerFlow.Program
import LedgerFlow.Settings

namespace LedgerFlow

def RouteRequest.body (r : RouteRequest) (integrator : String) : Json :=
  let options := [("order", .string r.order), ("integrator", .string integrator)] ++
    (if r.denyBridges.isEmpty then []
      else [("bridges", .object [("deny", .array (r.denyBridges.map .string))])])
  .object [
    ("fromChainId", .int r.fromChainId),
    ("toChainId", .int r.toChainId),
    ("fromTokenAddress", .string r.fromTokenAddress),
    ("toTokenAddress", .string r.toTokenAddress),
    ("fromAmount", .string r.fromAmount),
    ("fromAddress", .string r.fromAddress),
    ("toAddress", .string r.toAddress),
    ("options", .object options)]

namespace Client

def firstTool (steps : Json) : Except Fault Json :=
  match steps with
  | .array (s :: _) => memberOr s "tool" .null
  | .object _ => .error (.missingPosition 0)
  | .string _ => .error (.noAttribute "str" "get")
  | v => .error (.notSubscriptable v.kindName)

def toolOf (steps : Json) : Except Fault Json :=
  if steps.isTruthy then firstTool steps else .ok .null

def parseRoute (wording : Schema.Wording) (raw : Json) : Except Fault Route := do
  let tool ← toolOf (orElse (← memberOr raw "steps" .null) (.array []))
  let id ← memberOr raw "id" (.string "")
  let toAddress ← memberOr raw "toAddress" .null
  let fromAmount ← memberOr raw "fromAmount" .null
  let toAmount ← memberOr raw "toAmount" .null
  let fields := [("id", .string id.display), ("tool", orElse tool (.string "unknown")),
    ("to_address", toAddress), ("from_amount", fromAmount), ("to_amount", toAmount), ("raw", raw)]
  (Route.decode (.object fields)).orFault wording "Route" (.object fields)

structure RoutingService where
  baseUrl : String
  settings : Settings
  wording : Schema.Wording
  link : Connection

namespace RoutingService

def withoutSlashes (url : String) : String :=
  String.ofList (url.toList.reverse.dropWhile (· = '/')).reverse

/-- A base address left empty stands for the one of the settings. -/
def create (settings : Settings) (wording : Schema.Wording) (baseUrl : Option String) (answers : List HttpAnswer) :
    RoutingService :=
  ⟨withoutSlashes ((baseUrl.filter (· ≠ "")).getD settings.routingUrl), settings, wording, .create answers⟩

def requestOf (s : RoutingService) (r : RouteRequest) : HttpRequest where
  method := "POST"
  url := s.baseUrl ++ "/advanced/routes"
  headers := s.settings.routingHeaders
  body := r.body s.settings.integrator

def refusal (r : HttpResponse) : Fault :=
  .engine (.plain .bridge (.routeRequestRefused r.status (Text.first 200 r.text)))

def readRoutes (wording : Schema.Wording) (r : HttpResponse) : Except Fault (List Route) := do
  if !r.isSuccess then throw (refusal r)
  let body ← r.json
  (← items (← memberOr body "routes" (.array []))).mapM (parseRoute wording)

def routes (s : RoutingService) (r : RouteRequest) : Except Fault (List Route) × RoutingService :=
  let (answer, link) := s.link.exchange (s.requestOf r)
  (answer >>= readRoutes s.wording, { s with link := link })

def noExecutor : Fault := .engine (.plain .bridge .noRouteExecutor)

def execute (executor : Option (Route → RouteExecution)) (route : Route) : Except Fault RouteExecution :=
  match executor with
  | some run => .ok (run route)
  | none => .error noExecutor

end RoutingService

end Client

end LedgerFlow
