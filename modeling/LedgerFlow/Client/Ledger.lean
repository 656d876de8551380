import LedgerFlow.Client.Answer
import LedgerFlow.Client.Connection
import LedgerFlow.Condition

namespace LedgerFlow.Client

structure LedgerNode where
  url : String
  nextId : Nat
  link : Connection

structure ListedCoin where
  objectId : Json
  balance : Int
deriving BEq, Repr

namespace LedgerNode

def create (url : String) (answers : List HttpAnswer) : LedgerNode := ⟨url, 1, .create answers⟩

def pageSize : Int := 50

def requestOf (n : LedgerNode) (method : String) (params : Json) : HttpRequest where
  method := "POST"
  url := n.url
  headers := []
  body := .object [("jsonrpc", .string "2.0"), ("id", .int n.nextId), ("method", .string method),
    ("params", params)]

def reported (method : String) (error : Json) : Except Fault Fault := do
  let code ← memberOr error "code" .null
  let message ← memberOr error "message" (.string "unknown error")
  return .raised (.rpc method code)
    (method ++ " failed (" ++ code.display ++ "): " ++ message.display) none

def resultOf (method : String) (body : Json) : Except Fault Json := do
  let error ← memberOr body "error" .null
  if error.isTruthy then throw (← reported method error)
  memberOr body "result" .null

def readResponse (method : String) (r : HttpResponse) : Except Fault Json := do
  if !r.isSuccess then throw r.statusFault
  resultOf method (← r.json)

def call (n : LedgerNode) (method : String) (params : Json) : Except Fault Json × LedgerNode :=
  match n.link.exchange (n.requestOf method params) with
  | (.error f, link) => (.error f, { n with link := link, nextId := n.nextId + 1 })
  | (.ok r, link) => (readResponse method r, { n with link := link, nextId := n.nextId + 1 })

theorem length_answers_call {n m : LedgerNode} {method : String} {params v : Json}
    (h : n.call method params = (.ok v, m)) : n.link.answers.length = m.link.answers.length + 1 := by
  unfold call at h
  split at h
  · simp at h
  · next e =>
    have := Connection.length_answers_exchange e
    simp only [Prod.mk.injEq] at h
    rw [← h.2]
    exact this

structure Page (α : Type) where
  items : List α
  next : Option Json

def readPage {α : Type} (read : Json → Except Fault (List α)) (v : Json) : Except Fault (Page α) := do
  let found ← (← items (← memberOr v "data" (.array []))).mapM read
  let more ← memberOr v "hasNextPage" .null
  let cursor ← memberOr v "nextCursor" .null
  return ⟨found.flatten, if more.isTruthy then some cursor else none⟩

def pages {α : Type} (n : LedgerNode) (method : String) (params : Json → List Json)
    (read : Json → Except Fault (List α)) (cursor : Json) : Except Fault (List α) × LedgerNode :=
  match h : n.call method (.array (params cursor)) with
  | (.error f, m) => (.error f, m)
  | (.ok v, m) =>
    match readPage read v with
    | .error f => (.error f, m)
    | .ok ⟨found, none⟩ => (.ok found, m)
    | .ok ⟨found, some next⟩ =>
      have := length_answers_call h
      let (rest, last) := pages m method params read next
      (rest.map (found ++ ·), last)
termination_by n.link.answers.length

def readCoin (v : Json) : Except Fault (List ListedCoin) := do
  let id ← member v "coinObjectId"
  let balance ← Observation.integer (← member v "balance")
  return [⟨id, balance⟩]

/-- Objects that were deleted have no id and are left out. -/
def readObject (v : Json) : Except Fault (List Json) := do
  let data := orElse (← memberOr v "data" .null) (.object [])
  let id ← memberOr data "objectId" .null
  return if id.isTruthy then [id] else []

def balance (n : LedgerNode) (owner coinType : String) : Except Fault Int × LedgerNode :=
  let (result, n) := n.call "suix_getBalance" (.ofTexts [owner, coinType])
  (result >>= fun v => member v "totalBalance" >>= Observation.integer, n)

def coins (n : LedgerNode) (owner coinType : String) : Except Fault (List ListedCoin) × LedgerNode :=
  n.pages "suix_getCoins" (fun cursor => [.string owner, .string coinType, cursor, .int pageSize]) readCoin .null

def objectQuery (structType : String) : Json :=
  .object [("filter", .object [("StructType", .string structType)]),
    ("options", .object [("showType", .bool true)])]

def ownedObjects (n : LedgerNode) (owner structType : String) : Except Fault (List Json) × LedgerNode :=
  n.pages "suix_getOwnedObjects"
    (fun cursor => [.string owner, objectQuery structType, cursor, .int pageSize]) readObject .null

def activeValidators (n : LedgerNode) : Except Fault (List Json) × LedgerNode :=
  let (result, n) := n.call "suix_getLatestSuiSystemState" (.array [])
  (result >>= fun v => do
    (← items (← memberOr v "activeValidators" (.array []))).mapM fun v => member v "suiAddress", n)

def resolve (n : LedgerNode) (name : String) : Except Fault Json × LedgerNode :=
  n.call "suix_resolveNameServiceAddress" (.ofTexts [name])

end LedgerNode

end LedgerFlow.Client
