import LedgerFlow.Error
import LedgerFlow.Json.Printer
import LedgerFlow.Web.Url

namespace LedgerFlow.Client

structure HttpRequest where
  method : String
  url : String
  headers : List (String × String)
  body : Json
deriving BEq, Repr

inductive HttpAnswer
  | response (status : Int) (text : String)
  | failed (f : Fault)

structure Connection where
  answers : List HttpAnswer
  sent : List HttpRequest

structure HttpResponse where
  status : Int
  text : String
deriving DecidableEq, Repr

def notFinite : Fault := .badValue "Out of range float values are not JSON compliant"

def bodyText (v : Json) : Except Fault String :=
  if !v.isFinite then .error notFinite
  else
    let text := v.render
    match Text.unwritable? text with
    | some message => .error (.raised .unwritable message none)
    | none => .ok text

namespace HttpAnswer

def ofText (status : Int) (text : String) : HttpAnswer :=
  match Text.unwritable? text with
  | some message => .failed (.raised .unwritable message none)
  | none => .response status text

def ofJson (status : Int) : Json → HttpAnswer
  | .null => .response status ""
  | v => match bodyText v with
    | .ok text => .response status text
    | .error f => .failed f

def refused (message : String) : HttpAnswer := .failed (.raised .httpConnect message none)

end HttpAnswer

namespace HttpResponse

def isSuccess (r : HttpResponse) : Bool := 200 ≤ r.status && r.status < 300

def statusFault (r : HttpResponse) : Fault := .raised .httpStatus s!"status {r.status}" none

/-- The body, read as JSON; a mark of the byte order may come first. -/
def json (r : HttpResponse) : Except Fault Json := do
  let text ← (Text.reread r.text).mapError (.raised .unreadable · none)
  match Json.parse text with
  | .ok v => return v
  | .error (.malformed e) => throw (.raised .jsonText e.message none)
  | .error (.tooManyDigits n) => throw (.tooManyDigits n)
  | .error (.tooDeep c) => throw (.tooDeep c)

end HttpResponse

namespace HttpRequest

def plainText (s : String) : Except Fault Unit :=
  match Text.unplain? s with
  | some message => .error (.raised .unwritable message none)
  | none => .ok ()

def checkHost (u : Web.Url) : Except Fault Unit := do
  if u.host.toList.take 4 == Web.HostName.digitMark then discard (Web.HostName.read u.host)
  plainText u.location

def target (r : HttpRequest) : Except Fault Web.Url := do
  let u ← Web.Url.target r.url
  r.headers.forM fun h => plainText h.2
  discard (bodyText r.body)
  checkHost u
  return u

end HttpRequest

namespace Connection

def create (answers : List HttpAnswer) : Connection := ⟨answers, []⟩

def received (u : Web.Url) (r : HttpResponse) : Except Fault HttpResponse :=
  if u.isAbsolute then .ok r
  else .error (.badValue s!"unknown url type: {Text.quoted u.text}")

def exchange (c : Connection) (request : HttpRequest) : Except Fault HttpResponse × Connection :=
  match request.target with
  | .error f => (.error f, c)
  | .ok u =>
    let sent := c.sent ++ [{ request with url := u.text }]
    match c.answers with
    | [] => (.error (.raised .index "pop from empty list" none), ⟨[], sent⟩)
    | .failed f :: rest => (.error f, ⟨rest, sent⟩)
    | .response status text :: rest => (received u ⟨status, text⟩, ⟨rest, sent⟩)

theorem length_answers_exchange {c d : Connection} {request : HttpRequest} {r : HttpResponse}
    (h : c.exchange request = (.ok r, d)) : c.answers.length = d.answers.length + 1 := by
  unfold exchange at h
  split at h
  · simp at h
  · simp only at h
    split at h
    · simp at h
    · simp at h
    · next e =>
      simp only [Prod.mk.injEq] at h
      rw [e, ← h.2]
      rfl

end Connection

end LedgerFlow.Client
