import LedgerFlow.Graph.Decode

namespace LedgerFlow

inductive ArgumentsError
  | notAnArray (what : String)
  | tooManyDigits (count : Nat)
  | tooDeep (innermost : Json.Container)
deriving DecidableEq, Repr

namespace ArgumentsError

def fault : ArgumentsError → Fault
  | .notAnArray what => .badValue (Reason.malformedArguments what).text
  | .tooManyDigits count => faultOfRead (.tooManyDigits count)
  | .tooDeep innermost => faultOfRead (.tooDeep innermost)

/-- Why the text is refused. One that is nested too deep is not: there reading itself breaks off. -/
def reason? : ArgumentsError → Option Reason
  | .notAnArray what => some (.malformedArguments what)
  | .tooManyDigits count => some (.given (faultOfRead (.tooManyDigits count)).text)
  | .tooDeep _ => none

def reported (report : Reason → Fault) (e : ArgumentsError) : Fault := (e.reason?.map report).getD e.fault

end ArgumentsError

namespace Arguments

def ofText (s what : String) : Except ArgumentsError (List Json) :=
  let body := Text.trim s
  if body.isEmpty then .ok []
  else match Json.parse body with
    | .ok (.array vs) => .ok vs
    | .ok _ => .error (.notAnArray what)
    | .error (.malformed _) => .error (.notAnArray what)
    | .error (.tooManyDigits n) => .error (.tooManyDigits n)
    | .error (.tooDeep c) => .error (.tooDeep c)

def toList (a : Option Arguments) (what : String) : Except ArgumentsError (List Json) :=
  match a with
  | none => .ok []
  | some (.items vs) => .ok vs
  | some (.text s) => ofText s what

def ofJson (v : Json) (what : String) : Except ArgumentsError (List Json) :=
  match v with
  | .null => .ok []
  | .array vs => .ok vs
  | v => ofText v.display what

end Arguments

end LedgerFlow
