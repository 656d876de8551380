import LedgerFlow.Bridge.Status
import LedgerFlow.Error
import LedgerFlow.Text.Encoding

namespace LedgerFlow

open Schema (Checked)

def isAside (name : String) : Bool := name.toList.head? == some '_'

/-- A name beside the fields: those of the class and of the members themselves take only their like. -/
def assignAside (name : String) (v : Json) : Except Fault Unit :=
  match name, v with
  | "__class__", v => .error (.badType s!"__class__ must be set to a class, not '{v.kindName}' object")
  | "__dict__", .object _ => .ok ()
  | "__dict__", v => .error (.badType s!"__dict__ must be set to a dictionary, not a '{v.kindName}'")
  | _, _ => .ok ()

def assignName {α : Type} (assign : α → String → Json → Checked α) (fixed : List String) (wording : Schema.Wording)
    (model : String) (a : α) (name : String) (v : Json) : Except Fault α :=
  if fixed.contains name then .error (.noAttribute "model" name)
  else if isAside name then (fun _ => a) <$> assignAside name v
  else match Text.unwritable? name with
    | some message => .error (.raised .unwritable message none)
    | none => (assign a name v).orFault wording model v

def assignKey {α : Type} (assign : α → String → Json → Checked α) (fixed : List String) (wording : Schema.Wording)
    (model : String) (a : α) (key v : Json) : Except Fault α :=
  match key with
  | .string name => assignName assign fixed wording model a name v
  | k => .error (.badType s!"attribute name must be string, not '{k.kindName}'")

end LedgerFlow
