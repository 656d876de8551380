import LedgerFlow.Json.Access
import LedgerFlow.Transaction

namespace LedgerFlow

open Json

def Handle.toJson : Handle → Json
  | .gas => .object [("kind", .string "gas")]
  | .missing => .null
  | .object id => .object [("kind", .string "object"), ("value", .string id)]
  | .pure v t => .object <|
    [("kind", .string "pure")] ++ (if v.isNull then [] else [("value", v)]) ++
      (match t.filter fun t => !t.isEmpty with
      | some t => [("type", .string t)]
      | none => [])
  | .result n => .object [("kind", .string "result"), ("value", ofNat n)]
  | .nestedResult n i => .object [("kind", .string "nested_result"), ("value", .array [ofNat n, ofNat i])]

def handlesToJson (hs : List Handle) : Json := .array (hs.map Handle.toJson)

def Command.parameters : Command → List (String × Json)
  | .splitCoins coin amounts => [("coin", coin.toJson), ("amounts", .array (amounts.map .int))]
  | .mergeCoins destination sources =>
    [("destination", destination.toJson), ("sources", handlesToJson sources)]
  | .transferObjects objects recipient =>
    [("objects", handlesToJson objects), ("recipient", ofText? recipient)]
  | .moveCall target arguments types =>
    [("target", .string target), ("arguments", handlesToJson arguments), ("type_arguments", ofTexts types)]

def Command.toJson (c : Command) : Json := .object (("kind", .string c.kind.name) :: c.parameters)

def Transaction.toJson (tx : Transaction) : Json :=
  .object [("sender", .string tx.sender), ("commands", .array (tx.commands.map Command.toJson))]

end LedgerFlow
