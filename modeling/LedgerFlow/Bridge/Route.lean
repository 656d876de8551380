import LedgerFlow.Error
import LedgerFlow.Schema.Scalar

namespace LedgerFlow

open Schema

structure RouteRequest where
  fromChainId : Int
  toChainId : Int
  fromTokenAddress : String
  toTokenAddress : String
  fromAmount : String
  fromAddress : String
  toAddress : String
  denyBridges : List String
  order : String
deriving DecidableEq, Repr

/-- An offered route. `tool` names the provider that carries it across; fields that are not known here
are kept as they came. -/
structure Route where
  id : String
  tool : String
  toAddress : Option String
  fromAmount : Option String
  toAmount : Option String
  raw : Members
  extra : Members
deriving BEq, Repr

def RouteRequest.recommended : String := "RECOMMENDED"

def RouteRequest.fields : List String :=
  ["from_chain_id", "to_chain_id", "from_token_address", "to_token_address", "from_amount",
    "from_address", "to_address", "deny_bridges", "order"]

def RouteRequest.decode : Decoder RouteRequest := record fun ms =>
  closed ms fields <| RouteRequest.mk
    <$> requiredField ms "from_chain_id" int
    <*> requiredField ms "to_chain_id" int
    <*> requiredField ms "from_token_address" text
    <*> requiredField ms "to_token_address" text
    <*> requiredField ms "from_amount" text
    <*> requiredField ms "from_address" text
    <*> requiredField ms "to_address" text
    <*> optionalField ms ["deny_bridges"] [] (list text)
    <*> optionalField ms ["order"] recommended text

def Route.fields : List String :=
  ["id", "tool", "to_address", "from_amount", "to_amount", "raw"]

def Route.decode : Decoder Route := record fun ms =>
  withReadableKeys ms <| Route.mk
    <$> requiredField ms "id" text
    <*> optionalField ms ["tool"] "unknown" text
    <*> optionalField ms ["to_address"] none (nullable text)
    <*> optionalField ms ["from_amount"] none (nullable text)
    <*> optionalField ms ["to_amount"] none (nullable text)
    <*> optionalField ms ["raw"] [] mapping
    <*> .valid (ms.filter fun m => !fields.contains m.1)

end LedgerFlow
