import LedgerFlow.Amount
import LedgerFlow.Graph.FlowGraph
import LedgerFlow.Schema.Scalar

namespace LedgerFlow

open Schema

/-- An amount as it was typed: text that is no finite number leaves it unset, a number that is not finite
or has too many digits is refused. -/
def decodeAmount : Decoder (Option Decimal)
  | .null => .valid none
  | .bool _ => .valid none
  | .int n => match Amount.textOf n with
    | .ok _ => .valid (some (.ofInt n))
    | .error f => .issue (.structural f.text)
  | .float x => match Decimal.ofText x.text with
    | .ok d => if d.isFinite then .valid (some d) else .issue .finiteNumber
    | .error _ => .issue .finiteNumber
  | .string s => match Decimal.ofText s with
    | .ok d => .valid (if d.isFinite then some d else none)
    | .error _ => .valid none
  | _ => .issue .decimalType

/-- A picker left empty means the native coin. -/
def decodeAsset : Decoder String
  | .null => .valid "SUI"
  | .string s => .valid (if Text.isBlankText s then "SUI" else s)
  | _ => .issue .stringType

def comparisonOfSymbol? : String → Option Comparison
  | ">" => some .gt
  | ">=" => some .gte
  | "<" => some .lt
  | "<=" => some .lte
  | "==" => some .eq
  | "=" => some .eq
  | "!=" => some .ne
  | _ => none

def decodeComparison : Decoder (Option Comparison)
  | .null => .valid none
  | .string s =>
    let word := Text.trim s
    if word.isEmpty then .valid none
    else match comparisonOfSymbol? word with
      | some c => .valid (some c)
      | none => match Comparison.ofName? (Text.lower word) with
        | some c => .valid (some c)
        | none => unknownWord s
  | _ => .issue .enumValue

/-- Text, or a list whose items `items` checks; a value that is neither is refused on both counts. -/
def decodeArguments (listName : String) (items : Decoder (List Json)) : Decoder (Option Arguments)
  | .null => .valid none
  | .string s => .valid (some (.text s))
  | v => match (items v).within (.name listName) with
    | .valid vs => .valid (some (.items vs))
    | .invalid is => .invalid (⟨[.name "str"], .stringType⟩ :: is)

def decodeAnyArguments : Decoder (Option Arguments) :=
  decodeArguments "list[any]" (list .valid)

def decodeTextArguments : Decoder (Option Arguments) :=
  decodeArguments "list[str]" (list fun v => Json.string <$> Schema.text v)

def decodeCoordinate : Decoder Coordinate
  | .string s => (Coordinate.mk · true) <$> float (.string s)
  | v => (Coordinate.mk · false) <$> float v

def decodePosition : Decoder Position := record fun ms =>
  Position.mk
    <$> looseField ms "x" ⟨0, false⟩ decodeCoordinate
    <*> looseField ms "y" ⟨0, false⟩ decodeCoordinate

def decodeWallet : Decoder WalletData := record fun ms =>
  WalletData.mk <$> looseField ms "label" none (nullable Schema.text)

def decodeSelector : Decoder SelectorData := record fun ms =>
  SelectorData.mk
    <$> looseField ms "label" none (nullable Schema.text)
    <*> looseField ms "selected_asset" none optionalText

def decodeLogic : Decoder LogicData := record fun ms =>
  LogicData.mk
    <$> looseField ms "logic_type" none (nullable (oneOf LogicType.ofName?))
    <*> looseField ms "balance_address" none optionalText
    <*> looseField ms "balance_asset" "SUI" decodeAsset
    <*> looseField ms "comparison_operator" none decodeComparison
    <*> looseField ms "compare_value" none decodeAmount
    <*> looseField ms "contract_package_id" none optionalText
    <*> looseField ms "contract_module" none optionalText
    <*> looseField ms "contract_function" none optionalText
    <*> looseField ms "contract_arguments" none decodeAnyArguments
    <*> looseField ms "contract_comparison_operator" none decodeComparison
    <*> looseField ms "contract_compare_value" none decodeAmount

def decodeTransfer : Decoder TransferData := record fun ms =>
  TransferData.mk
    <$> looseField ms "recipient_address" none optionalText
    <*> looseField ms "amount" none decodeAmount
    <*> looseField ms "asset" "SUI" decodeAsset

def decodeSwap : Decoder SwapData := record fun ms =>
  SwapData.mk
    <$> looseField ms "from_asset" none optionalText
    <*> looseField ms "to_asset" none optionalText
    <*> looseField ms "amount" none decodeAmount
    <*> looseField ms "estimated_amount_out" none decodeAmount
    <*> looseField ms "estimated_amount_out_symbol" none optionalText

def decodeLend : Decoder LendData := record fun ms =>
  LendData.mk
    <$> looseField ms "lend_action" "deposit" Schema.text
    <*> looseField ms "lend_asset" "SUI" Schema.text
    <*> looseField ms "lend_amount" none decodeAmount
    <*> looseField ms "lend_protocol" "scallop" Schema.text
    <*> looseField ms "lend_obligation_id" none optionalText
    <*> looseField ms "lend_obligation_key_id" none optionalText

def decodeStake : Decoder StakeData := record fun ms =>
  StakeData.mk
    <$> looseField ms "stake_amount" none decodeAmount
    <*> looseField ms "stake_protocol" "native" Schema.text
    <*> looseField ms "stake_validator" none optionalText

def decodeBridge : Decoder BridgeData := record fun ms =>
  BridgeData.mk
    <$> looseField ms "bridge_asset" none optionalText
    <*> looseField ms "bridge_output_asset" none optionalText
    <*> looseField ms "bridge_chain" none optionalText
    <*> looseField ms "bridge_amount" none decodeAmount
    <*> looseField ms "ethereum_address" none optionalText
    <*> looseField ms "bridge_protocol" "none" Schema.text

def decodeCustom : Decoder CustomData := record fun ms =>
  CustomData.mk
    <$> looseField ms "custom_package_id" none optionalText
    <*> looseField ms "custom_module" none optionalText
    <*> looseField ms "custom_function" none optionalText
    <*> looseField ms "custom_arguments" none decodeAnyArguments
    <*> looseField ms "custom_type_arguments" none decodeTextArguments

def dataDecoder? : String → Option (Decoder NodeData)
  | "wallet" => some fun v => NodeData.wallet <$> decodeWallet v
  | "selector" => some fun v => NodeData.selector <$> decodeSelector v
  | "logic" => some fun v => NodeData.logic <$> decodeLogic v
  | "transfer" => some fun v => NodeData.transfer <$> decodeTransfer v
  | "swap" => some fun v => NodeData.swap <$> decodeSwap v
  | "lend" => some fun v => NodeData.lend <$> decodeLend v
  | "stake" => some fun v => NodeData.stake <$> decodeStake v
  | "bridge" => some fun v => NodeData.bridge <$> decodeBridge v
  | "custom" => some fun v => NodeData.custom <$> decodeCustom v
  | _ => none

def fieldOrEmpty {α : Type} (ms : Members) (key : String) (d : Decoder α) : Checked α :=
  match ms.lookup key with
  | none => d (.object [])
  | some v => (d v).within (.name key)

def decodeNodeOf (kind : String) (d : Decoder NodeData) (ms : Members) : Checked Node :=
  Checked.within (.name kind) <|
    Node.mk
      <$> requiredField ms "id" nonEmptyText
      <*> fieldOrEmpty ms "position" decodePosition
      <*> fieldOrEmpty ms "data" d

def decodeNode : Decoder Node
  | .object ms => match ms.lookup "type" with
    | none => .issue .unionTagNotFound
    | some (.string kind) => match dataDecoder? kind with
      | some d => decodeNodeOf kind d ms
      | none => .issue .unionTagInvalid
    | some _ => .issue .unionTagInvalid
  | _ => .issue .modelAttributesType

def decodeEdge : Decoder Edge := record fun ms =>
  Edge.mk
    <$> requiredField ms "id" nonEmptyText
    <*> requiredAlias ms "source" ["sourceNodeId", "source_node_id"] Schema.text
    <*> requiredAlias ms "target" ["targetNodeId", "target_node_id"] Schema.text

structure GraphParts where
  nodes : List Node
  edges : List Edge
  metadata : List (String × Json)

/-- The structure is looked at only when every part is well formed. -/
def GraphParts.toGraph (p : GraphParts) : Checked FlowGraph :=
  match h : graphDefect? p.nodes p.edges with
  | none => .valid ⟨p.nodes, p.edges, p.metadata, h⟩
  | some defect => .issue (.structural defect.message)

def decodeParts : Decoder GraphParts := record fun ms =>
  GraphParts.mk
    <$> optionalField ms ["nodes"] [] (list decodeNode)
    <*> optionalField ms ["edges"] [] (list decodeEdge)
    <*> optionalField ms ["meta"] [] mapping

def decodeGraph : Decoder FlowGraph := fun v =>
  (decodeParts v).andThen GraphParts.toGraph

inductive Payload
  | text (s : String)
  | value (v : Json)
  | graph (g : FlowGraph)

def readGraph (wording : Wording) (v : Json) : Except Fault FlowGraph :=
  (decodeGraph v).toExcept.mapError fun issues =>
    .engine (.plain .validation (.badSchema issues (wording "FlowGraph" v issues)))

/-- Too long an integer and too deep a nesting are failures of their own, not ones of the graph's text. -/
def faultOfRead : Json.ReadError → Fault
  | .malformed e => .engine (.plain .validation (.malformedText e))
  | .tooManyDigits n => .tooManyDigits n
  | .tooDeep c => .tooDeep c

def Payload.toGraph (wording : Wording) : Payload → Except Fault FlowGraph
  | .graph g => .ok g
  | .text s => (Json.parse s).mapError faultOfRead >>= readGraph wording
  | .value (.object ms) => readGraph wording (.object ms)
  | .value v => .error (.engine (.plain .validation (.unsupportedPayload v.kindName)))

end LedgerFlow
