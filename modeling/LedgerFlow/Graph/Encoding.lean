import LedgerFlow.Decimal.Text
import LedgerFlow.Graph.Node
import LedgerFlow.Json.Access

namespace LedgerFlow

open Json

def Arguments.toJson : Arguments → Json
  | .text s => .string s
  | .items vs => .array vs

def amountToJson (d : Option Decimal) : Json := ofOption (fun d => .string d.text) d

def argumentsToJson (a : Option Arguments) : Json := ofOption Arguments.toJson a

def comparisonToJson (c : Option Comparison) : Json := ofOption (fun c => .string c.name) c

def LogicData.members (d : LogicData) : List (String × Json) := [
  ("logic_type", ofOption (fun t => .string t.name) d.logicType),
  ("balance_address", ofText? d.balanceAddress),
  ("balance_asset", .string d.balanceAsset),
  ("comparison_operator", comparisonToJson d.comparisonOperator),
  ("compare_value", amountToJson d.compareValue),
  ("contract_package_id", ofText? d.contractPackageId),
  ("contract_module", ofText? d.contractModule),
  ("contract_function", ofText? d.contractFunction),
  ("contract_arguments", argumentsToJson d.contractArguments),
  ("contract_comparison_operator", comparisonToJson d.contractComparisonOperator),
  ("contract_compare_value", amountToJson d.contractCompareValue)]

def NodeData.members : NodeData → List (String × Json)
  | .wallet d => [("label", ofText? d.label)]
  | .selector d => [("label", ofText? d.label), ("selected_asset", ofText? d.selectedAsset)]
  | .logic d => d.members
  | .transfer d => [
    ("recipient_address", ofText? d.recipientAddress),
    ("amount", amountToJson d.amount),
    ("asset", .string d.asset)]
  | .swap d => [
    ("from_asset", ofText? d.fromAsset),
    ("to_asset", ofText? d.toAsset),
    ("amount", amountToJson d.amount),
    ("estimated_amount_out", amountToJson d.estimatedAmountOut),
    ("estimated_amount_out_symbol", ofText? d.estimatedAmountOutSymbol)]
  | .lend d => [
    ("lend_action", .string d.action),
    ("lend_asset", .string d.asset),
    ("lend_amount", amountToJson d.amount),
    ("lend_protocol", .string d.protocol),
    ("lend_obligation_id", ofText? d.obligationId),
    ("lend_obligation_key_id", ofText? d.obligationKeyId)]
  | .stake d => [
    ("stake_amount", amountToJson d.amount),
    ("stake_protocol", .string d.protocol),
    ("stake_validator", ofText? d.validator)]
  | .bridge d => [
    ("bridge_asset", ofText? d.asset),
    ("bridge_output_asset", ofText? d.outputAsset),
    ("bridge_chain", ofText? d.chain),
    ("bridge_amount", amountToJson d.amount),
    ("ethereum_address", ofText? d.ethereumAddress),
    ("bridge_protocol", .string d.protocol)]
  | .custom d => [
    ("custom_package_id", ofText? d.packageId),
    ("custom_module", ofText? d.moduleName),
    ("custom_function", ofText? d.functionName),
    ("custom_arguments", argumentsToJson d.arguments),
    ("custom_type_arguments", argumentsToJson d.typeArguments)]

def Position.toJson (p : Position) : Json := .object [("x", .float p.x.value), ("y", .float p.y.value)]

end LedgerFlow
