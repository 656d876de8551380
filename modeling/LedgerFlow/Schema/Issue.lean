namespace LedgerFlow.Schema

inductive Key
  | name (s : String)
  | index (i : Nat)
deriving DecidableEq, Repr

inductive IssueKind
  | missing
  | stringType
  | stringTooShort
  | stringUnicode
  | intType
  | intParsing
  | intParsingSize
  | intFromFloat
  | floatType
  | floatParsing
  | decimalType
  | finiteNumber
  | boolParsing
  | enumValue
  | listType
  | dictType
  | modelType
  | modelAttributesType
  | unionTagNotFound
  | unionTagInvalid
  | greaterThan
  | greaterThanEqual
  | lessThan
  | extraForbidden
  | noSuchAttribute
  | structural (message : String)
deriving DecidableEq, Repr

structure Issue where
  loc : List Key
  kind : IssueKind
deriving DecidableEq, Repr

def IssueKind.code : IssueKind → String
  | .missing => "missing"
  | .stringType => "string_type"
  | .stringTooShort => "string_too_short"
  | .stringUnicode => "string_unicode"
  | .intType => "int_type"
  | .intParsing => "int_parsing"
  | .intParsingSize => "int_parsing_size"
  | .intFromFloat => "int_from_float"
  | .floatType => "float_type"
  | .floatParsing => "float_parsing"
  | .decimalType => "decimal_type"
  | .finiteNumber => "finite_number"
  | .boolParsing => "bool_parsing"
  | .enumValue => "enum"
  | .listType => "list_type"
  | .dictType => "dict_type"
  | .modelType => "model_type"
  | .modelAttributesType => "model_attributes_type"
  | .unionTagNotFound => "union_tag_not_found"
  | .unionTagInvalid => "union_tag_invalid"
  | .greaterThan => "greater_than"
  | .greaterThanEqual => "greater_than_equal"
  | .lessThan => "less_than"
  | .extraForbidden => "extra_forbidden"
  | .noSuchAttribute => "no_such_attribute"
  | .structural _ => "value_error"

def IssueKind.message? : IssueKind → Option String
  | .structural message => some ("Value error, " ++ message)
  | _ => none

end LedgerFlow.Schema
