/-!
# Validation issues

What is wrong with an input that has to have a certain form: where, and what. An input is refused
with all its issues at once.
-/

namespace Voicemail

/-- What is wrong with one part of an input. -/
inductive Complaint where
  | missing
  | stringType
  | boolType
  | boolParsing
  | intType
  | intParsing
  | intParsingSize
  | intFromFloat
  | finiteNumber
  | floatType
  | floatParsing
  | dictType
  | listType
  | modelType
  | greaterThanEqual
  | lessThanEqual
  | extraForbidden
  deriving DecidableEq, Repr

/-- The name of a complaint. -/
def Complaint.name : Complaint → String
  | .missing => "missing"
  | .stringType => "string_type"
  | .boolType => "bool_type"
  | .boolParsing => "bool_parsing"
  | .intType => "int_type"
  | .intParsing => "int_parsing"
  | .intParsingSize => "int_parsing_size"
  | .intFromFloat => "int_from_float"
  | .finiteNumber => "finite_number"
  | .floatType => "float_type"
  | .floatParsing => "float_parsing"
  | .dictType => "dict_type"
  | .listType => "list_type"
  | .modelType => "model_type"
  | .greaterThanEqual => "greater_than_equal"
  | .lessThanEqual => "less_than_equal"
  | .extraForbidden => "extra_forbidden"

/-- A complaint about the part of an input at a place. -/
structure Issue where
  place : List String
  complaint : Complaint
  deriving DecidableEq, Repr

namespace Issue

/-- The issue seen from one level further out. -/
def under (key : String) (i : Issue) : Issue := { i with place := key :: i.place }

/-- The text of an issue. -/
def text (i : Issue) : String := ".".intercalate i.place ++ ": " ++ i.complaint.name

/-- The text of all issues of an input. -/
def summary (issues : List Issue) : String := "; ".intercalate (issues.map text)

end Issue

end Voicemail
