import SessionReplay.Text.Basic

/-!
# Faults

What can be wrong with a piece of data that should describe something: where in the data it is,
and the cause. Each cause has a kind, which is a fixed word, and a message.
-/

namespace SessionReplay

/-- A step into data: to the value under a key, or to an item of a list. -/
inductive Locus where
  | key (name : Text)
  | index (place : Int)
deriving DecidableEq, Repr

def Locus.text : Locus → Text
  | .key name => name
  | .index place => Text.ofInt place

inductive Cause where
  | notText
  /-- Bytes that are no UTF-8. -/
  | notUnicode
  | notList
  | notDict
  /-- No dictionary where the fields of a model are wanted. -/
  | notModel (model : Text)
  /-- No dictionary where a field tells what is described. -/
  | notRecord
  | missing
  | unknownKey
  | keyNotText
  | notOneOf (choices : List Text)
  | notInt
  | unreadableInt
  | fractionalInt
  | hugeInt
  | notFinite
  | below (bound : Nat)
  | notBool
  | unreadableBool
  | tagMissing
  | unknownTag (tag : Text) (choices : List Text)
  /-- A rule of the domain is broken. -/
  | rule (text : Text)
deriving DecidableEq, Repr

namespace Cause

def kind : Cause → Text
  | .notText => "string_type"
  | .notUnicode => "string_unicode"
  | .notList => "list_type"
  | .notDict => "dict_type"
  | .notModel _ => "model_type"
  | .notRecord => "model_attributes_type"
  | .missing => "missing"
  | .unknownKey => "extra_forbidden"
  | .keyNotText => "invalid_key"
  | .notOneOf _ => "literal_error"
  | .notInt => "int_type"
  | .unreadableInt => "int_parsing"
  | .fractionalInt => "int_from_float"
  | .hugeInt => "int_parsing_size"
  | .notFinite => "finite_number"
  | .below _ => "greater_than_equal"
  | .notBool => "bool_type"
  | .unreadableBool => "bool_parsing"
  | .tagMissing => "union_tag_not_found"
  | .unknownTag _ _ => "union_tag_invalid"
  | .rule _ => "value_error"

def inQuotes (word : Text) : Text := "'" ++ word ++ "'"

/-- The choices as a phrase: commas, and `or` before the last. -/
def alternatives (choices : List Text) : Text :=
  match (choices.map inQuotes).reverse with
  | [] => []
  | [only] => only
  | last :: others => Text.join ", " others.reverse ++ " or " ++ last

def message : Cause → Text
  | .notText => "Input should be a valid string"
  | .notUnicode =>
    "Input should be a valid string, unable to parse raw data as a unicode string"
  | .notList => "Input should be a valid list"
  | .notDict => "Input should be a valid dictionary"
  | .notModel model => "Input should be a valid dictionary or instance of " ++ model
  | .notRecord => "Input should be a valid dictionary or object to extract fields from"
  | .missing => "Field required"
  | .unknownKey => "Extra inputs are not permitted"
  | .keyNotText => "Keys should be strings"
  | .notOneOf choices => "Input should be " ++ alternatives choices
  | .notInt => "Input should be a valid integer"
  | .unreadableInt => "Input should be a valid integer, unable to parse string as an integer"
  | .fractionalInt => "Input should be a valid integer, got a number with a fractional part"
  | .hugeInt => "Unable to parse input string as an integer, exceeded maximum size"
  | .notFinite => "Input should be a finite number"
  | .below bound => "Input should be greater than or equal to " ++ Text.ofNat bound
  | .notBool => "Input should be a valid boolean"
  | .unreadableBool => "Input should be a valid boolean, unable to interpret input"
  | .tagMissing => "Unable to extract tag using discriminator 'name'"
  | .unknownTag tag choices =>
    "Input tag '" ++ tag ++ "' found using 'name' does not match any of the expected tags: " ++
      Text.join ", " (choices.map inQuotes)
  | .rule text => "Value error, " ++ text

end Cause

structure Fault where
  place : List Locus
  cause : Cause
deriving DecidableEq, Repr

namespace Fault

def under (locus : Locus) (fault : Fault) : Fault := { fault with place := locus :: fault.place }

def message (fault : Fault) : Text := fault.cause.message

end Fault
end SessionReplay
