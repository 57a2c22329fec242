import Mathlib.Data.String.Basic

/-!
# Identifiers of the configuration

The errors of the configuration boundary and the identifiers that passed it.
-/

namespace FluxDns.Config

inductive ConfigErrorKind where
  | unsupportedVersion
  | missingField
  | invalidValue
  | duplicate
  | missingReference
  | wrongReferenceKind
  | cycle
  | constraint
  | bindConflict
  | secret

/-- An error with the path of the field that it is about. -/
structure ConfigError where
  kind : ConfigErrorKind
  path : String
  message : String

def isIdentifierChar (char : Char) : Bool :=
  char.isAlphanum || char == '-' || char == '_' || char == '.' || char == '!'

/-- `ConfigId`, a text that passed its checks. -/
structure ConfigId where
  text : String
  nonempty : text.utf8ByteSize ≠ 0
  size_le : text.utf8ByteSize ≤ 128
  valid : text.toList.all isIdentifierChar = true
  deriving DecidableEq

def ConfigId.new (text : String) : Except ConfigError ConfigId :=
  if nonempty : text.utf8ByteSize ≠ 0 then
    if size_le : text.utf8ByteSize ≤ 128 then
      if valid : text.toList.all isIdentifierChar = true then .ok ⟨text, nonempty, size_le, valid⟩
      else .error ⟨.invalidValue, "name", "identifier contains an unsupported character"⟩
    else .error ⟨.invalidValue, "name", "identifier must contain 1..=128 characters"⟩
  else .error ⟨.invalidValue, "name", "identifier must contain 1..=128 characters"⟩

end FluxDns.Config
