import ResourceSql.Json.Datum
import ResourceSql.Json.Decode

/-!
# Failures

Every way in which an operation of the library can fail, as a cause.  The wording
of each cause is in one place, `Failure.message`.
-/

namespace ResourceSql

/-- Why data and documents do not turn into each other. -/
inductive CodecError where
  /-- Attributes were asked of a document that is no object. -/
  | notAnObject (found : Json)
  /-- Data has no document. -/
  | encode (cause : EncodeError)
  /-- A document does not decode. -/
  | decode (cause : DecodeError)
  /-- A cause in the caller's words. -/
  | other (reason : String)

def CodecError.message : CodecError → String
  | .notAnObject found => "expected an object, got " ++ found.text
  | .encode cause => cause.message
  | .decode cause => cause.message
  | .other reason => reason

/-- Why a request is refused. -/
inductive Refusal where
  /-- The first row of a page has no 64-bit number. -/
  | offsetOverflow
  /-- An update would set nothing. -/
  | nothingToSet
  /-- A cause in the caller's words. -/
  | other (reason : String)
deriving DecidableEq

def Refusal.message : Refusal → String
  | .offsetOverflow => "list offset overflows u64"
  | .nothingToSet => "UPDATE SET clause cannot be empty"
  | .other reason => reason

/-- Why an operation fails. -/
inductive Failure where
  /-- The operation needs an identifier, and the resource has none or an empty one. -/
  | missingId
  /-- An insertion needs the identifier of the resource to be set. -/
  | unsetId
  /-- There are no attributes to transform. -/
  | missingAttributes
  /-- The request is refused. -/
  | refused (cause : Refusal)
  /-- Data and documents do not turn into each other. -/
  | codec (cause : CodecError)
  /-- A condition names no column. -/
  | unnamedColumn
  /-- A double that is not finite has no literal. -/
  | nonFinite (x : Binary64)

namespace Failure

def message : Failure → String
  | .missingId => "invalid ID"
  | .unsetId => "ID is required"
  | .missingAttributes => "not updatable object"
  | .refused cause => "Validation error: " ++ cause.message
  | .codec cause => "Serialization error: " ++ cause.message
  | .unnamedColumn => "condition key cannot be empty"
  | .nonFinite x => "cannot render non-finite float " ++ Decimal.nonFinite x ++ " as a literal"

/-- A computation in two steps gives a result only if both steps do. -/
theorem exists_of_bind_eq_ok {α : Type u} {β : Type u} {x : Except Failure α}
    {f : α → Except Failure β} {b : β} (h : x >>= f = .ok b) : ∃ a, x = .ok a ∧ f a = .ok b := by
  cases x with
  | error cause => cases h
  | ok a => exact ⟨a, rfl, h⟩

def isMissingId : Failure → Bool
  | .missingId => true
  | _ => false

def isUnsetId : Failure → Bool
  | .unsetId => true
  | _ => false

def isMissingAttributes : Failure → Bool
  | .missingAttributes => true
  | _ => false

end Failure

end ResourceSql
