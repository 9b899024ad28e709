import ContextProvider.Envelope.Basic
import ContextProvider.QueryError
import ContextProvider.Value

/-!
# Assembling the answer

The values of a backend are put under the names of the mapping, provided there is one for each
attribute, from its field and of its shape; otherwise none is reported. Every failure gives an
envelope without attributes and one log record, which alone shows the chain of causes; a success
is not logged. What is logged elsewhere, such as the warning about a live data source that failed,
is left out.
-/

namespace ContextProvider

/-- How serious a log record is. -/
inductive LogLevel where
  | debug
  | error
  deriving DecidableEq

/-- What is logged about a failed request. -/
structure LogRecord where
  level : LogLevel
  message : String
  code : Nat
  error : String
  cause : Option String
  deriving DecidableEq

/-- An envelope together with what is logged about it. -/
structure Answer where
  envelope : Envelope
  log : List LogRecord

/-- Why the values of a backend do not fit a mapping. -/
inductive Misalignment where
  | count (values attributes : Nat)
  | mismatch (value : RawValue) (spec : AttributeSpec)

/-- The text of a misalignment. -/
def Misalignment.message : Misalignment → String
  | .count values attributes =>
    "backend returned " ++ toString values ++ " values for " ++ toString attributes ++
      " attributes"
  | .mismatch raw spec =>
    "value for '" ++ raw.field ++ "' (" ++ raw.value.shape.word ++
      ") does not match attribute '" ++ spec.name ++ "' (" ++ spec.shape.word ++ " " ++
      spec.field ++ ")"

/-- A value that answers an attribute: read from its field, and of its shape. -/
def RawValue.fits (raw : RawValue) (spec : AttributeSpec) : Bool :=
  spec.field == raw.field && spec.shape == raw.value.shape

/-- The first reason why values do not fit the attributes one by one. -/
def misalignment? (specs : List AttributeSpec) (values : List RawValue) : Option Misalignment :=
  if values.length ≠ specs.length then some (.count values.length specs.length)
  else ((specs.zip values).find? fun (spec, raw) ↦ !raw.fits spec).map fun (spec, raw) ↦
    .mismatch raw spec

/-- The attribute reported for a value. -/
def AttributeSpec.report (spec : AttributeSpec) (raw : RawValue) : ContextAttribute where
  name := spec.name
  type := spec.shape.attributeType
  value := raw.value.toJson

/-- What is logged about an error. -/
def QueryError.record (error : QueryError) : LogRecord :=
  if error.isClientError then
    { level := .debug, message := "queryContext rejected", code := error.statusCode,
      error := error.text, cause := none }
  else
    { level := .error, message := "queryContext failed", code := error.statusCode,
      error := error.text,
      cause := some (if error.causes.isEmpty then "-" else Text.joined ": " error.causes) }

/-- The status reported for an error. -/
def QueryError.status (error : QueryError) : StatusCode where
  code := toString error.statusCode
  reasonPhrase := error.reasonPhrase
  details := some error.publicDetails

/-- The answer to a failed request. -/
def Answer.failure (entity : Entity) (error : QueryError) : Answer where
  envelope := .single (entity.element []) error.status
  log := [error.record]

/-- The answer to a request whose values fit its mapping. -/
def Answer.success (entity : Entity) (mapping : Mapping) (values : List RawValue) : Answer where
  envelope := .single
    (entity.element ((mapping.specs.zip values).map fun (spec, raw) ↦ spec.report raw)) .ok
  log := []

/-- The answer to a request, from what its backend gave. -/
def assemble (entity : Entity) (mapping : Mapping) (values : Except QueryError (List RawValue)) :
    Answer :=
  match values with
  | .error error => .failure entity error
  | .ok values =>
    match misalignment? mapping.specs values with
    | some fault => .failure entity (.inconsistent fault.message)
    | none => .success entity mapping values

end ContextProvider
