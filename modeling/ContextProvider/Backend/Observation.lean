import ContextProvider.Backend.Live
import ContextProvider.Number.Decimal
import ContextProvider.Text.Blank

/-!
# Readings from an observation

The selector is a place. Each attribute is a reading of one field of the current observation
there: a number, or a string that spells one, with at most one percent sign behind it and blanks
anywhere around.
-/

namespace ContextProvider.Observation

open Json Number Text

/-- The characters without one percent sign at their end. -/
def dropPercent (s : List Char) : List Char :=
  if s.getLast? = some '%' then s.dropLast else s

/-- The part of a text that has to spell a number. -/
def numericPart (s : String) : String :=
  String.ofList (trimChars (dropPercent (trimChars s.toList)))

/-- The number that a value stands for. -/
def coerceNumber : Json → Option Double
  | .number n => some n.toDouble
  | .string s => (Double.ofText? (numericPart s)).filter Double.isFinite
  | _ => none

/-- The reading of an attribute. -/
def reading (spec : AttributeSpec) (observation : Fields) : Except FetchError AttributeValue :=
  match observation.get? spec.field with
  | none => .error (.malformed ("observation has no '" ++ spec.field ++ "' field"))
  | some value =>
    match coerceNumber value with
    | some x => .ok (.number x)
    | none =>
      .error (.malformed
        ("observation field '" ++ spec.field ++ "' is not numeric: " ++ value.text))

/-- The backend that answers from observations. -/
def backend (observe : String → Arrival Fields) (limit : Nat) : Backend :=
  Live.backend .weather .scalar .observation observe limit reading

end ContextProvider.Observation
