import ContextProvider.Proofs.Assembly
import ContextProvider.Query

/-!
# The course of a request

A request ends at the first stage that it does not pass: its body, its mapping, the backend of its
kind. A request that passes them is handed to the backend, and what the backend gives is assembled.
Each request takes exactly one of these courses.
-/

namespace ContextProvider

/-! ## Registered backends -/

theorem Registry.mem_of_find? {registry : Registry} {kind : BackendKind} {backend : Backend}
    (h : registry.find? kind = some backend) : backend ∈ registry.backends :=
  List.mem_reverse.mp (List.mem_of_find?_eq_some h)

theorem Registry.kind_of_find? {registry : Registry} {kind : BackendKind} {backend : Backend}
    (h : registry.find? kind = some backend) : backend.kind = kind := by
  simpa using List.find?_some h

/-! ## Courses -/

section

variable (registry : Registry) (kind : BackendKind) (type mapping : String) (selector : Selector)
  (body : List UInt8)

/-- The ways in which a request ends, with its answer and the questions asked for it. -/
inductive Course : Traced Answer → Prop
  | unreadable {error : QueryError} (read : readEntity body = .error error) :
      Course (.silent (.failure .unnamed error))
  | unparsed {entity : Entity} {fault : MappingFault} (read : readEntity body = .ok entity)
      (parsed : Mapping.parse type mapping = .error fault) :
      Course (.silent (.failure entity fault.toQueryError))
  | unregistered {entity : Entity} {m : Mapping} (read : readEntity body = .ok entity)
      (parsed : Mapping.parse type mapping = .ok m) (found : registry.find? kind = none) :
      Course (.silent (.failure entity
        (.inconsistent ("No backend registered for '" ++ kind.word ++ "'"))))
  | fetched {entity : Entity} {m : Mapping} {backend : Backend}
      (read : readEntity body = .ok entity) (parsed : Mapping.parse type mapping = .ok m)
      (found : registry.find? kind = some backend) :
      Course ⟨assemble entity m (backend.fetch m selector).result,
        (backend.fetch m selector).questions⟩

theorem queryContext_course :
    Course registry kind type mapping selector body
      (queryContext registry kind type mapping selector body) := by
  unfold queryContext
  split
  · exact .unreadable ‹_›
  · split
    · exact .unparsed ‹_› ‹_›
    · unfold Registry.get
      cases hfound : registry.find? kind with
      | none => exact .unregistered ‹_› ‹_› hfound
      | some backend => exact .fetched ‹_› ‹_› hfound

variable {registry kind type mapping selector body}

/-- A request takes one course only. -/
theorem Course.eq_queryContext {answer : Traced Answer}
    (h : Course registry kind type mapping selector body answer) :
    queryContext registry kind type mapping selector body = answer := by
  cases h with
  | unreadable read => simp only [queryContext, read]
  | unparsed read parsed => simp only [queryContext, read, parsed]
  | unregistered read parsed found => simp only [queryContext, read, parsed, Registry.get, found]
  | fetched read parsed found => simp only [queryContext, read, parsed, Registry.get, found]

end

end ContextProvider
