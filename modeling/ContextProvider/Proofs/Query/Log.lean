import ContextProvider.Proofs.Query.Course

/-!
# What is logged

The error that a failed request is answered with is logged once. The record has the code of the
envelope and the full text of the error. If the client is at fault there is nothing more to it;
otherwise the record also tells the causes of the error, all of them from the nearest to the root,
each once. These are the records of answers. A failure of a live data source is also reported where
the source is asked, as a warning of its own; that one is not among them.

The causes are what one reaches from an error by asking, again and again, what it goes back to.
A failed connection may go back to other failures, any number of them, so this is an induction on
that number; each of the other errors goes back to at most one.
-/

namespace ContextProvider

/-! ## Sources -/

/-- What can fail: a request, the fetch behind it, or a connection. A failed connection comes with
the texts of the failures behind it. -/
inductive Failure where
  | request (error : QueryError)
  | fetch (error : FetchError)
  | connection (message : String) (behind : List String)

namespace Failure

/-- The text of a failure. -/
def text : Failure → String
  | request error => error.text
  | fetch error => error.text
  | connection message _ => message

/-- The failure that another one goes back to directly. -/
inductive Source : Failure → Failure → Prop
  | unavailable {backend : BackendKind} {cause : FetchError} :
      Source (.request (.unavailable backend cause)) (.fetch cause)
  | transport {message : String} {causes : List String} :
      Source (.fetch (.transport message causes)) (.connection message causes)
  | behind {message next : String} {rest : List String} :
      Source (.connection message (next :: rest)) (.connection next rest)

/-- The failures that a failure goes back to, one after another, up to one that goes back to
nothing. -/
inductive Chain : Failure → List Failure → Prop
  | root {failure : Failure} (root : ∀ source, ¬ Source failure source) : Chain failure []
  | link {failure source : Failure} {sources : List Failure} (source_of : Source failure source)
      (rest : Chain source sources) : Chain failure (source :: sources)

theorem Source.unique {failure source other : Failure} (h : Source failure source)
    (h' : Source failure other) : source = other := by
  cases h <;> cases h' <;> rfl

/-- There is one chain at most, because each of its links is determined by the one before. -/
theorem Chain.unique {failure : Failure} {sources others : List Failure}
    (h : Chain failure sources) (h' : Chain failure others) : sources = others := by
  induction h generalizing others with
  | root root =>
    cases h' with
    | root _ => rfl
    | link source_of _ => exact absurd source_of (root _)
  | link source_of _ ih =>
    cases h' with
    | root root => exact absurd source_of (root _)
    | link source_of' rest' =>
      cases source_of.unique source_of'
      rw [ih rest']

/-- A failed connection goes back to the failures that came with it. -/
theorem exists_chain_connection (message : String) (behind : List String) :
    ∃ sources, Chain (.connection message behind) sources ∧ sources.map text = behind := by
  induction behind generalizing message with
  | nil => exact ⟨[], .root nofun, rfl⟩
  | cons next rest ih =>
    obtain ⟨sources, hsources, htexts⟩ := ih next
    exact ⟨.connection next rest :: sources, .link .behind hsources,
      by rw [List.map_cons, htexts, text]⟩

theorem exists_chain_fetch (error : FetchError) :
    ∃ sources, Chain (.fetch error) sources ∧ sources.map text = error.causes := by
  cases error with
  | transport message causes =>
    obtain ⟨sources, hsources, htexts⟩ := exists_chain_connection message causes
    exact ⟨.connection message causes :: sources, .link .transport hsources,
      by rw [List.map_cons, htexts, text, FetchError.causes]⟩
  | timeout | rateLimited | status | rejected | malformed | notConfigured =>
    exact ⟨[], .root nofun, rfl⟩

/-- The causes of an error are the texts of its chain. -/
theorem exists_chain (error : QueryError) :
    ∃ sources, Chain (.request error) sources ∧ sources.map text = error.causes := by
  cases error with
  | unavailable backend cause =>
    obtain ⟨sources, hsources, htexts⟩ := exists_chain_fetch cause
    exact ⟨.fetch cause :: sources, .link .unavailable hsources,
      by rw [List.map_cons, htexts, text, QueryError.causes]⟩
  | invalidMapping | duplicateAttribute | unsupportedShape | fixtureNotFound | invalidRequest |
      inconsistent => exact ⟨[], .root nofun, rfl⟩

theorem Chain.map_text {error : QueryError} {sources : List Failure}
    (h : Chain (.request error) sources) : sources.map text = error.causes := by
  obtain ⟨others, hothers, htexts⟩ := exists_chain error
  rw [h.unique hothers, htexts]

theorem chain_nil_iff {error : QueryError} : Chain (.request error) [] ↔ error.causes = [] := by
  constructor
  · intro h
    rw [← h.map_text, List.map_nil]
  · intro hcauses
    obtain ⟨sources, hsources, htexts⟩ := exists_chain error
    rw [hcauses, List.map_eq_nil_iff] at htexts
    exact htexts ▸ hsources

end Failure

/-! ## Records -/

open Failure

/-- A record tells of an error that is reported with the given code. -/
structure LogRecord.TellsOf (record : LogRecord) (reported : Nat) (failed : QueryError) : Prop where
  code : record.code = reported
  error : record.error = failed.text
  message : record.message =
    if 400 ≤ reported ∧ reported < 500 then "queryContext rejected" else "queryContext failed"
  client : record.level = .debug ∧ record.cause = none ↔ 400 ≤ reported ∧ reported < 500
  server : (record.level = .error ∧ ∃ sources, Chain (.request failed) sources ∧
    record.cause = some (if sources = [] then "-" else Text.joined ": " (sources.map text))) ↔
      ¬ (400 ≤ reported ∧ reported < 500)
  dash : record.cause = some "-" ↔ record.level = .error ∧ Chain (.request failed) []

theorem FetchError.one_lt_length_text (error : FetchError) : 1 < error.text.length := by
  have hlong (opening rest : String) (h : 1 < opening.length) :
      1 < (opening ++ rest).length := by
    rw [String.length_append]
    omega
  cases error with
  | transport message causes => exact hlong "HTTP request failed: " message (by decide)
  | timeout => decide
  | rateLimited => decide
  | status code message =>
    change 1 < ("Upstream returned status " ++ toString code ++ ": " ++ message).length
    rw [String.append_assoc, String.append_assoc]
    exact hlong _ _ (by decide)
  | rejected reason => exact hlong "Upstream rejected the request: " reason (by decide)
  | malformed reason => exact hlong "Malformed upstream payload: " reason (by decide)
  | notConfigured what => exact hlong "Upstream not configured: " what (by decide)

/-- No chain of causes is written as a dash, because its first text is longer than that. -/
theorem FetchError.joined_ne_dash (error : FetchError) (texts : List String) :
    Text.joined ": " (error.text :: texts) ≠ "-" := by
  have happend : Text.joined ": " (error.text :: texts) =
      error.text ++ Text.joined ": " ("" :: texts) := by
    rw [Text.joined, Text.joined, ← String.intercalate_cons_append, String.append_empty]
  intro hdash
  have hlength : error.text.length + (Text.joined ": " ("" :: texts)).length = 1 := by
    rw [← String.length_append, ← happend, hdash]
    rfl
  have hlong := error.one_lt_length_text
  omega

theorem QueryError.causeText_eq_dash_iff (error : QueryError) :
    (if error.causes.isEmpty then "-" else Text.joined ": " error.causes) = "-" ↔
      error.causes = [] := by
  cases error with
  | unavailable backend cause => simp [QueryError.causes, cause.joined_ne_dash]
  | invalidMapping | duplicateAttribute | unsupportedShape | fixtureNotFound | invalidRequest |
      inconsistent => simp [QueryError.causes]

theorem QueryError.isClientError_iff {error : QueryError} :
    error.isClientError = true ↔ 400 ≤ error.statusCode ∧ error.statusCode < 500 := by
  simp [isClientError]

/-- The record of an error tells of it under its own code. -/
theorem QueryError.tellsOf_record (error : QueryError) :
    error.record.TellsOf error.statusCode error := by
  obtain ⟨sources, hchain, htexts⟩ := exists_chain error
  by_cases hclient : 400 ≤ error.statusCode ∧ error.statusCode < 500
  · rw [record, if_pos (isClientError_iff.mpr hclient)]
    exact ⟨rfl, rfl, (if_pos hclient).symm, iff_of_true ⟨rfl, rfl⟩ hclient,
      iff_of_false (fun h ↦ nomatch h.1) (not_not_intro hclient), iff_of_false nofun nofun⟩
  · have hcause : (if error.causes.isEmpty then "-" else Text.joined ": " error.causes) =
        if sources = [] then "-" else Text.joined ": " (sources.map Failure.text) := by
      simp only [← htexts, List.isEmpty_iff, List.map_eq_nil_iff]
    rw [record, if_neg (mt isClientError_iff.mp hclient)]
    refine ⟨rfl, rfl, (if_neg hclient).symm, iff_of_false (fun h ↦ nomatch h.1) hclient,
      iff_of_true ⟨rfl, sources, hchain, congrArg some hcause⟩ hclient, ?_⟩
    rw [Option.some_inj, error.causeText_eq_dash_iff, chain_nil_iff]
    exact (and_iff_right rfl).symm

/-! ## Answers -/

/-- A success that is not recorded, or an error with the one record that tells of it. -/
def Answer.RecordedOnce (answer : Answer) : Prop :=
  answer.envelope.statusNumber = 200 ∧ answer.log = [] ∨
    answer.envelope.statusNumber ≠ 200 ∧
      ∃ (entity : Entity) (error : QueryError) (record : LogRecord),
        answer.envelope = ⟨[entity.failed error]⟩ ∧ answer.log = [record] ∧
          record.TellsOf answer.envelope.statusNumber error

theorem Answer.tellsOf_failure (entity : Entity) (error : QueryError) :
    error.record.TellsOf (failure entity error).envelope.statusNumber error := by
  have hnumber : (failure entity error).envelope.statusNumber = error.statusCode :=
    entity.statusNumber_failed error
  rw [hnumber]
  exact error.tellsOf_record

theorem Answer.recordedOnce_failure (entity : Entity) (error : QueryError) :
    (failure entity error).RecordedOnce :=
  .inr ⟨entity.statusNumber_failed_ne error, entity, error, error.record, rfl, rfl,
    tellsOf_failure entity error⟩

theorem recordedOnce_assemble (entity : Entity) (m : Mapping)
    (values : Except QueryError (List RawValue)) : (assemble entity m values).RecordedOnce := by
  rcases assemble_cases entity m values with ⟨given, hsuccess⟩ | ⟨error, hfailure⟩
  · rw [hsuccess]
    exact .inl ⟨entity.statusNumber_complete m given, rfl⟩
  · rw [hfailure]
    exact Answer.recordedOnce_failure entity error

theorem recordedOnce_queryContext (registry : Registry) (kind : BackendKind)
    (type mapping : String) (selector : Selector) (body : List UInt8) :
    (queryContext registry kind type mapping selector body).result.RecordedOnce := by
  have hcourse := queryContext_course registry kind type mapping selector body
  generalize queryContext registry kind type mapping selector body = answer at hcourse ⊢
  cases hcourse with
  | unreadable _ => exact Answer.recordedOnce_failure _ _
  | unparsed _ _ => exact Answer.recordedOnce_failure _ _
  | unregistered _ _ _ => exact Answer.recordedOnce_failure _ _
  | fetched _ _ _ => exact recordedOnce_assemble _ _ _

/-- Every error has one chain of sources, of whatever length, and its answer has one record, which
tells of that error and of the whole chain. Whatever is assembled is a success without a record or
an error with one, and so is the answer to any request, at whichever stage it ends. -/
theorem failures_recorded_once :
    (∀ error : QueryError, ∃! sources, Chain (.request error) sources) ∧
    (∀ (entity : Entity) (error : QueryError), ∃ record : LogRecord,
      (Answer.failure entity error).log = [record] ∧
        record.TellsOf (Answer.failure entity error).envelope.statusNumber error) ∧
    (∀ (entity : Entity) (m : Mapping),
      (∀ error, assemble entity m (.error error) = .failure entity error) ∧
        ∀ values, (assemble entity m values).RecordedOnce) ∧
    ∀ (registry : Registry) (kind : BackendKind) (type mapping : String) (selector : Selector)
      (body : List UInt8),
      (queryContext registry kind type mapping selector body).result.RecordedOnce := by
  refine ⟨fun error ↦ ?_, fun entity error ↦ ?_, fun entity m ↦ ?_, recordedOnce_queryContext⟩
  · obtain ⟨sources, hsources, -⟩ := exists_chain error
    exact ⟨sources, hsources, fun others hothers ↦ hothers.unique hsources⟩
  · exact ⟨error.record, rfl, Answer.tellsOf_failure entity error⟩
  · exact ⟨fun _ ↦ rfl, recordedOnce_assemble entity m⟩

example :
    (QueryError.unavailable .weather (.transport "sending" ["refused", "reset"])).record.cause =
      some "HTTP request failed: sending: sending: refused: reset" := by decide

end ContextProvider
