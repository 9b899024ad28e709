import ContextProvider.Proofs.Backend.Coercion
import ContextProvider.Proofs.Client.Failure
import ContextProvider.Proofs.Json.Recognition
import ContextProvider.Proofs.Json.Record
import ContextProvider.Proofs.Text.Separation
import Mathlib

/-!
# The messages of errors

A data source may say in the body of a reply what went wrong: as a record of errors that all have a
message, or in any other text. A body that is such a record speaks through its messages, one after
another; a single entry without a message makes it a text like any other. A text speaks for itself,
and where there is none the status does. However long that is, the first two hundred characters are
kept, and characters are never cut.
-/

namespace ContextProvider.FetchReply

open Json Text

/-! ## Records of errors -/

/-- The trees that describe an error: an object with a message and any further members, or the
message by position. -/
inductive ErrorDescribedBy (message : String) : Tree → Prop
  | object {members : Members} (once : members.DeclareOnce ["message"])
      (given : members.get? "message" = some (.string (some message))) :
      ErrorDescribedBy message (.object members)
  | positional : ErrorDescribedBy message (.array [.string (some message)])

/-- The trees that describe a record with the given entries for its errors: an object with any
further members, or the entries by position. -/
inductive ErrorsGiven (entries : List Tree) : Tree → Prop
  | object {members : Members} (once : members.DeclareOnce ["errors"])
      (given : members.get? "errors" = some (.array entries)) :
      ErrorsGiven entries (.object members)
  | positional : ErrorsGiven entries (.array [.array entries])

/-- A body that is the text of a record with the given entries for its errors. -/
def HasErrors (body : String) (entries : List Tree) : Prop :=
  ∃ tree : Tree, tree.WrittenText (body.toList.map some) ∧ ErrorsGiven entries tree

/-- A body that is the text of a record of errors with the given messages. -/
def Lists (body : String) (messages : List String) : Prop :=
  ∃ entries, HasErrors body entries ∧
    List.Forall₂ (fun entry message ↦ ErrorDescribedBy message entry) entries messages

theorem entryMessage?_eq_some_iff {room : Nat} {entry : Tree} {message : String} :
    entryMessage? (room + 1) entry = some message ↔ ErrorDescribedBy message entry := by
  simp only [entryMessage?, Tree.record?_required_eq_some_iff, Tree.text?_eq_some_iff]
  constructor
  · rintro (⟨members, _, rfl, honce, hgiven, rfl⟩ | ⟨_, rfl, rfl⟩)
    · exact .object honce hgiven
    · exact .positional
  · rintro (⟨honce, hgiven⟩ | _)
    · exact .inl ⟨_, _, rfl, honce, hgiven, rfl⟩
    · exact .inr ⟨_, rfl, rfl⟩

/-- The messages are found in exactly the bodies that list them. -/
theorem lists_iff {body : String} {messages : List String} :
    Lists body messages ↔ structuredMessages? body = some messages := by
  have hrecord (tree : Tree) :
      ((tree.record? ["errors"] (126 + 1)).bind fun record ↦
          record.required "errors" (Tree.list? (125 + 1) entryMessage?)) = some messages ↔
        ∃ entries, ErrorsGiven entries tree ∧
          List.Forall₂ (fun entry message ↦ ErrorDescribedBy message entry) entries messages := by
    simp only [Tree.record?_required_eq_some_iff, Tree.list?_eq_some_iff, entryMessage?_eq_some_iff]
    constructor
    · rintro (⟨members, _, rfl, honce, hgiven, entries, rfl, hentries⟩ |
        ⟨_, rfl, entries, rfl, hentries⟩)
      · exact ⟨entries, .object honce hgiven, hentries⟩
      · exact ⟨entries, .positional, hentries⟩
    · rintro ⟨entries, ⟨honce, hgiven⟩ | _, hentries⟩
      · exact .inl ⟨_, _, rfl, honce, hgiven, entries, rfl, hentries⟩
      · exact .inr ⟨_, rfl, entries, rfl, hentries⟩
  have hread : structuredMessages? body = some messages ↔ ∃ tree : Tree,
      tree.WrittenText (body.toList.map some) ∧ ∃ entries, ErrorsGiven entries tree ∧
        List.Forall₂ (fun entry message ↦ ErrorDescribedBy message entry) entries messages := by
    rw [structuredMessages?, Option.bind_eq_bind, Option.bind_eq_some_iff]
    simp only [Tree.ofText?, Tree.ofSymbols?_eq_some_iff]
    exact exists_congr fun tree ↦ and_congr_right fun _ ↦ hrecord tree
  rw [hread]
  simp only [Lists, HasErrors]
  grind

theorem ErrorsGiven.eq {entries others : List Tree} {tree : Tree}
    (h : ErrorsGiven entries tree) (hothers : ErrorsGiven others tree) : entries = others := by
  cases h with
  | object _ given =>
    obtain ⟨_, other⟩ := hothers
    cases given.symm.trans other
    rfl
  | positional =>
    cases hothers
    rfl

theorem HasErrors.eq {body : String} {entries others : List Tree} (h : HasErrors body entries)
    (hothers : HasErrors body others) : entries = others := by
  obtain ⟨tree, hwritten, hgiven⟩ := h
  obtain ⟨other, hother, hgivenother⟩ := hothers
  have hsame := (Tree.ofSymbols?_eq_some_iff.mpr hwritten).symm.trans
    (Tree.ofSymbols?_eq_some_iff.mpr hother)
  cases hsame
  exact hgiven.eq hgivenother

theorem not_isBlankChar_of_beginsValue {c : Char} (h : BeginsValue c) : isBlankChar c = false := by
  have hmarks : ∀ mark ∈ ['n', 't', 'f', '"', '[', '\x7b', '-'], isBlankChar mark = false := by
    simp [isBlankChar]
  obtain hmem | hdigit := h
  · exact hmarks c hmem
  · exact Observation.isBlankChar_of_isDigit hdigit

/-- What is the text of a tree is not blank. -/
theorem not_isBlank_of_writtenText {body : String} {tree : Tree}
    (h : tree.WrittenText (body.toList.map some)) : ¬ isBlank body := by
  intro hblank
  obtain ⟨before, t, after, -, hwritten, -, hbody⟩ := h
  obtain ⟨c, rest, rfl, hbegins⟩ := hwritten.exists_cons
  have hmem : some c ∈ body.toList.map some := by
    rw [hbody]
    simp
  have hc : c ∈ body.toList := by simpa using hmem
  cases (not_isBlankChar_of_beginsValue hbegins).symm.trans
    (forall_isBlankChar_of_isBlank hblank c hc)

/-! ## What is said, and how much of it is kept -/

/-- What a body says in full, in a reply with the given status. -/
inductive Says (body : String) (status : Nat) : String → Prop
  | structured {messages : List String} (listed : Lists body messages) (given : messages ≠ []) :
      Says body status (joined "; " messages)
  | blank (unlisted : ∀ messages, Lists body messages → messages = []) (blank : isBlank body) :
      Says body status ("HTTP " ++ statusText status)
  | raw (unlisted : ∀ messages, Lists body messages → messages = []) (filled : ¬ isBlank body) :
      Says body status (trim body)

/-- The kept text is the beginning of the full one, and has all its characters up to two
hundred. -/
structure Keeps (full kept : String) : Prop where
  beginning : ∃ rest, full = kept ++ rest
  length : kept.length = min 200 full.length

section

variable {body : String} {status : Nat} {full message : String}

theorem says_iff : Says body status full ↔ fullMessage body status = full := by
  unfold fullMessage
  constructor
  · rintro (⟨listed, given⟩ | ⟨unlisted, blank⟩ | ⟨unlisted, filled⟩)
    · rw [lists_iff.mp listed]
      obtain ⟨first, more, rfl⟩ := List.exists_cons_of_ne_nil given
      rfl
    all_goals
      split
      · rename_i listed
        cases unlisted _ (lists_iff.mpr listed)
      · simp [*]
  · rintro rfl
    split
    · rename_i listed
      exact .structured (lists_iff.mpr listed) (List.cons_ne_nil _ _)
    · rename_i hnone
      have unlisted (messages : List String) (listed : Lists body messages) : messages = [] := by
        cases messages with
        | nil => rfl
        | cons first more => exact absurd (lists_iff.mp listed) (hnone first more)
      split
      · exact .blank unlisted ‹_›
      · exact .raw unlisted ‹_›

theorem keeps_iff : Keeps full message ↔ String.ofList (full.toList.take 200) = message := by
  constructor
  · rintro ⟨⟨rest, rfl⟩, hlength⟩
    have htaken : message.toList = (message ++ rest).toList.take message.toList.length := by simp
    rw [String.length_toList, hlength, ← String.length_toList, ← List.take_eq_take_min] at htaken
    rw [← htaken, String.ofList_toList]
  · rintro rfl
    refine ⟨⟨String.ofList (full.toList.drop 200), ?_⟩, ?_⟩
    · rw [← String.ofList_append, List.take_append_drop, String.ofList_toList]
    · rw [String.length_ofList, List.length_take, String.length_toList]

theorem Keeps.eq (h : Keeps full message) (hshort : full.length ≤ 200) : message = full := by
  have htaken := List.take_of_length_le (String.length_toList ▸ hshort)
  rw [← keeps_iff.mp h, htaken, String.ofList_toList]

theorem Keeps.refl (hshort : full.length ≤ 200) : Keeps full full :=
  ⟨⟨"", String.append_empty.symm⟩, (min_eq_right hshort).symm⟩

theorem errorMessage_eq_iff :
    errorMessage body status = message ↔ ∃ full, Says body status full ∧ Keeps full message := by
  simp only [says_iff, keeps_iff, errorMessage, messageLimit, exists_eq_left']

/-- A single entry without a message makes the body a text like any other. -/
theorem Says.of_spoilt {entries : List Tree} (herrors : HasErrors body entries)
    (hspoilt : ∃ entry ∈ entries, ∀ message, ¬ ErrorDescribedBy message entry) :
    Says body status (trim body) := by
  refine .raw (fun messages hlists ↦ ?_) ?_
  · obtain ⟨others, hothers, hdescribed⟩ := hlists
    cases herrors.eq hothers
    obtain ⟨entry, hentry, hnone⟩ := hspoilt
    obtain ⟨i, hi, rfl⟩ := List.getElem_of_mem hentry
    exact absurd (hdescribed.get hi (hdescribed.length_eq ▸ hi)) (hnone _)
  · obtain ⟨tree, hwritten, -⟩ := herrors
    exact not_isBlank_of_writtenText hwritten

/-- A reply is an error with a message exactly if its status is neither a success nor about too
many requests, and the message is then the one of its text. -/
theorem readJson_eq_status_iff {reply : FetchReply} {code : Nat} :
    reply.readJson = .error (.status code message) ↔
      reply.status = code ∧ code ≠ 429 ∧ (code < 200 ∨ 300 ≤ code) ∧
        errorMessage reply.text code = message := by
  constructor
  · intro h
    by_cases hlimited : reply.status = 429
    · cases (readJson_of_limited hlimited).symm.trans h
    by_cases hsuccess : reply.isSuccess
    · cases hdecoded : reply.body.bind ofJsonBytes? with
      | none => cases (readJson_of_undecodable hsuccess hdecoded).symm.trans h
      | some value => cases (readJson_of_value hsuccess hdecoded).symm.trans h
    · cases (readJson_of_refused hlimited hsuccess).symm.trans h
      exact ⟨rfl, hlimited, not_isSuccess_iff.mp hsuccess, rfl⟩
  · rintro ⟨rfl, hother, hrange, rfl⟩
    exact readJson_of_refused hother (not_isSuccess_iff.mpr hrange)

end

/-- The message of a body is the beginning of what the body says, and never longer than two hundred
characters. If one of the errors that a body records has no message, the body speaks as it is, and
no message of another error stands for it. A reply with a status that is neither a success nor
about too many requests is read as an error with the message of its text. -/
theorem errorMessage_is_beginning (body : String) (status : Nat) :
    (∀ message, errorMessage body status = message ↔
      ∃ full, Says body status full ∧ Keeps full message) ∧
    (errorMessage body status).length ≤ 200 ∧
    (∀ entries, HasErrors body entries →
      (∃ entry ∈ entries, ∀ message, ¬ ErrorDescribedBy message entry) →
      Keeps (trim body) (errorMessage body status)) ∧
    ∀ (reply : FetchReply) (code : Nat) (message : String),
      reply.readJson = .error (.status code message) ↔
        reply.status = code ∧ code ≠ 429 ∧ (code < 200 ∨ 300 ≤ code) ∧
          ∃ full, Says reply.text code full ∧ Keeps full message := by
  refine ⟨fun message ↦ errorMessage_eq_iff, ?_, fun entries herrors hspoilt ↦ ?_,
    fun reply code message ↦ ?_⟩
  · obtain ⟨full, -, hkeeps⟩ := errorMessage_eq_iff.mp (Eq.refl (errorMessage body status))
    rw [hkeeps.length]
    exact min_le_left 200 full.length
  · obtain ⟨full, hsays, hkeeps⟩ := errorMessage_eq_iff.mp (Eq.refl (errorMessage body status))
    have hraw : full = trim body :=
      (says_iff.mp hsays).symm.trans (says_iff.mp (.of_spoilt herrors hspoilt))
    exact hraw ▸ hkeeps
  · rw [readJson_eq_status_iff, errorMessage_eq_iff]

/-- A record of two errors, the second of which has no message. -/
def spoiltText : String :=
  "\n\x7b\"errors\":[\x7b\"message\":\"Over capacity\"\x7d,\x7b\"code\":130\x7d]\x7d "

/-- A record of two errors with messages. -/
def listedText : String :=
  "\x7b\"errors\":[\x7b\"code\":89,\"message\":\"Invalid or expired token.\"\x7d,[\"again\"]]\x7d"

theorem errorMessage_is_beginning_spoilt :
    errorMessage spoiltText 503 = trim spoiltText ∧
    errorMessage listedText 401 = "Invalid or expired token.; again" ∧
    errorMessage (String.ofList (List.replicate 201 'é')) 502 =
      String.ofList (List.replicate 200 'é') := by
  have hspoilt : ∃ entries, HasErrors spoiltText entries ∧
      ∃ entry ∈ entries, ∀ message, ¬ ErrorDescribedBy message entry := by
    have hread : Tree.ofSymbols? (spoiltText.toList.map some) =
        some (.object [(some "errors", .array
          [.object [(some "message", .string (some "Over capacity"))],
            .object [(some "code", .number ⟨false, ['1', '3', '0'], none, none⟩)]])]) := by
      cbv
    refine ⟨_, ⟨_, Tree.ofSymbols?_eq_some_iff.mp hread, .object ⟨by simp, by simp⟩ rfl⟩,
      _, List.mem_cons_of_mem _ List.mem_cons_self, ?_⟩
    rintro message (⟨-, given⟩)
    cases given
  have hlisted : Lists listedText ["Invalid or expired token.", "again"] :=
    lists_iff.mpr (by cbv)
  have hunlisted (n : Nat) :
      structuredMessages? (String.ofList (List.replicate (n + 1) 'é')) = none := by
    rw [structuredMessages?, Tree.ofText?, String.toList_ofList]
    rfl
  have hsays (n status : Nat) : Says (String.ofList (List.replicate (n + 1) 'é')) status
      (String.ofList (List.replicate (n + 1) 'é')) := by
    have hvisible : ∀ c ∈ (String.ofList (List.replicate (n + 1) 'é')).toList,
        isBlankChar c = false := by
      simp [isBlankChar]
    rw [says_iff, fullMessage, hunlisted, trim_of_no_blank hvisible]
    simp [isBlank, isBlankChar]
  refine ⟨?_, ?_, ?_⟩
  · obtain ⟨entries, herrors, hentry⟩ := hspoilt
    have hkeeps := (errorMessage_is_beginning spoiltText 503).2.2.1 entries herrors hentry
    exact hkeeps.eq (by decide +kernel)
  · exact ((errorMessage_is_beginning listedText 401).1 _).mpr
      ⟨_, .structured hlisted (by simp), .refl (by decide +kernel)⟩
  · refine ((errorMessage_is_beginning _ 502).1 _).mpr ⟨_, hsays 200 502, ?_⟩
    rw [keeps_iff, String.toList_ofList, List.take_replicate]
    rfl

end ContextProvider.FetchReply
