import ContextProvider.Proofs.Text.Percent
import ContextProvider.Url.Reader
import ContextProvider.Url.Sendable

/-!
# Which URLs can be sent

The parts of a URL that are kept encoded hold no character that could not be sent, neither when the
URL is read nor after segments or pairs have been added to it. So the host and the length decide on
their own, and of these only the length depends on what is added.
-/

namespace ContextProvider.Url

open Text

/-! ## Encoded characters -/

/-- A condition that holds of the characters kept in an encoded text, of the percent sign and of the
digits behind it. -/
structure Admits (p : Char → Bool) (keep : UInt8 → Bool) : Prop where
  kept : ∀ b, keep b → p (Char.ofNat b.toNat)
  percent : p '%'
  digit : ∀ n < 16, p (upperHexChar n)

section

variable {p : Char → Bool} {keep : UInt8 → Bool}

theorem Admits.of_lt (hkept : ∀ n < 256, keep (UInt8.ofNat n) → p (Char.ofNat n))
    (hpercent : p '%') (hdigit : ∀ n < 16, p (upperHexChar n)) : Admits p keep where
  kept b hb := hkept b.toNat b.toNat_lt (by rwa [UInt8.ofNat_toNat])
  percent := hpercent
  digit := hdigit

theorem Admits.all_percentEncode (h : Admits p keep) (bytes : List UInt8) :
    (percentEncode keep bytes).all p :=
  List.all_eq_true.mpr (forall_mem_percentEncode h.kept h.percent h.digit bytes)

theorem Admits.all_encodeChars (h : Admits p keep) (s : List Char) :
    (encodeChars keep s).toList.all p := by
  rw [encodeChars, String.toList_ofList]
  exact h.all_percentEncode _

end

theorem admits_keepInCredentials : Admits isCredentialsChar keepInCredentials :=
  .of_lt (by decide +kernel) (by decide) (by decide)

theorem admits_keepInPath : Admits isPathChar keepInPath :=
  .of_lt (by decide +kernel) (by decide) (by decide)

theorem admits_keepInSegment (special : Bool) : Admits isPathChar (keepInSegment special) where
  kept b hb := by
    simp only [keepInSegment, Bool.and_eq_true] at hb
    exact admits_keepInPath.kept b hb.1.1
  percent := by decide
  digit := by decide

theorem admits_keepInQuery (special : Bool) : Admits isQueryChar (keepInQuery special) := by
  cases special <;> exact .of_lt (by decide +kernel) (by decide) (by decide)

theorem admits_keepInForm : Admits isQueryChar keepInForm :=
  .of_lt (by decide +kernel) (by decide) (by decide)

/-! ## Paths -/

/-- A path whose characters can all be sent. -/
def IsSentPath (path : List String) : Prop :=
  ∀ segment ∈ path, segment.toList.all isPathChar

theorem IsSentPath.append {front rest : List String} (hfront : IsSentPath front)
    (hrest : IsSentPath rest) : IsSentPath (front ++ rest) :=
  List.forall_mem_append.mpr ⟨hfront, hrest⟩

theorem isSentPath_nil : IsSentPath [] := List.forall_mem_nil _

theorem isSentPath_singleton {segment : String} (h : segment.toList.all isPathChar) :
    IsSentPath [segment] :=
  List.forall_mem_singleton.mpr h

theorem IsSentPath.of_subset {front path : List String} (h : IsSentPath path)
    (hfront : front ⊆ path) : IsSentPath front :=
  fun segment hsegment ↦ h segment (hfront hsegment)

theorem IsSentPath.dropLast {path : List String} (h : IsSentPath path) :
    IsSentPath path.dropLast :=
  h.of_subset (List.dropLast_subset path)

theorem isSentPath_enter {path : List String} {segment : String} (h : IsSentPath path)
    (hsegment : segment.toList.all isPathChar) : IsSentPath (enter path segment) := by
  unfold enter
  split
  · exact h.dropLast
  · split
    · exact h
    · exact h.append (isSentPath_singleton hsegment)

theorem isSentPath_finish {path : List String} {segment : String} (h : IsSentPath path)
    (hsegment : segment.toList.all isPathChar) : IsSentPath (finish path segment) := by
  have hempty : IsSentPath [""] := isSentPath_singleton rfl
  unfold finish
  split
  · exact h.dropLast.append hempty
  · split
    · exact h.append hempty
    · exact h.append (isSentPath_singleton hsegment)

theorem isSentPath_resolveFrom {path segments : List String} (h : IsSentPath path)
    (hsegments : IsSentPath segments) : IsSentPath (resolveFrom path segments) := by
  induction segments generalizing path with
  | nil => exact h
  | cons segment rest ih =>
    obtain ⟨hsegment, hrest⟩ := List.forall_mem_cons.mp hsegments
    cases rest with
    | nil => exact isSentPath_finish h hsegment
    | cons next rest => exact ih (isSentPath_enter h hsegment) hrest

theorem isSentPath_push {special : Bool} {path : List String} (h : IsSentPath path)
    (text : String) : IsSentPath (push special path text) := by
  unfold push
  split
  · exact h
  · apply isSentPath_finish
    · split
      · exact isSentPath_nil
      · exact h
    · exact (admits_keepInSegment special).all_encodeChars _

theorem isSentPath_foldl_push {special : Bool} {path : List String} (h : IsSentPath path)
    (texts : List String) : IsSentPath (texts.foldl (push special) path) := by
  induction texts generalizing path with
  | nil => exact h
  | cons text texts ih => exact ih (isSentPath_push h text)

theorem isSentPath_extend {special : Bool} {path : List String} (h : IsSentPath path)
    (texts : List String) : IsSentPath (extend special path texts) := by
  apply isSentPath_foldl_push
  unfold dropTrailingSlash
  split
  · exact h.dropLast
  · exact h

theorem isSentPath_readSegments (s : List Char) : IsSentPath (readSegments s) :=
  isSentPath_resolveFrom isSentPath_nil
    (List.forall_mem_map.mpr fun _ _ ↦ admits_keepInPath.all_encodeChars _)

theorem isSentPath_readPath (special : Bool) (s : List Char) : IsSentPath (readPath special s) := by
  simp only [readPath]
  split
  · split
    · exact isSentPath_singleton rfl
    · exact isSentPath_nil
  · exact isSentPath_readSegments _
  · exact isSentPath_readSegments _

/-! ## Queries -/

theorem all_formText (s : String) : (formText s).all isQueryChar := by
  rw [formText, List.all_flatMap, List.all_eq_true]
  intro b _
  rw [formByte]
  split
  · rfl
  · exact admits_keepInForm.all_percentEncode [b]

theorem all_formPair (pair : String × String) : (formPair pair).all isQueryChar := by
  have hequals : isQueryChar '=' := by decide
  simp [formPair, all_formText, hequals]

theorem all_appendPairs {query : List Char} (h : query.all isQueryChar)
    (pairs : List (String × String)) : (appendPairs query pairs).all isQueryChar := by
  have hampersand : isQueryChar '&' := by decide
  induction pairs generalizing query with
  | nil => exact h
  | cons pair pairs ih =>
    have hnext : (if query.isEmpty then formPair pair
        else query ++ '&' :: formPair pair).all isQueryChar := by
      split
      · exact all_formPair pair
      · simp [h, hampersand, all_formPair]
    exact ih hnext

theorem isPrefix_appendPairs (query : List Char) (pairs : List (String × String)) :
    query <+: appendPairs query pairs := by
  induction pairs generalizing query with
  | nil => exact List.prefix_rfl
  | cons pair pairs ih =>
    have hstep : query <+:
        if query.isEmpty then formPair pair else query ++ '&' :: formPair pair := by
      cases query with
      | nil => exact List.nil_prefix
      | cons c rest => exact List.prefix_append _ _
    exact hstep.trans (ih _)

/-- Every pair stands in the query that it has been added to. -/
theorem formPair_isInfix_appendPairs (query : List Char) {pair : String × String}
    {pairs : List (String × String)} (h : pair ∈ pairs) :
    formPair pair <:+: appendPairs query pairs := by
  induction pairs generalizing query with
  | nil => cases h
  | cons first pairs ih =>
    rcases List.mem_cons.mp h with rfl | hrest
    · have hend : formPair pair <:+
          if query.isEmpty then formPair pair else query ++ '&' :: formPair pair := by
        split
        · exact List.suffix_rfl
        · exact (List.suffix_cons '&' _).trans (List.suffix_append query _)
      exact hend.isInfix.trans (isPrefix_appendPairs _ pairs).isInfix
    · exact ih _ hrest

theorem length_le_utf8ByteSize (s : List Char) : s.length ≤ (String.ofList s).utf8ByteSize := by
  induction s with
  | nil => exact Nat.zero_le _
  | cons c rest ih =>
    have hsplit : String.ofList (c :: rest) = String.singleton c ++ String.ofList rest := by
      rw [String.singleton_eq_ofList, ← String.ofList_append]
      rfl
    have hpos := c.utf8Size_pos
    rw [hsplit, String.utf8ByteSize_append, String.utf8ByteSize_singleton, List.length_cons]
    omega

/-! ## Whole URLs -/

/-- All characters of the encoded parts of a URL can be sent. -/
structure IsEncoded (url : Url) : Prop where
  username : url.username.toList.all isCredentialsChar
  password : ∀ password ∈ url.password, password.toList.all isCredentialsChar
  path : IsSentPath url.path
  query : ∀ query ∈ url.query, query.toList.all isQueryChar

/-- The host and the length decide whether a URL can be sent. -/
theorem IsEncoded.isSendable_iff {url : Url} (h : url.IsEncoded) : url.isSendable ↔
    url.text.utf8ByteSize ≤ sendableLength ∧ url.host.any Host.isSendable := by
  have hpassword : url.password.all fun password ↦ password.toList.all isCredentialsChar :=
    (Option.all_eq_true _ _).mpr h.password
  have hpath : url.path.all fun segment ↦ segment.toList.all isPathChar :=
    List.all_eq_true.mpr h.path
  have hquery : url.query.all fun query ↦ query.toList.all isQueryChar :=
    (Option.all_eq_true _ _).mpr h.query
  simp only [isSendable, h.username, hpassword, hpath, hquery, Bool.and_true, Bool.and_eq_true,
    decide_eq_true_eq]

/-- The query counts for the length. -/
theorem utf8ByteSize_query_le {url : Url} {query : String} (h : url.query = some query) :
    query.utf8ByteSize ≤ url.text.utf8ByteSize := by
  simp only [text, h, String.utf8ByteSize_append]
  omega

theorem IsEncoded.join {url : Url} (h : url.IsEncoded) (segments : List String) :
    (url.join segments).IsEncoded :=
  { h with path := isSentPath_extend h.path segments }

theorem IsEncoded.addPairs {url : Url} (h : url.IsEncoded) (pairs : List (String × String)) :
    (url.addPairs pairs).IsEncoded := by
  have hgiven : (url.query.getD "").toList.all isQueryChar := by
    cases hquery : url.query with
    | none => rfl
    | some query => exact h.query query hquery
  refine { h with query := fun query hquery ↦ ?_ }
  cases hquery
  rw [String.toList_ofList]
  exact all_appendPairs hgiven pairs

theorem IsEncoded.withoutCredentials {url : Url} (h : url.IsEncoded) :
    url.withoutCredentials.IsEncoded :=
  { h with username := rfl, password := nofun }

/-! ## Reading -/

/-- An authority whose credentials can be sent. -/
structure Authority.IsEncoded (authority : Authority) : Prop where
  username : authority.username.toList.all isCredentialsChar
  password : ∀ password ∈ authority.password, password.toList.all isCredentialsChar

theorem isEncoded_withoutCredentials (host : Option Host) (portNumber : Option Nat) :
    Authority.IsEncoded ⟨"", none, host, portNumber⟩ :=
  ⟨rfl, nofun⟩

theorem isEncoded_readCredentials (s : List Char) (host : Option Host) (portNumber : Option Nat) :
    Authority.IsEncoded ⟨(readCredentials s).1, (readCredentials s).2, host, portNumber⟩ := by
  refine ⟨admits_keepInCredentials.all_encodeChars _, fun password hpassword ↦ ?_⟩
  simp only [readCredentials] at hpassword
  split at hpassword
  · cases hpassword
  · cases hpassword
    exact admits_keepInCredentials.all_encodeChars _

theorem isEncoded_of_readAuthority {scheme : String} {s following rest : List Char}
    {authority : Authority} (h : readAuthority scheme s following = .ok (authority, rest)) :
    authority.IsEncoded := by
  unfold readAuthority at h
  simp only [bind, Except.bind, throw, throwThe, MonadExceptOf.throw, pure, Except.pure] at h
  split at h
  · split at h
    · cases h
    · cases h
      exact isEncoded_withoutCredentials _ _
  · rename_i credentials place _
    split at h
    · cases h
    · split at h
      · cases h
      · split at h
        · cases h
        · cases h
          exact isEncoded_readCredentials credentials _ _

theorem isEncoded_withRest {authority : Authority} (h : authority.IsEncoded) (scheme : String)
    (s : List Char) : (withRest scheme authority s).IsEncoded where
  username := h.username
  password := h.password
  path := isSentPath_readPath _ _
  query query hquery := by
    simp only [withRest] at hquery
    split at hquery
    · cases hquery
      exact (admits_keepInQuery _).all_encodeChars _
    · cases hquery

theorem isEncoded_of_readHierarchical {scheme : String} {s : List Char} {url : Url}
    (h : readHierarchical scheme s = .ok url) : url.IsEncoded := by
  unfold readHierarchical at h
  simp only [bind, Except.bind, pure, Except.pure] at h
  split at h
  · cases h
  · rename_i read hread
    cases h
    exact isEncoded_withRest (isEncoded_of_readAuthority hread) _ _

theorem IsEncoded.dropEmptyFront {url : Url} (h : url.IsEncoded) :
    (dropEmptyFront url).IsEncoded := by
  have hpath : IsSentPath (url.path.dropWhile (· == "")) :=
    h.path.of_subset (List.dropWhile_subset _)
  refine { h with path := ?_ }
  unfold Url.dropEmptyFront
  split
  · exact isSentPath_singleton rfl
  · exact hpath

theorem isEncoded_of_readFile {s : List Char} {url : Url} (h : readFile s = .ok url) :
    url.IsEncoded := by
  have hlocal (s : List Char) : (dropEmptyFront (withRest fileScheme noAuthority s)).IsEncoded :=
    (isEncoded_withRest (isEncoded_withoutCredentials none none) _ _).dropEmptyFront
  unfold readFile at h
  simp only [bind, Except.bind, pure, Except.pure] at h
  split at h
  · split at h
    · split at h
      · cases h
        exact hlocal _
      · split at h
        · cases h
        · cases h
          exact (isEncoded_withRest (isEncoded_withoutCredentials _ none) _ _).dropEmptyFront
    · cases h
      exact hlocal _
  · cases h
    exact hlocal _

theorem eq_ok_of_mapError_eq_ok {x : Except Fault Url} {f : Fault → BaseFault} {url : Url}
    (h : x.mapError f = .ok url) : x = .ok url := by
  cases x with
  | error fault => cases h
  | ok found => exact congrArg Except.ok (Except.ok.inj h)

/-- Whatever a URL is read from, its encoded parts can be sent. -/
theorem isEncoded_of_ofText {s : String} {url : Url} (h : ofText s = .ok url) :
    url.IsEncoded := by
  unfold ofText at h
  split at h
  · cases h
  · split at h
    · exact isEncoded_of_readFile (eq_ok_of_mapError_eq_ok h)
    · split at h
      · exact isEncoded_of_readHierarchical (eq_ok_of_mapError_eq_ok h)
      · split at h
        · exact isEncoded_of_readHierarchical (eq_ok_of_mapError_eq_ok h)
        · cases h
          exact isEncoded_withRest (isEncoded_withoutCredentials none none) _ _
        · cases h

end ContextProvider.Url
