import ContextProvider.Proofs.Text.Percent
import ContextProvider.Proofs.Text.Separation
import ContextProvider.Url.Path

/-!
# Adding segments to a path

A text that is added to a path becomes one more segment, unless it reads as dots. Encoding neither
makes dots nor hides them, so that whether it does depends on its characters alone, apart from tabs
and line ends. Texts that are added behind two segments therefore cannot lead above the second of
them; at most they leave it empty.
-/

namespace ContextProvider.Url

open Text

/-! ## Dots -/

theorem dotCount?_cons_of_ne {c : Char} (hdot : c ≠ '.') (hpercent : c ≠ '%') (rest : List Char) :
    dotCount? (c :: rest) = none := by
  unfold dotCount?
  split <;> simp_all

theorem dotCount?_triplet {b : UInt8} (h : b ≠ 0x2E) (rest : List Char) :
    dotCount? (percentTriplet b ++ rest) = none := by
  have hb := b.toNat_lt
  have hhigh : ∀ n < 16, upperHexChar n = '2' → n = 2 := by decide
  have hlow : ∀ n < 16, upperHexChar n = 'e' ∨ upperHexChar n = 'E' → n = 14 := by decide
  change dotCount? ('%' :: upperHexChar (b.toNat / 16) :: upperHexChar (b.toNat % 16) :: rest) = _
  unfold dotCount?
  split
  · simp_all
  · simp_all
  · rename_i e more heq
    simp only [List.cons.injEq, true_and] at heq
    obtain ⟨htwo, rfl, rfl⟩ := heq
    rw [if_neg]
    intro he
    have hbyte : b.toNat = 0x2E := by
      have := hhigh _ (by omega) htwo
      have := hlow _ (by omega) he
      omega
    exact h (UInt8.toNat_inj.mp hbyte)
  · rfl

theorem keepInSegment_dot (special : Bool) : keepInSegment special 0x2E = true := by
  cases special <;> decide

theorem keepInSegment_percent (special : Bool) : keepInSegment special 0x25 = false := by
  cases special <;> decide

/-- An encoded segment consists of dots exactly if the bytes are dots. -/
theorem dotCount?_percentEncode_eq_some_iff {special : Bool} {bytes : List UInt8} {n : Nat} :
    dotCount? (percentEncode (keepInSegment special) bytes) = some n ↔
      bytes = List.replicate n 0x2E := by
  induction bytes generalizing n with
  | nil => cases n <;> simp [percentEncode, dotCount?, List.replicate_succ]
  | cons b rest ih =>
    rw [percentEncode_cons]
    by_cases hdot : b = 0x2E
    · subst hdot
      rw [if_pos (keepInSegment_dot special)]
      change (dotCount? (percentEncode (keepInSegment special) rest)).map (· + 1) = some n ↔ _
      cases n <;> simp [ih, List.replicate_succ]
    · have hnone : dotCount? ((if keepInSegment special b then [Char.ofNat b.toNat]
          else percentTriplet b) ++ percentEncode (keepInSegment special) rest) = none := by
        split
        · rename_i hkeep
          apply dotCount?_cons_of_ne
          · intro h
            exact hdot (by rw [← asciiByte_charOfByte b, h]; rfl)
          · intro h
            rw [← asciiByte_charOfByte b, h] at hkeep
            exact absurd hkeep (by simp [asciiByte, keepInSegment_percent])
        · exact dotCount?_triplet hdot _
      rw [hnone]
      cases n <;> simp [List.replicate_succ, hdot]

theorem toUtf8_eq_replicate_dot {s : List Char} {n : Nat} :
    toUtf8 (String.ofList s) = List.replicate n 0x2E ↔ s = List.replicate n '.' := by
  have hdots : toUtf8 (String.ofList (List.replicate n '.')) = List.replicate n 0x2E := by
    rw [toUtf8_of_ascii fun c hc ↦ by rw [List.eq_of_mem_replicate hc]; decide]
    simp [asciiByte]
  rw [← hdots]
  constructor
  · intro h
    have hsame : some (String.ofList s) = some (String.ofList (List.replicate n '.')) := by
      rw [← ofUtf8?_eq_some_iff.mpr rfl, h, ofUtf8?_eq_some_iff.mpr rfl]
    exact String.ofList_injective (Option.some.inj hsame)
  · rintro rfl
    rfl

/-- A text reads as dots in a path if it consists of them apart from tabs and line ends. -/
def ReadsAs (dots : List Char) (text : String) : Prop :=
  dropLineBlanks text.toList = dots

instance (dots : List Char) (text : String) : Decidable (ReadsAs dots text) :=
  inferInstanceAs (Decidable (dropLineBlanks text.toList = dots))

theorem isAbove_encodeSegment {special : Bool} {text : String} :
    isAbove (encodeSegment special text) ↔ ReadsAs ['.', '.'] text := by
  rw [isAbove, encodeSegment, encodeChars, String.toList_ofList, beq_iff_eq,
    dotCount?_percentEncode_eq_some_iff, toUtf8_eq_replicate_dot]
  rfl

theorem isHere_encodeSegment {special : Bool} {text : String} :
    isHere (encodeSegment special text) ↔ ReadsAs ['.'] text := by
  rw [isHere, encodeSegment, encodeChars, String.toList_ofList, beq_iff_eq,
    dotCount?_percentEncode_eq_some_iff, toUtf8_eq_replicate_dot]
  rfl

/-! ## Encoded segments -/

theorem encodeSegment_append (special : Bool) (front rest : String) :
    encodeSegment special (front ++ rest) =
      encodeSegment special front ++ encodeSegment special rest := by
  simp only [encodeSegment, encodeChars, dropLineBlanks, String.toList_append,
    List.filter_append, String.ofList_append, toUtf8_eq_flatMap, List.flatMap_append,
    percentEncode_append]

theorem toNat_lt_of_isAlphanum {c : Char} (h : c.isAlphanum) : c.toNat < 0x80 := by
  have hle : c.val ≤ 'z'.val := by
    rcases Bool.or_eq_true_iff.mp h with hletter | hdigit
    · rcases Bool.or_eq_true_iff.mp hletter with hupper | hlower
      · have hupper : c.val ≤ 'Z'.val := (of_decide_eq_true hupper).2
        exact UInt32.le_trans hupper (by decide)
      · exact of_decide_eq_true (Bool.and_eq_true_iff.mp hlower).2
    · have hnine : c.val ≤ '9'.val := of_decide_eq_true (Bool.and_eq_true_iff.mp hdigit).2
      exact UInt32.le_trans hnine (by decide)
  exact Nat.lt_of_le_of_lt (UInt32.le_iff_toNat_le.mp hle) (by decide)

/-- A text without tabs and line ends. -/
def IsOneLine (text : String) : Prop :=
  ∀ c ∈ text.toList, isLineBlank c = false

instance (text : String) : Decidable (IsOneLine text) :=
  List.decidableBAll (isLineBlank · = false) text.toList

theorem IsOneLine.dropLineBlanks_eq {text : String} (h : IsOneLine text) :
    dropLineBlanks text.toList = text.toList := by
  rw [dropLineBlanks, List.filter_eq_self]
  intro c hc
  rw [h c hc]
  rfl

theorem IsOneLine.append {front rest : String} (hfront : IsOneLine front) (hrest : IsOneLine rest) :
    IsOneLine (front ++ rest) := by
  rw [IsOneLine, String.toList_append]
  exact List.forall_mem_append.mpr ⟨hfront, hrest⟩

theorem keepInSegment_bounds {special : Bool} {b : UInt8} (h : keepInSegment special b) :
    b < 0x80 ∧ b ≠ 0x25 := by
  simp only [keepInSegment, keepInPath, keepInFragment, isVisibleByte, isByteOf, Bool.and_eq_true,
    decide_eq_true_eq, Bool.not_eq_true'] at h
  refine ⟨UInt8.lt_of_le_of_lt h.1.1.1.1.2 (by decide), ?_⟩
  rintro rfl
  exact absurd h.1.2 (by decide)

/-- A segment is decoded to the text that it was encoded from. -/
theorem percentDecodeText?_encodeSegment (special : Bool) {text : String} (h : IsOneLine text) :
    percentDecodeText? (encodeSegment special text) = some text := by
  rw [percentDecodeText?, encodeSegment, encodeChars, h.dropLineBlanks_eq, String.ofList_toList,
    percentDecode_percentEncode fun _ ↦ keepInSegment_bounds]
  exact ofUtf8?_eq_some_iff.mpr rfl

theorem map_percentDecodeText?_encodeSegment (special : Bool) {texts : List String}
    (h : ∀ text ∈ texts, IsOneLine text) :
    (texts.map (encodeSegment special)).map percentDecodeText? = texts.map some := by
  rw [List.map_map]
  exact List.map_congr_left fun text htext ↦ percentDecodeText?_encodeSegment special (h text htext)

theorem slash_not_mem_encodeSegment (special : Bool) (text : String) :
    '/' ∉ (encodeSegment special text).toList := by
  rw [encodeSegment, encodeChars, String.toList_ofList]
  apply not_mem_percentEncode
  · cases special <;> decide
  · decide

theorem keepInSegment_of_isAlphanum (special : Bool) {c : Char} (h : c.isAlphanum) :
    keepInSegment special (asciiByte c) ∧ isLineBlank c = false := by
  have hall : ∀ special, ∀ n < 0x80, (Char.ofNat n).isAlphanum →
      keepInSegment special (UInt8.ofNat n) ∧ isLineBlank (Char.ofNat n) = false := by
    decide +kernel
  have hchar := hall special c.toNat (toNat_lt_of_isAlphanum h)
  rw [Char.ofNat_toNat] at hchar
  exact hchar h

theorem isOneLine_of_isAlphanum {text : String} (h : text.toList.all Char.isAlphanum) :
    IsOneLine text :=
  fun c hc ↦ (keepInSegment_of_isAlphanum true (List.all_eq_true.mp h c hc)).2

/-- Letters and digits stay as they are. -/
theorem encodeSegment_of_isAlphanum (special : Bool) {text : String}
    (h : text.toList.all Char.isAlphanum) : encodeSegment special text = text := by
  have hkept := (isOneLine_of_isAlphanum h).dropLineBlanks_eq
  rw [List.all_eq_true] at h
  have hascii : IsAscii text.toList := fun c hc ↦ toNat_lt_of_isAlphanum (h c hc)
  have hbytes : ∀ b ∈ text.toList.map asciiByte, keepInSegment special b := by
    simpa using fun c hc ↦ (keepInSegment_of_isAlphanum special (h c hc)).1
  have hchars : ∀ c ∈ text.toList, Char.ofNat (asciiByte c).toNat = c :=
    fun c hc ↦ charOfByte_asciiByte (hascii c hc)
  calc encodeSegment special text
    _ = String.ofList ((text.toList.map asciiByte).map fun b ↦ Char.ofNat b.toNat) := by
      rw [encodeSegment, encodeChars, hkept, toUtf8_of_ascii hascii,
        percentEncode_of_keep hbytes]
    _ = String.ofList text.toList := by
      rw [List.map_map, List.map_congr_left (g := id) (by simpa using hchars), List.map_id]
    _ = text := String.ofList_toList

/-! ## Adding texts -/

/-- A text that is left out of a path. -/
def IsDots (text : String) : Prop := text = "." ∨ text = ".."

instance (text : String) : Decidable (IsDots text) :=
  inferInstanceAs (Decidable (_ ∨ _))

theorem push_of_isDots {text : String} (h : IsDots text) (special : Bool) (path : List String) :
    push special path text = path :=
  if_pos h

/-- Any other text becomes the last segment, unless it reads as two dots. -/
theorem push_of_not_above (special : Bool) (path : List String) {text : String}
    (hdots : ¬ IsDots text) (habove : ¬ ReadsAs ['.', '.'] text) :
    push special path text = (if path = [""] then [] else path) ++
      [if ReadsAs ['.'] text then "" else encodeSegment special text] := by
  rw [push, if_neg (not_or.mpr (not_or.mp hdots)), finish,
    if_neg (mt isAbove_encodeSegment.mp habove)]
  by_cases hhere : ReadsAs ['.'] text
  · rw [if_pos (isHere_encodeSegment.mpr hhere), if_pos hhere]
  · rw [if_neg (mt isHere_encodeSegment.mp hhere), if_neg hhere]

/-- A text that becomes a segment when it is added to a path. -/
structure IsSegment (text : String) : Prop where
  not_here : ¬ ReadsAs ['.'] text
  not_above : ¬ ReadsAs ['.', '.'] text

theorem IsSegment.not_isDots {text : String} (h : IsSegment text) : ¬ IsDots text := by
  rintro (rfl | rfl)
  · exact h.not_here rfl
  · exact h.not_above rfl

theorem push_of_isSegment (special : Bool) (path : List String) {text : String}
    (h : IsSegment text) : push special path text =
      (if path = [""] then [] else path) ++ [encodeSegment special text] := by
  rw [push_of_not_above special path h.not_isDots h.not_above, if_neg h.not_here]

theorem isSegment_of_isOneLine {text : String} (h : IsOneLine text) (hdots : ¬ IsDots text) :
    IsSegment text := by
  have hreads {dots : List Char} (hread : ReadsAs dots text) : text = String.ofList dots := by
    rw [← hread, h.dropLineBlanks_eq, String.ofList_toList]
  exact ⟨fun hhere ↦ hdots (.inl (hreads hhere)), fun habove ↦ hdots (.inr (hreads habove))⟩

/-- One character that is neither a dot nor left out makes a segment. -/
theorem isSegment_of_mem {text : String} {c : Char} (hmem : c ∈ text.toList) (hdot : c ≠ '.')
    (hblank : isLineBlank c = false) : IsSegment text := by
  have hkept : c ∈ dropLineBlanks text.toList := List.mem_filter.mpr ⟨hmem, by rw [hblank]; rfl⟩
  constructor <;>
  · intro hreads
    rw [hreads] at hkept
    simp [hdot] at hkept

theorem isSegment_of_isAlphanum {text : String} (h : text.toList.all Char.isAlphanum) :
    IsSegment text := by
  apply isSegment_of_isOneLine (isOneLine_of_isAlphanum h)
  rintro (rfl | rfl) <;> exact absurd h (by decide)

theorem isSegment_append_json (name : String) : IsSegment (name ++ ".json") :=
  isSegment_of_mem (c := 'j') (by simp) (by decide) (by decide)

/-- An extension of letters stays as it is. -/
theorem encodeSegment_append_json (special : Bool) (name : String) :
    encodeSegment special (name ++ ".json") = encodeSegment special name ++ ".json" := by
  have hjson : encodeSegment special ".json" = ".json" := by
    cases special <;> decide +kernel
  rw [encodeSegment_append, hjson]

/-- A text that reads as two dots without being them empties the last segment. -/
theorem push_of_above (special : Bool) {path : List String} {text last : String}
    (hpath : path ≠ []) (hdots : ¬ IsDots text) (habove : ReadsAs ['.', '.'] text) :
    push special (path ++ [last]) text = path ++ [""] := by
  have hroot : path ++ [last] ≠ [""] := by
    intro h
    exact hpath (List.append_eq_singleton_iff.mp h |>.elim And.left (by simp))
  rw [push, if_neg (not_or.mpr (not_or.mp hdots)), if_neg hroot, finish,
    if_pos (isAbove_encodeSegment.mpr habove), List.dropLast_concat]

/-- The first of the texts that is not left out of a path reads as two dots. -/
def LeadsAbove (texts : List String) : Prop :=
  ∃ text ∈ texts.find? fun text ↦ !decide (IsDots text), ReadsAs ['.', '.'] text

instance (texts : List String) : Decidable (LeadsAbove texts) :=
  inferInstanceAs (Decidable (∃ text ∈ texts.find? fun text ↦ !decide (IsDots text),
    ReadsAs ['.', '.'] text))

/-- A text that is added behind two segments leaves the first as it is. If it reads as two dots
right behind the second, the second is emptied; else the second stays, with more behind it. -/
theorem exists_push_eq (special : Bool) {front : List String} (hfront : front ≠ [])
    (root : String) (rest : List String) {text : String} (hdots : ¬ IsDots text) :
    ∃ root' rest', push special (front ++ root :: rest) text = front ++ root' :: rest' ∧
      if rest = [] ∧ ReadsAs ['.', '.'] text then root' = "" ∧ rest' = []
      else root' = root ∧ rest' ≠ [] := by
  have hpath : front ++ root :: rest ≠ [""] := by
    intro h
    have hlength := congrArg List.length h
    have hpos := List.length_pos_of_ne_nil hfront
    simp at hlength
    omega
  by_cases habove : ReadsAs ['.', '.'] text
  · rcases List.eq_nil_or_concat rest with rfl | ⟨before, last, rfl⟩
    · exact ⟨"", [], push_of_above special hfront hdots habove, by simp [habove]⟩
    · have hbefore : front ++ root :: before ≠ [] := by simp
      have hpush : push special (front ++ root :: before ++ [last]) text = _ :=
        push_of_above special hbefore hdots habove
      exact ⟨root, before ++ [""], by simpa using hpush, by simp⟩
  · have hpush := push_of_not_above special (front ++ root :: rest) hdots habove
    rw [if_neg hpath] at hpush
    exact ⟨root, _, by simpa using hpush, by simp [habove]⟩

/-- Texts that are added behind two segments leave the first as it is, and the second too, unless
the first text that counts reads as two dots. -/
theorem exists_foldl_push_eq (special : Bool) {front : List String} (hfront : front ≠ [])
    (texts : List String) (root : String) (rest : List String) :
    ∃ root' rest', texts.foldl (push special) (front ++ root :: rest) = front ++ root' :: rest' ∧
      root' = if rest = [] ∧ LeadsAbove texts then "" else root := by
  induction texts generalizing root rest with
  | nil => exact ⟨root, rest, rfl, by simp [LeadsAbove]⟩
  | cons text texts ih =>
    rw [List.foldl_cons]
    by_cases hdots : IsDots text
    · have hleads : LeadsAbove (text :: texts) ↔ LeadsAbove texts := by
        rw [LeadsAbove, List.find?_cons_of_neg (by simpa using hdots), ← LeadsAbove]
      rw [push_of_isDots hdots]
      simpa only [hleads] using ih root rest
    · have hleads : LeadsAbove (text :: texts) ↔ ReadsAs ['.', '.'] text := by
        rw [LeadsAbove, List.find?_cons_of_pos (by simpa using hdots)]
        simp
      obtain ⟨next, behind, hpush, hstep⟩ := exists_push_eq special hfront root rest hdots
      obtain ⟨root', rest', hrun, hroot⟩ := ih next behind
      refine ⟨root', rest', by rw [hpush, hrun], ?_⟩
      rw [hroot]
      simp only [hleads]
      split at hstep <;> simp_all

/-! ## Behind a base -/

/-- The segments of a path that stay in front of what is added to it: those of a path without
trailing slash, and none of the root. -/
def stem (path : List String) : List String :=
  if dropTrailingSlash path = [""] then [] else dropTrailingSlash path

/-- The path consists of the segments, none of them empty, and perhaps a trailing slash. -/
def HasSegments (path segments : List String) : Prop :=
  "" ∉ segments ∧ (path = segments ∨ path = segments ++ [""])

theorem HasSegments.stem_eq {path segments : List String} (h : HasSegments path segments) :
    stem path = segments := by
  obtain ⟨hsegments, rfl | rfl⟩ := h
  · have hlast : path.getLast? ≠ some "" := fun hlast ↦ hsegments (List.mem_of_getLast? hlast)
    have hroot : path ≠ [""] := by
      rintro rfl
      exact hsegments List.mem_cons_self
    have hdrop : dropTrailingSlash path = path := if_neg fun h ↦ hlast h.1
    rw [stem, hdrop, if_neg hroot]
  · cases segments with
    | nil => rfl
    | cons first rest =>
      have hroot : first :: rest ≠ [""] := by
        intro hroot
        exact hsegments (hroot ▸ List.mem_cons_self)
      have hdrop : dropTrailingSlash (first :: rest ++ [""]) = first :: rest := by
        rw [dropTrailingSlash, if_pos ⟨List.getLast?_concat, by simp⟩, List.dropLast_concat]
      rw [stem, hdrop, if_neg hroot]

theorem foldl_push_of_isSegment (special : Bool) {texts : List String}
    (htexts : ∀ text ∈ texts, IsSegment text) {path : List String}
    (hpath : path ≠ [] ∧ path ≠ [""]) :
    texts.foldl (push special) path = path ++ texts.map (encodeSegment special) := by
  induction texts generalizing path with
  | nil => simp
  | cons text texts ih =>
    rw [List.forall_mem_cons] at htexts
    have hnext : path ++ [encodeSegment special text] ≠ [] ∧
        path ++ [encodeSegment special text] ≠ [""] := by
      simp [List.append_eq_singleton_iff, hpath]
    rw [List.foldl_cons, push_of_isSegment special path htexts.1, if_neg hpath.2,
      ih htexts.2 hnext]
    simp

/-- Texts that are segments are added to a path as they are, but for their encoding. The first has
to leave something behind, lest the next one take its place at the root. -/
theorem extend_append (special : Bool) (path : List String) {first : String}
    {front : List String} (hfirst : encodeSegment special first ≠ "")
    (hfront : ∀ text ∈ first :: front, IsSegment text) (texts : List String) :
    extend special path (first :: front ++ texts) =
      texts.foldl (push special) (stem path ++ (first :: front).map (encodeSegment special)) := by
  have hnext : stem path ++ [encodeSegment special first] ≠ [] ∧
      stem path ++ [encodeSegment special first] ≠ [""] := by
    simp [List.append_eq_singleton_iff, hfirst]
  rw [List.forall_mem_cons] at hfront
  rw [extend, List.foldl_append, List.foldl_cons, push_of_isSegment special _ hfront.1, ← stem,
    foldl_push_of_isSegment special hfront.2 hnext]
  simp

theorem extend_of_isSegment (special : Bool) (path : List String) {first : String}
    {front : List String} (hfirst : encodeSegment special first ≠ "")
    (hfront : ∀ text ∈ first :: front, IsSegment text) : extend special path (first :: front) =
      stem path ++ (first :: front).map (encodeSegment special) := by
  simpa using extend_append special path hfirst hfront []

theorem map_encodeSegment_of_isAlphanum (special : Bool) {words : List String}
    (hwords : ∀ word ∈ words, word.toList.all Char.isAlphanum) :
    words.map (encodeSegment special) = words := by
  calc words.map (encodeSegment special)
    _ = words.map id := List.map_congr_left fun word hword ↦
      encodeSegment_of_isAlphanum special (hwords word hword)
    _ = words := List.map_id words

/-- Words are added to a path as they are. -/
theorem extend_words (special : Bool) (path : List String) {first : String} {words : List String}
    (hfirst : first ≠ "") (hwords : ∀ word ∈ first :: words, word.toList.all Char.isAlphanum)
    (texts : List String) :
    extend special path (first :: words ++ texts) =
      texts.foldl (push special) (stem path ++ first :: words) := by
  rw [extend_append, map_encodeSegment_of_isAlphanum special hwords]
  · rwa [encodeSegment_of_isAlphanum special (hwords first List.mem_cons_self)]
  · exact fun word hword ↦ isSegment_of_isAlphanum (hwords word hword)

/-! ## Written paths -/

theorem joined_cons (first : String) (path : List String) :
    joined "/" (first :: path) = first ++ pathText path := by
  induction path generalizing first with
  | nil => simp [joined, pathText]
  | cons segment path ih =>
    rw [joined, String.intercalate_cons_cons, ← joined, ih]
    simp [pathText, String.append_assoc]

/-- The segments of a path can be read from its written form if none of them holds a slash. -/
theorem pieces_pathText {path : List String} (h : ∀ segment ∈ path, '/' ∉ segment.toList) :
    pieces '/' (pathText path) = "" :: path := by
  have hjoined : pathText path = joined (String.singleton '/') ("" :: path) :=
    ((joined_cons "" path).trans String.empty_append).symm
  have hpieces : ∀ segment ∈ "" :: path, '/' ∉ segment.toList :=
    List.forall_mem_cons.mpr ⟨List.not_mem_nil, h⟩
  rw [hjoined, pieces_joined (List.cons_ne_nil _ _) hpieces]

theorem pathText_append (front path : List String) :
    pathText (front ++ path) = pathText front ++ pathText path := by
  simp [pathText]

/-- Texts can be read from a written path that they are added to. -/
theorem texts_eq_of_pathText_eq (special : Bool) (front : List String) {texts texts' : List String}
    (h : ∀ text ∈ texts, IsOneLine text) (h' : ∀ text ∈ texts', IsOneLine text)
    (hsame : pathText (front ++ texts.map (encodeSegment special)) =
      pathText (front ++ texts'.map (encodeSegment special))) : texts = texts' := by
  have hslash (texts : List String) :
      ∀ segment ∈ texts.map (encodeSegment special), '/' ∉ segment.toList :=
    List.forall_mem_map.mpr fun text _ ↦ slash_not_mem_encodeSegment special text
  rw [pathText_append, pathText_append, String.append_right_inj] at hsame
  have hsegments := congrArg (pieces '/') hsame
  rw [pieces_pathText (hslash texts), pieces_pathText (hslash texts')] at hsegments
  apply List.map_injective_iff.mpr fun _ _ ↦ Option.some.inj
  rw [← map_percentDecodeText?_encodeSegment special h,
    ← map_percentDecodeText?_encodeSegment special h', List.tail_eq_of_cons_eq hsegments]

end ContextProvider.Url
