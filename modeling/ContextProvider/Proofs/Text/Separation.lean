import ContextProvider.Proofs.Text.Pieces
import Mathlib.Data.List.Basic

/-!
# Separated texts

Cutting undoes joining: texts without the separator come back one by one when they are joined and
cut again, and no piece of a cut text holds the separator. A text can be cut twice, first at one
separator and then each piece at another. Blanks next to a separator, or at an end of the text,
then stand at an end of a smallest piece, so that trimming takes them off again and they leave no
trace in the trimmed pieces.
-/

namespace ContextProvider.Text

/-! ## Trimmed texts -/

theorem trimChars_trimChars (s : List Char) : trimChars (trimChars s) = trimChars s := by
  obtain ⟨before, after, hbefore, hafter, hs⟩ := exists_blanks_trimChars s
  have hcore : trimChars s = trimChars (trimChars s) := by
    conv_lhs => rw [hs, trimChars_blanks_append hbefore, trimChars_append_blanks _ hafter]
  exact hcore.symm

/-- Trimming twice is trimming once. -/
theorem trim_trim (s : String) : trim (trim s) = trim s := by
  simp only [trim, String.toList_ofList, trimChars_trimChars]

theorem mem_of_mem_trimChars {c : Char} {s : List Char} (h : c ∈ trimChars s) : c ∈ s := by
  obtain ⟨before, after, -, -, hs⟩ := exists_blanks_trimChars s
  rw [hs]
  simp [h]

/-- Trimming keeps what is not blank. -/
theorem mem_trimChars_iff {c : Char} (hc : isBlankChar c = false) {s : List Char} :
    c ∈ trimChars s ↔ c ∈ s := by
  refine ⟨mem_of_mem_trimChars, fun h ↦ ?_⟩
  obtain ⟨before, after, hbefore, hafter, hs⟩ := exists_blanks_trimChars s
  rw [hs] at h
  grind

theorem trimChars_of_blanks {blanks : List Char} (h : ∀ c ∈ blanks, isBlankChar c) :
    trimChars blanks = [] := by
  have hempty := trimChars_append_blanks [] h
  rwa [List.nil_append] at hempty

theorem forall_isBlankChar_of_isBlank {s : String} (h : isBlank s) :
    ∀ c ∈ s.toList, isBlankChar c := by
  simpa [isBlank] using h

/-- Only blanks are trimmed away altogether. -/
theorem trim_eq_empty_iff {s : String} : trim s = "" ↔ isBlank s := by
  rw [← String.toList_inj, trim, String.toList_ofList, String.toList_empty]
  constructor
  · intro hempty
    obtain ⟨before, after, hbefore, hafter, hs⟩ := exists_blanks_trimChars s.toList
    rw [isBlank, List.all_eq_true, hs, hempty]
    exact List.forall_mem_append.mpr ⟨hbefore, hafter⟩
  · intro hblank
    exact trimChars_of_blanks (forall_isBlankChar_of_isBlank hblank)

/-- A text without blanks is trimmed. -/
theorem trim_of_no_blank {s : String} (h : ∀ c ∈ s.toList, isBlankChar c = false) : trim s = s := by
  obtain ⟨before, after, hbefore, hafter, hs⟩ := exists_blanks_trimChars s.toList
  have hnone : ∀ blanks : List Char, (∀ c ∈ blanks, isBlankChar c) →
      (∀ c ∈ blanks, c ∈ s.toList) → blanks = [] := by
    intro blanks hblanks hmem
    refine List.eq_nil_iff_forall_not_mem.mpr fun c hc ↦ ?_
    exact Bool.false_ne_true ((h c (hmem c hc)).symm.trans (hblanks c hc))
  have hfront := hnone before hbefore fun c hc ↦ by rw [hs]; simp [hc]
  have hback := hnone after hafter fun c hc ↦ by rw [hs]; simp [hc]
  rw [hfront, hback, List.nil_append, List.append_nil] at hs
  rw [trim, ← hs, String.ofList_toList]

/-- Blanks around a text are trimmed away with it. -/
theorem trim_blanks_append_append {before after : String} (hbefore : isBlank before)
    (hafter : isBlank after) (s : String) : trim (before ++ s ++ after) = trim s := by
  rw [trim, String.toList_append, String.toList_append, List.append_assoc,
    trimChars_blanks_append (forall_isBlankChar_of_isBlank hbefore),
    trimChars_append_blanks _ (forall_isBlankChar_of_isBlank hafter), ← trim]

/-! ## Cutting and joining -/

theorem piecesChars_eq_splitOn (separator : Char) (s : List Char) :
    piecesChars separator s = s.splitOn separator := by
  induction s with
  | nil => rfl
  | cons c rest ih =>
    rw [List.splitOn_cons_eq_if_modifyHead, ← ih, piecesChars]
    obtain ⟨piece, more, hpieces⟩ := exists_piecesChars_eq_cons separator rest
    by_cases hc : c = separator
    · simp [hc]
    · simp [hc, hpieces]

/-- Texts without the separator come back when they are joined and cut again. -/
theorem pieces_joined {separator : Char} {texts : List String} (hne : texts ≠ [])
    (h : ∀ s ∈ texts, separator ∉ s.toList) :
    pieces separator (joined (String.singleton separator) texts) = texts := by
  have hchars : ∀ piece ∈ texts.map String.toList, separator ∉ piece := by
    simpa using h
  have hsplit := List.splitOn_intercalate separator hchars (by simpa using hne)
  rw [pieces, joined, piecesChars_eq_splitOn, String.toList_intercalate, String.toList_singleton,
    hsplit, List.map_map]
  simp [Function.comp_def]

/-- Joining the pieces of a text gives the text back. -/
theorem joined_pieces (separator : Char) (s : String) :
    joined (String.singleton separator) (pieces separator s) = s := by
  rw [← String.toList_inj, joined, String.toList_intercalate, String.toList_singleton, pieces,
    piecesChars_eq_splitOn, List.map_map]
  simp [Function.comp_def, List.intercalate_splitOn]

/-- A character of joined texts stands in one of them or in the separator. -/
theorem not_mem_joined {c : Char} {separator : String} {texts : List String}
    (hseparator : c ∉ separator.toList) (h : ∀ s ∈ texts, c ∉ s.toList) :
    c ∉ (joined separator texts).toList := by
  induction texts with
  | nil => simp [joined]
  | cons s rest ih =>
    rw [List.forall_mem_cons] at h
    cases rest with
    | nil => simpa [joined] using h.1
    | cons next more =>
      have hrest : c ∉ (joined separator (next :: more)).toList := ih h.2
      rw [joined, String.intercalate_cons_cons, ← joined]
      simp [h.1, hseparator, hrest]

/-- A piece consists of characters of the text other than the separator. -/
theorem mem_of_mem_piecesChars {separator c : Char} {s piece : List Char}
    (hpiece : piece ∈ piecesChars separator s) (hc : c ∈ piece) : c ∈ s ∧ c ≠ separator := by
  induction s generalizing piece with
  | nil =>
    rw [piecesChars, List.mem_singleton] at hpiece
    rw [hpiece] at hc
    cases hc
  | cons d rest ih =>
    obtain ⟨first, more, hpieces⟩ := exists_piecesChars_eq_cons separator rest
    rw [piecesChars, hpieces] at hpiece
    rw [hpieces] at ih
    split at hpiece
    · rcases List.mem_cons.mp hpiece with rfl | hrest
      · cases hc
      · exact (ih hrest hc).imp_left (List.mem_cons_of_mem d)
    · rename_i hd
      rcases List.mem_cons.mp hpiece with rfl | hmore
      · rcases List.mem_cons.mp hc with rfl | hfirst
        · exact ⟨List.mem_cons_self, hd⟩
        · exact (ih List.mem_cons_self hfirst).imp_left (List.mem_cons_of_mem d)
      · exact (ih (List.mem_cons_of_mem first hmore) hc).imp_left (List.mem_cons_of_mem d)

theorem mem_of_mem_pieces {separator c : Char} {s piece : String}
    (hpiece : piece ∈ pieces separator s) (hc : c ∈ piece.toList) :
    c ∈ s.toList ∧ c ≠ separator := by
  obtain ⟨chars, hchars, rfl⟩ := List.mem_map.mp hpiece
  exact mem_of_mem_piecesChars hchars (by simpa using hc)

theorem pieces_of_not_mem {separator : Char} {s : String} (h : separator ∉ s.toList) :
    pieces separator s = [s] := by
  rw [pieces, piecesChars_eq_splitOn, List.splitOn_eq_singleton h]
  simp

/-! ## Blanks at the edges of pieces -/

/-- Between the two texts a piece ends or begins, for some of the separators: the text in front is
empty or ends with one, or the text behind is empty or begins with one. -/
def Edge (separators before after : List Char) : Prop :=
  (∀ c ∈ before.getLast?, c ∈ separators) ∨ (∀ c ∈ after.head?, c ∈ separators)

section

variable {separator : Char}

theorem lastPiece_concat (s : List Char) (c : Char) : lastPiece separator (s ++ [c]) =
    if c = separator then [] else lastPiece separator s ++ [c] := by
  simp only [lastPiece, piecesChars_append]
  split
  · rename_i hc
    simp [piecesChars, hc]
  · rename_i hc
    simp [piecesChars, hc, firstPiece]

theorem firstPiece_cons (c : Char) (s : List Char) : firstPiece separator (c :: s) =
    if c = separator then [] else c :: firstPiece separator s := by
  obtain ⟨piece, more, hpieces⟩ := exists_piecesChars_eq_cons separator s
  by_cases hc : c = separator
  · simp [firstPiece, piecesChars, hc]
  · simp [firstPiece, piecesChars, hc, hpieces]

/-- Inside the pieces of one separator an edge is an edge for the others. -/
theorem Edge.pieces {others before after : List Char}
    (h : Edge (separator :: others) before after) :
    Edge others (lastPiece separator before) (firstPiece separator after) := by
  cases h with
  | inl hbefore =>
    left
    rcases List.eq_nil_or_concat before with rfl | ⟨front, c, rfl⟩
    · simp
    · rw [List.concat_eq_append, lastPiece_concat]
      have hc : c ∈ separator :: others := hbefore c (by simp)
      split
      · simp
      · rename_i hne
        simpa using (List.mem_cons.mp hc).resolve_left hne
  | inr hafter =>
    right
    cases after with
    | nil => simp
    | cons c back =>
      rw [firstPiece_cons]
      have hc : c ∈ separator :: others := hafter c (by simp)
      split
      · simp
      · rename_i hne
        simpa using (List.mem_cons.mp hc).resolve_left hne

theorem Edge.eq_nil {before after : List Char} (h : Edge [] before after) :
    before = [] ∨ after = [] := by
  apply h.imp
  · intro hbefore
    rcases List.eq_nil_or_concat before with rfl | ⟨front, c, rfl⟩
    · rfl
    · exact absurd (hbefore c (by simp)) List.not_mem_nil
  · intro hafter
    cases after with
    | nil => rfl
    | cons c back => exact absurd (hafter c (by simp)) List.not_mem_nil

theorem trimChars_insert {blanks before after : List Char} (hblanks : ∀ c ∈ blanks, isBlankChar c)
    (edge : Edge [] before after) :
    trimChars (before ++ (blanks ++ after)) = trimChars (before ++ after) := by
  rcases edge.eq_nil with rfl | rfl
  · simpa using trimChars_blanks_append hblanks after
  · simpa using trimChars_append_blanks before hblanks

/-- Blanks at an edge leave no trace in the trimmed pieces of pieces. -/
theorem map_map_trimChars_insert {inner : Char} {blanks before after : List Char}
    (hseparator : isBlankChar separator = false) (hinner : isBlankChar inner = false)
    (hblanks : ∀ c ∈ blanks, isBlankChar c) (edge : Edge [separator, inner] before after) :
    (piecesChars separator (before ++ (blanks ++ after))).map
        (fun piece ↦ (piecesChars inner piece).map trimChars) =
      (piecesChars separator (before ++ after)).map
        fun piece ↦ (piecesChars inner piece).map trimChars := by
  apply map_piecesChars_insert (not_mem_of_blanks hseparator hblanks)
  apply map_piecesChars_insert (not_mem_of_blanks hinner hblanks)
  exact trimChars_insert hblanks edge.pieces.pieces

end

end ContextProvider.Text
