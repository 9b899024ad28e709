import ContextProvider.Text.Blank
import ContextProvider.Text.Pieces
import Mathlib.Data.List.DropRight

/-!
# Pieces of trimmed text

Blanks around a text do not change its pieces once each piece is trimmed, as long as the separator
is not itself a blank. Cutting before or after trimming therefore gives the same trimmed pieces.
The statements are about characters first and about texts at the end.
-/

namespace ContextProvider.Text

/-! ## Blanks around characters -/

theorem trimChars_eq_rdropWhile (s : List Char) :
    trimChars s = (s.dropWhile isBlankChar).rdropWhile isBlankChar := rfl

theorem trimChars_blanks_append {blanks : List Char} (h : ∀ c ∈ blanks, isBlankChar c)
    (s : List Char) : trimChars (blanks ++ s) = trimChars s := by
  rw [trimChars_eq_rdropWhile, List.dropWhile_append_of_pos h, ← trimChars_eq_rdropWhile]

theorem trimChars_concat_blank {c : Char} (h : isBlankChar c) (s : List Char) :
    trimChars (s ++ [c]) = trimChars s := by
  rw [trimChars_eq_rdropWhile, trimChars_eq_rdropWhile, List.dropWhile_append]
  split
  · rename_i hempty
    rw [List.isEmpty_iff.mp hempty, List.dropWhile_cons_of_pos h, List.dropWhile_nil]
  · exact List.rdropWhile_concat_pos _ _ _ h

theorem trimChars_concat_of_not_blank {c : Char} (h : isBlankChar c = false) (s : List Char) :
    trimChars (s ++ [c]) = dropBlanks s ++ [c] := by
  have hc : ¬ isBlankChar c = true := by simp [h]
  rw [trimChars_eq_rdropWhile, List.dropWhile_append]
  split
  · rename_i hempty
    rw [dropBlanks, List.isEmpty_iff.mp hempty, List.dropWhile_cons_of_neg hc]
    exact List.rdropWhile_concat_neg isBlankChar [] c hc
  · exact List.rdropWhile_concat_neg _ _ _ hc

theorem trimChars_dropBlanks (s : List Char) : trimChars (dropBlanks s) = trimChars s := by
  rw [trimChars_eq_rdropWhile, trimChars_eq_rdropWhile, dropBlanks, List.dropWhile_idempotent]

theorem trimChars_append_blanks (s : List Char) {blanks : List Char}
    (h : ∀ c ∈ blanks, isBlankChar c) : trimChars (s ++ blanks) = trimChars s := by
  induction blanks using List.reverseRecOn with
  | nil => rw [List.append_nil]
  | append_singleton blanks c ih =>
    rw [← List.append_assoc, trimChars_concat_blank (h c (by simp))]
    exact ih fun d hd ↦ h d (by simp [hd])

/-- A text is its trimmed form between blanks. -/
theorem exists_blanks_trimChars (s : List Char) :
    ∃ before after, (∀ c ∈ before, isBlankChar c) ∧ (∀ c ∈ after, isBlankChar c) ∧
      s = before ++ (trimChars s ++ after) := by
  refine ⟨s.takeWhile isBlankChar, (s.dropWhile isBlankChar).rtakeWhile isBlankChar,
    fun c ↦ List.mem_takeWhile_imp, fun c ↦ List.mem_rtakeWhile_imp, ?_⟩
  rw [trimChars_eq_rdropWhile, List.rdropWhile_append_rtakeWhile, List.takeWhile_append_dropWhile]

/-! ## Pieces of appended characters -/

theorem piecesChars_ne_nil (separator : Char) (s : List Char) : piecesChars separator s ≠ [] := by
  cases s with
  | nil => simp [piecesChars]
  | cons c rest =>
    unfold piecesChars
    split
    · simp
    · split <;> simp

theorem exists_piecesChars_eq_cons (separator : Char) (s : List Char) :
    ∃ piece more, piecesChars separator s = piece :: more :=
  List.exists_cons_of_ne_nil (piecesChars_ne_nil separator s)

/-- There is one piece more than there are separators. -/
theorem length_piecesChars (separator : Char) (s : List Char) :
    (piecesChars separator s).length = s.count separator + 1 := by
  induction s with
  | nil => rfl
  | cons c rest ih =>
    obtain ⟨piece, more, hpieces⟩ := exists_piecesChars_eq_cons separator rest
    rw [hpieces, List.length_cons] at ih
    by_cases hc : c = separator
    · simp [piecesChars, hc, hpieces, ih]
    · simp [piecesChars, hc, hpieces, ih]

/-- The piece of a text that its end belongs to. -/
def lastPiece (separator : Char) (s : List Char) : List Char :=
  (piecesChars separator s).getLast (piecesChars_ne_nil separator s)

/-- The piece of a text that its beginning belongs to. -/
def firstPiece (separator : Char) (s : List Char) : List Char :=
  (piecesChars separator s).head (piecesChars_ne_nil separator s)

section

variable {separator : Char}

@[simp]
theorem lastPiece_nil : lastPiece separator [] = [] := rfl

@[simp]
theorem firstPiece_nil : firstPiece separator [] = [] := rfl

/-- What stands in front without a separator belongs to the first piece. -/
theorem piecesChars_append_left {front : List Char} (h : separator ∉ front) (s : List Char) :
    piecesChars separator (front ++ s) =
      (front ++ firstPiece separator s) :: (piecesChars separator s).tail := by
  induction front with
  | nil => exact (List.cons_head_tail _).symm
  | cons c front ih =>
    rw [List.mem_cons, not_or] at h
    rw [List.cons_append, piecesChars, if_neg (Ne.symm h.1), ih h.2]
    rfl

/-- Where two texts meet, the last piece of one and the first of the other grow together. -/
theorem piecesChars_append (s t : List Char) : piecesChars separator (s ++ t) =
    (piecesChars separator s).dropLast ++
      (lastPiece separator s ++ firstPiece separator t) :: (piecesChars separator t).tail := by
  induction s with
  | nil => simp [lastPiece, firstPiece, piecesChars]
  | cons c s ih =>
    obtain ⟨piece, more, hpieces⟩ := exists_piecesChars_eq_cons separator s
    simp only [lastPiece, hpieces] at ih
    by_cases hc : c = separator
    · simp [piecesChars, hc, ih, hpieces, lastPiece]
    · cases more with
      | nil => simp [piecesChars, hc, ih, hpieces, lastPiece]
      | cons next more => simp [piecesChars, hc, ih, hpieces, lastPiece]

/-- Characters put between two texts matter only for the piece that they fall into. -/
theorem map_piecesChars_insert {β : Type*} {f : List Char → β} {inserted : List Char}
    (hinserted : separator ∉ inserted) (before after : List Char)
    (h : f (lastPiece separator before ++ (inserted ++ firstPiece separator after)) =
      f (lastPiece separator before ++ firstPiece separator after)) :
    (piecesChars separator (before ++ (inserted ++ after))).map f =
      (piecesChars separator (before ++ after)).map f := by
  have hpieces := piecesChars_append_left hinserted after
  have hfirst : firstPiece separator (inserted ++ after) =
      inserted ++ firstPiece separator after := by
    simp only [firstPiece, hpieces, List.head_cons]
  rw [piecesChars_append before (inserted ++ after), piecesChars_append before after, hfirst,
    hpieces]
  simp [h]

theorem not_mem_of_blanks (hseparator : isBlankChar separator = false) {blanks : List Char}
    (h : ∀ c ∈ blanks, isBlankChar c) : separator ∉ blanks := by
  intro hmem
  rw [h separator hmem] at hseparator
  cases hseparator

theorem map_trimChars_piecesChars_trimChars (hseparator : isBlankChar separator = false)
    (s : List Char) : (piecesChars separator (trimChars s)).map trimChars =
      (piecesChars separator s).map trimChars := by
  obtain ⟨before, after, hbefore, hafter, hs⟩ := exists_blanks_trimChars s
  have hfront : (piecesChars separator s).map trimChars =
      (piecesChars separator (trimChars s ++ after)).map trimChars := by
    conv_lhs => rw [hs]
    exact map_piecesChars_insert (not_mem_of_blanks hseparator hbefore) [] (trimChars s ++ after)
      (trimChars_blanks_append hbefore _)
  have hback : (piecesChars separator (trimChars s ++ (after ++ []))).map trimChars =
      (piecesChars separator (trimChars s ++ [])).map trimChars := by
    apply map_piecesChars_insert (not_mem_of_blanks hseparator hafter)
    simp [trimChars_append_blanks _ hafter]
  rw [hfront, ← List.append_nil after, hback, List.append_nil]

/-- Trimming a text first does not change its trimmed pieces. -/
theorem map_trim_pieces_trim (hseparator : isBlankChar separator = false) (s : String) :
    (pieces separator (trim s)).map trim = (pieces separator s).map trim := by
  have h := congrArg (List.map String.ofList)
    (map_trimChars_piecesChars_trimChars hseparator s.toList)
  simpa only [pieces, trim, List.map_map, Function.comp_def, String.toList_ofList] using h

end

end ContextProvider.Text
