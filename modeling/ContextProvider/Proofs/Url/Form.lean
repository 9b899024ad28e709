import ContextProvider.Proofs.Text.Percent
import ContextProvider.Proofs.Text.Separation
import ContextProvider.Url.Form

/-!
# Form-encoded pairs read back

A form-encoded text holds neither of the marks that part pairs and names from values, whatever
stands in it, and decoding gives it back. Pairs that are appended to a query are therefore read
behind those of the query, each as it was, and no others with them.
-/

namespace ContextProvider.Url

open Text

/-! ## Names and values -/

theorem ofUtf8Lenient_toUtf8 (s : String) : ofUtf8Lenient (toUtf8 s) = s := by
  have hsymbols : symbols (toUtf8 s) = s.toList.map some := by
    rw [symbols_eq_map_some_iff, toUtf8_eq_flatMap]
  rw [ofUtf8Lenient, hsymbols, List.map_map]
  simp [Function.comp_def]

/-- What a form-encoded text keeps once its plus signs are spaces again. -/
def keepInFormText (b : UInt8) : Bool :=
  keepInForm b || b == 0x20

theorem keepInForm_bounds {b : UInt8} (h : keepInForm b) : b < 0x80 ∧ b ≠ 0x25 := by
  simp only [keepInForm, isAlphanumericByte, Bool.or_eq_true, Bool.and_eq_true, decide_eq_true_eq,
    beq_iff_eq] at h
  grind

theorem keepInFormText_bounds {b : UInt8} (h : keepInFormText b) : b < 0x80 ∧ b ≠ 0x25 := by
  rcases Bool.or_eq_true_iff.mp h with hkeep | hspace
  · exact keepInForm_bounds hkeep
  · rw [beq_iff_eq] at hspace
    exact hspace ▸ by decide

/-- A plus sign read as a space. -/
def plusToSpace (c : Char) : Char := if c = '+' then ' ' else c

theorem map_plusToSpace_formByte (b : UInt8) :
    (formByte b).map plusToSpace = percentEncode keepInFormText [b] := by
  by_cases hspace : b = 0x20
  · rw [hspace]
    rfl
  · have hplus (c : Char) (hc : c ∈ percentEncode keepInForm [b]) : plusToSpace c = c := by
      rw [plusToSpace, if_neg]
      rintro rfl
      exact not_mem_percentEncode (by decide) (by decide) _ hc
    have hkeep : keepInFormText b = keepInForm b := by
      rw [keepInFormText, beq_eq_false_iff_ne.mpr hspace, Bool.or_false]
    rw [formByte, if_neg hspace, List.map_congr_left hplus, List.map_id']
    simp only [percentEncode, List.flatMap_cons, List.flatMap_nil, hkeep]

theorem map_plusToSpace_formText (s : String) :
    (formText s).map plusToSpace = percentEncode keepInFormText (toUtf8 s) := by
  rw [formText, List.map_flatMap, percentEncode]
  apply List.flatMap_congr
  intro b _
  rw [map_plusToSpace_formByte]
  simp [percentEncode]

/-- A form-encoded text is read as it was. -/
theorem unformText_formText (s : String) : unformText (formText s) = s := by
  change ofUtf8Lenient (percentDecode (toUtf8 (String.ofList ((formText s).map plusToSpace)))) = s
  rw [map_plusToSpace_formText, percentDecode_percentEncode fun _ ↦ keepInFormText_bounds,
    ofUtf8Lenient_toUtf8]

/-- The marks of a query do not stand in a form-encoded text. -/
theorem not_mem_formText {c : Char} (hc : c = '&' ∨ c = '=') (s : String) : c ∉ formText s := by
  intro hmem
  obtain ⟨b, -, hmem⟩ := List.mem_flatMap.mp hmem
  rw [formByte] at hmem
  split at hmem
  · rcases hc with rfl | rfl <;> exact absurd hmem (by decide)
  · rcases hc with rfl | rfl <;> exact not_mem_percentEncode (by decide) (by decide) _ hmem

/-! ## Pairs -/

theorem readPair_formPair (pair : String × String) : readPair (formPair pair) = pair := by
  have hname : ∀ c ∈ formText pair.1, decide (c ≠ '=') = true := by
    intro c hc
    rw [decide_eq_true_eq]
    rintro rfl
    exact not_mem_formText (.inr rfl) _ hc
  rw [readPair, formPair, List.takeWhile_append_of_pos hname, List.dropWhile_append_of_pos hname]
  simp [unformText_formText]

theorem not_mem_formPair (pair : String × String) : '&' ∉ formPair pair := by
  simp [formPair, not_mem_formText]

/-- A separator ends one piece and begins the next. -/
theorem piecesChars_append_cons (separator : Char) (s t : List Char) :
    piecesChars separator (s ++ separator :: t) =
      piecesChars separator s ++ piecesChars separator t := by
  have hcut : piecesChars separator (separator :: t) = [] :: piecesChars separator t := by
    rw [piecesChars, if_pos rfl]
  have hfirst : firstPiece separator (separator :: t) = [] := by
    rw [firstPiece_cons, if_pos rfl]
  have hlast := List.dropLast_append_getLast (piecesChars_ne_nil separator s)
  rw [piecesChars_append, hfirst, hcut, List.append_nil, List.tail_cons]
  conv_rhs => rw [← hlast]
  simp [lastPiece]

theorem readPairs_append_cons (query rest : List Char) :
    readPairs (query ++ '&' :: rest) = readPairs query ++ readPairs rest := by
  rw [readPairs, piecesChars_append_cons, List.filter_append, List.map_append]
  rfl

theorem readPairs_formPair (pair : String × String) : readPairs (formPair pair) = [pair] := by
  have hsingle : piecesChars '&' (formPair pair) = [formPair pair] := by
    rw [piecesChars_eq_splitOn, List.splitOn_eq_singleton (not_mem_formPair pair)]
  have hne : (formPair pair).isEmpty = false := by simp [formPair]
  simp [readPairs, hsingle, hne, readPair_formPair]

/-- Appended pairs are read behind those of the query. -/
theorem readPairs_appendPairs (query : List Char) (pairs : List (String × String)) :
    readPairs (appendPairs query pairs) = readPairs query ++ pairs := by
  induction pairs generalizing query with
  | nil => rw [List.append_nil]; rfl
  | cons pair pairs ih =>
    have hstep : readPairs
        (if query.isEmpty then formPair pair else query ++ '&' :: formPair pair) =
          readPairs query ++ [pair] := by
      split
      · rename_i hempty
        rw [List.isEmpty_iff.mp hempty, readPairs_formPair]
        rfl
      · rw [readPairs_append_cons, readPairs_formPair]
    calc readPairs (appendPairs query (pair :: pairs))
      _ = readPairs (if query.isEmpty then formPair pair else query ++ '&' :: formPair pair) ++
          pairs := ih _
      _ = readPairs query ++ pair :: pairs := by
        rw [hstep, List.append_assoc, List.singleton_append]

end ContextProvider.Url
