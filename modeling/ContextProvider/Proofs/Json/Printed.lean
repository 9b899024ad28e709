import ContextProvider.Json.Printer
import ContextProvider.Proofs.Json.Range
import ContextProvider.Proofs.Json.Recognition
import ContextProvider.Proofs.Number.Digits
import ContextProvider.Proofs.Text.Utf8

/-!
# Printed values

What the printer writes follows the grammar: each character of a text, escaped or not, comes back
as itself, and an integer of 64 bits as itself. Arrays and objects are printed from what their
items and members print. The bytes of a printed value are therefore read as the tree of that value.
-/

namespace ContextProvider.Json

open Text Number

/-- The characters of a value write a tree. -/
def PrintsAs (value : Json) (tree : Tree) : Prop :=
  tree.Written (value.chars.map some)

/-- The bytes of a printed value are read as the tree that it prints. -/
theorem PrintsAs.ofBytes?_eq {value : Json} {tree : Tree} (h : value.PrintsAs tree) :
    Tree.ofBytes? (toUtf8 value.text) = some tree := by
  have hsymbols : symbols (toUtf8 value.text) = value.chars.map some := by
    rw [symbols_eq_map_some_iff, toUtf8_eq_flatMap, text, String.toList_ofList]
  rw [Tree.ofBytes?, hsymbols, Tree.ofSymbols?_eq_some_iff]
  exact ⟨[], _, [], .nil, h, .nil, by simp⟩

theorem printsAs_null : PrintsAs .null .null :=
  .null

theorem printsAs_bool (value : Bool) : PrintsAs (.bool value) (.bool value) := by
  cases value with
  | true => exact .true
  | false => exact .false

/-! ## Strings -/

theorem hexCode?_control : ∀ n < 0x20, hexCode? (some '0') (some '0') (some (hexChar (n / 16)))
    (some (hexChar (n % 16))) = some n := by
  decide

/-- A code of a control stands for that control, being no surrogate. -/
theorem pieceChars_control {c : Char} (h : c.toNat < 0x20) (found : List Char) (rest : List Piece) :
    pieceChars found (.code c.toNat :: rest) = pieceChars (c :: found) rest := by
  have htrailing : isTrailingSurrogate c.toNat = false := by
    rw [isTrailingSurrogate, Bool.and_eq_false_iff]
    exact .inl (decide_eq_false (by omega))
  have hleading : isLeadingSurrogate c.toNat = false := by
    rw [isLeadingSurrogate, Bool.and_eq_false_iff]
    exact .inl (decide_eq_false (by omega))
  rw [pieceChars.eq_def]
  simp only [htrailing, hleading, Bool.false_eq_true, if_false, Char.ofNat_toNat]

/-- A character is written as a piece that stands for it. -/
theorem exists_piece_of_escapedChar (c : Char) :
    ∃ piece : Piece, piece.Written ((escapedChar c).map some) ∧
      ∀ found rest, pieceChars found (piece :: rest) = pieceChars (c :: found) rest := by
  have hshort {e : Char} (h : shortEscape? e = some c) : ∃ piece : Piece,
      piece.Written [some '\\', some e] ∧
        ∀ found rest, pieceChars found (piece :: rest) = pieceChars (c :: found) rest :=
    ⟨.char c, .short h, fun _ _ ↦ rfl⟩
  unfold escapedChar
  split_ifs with hquote hbackslash hb hf hn hr ht hcontrol
  · exact hshort (by rw [hquote]; rfl)
  · exact hshort (by rw [hbackslash]; rfl)
  · exact hshort (by rw [hb]; rfl)
  · exact hshort (by rw [hf]; rfl)
  · exact hshort (by rw [hn]; rfl)
  · exact hshort (by rw [hr]; rfl)
  · exact hshort (by rw [ht]; rfl)
  · exact ⟨.code c.toNat, .code (hexCode?_control c.toNat hcontrol), pieceChars_control hcontrol⟩
  · exact ⟨.char c, .plain hquote hbackslash (Nat.not_lt.mp hcontrol), fun _ _ ↦ rfl⟩

theorem exists_pieces_of_escapedChars (cs : List Char) :
    ∃ pieces, PiecesWritten pieces ((cs.flatMap escapedChar).map some) ∧
      ∀ found, pieceChars found pieces = some (found.reverse ++ cs) := by
  induction cs with
  | nil => exact ⟨[], .nil, fun found ↦ by simp [pieceChars]⟩
  | cons c cs ih =>
    obtain ⟨piece, hpiece, hstands⟩ := exists_piece_of_escapedChar c
    obtain ⟨pieces, hpieces, htext⟩ := ih
    refine ⟨piece :: pieces, ?_, fun found ↦ ?_⟩
    · rw [List.flatMap_cons, List.map_append]
      exact .cons hpiece hpieces
    · rw [hstands, htext, List.reverse_cons, List.append_assoc, List.singleton_append]

/-- A text is written between quotes as pieces that stand for it. -/
theorem exists_pieces_of_stringChars (s : String) : ∃ pieces t, PiecesWritten pieces t ∧
    pieceText pieces = some s ∧ (stringChars s).map some = some '"' :: (t ++ [some '"']) := by
  obtain ⟨pieces, hpieces, htext⟩ := exists_pieces_of_escapedChars s.toList
  refine ⟨pieces, _, hpieces, ?_, by simp [stringChars]⟩
  rw [pieceText, htext]
  exact congrArg some (String.ofList_toList)

theorem printsAs_string (s : String) : PrintsAs (.string s) (.string (some s)) := by
  obtain ⟨pieces, t, hpieces, htext, hchars⟩ := exists_pieces_of_stringChars s
  rw [PrintsAs, chars, hchars, ← htext]
  exact .string hpieces

/-! ## Integers -/

/-- The literal of an integer. -/
def integerLiteral (n : Int) : Literal where
  negative := n < 0
  whole := natChars n.natAbs
  fraction := none
  exponent := none

theorem integerLiteral_written (n : Int) : (integerLiteral n).Written (intChars n) := by
  have hchars : intChars n = (if (integerLiteral n).negative then ['-'] else []) ++
      ((integerLiteral n).whole ++ (fractionChars (integerLiteral n).fraction ++ [])) := by
    simp only [intChars, integerLiteral, fractionChars, List.append_nil, decide_eq_true_eq]
    split <;> rfl
  rw [hchars]
  refine .mk ⟨natChars_ne_nil _, fun _ ↦ isDigit_of_mem_natChars⟩ (fun hzero ↦ ?_)
    (by rintro _ ⟨⟩) .absent
  have hnone : ¬ 0 < n.natAbs := fun hpos ↦ head?_natChars_ne hpos hzero
  rw [integerLiteral, Nat.eq_zero_of_not_pos hnone]
  rfl

theorem le_naturalAfter (start : Nat) (digits : List Char) : start ≤ naturalAfter start digits := by
  induction digits generalizing start with
  | nil => exact Nat.le_refl _
  | cons c rest ih =>
    calc start
      _ ≤ start * 10 + (digit? c).getD 0 := by omega
      _ ≤ naturalAfter start (c :: rest) := ih _

/-- Digits that spell a number of 64 bits are all taken. -/
theorem absorbDigits_eq {start : Nat} {digits : List Char}
    (h : naturalAfter start digits < 2 ^ 64) :
    absorbDigits start digits = (naturalAfter start digits, 0) := by
  induction digits generalizing start with
  | nil => rfl
  | cons c rest ih =>
    have hnext : start * 10 + (digit? c).getD 0 < 0x10000000000000000 :=
      Nat.lt_of_le_of_lt (le_naturalAfter _ rest) h
    rw [absorbDigits, if_pos hnext]
    exact ih h

theorem integerLiteral_value? {n : Int} (h : (Numeric.integer n).InRange) :
    (integerLiteral n).value? = some (.integer n) := by
  obtain ⟨hlow, hhigh⟩ := h
  have hdigits : naturalAfter 0 (natChars n.natAbs) = n.natAbs := naturalOf_natChars _
  have habsorbed : absorbDigits 0 (natChars n.natAbs) = (n.natAbs, 0) := by
    rw [absorbDigits_eq (by omega), hdigits]
  simp only [Literal.value?, integerLiteral, habsorbed]
  by_cases hnegative : n < 0
  · have hsize : 1 ≤ n.natAbs ∧ n.natAbs ≤ 0x8000000000000000 := by omega
    have hvalue : -(n.natAbs : Int) = n := by omega
    simp only [hnegative, hsize, hvalue, decide_true, Option.isNone_none, beq_self_eq_true,
      Bool.and_self, Bool.or_true, if_true]
  · have hvalue : (n.natAbs : Int) = n := by omega
    simp only [hnegative, hvalue, decide_false, Option.isNone_none, beq_self_eq_true,
      Bool.not_false, Bool.true_or, Bool.and_self, if_true, Bool.false_eq_true, if_false]

theorem printsAs_integer (n : Int) :
    PrintsAs (.number (.integer n)) (.number (integerLiteral n)) :=
  .number (integerLiteral_written n)

/-! ## Arrays and objects -/

theorem itemsWritten_itemsChars {item : Json} {items : List Json} {trees : List Tree}
    (h : List.Forall₂ PrintsAs (item :: items) trees) :
    ItemsWritten trees ((itemsChars (item :: items)).map some) := by
  induction items generalizing item trees with
  | nil =>
    obtain ⟨tree, _, hitem, hrest, rfl⟩ := List.forall₂_cons_left_iff.mp h
    cases hrest
    simpa [itemsChars] using ItemsWritten.one hitem .nil
  | cons next items ih =>
    obtain ⟨tree, _, hitem, hrest, rfl⟩ := List.forall₂_cons_left_iff.mp h
    simpa [itemsChars] using ItemsWritten.cons hitem .nil .nil (ih hrest)

theorem printsAs_array {items : List Json} {trees : List Tree}
    (h : List.Forall₂ PrintsAs items trees) : PrintsAs (.array items) (.array trees) := by
  cases items with
  | nil =>
    cases h
    exact .emptyArray .nil
  | cons item items =>
    simpa [PrintsAs, chars] using Tree.Written.array .nil (itemsWritten_itemsChars h)

/-- A member prints as its key and the tree of its value. -/
def MemberPrintsAs (member : String × Json) (tree : Option String × Tree) : Prop :=
  tree.1 = some member.1 ∧ member.2.PrintsAs tree.2

theorem memberWritten_chars {member : String × Json} {tree : Option String × Tree}
    (h : MemberPrintsAs member tree) :
    MemberWritten tree ((stringChars member.1 ++ ':' :: chars member.2).map some) := by
  obtain ⟨key, value⟩ := member
  obtain ⟨_, tree⟩ := tree
  obtain ⟨rfl, hvalue⟩ := h
  obtain ⟨pieces, t, hpieces, htext, hchars⟩ := exists_pieces_of_stringChars key
  rw [List.map_append, hchars, ← htext]
  simpa using MemberWritten.mk hpieces .nil .nil hvalue .nil

theorem membersWritten_membersChars {member : String × Json} {members : List (String × Json)}
    {trees : List (Option String × Tree)}
    (h : List.Forall₂ MemberPrintsAs (member :: members) trees) :
    MembersWritten trees ((membersChars (member :: members)).map some) := by
  induction members generalizing member trees with
  | nil =>
    obtain ⟨tree, _, hmember, hrest, rfl⟩ := List.forall₂_cons_left_iff.mp h
    cases hrest
    exact .one (memberWritten_chars hmember)
  | cons next members ih =>
    obtain ⟨tree, _, hmember, hrest, rfl⟩ := List.forall₂_cons_left_iff.mp h
    simpa [membersChars] using MembersWritten.cons (memberWritten_chars hmember) .nil (ih hrest)

theorem printsAs_object {members : List (String × Json)} {trees : List (Option String × Tree)}
    (h : List.Forall₂ MemberPrintsAs members trees) :
    PrintsAs (.object members) (.object trees) := by
  cases members with
  | nil =>
    cases h
    exact .emptyObject .nil
  | cons member members =>
    simpa [PrintsAs, chars] using Tree.Written.object .nil (membersWritten_membersChars h)

end ContextProvider.Json
