import ContextProvider.Proofs.Json.Grammar

/-!
# What is read follows the grammar

Each reader takes symbols off the front that write what it returns. A text is therefore read
exactly when the grammar derives it, blanks around it apart, and then as the tree that it writes.
-/

namespace ContextProvider.Json

open Text Number

theorem exists_blanks (s : List Symbol) : ∃ before, Blanks before ∧ s = before ++ skipBlanks s :=
  ⟨s.takeWhile isTokenBlank, fun _ ↦ List.mem_takeWhile_imp, List.takeWhile_append_dropWhile.symm⟩

theorem Blanks.append {s t : List Symbol} (hs : Blanks s) (ht : Blanks t) : Blanks (s ++ t) :=
  List.forall_mem_append.mpr ⟨hs, ht⟩

/-! ## Strings -/

theorem exists_pieces_of_readPieces {read pieces : List Piece} {s rest : List Symbol}
    (h : readPieces read s = some (pieces, rest)) :
    ∃ more t, pieces = read.reverse ++ more ∧ PiecesWritten more t ∧ s = t ++ some '"' :: rest := by
  fun_induction readPieces read s with
  | case1 | case5 | case7 | case8 | case9 => cases h
  | case2 read _ ih =>
    obtain ⟨more, t, rfl, hmore, rfl⟩ := ih h
    exact ⟨.stray :: more, _, by simp, .cons .stray hmore, rfl⟩
  | case3 =>
    cases h
    exact ⟨[], [], by simp, .nil, rfl⟩
  | case4 read h₁ h₂ h₃ h₄ _ unit hunit _ ih =>
    obtain ⟨more, t, rfl, hmore, rfl⟩ := ih h
    exact ⟨.code unit :: more, _, by simp, .cons (.code hunit) hmore, rfl⟩
  | case6 read e _ _ c hc _ ih =>
    obtain ⟨more, t, rfl, hmore, rfl⟩ := ih h
    exact ⟨.char c :: more, _, by simp, .cons (.short hc) hmore, rfl⟩
  | case10 read c _ hquote hbackslash hcontrol ih =>
    obtain ⟨more, t, rfl, hmore, rfl⟩ := ih h
    exact ⟨.char c :: more, _, by simp,
      .cons (.plain hquote hbackslash (Nat.not_lt.mp hcontrol)) hmore, rfl⟩

/-! ## Numbers -/

theorem exists_digits_of_takeDigits {read digits : List Char} {s rest : List Symbol}
    (h : takeDigits read s = (digits, rest)) :
    ∃ more, digits = read.reverse ++ more ∧ s = more.map some ++ rest ∧
      ∀ c ∈ more, isDigit c = true := by
  fun_induction takeDigits read s with
  | case1 read c _ hc ih =>
    obtain ⟨more, rfl, rfl, hmore⟩ := ih h
    exact ⟨c :: more, by simp, rfl, List.forall_mem_cons.mpr ⟨hc, hmore⟩⟩
  | case2 | case3 =>
    cases h
    exact ⟨[], by simp, rfl, List.forall_mem_nil _⟩

theorem digits_of_takeDigits {digits : List Char} {s rest : List Symbol}
    (h : takeDigits [] s = (digits, rest)) (hne : digits.isEmpty = false) :
    s = digits.map some ++ rest ∧ Digits digits := by
  obtain ⟨digits, rfl, hs, hdigits⟩ := exists_digits_of_takeDigits h
  exact ⟨hs, List.isEmpty_eq_false_iff.mp hne, hdigits⟩

theorem eq_of_readMinus {s rest : List Symbol} {negative : Bool}
    (h : readMinus s = (negative, rest)) :
    s = (if negative then ['-'] else []).map some ++ rest := by
  unfold readMinus at h
  split at h <;> (cases h; rfl)

theorem fraction_of_readFraction {s rest : List Symbol} {fraction : Option (List Char)}
    (h : readFraction s = some (fraction, rest)) :
    s = (fractionChars fraction).map some ++ rest ∧ ∀ digits ∈ fraction, Digits digits := by
  unfold readFraction at h
  split at h
  · split at h
    rename_i digits after htake
    split at h
    · cases h
    · cases h
      obtain ⟨rfl, hdigits⟩ := digits_of_takeDigits htake (Bool.eq_false_iff.mpr ‹_›)
      exact ⟨rfl, by rintro _ ⟨⟩; exact hdigits⟩
  · cases h
    exact ⟨rfl, by rintro _ ⟨⟩⟩

theorem eq_of_skipPlus (s : List Symbol) :
    s = skipPlus s ∨ s = some '+' :: skipPlus s := by
  unfold skipPlus
  split
  · exact .inr rfl
  · exact .inl rfl

theorem exists_sign_of_readMinus {s rest unsigned : List Symbol} {below : Bool}
    (h : readMinus s = (below, rest)) (hrest : (if below then rest else skipPlus rest) = unsigned) :
    ∃ sign, SignWritten below sign ∧ s = sign.map some ++ unsigned := by
  rw [eq_of_readMinus h, ← hrest]
  cases below with
  | true => exact ⟨_, .minus, rfl⟩
  | false =>
    rcases eq_of_skipPlus rest with hplus | hplus
    · exact ⟨_, .absent, hplus⟩
    · exact ⟨_, .plus, hplus⟩

theorem exists_exponent_of_readExponent {s rest : List Symbol} {stated : Option (Bool × List Char)}
    (h : readExponent s = some (stated, rest)) :
    ∃ exponent, ExponentWritten stated exponent ∧ s = exponent.map some ++ rest := by
  unfold readExponent at h
  split at h
  · rename_i mark _
    by_cases hmark : mark = 'e' ∨ mark = 'E'
    · rw [if_pos hmark] at h
      split at h
      rename_i hminus
      split at h
      rename_i htake
      split at h
      · cases h
      · cases h
        obtain ⟨hunsigned, hdigits⟩ := digits_of_takeDigits htake (Bool.eq_false_iff.mpr ‹_›)
        obtain ⟨sign, hsign, rfl⟩ := exists_sign_of_readMinus hminus hunsigned
        exact ⟨_, .stated hmark hsign hdigits, by simp⟩
    · rw [if_neg hmark] at h
      cases h
      exact ⟨[], .absent, rfl⟩
  · cases h
    exact ⟨[], .absent, rfl⟩

theorem exists_written_of_readLiteral {s rest : List Symbol} {literal : Literal}
    (h : readLiteral s = some (literal, rest)) :
    ∃ t, literal.Written t ∧ s = t.map some ++ rest := by
  unfold readLiteral at h
  split at h
  rename_i hminus
  split at h
  rename_i htake
  split at h
  · cases h
  · rename_i hwhole
    simp only [Option.bind_eq_bind, Option.bind_eq_some_iff, Option.pure_def, Prod.exists,
      Option.some.injEq, Prod.mk.injEq] at h
    obtain ⟨fraction, afterFraction, hpoint, stated, after, hmark, rfl, rfl⟩ := h
    simp only [Bool.not_eq_true, Bool.or_eq_false_iff] at hwhole
    obtain ⟨rfl, hdigits⟩ := digits_of_takeDigits htake hwhole.1
    obtain ⟨rfl, hfraction⟩ := fraction_of_readFraction hpoint
    obtain ⟨exponent, hwritten, rfl⟩ := exists_exponent_of_readExponent hmark
    refine ⟨_, .mk hdigits ?_ hfraction hwritten, ?_⟩
    · simpa using hwhole.2
    · rw [eq_of_readMinus hminus]
      simp

/-! ## Trees -/

theorem eq_of_afterWord? {word : List Char} {s rest : List Symbol}
    (h : afterWord? word s = some rest) : s = word.map some ++ rest := by
  fun_induction afterWord? word s with
  | case1 => exact Option.some.inj h
  | case2 _ _ _ ih => rw [ih h]; rfl
  | case3 | case4 => cases h

/-- With the fuel a tree is read only from symbols that write it. -/
def RecognizesTrees (fuel : Nat) : Prop :=
  ∀ ⦃s rest : List Symbol⦄ ⦃tree : Tree⦄, readTree fuel s = some (tree, rest) →
    ∃ before t, Blanks before ∧ tree.Written t ∧ s = before ++ (t ++ rest)

/-- With the fuel an array is read only up to its end. -/
def RecognizesItems (fuel : Nat) : Prop :=
  ∀ ⦃read : List Tree⦄ ⦃s rest : List Symbol⦄ ⦃tree : Tree⦄,
    readItems fuel read s = some (tree, rest) →
    ∃ items before t, tree = .array (read.reverse ++ items) ∧ Blanks before ∧
      ItemsWritten items t ∧ s = before ++ (t ++ some ']' :: rest)

/-- With the fuel an object is read only up to its end. -/
def RecognizesMembers (fuel : Nat) : Prop :=
  ∀ ⦃read : List (Option String × Tree)⦄ ⦃s rest : List Symbol⦄ ⦃tree : Tree⦄,
    readMembers fuel read s = some (tree, rest) →
    ∃ members before t, tree = .object (read.reverse ++ members) ∧ Blanks before ∧
      MembersWritten members t ∧ s = before ++ (t ++ some '\x7d' :: rest)

theorem exists_blanks_of_skipBlanks {s rest : List Symbol} {c : Symbol}
    (h : skipBlanks s = c :: rest) : ∃ before, Blanks before ∧ s = before ++ c :: rest := by
  obtain ⟨before, hbefore, hs⟩ := exists_blanks s
  exact ⟨before, hbefore, h ▸ hs⟩

theorem recognizesItems_succ {fuel : Nat} (htrees : RecognizesTrees fuel)
    (hitems : RecognizesItems fuel) : RecognizesItems (fuel + 1) := by
  intro read s rest tree h
  rw [readItems] at h
  split at h
  · cases h
  · rename_i item more htree
    obtain ⟨before, t, hbefore, ht, rfl⟩ := htrees htree
    split at h
    · rename_i hskip
      obtain ⟨after, hafter, rfl⟩ := exists_blanks_of_skipBlanks hskip
      obtain ⟨items, gap, u, rfl, hgap, hu, rfl⟩ := hitems h
      exact ⟨item :: items, before, _, by simp, hbefore, .cons ht hafter hgap hu, by simp⟩
    · rename_i hskip
      cases h
      obtain ⟨after, hafter, rfl⟩ := exists_blanks_of_skipBlanks hskip
      exact ⟨[item], before, _, by simp, hbefore, .one ht hafter, by simp⟩
    · cases h

theorem recognizesMembers_succ {fuel : Nat} (htrees : RecognizesTrees fuel)
    (hmembers : RecognizesMembers fuel) : RecognizesMembers (fuel + 1) := by
  intro read s rest tree h
  rw [readMembers] at h
  split at h
  · rename_i hquote
    obtain ⟨before, hbefore, rfl⟩ := exists_blanks_of_skipBlanks hquote
    split at h
    · cases h
    · rename_i hpieces
      obtain ⟨_, key, rfl, hkey, rfl⟩ := exists_pieces_of_readPieces hpieces
      split at h
      · rename_i hskipColon
        obtain ⟨colon, hcolon, rfl⟩ := exists_blanks_of_skipBlanks hskipColon
        split at h
        · cases h
        · rename_i value more htree
          obtain ⟨gap, t, hgap, ht, rfl⟩ := htrees htree
          split at h
          · rename_i hskip
            obtain ⟨after, hafter, rfl⟩ := exists_blanks_of_skipBlanks hskip
            obtain ⟨members, next, u, rfl, hnext, hu, rfl⟩ := hmembers h
            exact ⟨_ :: members, before, _, by simp, hbefore,
              .cons (.mk hkey hcolon hgap ht hafter) hnext hu, by simp⟩
          · rename_i hskip
            cases h
            obtain ⟨after, hafter, rfl⟩ := exists_blanks_of_skipBlanks hskip
            exact ⟨[_], before, _, by simp, hbefore, .one (.mk hkey hcolon hgap ht hafter), by simp⟩
          · cases h
      · cases h
  · cases h

theorem recognizesTrees_succ {fuel : Nat} (hitems : RecognizesItems fuel)
    (hmembers : RecognizesMembers fuel) : RecognizesTrees (fuel + 1) := by
  intro s rest tree h
  rw [readTree] at h
  split at h
  · rename_i c more hskip
    obtain ⟨before, hbefore, rfl⟩ := exists_blanks_of_skipBlanks hskip
    split_ifs at h with hquote hbracket hbrace hn ht hf
    · subst hquote
      obtain ⟨⟨pieces, after⟩, hpieces, ⟨⟩⟩ := Option.map_eq_some_iff.mp h
      obtain ⟨_, t, rfl, ht, rfl⟩ := exists_pieces_of_readPieces hpieces
      exact ⟨before, _, hbefore, .string ht, by simp⟩
    · subst hbracket
      split at h
      · rename_i hskip
        cases h
        obtain ⟨gap, hgap, rfl⟩ := exists_blanks_of_skipBlanks hskip
        exact ⟨before, _, hbefore, .emptyArray hgap, by simp⟩
      · obtain ⟨gap, hgap, hmore⟩ := exists_blanks more
        obtain ⟨items, inner, t, rfl, hinner, ht, hskip⟩ := hitems h
        rw [hmore, hskip]
        exact ⟨before, _, hbefore, .array (hgap.append hinner) ht, by simp⟩
    · subst hbrace
      split at h
      · rename_i hskip
        cases h
        obtain ⟨gap, hgap, rfl⟩ := exists_blanks_of_skipBlanks hskip
        exact ⟨before, _, hbefore, .emptyObject hgap, by simp⟩
      · obtain ⟨gap, hgap, hmore⟩ := exists_blanks more
        obtain ⟨members, inner, t, rfl, hinner, ht, hskip⟩ := hmembers h
        rw [hmore, hskip]
        exact ⟨before, _, hbefore, .object (hgap.append hinner) ht, by simp⟩
    · subst hn
      obtain ⟨_, hword, ⟨⟩⟩ := Option.map_eq_some_iff.mp h
      exact ⟨before, _, hbefore, .null, by rw [eq_of_afterWord? hword]; rfl⟩
    · subst ht
      obtain ⟨_, hword, ⟨⟩⟩ := Option.map_eq_some_iff.mp h
      exact ⟨before, _, hbefore, .true, by rw [eq_of_afterWord? hword]; rfl⟩
    · subst hf
      obtain ⟨_, hword, ⟨⟩⟩ := Option.map_eq_some_iff.mp h
      exact ⟨before, _, hbefore, .false, by rw [eq_of_afterWord? hword]; rfl⟩
    · obtain ⟨⟨literal, after⟩, hliteral, ⟨⟩⟩ := Option.map_eq_some_iff.mp h
      obtain ⟨t, ht, hs⟩ := exists_written_of_readLiteral hliteral
      exact ⟨before, _, hbefore, .number ht, by rw [hs]⟩
  · cases h

theorem recognizesAll (fuel : Nat) :
    RecognizesTrees fuel ∧ RecognizesItems fuel ∧ RecognizesMembers fuel := by
  induction fuel with
  | zero =>
    refine ⟨?_, ?_, ?_⟩
    · intro s rest tree h
      cases h
    · intro read s rest tree h
      cases h
    · intro read s rest tree h
      cases h
  | succ fuel ih =>
    obtain ⟨htrees, hitems, hmembers⟩ := ih
    exact ⟨recognizesTrees_succ hitems hmembers, recognizesItems_succ htrees hitems,
      recognizesMembers_succ htrees hmembers⟩

/-- The symbols of a whole text that writes a tree, with blanks around it. -/
def Tree.WrittenText (tree : Tree) (s : List Symbol) : Prop :=
  ∃ before t after, Blanks before ∧ tree.Written t ∧ Blanks after ∧ s = before ++ (t ++ after)

/-- A text is read as a tree exactly if it writes that tree. -/
theorem Tree.ofSymbols?_eq_some_iff {s : List Symbol} {tree : Tree} :
    Tree.ofSymbols? s = some tree ↔ tree.WrittenText s := by
  constructor
  · intro h
    unfold Tree.ofSymbols? at h
    split at h
    · rename_i hread
      split at h
      · rename_i hend
        cases h
        obtain ⟨before, t, hbefore, ht, rfl⟩ := (recognizesAll _).1 hread
        have hafter := List.dropWhile_eq_nil_iff.mp (List.isEmpty_iff.mp hend)
        exact ⟨before, t, _, hbefore, ht, hafter, rfl⟩
      · cases h
    · cases h
  · rintro ⟨before, t, after, hbefore, ht, hafter, rfl⟩
    exact Tree.ofSymbols?_of_written ht hbefore hafter

end ContextProvider.Json
