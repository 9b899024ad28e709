import ContextProvider.Json.Tree
import Mathlib.Data.List.TakeWhile

/-!
# The grammar of JSON

The grammar is a relation between a tree and the symbols that write it. Blanks may stand around
every token, a character of a string may be escaped in any way, and a number keeps the form it is
written in. The reader takes a text that the grammar derives for the tree that it writes, however
deep the tree is.
-/

namespace ContextProvider.Json

open Text Number

/-! ## Blanks -/

/-- Symbols that may stand between tokens. -/
def Blanks (s : List Symbol) : Prop :=
  ∀ c ∈ s, isTokenBlank c = true

theorem Blanks.nil : Blanks [] :=
  List.forall_mem_nil _

theorem skipBlanks_append {before : List Symbol} (h : Blanks before) (s : List Symbol) :
    skipBlanks (before ++ s) = skipBlanks s :=
  List.dropWhile_append_of_pos h

theorem skipBlanks_cons {c : Symbol} (h : isTokenBlank c = false) (s : List Symbol) :
    skipBlanks (c :: s) = c :: s :=
  List.dropWhile_cons_of_neg (by simp [h])

theorem skipBlanks_append_cons {before : List Symbol} (hbefore : Blanks before) {c : Symbol}
    (h : isTokenBlank c = false) (s : List Symbol) :
    skipBlanks (before ++ c :: s) = c :: s := by
  rw [skipBlanks_append hbefore, skipBlanks_cons h]

/-! ## Strings -/

/-- The symbols that write a piece of a string. -/
inductive Piece.Written : Piece → List Symbol → Prop
  | plain {c : Char} (quote : c ≠ '"') (backslash : c ≠ '\\') (control : 0x20 ≤ c.toNat) :
      Written (.char c) [some c]
  | stray : Written .stray [none]
  | short {e c : Char} (stands : shortEscape? e = some c) :
      Written (.char c) [some '\\', some e]
  | code {a b c d : Symbol} {unit : Nat} (stands : hexCode? a b c d = some unit) :
      Written (.code unit) [some '\\', some 'u', a, b, c, d]

/-- The symbols that write the pieces of a string one after another. -/
inductive PiecesWritten : List Piece → List Symbol → Prop
  | nil : PiecesWritten [] []
  | cons {piece : Piece} {pieces : List Piece} {s t : List Symbol} (first : piece.Written s)
      (rest : PiecesWritten pieces t) : PiecesWritten (piece :: pieces) (s ++ t)

theorem Piece.Written.readPieces_append {piece : Piece} {s : List Symbol} (h : piece.Written s)
    (read : List Piece) (rest : List Symbol) :
    readPieces read (s ++ rest) = readPieces (piece :: read) rest := by
  cases h with
  | plain quote backslash control =>
    rw [readPieces.eq_def]
    simp [quote, backslash, Nat.not_lt.mpr control]
  | stray => rw [List.singleton_append, readPieces]
  | @short e c stands =>
    have hu : e ≠ 'u' := by
      rintro rfl
      cases stands
    rw [readPieces.eq_def]
    simp [stands, hu]
  | code stands =>
    rw [readPieces.eq_def]
    simp [stands]

/-- A string ends at the first quote that is not escaped. -/
theorem PiecesWritten.readPieces_append {pieces : List Piece} {s : List Symbol}
    (h : PiecesWritten pieces s) (read : List Piece) (rest : List Symbol) :
    readPieces read (s ++ some '"' :: rest) = some (read.reverse ++ pieces, rest) := by
  induction h generalizing read with
  | nil =>
    rw [readPieces.eq_def]
    simp
  | cons first _ ih =>
    rw [List.append_assoc, first.readPieces_append, ih, List.reverse_cons, List.append_assoc,
      List.singleton_append]

/-! ## Numbers -/

/-- Decimal digits, at least one. -/
def Digits (digits : List Char) : Prop :=
  digits ≠ [] ∧ ∀ c ∈ digits, isDigit c = true

/-- The fraction of a number. -/
def fractionChars : Option (List Char) → List Char
  | none => []
  | some digits => '.' :: digits

/-- The characters that write the sign of an exponent. -/
inductive SignWritten : Bool → List Char → Prop
  | absent : SignWritten false []
  | plus : SignWritten false ['+']
  | minus : SignWritten true ['-']

/-- The characters that write the exponent of a number. -/
inductive ExponentWritten : Option (Bool × List Char) → List Char → Prop
  | absent : ExponentWritten none []
  | stated {mark : Char} {below : Bool} {sign digits : List Char}
      (mark_eq : mark = 'e' ∨ mark = 'E') (signed : SignWritten below sign)
      (digits_wf : Digits digits) :
      ExponentWritten (some (below, digits)) (mark :: (sign ++ digits))

/-- The characters that write a number. -/
inductive Literal.Written : Literal → List Char → Prop
  | mk {literal : Literal} {exponent : List Char} (whole : Digits literal.whole)
      (minimal : literal.whole.head? = some '0' → literal.whole.length = 1)
      (fraction : ∀ digits ∈ literal.fraction, Digits digits)
      (written : ExponentWritten literal.exponent exponent) :
      Written literal ((if literal.negative then ['-'] else []) ++
        (literal.whole ++ (fractionChars literal.fraction ++ exponent)))

/-- What may follow a number: nothing that would go on with it. -/
def Ends (rest : List Symbol) : Prop :=
  ∀ c : Char, rest.head? = some (some c) → isDigit c = false ∧ c ≠ '.' ∧ c ≠ 'e' ∧ c ≠ 'E'

theorem Ends.not_digit {rest : List Symbol} (h : Ends rest) (c : Char)
    (hc : rest.head? = some (some c)) : isDigit c = false :=
  (h c hc).1

theorem takeDigits_append {digits : List Char} (h : ∀ c ∈ digits, isDigit c = true)
    {rest : List Symbol} (hrest : ∀ c : Char, rest.head? = some (some c) → isDigit c = false)
    (read : List Char) :
    takeDigits read (digits.map some ++ rest) = (read.reverse ++ digits, rest) := by
  induction digits generalizing read with
  | nil =>
    rw [List.map_nil, List.nil_append, List.append_nil]
    match rest, hrest with
    | [], _ => rfl
    | none :: _, _ => rfl
    | some c :: _, hrest => rw [takeDigits, if_neg (by simp [hrest c rfl])]
  | cons c digits ih =>
    obtain ⟨hc, hdigits⟩ := List.forall_mem_cons.mp h
    rw [List.map_cons, List.cons_append, takeDigits, if_pos hc, ih hdigits, List.reverse_cons,
      List.append_assoc, List.singleton_append]

theorem Digits.exists_cons {digits : List Char} (h : Digits digits) :
    ∃ c rest, digits = c :: rest ∧ isDigit c = true := by
  obtain ⟨c, rest, rfl⟩ := List.exists_cons_of_ne_nil h.1
  exact ⟨c, rest, rfl, h.2 c List.mem_cons_self⟩

theorem Digits.isEmpty {digits : List Char} (h : Digits digits) : digits.isEmpty = false :=
  List.isEmpty_eq_false_iff.mpr h.1

theorem Digits.head?_ne {digits : List Char} (h : Digits digits) {c : Char}
    (hc : isDigit c = false) (rest : List Symbol) :
    (digits.map some ++ rest).head? ≠ some (some c) := by
  obtain ⟨d, ds, rfl, hd⟩ := h.exists_cons
  rw [List.map_cons, List.cons_append, List.head?_cons]
  rintro ⟨⟩
  exact Bool.false_ne_true (hc.symm.trans hd)

theorem Digits.takeDigits {digits : List Char} (h : Digits digits) {rest : List Symbol}
    (hrest : Ends rest) : takeDigits [] (digits.map some ++ rest) = (digits, rest) :=
  takeDigits_append h.2 hrest.not_digit []

theorem readMinus_of_head? {s : List Symbol} (h : s.head? ≠ some (some '-')) :
    readMinus s = (false, s) := by
  unfold readMinus
  split
  · exact absurd rfl h
  · rfl

theorem skipPlus_of_head? {s : List Symbol} (h : s.head? ≠ some (some '+')) : skipPlus s = s := by
  unfold skipPlus
  split
  · exact absurd rfl h
  · rfl

theorem ExponentWritten.readExponent_append {stated : Option (Bool × List Char)} {s : List Char}
    (h : ExponentWritten stated s) {rest : List Symbol} (hrest : Ends rest) :
    readExponent (s.map some ++ rest) = some (stated, rest) := by
  cases h with
  | absent =>
    match rest, hrest with
    | [], _ => rfl
    | none :: _, _ => rfl
    | some c :: _, hrest =>
      have hc := (hrest c rfl).2.2
      exact if_neg (by simp [hc])
  | @stated mark below sign digits mark_eq signed digits_wf =>
    have hminus := readMinus_of_head? (digits_wf.head?_ne (c := '-') rfl rest)
    have hplus := skipPlus_of_head? (digits_wf.head?_ne (c := '+') rfl rest)
    have hdigits := digits_wf.takeDigits hrest
    rw [List.map_cons, List.cons_append, readExponent, if_pos mark_eq]
    cases signed with
    | absent => simp [hminus, hplus, hdigits, digits_wf.isEmpty]
    | plus => simp [readMinus, skipPlus, hdigits, digits_wf.isEmpty]
    | minus => simp [readMinus, hdigits, digits_wf.isEmpty]

theorem ExponentWritten.begins {stated : Option (Bool × List Char)} {s : List Char}
    (h : ExponentWritten stated s) {rest : List Symbol} (hrest : Ends rest) {c : Char}
    (hc : (s.map some ++ rest).head? = some (some c)) : isDigit c = false ∧ c ≠ '.' := by
  cases h with
  | absent => exact ⟨(hrest c hc).1, (hrest c hc).2.1⟩
  | stated mark_eq =>
    cases hc
    rcases mark_eq with rfl | rfl <;> decide

theorem readFraction_append {fraction : Option (List Char)}
    (h : ∀ digits ∈ fraction, Digits digits) {rest : List Symbol}
    (hrest : ∀ c : Char, rest.head? = some (some c) → isDigit c = false ∧ c ≠ '.') :
    readFraction ((fractionChars fraction).map some ++ rest) = some (fraction, rest) := by
  cases fraction with
  | none =>
    rw [fractionChars, List.map_nil, List.nil_append]
    unfold readFraction
    split
    · exact absurd rfl (hrest '.' rfl).2
    · rfl
  | some digits =>
    have hdigits := takeDigits_append (h digits rfl).2 (fun c hc ↦ (hrest c hc).1) []
    simp [fractionChars, readFraction, hdigits, (h digits rfl).1]

theorem fraction_begins (fraction : Option (List Char)) {rest : List Symbol}
    (hrest : ∀ c : Char, rest.head? = some (some c) → isDigit c = false ∧ c ≠ '.') {c : Char}
    (hc : ((fractionChars fraction).map some ++ rest).head? = some (some c)) :
    isDigit c = false := by
  cases fraction with
  | none => exact (hrest c hc).1
  | some digits =>
    cases hc
    rfl

/-- A number ends where nothing goes on with it. -/
theorem Literal.Written.readLiteral_append {literal : Literal} {s : List Char}
    (h : literal.Written s) {rest : List Symbol} (hrest : Ends rest) :
    readLiteral (s.map some ++ rest) = some (literal, rest) := by
  obtain @⟨exponent, whole, minimal, fraction, written⟩ := h
  have hexponent := written.readExponent_append hrest
  have hafter : ∀ c : Char, (exponent.map some ++ rest).head? = some (some c) →
      isDigit c = false ∧ c ≠ '.' := fun c hc ↦ written.begins hrest hc
  have hfraction := readFraction_append fraction hafter
  have hwhole := takeDigits_append whole.2
    (fun c hc ↦ fraction_begins literal.fraction hafter hc) []
  have hunsigned := readMinus_of_head? (whole.head?_ne (c := '-') rfl
    ((fractionChars literal.fraction).map some ++ (exponent.map some ++ rest)))
  have hsign : readMinus (((if literal.negative then ['-'] else []) ++
      (literal.whole ++ (fractionChars literal.fraction ++ exponent))).map some ++ rest) =
      (literal.negative, literal.whole.map some ++
        ((fractionChars literal.fraction).map some ++ (exponent.map some ++ rest))) := by
    simp only [List.map_append, List.append_assoc]
    cases literal.negative with
    | false => simpa using hunsigned
    | true => rfl
  rw [readLiteral, hsign]
  simp only [hwhole, hfraction, hexponent, List.reverse_nil, List.nil_append, whole.isEmpty,
    Option.bind_eq_bind, Option.bind_some, Bool.false_or]
  rw [if_neg]
  · rfl
  · simpa using minimal

/-! ## Trees -/

mutual

/-- The symbols that write a tree, without blanks around them. -/
inductive Tree.Written : Tree → List Symbol → Prop
  | null : Tree.Written .null ("null".toList.map some)
  | true : Tree.Written (.bool true) ("true".toList.map some)
  | false : Tree.Written (.bool false) ("false".toList.map some)
  | number {literal : Literal} {s : List Char} (literal_wf : literal.Written s) :
      Tree.Written (.number literal) (s.map some)
  | string {pieces : List Piece} {s : List Symbol} (pieces_wf : PiecesWritten pieces s) :
      Tree.Written (.string (pieceText pieces)) (some '"' :: (s ++ [some '"']))
  | emptyArray {gap : List Symbol} (blanks : Blanks gap) :
      Tree.Written (.array []) (some '[' :: (gap ++ [some ']']))
  | array {items : List Tree} {gap s : List Symbol} (blanks : Blanks gap)
      (items_wf : ItemsWritten items s) :
      Tree.Written (.array items) (some '[' :: (gap ++ (s ++ [some ']'])))
  | emptyObject {gap : List Symbol} (blanks : Blanks gap) :
      Tree.Written (.object []) (some '\x7b' :: (gap ++ [some '\x7d']))
  | object {members : List (Option String × Tree)} {gap s : List Symbol} (blanks : Blanks gap)
      (members_wf : MembersWritten members s) :
      Tree.Written (.object members) (some '\x7b' :: (gap ++ (s ++ [some '\x7d'])))

/-- The symbols that write the items of an array, at least one, with blanks after each item. -/
inductive ItemsWritten : List Tree → List Symbol → Prop
  | one {item : Tree} {s after : List Symbol} (item_wf : item.Written s) (blanks : Blanks after) :
      ItemsWritten [item] (s ++ after)
  | cons {item : Tree} {items : List Tree} {s after gap t : List Symbol} (item_wf : item.Written s)
      (blanks : Blanks after) (gap_blanks : Blanks gap) (items_wf : ItemsWritten items t) :
      ItemsWritten (item :: items) (s ++ (after ++ some ',' :: (gap ++ t)))

/-- The symbols that write a member of an object, with blanks after it. -/
inductive MemberWritten : Option String × Tree → List Symbol → Prop
  | mk {pieces : List Piece} {tree : Tree} {key colon gap s after : List Symbol}
      (key_wf : PiecesWritten pieces key) (colon_blanks : Blanks colon) (gap_blanks : Blanks gap)
      (tree_wf : tree.Written s) (blanks : Blanks after) :
      MemberWritten (pieceText pieces, tree)
        (some '"' :: (key ++ some '"' :: (colon ++ some ':' :: (gap ++ (s ++ after)))))

/-- The symbols that write the members of an object, at least one. -/
inductive MembersWritten : List (Option String × Tree) → List Symbol → Prop
  | one {member : Option String × Tree} {s : List Symbol} (member_wf : MemberWritten member s) :
      MembersWritten [member] s
  | cons {member : Option String × Tree} {members : List (Option String × Tree)}
      {s gap t : List Symbol} (member_wf : MemberWritten member s) (gap_blanks : Blanks gap)
      (members_wf : MembersWritten members t) :
      MembersWritten (member :: members) (s ++ some ',' :: (gap ++ t))

end

/-! ## What a text begins with -/

theorem Literal.Written.exists_cons {literal : Literal} {s : List Char} (h : literal.Written s) :
    ∃ c t, s = c :: t ∧ (c = '-' ∨ isDigit c = true) := by
  obtain @⟨exponent, whole, minimal, fraction, written⟩ := h
  obtain ⟨d, ds, hwhole, hd⟩ := whole.exists_cons
  rw [hwhole]
  cases literal.negative with
  | false => exact ⟨d, _, rfl, .inr hd⟩
  | true => exact ⟨'-', _, rfl, .inl rfl⟩

/-- A character that a value may begin with. -/
def BeginsValue (c : Char) : Prop :=
  c ∈ ['n', 't', 'f', '"', '[', '\x7b', '-'] ∨ isDigit c = true

theorem Tree.Written.exists_cons {tree : Tree} {s : List Symbol} (h : tree.Written s) :
    ∃ c t, s = some c :: t ∧ BeginsValue c := by
  cases h with
  | number literal_wf =>
    obtain ⟨c, t, rfl, hc⟩ := literal_wf.exists_cons
    exact ⟨c, t.map some, rfl, hc.imp (by rintro rfl; decide) id⟩
  | _ => exact ⟨_, _, rfl, .inl (by decide)⟩

theorem ItemsWritten.exists_cons {items : List Tree} {s : List Symbol} (h : ItemsWritten items s) :
    ∃ c t, s = some c :: t ∧ BeginsValue c := by
  cases h with
  | one item_wf | cons item_wf =>
    obtain ⟨c, t, rfl, hc⟩ := item_wf.exists_cons
    exact ⟨c, _, rfl, hc⟩

theorem MembersWritten.exists_cons {members : List (Option String × Tree)} {s : List Symbol}
    (h : MembersWritten members s) : ∃ t, s = some '"' :: t := by
  cases h with
  | one member_wf | cons member_wf =>
    obtain ⟨⟩ := member_wf
    exact ⟨_, rfl⟩

theorem isTokenBlank_iff {c : Char} :
    isTokenBlank (some c) = true ↔ c = ' ' ∨ c = '\n' ∨ c = '\r' ∨ c = '\t' := by
  simp [isTokenBlank, or_assoc]

theorem BeginsValue.not_blank {c : Char} (h : BeginsValue c) : isTokenBlank (some c) = false := by
  rw [← Bool.not_eq_true, isTokenBlank_iff]
  rintro (rfl | rfl | rfl | rfl) <;> exact absurd h (by unfold BeginsValue; decide)

theorem BeginsValue.ne_bracket {c : Char} (h : BeginsValue c) : c ≠ ']' := by
  rintro rfl
  exact absurd h (by unfold BeginsValue; decide)

theorem Ends.cons {c : Char} (h : c = ',' ∨ c = ']' ∨ c = '\x7d') (rest : List Symbol) :
    Ends (some c :: rest) := by
  rintro d ⟨⟩
  rcases h with rfl | rfl | rfl <;> decide

theorem Blanks.ends_append {after rest : List Symbol} (h : Blanks after) (hrest : Ends rest) :
    Ends (after ++ rest) := by
  cases after with
  | nil => exact hrest
  | cons c after =>
    rintro d ⟨⟩
    rcases isTokenBlank_iff.mp (h (some d) List.mem_cons_self) with rfl | rfl | rfl | rfl <;> decide

/-! ## The grammar is read -/

/-- With the fuel every tree is read from the symbols that write it. -/
def ReadsTrees (fuel : Nat) : Prop :=
  ∀ ⦃tree : Tree⦄ ⦃before s : List Symbol⦄ (rest : List Symbol), tree.Written s → Blanks before →
    Ends rest → 2 * s.length ≤ fuel → readTree fuel (before ++ (s ++ rest)) = some (tree, rest)

/-- With the fuel the items of every array are read up to its end. -/
def ReadsItems (fuel : Nat) : Prop :=
  ∀ ⦃items : List Tree⦄ ⦃s : List Symbol⦄ (before rest : List Symbol) (read : List Tree),
    ItemsWritten items s → Blanks before → 2 * s.length + 1 ≤ fuel →
    readItems fuel read (before ++ (s ++ some ']' :: rest)) =
      some (.array (read.reverse ++ items), rest)

/-- With the fuel the members of every object are read up to its end. -/
def ReadsMembers (fuel : Nat) : Prop :=
  ∀ ⦃members : List (Option String × Tree)⦄ ⦃s : List Symbol⦄ (before rest : List Symbol)
    (read : List (Option String × Tree)), MembersWritten members s → Blanks before →
    2 * s.length + 1 ≤ fuel →
    readMembers fuel read (before ++ (s ++ some '\x7d' :: rest)) =
      some (.object (read.reverse ++ members), rest)

theorem skipBlanks_after_item {after : List Symbol} (h : Blanks after) {c : Char}
    (hc : c = ',' ∨ c = ']' ∨ c = '\x7d') (rest : List Symbol) :
    skipBlanks (after ++ some c :: rest) = some c :: rest := by
  rcases hc with rfl | rfl | rfl <;> exact skipBlanks_append_cons h rfl rest

theorem readsItems_succ {fuel : Nat} (htrees : ReadsTrees fuel) (hitems : ReadsItems fuel) :
    ReadsItems (fuel + 1) := by
  intro items s before rest read h hbefore hfuel
  cases h with
  | @one item s after item_wf blanks =>
    rw [List.length_append] at hfuel
    have hitem := htrees (after ++ some ']' :: rest) item_wf hbefore
      (blanks.ends_append (.cons (by decide) _)) (by omega)
    rw [readItems, List.append_assoc, hitem]
    simp only [skipBlanks_after_item blanks (c := ']') (by decide), List.reverse_cons]
  | @cons item items s after gap t item_wf blanks gap_blanks items_wf =>
    simp only [List.length_append, List.length_cons] at hfuel
    have hitem := htrees (after ++ some ',' :: (gap ++ (t ++ some ']' :: rest))) item_wf hbefore
      (blanks.ends_append (.cons (by decide) _)) (by omega)
    have hmore := hitems gap rest (item :: read) items_wf gap_blanks (by omega)
    rw [List.reverse_cons, List.append_assoc, List.singleton_append] at hmore
    simp only [List.append_assoc, List.cons_append, readItems, hitem,
      skipBlanks_after_item blanks (c := ',') (by decide), hmore]

/-- A member is read up to the mark behind it, which says whether there is a further one. -/
theorem readMembers_of_memberWritten {fuel : Nat} (htrees : ReadsTrees fuel)
    {member : Option String × Tree} {before s : List Symbol} (h : MemberWritten member s)
    (hbefore : Blanks before) (hfuel : 2 * s.length ≤ fuel + 2)
    (read : List (Option String × Tree)) {c : Char} (hc : c = ',' ∨ c = '\x7d')
    (rest : List Symbol) :
    readMembers (fuel + 1) read (before ++ (s ++ some c :: rest)) =
      if c = ',' then readMembers fuel (member :: read) rest
      else some (.object (member :: read).reverse, rest) := by
  obtain @⟨pieces, tree, key, colon, gap, s, after, key_wf, colon_blanks, gap_blanks, tree_wf,
    blanks⟩ := h
  have hmark : c = ',' ∨ c = ']' ∨ c = '\x7d' := hc.imp_right .inr
  simp only [List.length_append, List.length_cons] at hfuel
  have htree := htrees (after ++ some c :: rest) tree_wf gap_blanks
    (blanks.ends_append (.cons hmark _)) (by omega)
  simp only [List.append_assoc, List.cons_append, readMembers,
    skipBlanks_append_cons hbefore (c := some '"') rfl, key_wf.readPieces_append,
    skipBlanks_append_cons colon_blanks (c := some ':') rfl, htree,
    skipBlanks_after_item blanks hmark, List.reverse_nil, List.nil_append]
  rcases hc with rfl | rfl <;> rfl

theorem readsMembers_succ {fuel : Nat} (htrees : ReadsTrees fuel) (hmembers : ReadsMembers fuel) :
    ReadsMembers (fuel + 1) := by
  intro members s before rest read h hbefore hfuel
  cases h with
  | one member_wf =>
    rw [readMembers_of_memberWritten htrees member_wf hbefore (by omega) read (.inr rfl),
      if_neg (by decide), List.reverse_cons]
  | @cons member members s next t member_wf next_blanks members_wf =>
    simp only [List.length_append, List.length_cons] at hfuel
    rw [List.append_assoc, List.cons_append, List.append_assoc,
      readMembers_of_memberWritten htrees member_wf hbefore (by omega) read (.inl rfl),
      if_pos rfl, hmembers next rest _ members_wf next_blanks (by omega), List.reverse_cons,
      List.append_assoc, List.singleton_append]

theorem readsTrees_succ {fuel : Nat} (hitems : ReadsItems fuel) (hmembers : ReadsMembers fuel) :
    ReadsTrees (fuel + 1) := by
  intro tree before s rest h hbefore hrest hfuel
  obtain ⟨c, t, hs, hc⟩ := h.exists_cons
  have hskip : skipBlanks (before ++ (s ++ rest)) = s ++ rest := by
    rw [hs, List.cons_append, skipBlanks_append_cons hbefore hc.not_blank]
  rw [readTree, hskip]
  cases h with
  | null => simp [afterWord?]
  | true => simp [afterWord?]
  | false => simp [afterWord?]
  | @number literal s literal_wf =>
    have hread := literal_wf.readLiteral_append hrest
    obtain ⟨d, u, rfl, hd⟩ := literal_wf.exists_cons
    have hother : d ∉ ['"', '[', '\x7b', 'n', 't', 'f'] := by
      intro hmem
      simp only [List.mem_cons, List.not_mem_nil, or_false] at hmem
      rcases hmem with rfl | rfl | rfl | rfl | rfl | rfl <;> exact absurd hd (by decide)
    rw [List.map_cons, List.cons_append] at hread ⊢
    simp only [List.mem_cons, not_or] at hother
    simp [hother, hread]
  | string pieces_wf => simp [pieces_wf.readPieces_append]
  | emptyArray blanks => simp [skipBlanks_append_cons blanks (c := some ']') rfl]
  | @array items gap s blanks items_wf =>
    simp only [List.length_append, List.length_cons] at hfuel
    have hread := hitems [] rest [] items_wf .nil (by omega)
    obtain ⟨d, u, rfl, hd⟩ := items_wf.exists_cons
    have hgap := skipBlanks_append_cons blanks hd.not_blank (u ++ some ']' :: rest)
    simpa [hgap, hd.ne_bracket] using hread
  | emptyObject blanks => simp [skipBlanks_append_cons blanks (c := some '\x7d') rfl]
  | @object members gap s blanks members_wf =>
    simp only [List.length_append, List.length_cons] at hfuel
    have hread := hmembers [] rest [] members_wf .nil (by omega)
    obtain ⟨u, rfl⟩ := members_wf.exists_cons
    have hgap := skipBlanks_append_cons blanks (c := some '"') rfl (u ++ some '\x7d' :: rest)
    simpa [hgap] using hread

theorem readsAll (fuel : Nat) : ReadsTrees fuel ∧ ReadsItems fuel ∧ ReadsMembers fuel := by
  induction fuel with
  | zero =>
    refine ⟨?_, ?_, ?_⟩
    · intro tree before s rest h _ _ hfuel
      obtain ⟨c, t, rfl, -⟩ := h.exists_cons
      exact absurd hfuel (Nat.not_succ_le_zero _)
    · intro items s before rest read h _ hfuel
      exact absurd hfuel (Nat.not_succ_le_zero _)
    · intro members s before rest read h _ hfuel
      exact absurd hfuel (Nat.not_succ_le_zero _)
  | succ fuel ih =>
    obtain ⟨htrees, hitems, hmembers⟩ := ih
    exact ⟨readsTrees_succ hitems hmembers, readsItems_succ htrees hitems,
      readsMembers_succ htrees hmembers⟩

/-- A text that the grammar derives is read as the tree that it writes. -/
theorem Tree.ofSymbols?_of_written {tree : Tree} {before s after : List Symbol} (h : tree.Written s)
    (hbefore : Blanks before) (hafter : Blanks after) :
    Tree.ofSymbols? (before ++ (s ++ after)) = some tree := by
  have hfuel : 2 * s.length ≤ 2 * (before ++ (s ++ after)).length + 2 := by
    simp only [List.length_append]
    omega
  have hends : Ends (after ++ []) := hafter.ends_append (by rintro c ⟨⟩)
  rw [List.append_nil] at hends
  have hread := (readsAll _).1 after h hbefore hends hfuel
  have hskip : skipBlanks after = [] := List.dropWhile_eq_nil_iff.mpr hafter
  simp only [Tree.ofSymbols?, hread, hskip, List.isEmpty_nil, if_true]

end ContextProvider.Json
