import Brickwork.Proofs.Firmware.Expression

/-!
# Brackets of firmware

Which brackets are open at a place of a text, and how far a line should be set in there. Lines are
read one after the other. Within a line, literals and comments are passed over, and a bracket can be
closed only if it was the last to be opened. A `case` sets in what follows it up to the end of its
block.
-/

namespace Brickwork.Firmware

open Code

/-- A bracket that has been opened. -/
inductive Bracket where
  | paren
  /-- A brace, and whether a label has been met right within it. -/
  | brace (labelled : Bool)
deriving DecidableEq

/-- How far a bracket sets in the lines within it. -/
def Bracket.depth : Bracket → Nat
  | paren => 0
  | brace false => 1
  | brace true => 2

/-- How far lines are set in where the given brackets are open, the last opened first. -/
def depth (opened : List Bracket) : Nat :=
  (opened.map Bracket.depth).sum

/-! ## Characters -/

/-- What a place within a line belongs to. -/
inductive Zone where
  | code
  /-- Code right behind a slash: with another one, a comment starts. -/
  | slash
  | comment
  /-- A literal that ends with the given quote, and whether a backslash stands right before. -/
  | literal (quote : Char) (escaped : Bool)
deriving DecidableEq

/-- What has been found in the part of a line that was read. -/
structure Reading where
  zone : Zone
  opened : List Bracket
deriving DecidableEq

/-- The brackets that are open behind a character of code. -/
def bracket? (c : Char) (opened : List Bracket) : Option (List Bracket) :=
  if c = '(' then some (.paren :: opened)
  else if c = '\x7b' then some (.brace false :: opened)
  else if c = ')' then
    match opened with
    | .paren :: opened => some opened
    | _ => none
  else if c = '\x7d' then
    match opened with
    | .brace _ :: opened => some opened
    | _ => none
  else some opened

/-- Reads one more character of code. -/
def code? (c : Char) (opened : List Bracket) : Option Reading :=
  if c = '/' then some ⟨.slash, opened⟩
  else if c = '"' ∨ c = '\'' then some ⟨.literal c false, opened⟩
  else (bracket? c opened).map (Reading.mk .code)

/-- Reads one more character of a line, which is no line break. -/
def Reading.next (reading : Reading) (c : Char) : Option Reading :=
  if c = '\n' then none
  else match reading with
    | ⟨.code, opened⟩ => code? c opened
    | ⟨.slash, opened⟩ => if c = '/' then some ⟨.comment, opened⟩ else code? c opened
    | ⟨.comment, opened⟩ => some ⟨.comment, opened⟩
    | ⟨.literal quote true, opened⟩ => some ⟨.literal quote false, opened⟩
    | ⟨.literal quote false, opened⟩ =>
      if c = '\\' then some ⟨.literal quote true, opened⟩
      else if c = quote then some ⟨.code, opened⟩
      else some ⟨.literal quote false, opened⟩

/-! ## Lines -/

/-- Whether a line is the label of a case: its first word is `case`. -/
def isLabel (content : List Char) : Bool :=
  content.takeWhile isWordChar = "case".toList

/-- The brackets with another remark on the labels in the innermost block. -/
def relabel (labelled : Bool) : List Bracket → List Bracket
  | .brace _ :: opened => .brace labelled :: opened
  | opened => opened

/-- The brackets that are open behind a line. The line cannot end within a literal. -/
def behind? (opened : List Bracket) (line : List Char) : Option (List Bracket) :=
  let content := line.dropWhile (· = '\t')
  let opened := if isLabel content then relabel true opened else opened
  match content.foldlM Reading.next ⟨.code, opened⟩ with
  | none | some ⟨.literal _ _, _⟩ => none
  | some ⟨_, opened⟩ => some opened

/-- The brackets that are open behind lines. -/
def opened? (lines : List (List Char)) : Option (List Bracket) :=
  lines.foldlM behind? []

/-- How far a line should be set in: as its first character is, if it closes a block, and as the
other labels of its block, if it is one. -/
def margin (opened : List Bracket) (content : List Char) : Nat :=
  if content.head? = some '\x7d' then depth opened.tail
  else if isLabel content then depth (relabel false opened)
  else depth opened

/-- Whether a line starts with as many tabs as it should. An empty line has none. -/
def SetIn (opened : List Bracket) (line : List Char) : Prop :=
  line ≠ [] → (line.takeWhile (· = '\t')).length = margin opened (line.dropWhile (· = '\t'))

/-! ## Texts -/

/-- The text is code with all its literals closed, and takes the brackets that are open before it to
those that are open behind it. -/
def Turns (text : String) (before after : List Bracket) : Prop :=
  text.toList.foldlM Reading.next ⟨.code, before⟩ = some ⟨.code, after⟩

/-- Whether a text is made of words with blanks between them. -/
def IsPhrase (text : String) : Prop :=
  ∀ c ∈ text.toList, isWordChar c = true ∨ c = ' '

instance (text : String) : Decidable (IsPhrase text) :=
  List.decidableBAll _ text.toList

lemma Turns.append {text more : String} {before between after : List Bracket}
    (first : Turns text before between) (later : Turns more between after) :
    Turns (text ++ more) before after := by
  rw [Turns, String.toList_append, List.foldlM_append, first]
  exact later

section Texts

variable {opened : List Bracket}

lemma next_of_isWordChar {c : Char} (word : isWordChar c = true) :
    Reading.next ⟨.code, opened⟩ c = some ⟨.code, opened⟩ := by
  -- none of the characters with a meaning here is one of words
  have other {d : Char} (outside : isWordChar d = false) : c ≠ d := by
    rintro rfl
    rw [word] at outside
    cases outside
  have plain : ¬(c = '"' ∨ c = '\'') := not_or.mpr ⟨other rfl, other rfl⟩
  simp only [Reading.next, code?, bracket?, other (d := '\n') rfl, other (d := '/') rfl, plain,
    other (d := '(') rfl, other (d := '\x7b') rfl, other (d := ')') rfl, other (d := '\x7d') rfl,
    if_false, Option.map_some]

/-- Words have no brackets, and blanks between them have none either. -/
lemma turns_words {text : String} (words : IsPhrase text) : Turns text opened opened := by
  rw [IsPhrase] at words
  rw [Turns]
  generalize text.toList = cs at words
  induction cs with
  | nil => rfl
  | cons c cs ih =>
    obtain ⟨first, rest⟩ := List.forall_mem_cons.mp words
    have passed : Reading.next ⟨.code, opened⟩ c = some ⟨.code, opened⟩ := by
      rcases first with word | rfl
      · exact next_of_isWordChar word
      · rfl
    rw [List.foldlM_cons, passed]
    exact ih rest

lemma turns_word {text : String} (word : IsWord text) : Turns text opened opened :=
  turns_words fun c mem => .inl (word.2 c mem)

/-! ### Literals -/

/-- A character within a literal that is no escape leaves the reading there. -/
lemma next_literal {quote c : Char} (newline : c ≠ '\n') (backslash : c ≠ '\\')
    (other : c ≠ quote) :
    Reading.next ⟨.literal quote false, opened⟩ c = some ⟨.literal quote false, opened⟩ := by
  rw [Reading.next, if_neg newline]
  show (if c = '\\' then _ else if c = quote then _ else _) = _
  rw [if_neg backslash, if_neg other]

/-- What stands for a character in a literal does not end it. -/
lemma foldlM_literalChar {quote : Char} (unusual : isOctal quote = false) {c : Char}
    (escaped : c = quote → c = '"') :
    (literalChar c).foldlM Reading.next ⟨.literal quote false, opened⟩ =
      some ⟨.literal quote false, opened⟩ := by
  fun_cases literalChar c with
  | case6 =>
    have digit (n : Nat) : Reading.next ⟨.literal quote false, opened⟩ (octalDigit n) =
        some ⟨.literal quote false, opened⟩ := by
      have octal := (octalDigit_eq n).1
      exact next_literal (ne_of_isOctal octal rfl) (ne_of_isOctal octal rfl)
        (ne_of_isOctal octal unusual)
    have first (n : Nat) : Reading.next ⟨.literal quote true, opened⟩ (octalDigit n) =
        some ⟨.literal quote false, opened⟩ :=
      if_neg (ne_of_isOctal (octalDigit_eq n).1 rfl)
    have backslash : Reading.next ⟨.literal quote false, opened⟩ '\\' =
        some ⟨.literal quote true, opened⟩ := rfl
    simp only [List.foldlM_cons, List.foldlM_nil, backslash, first, digit, Option.bind_eq_bind,
      Option.bind_some]
    rfl
  | case7 quoted backslash newline =>
    rw [List.foldlM_cons, next_literal newline backslash fun eq => quoted (escaped eq)]
    rfl
  | _ => rfl

lemma turns_text (content : String) : Turns (literal content) opened opened := by
  have inside (cs : List Char) :
      (cs.flatMap literalChar).foldlM Reading.next ⟨.literal '"' false, opened⟩ =
      some ⟨.literal '"' false, opened⟩ := by
    induction cs with
    | nil => rfl
    | cons c cs ih =>
      rw [List.flatMap_cons, List.foldlM_append, foldlM_literalChar rfl id]
      exact ih
  rw [Turns, literal, String.toList_ofList, literalChars, List.cons_append, List.foldlM_cons]
  show List.foldlM Reading.next ⟨.literal '"' false, opened⟩ _ = _
  rw [List.foldlM_append, inside]
  rfl

lemma turns_letter {c : Char} (other : c ≠ '\'') :
    Turns ("'" ++ String.ofList (literalChar c) ++ "'") opened opened := by
  have chars : ("'" ++ String.ofList (literalChar c) ++ "'").toList =
      '\'' :: (literalChar c ++ ['\'']) := by
    simp only [String.toList_append, String.toList_ofList, List.append_assoc]
    rfl
  rw [Turns, chars, List.foldlM_cons]
  show List.foldlM Reading.next ⟨.literal '\'' false, opened⟩ _ = _
  rw [List.foldlM_append, foldlM_literalChar rfl fun eq => absurd eq other]
  rfl

end Texts

/-- The brackets in the text of an expression are closed within it. -/
lemma turns_expr {e : Expr} (spelled : e.Spelled) {opened : List Bracket} :
    Turns e.render opened opened := by
  induction e generalizing opened with
  | name spelling => exact turns_word spelled
  | number digits =>
    rcases spelled with word | ⟨unsigned, word, rfl⟩
    · exact turns_word word
    · exact .append rfl (turns_word word)
  | pin p => exact turns_word spelled
  | text content => exact turns_text content
  | letter c => exact turns_letter spelled
  | call function => exact (turns_word spelled).append rfl
  | apply function argument ih =>
    have opening : Turns "(" opened (.paren :: opened) := rfl
    exact (((turns_word spelled.1).append opening).append (ih spelled.2)).append rfl
  | both first rest ihf ihr =>
    have comma : Turns ", " opened opened := rfl
    exact ((ihf spelled.1).append comma).append (ihr spelled.2)
  | binary operator left right ihl ihr =>
    -- a slash does not start a comment, since a blank follows it
    have between : Turns (" " ++ operator.symbol ++ " ") opened opened := by
      rcases operator with (_ | _ | _ | _ | _ | _) | (_ | _) | _ | _ | _ <;> rfl
    have whole := ((ihl spelled.1).append between).append (ihr spelled.2)
    simp only [Expr.render, String.append_assoc] at whole ⊢
    exact whole
  | group inner ih =>
    have opening : Turns "(" opened (.paren :: opened) := rfl
    exact (opening.append (ih spelled)).append rfl
  | choice test yes no iht ihy ihn =>
    obtain ⟨test, yes, no⟩ := spelled
    have question : Turns " ? " opened opened := rfl
    have colon : Turns " : " opened opened := rfl
    exact ((((iht test).append question).append (ihy yes)).append colon).append (ihn no)

end Brickwork.Firmware
