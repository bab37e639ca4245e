import Brickwork.Document.Reader
import Mathlib.Data.List.Forall2
import Mathlib.Tactic.Common

/-!
# Documents as trees

The outline of a document: its brackets, commas, colons, strings and words, with any gaps between
them. A tree can be written in many ways, since gaps do not count, but a text is written for one
tree only.
-/

namespace Brickwork.Document

/-- A value of a document: a word (a number, or a name such as `null`) and a string by their bytes,
a string and a key without the quotes. -/
inductive Tree where
  | word (bytes : List UInt8)
  | string (body : List UInt8)
  | list (elements : List Tree)
  | object (members : List (List UInt8 × Tree))

/-! ## Bytes -/

/-- Whether a byte is a blank, a tab or a line break. -/
def isBlank (b : UInt8) : Bool :=
  b = 0x20 || b = 0x0a || b = 0x09 || b = 0x0d

/-- Whether a byte is a bracket, a comma, a colon or a quote. -/
def isMark (b : UInt8) : Bool :=
  b = 0x5b || b = 0x5d || b = 0x7b || b = 0x7d || b = 0x2c || b = 0x3a || b = 0x22

/-- Whether a byte can be part of a word. -/
def isWordByte (b : UInt8) : Bool :=
  !isBlank b && !isMark b

/-- Whether nothing but blanks, tabs and line breaks stands here. -/
def Gaps (gap : List UInt8) : Prop :=
  ∀ b ∈ gap, isBlank b = true

/-- Whether nothing but parts of a word stands here. -/
def Letters (bytes : List UInt8) : Prop :=
  ∀ b ∈ bytes, isWordByte b = true

instance (bytes : List UInt8) : Decidable (Letters bytes) :=
  List.decidableBAll _ _

/-- Whether bytes make up a word. -/
def IsWord (bytes : List UInt8) : Prop :=
  bytes ≠ [] ∧ Letters bytes

/-- What can stand between the quotes of a string: there is no quote, except behind a backslash. -/
inductive Body : List UInt8 → Prop
  | nil : Body []
  | plain {b : UInt8} {bytes : List UInt8} (quote : b ≠ 0x22) (backslash : b ≠ 0x5c)
      (rest : Body bytes) :
    Body (b :: bytes)
  | escape {b : UInt8} {bytes : List UInt8} (rest : Body bytes) : Body (0x5c :: b :: bytes)

/-- The bytes do not start with a gap. -/
def Solid (s : List UInt8) : Prop :=
  ∀ b ∈ s.head?, isBlank b = false

/-- The bytes do not go on with a word. -/
def Apart (s : List UInt8) : Prop :=
  ∀ b ∈ s.head?, isWordByte b = false

lemma Gaps.append {gap gap' : List UInt8} (h : Gaps gap) (h' : Gaps gap') : Gaps (gap ++ gap') :=
  List.forall_mem_append.mpr ⟨h, h'⟩

lemma exists_gap (s : List UInt8) : ∃ gap s', s = gap ++ s' ∧ Gaps gap ∧ Solid s' := by
  refine ⟨s.takeWhile isBlank, s.dropWhile isBlank, List.takeWhile_append_dropWhile.symm, ?_, ?_⟩
  · exact List.all_eq_true.mp List.all_takeWhile
  · intro b head
    have not := List.head?_dropWhile_not isBlank s
    rwa [head] at not

lemma isBlank_of_isMark {b : UInt8} (mark : isMark b = true) : isBlank b = false := by
  simp only [isMark, Bool.or_eq_true, decide_eq_true_eq] at mark
  obtain (((((rfl | rfl) | rfl) | rfl) | rfl) | rfl) | rfl := mark <;> rfl

lemma Gaps.apart {gap : List UInt8} (gaps : Gaps gap) : Apart gap := by
  intro b head
  rw [isWordByte, gaps b (List.mem_of_mem_head? head), Bool.not_true, Bool.false_and]

/-- A mark, with any gaps in front of it, ends a word. -/
lemma apart_mark {gap s : List UInt8} {b : UInt8} (gaps : Gaps gap) (mark : isMark b = true) :
    Apart (gap ++ b :: s) := by
  cases gap with
  | nil =>
    rintro _ ⟨⟩
    rw [isWordByte, mark, Bool.not_true, Bool.and_false]
  | cons d gap =>
    rintro _ ⟨⟩
    rw [isWordByte, gaps d List.mem_cons_self, Bool.not_true, Bool.false_and]

lemma letters_nil : Letters [] :=
  List.forall_mem_nil _

lemma Letters.cons {b : UInt8} {bytes : List UInt8} (first : isWordByte b = true)
    (rest : Letters bytes) :
    Letters (b :: bytes) :=
  List.forall_mem_cons.mpr ⟨first, rest⟩

lemma Letters.append {bytes bytes' : List UInt8} (h : Letters bytes) (h' : Letters bytes') :
    Letters (bytes ++ bytes') :=
  List.forall_mem_append.mpr ⟨h, h'⟩

lemma IsWord.append {bytes bytes' : List UInt8} (h : IsWord bytes) (h' : Letters bytes') :
    IsWord (bytes ++ bytes') :=
  ⟨List.append_ne_nil_of_left_ne_nil h.1 bytes', h.2.append h'⟩

lemma Body.append {bytes bytes' : List UInt8} (h : Body bytes) (h' : Body bytes') :
    Body (bytes ++ bytes') := by
  induction h with
  | nil => exact h'
  | plain quote backslash _ ih => exact .plain quote backslash ih
  | escape _ ih => exact .escape ih

/-! ## Texts -/

/-- Parts with commas between them, and, unless they are the first ones, with a comma in front of
them. -/
inductive Separated {α : Type} (each : α → List UInt8 → Prop) : Bool → List α → List UInt8 → Prop
  | nil {first : Bool} : Separated each first [] []
  | first {a : α} {l : List α} {gap text rest : List UInt8} (front : Gaps gap) (part : each a text)
    (later : Separated each false l rest) : Separated each true (a :: l) (gap ++ (text ++ rest))
  | later {a : α} {l : List α} {gap gap' text rest : List UInt8} (comma : Gaps gap)
      (front : Gaps gap')
    (part : each a text) (later : Separated each false l rest) :
    Separated each false (a :: l) (gap ++ 0x2c :: (gap' ++ (text ++ rest)))

/-- A member: its key, a colon and its value. -/
inductive Member (value : Tree → List UInt8 → Prop) : List UInt8 × Tree → List UInt8 → Prop
  | mk {key gap gap' text : List UInt8} {tree : Tree} (body : Body key) (colon : Gaps gap)
      (front : Gaps gap')
    (written : value tree text) :
    Member value (key, tree) (0x22 :: (key ++ 0x22 :: (gap ++ 0x3a :: (gap' ++ text))))

/-- The text is one for the tree. There are no gaps around it. -/
inductive Tree.Spelled : Tree → List UInt8 → Prop
  | word {bytes : List UInt8} (word : IsWord bytes) : Spelled (.word bytes) bytes
  | string {body : List UInt8} (body' : Body body) : Spelled (.string body)
      (0x22 :: (body ++ [0x22]))
  | list {elements : List Tree} {inner gap : List UInt8}
      (inside : Separated Spelled true elements inner)
    (close : Gaps gap) : Spelled (.list elements) (0x5b :: (inner ++ (gap ++ [0x5d])))
  | object {members : List (List UInt8 × Tree)} {inner gap : List UInt8}
    (inside : Separated (Member Spelled) true members inner) (close : Gaps gap) :
    Spelled (.object members) (0x7b :: (inner ++ (gap ++ [0x7d])))

/-- The bytes are a document for the tree, with gaps around it. -/
def Tree.Written (tree : Tree) (bytes : List UInt8) : Prop :=
  ∃ gap text gap', Gaps gap ∧ tree.Spelled text ∧ Gaps gap' ∧ bytes = gap ++ (text ++ gap')

/-- The first byte of a text is neither a gap nor a closing bracket. -/
lemma Tree.Spelled.exists_head {tree : Tree} {text : List UInt8} (spelled : tree.Spelled text) :
    ∃ b rest, text = b :: rest ∧ isBlank b = false ∧ b ≠ 0x5d := by
  cases spelled with
  | word isWord =>
    obtain ⟨nonempty, letters⟩ := isWord
    obtain ⟨b, rest, rfl⟩ := List.exists_cons_of_ne_nil nonempty
    have first := letters b List.mem_cons_self
    refine ⟨b, rest, rfl, ?_, ?_⟩
    · rw [isWordByte, Bool.and_eq_true, Bool.not_eq_true'] at first
      exact first.1
    · rintro rfl
      cases first
  | string body => exact ⟨_, _, rfl, rfl, by decide⟩
  | list inside close => exact ⟨_, _, rfl, rfl, by decide⟩
  | object inside close => exact ⟨_, _, rfl, rfl, by decide⟩

/-! ## Order -/

/-- The two members have the same key, and their values are related. -/
inductive Paired (value : Tree → Tree → Prop) : List UInt8 × Tree → List UInt8 × Tree → Prop
  | mk {key : List UInt8} {tree tree' : Tree} (values : value tree tree') : Paired value (key, tree)
      (key, tree')

/-- The second tree has the same parts as the first, but the members of each object may come in
another order. -/
inductive Tree.Reordered : Tree → Tree → Prop
  | word {bytes : List UInt8} : Reordered (.word bytes) (.word bytes)
  | string {body : List UInt8} : Reordered (.string body) (.string body)
  | list {elements elements' : List Tree} (pairs : List.Forall₂ Reordered elements elements') :
    Reordered (.list elements) (.list elements')
  | object {members members' members'' : List (List UInt8 × Tree)}
    (pairs : List.Forall₂ (Paired Reordered) members members') (order : members'.Perm members'') :
    Reordered (.object members) (.object members'')

namespace Tree

/-- The texts of a tree and of its reorderings start with the same byte. -/
lemma Reordered.head?_eq {tree tree' : Tree} {text text' : List UInt8}
    (reordered : tree.Reordered tree')
    (spelled : tree.Spelled text) (spelled' : tree'.Spelled text') : text'.head? = text.head? := by
  cases reordered <;> cases spelled <;> cases spelled' <;> rfl

/-- An object with one member stays one. -/
lemma Reordered.of_single {key : List UInt8} {tree tree' : Tree}
    (reordered : (Tree.object [(key, tree)]).Reordered tree') :
    ∃ tree₁, tree' = Tree.object [(key, tree₁)] ∧ tree.Reordered tree₁ := by
  cases reordered with
  | object pairs order =>
    cases pairs with
    | cons pair others =>
      cases others
      obtain ⟨related⟩ := pair
      cases List.singleton_perm.mp order
      exact ⟨_, rfl, related⟩

/-- Induction over trees. -/
theorem induct {P : Tree → Prop} (word : ∀ bytes, P (.word bytes))
    (string : ∀ body, P (.string body))
    (list : ∀ elements, (∀ tree ∈ elements, P tree) → P (.list elements))
    (object : ∀ members, (∀ member ∈ members, P member.2) → P (.object members)) : ∀ tree, P tree
  | .word bytes => word bytes
  | .string body => string body
  | .list elements => list elements fun tree _ => induct word string list object tree
  | .object members => object members fun member mem =>
    have : sizeOf member.2 < sizeOf members := by
      have := List.sizeOf_lt_of_mem mem
      have : sizeOf member = 1 + sizeOf member.1 + sizeOf member.2 := rfl
      omega
    induct word string list object member.2

end Tree

/-! ## One tree for each text -/

section Unique

variable {gap gap' s s' : List UInt8}

/-- Bytes with a property end where the first byte without it comes. -/
lemma dropWhile_append {p : UInt8 → Bool} {v : List UInt8} (holds : ∀ b ∈ v, p b = true)
    (stop : ∀ b ∈ s.head?, p b = false) : (v ++ s).dropWhile p = s := by
  rw [List.dropWhile_append_of_pos holds]
  cases s with
  | nil => rfl
  | cons b s => rw [List.dropWhile_cons, stop b rfl, if_neg Bool.false_ne_true]

lemma Gaps.append_inj (gaps : Gaps gap) (gaps' : Gaps gap') (solid : Solid s) (solid' : Solid s')
    (eq : gap ++ s = gap' ++ s') : s = s' := by
  rw [← dropWhile_append gaps solid, ← dropWhile_append gaps' solid', eq]

lemma Letters.append_inj {bytes bytes' : List UInt8} (letters : Letters bytes)
    (letters' : Letters bytes')
    (apart : Apart s) (apart' : Apart s') (eq : bytes ++ s = bytes' ++ s') :
    bytes = bytes' ∧ s = s' := by
  have same : s = s' := by
    rw [← dropWhile_append letters apart, ← dropWhile_append letters' apart', eq]
  subst same
  exact ⟨List.append_cancel_right eq, rfl⟩

lemma Body.append_inj {body body' : List UInt8} (h : Body body) (h' : Body body')
    (eq : body ++ 0x22 :: s = body' ++ 0x22 :: s') : body = body' ∧ s = s' := by
  induction h generalizing body' with
  | nil =>
    cases h' with
    | nil => exact ⟨rfl, (List.cons.inj eq).2⟩
    | plain quote _ _ => exact absurd (List.cons.inj eq).1.symm quote
    | escape _ => exact absurd (List.cons.inj eq).1 (by decide)
  | plain quote backslash _ ih =>
    cases h' with
    | nil => exact absurd (List.cons.inj eq).1 quote
    | plain _ _ rest' =>
      obtain ⟨rfl, later⟩ := List.cons.inj eq
      obtain ⟨rfl, same⟩ := ih rest' later
      exact ⟨rfl, same⟩
    | escape _ => exact absurd (List.cons.inj eq).1 backslash
  | escape _ ih =>
    cases h' with
    | nil => exact absurd (List.cons.inj eq).1 (by decide)
    | plain _ backslash _ => exact absurd (List.cons.inj eq).1.symm backslash
    | escape rest' =>
      obtain ⟨rfl, later⟩ := List.cons.inj (List.cons.inj eq).2
      obtain ⟨rfl, same⟩ := ih rest' later
      exact ⟨rfl, same⟩

lemma solid_cons {b : UInt8} (solid : isBlank b = false) : Solid (b :: s) := by
  rintro _ ⟨⟩
  exact solid

/-- The part can be told from the bytes that start with its text. -/
def Legible {π : Type} (each : π → List UInt8 → Prop) (part : π) : Prop :=
  ∀ ⦃part' text text' s s'⦄, each part text → each part' text' → Apart s → Apart s' →
    text ++ s = text' ++ s' → part = part' ∧ s = s'

section Parts

variable {π : Type} {each : π → List UInt8 → Prop} {parts parts' : List π}
  {inner inner' : List UInt8} {first : Bool} {close : UInt8}

/-- What may follow a part does not go on with a word. -/
lemma Separated.apart (later : Separated each false parts inner) (mark : isMark close = true)
    (gaps : Gaps gap) : Apart (inner ++ (gap ++ close :: s)) := by
  cases later with
  | nil => exact apart_mark gaps mark
  | later comma front part later =>
    rw [List.append_assoc]
    exact apart_mark comma rfl

lemma Separated.unique (mark : isMark close = true) (comma : close ≠ 0x2c)
    (heads : ∀ ⦃part text⦄, each part text → ∃ b rest, text = b :: rest ∧
      isBlank b = false ∧ b ≠ close)
    (legible : ∀ part ∈ parts, Legible each part) (separated : Separated each first parts inner)
    (separated' : Separated each first parts' inner') (gaps : Gaps gap) (gaps' : Gaps gap')
    (eq : inner ++ (gap ++ close :: s) = inner' ++ (gap' ++ close :: s')) :
    parts = parts' ∧ s = s' := by
  have solid := isBlank_of_isMark mark
  -- where one list of parts ends, the other cannot go on: the closing byte neither starts a part
  -- nor is a comma
  induction separated generalizing parts' inner' with
  | nil =>
    cases separated' with
    | nil =>
      have same := gaps.append_inj gaps' (solid_cons solid) (solid_cons solid) eq
      exact ⟨rfl, (List.cons.inj same).2⟩
    | first front part later =>
      obtain ⟨b, rest, rfl, solid', other⟩ := heads part
      rw [List.append_assoc] at eq
      exact absurd
        (List.cons.inj
          (gaps.append_inj front (solid_cons solid) (solid_cons solid') eq)).1.symm other
    | later comma' front part later =>
      rw [List.append_assoc] at eq
      exact absurd
        (List.cons.inj (gaps.append_inj comma' (solid_cons solid) (solid_cons rfl) eq)).1 comma
  | first front part later ih =>
    obtain ⟨now, others⟩ := List.forall_mem_cons.mp legible
    obtain ⟨b, rest, rfl, solid₁, other⟩ := heads part
    cases separated' with
    | nil =>
      rw [List.append_assoc] at eq
      exact absurd
        (List.cons.inj (front.append_inj gaps' (solid_cons solid₁) (solid_cons solid) eq)).1 other
    | first front' part' later' =>
      obtain ⟨b', rest', rfl, solid₁', _⟩ := heads part'
      simp only [List.append_assoc] at eq
      have tails := front.append_inj front' (solid_cons solid₁) (solid_cons solid₁') eq
      obtain ⟨rfl, tails⟩ := now part part' (later.apart mark gaps) (later'.apart mark gaps') tails
      obtain ⟨rfl, same⟩ := ih others later' tails
      exact ⟨rfl, same⟩
  | later comma' front part later ih =>
    obtain ⟨now, others⟩ := List.forall_mem_cons.mp legible
    cases separated' with
    | nil =>
      rw [List.append_assoc] at eq
      exact absurd
        (List.cons.inj
          (comma'.append_inj gaps' (solid_cons rfl) (solid_cons solid) eq)).1.symm comma
    | later comma₁ front' part' later' =>
      obtain ⟨b, rest, rfl, solid₁, _⟩ := heads part
      obtain ⟨b', rest', rfl, solid₁', _⟩ := heads part'
      simp only [List.append_assoc, List.cons_append] at eq
      have tails :=
        (List.cons.inj (comma'.append_inj comma₁ (solid_cons rfl) (solid_cons rfl) eq)).2
      have tails := front.append_inj front' (solid_cons solid₁) (solid_cons solid₁') tails
      obtain ⟨rfl, tails⟩ := now part part' (later.apart mark gaps) (later'.apart mark gaps') tails
      obtain ⟨rfl, same⟩ := ih others later' tails
      exact ⟨rfl, same⟩

end Parts

/-- A key and its value can be told if the value can. -/
lemma Member.legible {pair : List UInt8 × Tree} (legible : Legible Tree.Spelled pair.2) :
    Legible (Member Tree.Spelled) pair := by
  rintro _ _ _ s s' ⟨body, colon, front, written⟩ ⟨body', colon', front', written'⟩ apart apart' eq
  simp only [List.append_assoc, List.cons_append] at eq
  obtain ⟨rfl, behind⟩ := body.append_inj body' (List.cons.inj eq).2
  have value := (List.cons.inj (colon.append_inj colon' (solid_cons rfl) (solid_cons rfl) behind)).2
  obtain ⟨b, rest, rfl, solid, _⟩ := written.exists_head
  obtain ⟨b', rest', rfl, solid', _⟩ := written'.exists_head
  have texts := front.append_inj front' (solid_cons solid) (solid_cons solid') value
  obtain ⟨rfl, same⟩ := legible written written' apart apart' texts
  exact ⟨rfl, same⟩

/-- The kinds of values. -/
inductive Kind where
  | word
  | string
  | list
  | object

def Tree.kind : Tree → Kind
  | word _ => .word
  | string _ => .string
  | list _ => .list
  | object _ => .object

/-- The kind of a value, by the first byte of its text. -/
def Kind.ofByte (b : UInt8) : Kind :=
  if b = 0x22 then .string else if b = 0x5b then .list else if b = 0x7b then .object else .word

lemma Tree.Spelled.kind_eq {tree : Tree} {text : List UInt8} (spelled : tree.Spelled text) :
    (text ++ s).head?.map Kind.ofByte = some tree.kind := by
  cases spelled with
  | word isWord =>
    obtain ⟨nonempty, letters⟩ := isWord
    obtain ⟨b, rest, rfl⟩ := List.exists_cons_of_ne_nil nonempty
    have first := letters b List.mem_cons_self
    have other (d : UInt8) (mark : isWordByte d = false) : b ≠ d := by
      rintro rfl
      rw [mark] at first
      cases first
    refine congrArg Option.some ?_
    rw [Kind.ofByte, if_neg (other _ rfl), if_neg (other _ rfl), if_neg (other _ rfl)]
    rfl
  | string body => rfl
  | list inside close => rfl
  | object inside close => rfl

/-- Every tree can be told from a text for it. -/
lemma Tree.legible (tree : Tree) : Legible Tree.Spelled tree := by
  induction tree using Tree.induct with
  | word bytes =>
    intro tree' text text' s s' spelled spelled' apart apart' eq
    have kinds := spelled.kind_eq.symm.trans (eq ▸ spelled'.kind_eq)
    cases spelled with
    | word isWord =>
      cases spelled' with
      | word isWord' =>
        obtain ⟨rfl, same⟩ := isWord.2.append_inj isWord'.2 apart apart' eq
        exact ⟨rfl, same⟩
      | _ => cases kinds
  | string body =>
    intro tree' text text' s s' spelled spelled' apart apart' eq
    have kinds := spelled.kind_eq.symm.trans (eq ▸ spelled'.kind_eq)
    cases spelled with
    | string body =>
      cases spelled' with
      | string body' =>
        simp only [List.cons_append, List.append_assoc, List.nil_append] at eq
        obtain ⟨rfl, same⟩ := body.append_inj body' (List.cons.inj eq).2
        exact ⟨rfl, same⟩
      | _ => cases kinds
  | list elements ih =>
    intro tree' text text' s s' spelled spelled' apart apart' eq
    have kinds := spelled.kind_eq.symm.trans (eq ▸ spelled'.kind_eq)
    cases spelled with
    | list inside close =>
      cases spelled' with
      | list inside' close' =>
        simp only [List.cons_append, List.append_assoc, List.nil_append] at eq
        obtain ⟨rfl, same⟩ :=
          Separated.unique rfl (by decide) (fun _ _ part => part.exists_head) ih inside inside'
          close close' (List.cons.inj eq).2
        exact ⟨rfl, same⟩
      | _ => cases kinds
  | object pairs ih =>
    intro tree' text text' s s' spelled spelled' apart apart' eq
    have kinds := spelled.kind_eq.symm.trans (eq ▸ spelled'.kind_eq)
    have heads {pair : List UInt8 × Tree} {text : List UInt8} (member : Member Spelled pair text) :
        ∃ b rest, text = b :: rest ∧ isBlank b = false ∧ b ≠ 0x7d := by
      cases member
      exact ⟨_, _, rfl, rfl, by decide⟩
    cases spelled with
    | object inside close =>
      cases spelled' with
      | object inside' close' =>
        simp only [List.cons_append, List.append_assoc, List.nil_append] at eq
        obtain ⟨rfl, same⟩ := Separated.unique rfl (by decide) (fun _ _ => heads)
          (fun pair mem => Member.legible (ih pair mem)) inside inside' close close'
            (List.cons.inj eq).2
        exact ⟨rfl, same⟩
      | _ => cases kinds

/-- A document is one for one tree only. -/
lemma Tree.Written.unique {tree tree' : Tree} {bytes : List UInt8} (written : tree.Written bytes)
    (written' : tree'.Written bytes) : tree = tree' := by
  obtain ⟨gap, text, behind, gaps, spelled, gaps₁, rfl⟩ := written
  obtain ⟨gap', text', behind', gaps', spelled', gaps₁', eq⟩ := written'
  have texts : text ++ behind = text' ++ behind' := by
    obtain ⟨b, rest, rfl, solid, _⟩ := spelled.exists_head
    obtain ⟨b', rest', rfl, solid', _⟩ := spelled'.exists_head
    exact gaps.append_inj gaps' (solid_cons solid) (solid_cons solid') eq
  exact (tree.legible spelled spelled' gaps₁.apart gaps₁'.apart texts).1

end Unique

end Brickwork.Document
