import Brickwork.Proofs.Document.Interruption
import Brickwork.Proofs.Document.Records
import Brickwork.Proofs.Document.Spelling

/-!
# The order of members

A document may give the members of its objects in any order. This holds for the objects of a model,
for those of a brick, whose meaning is decided by a member that may come last, and for those inside
a value that is passed over.
-/

namespace Brickwork

namespace Document

/-- What is looked at of a buffered value. -/
def Value.outline : Value → Value
  | list _ => .list []
  | object _ => .object []
  | value => value

namespace Reader

variable {α β γ σ : Type} {αs : List Type}

/-! ## Values -/

lemma OrderlessAt.map {d : UInt8} {view : α → β} {read : Reader α} (h : OrderlessAt d view read)
    (view' : γ → σ) (f : α → γ) (seen : ∀ a a', view a' = view a → view' (f a') = view' (f a)) :
    OrderlessAt d view' (read >>= fun a => pure (f a)) := by
  intro c s b c' at' took
  obtain ⟨a, c₁, took, last⟩ := took_bind took
  cases last
  obtain ⟨tree, text, s', eq, spelled, at'', settles⟩ := h at' took
  refine ⟨tree, text, s', eq, spelled, at'', fun tree' reordered => ?_⟩
  obtain ⟨a', same, gives⟩ := settles tree' reordered
  refine ⟨f a', seen a a' same, fun text' rest spelled' apart => ?_⟩
  exact (gives text' rest spelled' apart).bind gives_pure

lemma orderlessBy_value (room : Nat) : OrderlessBy Value.outline (value room) := by
  rw [value.eq_def]
  refine orderlessBy_skipGaps starved_badFormat fun d _ => ?_
  dsimp only
  split
  · exact
      (eager_advance ((local_word_tail ‹_› (by decide)).andThen fun _ => instant_pure)).orderlessAt
  split
  · exact
      (eager_advance ((local_word_tail ‹_› (by decide)).andThen fun _ => instant_pure)).orderlessAt
  split
  · exact
      (eager_advance ((local_word_tail ‹_› (by decide)).andThen fun _ => instant_pure)).orderlessAt
  split
  · exact (eager_advance ((local_number.number_tail ‹_›).andThen fun _ => instant_pure)).orderlessAt
  split
  · exact (eager_number.andThen fun _ => instant_pure).orderlessAt
  split
  · exact
      (eager_advance ((local_stringText.string_tail ‹_›).andThen fun _ => instant_pure)).orderlessAt
  split
  case isTrue eq =>
    obtain rfl := eq_toUInt8 (congrArg some eq)
    cases room with
    | zero => exact orderlessAt_badFormat
    | succ room =>
      have inside :=
        (orderlessAt_list (orderlessBy_value room)).map Value.outline Value.list fun _ _ _ => rfl
      rw [bind_assoc] at inside
      exact inside
  split
  case isTrue eq =>
    obtain rfl := eq_toUInt8 (congrArg some eq)
    cases room with
    | zero => exact orderlessAt_badFormat
    | succ room =>
      have files := files_add (orderlessBy_value room) fun found key value => (key, value) :: found
      have members :
          OrderlessAt 0x7b (fun _ => ())
            (advance >>= fun _ => closedBy (members (fun key found => do
          colon
          return (key, ← value room) :: found) [] >>= pure) closeObject) :=
        orderlessAt_object files (unordered_add Value.outline _) (fun _ => instant_pure)
          fun _ found' _ _ _ => ⟨found', rfl, rfl⟩
      have inside :=
        members.map Value.outline (fun found => Value.object found.reverse) fun _ _ _ => rfl
      rw [bind_pure, bind_assoc] at inside
      exact inside
  · exact orderlessAt_badFormat

end Reader

/-! ## Bricks -/

/-- What is looked at of a buffered member. -/
def outlined (member : String × Value) : String × Value :=
  (member.1, member.2.outline)

/-- The members are the same, in any order, as far as they are looked at. -/
def AlikeMembers (members members' : List (String × Value)) : Prop :=
  (members.map outlined).Perm (members'.map outlined)

section Buffered

variable {members members' : List (String × Value)}

lemma categoryOfValue_outline (value : Value) :
    categoryOfValue value.outline = categoryOfValue value := by
  cases value <;> rfl

lemma word32_outline (value : Value) : value.outline.word32 = value.word32 := by
  cases value <;> rfl

/-- If a key has one member, it has it in any order. -/
lemma uniqueMember_of_alike {α : Type} {key : String} {judge : Value → Except ContentError α}
    {found : Option α}
    (alike : AlikeMembers members members') (judged : ∀ value, judge value.outline = judge value)
    (unique : uniqueMember key judge members = .ok found) :
    uniqueMember key judge members' = .ok found := by
  have kept (members : List (String × Value)) :
      (members.map outlined).filter (fun member => member.1 = key) =
      (members.filter fun member => member.1 = key).map outlined :=
    List.filter_map
  have same := alike.filter fun member => decide (member.1 = key)
  rw [kept, kept] at same
  rw [uniqueMember] at unique ⊢
  split at unique
  case h_1 missing =>
    rw [missing] at same
    rw [List.map_eq_nil_iff.mp (List.nil_perm.mp same)]
    exact unique
  case h_2 key' value one =>
    rw [one] at same
    obtain ⟨⟨key₁, value₁⟩, one', eq⟩ :=
      List.map_eq_singleton_iff.mp (List.singleton_perm.mp same).symm
    rw [one']
    have outlines : value₁.outline = value.outline := congrArg Prod.snd eq
    dsimp only
    rw [← judged, outlines, judged]
    exact unique
  case h_3 => split at unique <;> cases unique

lemma categoryOfMembers_of_alike {category : Category} (alike : AlikeMembers members members')
    (h : categoryOfMembers members = .ok category) : categoryOfMembers members' = .ok category := by
  rw [categoryOfMembers] at h ⊢
  cases typed : uniqueMember "type" categoryOfValue members with
  | error error =>
    rw [typed] at h
    cases h
  | ok found =>
    rw [typed] at h
    rw [uniqueMember_of_alike alike categoryOfValue_outline typed]
    cases found with
    | none => cases h
    | some kind =>
      cases kind with
      | serialLine default =>
        change (uniqueMember "baud" Value.word32 members).map _ = _ at h
        change (uniqueMember "baud" Value.word32 members').map _ = _
        cases speed : uniqueMember "baud" Value.word32 members with
        | error error =>
          rw [speed] at h
          cases h
        | ok baud =>
          rw [speed] at h
          rw [uniqueMember_of_alike alike word32_outline speed]
          exact h
      | _ => exact h

end Buffered

namespace Reader

lemma unordered_buffer :
    Unordered (actAdd fun found key value => found ++ [(key, value)]) (SameView Value.outline)
    AlikeMembers where
  refl members := .refl _
  trans h h' := h.trans h'
  same_refl _ := ⟨rfl, rfl⟩
  step := by
    rintro ⟨key, value⟩ ⟨_, value'⟩ members members₁ _ ⟨rfl, seen⟩ alike ⟨⟩
    refine ⟨_, rfl, ?_⟩
    rw [AlikeMembers, List.map_append, List.map_append]
    refine alike.append (.of_eq ?_)
    exact congrArg (fun value => [(_, value)]) seen.symm
  swap := by
    rintro ⟨key, value⟩ ⟨key', value'⟩ members _ _ ⟨⟩ ⟨⟩
    refine ⟨_, _, rfl, rfl, ?_⟩
    simp only [AlikeMembers, List.map_append, List.append_assoc]
    exact .append_left _ (.swap _ _ _)

lemma eq_ok_of_ofExcept {α : Type} {result : Except ContentError α} {a : α} {c c' : Cursor}
    (took : ofExcept result c = .ok a c') : result = .ok a := by
  cases result with
  | ok b =>
    cases took
    rfl
  | error error => cases took

lemma orderless_identifier : Orderless identifier :=
  orderless_checkedString

lemma orderless_pin : Orderless pin :=
  orderless_checkedString

variable (room : Nat)

lemma orderless_brick : Orderless (brick room) := by
  refine (orderlessBy_skipGaps starved_badFormat fun d _ => ?_).located
  split
  · contradiction
  case h_2 seen =>
    obtain rfl := eq_toUInt8 seen
    have files :=
      files_add (orderlessBy_value (room - 1)) fun found key value => found ++ [(key, value)]
    refine orderlessAt_openBracket
      (orderlessAt_object (files_slots ?_ files) unordered_buffer.slots ?_ ?_)
    · exact ⟨orderless_identifier, orderless_optional orderless_pin, trivial⟩
    · intro both
      refine instant_completed.bind fun values => ?_
      exact instant_ofExcept.bind fun category => instant_pure
    · rintro ⟨slots, members⟩ ⟨_, members'⟩ brick ⟨rfl, alike⟩ now
      obtain ⟨⟨name, pin, _⟩, c₁, filled, took⟩ := took_bind (congrFun now default)
      obtain ⟨category, c₂, judged, last⟩ := took_bind took
      obtain ⟨values, rfl⟩ := instant_completed filled
      cases last
      -- the category is told from the buffered members alone
      refine ⟨_, ?_, rfl⟩
      dsimp only
      rw [values, pure_bind, categoryOfMembers_of_alike alike (eq_ok_of_ofExcept judged)]
      rfl
  · exact orderlessAt_mismatch

/-! ## Models -/

lemma orderless_list {α : Type} {read : Reader α} (h : Orderless read) :
    Orderless (list room read) := by
  refine (orderlessBy_skipGaps starved_badFormat fun d _ => ?_).located
  split
  · contradiction
  case h_2 seen =>
    obtain rfl := eq_toUInt8 seen
    have elements := orderlessAt_list h
    rw [List.map_id_fun] at elements
    exact orderlessAt_openBracket elements
  · exact orderlessAt_mismatch

lemma orderless_byte : Orderless byte :=
  orderless_checkedNumber.bind fun _ => instant_pure

lemma orderless_word32 : Orderless word32 :=
  orderless_checkedNumber.bind fun _ => instant_pure

lemma orderless_float : Orderless float :=
  orderless_checkedNumber

lemma orderless_level : Orderless (level room) := by
  refine orderless_tagged ?_
  simp only [List.map_map, List.forall_mem_map]
  exact fun _ _ => trivial

lemma orderless_connective : Orderless (connective room) := by
  refine orderless_tagged ?_
  simp only [List.map, List.forall_mem_cons]
  exact ⟨trivial, trivial, List.forall_mem_nil _⟩

lemma orderless_comparison : Orderless (comparison room) := by
  refine orderless_tagged ?_
  simp only [List.map_map, List.forall_mem_map]
  exact fun _ _ => trivial

lemma orderless_condition : Orderless (condition room) := by
  refine orderless_tagged ?_
  simp only [List.map, List.forall_mem_cons]
  refine ⟨?_, ?_, ?_, List.forall_mem_nil _⟩
  · refine Orderless.bind (orderless_record ?_) fun _ => instant_pure
    exact ⟨orderless_identifier, orderless_level _, trivial⟩
  · refine Orderless.bind (orderless_record ?_) fun _ => instant_pure
    exact ⟨orderless_identifier, orderless_comparison _, orderless_float, trivial⟩
  · refine Orderless.bind (orderless_record ?_) fun _ => instant_pure
    exact ⟨orderless_identifier, orderless_string, trivial⟩

lemma orderless_guardNode {side : Reader Guard} (h : Orderless side) :
    Orderless (guardNode room side) := by
  refine orderless_tagged ?_
  simp only [List.map, List.forall_mem_cons]
  refine ⟨?_, ?_, List.forall_mem_nil _⟩
  · exact (orderless_condition _).bind fun _ => instant_pure
  · refine Orderless.bind (orderless_record ?_) fun _ => instant_pure
    exact ⟨h, orderless_connective _, h, trivial⟩

lemma orderless_guard : Orderless (Reader.guard room) := by
  have deep : Orderless (badFormat .tooDeep : Reader Guard) :=
    orderlessBy_of_never fun _ => not_yields_badFormat
  induction room using Reader.guard.induct with
  | case1 => exact orderless_guardNode 0 deep
  | case2 => exact orderless_guardNode 1 deep
  | case3 room ih => exact orderless_guardNode (room + 2) ih

lemma orderless_analogValue : Orderless (analogValue room) := by
  refine orderless_tagged ?_
  simp only [List.map, List.forall_mem_cons]
  refine ⟨?_, ?_, List.forall_mem_nil _⟩
  · exact orderless_byte.bind fun _ => instant_pure
  · exact orderless_identifier.bind fun _ => instant_pure

lemma orderless_segment : Orderless (segment room) := by
  refine orderless_tagged ?_
  simp only [List.map, List.forall_mem_cons]
  refine ⟨?_, ?_, List.forall_mem_nil _⟩
  · exact orderless_string.bind fun _ => instant_pure
  · exact orderless_identifier.bind fun _ => instant_pure

lemma orderless_pitch : Orderless (pitch room) := by
  refine orderless_tagged ?_
  simp only [List.map, List.forall_mem_cons]
  refine ⟨?_, ?_, List.forall_mem_nil _⟩
  · exact orderless_word32.bind fun _ => instant_pure
  · exact orderless_string.bind fun _ => instant_pure

lemma orderless_action : Orderless (action room) := by
  refine orderless_tagged ?_
  simp only [List.map, List.forall_mem_cons]
  refine ⟨?_, ?_, ?_, ?_, ?_, ?_, List.forall_mem_nil _⟩
  · refine Orderless.bind (orderless_record ?_) fun _ => instant_pure
    exact ⟨orderless_identifier, orderless_level _, trivial⟩
  · refine Orderless.bind (orderless_record ?_) fun _ => instant_pure
    exact ⟨orderless_identifier, orderless_analogValue _, trivial⟩
  · refine Orderless.bind (orderless_record ?_) fun _ => instant_pure
    exact ⟨orderless_identifier, orderless_string, trivial⟩
  · refine Orderless.bind (orderless_record ?_) fun _ => instant_pure
    exact ⟨orderless_identifier, orderless_list _ (orderless_segment _), trivial⟩
  · refine Orderless.bind (orderless_record ?_) fun _ => instant_pure
    exact ⟨orderless_identifier, orderless_pitch _, orderless_optional orderless_word32, trivial⟩
  · refine Orderless.bind (orderless_record ?_) fun _ => instant_pure
    exact ⟨orderless_identifier, trivial⟩

lemma orderless_transition : Orderless (transition room) := by
  refine Orderless.bind (orderless_record ?_) fun _ => instant_pure
  exact ⟨orderless_guard _, orderless_identifier, trivial⟩

lemma orderless_state : Orderless (state room) := by
  refine Orderless.bind (orderless_record ?_) fun _ => instant_pure
  exact ⟨orderless_identifier, orderless_list _ (orderless_action _),
    orderless_list _ (orderless_transition _),
    trivial⟩

lemma orderless_machine : Orderless (machine room) := by
  refine Orderless.bind (orderless_record ?_) fun _ => instant_pure
  exact ⟨orderless_identifier, orderless_identifier, orderless_list _ (orderless_state _),
    orderless_optional orderless_word32, trivial⟩

lemma orderless_app : Orderless (app room) := by
  refine Orderless.bind (orderless_record ?_) fun _ => instant_pure
  exact ⟨orderless_string, orderless_list _ (orderless_brick _),
    orderless_optional orderless_identifier,
    orderless_list _ (orderless_state _), orderless_list _ (orderless_machine _), trivial⟩

lemma Gives.eq_ok {α : Type} {read : Reader α} {s : List UInt8} {c : Cursor} {a : α}
    {result : EStateM.Result Fault Cursor α} (gives : Gives read s a []) (ran : read c = result)
    (at' : c.At s) : ∃ c', result = .ok a c' := by
  obtain ⟨c', took, _⟩ := gives c at'
  exact ⟨c', ran.symm.trans took⟩

lemma run_eq_ok {α : Type} {read : Reader α} {bytes gap : List UInt8} {a : α}
    (gives : Gives read bytes a gap) (gaps : Gaps gap) : read.run ⟨bytes, .complete⟩ = .ok a := by
  have behind : Gives skipGaps gap none [] := by
    rw [← List.append_nil gap]
    exact gives_skipGaps gaps (by rintro _ ⟨⟩)
  rw [run]
  generalize ran : (read >>= _) (Cursor.start ⟨bytes, .complete⟩) = result
  obtain ⟨c', rfl⟩ : ∃ c', result = .ok a c' := by
    refine Gives.eq_ok (gives.bind ?_) ran ⟨rfl, rfl⟩
    exact behind.bind gives_pure
  rfl

/-- A whole input is the text of a tree with gaps around it. -/
lemma run_reordered {α : Type} {read : Reader α} {bytes : List UInt8} {a : α} (h : Orderless read)
    (ran : read.run ⟨bytes, .complete⟩ = .ok a) :
    ∃ tree : Tree, tree.Written bytes ∧ ∀ tree' bytes', tree.Reordered tree' →
      tree'.Written bytes' → read.run ⟨bytes', .complete⟩ = .ok a := by
  rw [run] at ran
  split at ran
  case h_1 c' took =>
    cases ran
    obtain ⟨_, c₁, first, last⟩ := took_bind took
    obtain ⟨gap, tree, text, s, (rfl : bytes = _), gaps, spelled, at₁, settles⟩ :=
      h ⟨rfl, rfl⟩ first
    obtain ⟨gap', s', c₂, o, rfl, gaps', _, at₂, seen, last⟩ := took_skipGaps at₁ last
    split at last
    · cases last
      obtain rfl : s' = [] := List.head?_eq_none_iff.mp (Option.map_eq_none_iff.mp seen)
      rw [List.append_nil]
      refine ⟨tree, ⟨gap, text, gap', gaps, spelled, gaps', rfl⟩,
        fun tree' bytes' reordered written => ?_⟩
      obtain ⟨gap₁, text₁, gap₂, gaps₁, spelled₁, gaps₂, rfl⟩ := written
      obtain ⟨a', (rfl : a' = a), means⟩ := settles reordered
      exact run_eq_ok (means gaps₁ spelled₁ gaps₂.apart) gaps₂
    · cases last
  case h_2 => cases ran

end Reader

end Document

open Document

/-- What is loaded from a document is the text of a tree, and the same is loaded from every document
for a tree with the same members in another order, at any depth. -/
theorem load_reordered {source : String} {input : Input} {app : App}
    (loaded : App.load source input = .ok app) :
    (∃ tree : Tree, tree.Written input.bytes) ∧
      ∀ (tree tree' : Tree) (bytes' : List UInt8) (source' : String), tree.Written input.bytes →
        tree.Reordered tree' → tree'.Written bytes' →
        App.load source' ⟨bytes', .complete⟩ = .ok app := by
  have ran := App.load_eq_ok.mp loaded
  obtain ⟨bytes, ending⟩ := input
  cases ending with
  | failing cause =>
    -- an input that breaks off is not accepted
    obtain cut | ⟨⟨reason, position, malformed⟩, _⟩ :=
      Reader.run_failing (Reader.spends_app maxRoom) cause bytes []
    · cases cut.symm.trans ran
    · cases malformed.symm.trans ran
  | complete =>
    obtain ⟨tree, written, same⟩ := Reader.run_reordered (Reader.orderless_app maxRoom) ran
    refine ⟨⟨tree, written⟩, fun tree₁ tree' bytes' source' written₁ reordered written' => ?_⟩
    obtain rfl := written.unique written₁
    exact App.load_eq_ok.mpr (same tree' bytes' reordered written')

namespace Document

/-- There is neither a quote nor a backslash in the text. -/
def IsPlain (text : String) : Prop :=
  ∀ b ∈ Text.encode text, b ≠ 0x22 ∧ b ≠ 0x5c

instance (text : String) : Decidable (IsPlain text) :=
  List.decidableBAll _ _

lemma body_encode {text : String} (plain : IsPlain text) : Body (Text.encode text) := by
  rw [IsPlain] at plain
  generalize Text.encode text = bytes at plain
  induction bytes with
  | nil => exact .nil
  | cons b bytes ih =>
    obtain ⟨first, rest⟩ := List.forall_mem_cons.mp plain
    exact .plain first.1 first.2 (ih rest)

lemma spelled_quote {text : String} (plain : IsPlain text) :
    (Tree.string (Text.encode text)).Spelled (quote text) :=
  .string (body_encode plain)

lemma separated_flatten {π : Type} {each : π → List UInt8 → Prop} {parts : List π}
    {texts : List (List UInt8)}
    (written : List.Forall₂ each parts texts) :
    Separated each true parts (texts.intersperse [0x2c]).flatten := by
  have later {parts : List π} {texts : List (List UInt8)}
      (written : List.Forall₂ each parts texts) :
      Separated each false parts (texts.map (0x2c :: ·)).flatten := by
    induction written with
    | nil => exact .nil
    | cons part _ ih => exact .later (List.forall_mem_nil _) (List.forall_mem_nil _) part ih
  have joined (text : List UInt8) (texts : List (List UInt8)) :
      ((text :: texts).intersperse [0x2c]).flatten = text ++ (texts.map (0x2c :: ·)).flatten := by
    induction texts generalizing text with
    | nil => rfl
    | cons text' texts ih =>
      rw [List.intersperse_cons_cons, List.flatten_cons, List.flatten_cons, ih]
      rfl
  cases written with
  | nil => exact .nil
  | cons part others =>
    rw [joined]
    exact .first (List.forall_mem_nil _) part (later others)

lemma spelled_array {trees : List Tree} {texts : List (List UInt8)}
    (written : List.Forall₂ Tree.Spelled trees texts) : (Tree.list trees).Spelled (array texts) :=
  .list (separated_flatten written) (List.forall_mem_nil _)

/-- The member of a document, for a key without escapes. -/
inductive Built : List UInt8 × Tree → String × List UInt8 → Prop
  | mk {key : String} {tree : Tree} {text : List UInt8} (plain : IsPlain key)
      (spelled : tree.Spelled text) :
    Built (Text.encode key, tree) (key, text)

lemma spelled_object {pairs : List (List UInt8 × Tree)} {members : List (String × List UInt8)}
    (built : List.Forall₂ Built pairs members) : (Tree.object pairs).Spelled (object members) := by
  refine .object (separated_flatten ?_) (List.forall_mem_nil _)
  rw [List.forall₂_map_right_iff]
  refine built.imp ?_
  rintro _ _ ⟨plain, spelled⟩
  have member :=
    Member.mk (body_encode plain) (List.forall_mem_nil _) (List.forall_mem_nil _) spelled
  simp only [quote, List.cons_append, List.append_assoc, List.nil_append] at member ⊢
  exact member

end Document

/-- A document in which the speed of a brick stands behind its type, and a value that nobody asks
for in front of all others. -/
def cellar : List UInt8 :=
  object [
    ("extra", object [("b", Text.encode "null"), ("a", array [Text.encode "-1.5e3"])]),
    ("name", quote "cellar"),
    ("bricks", array [object [
      ("type", quote "serial_line"), ("baud", Text.encode "115200"), ("name", quote "wire")]])]

/-- The same members in another order. -/
def loft : List UInt8 :=
  object [
    ("name", quote "cellar"),
    ("bricks", array [object [
      ("name", quote "wire"), ("type", quote "serial_line"), ("baud", Text.encode "115200")]]),
    ("extra", object [("a", array [Text.encode "-1.5e3"]), ("b", Text.encode "null")])]

/-- Their trees have the same members at each place. -/
lemma loft_reorders_cellar :
    ∃ tree tree' : Tree, tree.Written cellar ∧ tree.Reordered tree' ∧ tree'.Written loft := by
  have written {tree : Tree} {bytes : List UInt8} (spelled : tree.Spelled bytes) :
      tree.Written bytes :=
    ⟨[], bytes, [], List.forall_mem_nil _, spelled, List.forall_mem_nil _, (List.append_nil _).symm⟩
  have number : (Tree.word (Text.encode "-1.5e3")).Spelled (Text.encode "-1.5e3") :=
    .word ⟨by decide, by decide⟩
  have b : Built (Text.encode "b", .word (Text.encode "null")) ("b", Text.encode "null") :=
    .mk (by decide) (.word ⟨by decide, by decide⟩)
  have a : Built (Text.encode "a", _) ("a", _) :=
    .mk (by decide) (spelled_array (.cons number .nil))
  have extra : Built (Text.encode "extra", _) ("extra", _) :=
    .mk (by decide) (spelled_object (.cons b (.cons a .nil)))
  have extra' : Built (Text.encode "extra", _) ("extra", _) :=
    .mk (by decide) (spelled_object (.cons a (.cons b .nil)))
  have kind :
      Built (Text.encode "type", .string (Text.encode "serial_line"))
        ("type", quote "serial_line") :=
    .mk (by decide) (spelled_quote (by decide))
  have speed :
      Built (Text.encode "baud", .word (Text.encode "115200")) ("baud", Text.encode "115200") :=
    .mk (by decide) (.word ⟨by decide, by decide⟩)
  have wire : Built (Text.encode "name", .string (Text.encode "wire")) ("name", quote "wire") :=
    .mk (by decide) (spelled_quote (by decide))
  have line := spelled_object (.cons kind (.cons speed (.cons wire .nil)))
  have line' := spelled_object (.cons wire (.cons kind (.cons speed .nil)))
  have bricks : Built (Text.encode "bricks", _) ("bricks", _) :=
    .mk (by decide) (spelled_array (.cons line .nil))
  have bricks' : Built (Text.encode "bricks", _) ("bricks", _) :=
    .mk (by decide) (spelled_array (.cons line' .nil))
  have title :
      Built (Text.encode "name", .string (Text.encode "cellar")) ("name", quote "cellar") :=
    .mk (by decide) (spelled_quote (by decide))
  refine ⟨_, _, written (spelled_object (.cons extra (.cons title (.cons bricks .nil)))), ?_,
    written (spelled_object (.cons title (.cons bricks' (.cons extra' .nil))))⟩
  -- two members change places, the others move around
  refine .object
    (.cons (.mk (.object ?extra (.swap _ _ []))) (.cons (.mk .string) (.cons (.mk (.list (.cons
    (.object ?brick (List.perm_append_comm : ([_, _] ++ [_]).Perm _)) .nil))) .nil)))
    (List.perm_append_comm : ([_] ++ [_, _]).Perm _)
  case extra => exact .cons (.mk .word) (.cons (.mk (.list (.cons .word .nil))) .nil)
  case brick => exact .cons (.mk .string) (.cons (.mk .word) (.cons (.mk .string) .nil))

/-- Both documents are read as the same app. -/
theorem load_reordered_cellar :
    ∃ app, App.load "cellar.json" ⟨cellar, .complete⟩ = .ok app ∧
      App.load "loft.json" ⟨loft, .complete⟩ = .ok app ∧
      app.bricks = [⟨⟨"wire"⟩, none, .serialLine 115200⟩] := by
  have read : (App.load "cellar.json" ⟨cellar, .complete⟩).toOption.map App.bricks =
      some [⟨⟨"wire"⟩, none, .serialLine 115200⟩] := by
    decide +kernel
  obtain ⟨tree, tree', written, reordered, written'⟩ := loft_reorders_cellar
  cases loaded : App.load "cellar.json" ⟨cellar, .complete⟩ with
  | error fault =>
    rw [loaded] at read
    cases read
  | ok app =>
    rw [loaded] at read
    have same := (load_reordered loaded).2 tree tree' loft "loft.json" written reordered written'
    exact ⟨app, rfl, same, Option.some.inj read⟩

end Brickwork
