import Brickwork.Proofs.Document.Parts

/-!
# Skipped values

A value that is passed over is still the text of a tree, although nothing but a list of open
brackets is kept of it. Its parts are read one after the other, in one loop for all brackets.
-/

namespace Brickwork.Document.Reader

variable {c c' : Cursor} {s gap rest : List UInt8} {frame : Frame} {frames : List Frame}

/-! ## The loops -/

/-- The byte that closes the bracket. -/
def Frame.mark : Frame → UInt8
  | list => 0x5d
  | object => 0x7d

/-- A round of the loop over closing brackets. -/
def closing :
    Bool × List Frame → Reader (Step (Bool × List Frame) (List Frame)) := fun (fresh, frames) => do
  match frames with
  | [] => return .done []
  | frame :: outer =>
    match ← skipGaps with
    | none => badFormat frame.unclosed
    | some c =>
      if c = ',' && !fresh then do advance; return .done frames
      else if frame.isClosedBy c then do advance; return .again (false, outer)
      else if fresh then return .done frames
      else badFormat frame.unseparated

/-- From a separator to the next value. -/
def resume (frames : List Frame) : Reader (Step (List Frame) Unit) :=
  match frames with
  | [] => return .done ()
  | .object :: _ => do skipKey; return .again frames
  | .list :: _ => return .again frames

/-- What the loop over closing brackets starts from, behind a value or an opening bracket. -/
def opens (frames : List Frame) : Option Frame → Bool × List Frame
  | some frame => (true, frame :: frames)
  | none => (false, frames)

/-- A round of the loop over values. -/
def passing (frames : List Frame) : Reader (Step (List Frame) Unit) := do
  let opened ← skipScalar
  resume (← iterate closing (opens frames opened))

lemma skipValue_eq : skipValue = iterate passing [] := by
  rw [skipValue]
  congr 1
  funext frames
  rw [passing]
  congr 1
  funext opened
  cases opened <;> rfl

/-! ## Tokens -/

/-- The byte that opens the bracket. -/
def Frame.opening : Frame → UInt8
  | list => 0x5b
  | object => 0x7b

/-- What a value starts with: an opening bracket, or all of it. -/
def Opening : Option Frame → List UInt8 → Prop
  | none, v => Scalar v
  | some frame, v => v = [frame.opening]

lemma Local.scalar {α : Type} {d : UInt8} {read : Reader α}
    (h : Local (fun _ v => Scalar (d :: v)) read) :
    Local (fun opened v => Opening opened (d :: v)) (read >>= fun _ => pure none) := by
  refine h.bind fun _ v scalar => local_pure ?_
  rw [List.append_nil]
  exact scalar

/-- The first token of a value behind gaps. -/
lemma took_skipScalar {opened : Option Frame} (at' : c.At s) (took : skipScalar c = .ok opened c') :
    ∃ gap v s', s = gap ++ (v ++ s') ∧ Gaps gap ∧ c'.At s' ∧ Opening opened v ∧
      ∀ gap' rest, Gaps gap' → Follows rest s' →
        Gives skipScalar (gap' ++ (v ++ rest)) opened rest := by
  refine took_eager (fun _ => not_yields_badFormat) (fun d _ => ?_) at' took
  dsimp only
  split
  · exact eager_advance (local_word_tail ‹_› (by decide)).scalar
  split
  · exact eager_advance (local_word_tail ‹_› (by decide)).scalar
  split
  · exact eager_advance (local_word_tail ‹_› (by decide)).scalar
  split
  · exact eager_advance (local_skipNumber.number_tail ‹_›).scalar
  split
  · refine (local_skipNumber.eager fun _ _ isWord => isWord.1).bind fun _ v isWord => local_pure ?_
    rw [List.append_nil]
    exact .inl isWord
  split
  · exact eager_advance (local_skipString.string_tail ‹_›).scalar
  split
  case isTrue eq =>
    obtain rfl := eq_toUInt8 (congrArg some eq)
    exact eager_advance (local_pure rfl)
  split
  case isTrue eq =>
    obtain rfl := eq_toUInt8 (congrArg some eq)
    exact eager_advance (local_pure rfl)
  · exact eager_badFormat

/-- The string with this body can be passed over. -/
def SkipsBody (body : List UInt8) : Prop :=
  ∀ rest, Apart rest → Gives skipString (body ++ 0x22 :: rest) () rest

lemma took_skipKey (at' : c.At s) (took : skipKey c = .ok () c') :
    ∃ gap body gap' s', s = gap ++ 0x22 :: (body ++ 0x22 :: (gap' ++ 0x3a :: s')) ∧
      Gaps gap ∧ Body body ∧ SkipsBody body ∧ Gaps gap' ∧ c'.At s' := by
  obtain ⟨gap, s₁, c₁, o, rfl, gaps, _, at₁, seen, took⟩ := took_skipGaps at' took
  dsimp only at took
  split at took
  · obtain ⟨s₁, rfl⟩ := exists_eq_cons seen
    obtain ⟨c₂, at₂, took⟩ := gives_advance.took_bind at₁ took
    obtain ⟨_, c₃, passed, took⟩ := took_bind took
    obtain ⟨_, s₂, (rfl : s₁ = _), at₃, ⟨body, body', rfl⟩, gives⟩ := local_skipString at₂ passed
    obtain ⟨gap', s₃, c₄, o, rfl, gaps', _, at₄, seen, took⟩ := took_skipGaps at₃ took
    split at took
    · obtain ⟨s', rfl⟩ := exists_eq_cons seen
      refine ⟨gap, body, gap', s', ?_, gaps, body', fun rest apart => ?_, gaps',
        (gives_advance.took at₄ took).2⟩
      · simp only [List.append_assoc, List.cons_append, List.nil_append]
        rfl
      · have passed := gives rest (.inr apart)
        rwa [List.append_assoc] at passed
    · cases took
    · cases took
  · obtain ⟨_, _, took, _⟩ := took_bind took
    cases took
  · obtain ⟨_, _, took, _⟩ := took_bind took
    cases took

lemma gives_skipKey {gap' body : List UInt8} (gaps : Gaps gap) (skips : SkipsBody body)
    (colon : Gaps gap') :
    Gives skipKey (gap ++ 0x22 :: (body ++ 0x22 :: (gap' ++ 0x3a :: rest))) () rest := by
  refine (gives_skipGaps_cons gaps rfl).bind (gives_advance.bind ?_)
  refine (skips _ (apart_mark colon rfl)).bind ?_
  exact (gives_skipGaps_cons colon rfl).bind gives_advance

/-! ## Closing brackets -/

/-- What stands behind a value, or behind an opening bracket if `fresh`. -/
inductive Behind (frame : Frame) (outer : List Frame) :
    Bool → List UInt8 → Step (Bool × List Frame) (List Frame) → List UInt8 → Prop
  | comma {gap rest : List UInt8} (gaps : Gaps gap) :
    Behind frame outer false (gap ++ 0x2c :: rest) (.done (frame :: outer)) rest
  | close {fresh : Bool} {gap rest : List UInt8} (gaps : Gaps gap) :
    Behind frame outer fresh (gap ++ frame.mark :: rest) (.again (false, outer)) rest
  | fresh {gap rest : List UInt8} {d : UInt8} (gaps : Gaps gap) (solid : isBlank d = false)
    (open' : d ≠ frame.mark) :
    Behind frame outer true (gap ++ d :: rest) (.done (frame :: outer)) (d :: rest)

lemma isClosedBy_iff (frame : Frame) (d : UInt8) :
    frame.isClosedBy (Char.ofUInt8 d) = true ↔ d = frame.mark := by
  cases frame with
  | list => exact decide_eq_true_iff.trans (ofUInt8_eq_iff rfl)
  | object => exact decide_eq_true_iff.trans (ofUInt8_eq_iff rfl)

lemma took_closing {fresh : Bool} {next : Step (Bool × List Frame) (List Frame)} (at' : c.At s)
    (took : closing (fresh, frame :: frames) c = .ok next c') :
    ∃ s', Behind frame frames fresh s next s' ∧ c'.At s' := by
  obtain ⟨gap, s₁, c₁, o, rfl, gaps, solid, at₁, seen, round⟩ := took_skipGaps at' took
  split at round
  · cases round
  · obtain ⟨d, rest, rfl, rfl⟩ := exists_cons seen
    split at round
    case isTrue comma =>
      rw [Bool.and_eq_true, Bool.not_eq_true', decide_eq_true_eq] at comma
      obtain ⟨comma, rfl⟩ := comma
      obtain rfl := eq_toUInt8 (congrArg some comma)
      obtain ⟨c₂, at₂, round⟩ := gives_advance.took_bind at₁ round
      cases round
      exact ⟨rest, .comma gaps, at₂⟩
    case isFalse =>
      split at round
      case isTrue closed =>
        obtain rfl := (isClosedBy_iff frame d).mp closed
        obtain ⟨c₂, at₂, round⟩ := gives_advance.took_bind at₁ round
        cases round
        exact ⟨rest, .close gaps, at₂⟩
      case isFalse not =>
        split at round
        case isTrue fresh =>
          subst fresh
          cases round
          have open' : d ≠ frame.mark := fun eq => not ((isClosedBy_iff frame d).mpr eq)
          exact ⟨d :: rest, .fresh gaps (solid d rfl) open', at₁⟩
        case isFalse => cases round

lemma gives_closing {fresh : Bool} {next : Step (Bool × List Frame) (List Frame)} {s' : List UInt8}
    (behind : Behind frame frames fresh s next s') :
    Gives (closing (fresh, frame :: frames)) s next s' := by
  cases behind with
  | comma gaps => exact (gives_skipGaps_cons gaps rfl).bind (gives_advance.bind gives_pure)
  | close gaps =>
    have solid : isBlank frame.mark = false := by cases frame <;> rfl
    refine (gives_skipGaps_cons gaps solid).bind ?_
    have other : decide (Char.ofUInt8 frame.mark = ',') = false := by cases frame <;> rfl
    dsimp only
    rw [other, Bool.false_and, if_neg Bool.false_ne_true, if_pos ((isClosedBy_iff frame _).mpr rfl)]
    exact gives_advance.bind gives_pure
  | fresh gaps solid open' =>
    refine (gives_skipGaps_cons gaps solid).bind ?_
    dsimp only
    rw [Bool.not_true, Bool.and_false, if_neg Bool.false_ne_true,
      if_neg fun closed => open' ((isClosedBy_iff frame _).mp closed), if_pos rfl]
    exact gives_pure

/-! ## Trees that can be passed over -/

/-- The tree can be passed over: all its words, strings and keys can. -/
inductive Skips : Tree → Prop
  | word {bytes : List UInt8} (means : Means skipScalar (.word bytes) none) : Skips (.word bytes)
  | string {body : List UInt8} (means : Means skipScalar (.string body) none) : Skips (.string body)
  | list {elements : List Tree} (each : ∀ tree ∈ elements, Skips tree) : Skips (.list elements)
  | object {pairs : List (List UInt8 × Tree)} (keys : ∀ pair ∈ pairs, SkipsBody pair.1)
    (each : ∀ pair ∈ pairs, Skips pair.2) : Skips (.object pairs)

lemma exists_mem_of_forall₂ {α β : Type} {R : α → β → Prop} {l : List α} {l' : List β}
    (h : List.Forall₂ R l l') :
    ∀ b ∈ l', ∃ a ∈ l, R a b := by
  induction h with
  | nil => exact List.forall_mem_nil _
  | cons first _ ih =>
    refine List.forall_mem_cons.mpr ⟨⟨_, List.mem_cons_self, first⟩, fun b mem => ?_⟩
    obtain ⟨a, mem, related⟩ := ih b mem
    exact ⟨a, List.mem_cons_of_mem _ mem, related⟩

lemma Skips.reordered {tree tree' : Tree} (skips : Skips tree) (reordered : tree.Reordered tree') :
    Skips tree' := by
  induction skips generalizing tree' with
  | word means =>
    cases reordered
    exact .word means
  | string means =>
    cases reordered
    exact .string means
  | list each ih =>
    cases reordered with
    | list pairs =>
      refine .list fun tree' mem => ?_
      obtain ⟨tree, mem, related⟩ := exists_mem_of_forall₂ pairs tree' mem
      exact ih tree mem related
  | object keys each ih =>
    cases reordered with
    | object pairs order =>
      refine .object (fun pair' mem => ?_) fun pair' mem => ?_
      · obtain ⟨⟨key, tree⟩, mem', ⟨related⟩⟩ :=
          exists_mem_of_forall₂ pairs pair' (order.mem_iff.mpr mem)
        exact keys (key, tree) mem'
      · obtain ⟨pair, mem', ⟨related⟩⟩ := exists_mem_of_forall₂ pairs pair' (order.mem_iff.mpr mem)
        exact ih _ mem' related

/-! ## Passing over a tree -/

/-- The loop over values goes on as the step says and ends before the given bytes. -/
def Resumes : Step (List Frame) Unit → List UInt8 → List UInt8 → Prop
  | .done _, s, s' => s = s'
  | .again frames, s, s' => Goes passing frames s () s'

/-- From a separator, the loop goes on with the next value. -/
def Enters (frames : List Frame) (s s' : List UInt8) : Prop :=
  ∃ next s₁, Gives (resume frames) s next s₁ ∧ s₁.length ≤ s.length ∧ Resumes next s₁ s'

/-- Behind a value, the open brackets are closed or go on. -/
inductive After : List Frame → List UInt8 → List UInt8 → Prop
  | done {s : List UInt8} : After [] s s
  | close {frame : Frame} {frames : List Frame} {gap rest s' : List UInt8} (gaps : Gaps gap)
    (after : After frames rest s') : After (frame :: frames) (gap ++ frame.mark :: rest) s'
  | more {frame : Frame} {frames : List Frame} {gap rest s' : List UInt8} (gaps : Gaps gap)
    (enters : Enters (frame :: frames) rest s') : After (frame :: frames) (gap ++ 0x2c :: rest) s'

lemma length_lt_append_cons {d : UInt8} : rest.length < (gap ++ d :: rest).length := by
  rw [List.length_append, List.length_cons]
  omega

lemma After.goes {s' : List UInt8} (after : After frames s s') :
    ∃ frames' s₁, Goes closing (false, frames) s frames' s₁ ∧ s₁.length ≤ s.length ∧
      Enters frames' s₁ s' := by
  induction after with
  | @done s => exact ⟨[], s, .done gives_pure, Nat.le_refl _, .done (), s, gives_pure,
      Nat.le_refl _, rfl⟩
  | close gaps _ ih =>
    obtain ⟨frames', s₁, goes, shorter, enters⟩ := ih
    exact ⟨frames', s₁, .again (gives_closing (.close gaps)) length_lt_append_cons goes,
      Nat.le_trans shorter (Nat.le_of_lt length_lt_append_cons), enters⟩
  | more gaps enters =>
    exact ⟨_, _, .done (gives_closing (.comma gaps)), Nat.le_of_lt length_lt_append_cons, enters⟩

/-- A round of the loop over values, from its first token to the next value. -/
lemma goes_passing {opened : Option Frame} {frames' : List Frame} {s₁ s₂ s' : List UInt8}
    (scalar : Gives skipScalar s opened s₁) (fewer : s₁.length < s.length)
    (goes : Goes closing (opens frames opened) s₁ frames' s₂) (shorter : s₂.length ≤ s₁.length)
    (enters : Enters frames' s₂ s') : Goes passing frames s () s' := by
  obtain ⟨next, s₃, gives, shorter', resumes⟩ := enters
  have round : Gives (passing frames) s next s₃ := scalar.bind (goes.gives.bind gives)
  cases next with
  | done _ =>
    cases resumes
    exact .done round
  | again frames => exact .again round (by omega) resumes

lemma gives_opening (gaps : Gaps gap) :
    Gives skipScalar (gap ++ frame.opening :: rest) (some frame) rest := by
  cases frame with
  | list => exact (gives_skipGaps_cons gaps rfl).bind (gives_advance.bind gives_pure)
  | object => exact (gives_skipGaps_cons gaps rfl).bind (gives_advance.bind gives_pure)

section Parts

variable {π : Type} {each : π → List UInt8 → Prop} {parts : List π} {inner s' : List UInt8}

lemma after_parts (enter : ∀ part ∈ parts, ∀ gap text rest, Gaps gap → each part text → Apart rest →
      After (frame :: frames) rest s' → Enters (frame :: frames) (gap ++ (text ++ rest)) s')
    (separated : Separated each false parts inner) (gaps : Gaps gap)
    (after : After frames rest s') :
    After (frame :: frames) (inner ++ (gap ++ frame.mark :: rest)) s' := by
  have mark : isMark frame.mark = true := by cases frame <;> rfl
  induction parts generalizing inner with
  | nil =>
    cases separated
    exact .close gaps after
  | cons part parts ih =>
    obtain ⟨now, later⟩ := List.forall_mem_cons.mp enter
    cases separated with
    | later comma front written separated =>
      simp only [List.append_assoc, List.cons_append]
      exact .more comma (now _ _ _ front written (separated.apart mark gaps) (ih later separated))

lemma goes_parts (frame : Frame) {gap' : List UInt8}
    (heads : ∀ ⦃part text⦄, each part text → ∃ d text', text = d :: text' ∧ isBlank d = false ∧
      d ≠ frame.mark)
    (enter : ∀ part ∈ parts, ∀ gap text rest, Gaps gap → each part text → Apart rest →
      After (frame :: frames) rest s' → Enters (frame :: frames) (gap ++ (text ++ rest)) s')
        (front : Gaps gap')
    (separated : Separated each true parts inner) (gaps : Gaps gap) (after : After frames rest s') :
    Goes passing frames (gap' ++ frame.opening :: (inner ++ (gap ++ frame.mark :: rest)))
      () s' := by
  have mark : isMark frame.mark = true := by cases frame <;> rfl
  cases separated with
  | nil =>
    obtain ⟨frames', s₁, goes, shorter, enters⟩ := after.goes
    refine goes_passing (gives_opening front) length_lt_append_cons
      (.again (gives_closing (.close gaps)) length_lt_append_cons goes) ?_ enters
    exact Nat.le_trans shorter (Nat.le_of_lt length_lt_append_cons)
  | first front' written separated =>
    obtain ⟨now, later⟩ := List.forall_mem_cons.mp enter
    have enters := now [] _ _ (List.forall_mem_nil _) written (separated.apart mark gaps)
      (after_parts later separated gaps after)
    obtain ⟨d, text, rfl, solid, open'⟩ := heads written
    simp only [List.append_assoc, List.cons_append]
    refine goes_passing (gives_opening front) length_lt_append_cons
      (.done (gives_closing (.fresh front' solid open'))) ?_ enters
    rw [List.length_append]
    exact Nat.le_add_left _ _

end Parts

lemma goes_scalar {tree : Tree} {text s' : List UInt8} (means : Means skipScalar tree none)
    (gaps : Gaps gap)
    (spelled : tree.Spelled text) (apart : Apart rest) (after : After frames rest s') :
    Goes passing frames (gap ++ (text ++ rest)) () s' := by
  obtain ⟨frames', s₁, goes, shorter, enters⟩ := after.goes
  refine goes_passing (means gaps spelled apart) ?_ goes shorter enters
  obtain ⟨d, text, rfl, _⟩ := spelled.exists_head
  simp only [List.length_append, List.length_cons]
  omega

/-- The loop passes over the tree, and then over what comes behind it. -/
lemma Skips.goes {tree : Tree} {text s' : List UInt8} (skips : Skips tree) (gaps : Gaps gap)
    (spelled : tree.Spelled text) (apart : Apart rest) (after : After frames rest s') :
    Goes passing frames (gap ++ (text ++ rest)) () s' := by
  induction skips generalizing frames gap text rest s' with
  | word means => exact goes_scalar means gaps spelled apart after
  | string means => exact goes_scalar means gaps spelled apart after
  | list each ih =>
    cases spelled with
    | list inside close =>
      simp only [List.append_assoc, List.cons_append, List.nil_append]
      refine goes_parts .list (fun _ _ written => written.exists_head) ?_ gaps inside close after
      intro tree mem gap text rest gaps spelled apart after
      exact ⟨.again _, _, gives_pure, Nat.le_refl _, ih tree mem gaps spelled apart after⟩
  | object keys each ih =>
    cases spelled with
    | object inside close =>
      simp only [List.append_assoc, List.cons_append, List.nil_append]
      refine goes_parts .object ?_ ?_ gaps inside close after
      · rintro _ _ ⟨body, colon, front, written⟩
        exact ⟨_, _, rfl, rfl, by decide⟩
      · rintro _ mem gap _ rest gaps ⟨body, colon, front, written⟩ apart after
        simp only [List.append_assoc, List.cons_append]
        refine ⟨.again _, _, (gives_skipKey gaps (keys _ mem) colon).bind gives_pure, ?_,
          ih _ mem front written apart after⟩
        simp only [List.length_append, List.length_cons]
        omega

lemma Skips.means {tree : Tree} (skips : Skips tree) : Means skipValue tree () := by
  intro gap text rest gaps spelled apart
  rw [skipValue_eq]
  exact (skips.goes gaps spelled apart .done).gives

/-! ## What has been passed over -/

/-- The loop over values went on as the step says and ended at the cursor. -/
def Ended : Step (List Frame) Unit → Cursor → Cursor → Prop
  | .done _, c, c' => c' = c
  | .again frames, c, c' => Rounds passing frames c () c'

/-- From a separator, it went on with the next value. -/
def Entered (frames : List Frame) (c c' : Cursor) : Prop :=
  ∃ next c₁, resume frames c = .ok next c₁ ∧ Ended next c₁ c'

/-- Behind a value, the open brackets were closed or went on. -/
def Continued (frames : List Frame) (c c' : Cursor) : Prop :=
  ∃ frames' c₁, Rounds closing (false, frames) c frames' c₁ ∧ Entered frames' c₁ c'

lemma Rounds.passing (rounds : Rounds passing frames c () c') :
    ∃ opened c₁ frames' c₂, skipScalar c = .ok opened c₁ ∧
      Rounds closing (opens frames opened) c₁ frames' c₂ ∧ Entered frames' c₂ c' := by
  have round : ∃ next c₁, Reader.passing frames c = .ok next c₁ ∧ Ended next c₁ c' := by
    cases rounds with
    | done last => exact ⟨_, _, last, rfl⟩
    | again first later => exact ⟨_, _, first, later⟩
  obtain ⟨next, c₃, round, ended⟩ := round
  obtain ⟨opened, c₁, scalar, round⟩ := took_bind round
  obtain ⟨frames', c₂, closed, round⟩ := took_bind round
  exact ⟨opened, c₁, frames', c₂, scalar, rounds_of_iterate closed, next, c₃, round, ended⟩

lemma Continued.eq_of_nil (continued : Continued [] c c') : c' = c := by
  obtain ⟨frames', c₁, rounds, next, c₂, resumed, ended⟩ := continued
  cases rounds with
  | done last =>
    cases last
    cases resumed
    exact ended
  | again first later => cases first

/-- Behind a value or an opening bracket, the innermost bracket was closed or went on. -/
lemma took_closings {fresh : Bool} {frames' : List Frame} {c₁ : Cursor} (at' : c.At s)
    (rounds : Rounds closing (fresh, frame :: frames) c frames' c₁)
    (entered : Entered frames' c₁ c') :
    (∃ gap rest c₂, s = gap ++ frame.mark :: rest ∧ Gaps gap ∧ c₂.At rest ∧
      Continued frames c₂ c') ∨
      ∃ s', Behind frame frames fresh s (.done (frame :: frames)) s' ∧ c₁.At s' ∧
        Entered (frame :: frames) c₁ c' := by
  cases rounds with
  | done last =>
    obtain ⟨s', behind, at₁⟩ := took_closing at' last
    have same : frames' = frame :: frames := by cases behind <;> rfl
    subst same
    exact .inr ⟨s', behind, at₁, entered⟩
  | @again _ _ _ _ c₂ _ first later =>
    obtain ⟨rest, behind, at₂⟩ := took_closing at' first
    cases behind with
    | @close _ gap rest gaps =>
      exact .inl ⟨gap, rest, c₂, rfl, gaps, at₂, frames', c₁, later, entered⟩

section Parts

variable {π : Type} {each : π → List UInt8 → Prop} {good : π → Prop} {n : Nat}

/-- A part has been passed over, and then what comes behind it. -/
def Passed (each : π → List UInt8 → Prop) (good : π → Prop) (frames : List Frame) (c' : Cursor)
    (s : List UInt8) : Prop :=
  ∃ gap part text s' c₁, s = gap ++ (text ++ s') ∧ Gaps gap ∧ each part text ∧ good part ∧
    c₁.At s' ∧ Continued frames c₁ c'

/-- The parts of a bracket have been passed over, and then what comes behind it. -/
def PassedParts (each : π → List UInt8 → Prop) (good : π → Prop) (first : Bool) (frame : Frame)
    (frames : List Frame) (c' : Cursor) (s : List UInt8) : Prop :=
  ∃ parts inner gap rest c₁, s = inner ++ (gap ++ frame.mark :: rest) ∧
    Separated each first parts inner ∧
    (∀ part ∈ parts, good part) ∧ Gaps gap ∧ c₁.At rest ∧ Continued frames c₁ c'

/-- In short texts, a part has been passed over where the loop went on from a separator. -/
def PassesPart (each : π → List UInt8 → Prop) (good : π → Prop) (frames : List Frame) (c' : Cursor)
    (n : Nat) : Prop :=
  ∀ ⦃s c⦄, s.length < n → c.At s → Entered frames c c' → Passed each good frames c' s

lemma took_later (part : PassesPart each good (frame :: frames) c' n) (few : s.length < n)
    (at' : c.At s)
    (continued : Continued (frame :: frames) c c') :
    PassedParts each good false frame frames c' s := by
  induction n generalizing s c with
  | zero => exact absurd few (Nat.not_lt_zero _)
  | succ n ih =>
    obtain ⟨frames', c₁, rounds, entered⟩ := continued
    obtain ⟨gap, rest, c₂, rfl, gaps, at₂, continued⟩ | ⟨s', behind, at₁, entered⟩ :=
      took_closings at' rounds entered
    · exact ⟨[], [], gap, rest, c₂, rfl, .nil, List.forall_mem_nil _, gaps, at₂, continued⟩
    · cases behind with
      | @comma gap _ comma =>
        have fewer : s'.length < (gap ++ 0x2c :: s').length := length_lt_append_cons
        obtain ⟨gap', first, text, s₁, c₂, rfl, gaps', written, fine, at₂, continued⟩ :=
          part (Nat.lt_trans fewer few) at₁ entered
        have few₁ : s₁.length < n := by
          simp only [List.length_append, List.length_cons] at few
          omega
        obtain ⟨parts, inner, gap₁, rest, c₃, rfl, separated, fines, gaps₁, at₃, continued⟩ :=
          ih (fun _ _ few => part (Nat.lt_succ_of_lt few)) few₁ at₂ continued
        refine ⟨first :: parts, _, gap₁, rest, c₃, ?_, .later comma gaps' written separated,
          List.forall_mem_cons.mpr ⟨fine, fines⟩, gaps₁, at₃, continued⟩
        simp only [List.append_assoc, List.cons_append]

lemma took_parts_of_opening {frames' : List Frame} {c₁ : Cursor}
    (part : PassesPart each good (frame :: frames) c' n) (few : s.length < n) (at' : c.At s)
    (rounds : Rounds closing (true, frame :: frames) c frames' c₁)
    (entered : Entered frames' c₁ c') : PassedParts each good true frame frames c' s := by
  obtain ⟨gap, rest, c₂, rfl, gaps, at₂, continued⟩ | ⟨s', behind, at₁, entered⟩ :=
    took_closings at' rounds entered
  · exact ⟨[], [], gap, rest, c₂, rfl, .nil, List.forall_mem_nil _, gaps, at₂, continued⟩
  · cases behind with
    | @fresh gap rest d gaps solid open' =>
      have few' : (d :: rest).length < n := by
        rw [List.length_append] at few
        omega
      obtain ⟨gap', first, text, s₁, c₂, eq, gaps', written, fine, at₂, continued⟩ :=
        part few' at₁ entered
      have few₁ : s₁.length < n := by
        rw [eq, List.length_append, List.length_append] at few'
        omega
      obtain ⟨parts, inner, gap₁, rest, c₃, rfl, separated, fines, gaps₁, at₃, continued⟩ :=
        took_later part few₁ at₂ continued
      refine ⟨first :: parts, _, gap₁, rest, c₃, ?_, .first (gaps.append gaps') written separated,
        List.forall_mem_cons.mpr ⟨fine, fines⟩, gaps₁, at₃, continued⟩
      simp only [eq, List.append_assoc]

end Parts

/-! ## Trees that have been passed over -/

/-- In short texts, what the loop over values has passed over first is the text of a tree. -/
def PassesValue (c' : Cursor) (n : Nat) : Prop :=
  ∀ ⦃frames s c⦄, s.length < n → c.At s → Rounds passing frames c () c' →
    Passed Tree.Spelled Skips frames c' s

lemma passed_scalar {v : List UInt8} (gaps : Gaps gap) (scalar : Scalar v) (at' : c.At s)
    (gives : ∀ gap' rest, Gaps gap' → Follows rest s →
      Gives skipScalar (gap' ++ (v ++ rest)) none rest)
    (continued : Continued frames c c') :
    Passed Tree.Spelled Skips frames c' (gap ++ (v ++ s)) := by
  have means {tree : Tree} (same : ∀ text, tree.Spelled text → text = v) :
      Means skipScalar tree none := by
    intro gap' text rest gaps' spelled apart
    rw [same text spelled]
    exact gives gap' rest gaps' (.inr apart)
  obtain isWord | ⟨_, ⟨body, body', rfl⟩, rfl⟩ := scalar
  · refine ⟨gap, .word v, v, s, c, rfl, gaps, .word isWord, .word (means ?_), at', continued⟩
    rintro _ ⟨⟩
    rfl
  · refine ⟨gap, .string body, _, s, c, rfl, gaps, .string body', .string (means ?_),
      at', continued⟩
    rintro _ ⟨⟩
    rfl

lemma PassesValue.element {n : Nat} (value : PassesValue c' n) :
    PassesPart Tree.Spelled Skips (.list :: frames) c' n := by
  rintro s c few at' ⟨next, c₁, resumed, ended⟩
  cases resumed
  exact value few at' ended

lemma PassesValue.member {n : Nat} (value : PassesValue c' n) :
    PassesPart (Member Tree.Spelled) (fun pair => SkipsBody pair.1 ∧ Skips pair.2)
      (.object :: frames) c' n := by
  rintro s c few at' ⟨next, c₁, resumed, ended⟩
  obtain ⟨_, c₂, keyed, resumed⟩ := took_bind resumed
  cases resumed
  obtain ⟨gap, body, gap', s₁, rfl, gaps, body', skips, gaps', at₁⟩ := took_skipKey at' keyed
  have few₁ : s₁.length < n := by
    simp only [List.length_append, List.length_cons] at few
    omega
  obtain ⟨gap₁, tree, text, s', c₃, rfl, gaps₁, spelled, skips', at₃, continued⟩ :=
    value few₁ at₁ ended
  refine ⟨gap, (body, tree), _, s', c₃, ?_, gaps, .mk body' gaps' gaps₁ spelled, ⟨skips, skips'⟩,
    at₃, continued⟩
  simp only [List.append_assoc, List.cons_append]

/-- What has been passed over is the text of a tree that can be passed over. -/
lemma passesValue (c' : Cursor) (n : Nat) : PassesValue c' n := by
  -- the loop has no value inside a value, so the induction is on the length of what is left
  induction n with
  | zero => exact fun _ _ _ few => absurd few (Nat.not_lt_zero _)
  | succ n ih =>
    intro frames s c few at' rounds
    obtain ⟨opened, c₁, frames', c₂, scalar, closed, entered⟩ := rounds.passing
    obtain ⟨gap, v, s₁, rfl, gaps, at₁, opening, gives⟩ := took_skipScalar at' scalar
    cases opened with
    | none => exact passed_scalar gaps opening at₁ gives ⟨frames', c₂, closed, entered⟩
    | some frame =>
      cases opening
      have few₁ : s₁.length < n := by
        simp only [List.length_append, List.length_cons] at few
        omega
      cases frame with
      | list =>
        obtain ⟨trees, inner, gap₁, rest, c₃, rfl, separated, each, gaps₁, at₃, continued⟩ :=
          took_parts_of_opening ih.element few₁ at₁ closed entered
        refine ⟨gap, .list trees, _, rest, c₃, ?_, gaps, .list separated gaps₁, .list each,
          at₃, continued⟩
        simp only [List.append_assoc, List.cons_append, List.nil_append]
        rfl
      | object =>
        obtain ⟨pairs, inner, gap₁, rest, c₃, rfl, separated, each, gaps₁, at₃, continued⟩ :=
          took_parts_of_opening ih.member few₁ at₁ closed entered
        refine ⟨gap, .object pairs, _, rest, c₃, ?_, gaps, .object separated gaps₁,
          .object (fun pair mem => (each pair mem).1) fun pair mem => (each pair mem).2,
          at₃, continued⟩
        simp only [List.append_assoc, List.cons_append, List.nil_append]
        rfl

lemma orderless_skipValue : Orderless skipValue := by
  intro c s _ c' at' took
  rw [skipValue_eq] at took
  obtain ⟨gap, tree, text, s', c₁, rfl, gaps, spelled, skips, at₁, continued⟩ :=
    passesValue c' _ (Nat.lt_succ_self _) at' (rounds_of_iterate took)
  obtain rfl := continued.eq_of_nil
  refine ⟨gap, tree, text, s', rfl, gaps, spelled, at₁, fun tree' reordered => ?_⟩
  exact ⟨(), rfl, (skips.reordered reordered).means⟩

end Brickwork.Document.Reader
