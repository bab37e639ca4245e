import Brickwork.Proofs.Document.Orderless
import Mathlib.Data.List.Perm.Basic

/-!
# Brackets

Lists and objects are read part by part. Each part does something to what has been read before. For
the elements of a list the order counts; for the members of an object it must not, and then no order
of them shows.
-/

namespace Brickwork.Document

namespace Reader

universe u

variable {α β γ σ τ π : Type} {ε : Type u} {c c' : Cursor} {s gap gap' rest : List UInt8}

/-! ## Marks -/

/-- The reader passes over gaps and the mark, and over nothing else. -/
structure Marks (mark : UInt8) (read : Reader Unit) : Prop where
  took : ∀ ⦃c s c'⦄, c.At s → read c = .ok () c' → ∃ gap rest, s = gap ++ mark :: rest ∧
    Gaps gap ∧ c'.At rest
  gives : ∀ ⦃gap⦄ rest, Gaps gap → Gives read (gap ++ mark :: rest) () rest

lemma marks_skipGaps {mark : UInt8} {f : Option Char → Reader Unit} (solid : isBlank mark = false)
    (takes : f (some (Char.ofUInt8 mark)) = advance)
    (others : ∀ o, o ≠ some (Char.ofUInt8 mark) → ∀ a, ¬(f o).Yields a) :
    Marks mark (skipGaps >>= f) where
  took := by
    intro c s c' at' took
    obtain ⟨gap, s₁, c₁, o, rfl, gaps, _, at₁, seen, took⟩ := took_skipGaps at' took
    by_cases eq : o = some (Char.ofUInt8 mark)
    · subst eq
      obtain ⟨rest, rfl⟩ := exists_eq_cons seen
      rw [toUInt8_of_ofUInt8 rfl] at at₁ ⊢
      rw [takes] at took
      exact ⟨gap, rest, rfl, gaps, (gives_advance.took at₁ took).2⟩
    · exact absurd ⟨c₁, c', took⟩ (others o eq ())
  gives := by
    intro gap rest gaps
    refine (gives_skipGaps_cons gaps solid).bind ?_
    rw [takes]
    exact gives_advance

lemma marks_colon : Marks 0x3a colon := by
  refine marks_skipGaps rfl rfl fun o other a => ?_
  split
  · exact not_yields_badFormat
  · exact absurd rfl other
  · exact not_yields_badFormat

lemma marks_closeList : Marks 0x5d closeList := by
  refine marks_skipGaps rfl rfl fun o other a => ?_
  split
  · exact not_yields_badFormat
  · exact absurd rfl other
  · refine not_yields_bind fun _ => not_yields_bind fun more => ?_
    split
    · exact not_yields_badFormat
    · exact not_yields_badFormat
  · exact not_yields_badFormat

lemma marks_closeObject : Marks 0x7d closeObject := by
  refine marks_skipGaps rfl rfl fun o other a => ?_
  split
  · exact not_yields_badFormat
  · exact absurd rfl other
  · exact not_yields_badFormat
  · exact not_yields_badFormat

/-! ## From part to part -/

/-- What stands before a part, or before the closing bracket. -/
inductive Front (close : UInt8) (starts : UInt8 → Prop) :
    Bool → Bool → List UInt8 → List UInt8 → Prop
  | close {first : Bool} {gap rest : List UInt8} (gaps : Gaps gap) :
    Front close starts first false (gap ++ close :: rest) (close :: rest)
  | first {gap rest : List UInt8} {d : UInt8} (gaps : Gaps gap) (start : starts d) :
    Front close starts true true (gap ++ d :: rest) (d :: rest)
  | later {gap gap' rest : List UInt8} {d : UInt8} (comma : Gaps gap) (gaps : Gaps gap')
      (start : starts d) :
    Front close starts false true (gap ++ 0x2c :: (gap' ++ d :: rest)) (d :: rest)

/-- The reader goes on to the next part or to the closing bracket, and tells which. -/
structure Punctuates (next : Bool → Reader Bool) (close : UInt8) (starts : UInt8 → Prop) :
    Prop where
  took : ∀ ⦃first c s more c'⦄, c.At s → next first c = .ok more c' →
    ∃ s', Front close starts first more s s' ∧ c'.At s'
  gives : ∀ ⦃first more s s'⦄, Front close starts first more s s' → Gives (next first) s more s'

lemma punctuates_nextElement :
    Punctuates nextElement 0x5d fun d => isBlank d = false ∧ d ≠ 0x5d where
  took := by
    intro first c s more c' at' took
    obtain ⟨gap, s₁, c₁, o, rfl, gaps, solid, at₁, seen, took⟩ := took_skipGaps at' took
    split at took
    · cases took
    · obtain ⟨rest, rfl⟩ := exists_eq_cons seen
      cases took
      exact ⟨_, .close gaps, at₁⟩
    case h_3 ch other =>
      obtain ⟨d, rest, rfl, rfl⟩ := exists_cons seen
      cases first with
      | true =>
        cases took
        refine ⟨_, .first gaps ⟨solid d rfl, ?_⟩, at₁⟩
        rintro rfl
        exact other rfl
      | false =>
        rw [if_neg Bool.false_ne_true] at took
        split at took
        case isTrue comma =>
          obtain rfl := eq_toUInt8 (congrArg some comma)
          obtain ⟨c₂, at₂, took⟩ := gives_advance.took_bind at₁ took
          obtain ⟨gap', s₂, c₃, o', (rfl : rest = _), gaps', solid', at₃, seen', took⟩ :=
            took_skipGaps at₂ took
          split at took
          · cases took
          · cases took
          case h_3 ch other =>
            obtain ⟨e, rest, rfl, rfl⟩ := exists_cons seen'
            cases took
            refine ⟨_, .later gaps gaps' ⟨solid' e rfl, ?_⟩, at₃⟩
            rintro rfl
            exact other rfl
        case isFalse => cases took
  gives := by
    intro first more s s' front
    cases front with
    | close gaps => exact (gives_skipGaps_cons gaps rfl).bind gives_pure
    | first gaps start =>
      refine (gives_skipGaps_cons gaps start.1).bind ?_
      split
      · contradiction
      case h_2 seen => exact absurd (eq_toUInt8 seen) start.2
      · exact gives_pure
    | later comma gaps start =>
      refine (gives_skipGaps_cons comma rfl).bind ?_
      refine gives_advance.bind ((gives_skipGaps_cons gaps start.1).bind ?_)
      split
      · contradiction
      case h_2 seen => exact absurd (eq_toUInt8 seen) start.2
      · exact gives_pure

lemma punctuates_nextKey : Punctuates nextKey 0x7d fun d => d = 0x22 where
  took := by
    intro first c s more c' at' took
    obtain ⟨gap, s₁, c₁, o, rfl, gaps, solid, at₁, seen, took⟩ := took_skipGaps at' took
    split at took
    · cases took
    · obtain ⟨rest, rfl⟩ := exists_eq_cons seen
      cases took
      exact ⟨_, .close gaps, at₁⟩
    case h_3 ch other =>
      cases first with
      | true =>
        rw [if_pos rfl] at took
        split at took
        case isTrue quote =>
          subst quote
          obtain ⟨rest, rfl⟩ := exists_eq_cons seen
          cases took
          exact ⟨_, .first gaps rfl, at₁⟩
        case isFalse => cases took
      | false =>
        rw [if_neg Bool.false_ne_true] at took
        split at took
        case isTrue comma =>
          subst comma
          obtain ⟨rest, rfl⟩ := exists_eq_cons seen
          obtain ⟨c₂, at₂, took⟩ := gives_advance.took_bind at₁ took
          obtain ⟨gap', s₂, c₃, o', (rfl : rest = _), gaps', _, at₃, seen', took⟩ :=
            took_skipGaps at₂ took
          split at took
          · cases took
          · obtain ⟨rest, rfl⟩ := exists_eq_cons seen'
            cases took
            exact ⟨_, .later gaps gaps' rfl, at₃⟩
          · cases took
          · cases took
        case isFalse => cases took
  gives := by
    intro first more s s' front
    cases front with
    | close gaps => exact (gives_skipGaps_cons gaps rfl).bind gives_pure
    | first gaps start =>
      cases start
      exact (gives_skipGaps_cons gaps rfl).bind gives_pure
    | later comma gaps start =>
      cases start
      refine (gives_skipGaps_cons comma rfl).bind ?_
      exact gives_advance.bind ((gives_skipGaps_cons gaps rfl).bind gives_pure)

/-! ## Loops over parts -/

/-- The step of a loop over the parts inside a bracket. -/
def Loops (step : Bool × σ → Reader (Step (Bool × σ) τ)) (next : Bool → Reader Bool)
    (item : σ → Reader σ) (result : σ → τ) : Prop :=
  ∀ first state, step (first, state) = do
    if ← next first then do
      return .again (false, ← item state)
    else return .done (result state)

section Parts

variable {step : Bool × σ → Reader (Step (Bool × σ) τ)} {next : Bool → Reader Bool}
  {item : σ → Reader σ}
  {result : σ → τ} {close : UInt8} {starts : UInt8 → Prop} {each : π → List UInt8 → Prop}
  {act : σ → ε → Option σ} {first : Bool} {state state' : σ}

lemma foldlM_cons_eq_some {entry : ε} {entries : List ε} :
    (entry :: entries).foldlM act state = some state' ↔
      ∃ state₁, act state entry = some state₁ ∧ entries.foldlM act state₁ = some state' := by
  rw [List.foldlM_cons]
  exact Option.bind_eq_some_iff

/-- A part can be put in front of others. -/
lemma separated_of_front (each : π → List UInt8 → Prop) {s' : List UInt8}
    (front : Front close starts first true s s') :
    ∃ before d s₁, s = before ++ s' ∧ s' = d :: s₁ ∧ starts d ∧
      ∀ {part text parts inner}, each part text → Separated each false parts inner →
        Separated each first (part :: parts) (before ++ (text ++ inner)) := by
  cases front with
  | @first gap rest d gaps start => exact ⟨gap, d, rest, rfl, rfl, start, .first gaps⟩
  | @later gap gap' rest d comma gaps start =>
    refine ⟨gap ++ 0x2c :: gap', d, rest, ?_, rfl, start, fun part later => ?_⟩
    · simp only [List.append_assoc, List.cons_append]
    · simp only [List.append_assoc, List.cons_append]
      exact .later comma gaps part later

/-- And taken from there again. -/
lemma front_of_separated (close : UInt8)
    (heads : ∀ ⦃part text⦄, each part text → ∃ d text', text = d :: text' ∧ starts d) {part : π}
    {parts : List π} {inner : List UInt8} (separated : Separated each first (part :: parts) inner) :
    ∃ before text inner', inner = before ++ (text ++ inner') ∧ each part text ∧ text ≠ [] ∧
      Separated each false parts inner' ∧
      ∀ rest, Front close starts first true (before ++ (text ++ rest)) (text ++ rest) := by
  cases separated with
  | @first _ _ gap text inner' front part later =>
    obtain ⟨d, text, rfl, start⟩ := heads part
    exact ⟨gap, d :: text, inner', rfl, part, List.cons_ne_nil d text, later,
      fun rest => .first front start⟩
  | @later _ _ gap gap' text inner' comma front part later =>
    obtain ⟨d, text, rfl, start⟩ := heads part
    refine ⟨gap ++ 0x2c :: gap', d :: text, inner', ?_, part, List.cons_ne_nil d text, later,
      fun rest => ?_⟩
    · simp only [List.append_assoc, List.cons_append]
    · simp only [List.append_assoc, List.cons_append]
      exact .later comma front start

/-- What the reader of a part takes is a part, and it does what an entry says that fits the part. -/
def Takes (item : σ → Reader σ) (starts : UInt8 → Prop) (each : π → List UInt8 → Prop)
    (act : σ → ε → Option σ) (fits : π → ε → Prop) : Prop :=
  ∀ ⦃state d s c state' c'⦄, starts d → c.At (d :: s) → item state c = .ok state' c' →
    ∃ part text s' entry, d :: s = text ++ s' ∧ each part text ∧ c'.At s' ∧
      act state entry = some state' ∧ fits part entry

lemma took_parts {fits : π → ε → Prop} (loops : Loops step next item result)
    (punctuates : Punctuates next close starts) (takes : Takes item starts each act fits)
    {b : τ} (at' : c.At s) (took : iterate step (first, state) c = .ok b c') :
    ∃ parts inner gap rest entries state', s = inner ++ (gap ++ close :: rest) ∧
      Separated each first parts inner ∧ Gaps gap ∧ c'.At (close :: rest) ∧
      List.Forall₂ fits parts entries ∧ entries.foldlM act state = some state' ∧
      b = result state' := by
  have rounds := rounds_of_iterate took
  clear took
  generalize eq : (first, state) = both at rounds
  -- a round takes one part, or ends before the closing bracket
  induction rounds generalizing first state s with
  | done last =>
    subst eq
    rw [loops] at last
    obtain ⟨more, c₁, told, last⟩ := took_bind last
    obtain ⟨s', front, at₁⟩ := punctuates.took at' told
    cases more with
    | true =>
      obtain ⟨_, _, _, last⟩ := took_bind last
      cases last
    | false =>
      cases last
      cases front with
      | close gaps => exact ⟨[], [], _, _, [], state, rfl, .nil, gaps, at₁, .nil, rfl, rfl⟩
  | again again later ih =>
    subst eq
    rw [loops] at again
    obtain ⟨more, c₁, told, again⟩ := took_bind again
    obtain ⟨s', front, at₁⟩ := punctuates.took at' told
    cases more with
    | false => cases again
    | true =>
      obtain ⟨state₁, c₂, took, again⟩ := took_bind again
      cases again
      obtain ⟨before, d, s₁, rfl, rfl, start, separate⟩ := separated_of_front each front
      obtain ⟨part, text, s₂, entry, eq, spelled, at₂, acts, fit⟩ := takes start at₁ took
      obtain ⟨parts, inner, gap, rest, entries, state', rfl, separated, gaps, at₃, fits, run,
        rfl⟩ := ih at₂ rfl
      refine ⟨part :: parts, _, gap, rest, entry :: entries, state', ?_,
        separate spelled separated, gaps, at₃,
        .cons fit fits, foldlM_cons_eq_some.mpr ⟨state₁, acts, run⟩, rfl⟩
      rw [eq, List.append_assoc, List.append_assoc]

/-- The part does to what has been read what the entry says. -/
def Does (item : σ → Reader σ) (each : π → List UInt8 → Prop) (act : σ → ε → Option σ) (part : π)
    (entry : ε) : Prop :=
  ∀ ⦃state state' text rest⦄, act state entry = some state' → each part text → Apart rest →
    Gives (item state) (text ++ rest) state' rest

lemma gives_parts (loops : Loops step next item result) (punctuates : Punctuates next close starts)
    (mark : isMark close = true)
    (heads : ∀ ⦃part text⦄, each part text → ∃ d text', text = d :: text' ∧ starts d)
    {parts : List π} {entries : List ε} {inner : List UInt8}
    (does : List.Forall₂ (Does item each act) parts entries)
    (run : entries.foldlM act state = some state')
    (separated : Separated each first parts inner) (gaps : Gaps gap) :
    Gives (iterate step (first, state)) (inner ++ (gap ++ close :: rest)) (result state')
      (close :: rest) := by
  refine Goes.gives ?_
  induction does generalizing first state inner with
  | nil =>
    cases separated
    cases run
    refine .done ?_
    rw [loops]
    exact (punctuates.gives (.close gaps)).bind gives_pure
  | @cons part entry parts entries does _ ih =>
    obtain ⟨state₁, acts, run⟩ := foldlM_cons_eq_some.mp run
    obtain ⟨before, text, inner, rfl, spelled, nonempty, later, front⟩ :=
      front_of_separated close heads separated
    rw [List.append_assoc, List.append_assoc]
    refine .again ?_ ?_ (ih run later)
    · rw [loops]
      refine (punctuates.gives (front _)).bind ?_
      exact (does acts spelled (later.apart mark gaps)).bind gives_pure
    · have pos := List.length_pos_of_ne_nil nonempty
      simp only [List.length_append]
      omega

end Parts

/-! ## Lists -/

section Lists

variable {view : α → β} {read : Reader α} {l : List α} {inner : List UInt8} {trees : List Tree}

lemma loops_elements (read : Reader α) : Loops (fun (first, found) => do
      if ← nextElement first then return .again (false, (← read) :: found)
      else return .done found.reverse) nextElement
        (fun found => do return (← read) :: found) List.reverse := by
  intro first found
  simp only [bind_assoc, pure_bind]

lemma foldlM_push (l found : List α) :
    l.foldlM (fun found a => some (a :: found)) found = some (l.reverse ++ found) := by
  induction l generalizing found with
  | nil => rfl
  | cons a l ih =>
    rw [List.reverse_cons, List.append_assoc]
    exact ih (a :: found)

lemma took_elements (h : OrderlessBy view read) (at' : c.At s)
    (took : elements true read c = .ok l c') :
    ∃ trees inner gap rest, s = inner ++ (gap ++ 0x5d :: rest) ∧
      Separated Tree.Spelled true trees inner ∧
      Gaps gap ∧ c'.At (0x5d :: rest) ∧ List.Forall₂ (Settles view read) trees l := by
  have takes :
      Takes (fun found => do return (← read) :: found) (fun d => isBlank d = false ∧ d ≠ 0x5d)
      Tree.Spelled (fun found a => some (a :: found)) (Settles view read) := by
    intro found d s c found' c' start at' took
    obtain ⟨a, c₁, took, last⟩ := took_bind took
    cases last
    obtain ⟨tree, text, s', eq, spelled, at'', settles⟩ := h.took start.1 at' took
    exact ⟨tree, text, s', a, eq, spelled, at'', rfl, settles⟩
  obtain ⟨trees, inner, gap, rest, l, found, rfl, separated, gaps, at'', settles, run, rfl⟩ :=
    took_parts (loops_elements read) punctuates_nextElement takes at' took
  refine ⟨trees, inner, gap, rest, rfl, separated, gaps, at'', ?_⟩
  rw [foldlM_push, List.append_nil] at run
  cases run
  rw [List.reverse_reverse]
  exact settles

lemma gives_elements (means : List.Forall₂ (Means read) trees l)
    (separated : Separated Tree.Spelled true trees inner) (gaps : Gaps gap) :
    Gives (elements true read) (inner ++ (gap ++ 0x5d :: rest)) l (0x5d :: rest) := by
  have run := foldlM_push l []
  have does : List.Forall₂ (Does (fun found => do return (← read) :: found) Tree.Spelled
      fun found a => some (a :: found)) trees l := by
    refine means.imp ?_
    rintro tree a means found _ text rest ⟨⟩ spelled apart
    exact (means (List.forall_mem_nil _) spelled apart).bind gives_pure
  have gives : Gives (elements true read) (inner ++ (gap ++ 0x5d :: rest)) _ (0x5d :: rest) :=
    gives_parts (loops_elements read) punctuates_nextElement rfl
      (fun _ _ spelled => spelled.exists_head) does run separated gaps
  rwa [List.append_nil, List.reverse_reverse] at gives

/-- Values with the same views for other trees. -/
lemma exists_means {trees' : List Tree} (settles : List.Forall₂ (Settles view read) trees l)
    (reordered : List.Forall₂ Tree.Reordered trees trees') :
    ∃ l', l'.map view = l.map view ∧ List.Forall₂ (Means read) trees' l' := by
  induction settles generalizing trees' with
  | nil =>
    cases reordered
    exact ⟨[], rfl, .nil⟩
  | cons first _ ih =>
    cases reordered with
    | cons reordered others =>
      obtain ⟨a', same, means⟩ := first reordered
      obtain ⟨l', same', means'⟩ := ih others
      exact ⟨a' :: l', congrArg₂ List.cons same same', .cons means means'⟩

lemma orderlessAt_list (h : OrderlessBy view read) :
    OrderlessAt 0x5b (List.map view)
      (advance >>= fun _ => closedBy (elements true read) closeList) := by
  intro c s l c' at' took
  obtain ⟨c₁, at₁, took⟩ := gives_advance.took_bind at' took
  obtain ⟨c₂, took, closed⟩ := took_closedBy took
  obtain ⟨trees, inner, gap, rest, (rfl : s = _), separated, gaps, at₂, settles⟩ :=
    took_elements h at₁ took
  obtain ⟨_, at₃⟩ := (marks_closeList.gives rest (List.forall_mem_nil _)).took at₂ closed
  refine ⟨.list trees, _, rest, ?_, .list separated gaps, at₃, fun tree' reordered => ?_⟩
  · simp only [List.cons_append, List.append_assoc, List.nil_append]
  · cases reordered with
    | list pairs =>
      obtain ⟨l', same, means⟩ := exists_means settles pairs
      refine ⟨l', same, fun text' rest' spelled' _ => ?_⟩
      cases spelled' with
      | list separated' gaps' =>
        simp only [List.cons_append, List.append_assoc, List.nil_append]
        have closed := marks_closeList.gives rest' (List.forall_mem_nil _)
        exact gives_advance.bind ((gives_elements means separated' gaps').closedBy closed)

end Lists

/-! ## Objects -/

/-- The order of entries does not show, and neither does the difference between entries that are the
same, if states that are alike are not told apart. -/
structure Unordered (act : σ → ε → Option σ) (same : ε → ε → Prop) (alike : σ → σ → Prop) :
    Prop where
  refl : ∀ state, alike state state
  trans : ∀ {state₁ state₂ state₃}, alike state₁ state₂ → alike state₂ state₃ → alike state₁ state₃
  same_refl : ∀ entry, same entry entry
  step : ∀ {entry entry' state state₁ state'}, same entry entry' → alike state state₁ →
    act state entry = some state' → ∃ state₁', act state₁ entry' = some state₁' ∧
    alike state' state₁'
  swap : ∀ {entry entry' state state₁ state₂}, act state entry = some state₁ →
    act state₁ entry' = some state₂ →
    ∃ state₁' state₂', act state entry' = some state₁' ∧ act state₁' entry = some state₂' ∧
      alike state₂ state₂'

namespace Unordered

variable {act : σ → ε → Option σ} {same : ε → ε → Prop} {alike : σ → σ → Prop}
  {entries entries' : List ε} {state state₁ state' : σ}

lemma run_pairs (unordered : Unordered act same alike) (pairs : List.Forall₂ same entries entries')
    (states : alike state state₁) (run : entries.foldlM act state = some state') :
    ∃ state'', entries'.foldlM act state₁ = some state'' ∧ alike state' state'' := by
  induction pairs generalizing state state₁ with
  | nil =>
    cases run
    exact ⟨state₁, rfl, states⟩
  | cons pair pairs ih =>
    obtain ⟨state₂, acts, run⟩ := foldlM_cons_eq_some.mp run
    obtain ⟨state₃, acts', states⟩ := unordered.step pair states acts
    obtain ⟨state₄, run, states⟩ := ih states run
    exact ⟨state₄, foldlM_cons_eq_some.mpr ⟨state₃, acts', run⟩, states⟩

lemma run_perm (unordered : Unordered act same alike) (order : entries.Perm entries')
    (states : alike state state₁) (run : entries.foldlM act state = some state') :
    ∃ state'', entries'.foldlM act state₁ = some state'' ∧ alike state' state'' := by
  induction order generalizing state state₁ state' with
  | nil =>
    cases run
    exact ⟨state₁, rfl, states⟩
  | cons entry _ ih =>
    obtain ⟨state₂, acts, run⟩ := foldlM_cons_eq_some.mp run
    obtain ⟨state₃, acts', states⟩ := unordered.step (unordered.same_refl entry) states acts
    obtain ⟨state₄, run, states⟩ := ih states run
    exact ⟨state₄, foldlM_cons_eq_some.mpr ⟨state₃, acts', run⟩, states⟩
  | swap entry entry' entries =>
    obtain ⟨state₂, acts, run⟩ := foldlM_cons_eq_some.mp run
    obtain ⟨state₃, acts', run⟩ := foldlM_cons_eq_some.mp run
    obtain ⟨state₂', state₃', acts, acts', swapped⟩ := unordered.swap acts acts'
    obtain ⟨state₄, acts, states⟩ := unordered.step (unordered.same_refl entry) states acts
    obtain ⟨state₅, acts', states⟩ := unordered.step (unordered.same_refl entry') states acts'
    -- what differs after the first two entries is carried along the others
    have others :=
      List.forall₂_same.mpr fun entry (_ : entry ∈ entries) => unordered.same_refl entry
    obtain ⟨state₆, run, states⟩ := unordered.run_pairs others (unordered.trans swapped states) run
    have later := foldlM_cons_eq_some.mpr ⟨state₅, acts', run⟩
    exact ⟨state₆, foldlM_cons_eq_some.mpr ⟨state₄, acts, later⟩, states⟩
  | trans _ _ ih ih' =>
    obtain ⟨state₂, run, states'⟩ := ih states run
    obtain ⟨state₃, run, states''⟩ := ih' (unordered.refl state₁) run
    exact ⟨state₃, run, unordered.trans states' states''⟩

end Unordered

/-- The reader gives the state for a colon and every text of the tree behind it. -/
def Binds (read : Reader σ) (tree : Tree) (state : σ) : Prop :=
  ∀ ⦃gap gap' text rest⦄, Gaps gap → Gaps gap' → tree.Spelled text → Apart rest →
    Gives read (gap ++ 0x3a :: (gap' ++ (text ++ rest))) state rest

/-- What the reader of a member takes behind the key is a colon and the text of a tree. It does what
an entry says, and what the same entry says for every reordering of the tree. -/
def Files (act : σ → ε → Option σ) (same : ε → ε → Prop) (read : String → σ → Reader σ) : Prop :=
  ∀ ⦃key state c s state' c'⦄, c.At s → read key state c = .ok state' c' →
    ∃ (gap gap' text s' : List UInt8) (tree : Tree) (entry : ε),
      s = gap ++ 0x3a :: (gap' ++ (text ++ s')) ∧
      Gaps gap ∧ Gaps gap' ∧ tree.Spelled text ∧ c'.At s' ∧ act state entry = some state' ∧
      ∀ tree', tree.Reordered tree' → ∃ entry', same entry entry' ∧
        ∀ state₁ state₁', act state₁ entry' = some state₁' → Binds (read key state₁) tree' state₁'

section Objects

variable {act : σ → ε → Option σ} {same : ε → ε → Prop} {alike : σ → σ → Prop}
  {read : String → σ → Reader σ} {state state' : σ} {inner : List UInt8}

lemma loops_members (read : String → σ → Reader σ) : Loops (fun (first, state) => do
      if ← nextKey first then do
        let key ← key
        return .again (false, ← read key state)
      else return .done state) nextKey (fun state => do read (← key) state) id := by
  intro first state
  simp only [bind_assoc, id]

/-- What is known of a member. -/
def Settled (act : σ → ε → Option σ) (same : ε → ε → Prop) (read : String → σ → Reader σ)
    (member : List UInt8 × Tree) (entry : ε) : Prop :=
  ∀ ⦃member'⦄, Paired Tree.Reordered member member' → ∃ entry', same entry entry' ∧
    Does (fun state => do read (← key) state) (Member Tree.Spelled) act member' entry'

lemma takes_member (files : Files act same read) :
    Takes (fun state => do read (← key) state) (fun d => d = 0x22) (Member Tree.Spelled) act
      (Settled act same read) := by
  rintro state _ s c state' c' rfl at' took
  obtain ⟨key', c₁, keyed, took⟩ := took_bind took
  obtain ⟨c₂, at₂, keyed⟩ := gives_advance.took_bind at' keyed
  obtain ⟨_, s₁, (rfl : s = _), at₁, ⟨body, body', rfl⟩, gives⟩ := local_stringText at₂ keyed
  obtain ⟨gap, gap', text, s', tree, entry, rfl, gaps, gaps', spelled, at'', acts, settles⟩ :=
    files at₁ took
  refine ⟨(body, tree), _, s', entry, ?_, .mk body' gaps gaps' spelled, at'', acts, ?_⟩
  · simp only [List.cons_append, List.append_assoc, List.nil_append]
  · rintro _ ⟨reordered⟩
    obtain ⟨entry', same', binds⟩ := settles _ reordered
    refine ⟨entry', same', fun state₁ state₁' text' rest acts' written apart => ?_⟩
    cases written with
    | @mk _ gap₁ gap₁' text₁ _ _ colon front spelled' =>
      have keyed' :=
        gives (gap₁ ++ 0x3a :: (gap₁' ++ (text₁ ++ rest))) (.inr (apart_mark colon rfl))
      simp only [List.append_assoc, List.cons_append, List.nil_append] at keyed' ⊢
      exact (gives_advance.bind keyed').bind (binds _ _ acts' colon front spelled' apart)

lemma took_members (files : Files act same read) (at' : c.At s)
    (took : members read state c = .ok state' c') :
    ∃ pairs inner gap rest entries, s = inner ++ (gap ++ 0x7d :: rest) ∧
      Separated (Member Tree.Spelled) true pairs inner ∧ Gaps gap ∧ c'.At (0x7d :: rest) ∧
      List.Forall₂ (Settled act same read) pairs entries ∧
      entries.foldlM act state = some state' := by
  obtain ⟨pairs, inner, gap, rest, entries, state', rfl, separated, gaps, at'', settled,
    run, rfl⟩ :=
    took_parts (loops_members read) punctuates_nextKey (takes_member files) at' took
  exact ⟨pairs, inner, gap, rest, entries, rfl, separated, gaps, at'', settled, run⟩

lemma gives_members {pairs : List (List UInt8 × Tree)} {entries : List ε}
    (does : List.Forall₂
      (Does (fun state => do read (← key) state) (Member Tree.Spelled) act) pairs entries)
    (run : entries.foldlM act state = some state')
    (separated : Separated (Member Tree.Spelled) true pairs inner)
    (gaps : Gaps gap) :
    Gives (members read state) (inner ++ (gap ++ 0x7d :: rest)) state' (0x7d :: rest) := by
  refine gives_parts (loops_members read) punctuates_nextKey rfl ?_ does run separated gaps
  rintro _ _ ⟨body, colon, front, written⟩
  exact ⟨_, _, rfl, rfl⟩

/-- Entries for the members of another object. -/
lemma exists_does {pairs pairs' pairs'' : List (List UInt8 × Tree)} {entries : List ε}
    (settled : List.Forall₂ (Settled act same read) pairs entries)
    (reordered : List.Forall₂ (Paired Tree.Reordered) pairs pairs') (order : pairs'.Perm pairs'') :
    ∃ entries' entries'', List.Forall₂ same entries entries' ∧ entries'.Perm entries'' ∧
      List.Forall₂
        (Does (fun state => do read (← key) state) (Member Tree.Spelled) act) pairs''
          entries'' := by
  have paired : ∃ entries', List.Forall₂ same entries entries' ∧
      List.Forall₂
        (Does (fun state => do read (← key) state) (Member Tree.Spelled) act) pairs' entries' := by
    clear order
    induction settled generalizing pairs' with
    | nil =>
      cases reordered
      exact ⟨[], .nil, .nil⟩
    | cons first _ ih =>
      cases reordered with
      | cons reordered others =>
        obtain ⟨entry', same', does⟩ := first reordered
        obtain ⟨entries', sames, does'⟩ := ih others
        exact ⟨entry' :: entries', .cons same' sames, .cons does does'⟩
  obtain ⟨entries', sames, does⟩ := paired
  obtain ⟨entries'', does', order'⟩ := List.perm_comp_forall₂ order.symm does
  exact ⟨entries', entries'', sames, order'.symm, does'⟩

lemma orderlessAt_object {view : α → β} {after : σ → Reader α} (files : Files act same read)
    (unordered : Unordered act same alike) (instant : ∀ state, Instant (after state))
    (respects : ∀ ⦃state state' a⦄, alike state state' → after state = pure a →
      ∃ a', after state' = pure a' ∧ view a' = view a) :
    OrderlessAt 0x7b view
      (advance >>= fun _ => closedBy (members read state >>= after) closeObject) := by
  intro c s a c' at' took
  obtain ⟨c₁, at₁, took⟩ := gives_advance.took_bind at' took
  obtain ⟨c₂, took, closed⟩ := took_closedBy took
  obtain ⟨state', c₃, took, last⟩ := took_bind took
  obtain ⟨now, rfl⟩ := instant state' last
  obtain ⟨pairs, inner, gap, rest, entries, (rfl : s = _), separated, gaps, at₂, settled, run⟩ :=
    took_members files at₁ took
  obtain ⟨_, at₃⟩ := (marks_closeObject.gives rest (List.forall_mem_nil _)).took at₂ closed
  refine ⟨.object pairs, _, rest, ?_, .object separated gaps, at₃, fun tree' reordered => ?_⟩
  · simp only [List.cons_append, List.append_assoc, List.nil_append]
  · cases reordered with
    | object reordered order =>
      obtain ⟨entries', entries'', sames, order', does⟩ := exists_does settled reordered order
      obtain ⟨state₁, run, states⟩ := unordered.run_pairs sames (unordered.refl state) run
      obtain ⟨state₂, run, states'⟩ := unordered.run_perm order' (unordered.refl state) run
      obtain ⟨a', now', seen⟩ := respects (unordered.trans states states') now
      refine ⟨a', seen, fun text' rest' spelled' _ => ?_⟩
      cases spelled' with
      | object separated' gaps' =>
        simp only [List.cons_append, List.append_assoc, List.nil_append]
        refine gives_advance.bind
          (Gives.closedBy ?_ (marks_closeObject.gives rest' (List.forall_mem_nil _)))
        refine (gives_members does run separated' gaps').bind ?_
        rw [now']
        exact gives_pure

end Objects

end Reader

end Brickwork.Document
