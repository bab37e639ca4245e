import Brickwork.Document.Models
import Mathlib.Tactic.Common

/-!
# What readers give

A value that a reader gives comes from its parts: from the reader of an element, of a field or of a
variant, or from the default of a field. Where in the input the parts were read does not matter
here, so each lemma takes a reader apart and forgets the cursors in between.
-/

namespace Brickwork.Document

namespace Reader

variable {α β σ : Type} {αs : List Type}

/-- The reader gives the value, wherever it may stand. -/
def Yields (read : Reader α) (a : α) : Prop :=
  ∃ c c', read c = .ok a c'

/-! ## Steps -/

lemma eq_of_yields_pure {a b : α} (h : Yields (pure a) b) : b = a := by
  obtain ⟨c, c', h⟩ := h
  cases h
  rfl

lemma yields_bind {read : Reader α} {f : α → Reader β} {b : β} (h : Yields (read >>= f) b) :
    ∃ a, read.Yields a ∧ (f a).Yields b := by
  obtain ⟨c, c', h⟩ := h
  change EStateM.bind read f c = _ at h
  rw [EStateM.bind] at h
  cases first : read c with
  | ok a c₁ =>
    rw [first] at h
    exact ⟨a, ⟨c, c₁, first⟩, c₁, c', h⟩
  | error fault c₁ =>
    rw [first] at h
    cases h

lemma not_yields_bind {read : Reader α} {f : α → Reader β} {b : β} (never : ∀ a, ¬(f a).Yields b) :
    ¬Yields (read >>= f) b := by
  intro h
  obtain ⟨a, _, h⟩ := yields_bind h
  exact never a h

lemma not_yields_badFormat {error : FormatError} {a : α} : ¬Yields (badFormat error) a := by
  rintro ⟨c, c', h⟩
  cases h

lemma not_yields_badContent {error : ContentError} {a : α} : ¬Yields (badContent error) a := by
  rintro ⟨c, c', h⟩
  cases h

lemma yields_located {read : Reader α} {a : α} (h : Yields (located read) a) : read.Yields a := by
  obtain ⟨c, c', h⟩ := h
  rw [located] at h
  split at h
  · cases h
    exact ⟨c, c', by assumption⟩
  · cases h

lemma yields_closedBy {body : Reader α} {close : Reader Unit} {a : α}
    (h : Yields (closedBy body close) a) :
    body.Yields a := by
  obtain ⟨c, c', h⟩ := h
  rw [closedBy] at h
  split at h
  case h_1 b c₁ first =>
    split at h
    · cases h
      exact ⟨c, c₁, first⟩
    · cases h
  case h_2 =>
    split at h <;> cases h

lemma not_yields_mismatch {expected : String} {a : α} : ¬Yields (mismatch expected) a := by
  intro h
  obtain ⟨next, _, h⟩ := yields_bind (yields_located h)
  have never (read : Reader Found) :
      ¬Yields (read >>= fun found => badContent (.invalidType found expected)) a :=
    not_yields_bind fun _ => not_yields_badContent
  dsimp only at h
  split at h
  case h_1 | h_2 | h_3 | h_4 | h_5 =>
    exact not_yields_bind (fun _ => not_yields_bind fun _ => never _) h
  case h_6 | h_7 | h_9 => exact never _ h
  case h_8 =>
    split at h
    · exact not_yields_bind (fun _ => never _) h
    · exact never _ h

/-! ## Loops -/

section Loops

variable {step : σ → Reader (Step σ α)} {state : σ} {a : α}

lemma yields_repeatOver (Inv : σ → Prop)
    (keeps : ∀ s s', Inv s → (step s).Yields (.again s') → Inv s')
    {bytes : List UInt8} (start : Inv state) (h : Yields (repeatOver step bytes state) a) :
    ∃ s, Inv s ∧ (step s).Yields (.done a) := by
  induction bytes generalizing state with
  | nil =>
    obtain ⟨next, taken, h⟩ := yields_bind h
    cases next with
    | again s => exact absurd h not_yields_badFormat
    | done b =>
      obtain rfl := eq_of_yields_pure h
      exact ⟨state, start, taken⟩
  | cons _ bytes ih =>
    obtain ⟨next, taken, h⟩ := yields_bind h
    cases next with
    | again s => exact ih (keeps state s start taken) h
    | done b =>
      obtain rfl := eq_of_yields_pure h
      exact ⟨state, start, taken⟩

/-- What a loop gives comes from its last step, at a state where what the other steps keep still
holds. -/
lemma yields_iterate (Inv : σ → Prop) (keeps : ∀ s s', Inv s → (step s).Yields (.again s') → Inv s')
    (start : Inv state) (h : Yields (iterate step state) a) :
    ∃ s, Inv s ∧ (step s).Yields (.done a) := by
  obtain ⟨c, c', h⟩ := h
  exact yields_repeatOver Inv keeps start ⟨c, c', h⟩

end Loops

lemma yields_elements {first : Bool} {read : Reader α} {l : List α}
    (h : Yields (elements first read) l) :
    ∀ a ∈ l, read.Yields a := by
  -- The elements found so far all come from the reader.
  obtain ⟨⟨first, found⟩, each, h⟩ := yields_iterate (fun s => ∀ a ∈ s.2, read.Yields a) (by
    rintro ⟨first, found⟩ s each h
    obtain ⟨more, _, h⟩ := yields_bind h
    split at h
    · obtain ⟨a, given, h⟩ := yields_bind h
      cases eq_of_yields_pure h
      exact List.forall_mem_cons.mpr ⟨given, each⟩
    · cases eq_of_yields_pure h) (List.forall_mem_nil _) h
  obtain ⟨more, _, h⟩ := yields_bind h
  split at h
  · obtain ⟨a, _, h⟩ := yields_bind h
    cases eq_of_yields_pure h
  · cases eq_of_yields_pure h
    exact fun a mem => each a (List.mem_reverse.mp mem)

lemma yields_members (Inv : σ → Prop) {read : String → σ → Reader σ} {state result : σ}
    (keeps : ∀ key s s', Inv s → (read key s).Yields s' → Inv s') (start : Inv state)
    (h : Yields (members read state) result) : Inv result := by
  obtain ⟨⟨first, state⟩, kept, h⟩ := yields_iterate (fun s => Inv s.2) (by
    rintro ⟨first, state⟩ s kept h
    obtain ⟨more, _, h⟩ := yields_bind h
    split at h
    · obtain ⟨key, _, h⟩ := yields_bind h
      obtain ⟨state', given, h⟩ := yields_bind h
      cases eq_of_yields_pure h
      exact keeps key state state' kept given
    · cases eq_of_yields_pure h) start h
  obtain ⟨more, _, h⟩ := yields_bind h
  split at h
  · obtain ⟨key, _, h⟩ := yields_bind h
    obtain ⟨state', _, h⟩ := yields_bind h
    cases eq_of_yields_pure h
  · cases eq_of_yields_pure h
    exact kept

/-! ## Values -/

lemma yields_list {room : Nat} {read : Reader α} {l : List α} (h : Yields (list room read) l) :
    ∀ a ∈ l, read.Yields a := by
  obtain ⟨next, _, h⟩ := yields_bind (yields_located h)
  split at h
  · exact absurd h not_yields_badFormat
  · obtain ⟨_, _, h⟩ := yields_bind h
    exact yields_elements (yields_closedBy h)
  · exact absurd h not_yields_mismatch

lemma yields_optional {read : Reader α} {o : Option α} (h : Yields (optional read) o) :
    ∀ a ∈ o, read.Yields a := by
  obtain ⟨next, _, h⟩ := yields_bind h
  split at h
  · obtain ⟨_, _, h⟩ := yields_bind h
    obtain ⟨_, _, h⟩ := yields_bind h
    cases eq_of_yields_pure h
    exact nofun
  · obtain ⟨b, given, h⟩ := yields_bind h
    cases eq_of_yields_pure h
    rintro a ⟨⟩
    exact given

lemma yields_checkedString {check : String → Except ContentError α} {a : α}
    (h : Yields (checkedString check) a) : ∃ text, check text = .ok a := by
  obtain ⟨text, _, h⟩ := yields_bind h
  split at h
  · cases eq_of_yields_pure h
    exact ⟨text, by assumption⟩
  · exact absurd h not_yields_badContent

end Reader

/-! ## Records -/

/-- The value is one that the reader of the field gives, or the default of the field. -/
def Field.Yields {α : Type} (field : Field α) (a : α) : Prop :=
  field.read.Yields a ∨ field.default = some a

lemma Field.Yields.of_required {α : Type} {field : Field α} {a : α} (h : field.Yields a)
    (required : field.default = none) : field.read.Yields a := by
  obtain given | default := h
  · exact given
  · rw [required] at default
    cases default

lemma Field.Yields.of_list {α : Type} {key : String} {default : Option (List α)} {room : Nat}
    {read : Reader α} {l : List α} (h : Field.Yields ⟨key, default, Reader.list room read⟩ l)
    (empty : ∀ l ∈ default, l = []) : ∀ a ∈ l, read.Yields a := by
  obtain given | missing := h
  · exact Reader.yields_list given
  · rw [empty l missing]
    exact List.forall_mem_nil _

lemma Field.Yields.of_optional {α : Type} {key : String} {default : Option (Option α)}
    {read : Reader α} {o : Option α} (h : Field.Yields ⟨key, default, Reader.optional read⟩ o)
    (empty : ∀ o ∈ default, o = none) : ∀ a ∈ o, read.Yields a := by
  obtain given | missing := h
  · exact Reader.yields_optional given
  · rw [empty o missing]
    exact nofun

namespace Fields

open Reader

variable {αs : List Type}

/-- Each slot that is filled holds what the reader of its field gives. -/
def Fill {αs : List Type} : Fields αs → Slots αs → Prop
  | nil, _ => True
  | cons field rest, (slot, slots) => (∀ a ∈ slot, field.read.Yields a) ∧ rest.Fill slots

/-- Each value is one for its field. -/
def Yield {αs : List Type} : Fields αs → Values αs → Prop
  | nil, _ => True
  | cons field rest, (a, values) => field.Yields a ∧ rest.Yield values

lemma fill_blank (fields : Fields αs) : fields.Fill fields.blank := by
  induction fields with
  | nil => trivial
  | cons field rest ih => exact ⟨nofun, ih⟩

lemma fill_of_accept {fields : Fields αs} {key : String} {slots slots' : Slots αs}
    {read : Reader (Slots αs)} (fill : fields.Fill slots)
    (accepted : fields.accept key slots = some read)
    (h : read.Yields slots') : fields.Fill slots' := by
  induction fields with
  | nil => cases accepted
  | cons field rest ih =>
    obtain ⟨slot, slots⟩ := slots
    rw [accept] at accepted
    split at accepted
    · cases accepted
      split at h
      · exact absurd h not_yields_badContent
      · obtain ⟨_, _, h⟩ := yields_bind h
        obtain ⟨a, given, h⟩ := yields_bind h
        cases eq_of_yields_pure h
        refine ⟨?_, fill.2⟩
        rintro _ ⟨⟩
        exact given
    · obtain ⟨later, found, rfl⟩ := Option.map_eq_some_iff.mp accepted
      obtain ⟨slots', given, h⟩ := yields_bind h
      cases eq_of_yields_pure h
      exact ⟨fill.1, ih fill.2 found given⟩

lemma fill_of_readList {fields : Fields αs} {first : Bool} {length : Nat} {slots : Slots αs}
    (h : Yields (fields.readList first) (length, slots)) : fields.Fill slots := by
  induction fields generalizing first length with
  | nil => trivial
  | cons field rest ih =>
    obtain ⟨more, _, h⟩ := yields_bind h
    split at h
    · obtain ⟨a, given, h⟩ := yields_bind h
      obtain ⟨⟨n, later⟩, others, h⟩ := yields_bind h
      cases eq_of_yields_pure h
      refine ⟨?_, ih others⟩
      rintro _ ⟨⟩
      exact given
    · cases eq_of_yields_pure h
      exact fill_blank _

lemma yield_of_complete {fields : Fields αs} {slots : Slots αs} {values : Values αs}
    (fill : fields.Fill slots) (h : fields.complete slots = .ok values) : fields.Yield values := by
  induction fields with
  | nil => trivial
  | cons field rest ih =>
    obtain ⟨slot, slots⟩ := slots
    rw [complete] at h
    split at h
    case h_1 a taken =>
      cases later : rest.complete slots with
      | error key =>
        rw [later] at h
        cases h
      | ok others =>
        rw [later] at h
        cases h
        refine ⟨?_, ih fill.2 later⟩
        cases slot with
        | none => exact .inr taken
        | some b =>
          cases taken
          exact .inl (fill.1 _ rfl)
    case h_2 => cases h

end Fields

namespace Reader

variable {α β σ : Type} {αs : List Type}

lemma fill_of_slots {fields : Fields αs} {other : String → σ → Reader σ} {state : σ}
    {result : Slots αs × σ} (h : Yields (slots fields other state) result) :
    fields.Fill result.1 := by
  refine yields_members (fun s => fields.Fill s.1) ?_ fields.fill_blank h
  rintro key ⟨slots, state⟩ s fill h
  dsimp only at h
  split at h
  case h_1 read accepted =>
    obtain ⟨slots', given, h⟩ := yields_bind h
    cases eq_of_yields_pure h
    exact Fields.fill_of_accept fill accepted given
  case h_2 =>
    obtain ⟨state', _, h⟩ := yields_bind h
    cases eq_of_yields_pure h
    exact fill

lemma yield_of_completed {fields : Fields αs} {slots : Slots αs} {values : Values αs}
    (fill : fields.Fill slots) (h : Yields (completed fields slots) values) :
    fields.Yield values := by
  rw [completed] at h
  split at h
  · cases eq_of_yields_pure h
    exact Fields.yield_of_complete fill (by assumption)
  · exact absurd h not_yields_badContent

lemma yield_of_completedList {expected : String} {fields : Fields αs} {length : Nat}
    {slots : Slots αs} {values : Values αs} (fill : fields.Fill slots)
    (h : Yields (completedList expected fields length slots) values) : fields.Yield values := by
  rw [completedList] at h
  split at h
  · cases eq_of_yields_pure h
    exact Fields.yield_of_complete fill (by assumption)
  · exact absurd h not_yields_badContent

lemma yield_of_record {expected : String} {room : Nat} {fields : Fields αs} {values : Values αs}
    (h : Yields (record expected room fields) values) : fields.Yield values := by
  obtain ⟨next, _, h⟩ := yields_bind (yields_located h)
  split at h
  · exact absurd h not_yields_badFormat
  · obtain ⟨_, _, h⟩ := yields_bind h
    obtain ⟨⟨length, slots⟩, given, h⟩ := yields_bind (yields_closedBy h)
    exact yield_of_completedList (Fields.fill_of_readList given) h
  · obtain ⟨_, _, h⟩ := yields_bind h
    obtain ⟨⟨slots, _⟩, given, h⟩ := yields_bind (yields_closedBy h)
    exact yield_of_completed (fill_of_slots given) h
  · exact absurd h not_yields_mismatch

/-! ## Variants -/

/-- What belongs to a tag gives the value. -/
def Payload.Yields : Payload α → α → Prop
  | unit value, a => a = value
  | single read, a => read.Yields a
  | fields read, a => read.Yields a

lemma Payload.yields_read {payload : Payload α} {a : α} (h : Reader.Yields payload.read a) :
    payload.Yields a := by
  cases payload with
  | unit value =>
    obtain ⟨_, _, h⟩ := yields_bind h
    exact eq_of_yields_pure h
  | single read => exact h
  | fields read => exact h

lemma Payload.yields_bare {payload : Payload α} {a : α} (h : Reader.Yields payload.bare a) :
    payload.Yields a := by
  cases payload with
  | unit value => exact eq_of_yields_pure h
  | single read => exact absurd h not_yields_badContent
  | fields read => exact absurd h not_yields_badContent

lemma mem_of_tag {variants : List (String × Payload α)} {payload : Payload α}
    (h : Reader.Yields (tag variants) payload) : payload ∈ variants.map Prod.snd := by
  obtain ⟨key, _, h⟩ := yields_bind (yields_located h)
  split at h
  case h_1 found lookup =>
    cases eq_of_yields_pure h
    obtain ⟨before, behind, rfl, _⟩ := List.lookup_eq_some_iff.mp lookup
    exact List.mem_map.mpr ⟨(key, payload), List.mem_append_right before List.mem_cons_self, rfl⟩
  case h_2 => exact absurd h not_yields_badContent

lemma yields_tagged {room : Nat} {variants : List (String × Payload α)} {a : α}
    (h : Reader.Yields (tagged room variants) a) :
    ∃ payload ∈ variants.map Prod.snd, payload.Yields a := by
  obtain ⟨next, _, h⟩ := yields_bind h
  split at h
  · exact absurd h not_yields_badFormat
  · obtain ⟨payload, given, h⟩ := yields_bind h
    exact ⟨payload, mem_of_tag given, payload.yields_bare h⟩
  · obtain ⟨_, _, h⟩ := yields_bind h
    obtain ⟨more, _, h⟩ := yields_bind h
    split at h
    · obtain ⟨payload, given, h⟩ := yields_bind h
      obtain ⟨_, _, h⟩ := yields_bind h
      obtain ⟨value, read, h⟩ := yields_bind h
      obtain ⟨_, _, h⟩ := yields_bind h
      split at h
      · exact absurd h not_yields_badFormat
      · obtain ⟨_, _, h⟩ := yields_bind h
        cases eq_of_yields_pure h
        exact ⟨payload, mem_of_tag given, payload.yields_read read⟩
      · exact absurd h not_yields_badFormat
    · exact absurd h not_yields_badFormat
  · exact absurd h not_yields_badFormat

lemma yields_run {read : Reader α} {input : Input} {a : α} (h : read.run input = .ok a) :
    read.Yields a := by
  rw [run] at h
  split at h
  case h_1 b c given =>
    cases h
    obtain ⟨a, first, h⟩ := yields_bind ⟨_, _, given⟩
    obtain ⟨_, _, h⟩ := yields_bind h
    split at h
    · cases eq_of_yields_pure h
      exact first
    · exact absurd h not_yields_badFormat
  case h_2 => cases h

end Reader

end Brickwork.Document
