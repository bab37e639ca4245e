import Mathlib.Data.List.Forall2
import Mathlib.Data.List.Nodup
import Mathlib.Tactic.Common

/-!
# Lists with keys, and lists of results

Looking an element up by a key that no two elements share, from either end, and running a
computation that may fail on every element of a list.
-/

namespace Brickwork

section Keys

variable {α β : Type} [DecidableEq β] {key : α → β} {l : List α}

/-- Where keys are distinct, the element of a key is the one that has it. -/
lemma find?_key (nodup : (l.map key).Nodup) {a} (mem : a ∈ l) :
    l.find? (fun x => key x = key a) = some a := by
  cases found : l.find? (fun x => key x = key a) with
  | none =>
    have missing := List.find?_eq_none.mp found a mem
    simp at missing
  | some b =>
    have same : key b = key a := by simpa using List.find?_some found
    rw [List.inj_on_of_nodup_map nodup (List.mem_of_find?_eq_some found) mem same]

/-- Where keys are distinct, it does not matter from which end an element is looked up. -/
lemma find?_key_reverse (nodup : (l.map key).Nodup) (k : β) :
    l.reverse.find? (fun x => key x = k) = l.find? (fun x => key x = k) := by
  have nodup' : (l.reverse.map key).Nodup := by
    rw [List.map_reverse]
    exact List.nodup_reverse.mpr nodup
  cases found : l.find? (fun x => key x = k) with
  | none =>
    apply List.find?_eq_none.mpr
    intro a mem
    exact List.find?_eq_none.mp found a (List.mem_reverse.mp mem)
  | some a =>
    obtain rfl : key a = k := by simpa using List.find?_some found
    exact find?_key nodup' (List.mem_reverse.mpr (List.mem_of_find?_eq_some found))

/-- Where keys are distinct, at most one element gives a value for a key. -/
lemma flatMap_key {γ : Type} (nodup : (l.map key).Nodup) (k : β) (value : α → γ) :
    (l.flatMap fun x => if key x = k then [value x] else []) =
      ((l.find? fun x => key x = k).map value).toList := by
  induction l with
  | nil => rfl
  | cons a l ih =>
    obtain ⟨fresh, nodup⟩ := List.nodup_cons.mp nodup
    rw [List.flatMap_cons, List.find?_cons]
    by_cases same : key a = k
    · have later : (l.flatMap fun x => if key x = k then [value x] else []) = [] := by
        rw [List.flatMap_eq_nil_iff]
        intro x mem
        apply if_neg
        intro eq
        exact fresh (List.mem_map.mpr ⟨x, mem, eq.trans same.symm⟩)
      rw [later, if_pos same, decide_eq_true same]
      rfl
    · rw [ih nodup, if_neg same, decide_eq_false same]
      rfl

end Keys

/-- Of two lists that go together, the first elements that fit go together, if the same elements
fit. -/
lemma find?_forall₂ {α β : Type} {R : α → β → Prop} {p : α → Bool} {q : β → Bool}
    (agree : ∀ a b, R a b → q b = p a) {l : List α} {m : List β} (related : List.Forall₂ R l m) :
    (l.find? p = none ∧ m.find? q = none) ∨
      ∃ a b, R a b ∧ l.find? p = some a ∧ m.find? q = some b := by
  induction related with
  | nil => exact .inl ⟨rfl, rfl⟩
  | @cons a b l m first _ ih =>
    rw [List.find?_cons, List.find?_cons, agree a b first]
    cases p a with
    | true => exact .inr ⟨a, b, first, rfl, rfl⟩
    | false => exact ih

section Results

variable {ε α β : Type} {f : α → Except ε β} {l : List α}

/-- A computation in two steps succeeds through a result of the first. -/
lemma bind_eq_ok {x : Except ε α} {b : β} : x >>= f = .ok b ↔ ∃ a, x = .ok a ∧ f a = .ok b := by
  cases x with
  | error e => exact ⟨nofun, nofun⟩
  | ok a =>
    constructor
    · exact fun h => ⟨a, rfl, h⟩
    · rintro ⟨_, ⟨⟩, h⟩
      exact h

lemma mapError_eq_ok {ε' : Type} {x : Except ε α} {g : ε → ε'} {a : α} :
    x.mapError g = .ok a ↔ x = .ok a := by
  cases x with
  | error e => exact ⟨nofun, nofun⟩
  | ok b => rw [Except.mapError, Except.ok.injEq, Except.ok.injEq]

lemma mapM_cons_ok {a : α} {bs : List β} :
    (a :: l).mapM f = .ok bs ↔ ∃ b rest, f a = .ok b ∧ l.mapM f = .ok rest ∧ bs = b :: rest := by
  rw [List.mapM_cons]
  cases first : f a with
  | error e => exact ⟨nofun, nofun⟩
  | ok b =>
    cases later : l.mapM f with
    | error e => exact ⟨nofun, nofun⟩
    | ok rest =>
      constructor
      · intro h
        cases h
        exact ⟨b, rest, rfl, rfl, rfl⟩
      · rintro ⟨_, _, hb, hrest, rfl⟩
        cases hb
        cases hrest
        rfl

lemma mapM_total (total : ∀ a ∈ l, ∃ b, f a = .ok b) : ∃ bs, l.mapM f = .ok bs := by
  induction l with
  | nil => exact ⟨[], rfl⟩
  | cons a l ih =>
    obtain ⟨b, hb⟩ := total a List.mem_cons_self
    obtain ⟨rest, hrest⟩ := ih fun x mem => total x (List.mem_cons_of_mem a mem)
    exact ⟨b :: rest, mapM_cons_ok.mpr ⟨b, rest, hb, hrest, rfl⟩⟩

/-- The results of a computation on a list belong to its elements, in order. -/
lemma mapM_forall₂ {bs : List β} (h : l.mapM f = .ok bs) :
    List.Forall₂ (fun a b => f a = .ok b) l bs := by
  induction l generalizing bs with
  | nil =>
    cases h
    exact .nil
  | cons a l ih =>
    obtain ⟨b, rest, first, later, rfl⟩ := mapM_cons_ok.mp h
    exact .cons first (ih later)

lemma mem_of_mapM {bs : List β} (h : l.mapM f = .ok bs) {b} (mem : b ∈ bs) :
    ∃ a ∈ l, f a = .ok b := by
  induction l generalizing bs with
  | nil =>
    cases h
    cases mem
  | cons a l ih =>
    obtain ⟨first, rest, eq, later, rfl⟩ := mapM_cons_ok.mp h
    cases mem with
    | head => exact ⟨a, List.mem_cons_self, eq⟩
    | tail _ mem =>
      obtain ⟨other, among, eq⟩ := ih later mem
      exact ⟨other, List.mem_cons_of_mem a among, eq⟩

lemma map_of_mapM {γ : Type} {bs : List β} {g : α → γ} {k : β → γ} (h : l.mapM f = .ok bs)
    (each : ∀ a b, f a = .ok b → k b = g a) : bs.map k = l.map g := by
  induction l generalizing bs with
  | nil =>
    cases h
    rfl
  | cons a l ih =>
    obtain ⟨b, rest, first, later, rfl⟩ := mapM_cons_ok.mp h
    rw [List.map_cons, List.map_cons, each a b first, ih later]

lemma flatMap_of_mapM {γ : Type} {bs : List β} {g : α → List γ} {k : β → List γ}
    (h : l.mapM f = .ok bs) (each : ∀ a b, f a = .ok b → k b = g a) :
    bs.flatMap k = l.flatMap g := by
  rw [List.flatMap_def, List.flatMap_def, map_of_mapM h each]

/-- A computation on changed elements, whose results change in turn. -/
lemma mapM_map {α' β' : Type} {f' : α' → Except ε β'} {g : α → α'} {k : β → β'}
    (each : ∀ a, f' (g a) = (f a).map k) : (l.map g).mapM f' = (l.mapM f).map (List.map k) := by
  induction l with
  | nil => rfl
  | cons a l ih =>
    rw [List.map_cons, List.mapM_cons, List.mapM_cons, each, ih]
    cases f a with
    | error e => rfl
    | ok b => cases l.mapM f <;> rfl

end Results

end Brickwork
