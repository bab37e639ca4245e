import Brickwork.Proofs.Weaving

/-!
# The name of an app in its sketch

The name of an app is in one of the comments at the head of its sketch, as it is, and all else is
the same for all names. But only the first line of a name is in that comment: a name may have more
lines, and these are lines of the sketch.
-/

namespace Brickwork

open Code

namespace Text

def lines (text : String) : List (List Char) :=
  text.toList.splitOn '\n'

def isComment (line : List Char) : Bool :=
  "//".toList.isPrefixOf line

/-- The lines of a text that are left when each line that starts with `//` is deleted. -/
def codeLines (text : String) : List (List Char) :=
  (lines text).filter fun line => !isComment line

/-- The same for a text whose first line goes on a line that is a comment already. -/
def strayLines (name : String) : List (List Char) :=
  (lines name).tail.filter fun line => !isComment line

lemma codeLines_newline (front back : String) :
    codeLines (front ++ "\n" ++ back) = codeLines front ++ codeLines back := by
  have split : lines (front ++ "\n" ++ back) = lines front ++ lines back := by
    rw [lines, String.toList_append, String.toList_append, List.append_assoc]
    exact List.splitOn_append_cons_self _ _
  rw [codeLines, split, List.filter_append]
  rfl

/-- A text without a line break goes on the first line of what follows it. -/
lemma splitOn_append_of_notMem {front : List Char} (unbroken : '\n' ∉ front) (text : List Char) :
    (front ++ text).splitOn '\n' = (text.splitOn '\n').modifyHead (front ++ ·) := by
  induction front with
  | nil =>
    rw [List.nil_append]
    cases text.splitOn '\n' <;> rfl
  | cons c front ih =>
    obtain ⟨other, unbroken⟩ := not_or.mp (mt List.mem_cons.mpr unbroken)
    have different : (c == '\n') = false := beq_false_of_ne (Ne.symm other)
    rw [List.cons_append, List.splitOn_cons_eq_if_modifyHead, different, ih unbroken,
      if_neg Bool.false_ne_true, List.modifyHead_modifyHead]
    rfl

lemma strayLines_append {front : String} (unbroken : '\n' ∉ front.toList) (name : String) :
    strayLines (front ++ name) = strayLines name := by
  rw [strayLines, lines, String.toList_append, splitOn_append_of_notMem unbroken,
    List.tail_modifyHead]
  rfl

lemma strayLines_of_unbroken {name : String} (unbroken : '\n' ∉ name.toList) :
    strayLines name = [] := by
  rw [strayLines, lines, List.splitOn_eq_singleton unbroken]
  rfl

lemma codeLines_comment (text : String) : codeLines ("// " ++ text) = strayLines text := by
  have unbroken : '\n' ∉ "// ".toList := by decide
  rw [codeLines, strayLines, lines, lines, String.toList_append, splitOn_append_of_notMem unbroken]
  -- There is always a first line, and it is deleted.
  cases split : text.toList.splitOn '\n' with
  | nil => exact absurd split (List.splitOn_ne_nil _ _)
  | cons first others =>
    have deleted : ¬(!isComment ("// ".toList ++ first)) = true := by
      have headed : "//".toList <+: "// ".toList ++ first := ⟨' ' :: first, rfl⟩
      rw [isComment, List.isPrefixOf_iff_prefix.mpr headed]
      decide
    exact List.filter_cons_of_neg deleted

end Text

open Text

/-- Of a heading, only the lines of the name behind its first are left. -/
lemma codeLines_heading (name body : String) :
    codeLines (Plan.heading name ++ body) = strayLines name ++ codeLines body := by
  have written (text rest : String) :
      codeLines (Line.render ⟨0, "// " ++ text⟩ ++ rest) = strayLines text ++ codeLines rest := by
    rw [← codeLines_comment, ← codeLines_newline]
    rfl
  have heading :
      Plan.heading name = text [⟨0, "// " ++ "Wiring code generated from an ArduinoML model"⟩,
      ⟨0, "// " ++ ("Application name: " ++ name)⟩] := rfl
  have title : strayLines "Wiring code generated from an ArduinoML model" = [] := by decide
  have unbroken : '\n' ∉ "Application name: ".toList := by decide
  rw [heading, text_cons, text_singleton, String.append_assoc, written, written, title,
    strayLines_append unbroken, List.nil_append]

/-- With another name, a sketch has another heading and is the same behind it. -/
lemma generate_renamed {app : App} {options : Options} {sketch : String}
    (generated : generate app options = .ok sketch) (name : String) :
    ∃ body, sketch = Plan.heading app.name ++ body ∧
      generate { app with name } options = .ok (Plan.heading name ++ body) := by
  have alike : app.muted = App.muted { app with name } := rfl
  obtain ⟨sketch', body, body', generated', rfl, rfl, woven⟩ := generate_alike alike generated
  obtain rfl := woven.eq_of_eq rfl
  exact ⟨body, rfl, generated'⟩

/-- The lines of code of a sketch are those of the name behind its first line, and then lines that
are the same for all names. So names add none exactly if they have no such lines, and a name of one
line has none. -/
theorem generate_name_lines {app : App} {options : Options} {sketch : String}
    (generated : generate app options = .ok sketch) (name : String) :
    ∃ sketch' code, generate { app with name } options = .ok sketch' ∧
      codeLines sketch = strayLines app.name ++ code ∧ codeLines sketch' = strayLines name ++ code ∧
      (codeLines sketch' = codeLines sketch ↔ strayLines name = strayLines app.name) ∧
      ('\n' ∉ app.name.toList → '\n' ∉ name.toList → codeLines sketch' = codeLines sketch) := by
  obtain ⟨body, rfl, generated'⟩ := generate_renamed generated name
  refine ⟨_, codeLines body, generated', codeLines_heading _ _, codeLines_heading _ _, ?_, ?_⟩
  · rw [codeLines_heading, codeLines_heading]
    exact List.append_left_inj _
  · intro unbroken unbroken'
    rw [codeLines_heading, codeLines_heading, strayLines_of_unbroken unbroken,
      strayLines_of_unbroken unbroken']

/-- A model with one state, in which nothing happens. -/
def resting (name : String) : App where
  name
  bricks := []
  initial := some ⟨"on"⟩
  states := [⟨⟨"on"⟩, [], []⟩]

theorem generate_name_lines_resting :
    ∃ sketch sketch' code, generate (resting "blink") ⟨.uno, 200⟩ = .ok sketch ∧
      generate (resting "a \\ \r// b\n// c\n\td") ⟨.uno, 200⟩ = .ok sketch' ∧
      codeLines sketch = code ∧ codeLines sketch' = "\td".toList :: code := by
  have generated : ∃ sketch, generate (resting "blink") ⟨.uno, 200⟩ = .ok sketch := ⟨_, rfl⟩
  obtain ⟨sketch, generated⟩ := generated
  obtain ⟨sketch', code, generated', eq, eq', _⟩ :=
    generate_name_lines generated "a \\ \r// b\n// c\n\td"
  exact ⟨sketch, sketch', code, generated, generated', eq, eq'⟩

/-- The second line of a name is a line of code. -/
theorem name_line_is_code :
    ∃ sketch sketch', generate (resting "blink") ⟨.uno, 200⟩ = .ok sketch ∧
      generate (resting "blink\nint x;") ⟨.uno, 200⟩ = .ok sketch' ∧
      codeLines sketch' = "int x;".toList :: codeLines sketch := by
  have generated : ∃ sketch, generate (resting "blink") ⟨.uno, 200⟩ = .ok sketch := ⟨_, rfl⟩
  obtain ⟨_, generated⟩ := generated
  obtain ⟨body, rfl, generated'⟩ := generate_renamed generated "blink\nint x;"
  refine ⟨_, _, generated, generated', ?_⟩
  rw [codeLines_heading, codeLines_heading]
  rfl

end Brickwork
