import Brickwork.Proofs.Firmware.Token

/-!
# Quoted texts

A text that is quoted for generated code is read back as it was, whatever follows it. The quote that
ends the literal is the first that could end it: nothing shorter is a literal. Quoting leaves no
control characters, so that a literal never breaks a line.
-/

namespace Brickwork.Firmware

open Code

/-- The text of the string literal at the front of a text, and what stands behind the literal. -/
def string? : List Char → Option (String × List Char)
  | '"' :: cs => literal? cs
  | _ => none

/-! ## Where a literal ends -/

/-- What stands behind the quote that ends a literal is not looked at. -/
lemma quoted?_append {cs inside rest : List Char} (more : List Char)
    (read : quoted? cs = some (inside, rest)) :
    quoted? (cs ++ more) = some (inside, rest ++ more) := by
  fun_induction quoted? cs generalizing inside rest with
  | case1 => cases read
  | case2 cs =>
    cases read
    rfl
  | case3 c cs ih =>
    obtain ⟨_, later, eq⟩ := Option.map_eq_some_iff.mp read
    cases eq
    rw [List.cons_append, List.cons_append, quoted?, ih later]
    rfl
  | case4 cs => cases read
  | case5 c cs quote escape newline ih =>
    obtain ⟨_, later, eq⟩ := Option.map_eq_some_iff.mp read
    cases eq
    rw [List.cons_append, quoted?, if_neg newline, ih later]
    · rfl
    · exact quote
    · -- a backslash here would be the last character, and then there is no quote behind it
      intro d tail backslash _
      cases cs with
      | nil => cases later
      | cons e cs => exact escape e cs backslash rfl

lemma string?_append {cs rest : List Char} {content : String} (more : List Char)
    (read : string? cs = some (content, rest)) :
    string? (cs ++ more) = some (content, rest ++ more) := by
  fun_cases string? cs with
  | case1 cs =>
    rw [string?, literal?] at read
    cases ends : quoted? cs with
    | none =>
      rw [ends] at read
      cases read
    | some both =>
      obtain ⟨inside, behind⟩ := both
      rw [ends] at read
      obtain ⟨chars, spelled, eq⟩ := Option.map_eq_some_iff.mp read
      cases eq
      rw [List.cons_append, string?, literal?, quoted?_append more ends]
      simp only [spelled, Option.map_some]
  | case2 cs other =>
    rw [string?] at read
    · cases read
    · exact other

/-! ## What stands in a literal -/

lemma isControl_eq_false {c : Char} : isControl c = false ↔ 0x20 ≤ c.toNat ∧ c.toNat ≠ 0x7f := by
  simp [isControl]

/-- No control character stands for a character in a literal. -/
lemma isControl_literalChar (c : Char) : ∀ d ∈ literalChar c, isControl d = false := by
  -- digits come behind the first control characters and before the last one
  have digit (n : Nat) : isControl (octalDigit n) = false := by
    obtain ⟨octal, _⟩ := octalDigit_eq n
    obtain ⟨low, high⟩ : '0' ≤ octalDigit n ∧ octalDigit n ≤ '7' := by
      simpa only [isOctal, Bool.and_eq_true, decide_eq_true_eq] using octal
    have low : 0x30 ≤ (octalDigit n).toNat := low
    have high : (octalDigit n).toNat ≤ 0x37 := high
    rw [isControl_eq_false]
    omega
  fun_cases literalChar c with
  | case6 quote backslash newline return' tab control =>
    simp only [List.forall_mem_cons, digit, List.not_mem_nil, false_implies, implies_true, and_true]
    rfl
  | case7 quote backslash newline return' tab plain =>
    rw [List.forall_mem_singleton]
    exact Bool.eq_false_iff.mpr plain
  | _ =>
    rw [List.forall_mem_cons, List.forall_mem_singleton]
    exact ⟨rfl, rfl⟩

end Brickwork.Firmware

namespace Brickwork

open Code Firmware

/-- A quoted text is read back, with any text behind it, up to its end and no further; no text that
breaks off within it is a literal; and none of its characters is a control character. -/
theorem literal_reads_back (content : String) :
    (∀ rest : String, string? (literal content ++ rest).toList = some (content, rest.toList)) ∧
    (∀ front, front <+: (literal content).toList → front ≠ (literal content).toList →
      string? front = none) ∧
    ∀ c ∈ (literal content).toList, 0x20 ≤ c.toNat ∧ c.toNat ≠ 0x7f := by
  have chars : (literal content).toList = '"' :: (content.toList.flatMap literalChar ++ ['"']) := by
    rw [literal, String.toList_ofList, literalChars, List.cons_append]
  have read (rest : List Char) : string? ((literal content).toList ++ rest) =
      some (content, rest) := by
    rw [chars, List.cons_append, List.append_assoc, List.singleton_append, string?,
      literal?_literal, String.ofList_toList]
  refine ⟨?_, ?_, ?_⟩
  · intro rest
    rw [String.toList_append]
    exact read rest.toList
  · rintro front ⟨back, whole⟩ shorter
    cases found : string? front with
    | none => rfl
    | some both =>
      -- what is read of a part is also read of the whole, and leaves the rest of the whole behind
      obtain ⟨other, behind⟩ := both
      have early := string?_append back found
      have late := read []
      rw [List.append_nil, ← whole, early] at late
      obtain ⟨_, nothing⟩ := Prod.mk.inj (Option.some.inj late)
      obtain ⟨_, rfl⟩ := List.append_eq_nil_iff.mp nothing
      exact (shorter (by rw [← whole, List.append_nil])).elim
  · intro c mem
    rw [chars, List.mem_cons, List.mem_append, List.mem_flatMap, List.mem_singleton] at mem
    rcases mem with rfl | ⟨d, _, mem⟩ | rfl
    · decide
    · exact isControl_eq_false.mp (isControl_literalChar d c mem)
    · decide

/-- A bell in front of a digit, a quote behind a backslash, and a character beyond ASCII. -/
theorem literal_reads_back_bell :
    string? (literal "\x077\\\"é" ++ "\"1").toList = some ("\x077\\\"é", ['"', '1']) ∧
      string? (literal "\x077\\\"é").toList.dropLast = none := by
  obtain ⟨read, early, _⟩ := literal_reads_back "\x077\\\"é"
  refine ⟨read "\"1", early _ (List.dropLast_prefix _) ?_⟩
  intro eq
  have length := congrArg List.length eq
  simp [literal, literalChars] at length

end Brickwork
