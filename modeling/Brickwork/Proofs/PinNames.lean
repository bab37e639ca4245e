import Brickwork.Pin
import Brickwork.Proofs.Numerals

/-!
# Names of pins

The texts that name a pin: a number of at most one byte, behind the letter of its kind, which a
digital pin need not have. Reading accepts these and no others, and so it reads a pin back from both
ways to write it.
-/

namespace Brickwork.Pin

open Text

/-- The number of a pin among those of its kind. -/
def number : Pin → Nat
  | digital n => n
  | analog n => n

/-- What may stand in front of the number of a digital pin. -/
def digitalLetters : List (List Char) :=
  [[], ['D'], ['d']]

/-- The words that name a pin. -/
inductive Spelled : List Char → Pin → Prop
  | analog {letter digits n} (kind : letter = 'A' ∨ letter = 'a') (number : Unsigned digits n)
      (fits : n ≤ 255) : Spelled (letter :: digits) (.analog n)
  | digital {letters digits n} (kind : letters ∈ digitalLetters) (number : Unsigned digits n)
      (fits : n ≤ 255) : Spelled (letters ++ digits) (.digital n)

/-! ## Reading -/

lemma spelled_of_ofChars? {word : List Char} {pin : Pin} :
    ofChars? word = some pin → Spelled word pin := by
  have number {cs : List Char} {kind : Nat → Pin}
      (read : (unsigned? maxNumber cs).map kind = some pin) :
      ∃ n, pin = kind n ∧ Unsigned cs n ∧ n ≤ 255 := by
    obtain ⟨n, found, rfl⟩ := Option.map_eq_some_iff.mp read
    obtain ⟨number, fits⟩ := unsigned?_eq_some_iff.mp found
    exact ⟨n, rfl, number, fits⟩
  fun_cases ofChars? word with
  | case1 => nofun
  | case2 c cs kind =>
    intro read
    obtain ⟨n, rfl, number, fits⟩ := number read
    exact .analog kind number fits
  | case3 c cs _ kind =>
    intro read
    obtain ⟨n, rfl, number, fits⟩ := number read
    have kind : [c] ∈ digitalLetters := by rcases kind with rfl | rfl <;> decide
    exact .digital kind number fits
  | case4 c cs _ _ =>
    intro read
    obtain ⟨n, rfl, number, fits⟩ := number read
    have kind : [] ∈ digitalLetters := List.mem_cons_self
    exact .digital kind number fits

lemma ofChars?_of_spelled {word : List Char} {pin : Pin} (spelled : Spelled word pin) :
    ofChars? word = some pin := by
  cases spelled with
  | @analog letter digits n kind number fits =>
    have read : unsigned? maxNumber digits = some n := unsigned?_eq_some_iff.mpr ⟨number, fits⟩
    rw [ofChars?, if_pos kind, read, Option.map_some]
  | @digital letters digits n kind number fits =>
    have read : unsigned? maxNumber digits = some n := unsigned?_eq_some_iff.mpr ⟨number, fits⟩
    simp only [digitalLetters, List.mem_cons, List.not_mem_nil, or_false] at kind
    obtain rfl | rfl | rfl := kind
    · -- a number does not start with a letter
      obtain ⟨c, rest, rfl, numeric⟩ := (Signed.unsigned number).exists_cons
      have analog : ¬(c = 'A' ∨ c = 'a') := by rintro (rfl | rfl) <;> cases numeric
      have digital : ¬(c = 'D' ∨ c = 'd') := by rintro (rfl | rfl) <;> cases numeric
      rw [List.nil_append, ofChars?, if_neg analog, if_neg digital, read, Option.map_some]
    · rw [List.singleton_append, ofChars?, if_neg (by decide), if_pos (by decide), read,
        Option.map_some]
    · rw [List.singleton_append, ofChars?, if_neg (by decide), if_pos (by decide), read,
        Option.map_some]

/-- There are no blanks in the name of a pin. -/
lemma Spelled.solid {word : List Char} {pin : Pin} (spelled : Spelled word pin) :
    isSolid word = true := by
  cases spelled with
  | analog kind number _ =>
    have digits := (Signed.unsigned number).solid
    obtain rfl | rfl := kind
    · exact digits
    · exact digits
  | digital kind number _ =>
    have letters : ∀ letters ∈ digitalLetters, isSolid letters = true := by decide
    rw [isSolid, List.all_append, Bool.and_eq_true]
    exact ⟨letters _ kind, (Signed.unsigned number).solid⟩

lemma parse_eq_ok_iff {text : String} {pin : Pin} :
    parse text = .ok pin ↔ ∃ word, Padded word text.toList ∧ Spelled word pin := by
  rw [← read_trim_iff ⟨spelled_of_ofChars?, ofChars?_of_spelled⟩ Spelled.solid]
  fun_cases parse text with
  | case1 found read => rw [read, Except.ok.injEq, Option.some.injEq]
  | case2 missing =>
    rw [missing]
    exact iff_of_false nofun nofun

lemma parse_eq_error_iff {text : String} {bad : BadPin} :
    parse text = .error bad ↔ bad = ⟨text⟩ ∧ ∀ pin, parse text ≠ .ok pin := by
  fun_cases parse text with
  | case1 found read => exact ⟨nofun, fun refused => (refused.2 found rfl).elim⟩
  | case2 missing =>
    constructor
    · rintro ⟨⟩
      exact ⟨rfl, nofun⟩
    · rintro ⟨rfl, _⟩
      rfl

lemma parse_padded {front back word : String} {pin : Pin} (before : front.toList ⊆ whiteSpace)
    (behind : back.toList ⊆ whiteSpace) (spelled : Spelled word.toList pin) :
    parse (front ++ word ++ back) = .ok pin := by
  refine parse_eq_ok_iff.mpr ⟨word.toList, ⟨front.toList, back.toList, before, behind, ?_⟩, spelled⟩
  rw [String.toList_append, String.toList_append]

/-! ## Writing -/

lemma spelled_code {pin : Pin} (fits : pin.number ≤ 255) : Spelled pin.code.toList pin := by
  cases pin with
  | digital n =>
    have kind : [] ∈ digitalLetters := List.mem_cons_self
    exact .digital kind (.plain (digits_decimal n)) fits
  | analog n =>
    rw [code, String.toList_append]
    exact .analog (.inl rfl) (.plain (digits_decimal n)) fits

lemma spelled_label {pin : Pin} (fits : pin.number ≤ 255) : Spelled pin.label.toList pin := by
  cases pin with
  | digital n =>
    have kind : ['D'] ∈ digitalLetters := by decide
    rw [label, String.toList_append]
    exact .digital kind (.plain (digits_decimal n)) fits
  | analog n => exact spelled_code fits

/-- A text is read as a pin exactly if it is a name of that pin with white space around it, and a
text that names no pin is refused as it stands. So a pin is read back from its label and from its
code. -/
theorem parse_reads_names :
    (∀ text pin, parse text = .ok pin ↔ ∃ word, Padded word text.toList ∧ Spelled word pin) ∧
    (∀ text bad, parse text = .error bad ↔
      bad = ⟨text⟩ ∧ ∀ word pin, Padded word text.toList → ¬Spelled word pin) ∧
    ∀ (pin : Pin) (front back : String), pin.number ≤ 255 →
      front.toList ⊆ whiteSpace → back.toList ⊆ whiteSpace →
      parse (front ++ pin.label ++ back) = .ok pin ∧
      parse (front ++ pin.code ++ back) = .ok pin := by
  refine ⟨?_, ?_, ?_⟩
  · intro text pin
    exact parse_eq_ok_iff
  · intro text bad
    rw [parse_eq_error_iff]
    refine and_congr_right fun _ => ⟨?_, ?_⟩
    · intro refused word pin padded spelled
      exact refused pin (parse_eq_ok_iff.mpr ⟨word, padded, spelled⟩)
    · intro unnamed pin read
      obtain ⟨word, padded, spelled⟩ := parse_eq_ok_iff.mp read
      exact unnamed word pin padded spelled
  · intro pin front back fits before behind
    exact ⟨parse_padded before behind (spelled_label fits),
      parse_padded before behind (spelled_code fits)⟩

/-- A sign behind the letter, zeros in front of the number and wide blanks around it; and the
largest number. -/
theorem parse_reads_names_padded :
    parse "\u3000d+0013\n" = .ok (.digital 13) ∧ parse "\u2003A255\u0085" = .ok (.analog 255) := by
  obtain ⟨accepts, _, back⟩ := parse_reads_names
  constructor
  · have number : Unsigned "+0013".toList 13 := .plus ⟨by decide, by decide, by decide⟩
    refine (accepts _ _).mpr
      ⟨"d+0013".toList, ⟨['\u3000'], ['\n'], by decide, by decide, by decide⟩, ?_⟩
    have kind : ['d'] ∈ digitalLetters := by decide
    exact .digital kind number (by decide)
  · exact (back (.analog 255) "\u2003" "\u0085" (by decide) (by decide) (by decide)).1

end Brickwork.Pin
