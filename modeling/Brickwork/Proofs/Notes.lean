import Brickwork.Proofs.Frequencies
import Brickwork.Proofs.Numerals
import Brickwork.Sketch.Plan

/-!
# Notes and their frequencies

The texts that name a note: a letter, an accidental or none, and an octave from 0 to 8. Each note is
a key of a keyboard in equal temperament and sounds at the frequency of that key, rounded to whole
hertz. So notes that are the same key sound the same, however they are written.
-/

namespace Brickwork.Note

open Double Text

/-! ## Names -/

/-- The letters of notes, with the semitones from `C` up to them. -/
def scale : List (Char × Nat) :=
  [('C', 0), ('D', 2), ('E', 4), ('F', 5), ('G', 7), ('A', 9), ('B', 11)]

/-- What may stand between letter and octave, with the semitones that it raises a note by. -/
def accidentals : List (List Char × Int) :=
  [([], 0), (['#'], 1), (['s'], 1), (['S'], 1), (['b'], -1)]

/-- The words that name a note. -/
inductive Spelled : List Char → Note → Prop
  | intro {c letter semitone sign shift digits} {octave : Nat} (tone : (letter, semitone) ∈ scale)
      (cased : c = letter ∨ c = letter.toLower) (altered : (sign, shift) ∈ accidentals)
      (number : Signed digits octave) (range : octave ≤ 8) :
      Spelled (c :: (sign ++ digits)) ⟨semitone, shift, octave⟩

/-- A text names a note if it is a word for that note with white space around it. -/
def Names (text : String) (note : Note) : Prop :=
  ∃ word, Padded word text.toList ∧ Spelled word note

/-- Where a note is on the keyboard, on which the `A` of the fourth octave is key 69. -/
def place (note : Note) : Int :=
  12 * (note.octave + 1) + note.semitone + note.shift

/-! ## Reading -/

/-- A letter is its own upper case, or the lower case of that. -/
lemma eq_or_eq_toLower (c : Char) : c = c.toUpper ∨ c = c.toUpper.toLower := by
  by_cases lower : 'a'.val ≤ c.val ∧ c.val ≤ 'z'.val
  · have letters : ∀ n ∈ List.range' 97 26, Char.ofNat n = (Char.ofNat n).toUpper.toLower := by
      decide
    obtain ⟨low, high⟩ : 97 ≤ c.toNat ∧ c.toNat ≤ 122 := lower
    have same := letters c.toNat (List.mem_range'_1.mpr ⟨low, by omega⟩)
    rw [Char.ofNat_toNat] at same
    exact .inr same
  · have same : c.toUpper = c := dif_neg lower
    exact .inl same.symm

lemma semitone?_eq_some_iff {c : Char} {semitone : Nat} :
    semitone? c = some semitone ↔
      ∃ letter, (letter, semitone) ∈ scale ∧ (c = letter ∨ c = letter.toLower) := by
  constructor
  · intro found
    refine ⟨c.toUpper, ?_, eq_or_eq_toLower c⟩
    unfold semitone? at found
    generalize c.toUpper = letter at found
    split at found
    case h_8 => cases found
    all_goals
      cases found
      decide
  · have read : ∀ tone ∈ scale, semitone? tone.1 = some tone.2 ∧
        semitone? tone.1.toLower = some tone.2 := by
      decide
    rintro ⟨letter, tone, rfl | rfl⟩
    · exact (read _ tone).1
    · exact (read _ tone).2

lemma octave?_eq_some_iff {cs : List Char} {octave : Nat} :
    octave? cs = some octave ↔ Signed cs octave ∧ octave ≤ 8 := by
  rw [← signed?_eq_some_iff]
  fun_cases octave? cs with
  | case1 n read range =>
    rw [read]
    obtain ⟨low, high⟩ := range
    have high : n ≤ 8 := high
    simp only [Option.some.injEq]
    omega
  | case2 n read outside =>
    rw [read]
    have outside : ¬(0 ≤ n ∧ n ≤ 8) := outside
    simp only [Option.some.injEq, reduceCtorEq, false_iff]
    omega
  | case3 missing =>
    rw [missing]
    exact iff_of_false nofun nofun

lemma accidental_split (cs : List Char) :
    ∃ sign shift rest, (sign, shift) ∈ accidentals ∧ cs = sign ++ rest ∧
      accidental cs = (shift, rest) := by
  fun_cases accidental cs with
  | case1 rest => exact ⟨['#'], 1, rest, by decide, rfl, rfl⟩
  | case2 rest => exact ⟨['s'], 1, rest, by decide, rfl, rfl⟩
  | case3 rest => exact ⟨['S'], 1, rest, by decide, rfl, rfl⟩
  | case4 rest => exact ⟨['b'], -1, rest, by decide, rfl, rfl⟩
  | case5 => exact ⟨[], 0, cs, by decide, rfl, rfl⟩

/-- An accidental is split off a numeral behind it. -/
lemma accidental_append {sign digits : List Char} {shift z : Int}
    (altered : (sign, shift) ∈ accidentals)
    (number : Signed digits z) : accidental (sign ++ digits) = (shift, digits) := by
  simp only [accidentals, List.mem_cons, Prod.mk.injEq, List.not_mem_nil, or_false] at altered
  obtain ⟨rfl, rfl⟩ | ⟨rfl, rfl⟩ | ⟨rfl, rfl⟩ | ⟨rfl, rfl⟩ | ⟨rfl, rfl⟩ := altered
  · -- no accidental: the numeral must not start with what looks like one
    obtain ⟨c, rest, rfl, numeric⟩ := number.exists_cons
    rw [List.nil_append, accidental]
    all_goals
      rintro _ ⟨⟩
      cases numeric
  all_goals rfl

lemma ofChars?_eq_some_iff {word : List Char} {note : Note} :
    ofChars? word = some note ↔ Spelled word note := by
  constructor
  · fun_cases ofChars? word with
    | case1 => nofun
    | case2 c cs semitone octave number tone =>
      rintro ⟨⟩
      obtain ⟨sign, shift, digits, altered, rfl, eq⟩ := accidental_split cs
      rw [eq] at number ⊢
      obtain ⟨letter, tone, cased⟩ := semitone?_eq_some_iff.mp tone
      obtain ⟨number, range⟩ := octave?_eq_some_iff.mp number
      exact .intro tone cased altered number range
    | case3 => nofun
  · rintro ⟨tone, cased, altered, number, range⟩
    have split := accidental_append altered number
    have first := semitone?_eq_some_iff.mpr ⟨_, tone, cased⟩
    have last := octave?_eq_some_iff.mpr ⟨number, range⟩
    rw [ofChars?, split, first, last]

lemma Spelled.solid {word : List Char} {note : Note} (spelled : Spelled word note) :
    isSolid word = true := by
  have letters : ∀ tone ∈ scale, isSolid [tone.1] = true ∧ isSolid [tone.1.toLower] = true := by
    decide
  have signs : ∀ altered ∈ accidentals, isSolid altered.1 = true := by decide
  obtain @⟨c, letter, semitone, sign, shift, digits, octave, tone, cased, altered, number, _⟩ :=
    spelled
  have first : isSolid [c] = true := by
    obtain rfl | rfl := cased
    · exact (letters _ tone).1
    · exact (letters _ tone).2
  rw [← List.singleton_append]
  simp only [isSolid, List.all_append, Bool.and_eq_true]
  exact ⟨first, signs _ altered, number.solid⟩

lemma Spelled.place_mem {word : List Char} {note : Note} (spelled : Spelled word note) :
    11 ≤ note.place ∧ note.place ≤ 120 := by
  have semitones : ∀ tone ∈ scale, tone.2 ≤ 11 := by decide
  have shifts : ∀ altered ∈ accidentals, -1 ≤ altered.2 ∧ altered.2 ≤ 1 := by decide
  obtain ⟨tone, _, altered, _, range⟩ := spelled
  have semitone := semitones _ tone
  have shift := shifts _ altered
  simp only [place]
  omega

/-! ## What a text sounds like -/

lemma ofText?_eq_some_iff {text : String} {note : Note} :
    ofText? text = some note ↔ Names text note :=
  read_trim_iff ofChars?_eq_some_iff Spelled.solid

lemma ofText?_eq_none {text : String} (unnamed : ¬∃ note, Names text note) :
    ofText? text = none := by
  cases found : ofText? text with
  | none => rfl
  | some note => exact (unnamed ⟨note, ofText?_eq_some_iff.mp found⟩).elim

variable {power : Float → Float → Float}

lemma hertz_of_names {text : String} {note : Note} (names : Names text note) :
    Plan.hertz (.note text) power = .ok (note.hertz power).toNat := by
  rw [Plan.hertz, frequency?, ofText?_eq_some_iff.mpr names]
  rfl

lemma Names.key_eq {text : String} {note : Note} (names : Names text note) :
    (note.key : Int) = note.place ∧ 11 ≤ note.key ∧ note.key ≤ 120 := by
  obtain ⟨word, _, spelled⟩ := names
  obtain ⟨low, high⟩ := spelled.place_mem
  have key : note.key = note.place.toNat := rfl
  omega

/-- A text that names a note sounds at the frequency of that note's key, rounded to whole hertz, if
the power function is accurate. Any other text is reported as it stands, by the check of a model and
by its translation. What texts sound like depends only on their keys. -/
theorem names_sound_nearest (power : Float → Float → Float) (text : String) :
    ((∃ hertz, Plan.hertz (.note text) power = .ok hertz) ↔ ∃ note, Names text note) ∧
    ((¬∃ note, Names text note) →
      Plan.hertz (.note text) power = .error (.unknownNote text) ∧
      ∀ app automaton, App.unmet app automaton (.note text) = some (.unknownNote text)) ∧
    (∀ note, Names text note →
      (∀ app automaton, App.unmet app automaton (.note text) = none) ∧
      (Accurate power → ∃ key hertz : Nat, key = note.place ∧
        Plan.hertz (.note text) power = .ok hertz ∧ Nearest key hertz ∧
        round (pitch key) = hertz)) ∧
    ∀ other note note', Names text note → Names other note' → note.place = note'.place →
      Plan.hertz (.note text) power = Plan.hertz (.note other) power := by
  have unknown (unnamed : ¬∃ note, Names text note) :
      Plan.hertz (.note text) power = .error (.unknownNote text) := by
    rw [Plan.hertz, frequency?, ofText?_eq_none unnamed]
    rfl
  refine ⟨⟨?_, ?_⟩, ?_, ?_, ?_⟩
  · rintro ⟨hertz, sounds⟩
    by_contra unnamed
    rw [unknown unnamed] at sounds
    cases sounds
  · rintro ⟨note, names⟩
    exact ⟨_, hertz_of_names names⟩
  · intro unnamed
    refine ⟨unknown unnamed, fun app automaton => ?_⟩
    rw [App.unmet, ofText?_eq_none unnamed]
    rfl
  · intro note names
    constructor
    · intro app automaton
      rw [App.unmet, ofText?_eq_some_iff.mpr names]
      rfl
    · intro accurate
      obtain ⟨key, low, high⟩ := names.key_eq
      have sounds : (note.hertz power).toNat = nearestHertz note.key :=
        nearestWord_pitch accurate low high
      have nearest := nearest_nearestHertz high
      refine ⟨note.key, nearestHertz note.key, key, ?_, nearest, nearest.round_pitch⟩
      rw [hertz_of_names names, sounds]
  · intro other note note' names names' same
    have key : note.key = note'.key := by
      have key := names.key_eq.1
      have key' := names'.key_eq.1
      omega
    rw [hertz_of_names names, hertz_of_names names', hertz, hertz, key]

/-- The lowest `A` lies half-way between two whole numbers of hertz, and its octave may be written
`-0`. A `B` with a sharp is the `C` of the next octave. A `B` with a flat and no octave is no
note. -/
theorem names_sound_nearest_low :
    (∃ hertz, Plan.hertz (.note "\u3000a-0\n") truncatedPower = .ok hertz ∧ hertz = 28 ∧
      round (pitch 21) = hertz) ∧
    Plan.hertz (.note "B#3") truncatedPower = Plan.hertz (.note " c+04") truncatedPower ∧
    Plan.hertz (.note " bb") truncatedPower = .error (.unknownNote " bb") := by
  refine ⟨?_, ?_, ?_⟩
  · have octave : Digits ['0'] 0 := ⟨by decide, by decide, by decide⟩
    have tone : ('A', 9) ∈ scale := by decide
    have plain : ([], 0) ∈ accidentals := by decide
    have spelled : Spelled ['a', '-', '0'] ⟨9, 0, 0⟩ :=
      .intro tone (.inr (by decide)) plain (.minus octave) (Nat.zero_le 8)
    have names : Names "\u3000a-0\n" ⟨9, 0, 0⟩ :=
      ⟨_, ⟨['\u3000'], ['\n'], by decide, by decide, by decide⟩, spelled⟩
    obtain ⟨_, sounds⟩ := (names_sound_nearest truncatedPower "\u3000a-0\n").2.2.1 _ names
    obtain ⟨key, hertz, place, sounds, _, rounded⟩ := sounds accurate_truncatedPower
    obtain rfl : key = 21 := Int.ofNat.inj place
    have nearest : Nearest 21 28 := by constructor <;> decide
    refine ⟨hertz, sounds, ?_, rounded⟩
    exact_mod_cast rounded.symm.trans nearest.round_pitch
  · have sharp : Names "B#3" ⟨11, 1, 3⟩ := ofText?_eq_some_iff.mp (by decide)
    have plain : Names " c+04" ⟨0, 0, 4⟩ := ofText?_eq_some_iff.mp (by decide)
    exact (names_sound_nearest truncatedPower "B#3").2.2.2 _ _ _ sharp plain (by decide)
  · refine ((names_sound_nearest truncatedPower " bb").2.1 ?_).1
    rintro ⟨note, names⟩
    have missing : ofText? " bb" = none := by decide
    cases missing.symm.trans (ofText?_eq_some_iff.mpr names)

end Brickwork.Note
