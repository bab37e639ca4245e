import Brickwork.Note
import Brickwork.Proofs.Doubles

/-!
# Frequencies of keys

The frequency of a key of a keyboard in equal temperament, to the nearest whole hertz. It is
specified in whole numbers, with the twelfth powers of frequencies, and found there by a search.
What is computed with floating point numbers is the same, whatever accurate power function is used:
quotient, power and product are off by little, and all frequencies but one keep well away from half
hertz. The lowest `A` lies at 27.5 Hz, and there the computation is exact.
-/

namespace Brickwork.Note

open Decimal (Parts)
open Double

/-! ## Whole hertz -/

/-- Whether the frequency of a key is at least `hertz` less a half. -/
def reaches (key hertz : Nat) : Bool :=
  (2 * hertz - 1) ^ 12 * 2 ^ 69 ≤ 880 ^ 12 * 2 ^ key

/-- Finds the largest frequency that a key reaches, from the highest of so many binary digits
down. -/
def hertzFrom (key : Nat) : Nat → Nat → Nat
  | 0, hertz => hertz
  | bits + 1, hertz =>
    if reaches key (hertz + 2 ^ bits) then hertzFrom key bits (hertz + 2 ^ bits)
    else hertzFrom key bits hertz

/-- The whole number of hertz nearest to the frequency of a key, for a key that is not too high. -/
def nearestHertz (key : Nat) : Nat :=
  hertzFrom key 14 0

/-- The search keeps a frequency that is reached below one that is not, at half the distance. -/
lemma hertzFrom_between {key bits hertz : Nat} (low : reaches key hertz = true)
    (high : reaches key (hertz + 2 ^ bits) = false) :
    reaches key (hertzFrom key bits hertz) = true ∧
      reaches key (hertzFrom key bits hertz + 1) = false := by
  induction bits generalizing hertz with
  | zero => exact ⟨low, high⟩
  | succ bits ih =>
    rw [hertzFrom]
    cases middle : reaches key (hertz + 2 ^ bits) with
    | true =>
      rw [if_pos rfl]
      apply ih middle
      rw [Nat.add_assoc, ← Nat.two_mul, ← Nat.pow_succ']
      exact high
    | false =>
      rw [if_neg Bool.false_ne_true]
      exact ih low middle

lemma hertzFrom_lt (key bits hertz : Nat) : hertzFrom key bits hertz < hertz + 2 ^ bits := by
  induction bits generalizing hertz with
  | zero => exact Nat.lt_succ_self hertz
  | succ bits ih =>
    rw [hertzFrom, Nat.pow_succ]
    split
    · have := ih (hertz + 2 ^ bits)
      omega
    · have := ih hertz
      omega

/-- A number of hertz is nearest to the frequency of a key if that lies at most half a hertz below
it, or less than half a hertz above it. Doubled and raised to the twelfth power, frequencies are
compared in whole numbers. -/
structure Nearest (key hertz : Nat) : Prop where
  positive : 0 < hertz
  above : (2 * hertz - 1) ^ 12 * 2 ^ 69 ≤ 880 ^ 12 * 2 ^ key
  below : 880 ^ 12 * 2 ^ key < (2 * hertz + 1) ^ 12 * 2 ^ 69

lemma nearest_nearestHertz {key : Nat} (range : key ≤ 120) : Nearest key (nearestHertz key) := by
  have start : reaches key 0 = true := decide_eq_true (Nat.zero_le _)
  have one : reaches key 1 = true := by
    rw [reaches, decide_eq_true_eq]
    calc (2 * 1 - 1) ^ 12 * 2 ^ 69 ≤ 880 ^ 12 * 1 := by norm_num
      _ ≤ 880 ^ 12 * 2 ^ key := Nat.mul_le_mul_left _ Nat.one_le_two_pow
  have stop : reaches key (0 + 2 ^ 14) = false := by
    rw [reaches, decide_eq_false_iff_not, Nat.not_le]
    calc 880 ^ 12 * 2 ^ key ≤ 880 ^ 12 * 2 ^ 120 :=
          Nat.mul_le_mul_left _ (Nat.pow_le_pow_right Nat.two_pos range)
      _ < (2 * (0 + 2 ^ 14) - 1) ^ 12 * 2 ^ 69 := by norm_num
  obtain ⟨reached, beyond⟩ := hertzFrom_between start stop
  refine ⟨?_, of_decide_eq_true reached, ?_⟩
  · rw [Nat.pos_iff_ne_zero]
    intro zero
    rw [show hertzFrom key 14 0 = 0 from zero, one] at beyond
    cases beyond
  · exact Nat.lt_of_not_le (of_decide_eq_false beyond)

/-- The frequency of a key in equal temperament. -/
noncomputable def pitch (key : Nat) : ℝ :=
  440 * (2 : ℕ) ^ (((key : ℝ) - 69) / 12)

lemma pitch_eq (key : Nat) : pitch key = 440 * 2 ^ (((key : ℝ) - 69) / 12) := by
  rw [pitch, Nat.cast_ofNat]

lemma pitch_pos (key : Nat) : 0 < pitch key := by
  rw [pitch_eq]
  positivity

/-- The twelfth power of a frequency is rational. -/
lemma pitch_pow (key : Nat) : (2 * pitch key) ^ 12 * 2 ^ 69 = 880 ^ 12 * 2 ^ key := by
  have octaves : ((2 : ℝ) ^ (((key : ℝ) - 69) / 12)) ^ 12 * 2 ^ 69 = 2 ^ key := by
    rw [← Real.rpow_natCast, ← Real.rpow_mul zero_le_two, ← Real.rpow_natCast,
      ← Real.rpow_natCast, ← Real.rpow_add zero_lt_two]
    congr 1
    push_cast
    ring
  calc (2 * pitch key) ^ 12 * 2 ^ 69
      = 880 ^ 12 * (((2 : ℝ) ^ (((key : ℝ) - 69) / 12)) ^ 12 * 2 ^ 69) := by
        rw [pitch_eq]
        ring
    _ = 880 ^ 12 * 2 ^ key := by rw [octaves]

/-- Frequencies are compared by their twelfth powers, also when they are scaled. -/
lemma le_pitch_iff {key a b : Nat} :
    (a : ℝ) ≤ b * (2 * pitch key) ↔ a ^ 12 * 2 ^ 69 ≤ b ^ 12 * (880 ^ 12 * 2 ^ key) := by
  have scaled : 0 ≤ b * (2 * pitch key) := by
    have := pitch_pos key
    positivity
  rw [← pow_le_pow_iff_left₀ a.cast_nonneg scaled (by decide : 12 ≠ 0),
    ← mul_le_mul_iff_left₀ (show (0 : ℝ) < 2 ^ 69 by positivity), mul_pow, mul_assoc, pitch_pow]
  norm_cast

/-- A frequency that is nearest is the real one, rounded. -/
lemma Nearest.round_pitch {key hertz : Nat} (nearest : Nearest key hertz) :
    round (pitch key) = hertz := by
  have positive := nearest.positive
  have above : ((2 * hertz - 1 : Nat) : ℝ) ≤ (1 : Nat) * (2 * pitch key) := by
    rw [le_pitch_iff, one_pow, one_mul]
    exact nearest.above
  have below : ¬((2 * hertz + 1 : Nat) : ℝ) ≤ (1 : Nat) * (2 * pitch key) := by
    rw [le_pitch_iff, one_pow, one_mul, Nat.not_le]
    exact nearest.below
  rw [Nat.cast_sub (by omega)] at above
  rw [not_le] at below
  push_cast at above below
  rw [round_eq_iff, Set.mem_Ico]
  push_cast
  constructor <;> linarith

/-! ## Rounding -/

lemma nearestWhole_eq {m whole : Nat} {q : Int} (low : (whole : ℝ) - 1 / 2 ≤ m * 2 ^ q)
    (high : (m : ℝ) * 2 ^ q < whole + 1 / 2) : nearestWhole m q = whole := by
  have unit : (0 : ℝ) < 2 ^ (-q).toNat := by positivity
  have split : (m : ℝ) * 2 ^ q * 2 ^ (-q).toNat = m * 2 ^ q.toNat := by
    rw [mul_assoc, ← zpow_natCast, ← zpow_natCast, ← zpow_add₀ two_ne_zero]
    congr 2
    omega
  have low := mul_le_mul_of_nonneg_right low unit.le
  have high := mul_lt_mul_of_pos_right high unit
  rw [split] at low high
  have low : 2 * whole * 2 ^ (-q).toNat ≤ 2 * m * 2 ^ q.toNat + 2 ^ (-q).toNat := by
    have low : (2 * whole * 2 ^ (-q).toNat : ℝ) ≤ 2 * m * 2 ^ q.toNat + 2 ^ (-q).toNat := by
      linarith
    exact_mod_cast low
  have high : 2 * m * 2 ^ q.toNat < 2 * whole * 2 ^ (-q).toNat + 2 ^ (-q).toNat := by
    have high : (2 * m * 2 ^ q.toNat : ℝ) < 2 * whole * 2 ^ (-q).toNat + 2 ^ (-q).toNat := by
      linarith
    exact_mod_cast high
  rw [nearestWhole, Nat.pow_eq, Nat.pow_eq]
  apply Nat.div_eq_of_lt_le <;> linarith

/-- A number that is less than a half away from a whole one becomes that, and so does a half below
it. -/
lemma nearestWord_eq {x : Float} {whole : Nat} (finite : IsFinite x) (positive : 0 < whole)
    (small : whole < UInt32.size) (low : (whole : ℝ) - 1 / 2 ≤ value x)
    (high : value x < whole + 1 / 2) : (nearestWord x).toNat = whole := by
  obtain ⟨negative, m, q, narrow, parts⟩ := finite
  rw [value_eq parts] at low high
  have unit : (0 : ℝ) < 2 ^ q := by positivity
  have half : (1 : ℝ) ≤ whole := by exact_mod_cast positive
  cases negative with
  | true =>
    rw [if_pos rfl] at low
    have below : -(m : ℝ) * 2 ^ q ≤ 0 :=
      mul_nonpos_of_nonpos_of_nonneg (neg_nonpos.mpr m.cast_nonneg) unit.le
    linarith
  | false =>
    rw [if_neg Bool.false_ne_true] at low high
    rw [nearestWord, parts]
    show (UInt32.ofNatClamp (nearestWhole m q)).toNat = whole
    rw [nearestWhole_eq low high, UInt32.ofNatClamp, dif_pos small]
    rfl

/-! ## Quotients, powers and products -/

/-- The exponent of a key, as it is computed. -/
def steps (key : Nat) : Float :=
  Float.ofInt (key - 69) / 12

/-- Whether a number is a twelfth of a whole one, up to `1 / 2 ^ 47`. -/
def isTwelfth (n : Int) : Parts → Bool
  | .finite negative m q _ =>
    q ≤ 0 ∧ |12 * (if negative then -(m : Int) else m) - n * 2 ^ (-q).toNat| * 2 ^ 47 ≤
      2 ^ (-q).toNat
  | _ => false

lemma isTwelfth_steps {key : Nat} (low : 11 ≤ key) (high : key ≤ 120) :
    isTwelfth (key - 69) (Parts.ofFloat (steps key)) = true := by
  have keys : ((List.range' 11 110).all fun key =>
      isTwelfth (key - 69) (Parts.ofFloat (steps key))) = true := by
    decide +kernel
  exact List.all_eq_true.mp keys key (List.mem_range'_1.mpr ⟨low, by omega⟩)

lemma value_of_isTwelfth {x : Float} {n : Int} (twelfth : isTwelfth n (Parts.ofFloat x) = true) :
    IsFinite x ∧ |value x - n / 12| ≤ 1 / 2 ^ 47 := by
  cases parts : Parts.ofFloat x with
  | nan =>
    rw [parts] at twelfth
    cases twelfth
  | infinite =>
    rw [parts] at twelfth
    cases twelfth
  | finite negative m q narrow =>
    rw [parts, isTwelfth, decide_eq_true_eq] at twelfth
    obtain ⟨fraction, near⟩ := twelfth
    refine ⟨⟨_, _, _, _, parts⟩, ?_⟩
    generalize digits : (if negative then -(m : Int) else m) = z at near
    have unit : (0 : ℝ) < 2 ^ (-q).toNat := by positivity
    have scaled : value x * 2 ^ (-q).toNat = z := by
      rw [value_eq parts, ← digits, mul_assoc, ← zpow_natCast, ← zpow_add₀ two_ne_zero,
        Int.toNat_of_nonneg (by omega), add_neg_cancel, zpow_zero, mul_one]
      push_cast
      rfl
    have near : |12 * (z : ℝ) - n * 2 ^ (-q).toNat| * 2 ^ 47 ≤ 2 ^ (-q).toNat := by
      exact_mod_cast near
    rw [← scaled, show 12 * (value x * 2 ^ (-q).toNat) - n * 2 ^ (-q).toNat =
      12 * (value x - n / 12) * 2 ^ (-q).toNat by ring, abs_mul, abs_mul, abs_of_pos unit] at near
    have whole : |(12 : ℝ)| = 12 := abs_of_pos (by norm_num)
    rw [whole] at near
    have near : 12 * |value x - n / 12| * 2 ^ 47 ≤ 1 := by
      apply le_of_mul_le_mul_right _ unit
      linarith
    have := abs_nonneg (value x - n / 12)
    rw [le_div_iff₀ (by positivity)]
    linarith

lemma rpow_near {v k : ℝ} (near : |v - k| ≤ 1 / 2 ^ 47) :
    |(2 : ℝ) ^ v - 2 ^ k| ≤ 2 ^ k / 2 ^ 46 := by
  have power : (0 : ℝ) < 2 ^ k := by positivity
  have shift : |Real.log 2 * (v - k)| ≤ 1 / 2 ^ 47 := by
    have log_pos : 0 < Real.log 2 := Real.log_pos one_lt_two
    have log_small : Real.log 2 ≤ 1 := by linarith [Real.log_two_lt_d9]
    rw [abs_mul, abs_of_pos log_pos]
    calc Real.log 2 * |v - k| ≤ 1 * |v - k| := by gcongr
      _ ≤ 1 / 2 ^ 47 := by rwa [one_mul]
  have ratio : |(2 : ℝ) ^ (v - k) - 1| ≤ 1 / 2 ^ 46 := by
    rw [Real.rpow_def_of_pos two_pos]
    have tiny : (1 : ℝ) / 2 ^ 47 ≤ 1 := by norm_num
    have step := Real.abs_exp_sub_one_le (shift.trans tiny)
    linarith
  have split : (2 : ℝ) ^ v - 2 ^ k = 2 ^ k * (2 ^ (v - k) - 1) := by
    rw [mul_sub, mul_one, ← Real.rpow_add two_pos, add_sub_cancel]
  rw [split, abs_mul, abs_of_pos power, div_eq_mul_one_div]
  gcongr

lemma value_two : IsFinite 2 ∧ value 2 = 2 := by
  have parts : Parts.ofFloat 2 = .finite false (2 ^ 52) (-51) true := by decide +kernel
  refine ⟨⟨_, _, _, _, parts⟩, ?_⟩
  rw [value_eq parts, if_neg Bool.false_ne_true]
  norm_num

lemma value_two_pos : 0 < value 2 := by
  rw [value_two.2]
  exact two_pos

lemma value_440 : IsFinite 440 ∧ value 440 = 440 := by
  have parts : Parts.ofFloat 440 = .finite false (440 * 2 ^ 44) (-44) false := by decide +kernel
  refine ⟨⟨_, _, _, _, parts⟩, ?_⟩
  rw [value_eq parts, if_neg Bool.false_ne_true]
  norm_num

variable {power : Float → Float → Float} {key : Nat}

lemma interval_bounds (low : 11 ≤ key) (high : key ≤ 120) :
    1 / 2 ^ 5 ≤ (2 : ℝ) ^ (((key : ℝ) - 69) / 12) ∧ (2 : ℝ) ^ (((key : ℝ) - 69) / 12) ≤ 2 ^ 5 := by
  have low : (11 : ℝ) ≤ key := by exact_mod_cast low
  have high : (key : ℝ) ≤ 120 := by exact_mod_cast high
  constructor
  · calc (1 : ℝ) / 2 ^ 5 = 2 ^ (-5 : ℝ) := by
          rw [Real.rpow_neg zero_le_two, one_div]
          norm_cast
      _ ≤ 2 ^ (((key : ℝ) - 69) / 12) := by
          apply Real.rpow_le_rpow_of_exponent_le one_le_two
          linarith
  · calc (2 : ℝ) ^ (((key : ℝ) - 69) / 12) ≤ 2 ^ (5 : ℝ) := by
          apply Real.rpow_le_rpow_of_exponent_le one_le_two
          linarith
      _ = 2 ^ 5 := by norm_cast

/-- Numbers of moderate size lie in the range of which powers and products are known. -/
lemma moderate {r : ℝ} (low : 1 / 2 ^ 10 ≤ r) (high : r ≤ 2 ^ 10) :
    2 ^ (-200 : ℤ) ≤ r ∧ r ≤ 2 ^ (200 : ℤ) := by
  constructor
  · calc (2 : ℝ) ^ (-200 : ℤ) ≤ 2 ^ (-10 : ℤ) := zpow_le_zpow_right₀ one_le_two (by norm_num)
      _ = 1 / 2 ^ 10 := by norm_num
      _ ≤ r := low
  · calc r ≤ 2 ^ 10 := high
      _ = 2 ^ (10 : ℤ) := by norm_num
      _ ≤ 2 ^ (200 : ℤ) := zpow_le_zpow_right₀ one_le_two (by norm_num)

/-- The computed power is close to the ratio of the key's frequency to 440 Hz. -/
lemma power_near (accurate : Accurate power) (low : 11 ≤ key) (high : key ≤ 120) :
    IsFinite (power 2 (steps key)) ∧
      |value (power 2 (steps key)) - 2 ^ (((key : ℝ) - 69) / 12)| ≤
        2 ^ (((key : ℝ) - 69) / 12) / 2 ^ 45 := by
  obtain ⟨finite, near⟩ := value_of_isTwelfth (isTwelfth_steps low high)
  push_cast at near
  have near := rpow_near near
  obtain ⟨least, most⟩ := interval_bounds low high
  generalize (2 : ℝ) ^ (((key : ℝ) - 69) / 12) = ratio at *
  obtain ⟨finite_two, two⟩ := value_two
  rw [abs_le] at near
  obtain ⟨within, within'⟩ := moderate (r := 2 ^ value (steps key)) (by linarith) (by linarith)
  have base : (2 : ℝ) ^ value (steps key) = value 2 ^ value (steps key) := by rw [two]
  rw [base] at within within'
  obtain ⟨finite', near'⟩ := accurate.near finite_two finite value_two_pos within within'
  rw [two, abs_le] at near'
  refine ⟨finite', ?_⟩
  rw [abs_le]
  constructor <;> linarith

/-- The computed frequency is close to the real one. -/
lemma product_near (accurate : Accurate power) (low : 11 ≤ key) (high : key ≤ 120) :
    IsFinite (440 * power 2 (steps key)) ∧
      |value (440 * power 2 (steps key)) - pitch key| ≤ pitch key / 2 ^ 44 := by
  obtain ⟨finite, near⟩ := power_near accurate low high
  obtain ⟨least, most⟩ := interval_bounds low high
  obtain ⟨finite_440, tuning⟩ := value_440
  rw [pitch_eq]
  generalize (2 : ℝ) ^ (((key : ℝ) - 69) / 12) = ratio at *
  rw [abs_le] at near
  obtain ⟨within, within'⟩ :=
    moderate (r := value (power 2 (steps key))) (by linarith) (by linarith)
  obtain ⟨within_440, within_440'⟩ :=
    moderate (r := value 440) (by norm_num [tuning]) (by norm_num [tuning])
  obtain ⟨finite', near'⟩ := finite_440.mul finite within_440 within_440' within within'
  rw [tuning, abs_le] at near'
  refine ⟨finite', ?_⟩
  rw [abs_le]
  constructor <;> linarith

/-! ## What is computed -/

/-- Whether the frequency of a key stays the nearest to the same whole number if it is off by a
share of `1 / 2 ^ 44`. -/
def isClear (key : Nat) : Bool :=
  ((2 * nearestHertz key - 1) * 2 ^ 44) ^ 12 * 2 ^ 69 ≤
      (2 ^ 44 - 1) ^ 12 * (880 ^ 12 * 2 ^ key) ∧
    (2 ^ 44 + 1) ^ 12 * (880 ^ 12 * 2 ^ key) <
      ((2 * nearestHertz key + 1) * 2 ^ 44) ^ 12 * 2 ^ 69

lemma isClear_of_ne (low : 11 ≤ key) (high : key ≤ 120) (other : key ≠ 21) :
    isClear key = true := by
  have keys : ((List.range' 11 110).all fun key => key == 21 || isClear key) = true := by
    decide +kernel
  have clear := List.all_eq_true.mp keys key (List.mem_range'_1.mpr ⟨low, by omega⟩)
  rwa [beq_eq_false_iff_ne.mpr other, Bool.false_or] at clear

lemma nearestWord_of_isClear (accurate : Accurate power) (low : 11 ≤ key) (high : key ≤ 120)
    (clear : isClear key = true) :
    (nearestWord (440 * power 2 (steps key))).toNat = nearestHertz key := by
  obtain ⟨finite, near⟩ := product_near accurate low high
  have positive := (nearest_nearestHertz high).positive
  have small : nearestHertz key < UInt32.size :=
    Nat.lt_trans (hertzFrom_lt key 14 0) (by decide)
  rw [isClear, decide_eq_true_eq] at clear
  obtain ⟨above, below⟩ := clear
  have above := le_pitch_iff.mpr above
  have below := mt le_pitch_iff.mp (Nat.not_le_of_lt below)
  rw [Nat.cast_mul, Nat.cast_sub (by omega), Nat.cast_sub (by norm_num)] at above
  rw [not_le] at below
  push_cast at above below
  rw [abs_le] at near
  apply nearestWord_eq finite positive small <;> linarith

/-- The lowest `A` lies at 27.5 Hz exactly, also as it is computed. -/
lemma nearestWord_lowest (accurate : Accurate power) :
    (nearestWord (440 * power 2 (steps 21))).toNat = nearestHertz 21 := by
  have parts : Parts.ofFloat (steps 21) = .finite true (2 ^ 52) (-50) true := by decide +kernel
  have down : value (steps 21) = (-4 : ℤ) := by
    rw [value_eq parts, if_pos rfl]
    norm_num
  have parts' : Parts.ofFloat 0.0625 = .finite false (2 ^ 52) (-56) true := by decide +kernel
  have sixteenth : value 0.0625 = 2 ^ (-4 : ℤ) := by
    rw [value_eq parts', if_neg Bool.false_ne_true]
    norm_num
  obtain ⟨finite, two⟩ := value_two
  have exact : value (power 2 (steps 21)) = 2 ^ (-4 : ℤ) := by
    apply accurate.exact finite ⟨_, _, _, _, parts⟩ value_two_pos (by norm_num) (by norm_num)
    rw [two, down, Real.rpow_intCast]
  have same : power 2 (steps 21) = 0.0625 := by
    apply (power_near accurate (by decide) (by decide)).1.eq_of_value ⟨_, _, _, _, parts'⟩
    · rw [exact]
      exact zpow_le_zpow_right₀ one_le_two (by norm_num)
    · rw [exact, sixteenth]
  rw [same]
  decide +kernel

/-- Whatever accurate power function is used, the computed frequency of a key is the nearest whole
number of hertz. -/
lemma nearestWord_pitch (accurate : Accurate power) (low : 11 ≤ key) (high : key ≤ 120) :
    (nearestWord (440 * power 2 (steps key))).toNat = nearestHertz key := by
  by_cases tie : key = 21
  · rw [tie]
    exact nearestWord_lowest accurate
  · exact nearestWord_of_isClear accurate low high (isClear_of_ne low high tie)

end Brickwork.Note
