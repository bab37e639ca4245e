import Mathlib
import Brickwork.Decimal.Shortest

/-!
# What floating point numbers stand for

A floating point number that is finite stands for a real number. The product of two of them is
rounded, and is off by at most one unit in the last place. Sums, and numbers that are too small to
be normal, are not needed.

Arithmetic unpacks a number into its sign, mantissa and exponent, rounds, and packs the result; what
is shown here is about these steps, for numbers above zero.
-/

namespace Brickwork.Double

open Decimal (Parts)
open Float.Model Float.Model.UnpackedFloat

/-! ## Fields -/

lemma toNat_exponent (b : BitVec 64) :
    (@unpackExponent Format.binary64 b).toNat = b.toNat / 2 ^ 52 % 2 ^ 11 := by
  rw [unpackExponent_def, BitVec.extractLsb'_toNat, Nat.shiftRight_eq_div_pow]

lemma toNat_mantissa (b : BitVec 64) :
    (@unpackMantissa Format.binary64 b).toNat = b.toNat % 2 ^ 52 := by
  rw [unpackMantissa_def, BitVec.extractLsb'_toNat, Nat.shiftRight_zero]

lemma toNat_sign (b : BitVec 64) : (@unpackSign Format.binary64 b).toNat = b.toNat / 2 ^ 63 := by
  rw [unpackSign_def, BitVec.extractLsb'_toNat, Nat.shiftRight_eq_div_pow]
  have bound : b.toNat / 2 ^ 63 < 2 ^ 1 := by
    have bound := b.isLt
    omega
  exact Nat.mod_eq_of_lt bound

/-- The mantissa and the exponent of a finite number are bounded, and a number that is not normal
has the least exponent. -/
lemma bounds_of_parts {x : Float} {negative narrow : Bool} {m : Nat} {q : Int}
    (parts : Parts.ofFloat x = .finite negative m q narrow) :
    m < 2 ^ 53 ∧ -1074 ≤ q ∧ q ≤ 971 ∧ (2 ^ 52 ≤ m ∨ q = -1074) := by
  simp only [Parts.ofFloat, Nat.pow_eq] at parts
  split at parts
  · split at parts <;> cases parts
  split at parts
  · cases parts
    omega
  · cases parts
    omega

lemma toNat_append_one (v : BitVec 52) : (1#1 ++ v).toNat = 2 ^ 52 + v.toNat := by
  rw [BitVec.toNat_append, ← Nat.shiftLeft_add_eq_or_of_lt v.isLt, Nat.shiftLeft_eq]
  rfl

/-- A normal number above zero is unpacked into its parts. -/
lemma unpack_of_parts {x : Float} {narrow : Bool} {m : Nat} {q : Int}
    (parts : Parts.ofFloat x = .finite false m q narrow) (normal : 2 ^ 52 ≤ m) :
    ∃ h, x.toModel.unpack = .finite .positive m q h := by
  have exponent := toNat_exponent x.toBits.toBitVec
  have mantissa := toNat_mantissa x.toBits.toBitVec
  have sign := toNat_sign x.toBits.toBitVec
  simp only [Parts.ofFloat, Nat.pow_eq, UInt64.toNat] at parts
  split at parts
  · split at parts <;> cases parts
  case isFalse finite =>
    split at parts
    · obtain ⟨_, rfl, _, _⟩ := Parts.finite.inj parts
      omega
    case isFalse whole =>
      obtain ⟨positive, rfl, rfl, _⟩ := Parts.finite.inj parts
      have clear : @unpackSign Format.binary64 x.toBits.toBitVec = 0#1 := by
        have bound := x.toBits.toBitVec.isLt
        have other := of_decide_eq_false positive
        apply BitVec.eq_of_toNat_eq
        rw [sign, BitVec.toNat_zero]
        omega
      refine ⟨Nat.lt_of_lt_of_le (by decide) normal, ?_⟩
      show UnpackedFloat.unpack Format.binary64 x.toBits.toBitVec = _
      rw [UnpackedFloat.unpack, if_neg, if_neg, UnpackedFloat.finite.injEq]
      · refine ⟨?_, ?_, ?_⟩
        · rw [clear]
          rfl
        · rw [toNat_append_one, mantissa]
        · rw [exponent]
          rfl
      · intro zero
        apply whole
        rw [← exponent, zero]
        rfl
      · intro ones
        apply finite
        rw [← exponent, ones]
        rfl

lemma toNat_packComponents (exponent : BitVec 11) (mantissa : BitVec 52) :
    (packComponents Format.binary64 .positive exponent mantissa).toNat =
      exponent.toNat * 2 ^ 52 + mantissa.toNat := by
  show ((0#1 ++ exponent) ++ mantissa).toNat = _
  rw [BitVec.toNat_append, ← Nat.shiftLeft_add_eq_or_of_lt mantissa.isLt, Nat.shiftLeft_eq,
    BitVec.toNat_append, BitVec.toNat_zero, Nat.zero_shiftLeft, Nat.zero_or]

/-- A mantissa and an exponent of a normal number are found again when the number is taken apart. -/
lemma parts_of_pack {m : Nat} {e : Int} (positive : 0 < m) (low : 2 ^ 52 ≤ m) (high : m < 2 ^ 53)
    (least : -1074 ≤ e) (most : e ≤ 971) :
    ∃ narrow, Parts.ofFloat ⟨Float.Model.pack (.finite .positive m e positive)⟩ =
      .finite false m e narrow := by
  have digits : m.log2 + 1 = Format.binary64.mantissaBits := by
    rw [(Nat.log2_eq_iff positive.ne').mpr ⟨low, high⟩]
    rfl
  have bias : Format.binary64.exponentBias = 1023 := rfl
  have biased : (e + (1023 : Nat) + (52 : Nat)).toNat + 1 < 2 ^ 11 := by omega
  have bits : (Float.ofModel (Float.Model.pack (.finite .positive m e positive))).toBits.toNat =
      (e + 1023 + 52).toNat * 2 ^ 52 + (m - 2 ^ 52) := by
    show (UnpackedFloat.pack Format.binary64 (.finite .positive m e positive)).toNat = _
    rw [UnpackedFloat.pack, bias, if_neg (Nat.not_le_of_lt biased), if_pos digits,
      toNat_packComponents, BitVec.toNat_ofNat, BitVec.toNat_ofNat]
    show (e + (1023 : Nat) + (52 : Nat)).toNat % 2 ^ 11 * 2 ^ 52 + m % 2 ^ 52 = _
    omega
  simp only [Parts.ofFloat, bits, Nat.pow_eq]
  have exponent : ((e + 1023 + 52).toNat * 2 ^ 52 + (m - 2 ^ 52)) / 2 ^ 52 % 2 ^ 11 =
      (e + 1023 + 52).toNat := by
    omega
  rw [exponent, if_neg (by omega), if_neg (by omega)]
  refine ⟨_, (Parts.finite.injEq ..).mpr ⟨?_, ?_, ?_, rfl⟩⟩
  · rw [beq_eq_false_iff_ne]
    omega
  · omega
  · omega

/-! ## Rounding -/

lemma mantissa_shift (extended : ExtendedMantissa) (k : Nat) :
    (extended >>> k).mantissa = extended.mantissa / 2 ^ k := by
  induction k with
  | zero => rw [Nat.pow_zero, Nat.div_one]; rfl
  | succ k ih =>
    show (extended >>> k).mantissa / 2 = _
    rw [ih, Nat.div_div_eq_div_mul, Nat.pow_succ]

lemma rounded_between (extended : ExtendedMantissa) :
    extended.mantissa ≤ extended.roundedMantissa ∧
      extended.roundedMantissa ≤ extended.mantissa + 1 := by
  obtain ⟨m, half, rest⟩ := extended
  cases half with
  | false =>
    cases rest with
    | false => exact ⟨Nat.le_refl m, Nat.le_succ m⟩
    | true => exact ⟨Nat.le_refl m, Nat.le_succ m⟩
  | true =>
    cases rest with
    | false =>
      show m ≤ m + m % 2 ∧ m + m % 2 ≤ m + 1
      omega
    | true => exact ⟨Nat.le_succ m, Nat.le_refl _⟩

/-- A mantissa with more digits than fit is shifted until they do. -/
lemma shiftToTargetExponent_eq {m s : Nat} {e : Int} (digits : m.log2 = 52 + s)
    (least : -1074 ≤ e + s) :
    shiftToTargetExponent Format.binary64 m e .exact =
      ((⟨m, false, false⟩ : ExtendedMantissa) >>> s, e + s) := by
  have bits : Format.binary64.mantissaBits = 53 := rfl
  have bottom : Format.binary64.minExponent = -1074 := rfl
  have target : Format.binary64.targetExponent (totalExponent m e) = e + s := by
    rw [Format.targetExponent, totalExponent, bits, bottom, digits]
    omega
  have amount : (e + s - e).toNat = s := by omega
  rw [shiftToTargetExponent, target, shiftToExponent, amount]
  rfl

/-- A mantissa that has been rounded once fits, or it has become the next power of two; the second
shift takes up that carry. -/
lemma roundWithAccuracy_eq {m s : Nat} {e : Int} (digits : m.log2 = 52 + s)
    (least : -1074 ≤ e + s) :
    ∃ r n i positive, roundWithAccuracy Format.binary64 .positive m e .exact =
        .finite .positive n i positive ∧
      m / 2 ^ s ≤ r ∧ r ≤ m / 2 ^ s + 1 ∧ 2 ^ 52 ≤ n ∧ n < 2 ^ 53 ∧
      (n = r ∧ i = e + s ∨ n = 2 ^ 52 ∧ r = 2 ^ 53 ∧ i = e + s + 1) := by
  have nonzero : m ≠ 0 := by
    rintro rfl
    rw [Nat.log2_zero] at digits
    omega
  obtain ⟨low, high⟩ := (Nat.log2_eq_iff nonzero).mp digits
  have low : 2 ^ 52 ≤ m / 2 ^ s := by
    rw [Nat.le_div_iff_mul_le (Nat.two_pow_pos s), ← Nat.pow_add]
    exact low
  have high : m / 2 ^ s < 2 ^ 53 := by
    rw [Nat.div_lt_iff_lt_mul (Nat.two_pow_pos s), ← Nat.pow_add]
    exact Nat.lt_of_lt_of_eq high (by ring)
  obtain ⟨down, up⟩ := rounded_between ((⟨m, false, false⟩ : ExtendedMantissa) >>> s)
  rw [mantissa_shift] at down up
  rw [roundWithAccuracy, shiftToTargetExponent_eq digits least]
  dsimp only at down up ⊢
  generalize ((⟨m, false, false⟩ : ExtendedMantissa) >>> s).roundedMantissa = r at *
  rcases Nat.lt_or_ge r (2 ^ 53) with fits | carried
  · have again : r.log2 = 52 + 0 :=
      (Nat.log2_eq_iff (by omega)).mpr ⟨Nat.le_trans low down, fits⟩
    rw [shiftToTargetExponent_eq again (by omega)]
    refine ⟨r, r, e + s, by omega, ?_, down, up, Nat.le_trans low down, fits, .inl ⟨rfl, rfl⟩⟩
    rw [dif_neg, UnpackedFloat.finite.injEq, mantissa_shift]
    · exact ⟨rfl, Nat.div_one r, Int.add_zero _⟩
    · rw [mantissa_shift]
      show r / 1 ≠ 0
      omega
  · obtain rfl : r = 2 ^ 53 := by omega
    have again : (2 ^ 53).log2 = 52 + 1 := Nat.log2_two_pow
    rw [shiftToTargetExponent_eq again (by omega)]
    refine ⟨2 ^ 53, 2 ^ 52, e + s + 1, by omega, ?_, down, up, Nat.le_refl _, by omega,
      .inr ⟨rfl, rfl, rfl⟩⟩
    rw [dif_neg, UnpackedFloat.finite.injEq, mantissa_shift]
    · exact ⟨rfl, rfl, rfl⟩
    · rw [mantissa_shift]
      decide

/-! ## Values -/

/-- A number that is neither infinite nor no number at all. -/
def IsFinite (x : Float) : Prop :=
  ∃ negative m q narrow, Parts.ofFloat x = .finite negative m q narrow

/-- What a finite number stands for. -/
noncomputable def value (x : Float) : ℝ :=
  match Parts.ofFloat x with
  | .finite negative m q _ => (if negative then -(m : ℝ) else m) * 2 ^ q
  | _ => 0

lemma value_eq {x : Float} {negative narrow : Bool} {m : Nat} {q : Int}
    (parts : Parts.ofFloat x = .finite negative m q narrow) :
    value x = (if negative then -(m : ℝ) else m) * 2 ^ q := by
  rw [value, parts]

/-- A number above zero that is not tiny is normal. -/
lemma IsFinite.normal {x : Float} (finite : IsFinite x) (large : 2 ^ (-400 : ℤ) ≤ value x) :
    ∃ m q narrow, Parts.ofFloat x = .finite false m q narrow ∧ 2 ^ 52 ≤ m ∧
      value x = m * 2 ^ q := by
  obtain ⟨negative, m, q, narrow, parts⟩ := finite
  obtain ⟨digits, _, _, normal⟩ := bounds_of_parts parts
  have eq := value_eq parts
  have unit : (0 : ℝ) < 2 ^ q := by positivity
  have bound : (0 : ℝ) < 2 ^ (-400 : ℤ) := by positivity
  cases negative with
  | true =>
    rw [if_pos rfl] at eq
    have below : -(m : ℝ) * 2 ^ q ≤ 0 :=
      mul_nonpos_of_nonpos_of_nonneg (neg_nonpos.mpr m.cast_nonneg) unit.le
    linarith
  | false =>
    rw [if_neg Bool.false_ne_true] at eq
    refine ⟨m, q, narrow, parts, ?_, eq⟩
    obtain normal | rfl := normal
    · exact normal
    · have tiny : (m : ℝ) * 2 ^ (-1074 : ℤ) ≤ 2 ^ (53 : ℤ) * 2 ^ (-1074 : ℤ) := by
        gcongr
        exact_mod_cast digits.le
      have gap : (2 : ℝ) ^ (53 : ℤ) * 2 ^ (-1074 : ℤ) < 2 ^ (-400 : ℤ) := by
        rw [← zpow_add₀ two_ne_zero]
        exact zpow_lt_zpow_right₀ one_lt_two (by norm_num)
      linarith

/-- Of two normal mantissas with exponents that stand for the same, the exponents are the same. -/
lemma exponent_le {m m' : Nat} {q q' : Int} (low : 2 ^ 52 ≤ m) (high : m' < 2 ^ 53)
    (same : (m : ℝ) * 2 ^ q = m' * 2 ^ q') : q ≤ q' := by
  have less : (2 : ℝ) ^ (52 + q) < 2 ^ (53 + q') := by
    calc (2 : ℝ) ^ (52 + q) = 2 ^ (52 : ℤ) * 2 ^ q := zpow_add₀ two_ne_zero _ _
      _ ≤ m * 2 ^ q := by
        gcongr
        exact_mod_cast low
      _ = m' * 2 ^ q' := same
      _ < 2 ^ (53 : ℤ) * 2 ^ q' := by
        gcongr
        exact_mod_cast high
      _ = 2 ^ (53 + q') := (zpow_add₀ two_ne_zero _ _).symm
  have := (zpow_lt_zpow_iff_right₀ one_lt_two).mp less
  omega

/-- A number above zero that is not tiny is determined by what it stands for. -/
lemma IsFinite.eq_of_value {x y : Float} (finite : IsFinite x) (finite' : IsFinite y)
    (large : 2 ^ (-400 : ℤ) ≤ value x) (same : value x = value y) : x = y := by
  obtain ⟨m, q, _, parts, normal, eq⟩ := finite.normal large
  obtain ⟨m', q', _, parts', normal', eq'⟩ := finite'.normal (large.trans_eq same)
  rw [eq, eq'] at same
  have digits := (bounds_of_parts parts).1
  have digits' := (bounds_of_parts parts').1
  obtain rfl : q = q' :=
    le_antisymm (exponent_le normal digits' same) (exponent_le normal' digits same.symm)
  obtain rfl : m = m' := by
    have unit : (2 : ℝ) ^ q ≠ 0 := by positivity
    exact_mod_cast mul_right_cancel₀ unit same
  obtain ⟨_, unpacked⟩ := unpack_of_parts parts normal
  obtain ⟨_, unpacked'⟩ := unpack_of_parts parts' normal'
  rw [← Float.toBits_inj]
  apply UInt64.eq_of_toBitVec_eq
  exact (unpack_inj_of_valid x.toModel.valid y.toModel.valid).mp (unpacked.trans unpacked'.symm)

lemma exponent_bounds {m : Nat} {q : Int} (low : 2 ^ 52 ≤ m) (high : m < 2 ^ 53)
    (least : (2 : ℝ) ^ (-200 : ℤ) ≤ m * 2 ^ q) (most : (m : ℝ) * 2 ^ q ≤ 2 ^ (200 : ℤ)) :
    -253 ≤ q ∧ q ≤ 148 := by
  constructor
  · have above : (2 : ℝ) ^ (-200 : ℤ) ≤ 2 ^ (53 + q) := by
      calc (2 : ℝ) ^ (-200 : ℤ) ≤ m * 2 ^ q := least
        _ ≤ 2 ^ (53 : ℤ) * 2 ^ q := by
          gcongr
          exact_mod_cast high.le
        _ = 2 ^ (53 + q) := (zpow_add₀ two_ne_zero _ _).symm
    have := (zpow_le_zpow_iff_right₀ one_lt_two).mp above
    omega
  · have below : (2 : ℝ) ^ (52 + q) ≤ 2 ^ (200 : ℤ) := by
      calc (2 : ℝ) ^ (52 + q) = 2 ^ (52 : ℤ) * 2 ^ q := zpow_add₀ two_ne_zero _ _
        _ ≤ m * 2 ^ q := by
          gcongr
          exact_mod_cast low
        _ ≤ 2 ^ (200 : ℤ) := most
    have := (zpow_le_zpow_iff_right₀ one_lt_two).mp below
    omega

/-- What is cut off in rounding is at most one unit in the last place of the result. -/
lemma rounded_near {m s r : Nat} (e : ℤ) (down : m / 2 ^ s ≤ r) (up : r ≤ m / 2 ^ s + 1)
    (digits : 2 ^ (52 + s) ≤ m) :
    |(r : ℝ) * 2 ^ (e + s) - m * 2 ^ e| ≤ m * 2 ^ e / 2 ^ 52 := by
  have floor := Nat.div_add_mod m (2 ^ s)
  have rest := Nat.mod_lt m (Nat.two_pow_pos s)
  have lower : m ≤ r * 2 ^ s + 2 ^ s :=
    calc m ≤ 2 ^ s * (m / 2 ^ s) + 2 ^ s := by omega
      _ ≤ r * 2 ^ s + 2 ^ s := by
        rw [Nat.mul_comm]
        gcongr
  have upper : r * 2 ^ s ≤ m + 2 ^ s :=
    calc r * 2 ^ s ≤ (m / 2 ^ s + 1) * 2 ^ s := by gcongr
      _ = 2 ^ s * (m / 2 ^ s) + 2 ^ s := by ring
      _ ≤ m + 2 ^ s := by omega
  have unit : (0 : ℝ) < 2 ^ e := by positivity
  have near : |(r : ℝ) * 2 ^ s - m| ≤ 2 ^ s := by
    rw [abs_le]
    have lower : (m : ℝ) ≤ r * 2 ^ s + 2 ^ s := by exact_mod_cast lower
    have upper : (r : ℝ) * 2 ^ s ≤ m + 2 ^ s := by exact_mod_cast upper
    constructor <;> linarith
  have share : (2 : ℝ) ^ s ≤ m / 2 ^ 52 := by
    rw [le_div_iff₀ (by positivity), ← pow_add, Nat.add_comm]
    exact_mod_cast digits
  calc |(r : ℝ) * 2 ^ (e + s) - m * 2 ^ e| = |(r : ℝ) * 2 ^ s - m| * 2 ^ e := by
        rw [zpow_add₀ two_ne_zero, zpow_natCast, ← abs_of_pos unit, ← abs_mul, abs_of_pos unit]
        congr 1
        ring
    _ ≤ m / 2 ^ 52 * 2 ^ e := mul_le_mul_of_nonneg_right (near.trans share) unit.le
    _ = m * 2 ^ e / 2 ^ 52 := by ring

/-- The product of two normal mantissas has 105 or 106 digits. -/
lemma log2_mul {m m' : Nat} (low : 2 ^ 52 ≤ m) (high : m < 2 ^ 53) (low' : 2 ^ 52 ≤ m')
    (high' : m' < 2 ^ 53) : m * m' ≠ 0 ∧ 104 ≤ (m * m').log2 ∧ (m * m').log2 < 106 := by
  have wide : 2 ^ 104 ≤ m * m' :=
    calc 2 ^ 104 = 2 ^ 52 * 2 ^ 52 := by norm_num
      _ ≤ m * m' := Nat.mul_le_mul low low'
  have slim : m * m' < 2 ^ 106 :=
    calc m * m' < 2 ^ 53 * 2 ^ 53 := Nat.mul_lt_mul'' high high'
      _ = 2 ^ 106 := by norm_num
  have nonzero : m * m' ≠ 0 := by omega
  exact ⟨nonzero, (Nat.le_log2 nonzero).mpr wide, (Nat.log2_lt nonzero).mpr slim⟩

/-- The product of two numbers above zero is off by at most one unit in the last place. -/
lemma IsFinite.mul {x y : Float} (finite : IsFinite x) (finite' : IsFinite y)
    (least : 2 ^ (-200 : ℤ) ≤ value x) (most : value x ≤ 2 ^ (200 : ℤ))
    (least' : 2 ^ (-200 : ℤ) ≤ value y) (most' : value y ≤ 2 ^ (200 : ℤ)) :
    IsFinite (x * y) ∧ |value (x * y) - value x * value y| ≤ value x * value y / 2 ^ 52 := by
  have tiny : (2 : ℝ) ^ (-400 : ℤ) ≤ 2 ^ (-200 : ℤ) :=
    zpow_le_zpow_right₀ one_le_two (by norm_num)
  obtain ⟨m, q, narrow, parts, normal, eq⟩ := finite.normal (tiny.trans least)
  obtain ⟨m', q', narrow', parts', normal', eq'⟩ := finite'.normal (tiny.trans least')
  have digits := (bounds_of_parts parts).1
  have digits' := (bounds_of_parts parts').1
  rw [eq] at least most
  rw [eq'] at least' most'
  obtain ⟨low, high⟩ := exponent_bounds normal digits least most
  obtain ⟨low', high'⟩ := exponent_bounds normal' digits' least' most'
  obtain ⟨nonzero, log_low, log_high⟩ := log2_mul normal digits normal' digits'
  obtain ⟨s, log⟩ := Nat.exists_eq_add_of_le (Nat.le_trans (by decide : 52 ≤ 104) log_low)
  obtain ⟨r, n, i, positive, rounds, down, up, fits, fits', carry⟩ :=
    roundWithAccuracy_eq (e := q + q') log (by omega)
  obtain ⟨positive_x, unpacked⟩ := unpack_of_parts parts normal
  obtain ⟨positive_y, unpacked'⟩ := unpack_of_parts parts' normal'
  have product : x * y = ⟨Float.Model.pack (.finite .positive n i positive)⟩ := by
    show (⟨Float.Model.pack (UnpackedFloat.mul Format.binary64 x.toModel.unpack
      y.toModel.unpack)⟩ : Float) = _
    rw [unpacked, unpacked']
    exact congrArg (fun result => (⟨Float.Model.pack result⟩ : Float)) rounds
  have bounds : -1074 ≤ i ∧ i ≤ 971 := by omega
  obtain ⟨narrow'', result⟩ := parts_of_pack positive fits fits' bounds.1 bounds.2
  rw [← product] at result
  refine ⟨⟨_, _, _, _, result⟩, ?_⟩
  have whole : value (x * y) = r * 2 ^ (q + q' + s) := by
    rw [value_eq result, if_neg Bool.false_ne_true]
    obtain ⟨rfl, rfl⟩ | ⟨rfl, rfl, rfl⟩ := carry
    · rfl
    · rw [zpow_add_one₀ two_ne_zero]
      push_cast
      ring
  have exact : value x * value y = (m * m' : Nat) * 2 ^ (q + q') := by
    rw [eq, eq', zpow_add₀ two_ne_zero]
    push_cast
    ring
  rw [whole, exact]
  apply rounded_near _ down up
  rw [← log]
  exact Nat.log2_self_le nonzero

/-! ## Powers -/

/-- A power function that can be relied on. Away from the ends of the range its results are off by
at most four units in the last place, and powers of two are met exactly. -/
structure Accurate (power : Float → Float → Float) : Prop where
  near {x y : Float} (finite : IsFinite x) (finite' : IsFinite y) (positive : 0 < value x)
    (least : 2 ^ (-200 : ℤ) ≤ value x ^ value y) (most : value x ^ value y ≤ 2 ^ (200 : ℤ)) :
    IsFinite (power x y) ∧ |value (power x y) - value x ^ value y| ≤ value x ^ value y / 2 ^ 50
  exact {x y : Float} {n : ℤ} (finite : IsFinite x) (finite' : IsFinite y) (positive : 0 < value x)
    (least : -200 ≤ n) (most : n ≤ 200) (whole : value x ^ value y = 2 ^ n) :
    value (power x y) = 2 ^ n

/-- A real number of moderate size, cut off to a floating point number. -/
noncomputable def truncate (r : ℝ) : Float :=
  if positive : 0 < ⌊r * 2 ^ (52 - Int.log 2 r)⌋₊ then
    ⟨Float.Model.pack (.finite .positive ⌊r * 2 ^ (52 - Int.log 2 r)⌋₊ (Int.log 2 r - 52) positive)⟩
  else 0

/-- A real number above zero, scaled to the size of a mantissa. -/
lemma scaled_bounds {r : ℝ} (above : 0 < r) :
    2 ^ 52 ≤ r * 2 ^ (52 - Int.log 2 r) ∧ r * 2 ^ (52 - Int.log 2 r) < 2 ^ 53 := by
  have low : (2 : ℝ) ^ Int.log 2 r ≤ r := by
    exact_mod_cast Int.zpow_log_le_self one_lt_two above
  have high : r < (2 : ℝ) ^ (Int.log 2 r + 1) := by
    exact_mod_cast Int.lt_zpow_succ_log_self one_lt_two r
  constructor
  · calc (2 : ℝ) ^ 52 = 2 ^ Int.log 2 r * 2 ^ (52 - Int.log 2 r) := by
          rw [← zpow_add₀ two_ne_zero, add_sub_cancel]
          norm_cast
      _ ≤ r * 2 ^ (52 - Int.log 2 r) := by gcongr
  · calc r * 2 ^ (52 - Int.log 2 r) < 2 ^ (Int.log 2 r + 1) * 2 ^ (52 - Int.log 2 r) := by gcongr
      _ = 2 ^ (53 : ℤ) := by
          rw [← zpow_add₀ two_ne_zero]
          congr 1
          ring
      _ = 2 ^ 53 := by norm_cast

lemma value_truncate {r : ℝ} (least : 2 ^ (-200 : ℤ) ≤ r) (most : r ≤ 2 ^ (200 : ℤ)) :
    IsFinite (truncate r) ∧
      value (truncate r) = ⌊r * 2 ^ (52 - Int.log 2 r)⌋₊ * 2 ^ (Int.log 2 r - 52) := by
  have above : 0 < r := lt_of_lt_of_le (by positivity) least
  have log_least : -200 ≤ Int.log 2 r := by
    apply (Int.zpow_le_iff_le_log one_lt_two above).mp
    exact_mod_cast least
  have log_most : Int.log 2 r < 201 := by
    apply (Int.lt_zpow_iff_log_lt one_lt_two above).mp
    have wider : (2 : ℝ) ^ (200 : ℤ) < 2 ^ (201 : ℤ) := zpow_lt_zpow_right₀ one_lt_two (by norm_num)
    exact_mod_cast lt_of_le_of_lt most wider
  obtain ⟨low, high⟩ := scaled_bounds above
  have low : 2 ^ 52 ≤ ⌊r * 2 ^ (52 - Int.log 2 r)⌋₊ := Nat.le_floor (by exact_mod_cast low)
  have high : ⌊r * 2 ^ (52 - Int.log 2 r)⌋₊ < 2 ^ 53 := by
    rw [Nat.floor_lt (by positivity)]
    exact_mod_cast high
  have positive : 0 < ⌊r * 2 ^ (52 - Int.log 2 r)⌋₊ := Nat.lt_of_lt_of_le (by decide) low
  obtain ⟨narrow, parts⟩ := parts_of_pack positive low high
    (show -1074 ≤ Int.log 2 r - 52 by omega) (by omega)
  rw [truncate, dif_pos positive]
  refine ⟨⟨_, _, _, _, parts⟩, ?_⟩
  rw [value_eq parts, if_neg Bool.false_ne_true]

/-- The power function that cuts off what does not fit. -/
noncomputable def truncatedPower (x y : Float) : Float :=
  truncate (value x ^ value y)

lemma accurate_truncatedPower : Accurate truncatedPower where
  near {x y} _ _ positive least most := by
    obtain ⟨finite, eq⟩ := value_truncate least most
    have above : 0 < value x ^ value y := Real.rpow_pos_of_pos positive _
    refine ⟨finite, ?_⟩
    rw [truncatedPower, eq]
    generalize value x ^ value y = r at *
    obtain ⟨low, _⟩ := scaled_bounds above
    have unit : (0 : ℝ) < 2 ^ (Int.log 2 r - 52) := by positivity
    have scaled : r = r * 2 ^ (52 - Int.log 2 r) * 2 ^ (Int.log 2 r - 52) := by
      rw [mul_assoc, ← zpow_add₀ two_ne_zero, sub_add_sub_cancel, sub_self, zpow_zero, mul_one]
    have down := Nat.floor_le (a := r * 2 ^ (52 - Int.log 2 r)) (by positivity)
    have up := Nat.lt_floor_add_one (r * 2 ^ (52 - Int.log 2 r))
    rw [abs_sub_comm, abs_of_nonneg]
    · calc r - ⌊r * 2 ^ (52 - Int.log 2 r)⌋₊ * 2 ^ (Int.log 2 r - 52)
          = (r * 2 ^ (52 - Int.log 2 r) - ⌊r * 2 ^ (52 - Int.log 2 r)⌋₊) *
              2 ^ (Int.log 2 r - 52) := by rw [sub_mul, ← scaled]
        _ ≤ r * 2 ^ (52 - Int.log 2 r) / 2 ^ 50 * 2 ^ (Int.log 2 r - 52) := by
            gcongr
            linarith
        _ = r / 2 ^ 50 := by rw [div_mul_eq_mul_div, ← scaled]
    · rw [sub_nonneg]
      calc (⌊r * 2 ^ (52 - Int.log 2 r)⌋₊ : ℝ) * 2 ^ (Int.log 2 r - 52)
          ≤ r * 2 ^ (52 - Int.log 2 r) * 2 ^ (Int.log 2 r - 52) := by gcongr
        _ = r := scaled.symm
  exact {x y n} _ _ positive least most whole := by
    have low : (2 : ℝ) ^ (-200 : ℤ) ≤ 2 ^ n := zpow_le_zpow_right₀ one_le_two least
    have high : (2 : ℝ) ^ n ≤ 2 ^ (200 : ℤ) := zpow_le_zpow_right₀ one_le_two most
    have log : Int.log 2 ((2 : ℝ) ^ n) = n := by
      exact_mod_cast Int.log_zpow (R := ℝ) one_lt_two n
    have mantissa : ⌊(2 : ℝ) ^ n * 2 ^ (52 - n)⌋₊ = 2 ^ 52 := by
      rw [← zpow_add₀ two_ne_zero, add_sub_cancel]
      exact_mod_cast Nat.floor_natCast (R := ℝ) (2 ^ 52)
    rw [truncatedPower, whole, (value_truncate low high).2, log, mantissa, Nat.cast_pow,
      Nat.cast_two, ← zpow_natCast, ← zpow_add₀ two_ne_zero]
    congr 1
    omega

end Brickwork.Double
