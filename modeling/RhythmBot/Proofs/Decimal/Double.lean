import RhythmBot.Json.Number
import RhythmBot.Proofs.Decimal.Rounding
/-!
What double-precision arithmetic gives for whole numbers, powers of ten and their products: the nearest
mantissa of 53 bits, unless the exponent is too large. Main statement: a product with a power of ten is
finite if it is no larger than the decimal written for the largest number.
-/

namespace RhythmBot.Decimal

open Float.Model Float.Model.UnpackedFloat

/-- What shifting leaves of a whole number: the bits in front, and behind them the next one and whether
there is any other. -/
theorem shifted (size count : Nat) :
    (⟨size, false, false⟩ : ExtendedMantissa) >>> (count + 1) =
      ⟨size / 2 ^ (count + 1), size / 2 ^ count % 2 != 0, size % 2 ^ count != 0⟩ := by
  induction count with
  | zero =>
    have one : (⟨size, false, false⟩ : ExtendedMantissa) >>> (0 + 1) =
        ⟨size / 2, size % 2 != 0, false⟩ := rfl
    simp [one, Nat.mod_one]
  | succ count ih =>
    have step : (⟨size, false, false⟩ : ExtendedMantissa) >>> (count + 1 + 1) =
        ((⟨size, false, false⟩ : ExtendedMantissa) >>> (count + 1)).shiftRightOne := rfl
    have rest : size % 2 ^ (count + 1) = size % 2 ^ count + 2 ^ count * (size / 2 ^ count % 2) := by
      rw [Nat.pow_succ, Nat.mod_mul]
    have sticky : (size / 2 ^ count % 2 != 0 || size % 2 ^ count != 0) =
        (size % 2 ^ (count + 1) != 0) := by
      rw [rest]
      rcases Nat.mod_two_eq_zero_or_one (size / 2 ^ count) with even | odd
      · simp [even]
      · simp [odd]
    rw [step, ih]
    simp only [ExtendedMantissa.shiftRightOne, Nat.div_div_eq_div_mul, ← Nat.pow_succ, sticky]

/-- Shifting and rounding is dividing by a power of two. -/
theorem roundedMantissa_shifted (size count : Nat) :
    ((⟨size, false, false⟩ : ExtendedMantissa) >>> count).roundedMantissa =
      roundQuotient size (2 ^ count) := by
  cases count with
  | zero => rw [Nat.pow_zero, roundQuotient_one]; rfl
  | succ count =>
    have small := Nat.mod_lt size (Nat.two_pow_pos count)
    have rest : size % 2 ^ (count + 1) = size % 2 ^ count + 2 ^ count * (size / 2 ^ count % 2) := by
      rw [Nat.pow_succ, Nat.mod_mul]
    have double : 2 ^ (count + 1) = 2 * 2 ^ count := Nat.pow_succ'
    rw [shifted]
    unfold roundQuotient
    simp only [rest]
    rcases Nat.mod_two_eq_zero_or_one (size / 2 ^ count) with even | odd
    · have below : 2 * (size % 2 ^ count + 2 ^ count * 0) < 2 ^ (count + 1) := by omega
      rw [even, if_pos below]
      cases sticky : size % 2 ^ count != 0 <;> rfl
    · rw [odd]
      cases sticky : size % 2 ^ count != 0 with
      | false =>
        have none : size % 2 ^ count = 0 := by simpa using sticky
        rw [if_neg (by omega), if_neg (by omega)]
        rfl
      | true =>
        have some : size % 2 ^ count ≠ 0 := by simpa using sticky
        rw [if_neg (by omega), if_pos (by omega)]
        rfl

theorem shiftToTargetExponent_eq {size : Nat} {exponent : Int} {count : Nat}
    (place : max ((size.log2 : Int) + 1 + exponent - 53) (-1074) = exponent + count) :
    shiftToTargetExponent .binary64 size exponent .exact =
      ((⟨size, false, false⟩ : ExtendedMantissa) >>> count, exponent + count) := by
  have target : Format.binary64.targetExponent (totalExponent size exponent) = exponent + count :=
    place
  have shift : (exponent + count - exponent).toNat = count := by omega
  unfold shiftToTargetExponent shiftToExponent
  simp only [target, shift]
  rfl

theorem roundWithAccuracy_eq {sign : Sign} {size : Nat} {exponent middle last : Int}
    {kept final : ExtendedMantissa}
    (first : shiftToTargetExponent .binary64 size exponent .exact = (kept, middle))
    (second : shiftToTargetExponent .binary64 kept.roundedMantissa middle .exact = (final, last))
    (positive : 0 < final.mantissa) :
    roundWithAccuracy .binary64 sign size exponent .exact =
      .finite sign final.mantissa last positive := by
  unfold roundWithAccuracy
  rw [first]
  dsimp only
  rw [second]
  exact dif_neg (Nat.ne_of_gt positive)

theorem log2_of_bounds {mantissa : Nat} (wide : 2 ^ 52 ≤ mantissa) (narrow : mantissa < 2 ^ 53) :
    mantissa.log2 = 52 := by
  have nonzero := (wide_of_le wide).ne_zero
  have lower := (Nat.le_log2 nonzero).2 wide
  have upper := (Nat.log2_lt nonzero).2 narrow
  omega

theorem finite_congr {sign other : Sign} {mantissa second : Nat} {exponent place : Int}
    (positive : 0 < mantissa) (signs : sign = other) (mantissas : mantissa = second)
    (exponents : exponent = place) :
    UnpackedFloat.finite sign mantissa exponent positive =
      .finite other second place (mantissas ▸ positive) := by
  subst signs mantissas exponents
  rfl

/-- Rounding gives the nearest mantissa and exponent, for a wide number that is not subnormal. -/
theorem roundWithAccuracy_wide (sign : Sign) {size : Nat} (wide : Wide size) {exponent : Int}
    (normal : -1022 ≤ (size.log2 : Int) + exponent) :
    ∃ positive, roundWithAccuracy .binary64 sign size exponent .exact =
      .finite sign (nearest size exponent).1 (nearest size exponent).2 positive := by
  have bits : 52 ≤ size.log2 := wide
  have first : shiftToTargetExponent .binary64 size exponent .exact =
      ((⟨size, false, false⟩ : ExtendedMantissa) >>> excess size, exponent + excess size) := by
    apply shiftToTargetExponent_eq
    unfold excess
    omega
  have rounded := roundedMantissa_shifted size (excess size)
  have place : -1074 ≤ exponent + excess size := by
    unfold excess
    omega
  obtain ⟨least, most⟩ := wide.leadingBits_bounds
  unfold nearest
  by_cases within : leadingBits size < 2 ^ 53
  · have log := log2_of_bounds least within
    have kept : max (((leadingBits size).log2 : Int) + 1 + (exponent + excess size) - 53) (-1074) =
        exponent + excess size + (0 : Nat) := by omega
    have second := shiftToTargetExponent_eq kept
    rw [leadingBits, ← rounded, Int.natCast_zero, Int.add_zero] at second
    have positive : 0 < leadingBits size := by omega
    rw [leadingBits, ← rounded] at positive
    rw [if_pos within, leadingBits, ← rounded]
    exact ⟨positive, roundWithAccuracy_eq first second positive⟩
  -- One bit more than fits is a power of two, and loses nothing when it is shifted out.
  · have power : leadingBits size = 2 ^ 53 := by omega
    have moved : max (((2 ^ 53 : Nat).log2 : Int) + 1 + (exponent + excess size) - 53) (-1074) =
        exponent + excess size + (1 : Nat) := by
      rw [Nat.log2_two_pow]
      omega
    have second := shiftToTargetExponent_eq moved
    rw [← power, leadingBits, ← rounded] at second
    have half : ((⟨((⟨size, false, false⟩ : ExtendedMantissa) >>> excess size).roundedMantissa, false,
        false⟩ : ExtendedMantissa) >>> 1).mantissa = 2 ^ 52 := by
      rw [rounded, ← leadingBits, power]
      rfl
    have positive := Nat.two_pow_pos 52
    rw [← half] at positive
    rw [if_neg within]
    have whole : roundWithAccuracy .binary64 sign size exponent .exact = _ :=
      roundWithAccuracy_eq first second positive
    exact ⟨_, whole.trans (finite_congr positive rfl half rfl)⟩

theorem sign_packComponents (sign : Sign) (exponent : BitVec 11) (mantissa : BitVec 52) :
    Sign.ofBitVec (unpackSign (packComponents .binary64 sign exponent mantissa)) = sign := by
  unfold unpackSign packComponents BitVec.extractLsb
  rw [BitVec.extractLsb'_append_eq_of_le (by decide),
    BitVec.extractLsb'_append_eq_of_le (by decide)]
  cases sign <;> rfl

theorem biased_eq (exponent : Int) :
    (exponent + (Format.binary64.exponentBias : Nat) + (52 : Nat)).toNat =
      (exponent + 1075).toNat := by
  change (exponent + (1023 : Nat) + (52 : Nat)).toNat = _
  omega

theorem ofNat_ne {biased other : Nat} (small : biased < 2 ^ 11) (different : biased ≠ other)
    (otherSmall : other < 2 ^ 11) : BitVec.ofNat 11 biased ≠ BitVec.ofNat 11 other := by
  intro same
  have numbers := congrArg BitVec.toNat same
  rw [BitVec.toNat_ofNat, BitVec.toNat_ofNat, Nat.mod_eq_of_lt small,
    Nat.mod_eq_of_lt otherSmall] at numbers
  exact different numbers

theorem toNat_append_mantissa {mantissa : Nat} (wide : 2 ^ 52 ≤ mantissa)
    (narrow : mantissa < 2 ^ 53) : (1#1 ++ BitVec.ofNat 52 mantissa).toNat = mantissa := by
  rw [BitVec.toNat_append, ← Nat.shiftLeft_add_eq_or_of_lt (BitVec.ofNat 52 mantissa).isLt,
    BitVec.toNat_ofNat, Nat.shiftLeft_eq, BitVec.toNat_ofNat]
  omega

theorem unpack_normal {bits : BitVec 64} (notAll : @unpackExponent .binary64 bits ≠ -1#11)
    (notNone : @unpackExponent .binary64 bits ≠ 0#11)
    (positive : 0 < (1#1 ++ @unpackMantissa .binary64 bits).toNat) :
    UnpackedFloat.unpack .binary64 bits =
      .finite (Sign.ofBitVec (@unpackSign .binary64 bits))
        (1#1 ++ @unpackMantissa .binary64 bits).toNat
        ((@unpackExponent .binary64 bits).toNat - ((1023 : Nat) + (52 : Nat))) positive := by
  unfold UnpackedFloat.unpack
  dsimp only
  rw [if_neg notAll, if_neg notNone]
  rfl

/-- A mantissa of 53 bits with an exponent in range is unpacked as it was packed. -/
theorem unpack_pack {sign : Sign} {mantissa : Nat} {exponent : Int} (positive : 0 < mantissa)
    (wide : 2 ^ 52 ≤ mantissa) (narrow : mantissa < 2 ^ 53) (least : -1074 ≤ exponent)
    (most : exponent ≤ 971) :
    (Float.Model.pack (.finite sign mantissa exponent positive)).unpack =
      .finite sign mantissa exponent positive := by
  have packed : UnpackedFloat.pack .binary64 (.finite sign mantissa exponent positive) =
      packComponents .binary64 sign (BitVec.ofNat 11 (exponent + 1075).toNat)
        (BitVec.ofNat 52 mantissa) := by
    unfold UnpackedFloat.pack
    simp only [log2_of_bounds wide narrow, biased_eq]
    rw [if_neg (by omega), if_pos (by decide)]
  change UnpackedFloat.unpack .binary64 (UnpackedFloat.pack .binary64 _) = _
  rw [packed]
  have exponentBits : @unpackExponent .binary64 (packComponents .binary64 sign
      (BitVec.ofNat 11 (exponent + 1075).toNat) (BitVec.ofNat 52 mantissa)) =
      BitVec.ofNat 11 (exponent + 1075).toNat := unpackExponent_packComponents
  have mantissaBits : (1#1 ++ @unpackMantissa .binary64 (packComponents .binary64 sign
      (BitVec.ofNat 11 (exponent + 1075).toNat) (BitVec.ofNat 52 mantissa))).toNat = mantissa := by
    rw [unpackMantissa_packComponents]
    exact toNat_append_mantissa wide narrow
  rw [unpack_normal _ _ (by rw [mantissaBits]; exact positive)]
  · apply finite_congr
    · exact sign_packComponents ..
    · exact mantissaBits
    · rw [exponentBits, BitVec.toNat_ofNat]
      change (((exponent + 1075).toNat % 2 ^ 11 : Nat) : Int) - ((1023 : Nat) + (52 : Nat)) = exponent
      omega
  · rw [exponentBits]
    exact ofNat_ne (by omega) (show _ ≠ 2047 by omega) (by decide)
  · rw [exponentBits]
    exact ofNat_ne (by omega) (by omega) (by decide)

theorem isInf_pack {sign : Sign} {mantissa : Nat} {exponent : Int} (positive : 0 < mantissa)
    (large : 971 < exponent) :
    (Float.Model.pack (.finite sign mantissa exponent positive)).isInf = true := by
  have packed : UnpackedFloat.pack .binary64 (.finite sign mantissa exponent positive) =
      packedInfinity .binary64 sign := by
    unfold UnpackedFloat.pack
    simp only [biased_eq]
    rw [if_pos (by omega)]
  change (UnpackedFloat.unpack .binary64 (UnpackedFloat.pack .binary64 _)).isInf = true
  rw [packed]
  cases sign <;> rfl

def exponentBits (x : Float) : Nat := x.toBits.toNat / leastNormal % 0x800

theorem toNat_unpackExponent (x : Float) :
    (@unpackExponent .binary64 x.toBits.toBitVec).toNat = exponentBits x := by
  change x.toBits.toNat >>> 52 % 2 ^ 11 = _
  rw [Nat.shiftRight_eq_div_pow]
  rfl

theorem isFinite_eq (x : Float) : x.isFinite = decide (exponentBits x ≠ 2047) := by
  have all : @unpackExponent .binary64 x.toBits.toBitVec = -1#11 ↔
      exponentBits x = 2047 := by
    rw [← toNat_unpackExponent, ← BitVec.toNat_inj]
    rfl
  change (UnpackedFloat.unpack .binary64 x.toBits.toBitVec).isFinite = _
  unfold UnpackedFloat.unpack
  dsimp only
  by_cases special : exponentBits x = 2047
  · rw [if_pos (all.2 special), decide_eq_false (not_not_intro special)]
    exact iteInduction (motive := fun number => UnpackedFloat.isFinite number = false)
      (fun _ => rfl) (fun _ => rfl)
  · rw [if_neg (mt all.1 special), decide_eq_true special]
    refine iteInduction (motive := fun number => UnpackedFloat.isFinite number = true)
      (fun _ => ?_) (fun _ => rfl)
    by_cases fraction : @unpackMantissa .binary64 x.toBits.toBitVec = 0#52
    · rw [dif_pos fraction]
      rfl
    · rw [dif_neg fraction]
      rfl

theorem Binary.ofFloat_finite {x : Float} (finite : x.isFinite = true) :
    ∃ negative mantissa exponent, Binary.ofFloat x = .finite negative mantissa exponent ∧
      mantissa < 2 ^ 53 ∧ exponent ≤ 971 := by
  have ordinary : exponentBits x ≠ 2047 := by
    rw [isFinite_eq] at finite
    exact of_decide_eq_true finite
  have small : exponentBits x < 2048 := Nat.mod_lt _ (by decide)
  have fraction : x.toBits.toNat % leastNormal < 2 ^ 52 := Nat.mod_lt _ (by decide)
  have normal : leastNormal = 2 ^ 52 := rfl
  have least : leastExponent = -1074 := rfl
  unfold Binary.ofFloat Binary.ofBits
  unfold exponentBits at ordinary small
  simp only [if_neg ordinary]
  split
  · exact ⟨_, _, _, rfl, by omega, by omega⟩
  · exact ⟨_, _, _, rfl, by omega, by omega⟩

theorem Binary.ofFloat_special {x : Float} (special : x.isFinite = false) :
    Binary.ofFloat x = .nan ∨ ∃ negative, Binary.ofFloat x = .infinite negative := by
  have all : exponentBits x = 2047 := by
    rw [isFinite_eq] at special
    exact Decidable.not_not.1 (of_decide_eq_false special)
  unfold exponentBits at all
  unfold Binary.ofFloat Binary.ofBits
  simp only [if_pos all]
  split
  · exact .inr ⟨_, rfl⟩
  · exact .inl rfl

def rounded (size : Nat) (exponent : Int) : Float :=
  .ofModel (.pack (roundWithAccuracy .binary64 .positive size exponent .exact))

/-- A positive number that is not subnormal has a mantissa of 53 bits and an exponent. -/
structure HasParts (x : Float) (parts : Nat × Int) : Prop where
  unpacked : ∃ positive, x.toModel.unpack = .finite .positive parts.1 parts.2 positive
  wide : 2 ^ 52 ≤ parts.1
  narrow : parts.1 < 2 ^ 53

theorem Wide.nearest_least {size : Nat} (wide : Wide size) {exponent : Int}
    (normal : -1022 ≤ (size.log2 : Int) + exponent) : -1074 ≤ (nearest size exponent).2 := by
  have bits : 52 ≤ size.log2 := wide
  unfold nearest excess
  split <;> simp only <;> omega

theorem hasParts_rounded {size : Nat} (wide : Wide size) {exponent : Int}
    (normal : -1022 ≤ (size.log2 : Int) + exponent) (most : (nearest size exponent).2 ≤ 971) :
    HasParts (rounded size exponent) (nearest size exponent) := by
  obtain ⟨positive, result⟩ := roundWithAccuracy_wide .positive wide normal
  have bounds := wide.nearest_mantissa exponent
  refine ⟨⟨positive, ?_⟩, bounds.1, bounds.2⟩
  unfold rounded
  rw [result]
  exact unpack_pack positive bounds.1 bounds.2 (wide.nearest_least normal) most

theorem isInf_rounded {size : Nat} (wide : Wide size) {exponent : Int}
    (normal : -1022 ≤ (size.log2 : Int) + exponent) :
    (rounded size exponent).isInf = decide (971 < (nearest size exponent).2) := by
  obtain ⟨positive, result⟩ := roundWithAccuracy_wide .positive wide normal
  have bounds := wide.nearest_mantissa exponent
  unfold rounded Float.isInf
  rw [result]
  by_cases large : 971 < (nearest size exponent).2
  · rw [decide_eq_true large]
    exact isInf_pack positive large
  · rw [decide_eq_false large]
    unfold Float.Model.isInf
    rw [unpack_pack positive bounds.1 bounds.2 (wide.nearest_least normal) (by omega)]
    rfl

theorem HasParts.mul {x y : Float} {first second : Nat × Int} (hasFirst : HasParts x first)
    (hasSecond : HasParts y second) :
    x * y = rounded (first.1 * second.1) (first.2 + second.2) := by
  obtain ⟨_, unpackedFirst⟩ := hasFirst.unpacked
  obtain ⟨_, unpackedSecond⟩ := hasSecond.unpacked
  change Float.ofModel (.pack (UnpackedFloat.mul .binary64 x.toModel.unpack y.toModel.unpack)) = _
  rw [unpackedFirst, unpackedSecond]
  rfl

theorem toFloat_eq_rounded {n : Nat} (positive : 0 < n) (small : n < 2 ^ 64) :
    n.toUInt64.toFloat = rounded (n * 2 ^ (52 - n.log2)) (-(52 - n.log2 : Nat)) := by
  have word : n.toUInt64.toNat = n := by
    change n % 2 ^ 64 = n
    exact Nat.mod_eq_of_lt small
  have sign : compare (n : Int) 0 = .gt := by
    rw [Int.compare_eq_gt]
    omega
  have target : Format.binary64.targetExponent (totalExponent n 0) =
      max ((n.log2 : Int) + 1 + 0 - 53) (-1074) := rfl
  have shift : (-max ((n.log2 : Int) + 1 + 0 - 53) (-1074)).toNat = 52 - n.log2 := by
    omega
  change Float.ofModel (.pack (UnpackedFloat.normalize .binary64 (n.toUInt64.toNat : Int) 0
    .positive)) = _
  rw [word]
  unfold UnpackedFloat.normalize
  rw [sign]
  unfold UnpackedFloat.round decreaseExponent
  simp only [Int.toNat_natCast, target, Int.zero_sub, shift, Nat.shiftLeft_eq]
  rfl

def wholeParts (n : Nat) : Nat × Int := nearest (n * 2 ^ 53) (-53)

theorem wide_whole {n : Nat} (positive : 0 < n) : Wide (n * 2 ^ 53) :=
  wide_of_le (Nat.le_trans (by decide) (Nat.le_mul_of_pos_left (2 ^ 53) positive))

theorem hasParts_toFloat {n : Nat} (positive : 0 < n) (small : n < 2 ^ 64) :
    HasParts n.toUInt64.toFloat (wholeParts n) := by
  have nonzero := Nat.ne_of_gt positive
  have log : (n * 2 ^ (52 - n.log2)).log2 = n.log2 + (52 - n.log2) := log2_mul_two_pow nonzero _
  have short : n.log2 < 64 := (Nat.log2_lt nonzero).2 small
  have wide : Wide (n * 2 ^ (52 - n.log2)) := by
    unfold Wide
    omega
  have scaled := wide.nearest_scaled (-(52 - n.log2 : Nat)) (53 - (52 - n.log2))
  have size : n * 2 ^ (52 - n.log2) * 2 ^ (53 - (52 - n.log2)) = n * 2 ^ 53 := by
    rw [Nat.mul_assoc, ← Nat.pow_add]
    congr 2
    omega
  have place : (-(52 - n.log2 : Nat) : Int) - (53 - (52 - n.log2) : Nat) = -53 := by omega
  rw [size, place] at scaled
  rw [toFloat_eq_rounded positive small, wholeParts, scaled]
  apply hasParts_rounded wide
  · omega
  · unfold nearest excess
    split <;> simp only <;> omega

theorem eq_of_toBits {x y : Float} (same : x.toBits = y.toBits) : x = y := by
  obtain ⟨first, _⟩ := x
  obtain ⟨second, _⟩ := y
  cases same
  rfl

theorem powerOfTen_eq_rounded {power : Nat} (small : power ≤ 308) :
    Json.powerOfTen power = rounded (10 ^ power * 2 ^ 53) (-53) := by
  by_cases table : power ≤ 22
  · have listed : ∀ power ∈ List.range 23,
        (Json.powerOfTen power).toBits = (rounded (10 ^ power * 2 ^ 53) (-53)).toBits := by
      decide +kernel
    exact eq_of_toBits (listed power (List.mem_range.2 (by omega)))
  · have sized : UnpackedFloat.ofScientific .binary64 1 (power : Int) =
        roundWithAccuracy .binary64 .positive (10 ^ power * 2 ^ 53) (-53) .exact := by
      have size : 1 <<< Format.binary64.mantissaBits * 10 ^ power = 10 ^ power * 2 ^ 53 :=
        Nat.mul_comm ..
      have limit : (2 : Int) ^ Format.binary64.exponentBits = 2048 := rfl
      have one : Nat.log2 1 = 0 := rfl
      unfold UnpackedFloat.ofScientific
      rw [dif_neg (by decide), limit, one, if_neg (by omega), if_neg (by omega),
        if_pos (by omega)]
      change roundWithAccuracy .binary64 .positive (1 <<< Format.binary64.mantissaBits * 10 ^ power)
        (-53) .exact = _
      rw [size]
    unfold Json.powerOfTen Float.ofScientific
    rw [dif_neg (by omega)]
    change Float.ofModel (.pack (UnpackedFloat.ofScientific .binary64 1 (power : Int))) = _
    rw [sized]
    rfl

theorem wholeParts_precedes {first second : Nat} (positive : 0 < first) (le : first ≤ second) :
    Precedes (wholeParts first) (wholeParts second) :=
  nearest_precedes (wide_whole positive) (Nat.mul_le_mul_right _ le) _

theorem wholeParts_pow {power limit : Nat} (small : power ≤ limit) :
    (wholeParts (10 ^ power)).2 ≤ (wholeParts (10 ^ limit)).2 := by
  have positive : 0 < 10 ^ power := Nat.pow_pos (by decide)
  rcases wholeParts_precedes positive (Nat.pow_le_pow_right (by decide) small) with less | ⟨same, _⟩
  · exact Int.le_of_lt less
  · exact Int.le_of_eq same

theorem hasParts_powerOfTen {power : Nat} (small : power ≤ 308) :
    HasParts (Json.powerOfTen power) (wholeParts (10 ^ power)) := by
  have wide : Wide (10 ^ power * 2 ^ 53) := wide_whole (Nat.pow_pos (by decide))
  have bits : 52 ≤ (10 ^ power * 2 ^ 53).log2 := wide
  have last : (wholeParts (10 ^ 308)).2 ≤ 971 := by decide +kernel
  rw [powerOfTen_eq_rounded small, wholeParts]
  apply hasParts_rounded wide
  · omega
  · exact Int.le_trans (wholeParts_pow small) last

def wholeProduct (first second : Nat) : Nat × Int :=
  nearest ((wholeParts first).1 * (wholeParts second).1)
    ((wholeParts first).2 + (wholeParts second).2)

theorem wholeParts_bounds {n : Nat} (positive : 0 < n) :
    2 ^ 52 ≤ (wholeParts n).1 ∧ (wholeParts n).1 < 2 ^ 53 :=
  (wide_whole positive).nearest_mantissa _

theorem wholeParts_least (n : Nat) : -53 ≤ (wholeParts n).2 := by
  unfold wholeParts nearest
  split <;> simp only <;> omega

theorem wholeProduct_comm (first second : Nat) :
    wholeProduct first second = wholeProduct second first := by
  unfold wholeProduct
  rw [Nat.mul_comm, Int.add_comm]

theorem wholeProduct_le {first larger second : Nat} (positive : 0 < first) (le : first ≤ larger)
    (other : 0 < second) : (wholeProduct first second).2 ≤ (wholeProduct larger second).2 := by
  have bounds := wholeParts_bounds positive
  have largerBounds := wholeParts_bounds (Nat.lt_of_lt_of_le positive le)
  have factor : 0 < (wholeParts second).1 :=
    Nat.lt_of_lt_of_le (Nat.two_pow_pos 52) (wholeParts_bounds other).1
  exact (wholeParts_precedes positive le).nearest_product bounds.2 bounds.1 largerBounds.1 factor _

theorem wholeProduct_pow {n power limit : Nat} (positive : 0 < n) (few : power ≤ limit) :
    (wholeProduct n (10 ^ power)).2 ≤ (wholeProduct n (10 ^ limit)).2 := by
  have tens : 0 < 10 ^ power := Nat.pow_pos (by decide)
  rw [wholeProduct_comm n, wholeProduct_comm n]
  exact wholeProduct_le tens (Nat.pow_le_pow_right (by decide) few) positive

/-- The largest size of a decimal written for a number: that of the largest number. -/
def largestPlain : Nat := 17976931348623157 * 10 ^ 292

/-- The product of a whole number of 17 digits with a power of ten is in range if it is no larger than a
decimal written for a number. -/
theorem wholeProduct_bounded {n power : Nat} (positive : 0 < n) (digits : n ≤ 10 ^ 17)
    (small : power ≤ 308) (bounded : n * 10 ^ power ≤ largestPlain) :
    (wholeProduct n (10 ^ power)).2 ≤ 971 := by
  have tens : 0 < 10 ^ power := Nat.pow_pos (by decide)
  by_cases few : power ≤ 291
  -- Here all numbers of 17 digits are small enough.
  · have most : (wholeProduct (10 ^ 17) (10 ^ 291)).2 ≤ 971 := by decide +kernel
    calc (wholeProduct n (10 ^ power)).2
        ≤ (wholeProduct (10 ^ 17) (10 ^ power)).2 := wholeProduct_le positive digits tens
      _ ≤ (wholeProduct (10 ^ 17) (10 ^ 291)).2 := wholeProduct_pow (by decide) few
      _ ≤ 971 := most
  · have most : ∀ power ∈ List.range' 292 17,
        (wholeProduct (largestPlain / 10 ^ power) (10 ^ power)).2 ≤ 971 := by
      decide +kernel
    have le : n ≤ largestPlain / 10 ^ power := (Nat.le_div_iff_mul_le tens).2 bounded
    have listed : power ∈ List.range' 292 17 := by
      rw [List.mem_range'_1]
      omega
    exact Int.le_trans (wholeProduct_le positive le tens) (most power listed)

theorem zero_mul_finite {mantissa : Nat} {exponent : Int} (positive : 0 < mantissa) :
    UnpackedFloat.mul .binary64 (.zero .positive) (.finite .positive mantissa exponent positive) =
      .zero .positive := rfl

theorem HasParts.isInf_zero_mul {x : Float} {parts : Nat × Int} (hasParts : HasParts x parts) :
    ((Nat.toUInt64 0).toFloat * x).isInf = false := by
  obtain ⟨positive, unpacked⟩ := hasParts.unpacked
  have zero : ((Nat.toUInt64 0).toFloat).toModel.unpack = .zero .positive := rfl
  change (UnpackedFloat.unpack .binary64 (UnpackedFloat.pack .binary64
    (UnpackedFloat.mul .binary64 ((Nat.toUInt64 0).toFloat).toModel.unpack x.toModel.unpack))).isInf
      = false
  rw [zero, unpacked, zero_mul_finite]
  rfl

theorem isInf_mul_powerOfTen {n power : Nat} (digits : n ≤ 10 ^ 17) (small : power ≤ 308)
    (bounded : n * 10 ^ power ≤ largestPlain) :
    (n.toUInt64.toFloat * Json.powerOfTen power).isInf = false := by
  have hasPower := hasParts_powerOfTen small
  rcases Nat.eq_zero_or_pos n with rfl | positive
  · exact hasPower.isInf_zero_mul
  · have word : (10 : Nat) ^ 17 < 2 ^ 64 := by decide
    have tens : 0 < 10 ^ power := Nat.pow_pos (by decide)
    have hasFirst := hasParts_toFloat positive (by omega)
    have wide : Wide ((wholeParts n).1 * (wholeParts (10 ^ power)).1) := by
      apply wide_of_le
      exact Nat.le_trans hasFirst.wide (Nat.le_mul_of_pos_right _ (by have := hasPower.wide; omega))
    have normal : -1022 ≤ (((wholeParts n).1 * (wholeParts (10 ^ power)).1).log2 : Int) +
        ((wholeParts n).2 + (wholeParts (10 ^ power)).2) := by
      have firstLeast := wholeParts_least n
      have secondLeast := wholeParts_least (10 ^ power)
      omega
    have most := wholeProduct_bounded positive digits small bounded
    rw [hasFirst.mul hasPower, isInf_rounded wide normal]
    exact decide_eq_false (by unfold wholeProduct at most; omega)

end RhythmBot.Decimal
