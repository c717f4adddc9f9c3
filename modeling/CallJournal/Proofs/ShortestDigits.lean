import CallJournal.Real.Shortest

namespace CallJournal.Real

variable {places binary : Int}

theorem raised_pos {base : Nat} (positive : 0 < base) (exponent : Int) : 0 < raised base exponent :=
  Nat.pow_pos positive

/-- Ten is less than two to the power of ten thirds. -/
theorem raised_ten_le_raised_two (less : 10 * places ≤ 3 * binary) :
    raised 10 places ≤ raised 2 binary := by
  have cubes : Nat.pow (raised 10 places) 3 ≤ Nat.pow (raised 2 binary) 3 := by
    calc Nat.pow (raised 10 places) 3
      _ = Nat.pow (Nat.pow 10 3) places.toNat := Nat.pow_right_comm 10 places.toNat 3
      _ ≤ Nat.pow (Nat.pow 2 10) places.toNat := Nat.pow_le_pow_left (by decide) _
      _ = Nat.pow 2 (10 * places.toNat) := (Nat.pow_mul 2 10 places.toNat).symm
      _ ≤ Nat.pow 2 (binary.toNat * 3) := Nat.pow_le_pow_right (by decide) (by omega)
      _ = Nat.pow (raised 2 binary) 3 := Nat.pow_mul 2 binary.toNat 3
  exact (Nat.pow_le_pow_iff_left (by decide)).mp cubes

/-- Ten is more than two to the power of thirteen quarters. -/
theorem raised_two_le_raised_ten (less : 4 * binary ≤ 13 * places) :
    raised 2 binary ≤ raised 10 places := by
  have fourths : Nat.pow (raised 2 binary) 4 ≤ Nat.pow (raised 10 places) 4 := by
    calc Nat.pow (raised 2 binary) 4
      _ = Nat.pow 2 (binary.toNat * 4) := (Nat.pow_mul 2 binary.toNat 4).symm
      _ ≤ Nat.pow 2 (13 * places.toNat) := Nat.pow_le_pow_right (by decide) (by omega)
      _ = Nat.pow (Nat.pow 2 13) places.toNat := Nat.pow_mul 2 13 places.toNat
      _ ≤ Nat.pow (Nat.pow 10 4) places.toNat := Nat.pow_le_pow_left (by decide) _
      _ = Nat.pow (raised 10 places) 4 := Nat.pow_right_comm 10 4 places.toNat
  exact (Nat.pow_le_pow_iff_left (by decide)).mp fourths

/-- Powers with exponents of any sign are compared as fractions. -/
theorem raised_ten_mul_le (above : 10 * places ≤ 3 * binary) (below : 4 * -binary ≤ 13 * -places) :
    raised 10 places * raised 2 (-binary) ≤ raised 2 binary * raised 10 (-places) :=
  Nat.mul_le_mul (raised_ten_le_raised_two above) (raised_two_le_raised_ten below)

theorem raised_mul_raised (base : Nat) (left right : Int) :
    raised base left * raised base right = base.pow (left.toNat + right.toNat) :=
  (Nat.pow_add base left.toNat right.toNat).symm

/-- A power of two in several places, as fractions. -/
theorem raised_neg_mul_raised {power : Int} {places : Nat} (shifted : binary = power + places) :
    raised 2 (-power) * raised 2 binary =
      raised 2 (-binary) * (raised 2 places * raised 2 power) := by
  have same : (-power).toNat + binary.toNat =
      (-binary).toNat + ((places : Int).toNat + power.toNat) := by omega
  calc raised 2 (-power) * raised 2 binary
    _ = Nat.pow 2 ((-power).toNat + binary.toNat) := raised_mul_raised 2 _ _
    _ = Nat.pow 2 ((-binary).toNat + ((places : Int).toNat + power.toNat)) := by rw [same]
    _ = raised 2 (-binary) * Nat.pow 2 ((places : Int).toNat + power.toNat) := Nat.pow_add 2 _ _
    _ = raised 2 (-binary) * (raised 2 places * raised 2 power) := by rw [raised_mul_raised]

namespace Double

variable {value : Double}

theorem significand_lt (value : Double) : value.significand < 2 * exponentPlace := by
  have fraction : value.fractionField < exponentPlace := Nat.mod_lt _ (by decide)
  unfold significand
  split <;> omega

theorem binaryExponent_bounds (value : Double) :
    -1074 ≤ value.binaryExponent ∧ value.binaryExponent ≤ 972 := by
  have field : value.exponentField < 0x800 := Nat.mod_lt _ (by decide)
  unfold binaryExponent
  split <;> omega

/-- The last grid is so fine that the double is not below its first point. -/
theorem finest_scale_le (filled : value.isZero = false) :
    raised 2 (-value.interval.power) * raised 10 (value.coarsest - 20) ≤
      value.interval.value *
        (raised 2 value.interval.power * raised 10 (-(value.coarsest - 20))) := by
  have nonzero : value.significand ≠ 0 := ne_of_beq_false filled
  have short : value.significand.log2 < 53 :=
    (Nat.log2_lt nonzero).mpr (Nat.lt_of_lt_of_le value.significand_lt (by decide))
  obtain ⟨low, high⟩ := value.binaryExponent_bounds
  have first : value.coarsest =
    ((value.significand.log2 : Int) + value.binaryExponent + 1) * 30103 / 100000 + 1 := rfl
  have power : value.interval.power = value.binaryExponent - 2 := rfl
  have leading : raised 2 (value.significand.log2 + 2 : Nat) ≤ value.interval.value := by
    calc Nat.pow 2 (value.significand.log2 + 2)
      _ = Nat.pow 2 value.significand.log2 * 4 := Nat.pow_add 2 _ 2
      _ ≤ value.significand * 4 := Nat.mul_le_mul_right 4 (Nat.log2_self_le nonzero)
      _ = 4 * value.significand := Nat.mul_comm _ 4
  generalize last : value.coarsest - 20 = places
  generalize shifted : value.interval.power + (value.significand.log2 + 2 : Nat) = binary
  have fine : raised 10 places * raised 2 (-binary) ≤ raised 2 binary * raised 10 (-places) :=
    raised_ten_mul_le (by omega) (by omega)
  have balance := raised_neg_mul_raised shifted.symm
  -- Both sides are compared after a multiplication by the power of two that `fine` has on its left.
  have positive : 0 < raised 2 (-binary) := raised_pos (by decide) _
  refine Nat.le_of_mul_le_mul_left ?_ positive
  calc raised 2 (-binary) * (raised 2 (-value.interval.power) * raised 10 places)
    _ = raised 2 (-value.interval.power) * (raised 10 places * raised 2 (-binary)) := by
      rw [Nat.mul_comm, Nat.mul_assoc]
    _ ≤ raised 2 (-value.interval.power) * (raised 2 binary * raised 10 (-places)) :=
      Nat.mul_le_mul_left _ fine
    _ = raised 2 (-binary) * (raised 2 (value.significand.log2 + 2 : Nat) *
          (raised 2 value.interval.power * raised 10 (-places))) := by
      rw [← Nat.mul_assoc, balance, Nat.mul_assoc, Nat.mul_assoc]
    _ ≤ raised 2 (-binary) * (value.interval.value *
          (raised 2 value.interval.power * raised 10 (-places))) :=
      Nat.mul_le_mul_left _ (Nat.mul_le_mul_right _ leading)

end Double

variable {interval : Interval} {tie : Tie} {exponent : Int}

theorem Interval.nearer_digits_ne_zero {below above : Decimal} (first : below.digits ≠ 0)
    (second : above.digits ≠ 0) : (interval.nearer tie below above).digits ≠ 0 := by
  unfold nearer
  dsimp only
  split
  · exact first
  · split
    · exact second
    · split
      · exact first
      · exact second

/-- No grid gives zero for a double. -/
theorem Interval.point?_digits_ne_zero {point : Decimal}
    (found : interval.point? tie exponent = some point) : point.digits ≠ 0 := by
  have second : (interval.neighbours exponent).2.digits ≠ 0 := Nat.succ_ne_zero _
  rw [point?] at found
  obtain ⟨below, above⟩ := interval.neighbours exponent
  dsimp only at found second
  split at found
  · rename_i held _
    cases found
    exact nearer_digits_ne_zero (bne_iff_ne.mp (Bool.and_eq_true_iff.mp held).2) second
  · rename_i held _
    cases found
    exact bne_iff_ne.mp (Bool.and_eq_true_iff.mp held).2
  · cases found
    exact second
  · cases found

theorem Interval.refine_digits_ne_zero {steps : Nat}
    (last : (interval.neighbours (exponent - steps)).1.digits ≠ 0) :
    (interval.refine tie steps exponent).digits ≠ 0 := by
  induction steps generalizing exponent with
  | zero =>
    rw [Int.natCast_zero, Int.sub_zero] at last
    exact last
  | succ steps ih =>
    rw [refine]
    split
    · rename_i point found
      exact point?_digits_ne_zero found
    · apply ih
      rwa [Int.sub_sub, Int.add_comm 1, ← Int.natCast_succ]

/-- A double other than zero has digits other than zero. -/
theorem Double.shortest_digits_ne_zero {value : Double} (filled : value.isZero = false) :
    (value.shortest tie).digits ≠ 0 := by
  apply Interval.refine_digits_ne_zero
  apply Nat.pos_iff_ne_zero.mp
  apply Nat.div_pos (finest_scale_le filled)
  exact Nat.mul_pos (raised_pos (by decide) _) (raised_pos (by decide) _)

end CallJournal.Real
