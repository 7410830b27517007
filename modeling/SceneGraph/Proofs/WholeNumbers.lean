import SceneGraph.Proofs.Parameters

/-!
# Whole numbers among doubles

Sums, differences, products and remainders of whole doubles are whole: where the exact result has too many digits,
the places that rounding leaves are those of a larger power of two. Numbers that are not finite count as whole here.

* `Double.Whole`: an unpacked number whose digits behind the point are zeros.
* `Double.whole_rounded`: rounding a whole number gives one.
* `Double.lacksFraction_iff_unpack`: the check of a double is about its unpacked form.
* `lacksFraction_add`, `lacksFraction_sub`, `lacksFraction_mul`, `lacksFraction_neg`: arithmetic.
* `Elementary.lacksFraction_minimum`, `Elementary.lacksFraction_maximum`, `Elementary.lacksFraction_magnitude`,
  `Elementary.lacksFraction_modulo`: the other functions that keep whole numbers.
-/
set_option autoImplicit false

namespace SceneGraph

open Float.Model UnpackedFloat

namespace Double

/-! ## Rounding -/

/-- An unpacked number whose digits behind the point are zeros, or that is not finite. -/
inductive Whole : UnpackedFloat → Prop where
  | notANumber : Whole .notANumber
  | infinity (s : Sign) : Whole (.infinity s)
  | zero (s : Sign) : Whole (.zero s)
  | finite (s : Sign) (m : Nat) (e : Int) (hpos : 0 < m) (hlow : 2 ^ 52 ≤ m) (hhigh : m < 2 ^ 53)
      (hdvd : 2 ^ (-e).toNat ∣ m) : Whole (.finite s m e hpos)

theorem shift_mantissa (em : ExtendedMantissa) (k : Nat) : (em >>> k).mantissa = em.mantissa / 2 ^ k := by
  induction k with
  | zero => exact (Nat.div_one _).symm
  | succ k ih =>
    change (em >>> k).mantissa / 2 = _
    rw [ih, Nat.div_div_eq_div_mul, Nat.pow_succ]

theorem shift_exact (m : Nat) {k : Nat} (h : 2 ^ k ∣ m) :
    (⟨m, false, false⟩ : ExtendedMantissa) >>> k = ⟨m / 2 ^ k, false, false⟩ := by
  induction k with
  | zero => exact congrArg (ExtendedMantissa.mk · false false) (Nat.div_one m).symm
  | succ k ih =>
    obtain ⟨q, rfl⟩ := h
    have hk : 2 ^ (k + 1) * q / 2 ^ k = 2 * q := by
      rw [Nat.pow_succ, Nat.mul_assoc, Nat.mul_div_cancel_left _ (Nat.two_pow_pos k)]
    change ((⟨2 ^ (k + 1) * q, false, false⟩ : ExtendedMantissa) >>> k).shiftRightOne = _
    rw [ih (Nat.dvd_mul_right_of_dvd (Nat.pow_dvd_pow 2 (Nat.le_succ k)) q), hk,
      Nat.mul_div_cancel_left _ (Nat.two_pow_pos _)]
    simp [ExtendedMantissa.shiftRightOne]

theorem roundedMantissa_bounds (em : ExtendedMantissa) :
    em.mantissa ≤ em.roundedMantissa ∧ em.roundedMantissa ≤ em.mantissa + 1 := by
  obtain ⟨m, r, s⟩ := em
  cases r <;> cases s <;>
    simp [ExtendedMantissa.roundedMantissa, ExtendedMantissa.accuracy, Accuracy.roundToNearestEven]
  omega

theorem targetExponent_eq {m : Nat} {e : Int} (h : 0 ≤ m.log2 + e) :
    Format.binary64.targetExponent (totalExponent m e) = m.log2 + e - 52 := by
  simp only [Format.targetExponent, totalExponent, Format.mantissaBits, Format.minExponent]
  omega

theorem log2_add_nonneg {m : Nat} {e : Int} (hpos : 0 < m) (h : 0 ≤ e ∨ 2 ^ (-e).toNat ∣ m) : 0 ≤ m.log2 + e := by
  rcases h with h | h
  · omega
  · have hle := (Nat.le_log2 (Nat.ne_of_gt hpos)).2 (Nat.le_of_dvd hpos h)
    omega

theorem log2_eq {m : Nat} (hlow : 2 ^ 52 ≤ m) (hhigh : m < 2 ^ 53) : m.log2 = 52 :=
  (Nat.log2_eq_iff (by omega)).2 ⟨hlow, hhigh⟩

/-- The first shift leaves 53 digits, whose exponent is that of the target. -/
theorem shiftToTargetExponent_eq {m : Nat} {e : Int} (a : Accuracy) (hlow : 2 ^ 52 ≤ m)
    (h : 0 ≤ e ∨ 2 ^ (-e).toNat ∣ m) : shiftToTargetExponent Format.binary64 m e a =
      (ExtendedMantissa.ofMantissaAndAccuracy m a >>> (m.log2 - 52), e + (m.log2 - 52 : Nat)) := by
  have hlog : 52 ≤ m.log2 := (Nat.le_log2 (by omega)).2 hlow
  have hshift : ((m.log2 : Int) + e - 52 - e).toNat = m.log2 - 52 := by omega
  unfold shiftToTargetExponent shiftToExponent
  simp only [targetExponent_eq (log2_add_nonneg (by omega) h), hshift]

theorem shiftToTargetExponent_exact {m : Nat} {e : Int} (hlow : 2 ^ 52 ≤ m) (h : 0 ≤ e ∨ 2 ^ (-e).toNat ∣ m)
    (hdvd : 2 ^ (m.log2 - 52) ∣ m) : shiftToTargetExponent Format.binary64 m e .exact =
      (⟨m / 2 ^ (m.log2 - 52), false, false⟩, e + (m.log2 - 52 : Nat)) := by
  rw [shiftToTargetExponent_eq _ hlow h]
  exact congrArg (·, _) (shift_exact m hdvd)

/-- A rounded mantissa may have a digit too many, a zero, which the second shift takes off. -/
theorem whole_settled (s : Sign) {r : Nat} {e : Int} (hlow : 2 ^ 52 ≤ r) (hhigh : r ≤ 2 ^ 53)
    (hdvd : 2 ^ (-e).toNat ∣ r) :
    Whole (let (em, e) := shiftToTargetExponent Format.binary64 r e .exact
      if h : em.mantissa = 0 then .zero s else .finite s em.mantissa e (Nat.pos_of_ne_zero h)) := by
  rcases Nat.lt_or_eq_of_le hhigh with hlt | rfl
  · have hlog : r.log2 - 52 = 0 := by rw [log2_eq hlow hlt]
    rw [shiftToTargetExponent_exact hlow (.inr hdvd) (by simp [hlog]), hlog]
    simp only [Nat.pow_zero, Nat.div_one, show r ≠ 0 by omega, dite_false, Nat.cast_zero, add_zero]
    exact .finite s r e _ hlow hlt hdvd
  · have hlog : (2 ^ 53).log2 - 52 = 1 := by rw [Nat.log2_two_pow]
    rw [shiftToTargetExponent_exact hlow (.inr hdvd) (by rw [hlog]; decide), hlog]
    refine .finite s (2 ^ 52) (e + 1) _ (by decide) (by decide) ?_
    have hle : (-e).toNat ≤ 53 := (Nat.pow_dvd_pow_iff_le_right (by decide)).1 hdvd
    exact Nat.pow_dvd_pow 2 (by omega)

/-- Rounding a mantissa with enough digits, exactly or to a whole number. -/
theorem whole_round (s : Sign) {m : Nat} {e : Int} {a : Accuracy} (hlow : 2 ^ 52 ≤ m)
    (h : 0 ≤ e ∨ a = .exact ∧ 2 ^ (-e).toNat ∣ m) : Whole (roundWithAccuracy Format.binary64 s m e a) := by
  have hlog : 52 ≤ m.log2 := (Nat.le_log2 (by omega)).2 hlow
  have hmantissa : (ExtendedMantissa.ofMantissaAndAccuracy m a).mantissa = m := by
    cases a with
    | exact => rfl
    | inexact o => cases o <;> rfl
  unfold roundWithAccuracy
  rw [shiftToTargetExponent_eq a hlow (h.imp_right And.right)]
  generalize hk : m.log2 - 52 = k
  have hbounds := roundedMantissa_bounds (ExtendedMantissa.ofMantissaAndAccuracy m a >>> k)
  rw [shift_mantissa, hmantissa] at hbounds
  -- 53 digits are left before rounding, and one more at most after it.
  have hquotient : 2 ^ 52 ≤ m / 2 ^ k ∧ m / 2 ^ k < 2 ^ 53 := by
    rw [Nat.le_div_iff_mul_le (Nat.two_pow_pos k), Nat.div_lt_iff_lt_mul (Nat.two_pow_pos k), ← Nat.pow_add,
      ← Nat.pow_add, show 52 + k = m.log2 by omega, show 53 + k = m.log2 + 1 by omega]
    exact ⟨Nat.log2_self_le (by omega), Nat.lt_log2_self⟩
  have hdvd : 2 ^ (-(e + k)).toNat ∣ (ExtendedMantissa.ofMantissaAndAccuracy m a >>> k).roundedMantissa := by
    rcases Int.lt_or_le (e + k) 0 with hneg | hnonneg
    · obtain ⟨rfl, hm⟩ := h.resolve_left (by omega)
      have hsplit : (-e).toNat = k + (-(e + k)).toNat := by omega
      rw [hsplit, Nat.pow_add] at hm
      have hexact := shift_exact m (dvd_of_mul_right_dvd hm)
      change 2 ^ _ ∣ ((⟨m, false, false⟩ : ExtendedMantissa) >>> k).roundedMantissa
      rw [hexact]
      exact (Nat.dvd_div_iff_mul_dvd (dvd_of_mul_right_dvd hm)).2 hm
    · rw [show (-(e + k : Int)).toNat = 0 by omega]
      exact Nat.one_dvd _
  exact whole_settled s (by omega) (by omega) hdvd

/-! ## Arithmetic -/

/-- A number stays whole at a smaller exponent. -/
theorem pow_dvd_decreased {m : Nat} {e t : Int} (ht : t ≤ e) (h : 2 ^ (-e).toNat ∣ m) :
    2 ^ (-t).toNat ∣ m <<< (e - t).toNat := by
  rw [Nat.shiftLeft_eq]
  calc 2 ^ (-t).toNat ∣ 2 ^ ((-e).toNat + (e - t).toNat) := Nat.pow_dvd_pow 2 (by omega)
    _ = 2 ^ (-e).toNat * 2 ^ (e - t).toNat := Nat.pow_add _ _ _
    _ ∣ m * 2 ^ (e - t).toNat := Nat.mul_dvd_mul_right h _

theorem whole_rounded (s : Sign) {m : Nat} {e : Int} (hpos : 0 < m) (h : 2 ^ (-e).toNat ∣ m) :
    Whole (UnpackedFloat.round Format.binary64 s m e) := by
  unfold UnpackedFloat.round decreaseExponent
  simp only [targetExponent_eq (log2_add_nonneg hpos (.inr h))]
  rcases Int.le_total e (m.log2 + e - 52) with hle | hle
  · have hshift : (e - (m.log2 + e - 52)).toNat = 0 := by omega
    simp only [hshift, Nat.shiftLeft_zero, Nat.cast_zero, sub_zero]
    exact whole_round s ((Nat.le_log2 (by omega)).1 (by omega)) (.inr ⟨rfl, h⟩)
  · have hshift : (e - (m.log2 + e - 52)).toNat = 52 - m.log2 := by omega
    have hdvd := pow_dvd_decreased hle h
    have hexponent : e - ((52 - m.log2 : Nat) : Int) = m.log2 + e - 52 := by omega
    simp only [hshift, hexponent] at hdvd ⊢
    refine whole_round s ?_ (.inr ⟨rfl, hdvd⟩)
    calc 2 ^ 52 = 2 ^ m.log2 * 2 ^ (52 - m.log2) := by rw [← Nat.pow_add, Nat.add_sub_cancel' (by omega)]
      _ ≤ m * 2 ^ (52 - m.log2) := Nat.mul_le_mul_right _ (Nat.log2_self_le (by omega))
      _ = m <<< (52 - m.log2) := (Nat.shiftLeft_eq ..).symm

theorem whole_normalize {i : Int} {e : Int} (z : Sign) (h : 2 ^ (-e).toNat ∣ i.natAbs) :
    Whole (UnpackedFloat.normalize Format.binary64 i e z) := by
  unfold UnpackedFloat.normalize
  split
  · rename_i hlt
    rw [Int.compare_eq_lt] at hlt
    exact whole_rounded _ (by omega) (by rwa [show (-i).toNat = i.natAbs by omega])
  · exact .zero z
  · rename_i hgt
    rw [Int.compare_eq_gt] at hgt
    exact whole_rounded _ (by omega) (by rwa [show i.toNat = i.natAbs by omega])

theorem natAbs_apply (s : Sign) (m : Nat) : (s.apply m).natAbs = m := by
  cases s
  · exact Int.natAbs_neg _
  · rfl

variable {u v : UnpackedFloat}

theorem Whole.neg (hu : Whole u) : Whole u.neg := by
  cases hu with
  | notANumber => exact .notANumber
  | infinity s => exact .infinity _
  | zero s => exact .zero _
  | finite s m e hpos hlow hhigh hdvd => exact .finite _ m e hpos hlow hhigh hdvd

/-- The sum of two whole numbers at their smaller exponent. -/
theorem dvd_natAbs_sum {s t : Sign} {m n : Nat} {e f : Int} (hm : 2 ^ (-e).toNat ∣ m) (hn : 2 ^ (-f).toNat ∣ n) :
    2 ^ (-min e f).toNat ∣
      (s.apply (m <<< (e - min e f).toNat : Nat) + t.apply (n <<< (f - min e f).toNat : Nat)).natAbs := by
  rw [← Int.natCast_dvd]
  refine dvd_add (Int.natCast_dvd.2 ?_) (Int.natCast_dvd.2 ?_) <;> rw [natAbs_apply]
  · exact pow_dvd_decreased (Int.min_le_left _ _) hm
  · exact pow_dvd_decreased (Int.min_le_right _ _) hn

theorem Whole.add (hu : Whole u) (hv : Whole v) : Whole (u.add Format.binary64 v) := by
  cases hu with
  | notANumber => exact .notANumber
  | infinity s =>
    cases hv with
    | notANumber => exact .notANumber
    | infinity t => cases s <;> cases t <;> first | exact .infinity _ | exact .notANumber
    | zero | finite => exact .infinity s
  | zero s =>
    cases hv with
    | notANumber => exact .notANumber
    | infinity t => exact .infinity t
    | zero t => cases s <;> cases t <;> exact .zero _
    | finite t n f hpos hlow hhigh hn => exact .finite t n f hpos hlow hhigh hn
  | finite s m e hpos hlow hhigh hm =>
    cases hv with
    | notANumber => exact .notANumber
    | infinity t => exact .infinity t
    | zero t => exact .finite s m e hpos hlow hhigh hm
    | finite t n f hpos' hlow' hhigh' hn => exact whole_normalize _ (dvd_natAbs_sum hm hn)

theorem sub_eq_add_neg (u v : UnpackedFloat) : u.sub Format.binary64 v = u.add Format.binary64 v.neg := by
  cases u with
  | finite s m e hpos =>
    cases v with
    | finite t n f hpos' =>
      have hneg (i : Nat) : s.apply (m <<< (e - min e f).toNat : Nat) - t.apply i =
          s.apply (m <<< (e - min e f).toNat : Nat) + (-t).apply i := by
        rw [Int.sub_eq_add_neg]
        cases t
        · exact congrArg _ (Int.neg_neg _)
        · rfl
      exact congrArg (UnpackedFloat.normalize Format.binary64 · _ _) (hneg _)
    | notANumber | infinity | zero => rfl
  | notANumber | infinity | zero => cases v <;> rfl

theorem Whole.sub (hu : Whole u) (hv : Whole v) : Whole (u.sub Format.binary64 v) :=
  sub_eq_add_neg u v ▸ hu.add hv.neg

theorem Whole.mul (hu : Whole u) (hv : Whole v) : Whole (u.mul Format.binary64 v) := by
  cases hu with
  | notANumber => exact .notANumber
  | infinity s => cases hv <;> first | exact .notANumber | exact .infinity _
  | zero s => cases hv <;> first | exact .notANumber | exact .zero _
  | finite s m e hpos hlow hhigh hm =>
    cases hv with
    | notANumber => exact .notANumber
    | infinity t => exact .infinity _
    | zero t => exact .zero _
    | finite t n f hpos' hlow' hhigh' hn =>
      refine whole_round _ (Nat.le_trans hlow (Nat.le_mul_of_pos_right m hpos')) (.inr ⟨rfl, ?_⟩)
      calc 2 ^ (-(e + f)).toNat ∣ 2 ^ ((-e).toNat + (-f).toNat) := Nat.pow_dvd_pow 2 (by omega)
        _ = 2 ^ (-e).toNat * 2 ^ (-f).toNat := Nat.pow_add _ _ _
        _ ∣ m * n := Nat.mul_dvd_mul hm hn

/-- A quotient that is a whole number. Its operands are compared at an exponent below both of theirs. -/
theorem whole_div (s t : Sign) {m n : Nat} {e f c : Int} (hm : 0 < m) (hn : 0 < n) (he : c ≤ e) (hf : c ≤ f)
    (hdvd : n * 2 ^ (f - c).toNat ∣ m * 2 ^ (e - c).toNat) :
    Whole ((UnpackedFloat.finite s m e hm).div Format.binary64 (.finite t n f hn)) := by
  have hle : (n.log2 : Int) + f ≤ m.log2 + e := by
    have hpow : 2 ^ (n.log2 + (f - c).toNat) < 2 ^ (m.log2 + 1 + (e - c).toNat) := by
      calc 2 ^ (n.log2 + (f - c).toNat) = 2 ^ n.log2 * 2 ^ (f - c).toNat := Nat.pow_add _ _ _
        _ ≤ n * 2 ^ (f - c).toNat := Nat.mul_le_mul_right _ (Nat.log2_self_le (Nat.ne_of_gt hn))
        _ ≤ m * 2 ^ (e - c).toNat := Nat.le_of_dvd (Nat.mul_pos hm (Nat.two_pow_pos _)) hdvd
        _ < 2 ^ (m.log2 + 1) * 2 ^ (e - c).toNat := Nat.mul_lt_mul_of_pos_right Nat.lt_log2_self (Nat.two_pow_pos _)
        _ = 2 ^ (m.log2 + 1 + (e - c).toNat) := (Nat.pow_add _ _ _).symm
    have := (Nat.pow_lt_pow_iff_right (by decide : 1 < 2)).1 hpow
    omega
  -- The dividend is shifted until the quotient has enough digits.
  obtain ⟨k, g, hkg, hk, hcore⟩ : ∃ (k : Nat) (g : Int), (k : Int) = e - f - g ∧ n.log2 + 53 ≤ m.log2 + k ∧
      divCore Format.binary64 m e n f = (m <<< k / n, g, accuracyOfFraction (m <<< k % n) n) := by
    have htarget : Format.binary64.targetExponent (totalExponent m e - totalExponent n f) =
        m.log2 + e - (n.log2 + f) - 53 := by
      simp only [Format.targetExponent, totalExponent, Format.mantissaBits, Format.minExponent]
      omega
    refine ⟨(e - f - min (e - f) (m.log2 + e - (n.log2 + f) - 53)).toNat,
      min (e - f) (m.log2 + e - (n.log2 + f) - 53), by omega, by omega, ?_⟩
    unfold divCore
    rw [htarget]
  have hlow : 2 ^ 52 ≤ m <<< k / n := by
    rw [Nat.le_div_iff_mul_le hn, Nat.shiftLeft_eq]
    calc 2 ^ 52 * n ≤ 2 ^ 52 * 2 ^ (n.log2 + 1) := Nat.mul_le_mul_left _ (Nat.le_of_lt Nat.lt_log2_self)
      _ = 2 ^ (n.log2 + 53) := by rw [← Nat.pow_add]; congr 1; omega
      _ ≤ 2 ^ (m.log2 + k) := Nat.pow_le_pow_right (by decide) hk
      _ = 2 ^ m.log2 * 2 ^ k := Nat.pow_add _ _ _
      _ ≤ m * 2 ^ k := Nat.mul_le_mul_right _ (Nat.log2_self_le (Nat.ne_of_gt hm))
  change Whole (match divCore Format.binary64 m e n f with
    | (m, e, a) => roundWithAccuracy Format.binary64 (s / t) m e a)
  rw [hcore]
  refine whole_round _ hlow ?_
  rcases Int.lt_or_le g 0 with hneg | hnonneg
  · obtain ⟨q, hq⟩ := hdvd
    -- Down to the last digit the quotient is the whole number.
    have hshifted : m <<< k = n * (q * 2 ^ (-g).toNat) := by
      refine Nat.eq_of_mul_eq_mul_right (Nat.two_pow_pos (f - c).toNat) ?_
      calc m <<< k * 2 ^ (f - c).toNat = m * 2 ^ ((e - c).toNat + (-g).toNat) := by
            rw [Nat.shiftLeft_eq, Nat.mul_assoc, ← Nat.pow_add]
            congr 2
            omega
        _ = m * 2 ^ (e - c).toNat * 2 ^ (-g).toNat := by rw [Nat.pow_add, Nat.mul_assoc]
        _ = n * (q * 2 ^ (-g).toNat) * 2 ^ (f - c).toNat := by rw [hq]; ring
    rw [hshifted, Nat.mul_mod_right, Nat.mul_div_cancel_left _ hn]
    exact .inr ⟨if_pos rfl, Nat.dvd_mul_left _ _⟩
  · exact .inl hnonneg

/-! ## Packing -/

theorem unpackSign_packComponents (s : Sign) (e : BitVec 11) (m : BitVec 52) :
    @unpackSign Format.binary64 (packComponents Format.binary64 s e m) = s.toBitVec := by
  ext i hi
  obtain rfl : i = 0 := by omega
  change ((s.toBitVec ++ e ++ m).extractLsb 63 63).getLsbD 0 = s.toBitVec.getLsbD 0
  rw [BitVec.getLsbD_extractLsb, BitVec.getLsbD_append, BitVec.getLsbD_append]
  rfl

theorem ofBitVec_toBitVec (s : Sign) : Sign.ofBitVec s.toBitVec = s := by
  cases s <;> rfl

/-- A double with all its digits is unpacked as it was packed, unless it is too large. -/
theorem unpack_pack_finite (s : Sign) {m : Nat} {e : Int} (hpos : 0 < m) (hlow : 2 ^ 52 ≤ m) (hhigh : m < 2 ^ 53)
    (he : -1074 ≤ e) : (Float.Model.pack (.finite s m e hpos)).unpack =
      if 971 < e then .infinity s else .finite s m e hpos := by
  have hbias : ((Format.binary64.exponentBias : Nat) : Int) = 1023 := rfl
  unfold Float.Model.unpack Float.Model.pack
  generalize hb : (e + 1023 + ((52 : Nat) : Int)).toNat = b
  simp only [UnpackedFloat.pack, hbias, Format.mantissaBits, log2_eq hlow hhigh, hb,
    show 2 ^ 11 ≤ b + 1 ↔ 971 < e by omega]
  split
  · cases s <;> rfl
  · rename_i hrange
    have hexponent : (BitVec.ofNat 11 b).toNat = b := by
      rw [BitVec.toNat_ofNat]
      exact Nat.mod_eq_of_lt (by omega)
    have htop : BitVec.ofNat 11 b ≠ -1#11 := fun h => by
      have h := hexponent.symm.trans (congrArg BitVec.toNat h)
      rw [show (-1#11 : BitVec 11).toNat = 2047 from rfl] at h
      omega
    have hlowest : BitVec.ofNat 11 b ≠ 0#11 := fun h => by
      have h := hexponent.symm.trans (congrArg BitVec.toNat h)
      rw [show (0#11 : BitVec 11).toNat = 0 from rfl] at h
      omega
    have hmantissa : (1#1 ++ BitVec.ofNat 52 m).toNat = m := by
      rw [BitVec.toNat_append, ← Nat.shiftLeft_add_eq_or_of_lt (BitVec.isLt _), BitVec.toNat_ofNat]
      change 1 <<< 52 + m % 2 ^ 52 = m
      omega
    simp only [if_pos, UnpackedFloat.unpack, unpackExponent_packComponents, unpackMantissa_packComponents,
      unpackSign_packComponents, ofBitVec_toBitVec, if_neg htop, if_neg hlowest, hexponent, hbias, hmantissa,
      UnpackedFloat.finite.injEq, true_and]
    omega

/-- A number with 53 digits of which those behind the point are zeros is not too small. -/
theorem Whole.least_exponent {s : Sign} {m : Nat} {e : Int} {hpos : 0 < m} (h : Whole (.finite s m e hpos)) :
    -1074 ≤ e := by
  cases h with
  | finite _ _ _ _ _ hhigh hdvd =>
    have hle := Nat.lt_of_le_of_lt (Nat.le_of_dvd hpos hdvd) hhigh
    have := (Nat.pow_lt_pow_iff_right (by decide : 1 < 2)).1 hle
    omega

theorem Whole.stored (hu : Whole u) : Whole (Float.Model.pack u).unpack := by
  cases hu with
  | notANumber => exact .notANumber
  | infinity s => cases s <;> exact .infinity _
  | zero s => cases s <;> exact .zero _
  | finite s m e hpos hlow hhigh hdvd =>
    have hwhole := Whole.finite s m e hpos hlow hhigh hdvd
    rw [unpack_pack_finite s hpos hlow hhigh hwhole.least_exponent]
    split
    · exact .infinity s
    · exact hwhole

/-! ## Doubles -/

theorem Stands.whole_iff {i : Int} (h : Stands u i) : Whole u ↔ unit ∣ i.natAbs := by
  have hplaces : places = 1074 := rfl
  cases h with
  | zero s => exact iff_of_true (.zero s) (Nat.dvd_zero _)
  | finite s m d e hpos hm hnormal he =>
    rw [natAbs_apply, unit]
    constructor
    · intro h
      cases h with
      | finite _ _ _ _ _ _ hdvd =>
        calc 2 ^ places ∣ 2 ^ ((-e).toNat + d) := Nat.pow_dvd_pow 2 (by omega)
          _ = 2 ^ (-e).toNat * 2 ^ d := Nat.pow_add _ _ _
          _ ∣ m * 2 ^ d := Nat.mul_dvd_mul_right hdvd _
    · intro h
      have hdvd : 2 ^ (-e).toNat ∣ m := by
        rcases Nat.le_total places d with hd | hd
        · rw [show (-e).toNat = 0 by omega]
          exact Nat.one_dvd m
        · rw [show places = (-e).toNat + d by omega, Nat.pow_add] at h
          exact Nat.dvd_of_mul_dvd_mul_right (Nat.two_pow_pos d) h
      -- A number below the normal ones is below one.
      have hd : 0 < d := by
        have hlt := (Nat.pow_lt_pow_iff_right (by decide : 1 < 2)).1 (Nat.lt_of_le_of_lt (Nat.le_of_dvd hpos hdvd) hm)
        omega
      exact .finite s m e hpos (hnormal hd) hm hdvd

theorem exponent_of_not_finite {b : UInt64}
    (h : (UnpackedFloat.unpack Format.binary64 b.toBitVec).isFinite = false) : exponent b = 2047 := by
  have hexponent := toNat_unpackExponent b
  unfold UnpackedFloat.unpack at h
  dsimp only at h
  split at h
  · rename_i htop
    rw [← hexponent, htop]
    rfl
  · split at h
    · split at h <;> cases h
    · cases h

theorem whole_unpack_iff (b : UInt64) :
    Whole (UnpackedFloat.unpack Format.binary64 b.toBitVec) ↔ unit ∣ magnitude b := by
  cases hfinite : (UnpackedFloat.unpack Format.binary64 b.toBitVec).isFinite with
  | true => rw [(stands_unpack b hfinite).whole_iff, natAbs_apply]
  | false =>
    refine iff_of_true ?_ ?_
    · generalize UnpackedFloat.unpack Format.binary64 b.toBitVec = u at hfinite
      cases u with
      | notANumber => exact .notANumber
      | infinity s => exact .infinity s
      | zero | finite => cases hfinite
    · have hexponent := exponent_of_not_finite hfinite
      have hplaces : places = 1074 := rfl
      rw [magnitude, if_neg (by omega)]
      exact Nat.dvd_mul_left_of_dvd (Nat.pow_dvd_pow 2 (by omega)) _

theorem lacksFraction_iff_unpack (x : Float) : lacksFraction x = true ↔ Whole x.toModel.unpack :=
  (lacksFraction_iff x).trans (whole_unpack_iff x.toBits).symm

theorem lacksFraction_ofBits {b : UInt64} (h : unit ∣ magnitude b) : lacksFraction (Float.ofBits b) = true :=
  (lacksFraction_iff_unpack _).2 ((whole_unpack_iff b).2 h).stored

/-- The magnitude is made of all bits but the first. -/
theorem magnitude_eq_of_mod {b c : UInt64} (h : b.toNat % 2 ^ 63 = c.toNat % 2 ^ 63) : magnitude b = magnitude c := by
  have hfraction : fraction b = fraction c := by
    unfold fraction
    omega
  have hexponent : exponent b = exponent c := by
    unfold exponent
    omega
  rw [magnitude, hfraction, hexponent, magnitude]

theorem toNat_unsigned (b : UInt64) : (b &&& 0x7FFFFFFFFFFFFFFF).toNat = b.toNat % 2 ^ 63 := by
  rw [UInt64.toNat_and]
  exact Nat.and_two_pow_sub_one_eq_mod b.toNat 63

theorem toNat_signed (b c : UInt64) :
    ((b &&& 0x7FFFFFFFFFFFFFFF) ||| (c &&& 0x8000000000000000)).toNat % 2 ^ 63 = b.toNat % 2 ^ 63 := by
  rw [UInt64.toNat_or, toNat_unsigned, UInt64.toNat_and]
  change (b.toNat % 2 ^ 63 ||| c.toNat &&& 2 ^ 63) % 2 ^ 63 = _
  rw [Nat.and_two_pow, Nat.or_comm, Nat.mul_comm, ← Nat.two_pow_add_eq_or_of_lt (Nat.mod_lt _ (by decide))]
  omega

end Double

open Double

section

variable {x y : Float}

theorem lacksFraction_add (hx : lacksFraction x = true) (hy : lacksFraction y = true) :
    lacksFraction (x + y) = true := by
  rw [lacksFraction_iff_unpack] at hx hy ⊢
  exact (hx.add hy).stored

theorem lacksFraction_sub (hx : lacksFraction x = true) (hy : lacksFraction y = true) :
    lacksFraction (x - y) = true := by
  rw [lacksFraction_iff_unpack] at hx hy ⊢
  exact (hx.sub hy).stored

theorem lacksFraction_mul (hx : lacksFraction x = true) (hy : lacksFraction y = true) :
    lacksFraction (x * y) = true := by
  rw [lacksFraction_iff_unpack] at hx hy ⊢
  exact (hx.mul hy).stored

theorem lacksFraction_neg (hx : lacksFraction x = true) : lacksFraction (-x) = true := by
  rw [lacksFraction_iff_unpack] at hx ⊢
  exact hx.neg.stored

end

/-! ## Decimal numbers -/

namespace Double

/-- Rounding leaves a mantissa of 53 digits as it is. -/
theorem roundWithAccuracy_exact (s : Sign) {m : Nat} {e : Int} (hpos : 0 < m) (hlow : 2 ^ 52 ≤ m) (hhigh : m < 2 ^ 53)
    (h : 2 ^ (-e).toNat ∣ m) : roundWithAccuracy Format.binary64 s m e .exact = .finite s m e hpos := by
  have hlog : m.log2 - 52 = 0 := by rw [log2_eq hlow hhigh]
  have hshift : shiftToTargetExponent Format.binary64 m e .exact = (⟨m, false, false⟩, e) := by
    rw [shiftToTargetExponent_exact hlow (.inr h) (by simp [hlog])]
    simp [hlog]
  unfold roundWithAccuracy
  simp only [hshift, ExtendedMantissa.roundedMantissa, ExtendedMantissa.accuracy, Accuracy.roundToNearestEven,
    Nat.ne_of_gt hpos, dite_false]

theorem unpack_toFloat {n : Nat} (hpos : 0 < n) (hn : n < 2 ^ 53) :
    n.toUInt64.toFloat.toModel.unpack =
      .finite .positive (n <<< (52 - n.log2)) (n.log2 - 52) (by rw [Nat.shiftLeft_eq]; positivity) := by
  have hnat : n.toUInt64.toNat = n := Nat.mod_eq_of_lt (by omega)
  have hlog : n.log2 ≤ 52 := Nat.le_of_lt_succ ((Nat.log2_lt (Nat.ne_of_gt hpos)).2 hn)
  have hlow : 2 ^ 52 ≤ n <<< (52 - n.log2) := by
    rw [Nat.shiftLeft_eq]
    calc 2 ^ 52 = 2 ^ n.log2 * 2 ^ (52 - n.log2) := by rw [← Nat.pow_add, Nat.add_sub_cancel' hlog]
      _ ≤ n * 2 ^ (52 - n.log2) := Nat.mul_le_mul_right _ (Nat.log2_self_le (Nat.ne_of_gt hpos))
  have hhigh : n <<< (52 - n.log2) < 2 ^ 53 := by
    rw [Nat.shiftLeft_eq]
    calc n * 2 ^ (52 - n.log2) < 2 ^ (n.log2 + 1) * 2 ^ (52 - n.log2) :=
          Nat.mul_lt_mul_of_pos_right Nat.lt_log2_self (Nat.two_pow_pos _)
      _ = 2 ^ 53 := by rw [← Nat.pow_add]; congr 1; omega
  have hdvd : 2 ^ (-((n.log2 : Int) - 52)).toNat ∣ n <<< (52 - n.log2) := by
    rw [Nat.shiftLeft_eq, show (-((n.log2 : Int) - 52)).toNat = 52 - n.log2 by omega]
    exact Nat.dvd_mul_left _ _
  have hround : UnpackedFloat.ofUInt64 Format.binary64 n.toUInt64 =
      .finite .positive (n <<< (52 - n.log2)) (n.log2 - 52) (by omega) := by
    unfold UnpackedFloat.ofUInt64 UnpackedFloat.ofNat UnpackedFloat.ofInt UnpackedFloat.normalize
    rw [hnat, Int.compare_eq_gt.2 (by omega)]
    unfold UnpackedFloat.round decreaseExponent
    simp only [Int.toNat_natCast, targetExponent_eq (show 0 ≤ (n.log2 : Int) + 0 by omega)]
    rw [← roundWithAccuracy_exact .positive (by omega) hlow hhigh hdvd]
    congr 1
    · congr 1
      omega
    · omega
  change (Float.Model.pack (UnpackedFloat.ofUInt64 Format.binary64 n.toUInt64)).unpack = _
  rw [hround, unpack_pack_finite .positive _ hlow hhigh (by omega), if_neg (by omega)]

theorem powersOfTen_exact : ∀ k : Fin Float.exactlyRepresentablePowersOfTen.size,
    (match Float.exactlyRepresentablePowersOfTen[k].toModel.unpack with
      | .finite .positive m e _ => decide (-52 ≤ e ∧ m * 2 ^ (e + 52).toNat = 10 ^ k.val * 2 ^ 52)
      | _ => false) = true := by
  decide +kernel

theorem whole_ofScientific {n : Nat} {e : Int} (h : e < 0 → 10 ^ (-e).toNat ∣ n) :
    Whole (UnpackedFloat.ofScientific Format.binary64 n e) := by
  unfold UnpackedFloat.ofScientific
  split_ifs with hzero hlarge hsmall hnonneg
  · exact .zero _
  · exact .infinity _
  · exact .zero _
  · change Whole (roundWithAccuracy Format.binary64 _ (n <<< 53 * 10 ^ e.toNat) (-53 + 0) .exact)
    have hdvd : 2 ^ 53 ∣ n <<< 53 * 10 ^ e.toNat := by
      rw [Nat.shiftLeft_eq, Nat.mul_right_comm]
      exact Nat.dvd_mul_left _ _
    have hpos : 0 < n <<< 53 * 10 ^ e.toNat := by
      rw [Nat.shiftLeft_eq]
      positivity
    exact whole_round _ (Nat.le_trans (by decide) (Nat.le_of_dvd hpos hdvd)) (.inr ⟨rfl, hdvd⟩)
  · refine whole_div _ _ _ _ (Int.le_refl 0) (Int.le_refl 0) ?_
    simpa using h (by omega)

theorem lacksFraction_ofScientific_zero (n : Nat) : lacksFraction (Float.ofScientific n false 0) = true := by
  unfold Float.ofScientific
  split
  · have hnat : lacksFraction n.toUInt64.toFloat = true :=
      (lacksFraction_iff_unpack _).2 (whole_normalize .positive (Nat.one_dvd _)).stored
    have hone : lacksFraction (Float.ofBits 0x3FF0000000000000) = true := rfl
    exact lacksFraction_mul hnat hone
  · exact (lacksFraction_iff_unpack _).2 (whole_ofScientific fun h => absurd h (by decide)).stored

theorem lacksFraction_ofScientific {n k : Nat} (h : 10 ^ k ∣ n) :
    lacksFraction (Float.ofScientific n true k) = true := by
  rw [lacksFraction_iff_unpack]
  unfold Float.ofScientific
  split
  · rename_i hsmall
    have hk : k < Float.exactlyRepresentablePowersOfTen.size := Nat.lt_succ_of_le hsmall.2
    change Whole (Float.Model.pack (UnpackedFloat.div Format.binary64 n.toUInt64.toFloat.toModel.unpack
      Float.exactlyRepresentablePowersOfTen[k].toModel.unpack)).unpack
    refine Whole.stored ?_
    have hpower := powersOfTen_exact ⟨k, hk⟩
    dsimp only [Fin.getElem_fin] at hpower
    split at hpower
    · rename_i m e hm hunpack
      rw [hunpack]
      obtain ⟨he, heq⟩ := of_decide_eq_true hpower
      rcases Nat.eq_zero_or_pos n with rfl | hpos
      · exact .zero _
      · rw [unpack_toFloat hpos hsmall.1]
        refine whole_div _ _ _ _ (c := -52) (by omega) he ?_
        have hlog : n.log2 ≤ 52 := Nat.le_of_lt_succ ((Nat.log2_lt (Nat.ne_of_gt hpos)).2 hsmall.1)
        rw [Int.sub_neg, heq, Nat.shiftLeft_eq, Nat.mul_assoc, ← Nat.pow_add,
          show 52 - n.log2 + ((n.log2 : Int) - 52 - -52).toNat = 52 by omega]
        exact Nat.mul_dvd_mul_right h _
    · cases hpower
  · refine ((whole_ofScientific fun _ => ?_).stored)
    simpa [Int.negOfNat_eq] using h

end Double

theorem lacksFraction_zero : lacksFraction 0 = true := lacksFraction_ofScientific_zero 0

theorem Elementary.lacksFraction_infinity : lacksFraction infinity = true :=
  (lacksFraction_iff_unpack _).2 (.infinity .positive)

theorem Elementary.lacksFraction_notANumber : lacksFraction notANumber = true :=
  (lacksFraction_iff_unpack _).2 .notANumber

theorem lacksFraction_scaledFloat {m : Nat} {e : Int} (h : 2 ^ (-e).toNat ∣ m) :
    lacksFraction (scaledFloat m e) = true := by
  unfold scaledFloat
  split_ifs with hzero hlarge hsmall hnonneg
  · exact lacksFraction_zero
  · exact Elementary.lacksFraction_infinity
  · exact lacksFraction_zero
  · exact lacksFraction_ofScientific_zero _
  · refine lacksFraction_ofScientific ?_
    rw [show 10 = 2 * 5 from rfl, Nat.mul_pow, show e.natAbs = (-e).toNat by omega]
    exact Nat.mul_dvd_mul_right h _

/-! ## Elementary functions -/

namespace Elementary

variable {x y : Float}

theorem lacksFraction_lesser (hx : lacksFraction x = true) (hy : lacksFraction y = true) :
    lacksFraction (lesser x y) = true := by
  unfold lesser
  split_ifs
  · exact lacksFraction_notANumber
  all_goals assumption

theorem lacksFraction_greater (hx : lacksFraction x = true) (hy : lacksFraction y = true) :
    lacksFraction (greater x y) = true := by
  unfold greater
  split_ifs
  · exact lacksFraction_notANumber
  all_goals assumption

theorem lacksFraction_minimum (hx : lacksFraction x = true) (hy : lacksFraction y = true) :
    lacksFraction (minimum x y) = true := by
  unfold minimum
  split
  · exact lacksFraction_neg lacksFraction_infinity
  · exact lacksFraction_lesser hx hy

theorem lacksFraction_maximum (hx : lacksFraction x = true) (hy : lacksFraction y = true) :
    lacksFraction (maximum x y) = true := by
  unfold maximum
  split
  · exact lacksFraction_infinity
  · exact lacksFraction_greater hx hy

theorem lacksFraction_magnitude (hx : lacksFraction x = true) : lacksFraction (magnitude x) = true := by
  refine lacksFraction_ofBits ?_
  rw [magnitude_eq_of_mod (c := x.toBits) (by rw [toNat_unsigned, Nat.mod_mod])]
  exact (lacksFraction_iff x).1 hx

theorem lacksFraction_withSign (hx : lacksFraction x = true) (sign : Float) :
    lacksFraction (withSign x sign) = true := by
  refine lacksFraction_ofBits ?_
  rw [magnitude_eq_of_mod (toNat_signed _ _)]
  exact (lacksFraction_iff x).1 hx

theorem dvd_exact (hx : lacksFraction x = true) : 2 ^ (-(exact x).2).toNat ∣ (exact x).1.natAbs := by
  have habs : (exact x).1.natAbs = (Decimal.Binary.ofBits x.toBits).m := by
    unfold exact
    dsimp only
    split
    · exact Int.natAbs_neg _
    · rfl
  rw [habs]
  exact Nat.dvd_of_mod_eq_zero (beq_iff_eq.1 hx)

theorem lacksFraction_modulo (hx : lacksFraction x = true) (hy : lacksFraction y = true) :
    lacksFraction (modulo x y) = true := by
  unfold modulo
  split_ifs
  · exact lacksFraction_notANumber
  · exact hx
  · refine lacksFraction_withSign (lacksFraction_scaledFloat ?_) x
    have hxe := pow_dvd_decreased (Int.min_le_left (exact x).2 (exact y).2) (dvd_exact hx)
    have hye := pow_dvd_decreased (Int.min_le_right (exact x).2 (exact y).2) (dvd_exact hy)
    rw [Nat.shiftLeft_eq] at hxe hye
    exact (Nat.dvd_mod_iff hye).2 hxe

end Elementary

end SceneGraph
