import Mathlib
import SceneGraph.Proofs.DistinctIds
import SceneGraph.Proofs.Documents
import SceneGraph.Proofs.Settled

/-!
# Checked parameters

Validation checks the numbers that nodes carry as doubles, and what reads them takes integer parts. Two things link the
check to the reader: the integer parts of doubles are ordered as the doubles are, and preparation keeps every node as
validation left it, save for its id and where its image comes from.

* `Double.compare_of_stands`: doubles compare as the integers they stand for, in units of the least positive one.
* `truncated_le`, `truncated_pos`, `toInt64_le`: bounds of integer parts.
* `Schema.Conforms`: a node carries normal forms and defaults.
* `Scene.Readied`: the scene and the order that preparation bakes, `Scene.Readied.conforms`: its nodes conform.
-/
set_option autoImplicit false

namespace SceneGraph

/-! ## Bits of doubles -/

namespace Double
open Float.Model UnpackedFloat

/-- The digits of a double behind the leading one. -/
def fraction (b : UInt64) : Nat := b.toNat % 2 ^ 52

/-- The exponent of a double as it is stored. -/
def exponent (b : UInt64) : Nat := b.toNat / 2 ^ 52 % 2 ^ 11

theorem fraction_lt (b : UInt64) : fraction b < 2 ^ 52 := Nat.mod_lt _ (by decide)

theorem toNat_fraction (b : UInt64) : (b &&& 0xFFFFFFFFFFFFF).toNat = fraction b := by
  have h := Nat.and_two_pow_sub_one_eq_mod b.toNat 52
  rw [UInt64.toNat_and]
  simpa [fraction] using h

theorem toNat_exponent (b : UInt64) : ((b >>> 52) &&& 0x7FF).toNat = exponent b := by
  have h := Nat.and_two_pow_sub_one_eq_mod (b.toNat / 2 ^ 52) 11
  rw [UInt64.toNat_and, UInt64.toNat_shiftRight]
  simpa [Nat.shiftRight_eq_div_pow, exponent] using h

theorem toNat_unpackMantissa (b : UInt64) :
    (@unpackMantissa Format.binary64 b.toBitVec).toNat = fraction b := by
  simp [unpackMantissa_def, BitVec.extractLsb', fraction]

theorem toNat_unpackExponent (b : UInt64) :
    (@unpackExponent Format.binary64 b.toBitVec).toNat = exponent b := by
  simp [unpackExponent_def, BitVec.extractLsb', Nat.shiftRight_eq_div_pow, exponent]

theorem unpackSign_eq (b : UInt64) : Sign.ofBitVec (@unpackSign Format.binary64 b.toBitVec) =
    if b >>> 63 == 1 then .negative else .positive := by
  have hlt : b.toNat < 2 ^ 64 := b.toBitVec.isLt
  have hsign : (@unpackSign Format.binary64 b.toBitVec).toNat = b.toNat / 2 ^ 63 % 2 := by
    simp [unpackSign_def, BitVec.extractLsb', Nat.shiftRight_eq_div_pow]
  have hone : b >>> 63 = 1 ↔ b.toNat / 2 ^ 63 = 1 := by
    rw [← UInt64.toNat_inj, UInt64.toNat_shiftRight]
    simp [Nat.shiftRight_eq_div_pow]
  have hzero : @unpackSign Format.binary64 b.toBitVec = 0#1 ↔ ¬b >>> 63 = 1 := by
    rw [← BitVec.toNat_inj, hsign, hone, BitVec.toNat_ofNat]
    omega
  simp only [Sign.ofBitVec, hzero, beq_iff_eq, ite_not]

/-- The magnitude of a finite double as a multiple of the least positive one, `2 ^ -1074`. -/
def magnitude (b : UInt64) : Nat :=
  if exponent b = 0 then fraction b else (2 ^ 52 + fraction b) * 2 ^ (exponent b - 1)

/-- A finite double as a multiple of the least positive one. -/
def units (x : Float) : Int := if x.toBits >>> 63 == 1 then -(magnitude x.toBits : Int) else magnitude x.toBits

/-- An unpacked finite double stands for a number of units. -/
inductive Stands : UnpackedFloat → Int → Prop
  | zero (s : Sign) : Stands (.zero s) 0
  | finite (s : Sign) (m d : Nat) (e : Int) (hpos : 0 < m) (hm : m < 2 ^ 53) (hnormal : 0 < d → 2 ^ 52 ≤ m)
      (he : e = d - 1074) : Stands (.finite s m e hpos) (s.apply (m * 2 ^ d : Nat))

theorem stands_unpack (b : UInt64) (h : (UnpackedFloat.unpack Format.binary64 b.toBitVec).isFinite = true) :
    Stands (UnpackedFloat.unpack Format.binary64 b.toBitVec)
      ((Sign.ofBitVec (@unpackSign Format.binary64 b.toBitVec)).apply (magnitude b)) := by
  have hexponent := toNat_unpackExponent b
  have hfraction := toNat_unpackMantissa b
  have hbias : ((Format.binary64.exponentBias : Nat) : Int) + ((52 : Nat) : Int) = 1075 := rfl
  have hlt := fraction_lt b
  unfold UnpackedFloat.unpack at h ⊢
  simp only [hbias, hexponent] at h ⊢
  split at h
  · split at h <;> cases h
  · rename_i hspecial
    rw [if_neg hspecial]
    generalize Sign.ofBitVec (@unpackSign Format.binary64 b.toBitVec) = s
    unfold magnitude
    split
    · rename_i hzero
      rw [hzero] at hexponent
      have hstored : exponent b = 0 := hexponent.symm
      rw [if_pos hstored]
      split
      · rename_i hmzero
        rw [hmzero] at hfraction
        rw [← hfraction]
        cases s <;> exact .zero _
      · rw [← hfraction] at hlt ⊢
        have hone := Stands.finite s _ 0 ((exponent b : Int) - 1075 + 1)
          (Nat.pos_of_ne_zero fun h => ‹¬@unpackMantissa Format.binary64 b.toBitVec = _› (BitVec.toNat_inj.1 h))
          (Nat.lt_trans hlt (by decide)) (by omega) (by omega)
        simpa using hone
    · rename_i hzero
      have hpos : exponent b ≠ 0 := fun h => hzero (BitVec.toNat_inj.1 (hexponent.trans h))
      have hone : (1#1 ++ @unpackMantissa Format.binary64 b.toBitVec).toNat = 2 ^ 52 + fraction b := by
        rw [BitVec.toNat_append, ← Nat.shiftLeft_add_eq_or_of_lt (BitVec.isLt _), hfraction]
        rfl
      rw [if_neg hpos, ← hone]
      exact .finite s _ _ _ _ (by omega) (by omega) (by omega)

theorem stands (x : Float) (h : x.isFinite = true) : Stands x.toModel.unpack (units x) := by
  have hstands := stands_unpack x.toBits h
  have hunits : units x = (Sign.ofBitVec (@unpackSign Format.binary64 x.toBits.toBitVec)).apply
      (magnitude x.toBits) := by
    rw [unpackSign_eq]
    unfold units
    split <;> rfl
  rw [hunits]
  exact hstands

theorem lex_eq {m d n e : Nat} (hm : m < 2 ^ 53) (hn : n < 2 ^ 53) (hm' : 0 < d → 2 ^ 52 ≤ m)
    (hn' : 0 < e → 2 ^ 52 ≤ n) :
    (compare ((d : Int) - 1074) ((e : Int) - 1074)).then (compare m n) = compare (m * 2 ^ d) (n * 2 ^ e) := by
  have hless : ∀ {m d n e : Nat}, m < 2 ^ 53 → (0 < e → 2 ^ 52 ≤ n) → d < e → m * 2 ^ d < n * 2 ^ e := by
    intro m d n e hm hn hde
    calc m * 2 ^ d < 2 ^ 53 * 2 ^ d := Nat.mul_lt_mul_of_pos_right hm (Nat.two_pow_pos _)
      _ = 2 ^ 52 * 2 ^ (d + 1) := by rw [Nat.pow_succ]; omega
      _ ≤ n * 2 ^ e := Nat.mul_le_mul (hn (by omega)) (Nat.pow_le_pow_right (by decide) hde)
  rcases Nat.lt_trichotomy d e with hde | rfl | hde
  · rw [Int.compare_eq_lt.2 (by omega), Nat.compare_eq_lt.2 (hless hm hn' hde)]
    rfl
  · rw [Int.compare_eq_eq.2 rfl]
    rcases Nat.lt_trichotomy m n with hmn | rfl | hmn
    · rw [Nat.compare_eq_lt.2 hmn, Nat.compare_eq_lt.2 (Nat.mul_lt_mul_of_pos_right hmn (Nat.two_pow_pos _))]
      rfl
    · rw [Nat.compare_eq_eq.2 rfl, Nat.compare_eq_eq.2 rfl]
      rfl
    · rw [Nat.compare_eq_gt.2 hmn, Nat.compare_eq_gt.2 (Nat.mul_lt_mul_of_pos_right hmn (Nat.two_pow_pos _))]
      rfl
  · rw [Int.compare_eq_gt.2 (by omega), Nat.compare_eq_gt.2 (hless hn hm' hde)]
    rfl

theorem compare_natCast (a b : Nat) : compare (a : Int) (b : Int) = compare a b := by
  rw [Int.compare_eq_ite_lt, Nat.compare_eq_ite_lt]
  simp only [Int.ofNat_lt]

theorem compare_neg (i j : Int) : compare (-i) (-j) = (compare i j).swap := by
  rw [Int.compare_swap, Int.compare_eq_ite_lt, Int.compare_eq_ite_lt]
  simp only [Int.neg_lt_neg_iff]

theorem neg_lt_of_pos {i j : Int} (hi : 0 < i) (hj : 0 < j) : -i < j := by omega

/-- Finite doubles compare as their multiples of the least positive one do. -/
theorem compare_of_stands {u v : UnpackedFloat} {i j : Int} (hu : Stands u i) (hv : Stands v j) :
    u.compare v = some (compare i j) := by
  have hpositive : ∀ {m d : Nat}, 0 < m → (0 : Int) < (m * 2 ^ d : Nat) := by
    intro m d hm
    exact_mod_cast Nat.mul_pos hm (Nat.two_pow_pos _)
  cases hu with
  | zero s =>
    cases hv with
    | zero t => rfl
    | finite t n e _ hn =>
      have hj := @hpositive n e hn
      cases t
      · exact congrArg some (Int.compare_eq_gt.2 (by change -_ < (0 : Int); omega)).symm
      · exact congrArg some (Int.compare_eq_lt.2 hj).symm
  | finite s m d _ hm hm' hnormal he =>
    have hi := @hpositive m d hm
    cases hv with
    | zero t =>
      cases s
      · exact congrArg some (Int.compare_eq_lt.2 (by change -_ < (0 : Int); omega)).symm
      · exact congrArg some (Int.compare_eq_gt.2 hi).symm
    | finite t n e _ hn hn' hnormal' he' =>
      have hj := @hpositive n e hn
      have hlex := lex_eq hm' hn' hnormal hnormal'
      subst he he'
      cases s with
      | negative =>
        cases t with
        | negative =>
          change some ((compare _ _).then (compare m n)).swap =
            some (compare (-((m * 2 ^ d : Nat) : Int)) (-((n * 2 ^ e : Nat) : Int)))
          rw [hlex, compare_neg, compare_natCast]
        | positive => exact congrArg some (Int.compare_eq_lt.2 (neg_lt_of_pos hi hj)).symm
      | positive =>
        cases t with
        | negative => exact congrArg some (Int.compare_eq_gt.2 (neg_lt_of_pos hj hi)).symm
        | positive =>
          change some ((compare _ _).then (compare m n)) =
            some (compare ((m * 2 ^ d : Nat) : Int) ((n * 2 ^ e : Nat) : Int))
          rw [hlex, compare_natCast]

theorem lt_iff {x y : Float} (hx : x.isFinite = true) (hy : y.isFinite = true) : x < y ↔ units x < units y := by
  have hmodel : x < y ↔ (x.toModel.unpack.compare y.toModel.unpack == some .lt) = true := decide_eq_true_iff
  rw [hmodel, compare_of_stands (stands x hx) (stands y hy), beq_iff_eq, Option.some.injEq, Int.compare_eq_lt]

theorem le_iff {x y : Float} (hx : x.isFinite = true) (hy : y.isFinite = true) : x ≤ y ↔ units x ≤ units y := by
  have hmodel : x ≤ y ↔ (x.toModel.unpack.compare y.toModel.unpack).any (·.isLE) = true := decide_eq_true_iff
  rw [hmodel, compare_of_stands (stands x hx) (stands y hy), Option.any_some, Int.isLE_compare]

/-- The binary digits behind the point of a whole number of units. -/
def places : Nat := 1074

/-- As many units as make up one. -/
def unit : Nat := 2 ^ places

theorem unit_pos : 0 < unit := Nat.two_pow_pos _

theorem magnitude_eq (b : UInt64) : (Decimal.Binary.ofBits b).m * 2 ^ (Decimal.Binary.ofBits b).q.toNat * unit =
    magnitude b * 2 ^ (-(Decimal.Binary.ofBits b).q).toNat := by
  unfold Decimal.Binary.ofBits magnitude
  simp only [toNat_exponent, toNat_fraction]
  split
  · dsimp only
    rw [show (-1074 : Int).toNat = 0 from rfl, show (-(-1074 : Int)).toNat = places from rfl, Nat.pow_zero,
      Nat.mul_one, unit]
  · rename_i hpos
    dsimp only
    have hexp : ((exponent b : Int) - 1075).toNat + places = exponent b - 1 + (-((exponent b : Int) - 1075)).toNat := by
      unfold places
      omega
    rw [unit, Nat.mul_assoc, Nat.mul_assoc, ← Nat.pow_add, ← Nat.pow_add, hexp, Nat.pow_eq]

theorem truncated_eq (x : Float) : truncated x = Int.tdiv (units x) unit := by
  have h := magnitude_eq x.toBits
  have hdiv : (Decimal.Binary.ofBits x.toBits).m * 2 ^ (Decimal.Binary.ofBits x.toBits).q.toNat /
      2 ^ (-(Decimal.Binary.ofBits x.toBits).q).toNat = magnitude x.toBits / unit := by
    rw [← Nat.mul_div_mul_right _ _ unit_pos, h, Nat.mul_comm (2 ^ _), Nat.mul_div_mul_right _ _ (Nat.two_pow_pos _)]
  unfold truncated units
  simp only [Nat.pow_eq, hdiv]
  split
  · rw [Int.neg_tdiv]
    rfl
  · rfl

theorem lacksFraction_iff (x : Float) : lacksFraction x = true ↔ unit ∣ magnitude x.toBits := by
  have h := magnitude_eq x.toBits
  unfold lacksFraction
  simp only [Nat.pow_eq, beq_iff_eq, ← Nat.dvd_iff_mod_eq_zero]
  rcases Int.le_total 0 (Decimal.Binary.ofBits x.toBits).q with hq | hq
  · rw [show (-(Decimal.Binary.ofBits x.toBits).q).toNat = 0 by omega, Nat.pow_zero] at h ⊢
    exact iff_of_true (Nat.one_dvd _) ⟨_, by rw [← Nat.mul_one (magnitude _), ← h, Nat.mul_comm]⟩
  · rw [show (Decimal.Binary.ofBits x.toBits).q.toNat = 0 by omega, Nat.pow_zero, Nat.mul_one] at h
    constructor
    · rintro ⟨k, hk⟩
      refine ⟨k, Nat.eq_of_mul_eq_mul_right (Nat.two_pow_pos _) (h.symm.trans ?_)⟩
      rw [hk, Nat.mul_comm (2 ^ _), Nat.mul_right_comm, Nat.mul_comm unit]
    · rintro ⟨k, hk⟩
      refine ⟨k, Nat.eq_of_mul_eq_mul_right unit_pos (h.trans ?_)⟩
      rw [hk, Nat.mul_comm unit, Nat.mul_right_comm, Nat.mul_comm k]

theorem units_of_lacksFraction {x : Float} (h : lacksFraction x = true) : units x = truncated x * unit := by
  have hdvd : (unit : Int) ∣ magnitude x.toBits := Int.natCast_dvd_natCast.2 ((lacksFraction_iff x).1 h)
  have hunits : (unit : Int) ∣ units x := by
    unfold units
    split
    · exact Int.dvd_neg.2 hdvd
    · exact hdvd
  rw [truncated_eq, Int.tdiv_mul_cancel hunits]

theorem isFinite_iff (x : Float) : x.isFinite = true ↔ ¬(x.isNaN || x.isInf) = true := by
  change x.toModel.unpack.isFinite = true ↔ ¬(x.toModel.unpack.isNaN || x.toModel.unpack.isInf) = true
  cases x.toModel.unpack <;> simp [UnpackedFloat.isFinite, UnpackedFloat.isNaN, UnpackedFloat.isInf]

end Double

open Double

/-! ## Integer parts -/

theorem lacksFraction_of_isWhole {x : Float} (h : isWhole x = true) : lacksFraction x = true :=
  (Bool.and_eq_true_iff.1 h).2

theorem isWhole_of_isFinite {x : Float} (hx : x.isFinite = true) (h : lacksFraction x = true) : isWhole x = true := by
  have hnumber := (isFinite_iff x).1 hx
  simp only [Bool.or_eq_true, not_or, Bool.not_eq_true] at hnumber
  rw [isWhole, hnumber.1, h]
  rfl

/-- The integer parts of doubles are ordered as the doubles are. -/
theorem truncated_le {x y : Float} (hx : x.isFinite = true) (hy : y.isFinite = true) (h : ¬y < x) :
    truncated x ≤ truncated y := by
  rw [lt_iff hy hx, Int.not_lt] at h
  rw [truncated_eq, truncated_eq]
  exact Int.tdiv_le_tdiv (by exact_mod_cast unit_pos) h

theorem truncated_pos {x : Float} (hx : x.isFinite = true) (hwhole : lacksFraction x = true) (h : ¬x ≤ 0) :
    0 < truncated x := by
  have hzero : units 0 = 0 := rfl
  rw [le_iff hx rfl, hzero, Int.not_le, units_of_lacksFraction hwhole] at h
  exact Int.pos_of_mul_pos_left h (Int.natCast_pos.2 unit_pos)

/-- Doubles without a 64-bit integer part become the least integer. -/
theorem toInt64_cases (x : Float) :
    toInt64 x = leastInt64 ∨ x.isFinite = true ∧ toInt64 x = truncated x ∧ leastInt64 ≤ truncated x ∧
      truncated x ≤ 9223372036854775807 := by
  unfold toInt64
  by_cases hfinite : (x.isNaN || x.isInf) = true
  · rw [if_pos hfinite]
    exact .inl rfl
  · rw [if_neg hfinite]
    by_cases hrange : (truncated x < leastInt64 || truncated x > 9223372036854775807) = true
    · simp only [if_pos hrange, true_or]
    · simp only [if_neg hrange]
      have hbounds : ¬(truncated x < leastInt64 ∨ truncated x > 9223372036854775807) := by simpa using hrange
      exact .inr ⟨(isFinite_iff x).2 hfinite, trivial, by omega, by omega⟩

namespace Schema

variable {s : Schema} {n m : Node}

/-- Under a name that its type declares, the node carries a normal form or the default. Where an image comes from is
left out: preparation copies that from node to node. -/
def Conforms (s : Schema) (n : Node) : Prop :=
  ∀ t, s.nodeType? n.type = some t → ∀ e ∈ n.params, e.1 ∉ Images.sourceKeys → ∀ p, t.params.get? e.1 = some p →
    p.Normal e.2 e.2 ∨ p.default = some e.2

theorem mem_checkParams {t : NodeType} {node : String} {ps qs : Table Value} (h : s.checkParams t node ps = .ok qs) :
    ∀ e ∈ qs, ∀ p, t.params.get? e.1 = some p → p.Normal e.2 e.2 := by
  induction ps generalizing qs with
  | nil =>
    cases h
    simp
  | cons d rest ih =>
    obtain ⟨kept, qs, hkept, hrest, rfl⟩ := checkParams_cons.1 h
    intro e he p hp
    rcases List.mem_append.1 he with he | he
    · obtain ⟨w, rfl, rfl⟩ := Option.map_eq_some_iff.1 (Option.mem_toList.1 he)
      rcases (keeps_iff_of_declared hp).1 hkept with ⟨-, hnone⟩ | ⟨-, w', hnormal, hsome⟩
      · cases hnone
      · exact Option.some.inj hsome ▸ hnormal.settled
    · exact ih hrest e he p hp

theorem mem_fillDefaults {params : Table ParamSpec} (h : fillDefaults params n = .ok m) :
    ∀ e ∈ m.params, e ∈ n.params ∨ ∃ p, (e.1, p) ∈ params ∧ p.default = some e.2 := by
  induction params generalizing n with
  | nil =>
    cases h
    exact fun e he => .inl he
  | cons d rest ih =>
    obtain ⟨name, p⟩ := d
    have hlater : ∀ {e : String × Value}, (∃ q, (e.1, q) ∈ rest ∧ q.default = some e.2) →
        ∃ q, (e.1, q) ∈ (name, p) :: rest ∧ q.default = some e.2 :=
      fun ⟨q, hq, hdefault⟩ => ⟨q, List.mem_cons_of_mem _ hq, hdefault⟩
    unfold fillDefaults at h
    split at h
    · exact fun e he => (ih h e he).imp_right hlater
    · split at h
      · cases h
      · split at h
        · rename_i v hdefault
          intro e he
          rcases ih h e he with he | he
          · rcases Table.mem_of_mem_insert he with rfl | he
            · exact .inr ⟨p, List.mem_cons_self, hdefault⟩
            · exact .inl he
          · exact .inr (hlater he)
        · exact fun e he => (ih h e he).imp_right hlater

theorem normalize_conforms (hs : s.Sound) (h : s.normalize n = .ok m) : s.Conforms m := by
  have htype := (normalize_keeps h).2
  intro t ht e he _ p hp
  rw [htype] at ht
  unfold normalize at h
  rw [ht] at h
  simp only [bind, Except.bind] at h
  split at h
  · cases h
  · rename_i checked hchecked
    rcases mem_fillDefaults h e he with he | ⟨q, hq, hdefault⟩
    · exact .inl (mem_checkParams hchecked e he p hp)
    · cases ((hs _ t ht).ascending.get?_eq_some_iff.2 hq).symm.trans hp
      exact .inr hdefault

theorem validate_conforms (hs : s.Sound) {sc valid : Scene} (h : s.validate sc = .ok valid) :
    (∀ n ∈ valid.nodes, s.Conforms n) ∧ ∀ g ∈ valid.groups, ∀ n ∈ g.nodes, s.Conforms n := by
  have hlist : ∀ {nodes made : List Node}, nodes.mapM s.normalize = .ok made → ∀ n ∈ made, s.Conforms n := by
    intro nodes made hmade n hn
    obtain ⟨_, _, hnormal⟩ := exists_mem_of_mapM hmade hn
    exact normalize_conforms hs hnormal
  unfold validate at h
  simp only [bind, Except.bind] at h
  split at h
  · cases h
  · rename_i nodes hnodes
    split at h
    · cases h
    · rename_i groups hgroups
      split at h
      · cases h
      · cases h
        refine ⟨hlist hnodes, fun g hg => ?_⟩
        obtain ⟨g', _, hnormal⟩ := exists_mem_of_mapM hgroups hg
        unfold normalizeGroup at hnormal
        simp only [bind, Except.bind] at hnormal
        split at hnormal
        · cases hnormal
        · rename_i inner hinner
          split at hnormal
          · cases hnormal
          · cases hnormal
            exact hlist hinner

end Schema

/-! ## Preparation keeps them -/

theorem Groups.expand_conforms {schema : Schema} {depth : Int} {s t : Scene} (h : ∀ n ∈ s.nodes, schema.Conforms n)
    (hgroups : ∀ g ∈ s.groups, ∀ n ∈ g.nodes, schema.Conforms n) (hexpand : (expand depth s).result = .ok t) :
    ∀ n ∈ t.nodes, schema.Conforms n := by
  refine (expand_invariant (P := fun nodes _ _ => ∀ n ∈ nodes, schema.Conforms n) ?_ h hexpand).1
  intro as n bs g r hg _ hnodes m hm
  simp only [List.mem_append] at hm
  rcases hm with (hm | hm) | hm
  · exact hnodes m (List.mem_append_left _ hm)
  · obtain ⟨k, hk, rfl⟩ := List.mem_map.1 hm
    exact hgroups g (mem_of_group? hg) k hk
  · exact hnodes m (List.mem_append_right _ (List.mem_cons_of_mem _ hm))

namespace Images

theorem mem_copyKeys (source : Node) {keys : List String} {n : Node} {e : String × Value}
    (he : e ∈ (copyKeys source keys n).1.params) : e ∈ n.params ∨ e.1 ∈ keys := by
  induction keys generalizing n with
  | nil => exact .inl he
  | cons key rest ih =>
    unfold copyKeys at he
    split at he
    · rcases ih he with he | he
      · rcases Table.mem_of_mem_insert he with rfl | he
        · exact .inr List.mem_cons_self
        · exact .inl he
      · exact .inr (List.mem_cons_of_mem _ he)
    · exact (ih he).imp_right (List.mem_cons_of_mem _)

theorem mem_replaceLast {n m : Node} {nodes : List Node} (h : m ∈ replaceLast n nodes) : m = n ∨ m ∈ nodes := by
  have hgo : ∀ l : List Node, m ∈ replaceLast.go n l → m = n ∨ m ∈ l := by
    intro l hm
    induction l with
    | nil => exact .inr hm
    | cons k rest ih =>
      unfold replaceLast.go at hm
      split at hm
      · exact (List.mem_cons.1 hm).imp_right (List.mem_cons_of_mem _)
      · rcases List.mem_cons.1 hm with rfl | hm
        · exact .inr List.mem_cons_self
        · exact (ih hm).imp_right (List.mem_cons_of_mem _)
  exact (hgo _ (List.mem_reverse.1 h)).imp_right List.mem_reverse.1

theorem inlineAll_conforms {schema : Schema} {conns : List Connection} {count : Nat} {s t : Scene}
    (h : ∀ n ∈ s.nodes, schema.Conforms n) (hinline : (inlineAll schema conns count s).result = .ok t) :
    ∀ n ∈ t.nodes, schema.Conforms n := by
  induction conns generalizing count s with
  | nil =>
    cases hinline
    exact h
  | cons c rest ih =>
    unfold inlineAll at hinline
    split at hinline
    · exact ih h hinline
    · split at hinline
      · exact ih h hinline
      · rename_i consumer hconsumer
        split at hinline
        · cases hinline
        · rename_i source hsource
          split at hinline
          · cases hinline
          · simp only at hinline
            refine ih (fun n hn => ?_) hinline
            rcases mem_replaceLast hn with rfl | hn
            · intro t ht e he hkey p hp
              rw [(Schema.keeps_of_bare (copyKeys_bare source sourceKeys consumer)).2] at ht
              have hold := (mem_copyKeys source he).resolve_right hkey
              exact h consumer (Scene.indexed?_eq_some hconsumer).2 t ht e hold hkey p hp
            · exact h n hn

end Images

namespace Wrap

theorem wrapAll_conforms {schema : Schema} (hs : schema.Sound) {s : Scene} {conns : List Connection} {count : Nat}
    {made : List Connection × List Node × List Connection} (h : wrapAll schema s conns count = .ok made) :
    ∀ n ∈ made.2.1, schema.Conforms n := by
  induction conns generalizing count made with
  | nil =>
    cases h
    simp
  | cons c rest ih =>
    unfold wrapAll at h
    split at h
    · simp only [bind, Except.bind] at h
      split at h
      · cases h
      · rename_i made' hmade'
        cases h
        exact fun n hn => ih hmade' n hn
    · simp only at h
      split at h
      · cases h
      · rename_i node hnode
        simp only [bind, Except.bind] at h
        split at h
        · cases h
        · rename_i made' hmade'
          cases h
          exact List.forall_mem_cons.2 ⟨Schema.normalize_conforms hs hnode, ih hmade'⟩

theorem autoWrap_conforms {schema : Schema} (hs : schema.Sound) {s t : Scene} (h : ∀ n ∈ s.nodes, schema.Conforms n)
    (hwrap : (autoWrap schema s).result = .ok t) : ∀ n ∈ t.nodes, schema.Conforms n := by
  obtain ⟨conns, nodes, extra, hmade, rfl⟩ := autoWrap_made hwrap
  exact List.forall_mem_append.2 ⟨h, wrapAll_conforms hs hmade⟩

end Wrap

namespace Scene

/-- The scene that preparation bakes, and the order of its nodes. -/
structure Readied (s : Scene) (schema : Schema) (options : PrepareOptions) (t : Scene) (order : List String) :
    Prop where
  steps : ∃ expanded inlined wrapped, (Groups.expand options.maxGroupDepth s).result = .ok expanded ∧
    Prepare.recheck schema (Groups.expand options.maxGroupDepth s).count expanded = .ok () ∧
    (Images.inline schema expanded).result = .ok inlined ∧ (Wrap.autoWrap schema inlined).result = .ok wrapped ∧
    t = Graph.treeShake wrapped
  order : Graph.topologicalOrder t = .ok order

variable {s t valid : Scene} {schema : Schema} {options : PrepareOptions} {order : List String}

theorem PreparedFrom.readied {p : Prepared} {expanded inlined wrapped : Scene}
    (h : s.PreparedFrom schema options p expanded inlined wrapped) : s.Readied schema options p.scene p.order :=
  ⟨⟨expanded, inlined, wrapped, h.expand, h.recheck, h.inline, h.wrap, h.scene⟩, h.order⟩

theorem Readied.conforms (h : valid.Readied schema options t order) (hs : schema.Sound)
    (hvalid : schema.validate s = .ok valid) : ∀ n ∈ t.nodes, schema.Conforms n := by
  obtain ⟨expanded, inlined, wrapped, hexpand, -, hinline, hwrap, rfl⟩ := h.steps
  obtain ⟨hnodes, hgroups⟩ := Schema.validate_conforms hs hvalid
  have hexpanded := Groups.expand_conforms hnodes hgroups hexpand
  have hwrapped := Wrap.autoWrap_conforms hs (Images.inlineAll_conforms hexpanded hinline) hwrap
  exact fun n hn => hwrapped n (List.mem_filter.1 hn).1

end Scene

end SceneGraph
