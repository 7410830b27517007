import SceneGraph.Proofs.Edits

/-!
# Normal forms of parameters

Which values a parameter accepts, and what each of them becomes, written down without the check that decides it:
numbers within bounds, one of the listed texts, colors as digits or as channels, lists of numbers of a length.

* `ParamSpec.Normal`: the values that a parameter accepts, with their normal forms.
* `ParamSpec.check_iff`: the check passes these values, in normal form.
* `ParamSpec.Normal.settled`: a normal form is its own normal form.
-/
set_option autoImplicit false

namespace SceneGraph

/-! ## Colors -/

/-- The text is made of hexadecimal digits of these values, after a `#` or without one. -/
def HexText (s : String) (digits : List Nat) : Prop :=
  ∃ cs, (s.toList = '#' :: cs ∨ s.toList = cs) ∧ cs.map Json.hexDigit? = digits.map some

/-- A byte as a fraction of the greatest one. -/
def byteFraction (n : Nat) : Float := Float.ofNat n / 255

/-- The value writes a color of these four channels. -/
inductive Value.Colored : Value → List Float → Prop
  | rgb (r g b : Float) : Colored (.list [.num r, .num g, .num b]) [r, g, b, 1]
  | rgba (r g b a : Float) : Colored (.list [.num r, .num g, .num b, .num a]) [r, g, b, a]
  | hexRgb {s : String} {r r' g g' b b' : Nat} (h : HexText s [r, r', g, g', b, b']) :
      Colored (.str s) ([16 * r + r', 16 * g + g', 16 * b + b', 255].map byteFraction)
  | hexRgba {s : String} {r r' g g' b b' a a' : Nat} (h : HexText s [r, r', g, g', b, b', a, a']) :
      Colored (.str s) ([16 * r + r', 16 * g + g', 16 * b + b', 16 * a + a'].map byteFraction)

/-- The characters of a text after a leading `#`. -/
def afterSharp (s : String) : List Char :=
  match s.toList with
  | '#' :: rest => rest
  | cs => cs

theorem hexText_iff {s : String} {digits : List Nat} :
    HexText s digits ↔ (afterSharp s).map Json.hexDigit? = digits.map some := by
  unfold afterSharp
  constructor
  · rintro ⟨cs, hs | hs, hdigits⟩
    · rw [hs]
      exact hdigits
    · rw [hs]
      split
      · rename_i rest
        cases digits with
        | nil => cases hdigits
        | cons d ds =>
          have hsharp : Json.hexDigit? '#' = some d := (List.cons.inj hdigits).1
          cases hsharp
      · exact hdigits
  · intro h
    split at h
    · rename_i rest hs
      exact ⟨rest, .inl hs, h⟩
    · exact ⟨_, .inr rfl, h⟩

theorem parseHexColor?_eq_some {s : String} {items : List Value} :
    parseHexColor? s = some items ↔ ∃ channels, Value.Colored (.str s) channels ∧ items = channels.map .num := by
  constructor
  · intro h
    unfold parseHexColor? at h
    simp only at h
    split at h
    · rename_i hcs
      change afterSharp s = _ at hcs
      simp only [Option.pure_def, Option.bind_eq_bind, Option.bind_eq_some_iff, Option.some.injEq] at h
      obtain ⟨_, ⟨r, hr, r', hr', rfl⟩, _, ⟨g, hg, g', hg', rfl⟩, _, ⟨b, hb, b', hb', rfl⟩, rfl⟩ := h
      exact ⟨_, .hexRgb (hexText_iff.2 (by simp [*])), rfl⟩
    · rename_i hcs
      change afterSharp s = _ at hcs
      simp only [Option.pure_def, Option.bind_eq_bind, Option.bind_eq_some_iff, Option.some.injEq] at h
      obtain ⟨_, ⟨r, hr, r', hr', rfl⟩, _, ⟨g, hg, g', hg', rfl⟩, _, ⟨b, hb, b', hb', rfl⟩, _,
        ⟨a, ha, a', ha', rfl⟩, rfl⟩ := h
      exact ⟨_, .hexRgba (hexText_iff.2 (by simp [*])), rfl⟩
    · cases h
  · rintro ⟨channels, hcolored, rfl⟩
    unfold parseHexColor?
    simp only
    cases hcolored with
    | hexRgb h =>
      have hcs := hexText_iff.1 h
      simp only [List.map_cons, List.map_nil, List.map_eq_cons_iff, List.map_eq_nil_iff] at hcs
      obtain ⟨_, _, hcs, hr, _, _, rfl, hr', _, _, rfl, hg, _, _, rfl, hg', _, _, rfl, hb, _, _, rfl, hb', rfl⟩ := hcs
      split
      · rename_i heq
        cases hcs.symm.trans heq
        simp [hr, hr', hg, hg', hb, hb', byteFraction, colorChannel]
      · rename_i heq
        cases hcs.symm.trans heq
      · rename_i hsix _
        exact absurd hcs (hsix _ _ _ _ _ _)
    | hexRgba h =>
      have hcs := hexText_iff.1 h
      simp only [List.map_cons, List.map_nil, List.map_eq_cons_iff, List.map_eq_nil_iff] at hcs
      obtain ⟨_, _, hcs, hr, _, _, rfl, hr', _, _, rfl, hg, _, _, rfl, hg', _, _, rfl, hb, _, _, rfl, hb', _, _, rfl,
        ha, _, _, rfl, ha', rfl⟩ := hcs
      split
      · rename_i heq
        cases hcs.symm.trans heq
      · rename_i heq
        cases hcs.symm.trans heq
        simp [hr, hr', hg, hg', hb, hb', ha, ha', byteFraction, colorChannel]
      · rename_i height
        exact absurd hcs (height _ _ _ _ _ _ _ _)

/-! ## Parameters -/

theorem checkNumbers_eq_ok {node param : String} {i : Nat} {items : List Value} :
    checkNumbers node param i items = .ok () ↔ ∃ xs : List Float, items = xs.map .num := by
  induction items generalizing i with
  | nil => exact ⟨fun _ => ⟨[], rfl⟩, fun _ => rfl⟩
  | cons v rest ih =>
    constructor
    · intro h
      unfold checkNumbers at h
      split at h
      · cases ‹_ :: _ = []›
      · rename_i x _ heq
        cases heq
        obtain ⟨xs, rfl⟩ := ih.1 h
        exact ⟨x :: xs, rfl⟩
      · cases h
    · rintro ⟨xs, hxs⟩
      obtain ⟨x, rest', rfl, rfl, hrest⟩ := List.map_eq_cons_iff.1 hxs.symm
      exact ih.2 ⟨rest', hrest.symm⟩

namespace ParamSpec

variable {p : ParamSpec} {node : String} {v w : Value}

/-- The number lies within the bounds of the parameter. -/
structure Within (p : ParamSpec) (x : Float) : Prop where
  sign : p.type = .uint → ¬x < 0
  lower : ∀ lo ∈ p.min, ¬x < lo
  upper : ∀ hi ∈ p.max, ¬x > hi

/-- The parameter accepts a value, and its normal form is the other one. -/
inductive Normal (p : ParamSpec) : Value → Value → Prop
  | number {x : Float} (htype : p.type = .float ∨ (p.type = .int ∨ p.type = .uint) ∧ isWhole x = true)
      (hwithin : p.Within x) : Normal p (.num x) (.num x)
  | bool {b : Bool} (htype : p.type = .bool) : Normal p (.bool b) (.bool b)
  | text {s : String} (htype : p.type = .string) : Normal p (.str s) (.str s)
  | choice {s : String} (htype : p.type = .choice) (hvalue : s ∈ p.values) : Normal p (.str s) (.str s)
  | color {v : Value} {channels : List Float} (htype : p.type = .color) (hcolor : v.Colored channels) :
      Normal p v (.list (channels.map .num))
  | vector {xs : List Float} (htype : p.type ∈ [.vec2, .vec3, .vec4, .mat4])
      (hlength : 0 < p.length → (xs.length : Int) = p.length) : Normal p (.list (xs.map .num)) (.list (xs.map .num))
  | other {v : Value} {name : String} (htype : p.type = .other name) : Normal p v v

theorem checkRange_iff {x : Float} : p.checkRange node x = .ok (.num x) ↔ p.Within x := by
  have hupper : ∀ outside : String → Except ValidationError Value, (∀ s, outside s ≠ .ok (.num x)) →
      (checkRange.upper p x outside = .ok (.num x) ↔ ∀ hi ∈ p.max, ¬x > hi) := by
    intro outside hout
    unfold checkRange.upper
    cases p.max with
    | none => simp
    | some hi => by_cases hx : x > hi <;> simp [hx, hout]
  have hsplit : p.Within x ↔ (p.type = .uint → ¬x < 0) ∧ (∀ lo ∈ p.min, ¬x < lo) ∧ ∀ hi ∈ p.max, ¬x > hi :=
    ⟨fun h => ⟨h.sign, h.lower, h.upper⟩, fun h => ⟨h.1, h.2.1, h.2.2⟩⟩
  rw [hsplit]
  unfold checkRange
  by_cases hsign : p.type = .uint ∧ x < 0
  · simp [hsign.1, hsign.2]
  · rw [if_neg hsign]
    have hsign' : p.type = .uint → ¬x < 0 := fun htype hx => hsign ⟨htype, hx⟩
    cases p.min with
    | none => exact ⟨fun h => ⟨hsign', by simp, (hupper _ (by simp)).1 h⟩, fun h => (hupper _ (by simp)).2 h.2.2⟩
    | some lo =>
      by_cases hx : x < lo
      · simp [hx]
      · simp only [hx, if_false]
        exact ⟨fun h => ⟨hsign', by simp [hx], (hupper _ (by simp)).1 h⟩, fun h => (hupper _ (by simp)).2 h.2.2⟩

theorem checkNumber_iff : p.checkNumber node v = .ok w ↔
    ∃ x, v = .num x ∧ w = .num x ∧ (p.type ≠ .float → isWhole x = true) ∧ p.Within x := by
  constructor
  · intro h
    obtain ⟨x, rfl, rfl⟩ := checkNumber_eq_ok h
    unfold checkNumber at h
    simp only at h
    split at h
    · cases h
    · rename_i hwhole
      exact ⟨x, rfl, rfl, fun htype => by simpa [htype] using hwhole, checkRange_iff.1 h⟩
  · rintro ⟨x, rfl, rfl, hwhole, hwithin⟩
    unfold checkNumber
    simp only
    rw [if_neg fun h => by simp [hwhole h.1] at h]
    exact checkRange_iff.2 hwithin

theorem checkColor_iff : p.checkColor node v = .ok w ↔
    ∃ channels, v.Colored channels ∧ w = .list (channels.map .num) := by
  constructor
  · intro h
    unfold checkColor at h
    split at h
    · split at h
      · rename_i hhex
        obtain ⟨channels, hcolored, rfl⟩ := parseHexColor?_eq_some.1 hhex
        cases h
        exact ⟨channels, hcolored, rfl⟩
      · cases h
    · rename_i items
      split at h
      · rename_i hlength
        cases hcheck : checkNumbers node p.name 0 items with
        | error e => simp [hcheck, bind, Except.bind] at h
        | ok =>
          obtain ⟨xs, rfl⟩ := checkNumbers_eq_ok.1 hcheck
          simp only [hcheck, bind, Except.bind, pure, Except.pure, Except.ok.injEq] at h
          subst h
          rw [List.length_map] at hlength
          rcases hlength with hlength | hlength
          · obtain ⟨r, g, b, rfl⟩ := List.length_eq_three.1 hlength
            exact ⟨_, .rgb r g b, rfl⟩
          · obtain ⟨r, g, b, a, rfl⟩ : ∃ r g b a, xs = [r, g, b, a] := by
              match xs, hlength with
              | [r, g, b, a], _ => exact ⟨r, g, b, a, rfl⟩
            exact ⟨_, .rgba r g b a, rfl⟩
      · cases h
    · cases h
  · rintro ⟨channels, hcolored, rfl⟩
    cases hcolored with
    | rgb r g b => rfl
    | rgba r g b a => rfl
    | hexRgb h =>
      have hhex := parseHexColor?_eq_some.2 ⟨_, .hexRgb h, rfl⟩
      simp only [checkColor, hhex]
    | hexRgba h =>
      have hhex := parseHexColor?_eq_some.2 ⟨_, .hexRgba h, rfl⟩
      simp only [checkColor, hhex]

theorem checkVector_iff : p.checkVector node v = .ok w ↔
    ∃ xs : List Float, v = .list (xs.map .num) ∧ w = v ∧ (0 < p.length → (xs.length : Int) = p.length) := by
  constructor
  · intro h
    unfold checkVector at h
    split at h
    · rename_i items
      split at h
      · cases h
      · rename_i hlength
        cases hcheck : checkNumbers node p.name 0 items with
        | error e => simp [hcheck, bind, Except.bind] at h
        | ok =>
          obtain ⟨xs, rfl⟩ := checkNumbers_eq_ok.1 hcheck
          simp only [hcheck, bind, Except.bind, pure, Except.pure, Except.ok.injEq] at h
          refine ⟨xs, rfl, h.symm, fun hpos => ?_⟩
          simpa [hpos] using hlength
    · cases h
  · rintro ⟨xs, rfl, rfl, hlength⟩
    have hcheck : checkNumbers node p.name 0 (xs.map .num) = .ok () := checkNumbers_eq_ok.2 ⟨xs, rfl⟩
    simp only [checkVector, List.length_map]
    rw [if_neg fun h => h.2 (hlength h.1), hcheck]
    rfl

theorem normal_of_number (htype : p.type = .float ∨ p.type = .int ∨ p.type = .uint) :
    p.checkNumber node v = .ok w ↔ p.Normal v w := by
  rw [checkNumber_iff]
  constructor
  · rintro ⟨x, rfl, rfl, hwhole, hwithin⟩
    refine .number ?_ hwithin
    rcases htype with htype | htype
    · exact .inl htype
    · exact .inr ⟨htype, hwhole (by rcases htype with htype | htype <;> simp [htype])⟩
  · intro h
    cases h with
    | number htype' hwithin =>
      refine ⟨_, rfl, rfl, fun hfloat => ?_, hwithin⟩
      exact htype'.elim (fun h => absurd h hfloat) And.right
    | vector htype' => rcases htype with htype | htype | htype <;> simp [htype] at htype'
    | bool htype' | text htype' | choice htype' | color htype' | other htype' =>
      rcases htype with htype | htype | htype <;> cases htype.symm.trans htype'

theorem normal_of_vector (htype : p.type ∈ [.vec2, .vec3, .vec4, .mat4]) :
    p.checkVector node v = .ok w ↔ p.Normal v w := by
  rw [checkVector_iff]
  constructor
  · rintro ⟨xs, rfl, rfl, hlength⟩
    exact .vector htype hlength
  · intro h
    cases h with
    | vector _ hlength => exact ⟨_, rfl, rfl, hlength⟩
    | number htype' => rcases htype' with h | ⟨h | h, _⟩ <;> simp [h] at htype
    | bool htype' | text htype' | choice htype' | color htype' | other htype' => simp [htype'] at htype

/-- The check of a parameter passes exactly the values that the parameter accepts, in normal form. -/
theorem check_iff : p.check node v = .ok w ↔ p.Normal v w := by
  unfold check
  cases htype : p.type with
  | float | int | uint => exact normal_of_number (by simp [htype])
  | vec2 | vec3 | vec4 | mat4 => exact normal_of_vector (by simp [htype])
  | bool =>
    dsimp only
    constructor
    · intro h
      split at h
      · cases h
        exact .bool htype
      · cases h
    · intro h
      cases h <;> simp_all
  | string =>
    dsimp only
    constructor
    · intro h
      split at h
      · cases h
        exact .text htype
      · cases h
    · intro h
      cases h <;> simp_all
  | choice =>
    dsimp only
    constructor
    · intro h
      split at h
      · split at h
        · rename_i hvalue
          cases h
          exact .choice htype (by simpa using hvalue)
        · cases h
      · cases h
    · intro h
      cases h <;> simp_all
  | color =>
    dsimp only
    rw [checkColor_iff]
    constructor
    · rintro ⟨channels, hcolor, rfl⟩
      exact .color htype hcolor
    · intro h
      cases h
      case color hcolor => exact ⟨_, hcolor, rfl⟩
      all_goals simp_all
  | other name =>
    constructor
    · intro h
      cases h
      exact .other htype
    · intro h
      cases h <;> simp_all

namespace Normal

theorem functional {w' : Value} (h : p.Normal v w) (h' : p.Normal v w') : w = w' :=
  have hcheck : p.check "" v = .ok w := check_iff.2 h
  Except.ok.inj (hcheck.symm.trans (check_iff.2 h'))

theorem ne_null (h : p.Normal v w) (hv : v ≠ .null) : w ≠ .null := by
  cases h with
  | other => exact hv
  | number | bool | text | choice | color | vector => simp

theorem settled (h : p.Normal v w) : p.Normal w w := by
  cases h with
  | number htype hwithin => exact .number htype hwithin
  | bool htype => exact .bool htype
  | text htype => exact .text htype
  | choice htype hvalue => exact .choice htype hvalue
  | vector htype hlength => exact .vector htype hlength
  | other htype => exact .other htype
  | color htype hcolor =>
    cases hcolor with
    | rgb r g b => exact .color htype (.rgba r g b 1)
    | rgba r g b a => exact .color htype (.rgba r g b a)
    | hexRgb => exact .color htype (.rgba _ _ _ _)
    | hexRgba => exact .color htype (.rgba _ _ _ _)

end Normal

end ParamSpec

end SceneGraph
