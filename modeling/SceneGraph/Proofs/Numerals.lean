import Mathlib.Algebra.Group.Nat.Defs
import Mathlib.Data.List.Basic
import Mathlib.Data.List.TakeDrop
import SceneGraph.Json.Parser
import SceneGraph.Json.Printer

/-!
# Written numbers are read

A number is written with its sign, its digits and perhaps a point and an exponent, and the reader takes exactly these
characters when nothing follows that could belong to a number. What it reads is the decimal that was written, except
that zeros written out at the end of a whole number have become digits of it.

* `Json.Denotes`: the rules for numbers, `Json.Denotes.read`: what is written by them is read.
* `NumberStyle.written`: the decimal that a written decimal denotes, `NumberStyle.layout_denotes`: it is written by
  the rules.
* `Decimal.shortest_exponent`: the decimal of a zero has no exponent.
-/
set_option autoImplicit false

namespace SceneGraph

namespace Json

/-! ## Digits -/

/-- All characters are decimal digits. -/
def AreDigits (ds : List Char) : Prop := ∀ c ∈ ds, c.isDigit = true

theorem AreDigits.append {ds es : List Char} (hd : AreDigits ds) (he : AreDigits es) : AreDigits (ds ++ es) :=
  fun c hc => (List.mem_append.1 hc).elim (hd c) (he c)

theorem areDigits_zeros (n : Nat) : AreDigits (List.replicate n '0') := fun c hc => by
  rw [List.eq_of_mem_replicate hc]
  decide

/-- A text does not begin with a digit. -/
def StopsDigits (rest : List Char) : Prop := ∀ c ∈ rest.head?, c.isDigit = false

theorem spanDigits_append {ds rest : List Char} (hd : AreDigits ds) (hrest : StopsDigits rest) :
    spanDigits (ds ++ rest) = (ds, rest) := by
  have htake : rest.takeWhile Char.isDigit = [] := by
    cases rest with
    | nil => rfl
    | cons c cs => exact List.takeWhile_cons_of_neg (by simp [hrest c rfl])
  have hdrop : rest.dropWhile Char.isDigit = rest := by
    cases rest with
    | nil => rfl
    | cons c cs => exact List.dropWhile_cons_of_neg (by simp [hrest c rfl])
  rw [spanDigits, List.span_eq_takeWhile_dropWhile, List.takeWhile_append_of_pos hd, List.dropWhile_append_of_pos hd,
    htake, hdrop, List.append_nil]

theorem digitsValue_eq (ds : List Char) : digitsValue ds = Nat.ofDigitChars 10 ds 0 := by
  simp only [digitsValue, Nat.ofDigitChars, Nat.mul_comm]
  rfl

/-! ## Parts of a number -/

/-- A whole part: digits, of which the first is zero only if it stands alone. -/
structure IsWhole (ds : List Char) : Prop where
  ne_nil : ds ≠ []
  digits : AreDigits ds
  lead : ds.head? = some '0' → ds = ['0']

theorem readWhole_append {ds rest : List Char} (h : IsWhole ds) (hrest : StopsDigits rest) :
    readWhole (ds ++ rest) = some (ds, rest) := by
  unfold readWhole
  rw [spanDigits_append h.digits hrest]
  split
  · rename_i heq
    exact absurd (Prod.mk.inj heq).1 h.ne_nil
  · rename_i heq
    obtain ⟨rfl, -⟩ := Prod.mk.inj heq
    cases h.lead rfl
  · rename_i heq
    rw [heq]

/-- The characters of a fraction, which is left out when it has no digits. -/
def fractionText (fraction : List Char) : List Char := if fraction = [] then [] else '.' :: fraction

theorem readFraction_append {fraction rest : List Char} (h : AreDigits fraction) (hrest : StopsDigits rest)
    (hpoint : ∀ c ∈ rest.head?, c ≠ '.') :
    readFraction (fractionText fraction ++ rest) = some (fraction, rest) := by
  unfold fractionText
  split
  · rename_i hempty
    subst hempty
    rw [List.nil_append]
    unfold readFraction
    split
    · exact absurd rfl (hpoint '.' rfl)
    · rfl
  · rename_i hne
    simp only [List.cons_append, readFraction]
    rw [spanDigits_append h hrest]
    split
    · rename_i heq
      exact absurd (Prod.mk.inj heq).1 hne
    · rename_i heq
      rw [heq]

/-- The characters of an exponent. -/
inductive ExponentText : List Char → Int → Prop
  | absent : ExponentText [] 0
  | present (negative : Bool) (ds : List Char) (hne : ds ≠ []) (hd : AreDigits ds) :
      ExponentText ('e' :: (if negative then '-' else '+') :: ds)
        (if negative then -(digitsValue ds : Int) else digitsValue ds)

/-- What follows a number is no part of it. -/
def EndsNumber (rest : List Char) : Prop := ∀ c ∈ rest.head?, c.isDigit = false ∧ c ≠ '.' ∧ c ≠ 'e' ∧ c ≠ 'E'

theorem EndsNumber.stops {rest : List Char} (h : EndsNumber rest) : StopsDigits rest := fun c hc => (h c hc).1

theorem readExponent_append {text rest : List Char} {e : Int} (h : ExponentText text e) (hrest : EndsNumber rest) :
    readExponent (text ++ rest) = some (e, rest) := by
  cases h with
  | absent =>
    rw [List.nil_append]
    unfold readExponent
    dsimp only
    split
    · exact absurd rfl (hrest 'e' rfl).2.2.1
    · exact absurd rfl (hrest 'E' rfl).2.2.2
    · rfl
  | present negative ds hne hd =>
    obtain ⟨d, tail, rfl⟩ := List.exists_cons_of_ne_nil hne
    have hspan := spanDigits_append hd hrest.stops
    rw [List.cons_append] at hspan
    cases negative <;> simp [readExponent, hspan]

theorem ExponentText.head {text : List Char} {e : Int} (h : ExponentText text e) {rest : List Char}
    (hrest : EndsNumber rest) : StopsDigits (text ++ rest) ∧ ∀ c ∈ (text ++ rest).head?, c ≠ '.' := by
  cases h with
  | absent => exact ⟨hrest.stops, fun c hc => (hrest c hc).2.1⟩
  | present negative ds hne hd =>
    constructor <;>
    · intro c hc
      obtain rfl : 'e' = c := Option.some.inj hc
      decide

/-- The characters of a number: a sign, a whole part, a fraction and an exponent. -/
def numberText (negative : Bool) (whole fraction exponent : List Char) : List Char :=
  (if negative then ['-'] else []) ++ (whole ++ (fractionText fraction ++ exponent))

/-- A text is written for a decimal number by the rules for numbers. -/
inductive Denotes : List Char → Decimal → Prop
  | parts (negative : Bool) {whole fraction exponent : List Char} {e : Int} (hwhole : IsWhole whole)
      (hfraction : AreDigits fraction) (hexponent : ExponentText exponent e) :
      Denotes (numberText negative whole fraction exponent)
        ⟨negative, digitsValue (whole ++ fraction), e - fraction.length⟩

variable {text : List Char} {d : Decimal}

theorem Denotes.read (h : Denotes text d) {rest : List Char} (hrest : EndsNumber rest) :
    readNumber (text ++ rest) = some (d, rest) := by
  cases h with
  | @parts negative whole fraction exponent e hwhole hfraction hexponent =>
    obtain ⟨hstops, hpoint⟩ := hexponent.head hrest
    have hbehind : StopsDigits (fractionText fraction ++ (exponent ++ rest)) := by
      unfold fractionText
      split
      · exact hstops
      · intro c hc
        obtain rfl : '.' = c := Option.some.inj hc
        decide
    have hreadWhole := readWhole_append hwhole hbehind
    have hreadFraction := readFraction_append hfraction hstops hpoint
    have hreadExponent := readExponent_append hexponent hrest
    have hsign : ∀ cs, whole ++ (fractionText fraction ++ (exponent ++ rest)) ≠ '-' :: cs := by
      obtain ⟨c, tail, rfl⟩ := List.exists_cons_of_ne_nil hwhole.ne_nil
      rintro cs heq
      obtain rfl : c = '-' := (List.cons.inj heq).1
      exact absurd (hwhole.digits '-' List.mem_cons_self) (by decide)
    unfold readNumber numberText
    simp only [List.append_assoc]
    generalize whole ++ (fractionText fraction ++ (exponent ++ rest)) = unsigned at hreadWhole hsign ⊢
    cases negative <;> simp [hreadWhole, hreadFraction, hreadExponent]

/-- The text of a number begins with a sign or a digit. -/
theorem Denotes.head (h : Denotes text d) : ∃ c cs, text = c :: cs ∧ (c = '-' ∨ c.isDigit = true) := by
  cases h with
  | @parts negative whole fraction exponent e hwhole _ _ =>
    cases negative with
    | true => exact ⟨'-', _, rfl, .inl rfl⟩
    | false =>
      obtain ⟨c, tail, rfl⟩ := List.exists_cons_of_ne_nil hwhole.ne_nil
      exact ⟨c, _, rfl, .inr (hwhole.digits c List.mem_cons_self)⟩

end Json

/-! ## Written decimals -/

namespace NumberStyle

open Json

theorem areDigits_digitChars (n : Nat) : AreDigits (digitChars n) := fun _ =>
  Nat.isDigit_of_mem_toDigits (by decide) (by decide)

theorem digitChars_ne_nil (n : Nat) : digitChars n ≠ [] := Nat.toDigits_ne_nil

theorem digitsValue_digitChars (n : Nat) : digitsValue (digitChars n) = n := by
  rw [digitsValue_eq]
  exact Nat.ofDigitChars_ten_toDigits

theorem head_digitChars {n : Nat} (h : n ≠ 0) : (digitChars n).head? ≠ some '0' := by
  unfold digitChars
  induction n using Nat.base_induction 10 (by decide) with
  | single m hm =>
    have hchar : ∀ m, m < 10 → m ≠ 0 → m.digitChar ≠ '0' := by decide
    rw [Nat.toDigits_of_lt_base hm, List.head?_cons]
    exact fun heq => hchar m hm h (Option.some.inj heq)
  | digit m k hk hm ih =>
    have hhead := ih (Nat.pos_iff_ne_zero.1 hm)
    rw [← Nat.toDigits_append_toDigits (by decide) hm hk, List.head?_append]
    rwa [Option.or_of_isSome (List.isSome_head?.2 Nat.toDigits_ne_nil)]

theorem isWhole_digitChars (n : Nat) : IsWhole (digitChars n) where
  ne_nil := digitChars_ne_nil n
  digits := areDigits_digitChars n
  lead h := by
    by_cases hn : n = 0
    · subst hn
      rfl
    · exact absurd h (head_digitChars hn)

theorem digitsValue_zeros_append (n : Nat) (ds : List Char) :
    digitsValue (List.replicate n '0' ++ ds) = digitsValue ds := by
  simp [digitsValue_eq, Nat.ofDigitChars_append]

theorem digitsValue_append_zeros (n : Nat) (ds : List Char) :
    digitsValue (ds ++ List.replicate n '0') = digitsValue ds * 10 ^ n := by
  simp [digitsValue_eq, Nat.ofDigitChars_append, Nat.mul_comm]

theorem areDigits_padLeft (width n : Nat) : AreDigits (padLeft width (digitChars n)) :=
  (areDigits_zeros _).append (areDigits_digitChars n)

theorem digitsValue_padLeft (width n : Nat) : digitsValue (padLeft width (digitChars n)) = n := by
  rw [padLeft, digitsValue_zeros_append, digitsValue_digitChars]

/-- The exponent of the leading digit. -/
def lead (d : Decimal) : Int := if d.digits = 0 then 0 else d.exponent + (digitChars d.digits).length - 1

/-- The decimal is written without exponent. -/
def IsPlain (style : NumberStyle) (d : Decimal) : Prop := style.plainFrom ≤ lead d ∧ lead d < style.plainBelow

instance (style : NumberStyle) (d : Decimal) : Decidable (style.IsPlain d) := inferInstanceAs (Decidable (_ ∧ _))

/-- The decimal that the text of a decimal denotes: zeros that are written out at the end are digits of it. -/
def written (style : NumberStyle) (d : Decimal) : Decimal :=
  if 0 < d.exponent ∧ style.IsPlain d then ⟨d.negative, d.digits * 10 ^ d.exponent.toNat, 0⟩ else d

theorem toList_layout (style : NumberStyle) (d : Decimal) : (style.layout d).toList =
    (if d.negative then ['-'] else []) ++ (if style.IsPlain d then positional (digitChars d.digits) d.exponent
      else scientific style (digitChars d.digits) (lead d)) := by
  unfold layout
  simp only [String.toList_ofList]
  cases d.negative <;> rfl

/-- Digits and zeros behind them are a whole part. -/
theorem isWhole_append_zeros {n k : Nat} (h : n = 0 → k = 0) : IsWhole (digitChars n ++ List.replicate k '0') := by
  by_cases hn : n = 0
  · rw [h hn, List.replicate_zero, List.append_nil]
    exact isWhole_digitChars n
  · refine ⟨by simp [digitChars_ne_nil], (areDigits_digitChars n).append (areDigits_zeros k), fun hhead => ?_⟩
    rw [List.head?_append, Option.or_of_isSome (List.isSome_head?.2 (digitChars_ne_nil n))] at hhead
    exact absurd hhead (head_digitChars hn)

/-- Digits with zeros before them are divided into a whole part and a fraction. -/
theorem isWhole_take (places : Nat) {n : Nat} (hn : n ≠ 0) :
    IsWhole ((padLeft (places + 1) (digitChars n)).take ((padLeft (places + 1) (digitChars n)).length - places)) := by
  by_cases hshort : (digitChars n).length ≤ places
  · -- A single zero stands before the point.
    have hzeros : places + 1 - (digitChars n).length = places - (digitChars n).length + 1 := by omega
    have hone : (padLeft (places + 1) (digitChars n)).length - places = 1 := by
      simp only [padLeft, List.length_append, List.length_replicate]
      omega
    rw [hone, padLeft, hzeros, List.replicate_succ]
    exact ⟨by simp, by simp [AreDigits], fun _ => rfl⟩
  · have hnone : places + 1 - (digitChars n).length = 0 := by omega
    rw [padLeft, hnone, List.replicate_zero, List.nil_append]
    have hpos : 0 < (digitChars n).length - places := by omega
    refine ⟨fun hnil => ?_, fun c hc => areDigits_digitChars n c (List.mem_of_mem_take hc), fun hhead => ?_⟩
    · have := congrArg List.length hnil
      rw [List.length_take, List.length_nil] at this
      omega
    · rw [List.head?_take, if_neg (by omega)] at hhead
      exact absurd hhead (head_digitChars hn)

/-- Without exponent, a whole number is written with its zeros, and another one with a point among its digits. -/
theorem positional_denotes {d : Decimal} (hzero : d.digits = 0 → d.exponent = 0) :
    Denotes ((if d.negative then ['-'] else []) ++ positional (digitChars d.digits) d.exponent)
      (if 0 < d.exponent then ⟨d.negative, d.digits * 10 ^ d.exponent.toNat, 0⟩ else d) := by
  obtain ⟨negative, digits, exponent⟩ := d
  dsimp only at hzero ⊢
  unfold positional
  by_cases hexponent : exponent ≥ 0
  · have hwhole : IsWhole (digitChars digits ++ List.replicate exponent.toNat '0') :=
      isWhole_append_zeros fun h => by simp [hzero h]
    have hnone : AreDigits [] := fun _ h => nomatch h
    have hparts := Denotes.parts negative hwhole hnone .absent
    simp only [numberText, fractionText, if_true, List.append_nil, List.length_nil, digitsValue_append_zeros,
      digitsValue_digitChars] at hparts
    rw [if_pos hexponent]
    by_cases hpos : 0 < exponent
    · rw [if_pos hpos]
      exact hparts
    · obtain rfl : exponent = 0 := by omega
      simpa using hparts
  · have hn : digits ≠ 0 := fun h => hexponent (Int.le_of_eq (hzero h).symm)
    rw [if_neg hexponent, if_neg (show ¬ 0 < exponent by omega)]
    dsimp only
    generalize hplaces : (-exponent).toNat = places
    have hwhole := isWhole_take places hn
    have hpadded := areDigits_padLeft (places + 1) digits
    have hvalue := digitsValue_padLeft (places + 1) digits
    generalize hpad : padLeft (places + 1) (digitChars digits) = padded at hwhole hpadded hvalue ⊢
    have hlength : places + 1 ≤ padded.length := by
      rw [← hpad, padLeft, List.length_append, List.length_replicate]
      omega
    have hfraction : (padded.drop (padded.length - places)).length = places := by
      rw [List.length_drop]
      omega
    have hne : padded.drop (padded.length - places) ≠ [] := fun hnil => by
      rw [hnil, List.length_nil] at hfraction
      omega
    have hdropped : AreDigits (padded.drop (padded.length - places)) := fun c hc =>
      hpadded c (List.mem_of_mem_drop hc)
    have hparts := Denotes.parts negative hwhole hdropped .absent
    have hback : (0 : Int) - (places : Int) = exponent := by omega
    rwa [numberText, fractionText, if_neg hne, List.append_nil, List.take_append_drop, hvalue, hfraction, hback]
      at hparts

/-- With an exponent, the point stands behind the first digit. -/
theorem scientific_denotes (style : NumberStyle) {d : Decimal} (hzero : d.digits = 0 → d.exponent = 0) :
    Denotes ((if d.negative then ['-'] else []) ++ scientific style (digitChars d.digits) (lead d)) d := by
  obtain ⟨negative, digits, exponent⟩ := d
  dsimp only at hzero ⊢
  obtain ⟨first, fraction, hdigits⟩ := List.exists_cons_of_ne_nil (digitChars_ne_nil digits)
  have hall : AreDigits (first :: fraction) := hdigits ▸ areDigits_digitChars digits
  have hwhole : IsWhole [first] := ⟨by simp, fun c hc => hall c (by simp_all), fun h => by simp_all⟩
  have hfraction : AreDigits fraction := fun c hc => hall c (List.mem_cons_of_mem first hc)
  have hlead : lead ⟨negative, digits, exponent⟩ = exponent + fraction.length := by
    unfold lead
    dsimp only
    split
    · rename_i hdigitsZero
      have hlength : (digitChars digits).length = fraction.length + 1 := by rw [hdigits, List.length_cons]
      rw [hdigitsZero] at hlength
      have hone : (digitChars 0).length = 1 := rfl
      rw [hzero hdigitsZero]
      omega
    · rw [hdigits, List.length_cons]
      omega
  generalize lead ⟨negative, digits, exponent⟩ = place at hlead ⊢
  have hparts := Denotes.parts negative hwhole hfraction
    (.present (decide (place < 0)) _ (by simp [padLeft, digitChars_ne_nil])
      (areDigits_padLeft style.exponentWidth place.natAbs))
  have hexponent : (if place < 0 then -(place.natAbs : Int) else place.natAbs) - fraction.length = exponent := by
    split <;> omega
  have hback : digitsValue ([first] ++ fraction) = digits := by
    rw [List.singleton_append, ← hdigits, digitsValue_digitChars]
  simp only [digitsValue_padLeft, decide_eq_true_eq, hexponent, hback] at hparts
  have htext : scientific style (digitChars digits) place = [first] ++ (fractionText fraction ++
      'e' :: (if place < 0 then '-' else '+') :: padLeft style.exponentWidth (digitChars place.natAbs)) := by
    rw [hdigits, fractionText]
    cases fraction <;> simp [scientific]
  rw [htext]
  exact hparts

/-- The text of a decimal is written by the rules for numbers. -/
theorem layout_denotes (style : NumberStyle) {d : Decimal} (hzero : d.digits = 0 → d.exponent = 0) :
    Denotes (style.layout d).toList (style.written d) := by
  rw [toList_layout, written]
  by_cases hplain : style.IsPlain d
  · have hdenotes := positional_denotes hzero
    rw [if_pos hplain]
    simpa [hplain] using hdenotes
  · have hdenotes := scientific_denotes style hzero
    rw [if_neg hplain]
    simpa [hplain] using hdenotes

end NumberStyle

/-! ## The shortest decimal -/

namespace Decimal

theorem readsBack_zero {x : Binary} (h : x.m ≠ 0) (i : Int) : x.readsBack 0 i = false := by
  have hlow : ∀ lo, 0 < lo → compareScaled 0 i lo (x.q - 2) = .lt := by
    intro lo hlo
    unfold compareScaled
    rw [Nat.zero_mul, Nat.zero_mul, Nat.compare_eq_lt]
    exact Nat.mul_pos (Nat.mul_pos hlo (Nat.pow_pos (by decide))) (Nat.pow_pos (by decide))
  unfold Binary.readsBack
  dsimp only
  split
  · rw [hlow _ (by omega)]
    simp
  · rw [hlow _ (by omega)]
    simp

theorem candidate_ne_zero {x : Binary} (h : x.m ≠ 0) {k : Int} {n a : Nat} {i : Int}
    (hfound : x.candidate k n = some (a, i)) : a ≠ 0 := by
  rintro rfl
  unfold Binary.candidate at hfound
  dsimp only at hfound
  split at hfound
  · rename_i hlow _
    split at hfound
    · obtain ⟨hzero, rfl⟩ := Prod.mk.inj (Option.some.inj hfound)
      rw [hzero, readsBack_zero h] at hlow
      cases hlow
    · cases hfound
  · rename_i hlow _
    obtain ⟨hzero, rfl⟩ := Prod.mk.inj (Option.some.inj hfound)
    rw [hzero, readsBack_zero h] at hlow
    cases hlow
  · cases hfound
  · cases hfound

theorem exact_ne_zero {x : Binary} (h : x.m ≠ 0) : x.exact.1 ≠ 0 := by
  unfold Binary.exact
  split
  · exact Nat.mul_ne_zero h (Nat.pos_iff_ne_zero.1 (Nat.pow_pos (by decide : 0 < 2)))
  · exact Nat.mul_ne_zero h (Nat.pos_iff_ne_zero.1 (Nat.pow_pos (by decide : 0 < 5)))

theorem stripZeros_ne_zero {fuel a : Nat} {i : Int} (h : a ≠ 0) : (stripZeros fuel a i).1 ≠ 0 := by
  induction fuel generalizing a i with
  | zero => exact h
  | succ fuel ih =>
    unfold stripZeros
    split
    · rename_i hten
      simp only [ne_eq, decide_not, Bool.and_eq_true, Bool.not_eq_true', decide_eq_false_iff_not,
        decide_eq_true_eq] at hten
      exact ih (by omega)
    · exact h

theorem shortest_exponent {x : Float} (h : (shortest x).digits = 0) : (shortest x).exponent = 0 := by
  unfold shortest at h ⊢
  dsimp only at h ⊢
  split
  · rfl
  · rename_i hm
    rw [if_neg hm] at h
    refine absurd h (stripZeros_ne_zero ?_)
    cases hfound : (List.range 17).findSome? fun n =>
        (Binary.ofBits x.toBits).candidate (Binary.ofBits x.toBits).scale (n + 1) with
    | none => exact exact_ne_zero hm
    | some c =>
      obtain ⟨n, -, hn⟩ := List.exists_of_findSome?_eq_some hfound
      exact candidate_ne_zero hm hn

end Decimal

end SceneGraph
