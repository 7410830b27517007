import Mathlib.Algebra.BigOperators.Group.List.Basic
import Mathlib.Algebra.GroupWithZero.Nat
import Mathlib.Data.List.MinMax
import Mathlib.Order.Nat
import Mathlib.Data.Prod.Lex
import SceneGraph.Live.Metrics

/-!
# Running totals are counted exactly

Many callers tell their totals to one counter side by side. A caller reads the greatest total so far, puts its own in
the place of the one that it has read, or starts over when another was faster, and then counts the difference. Between
the last two steps a part of the greatest total is not counted yet, but it is known who owes it.

* `RunningTotal.Caller`, `RunningTotal.Race`: the callers, and what one of them does next.
* `RunningTotal.run_alone`: a caller without others does what telling a total is defined as.
* `RunningTotal.Caller.step_spec`: what a step of one caller leaves.
* `RunningTotal.Race.Sound`: what is counted and what is owed make up the greatest total.
* `RunningTotal.Race.Sound.run`: so it stays in every interleaving.
* `RunningTotal.Race.step_lt`: every step brings the callers nearer to their ends, although some start over.
* `RunningTotal.Race.counted_exactly`: what that says of the counter in exact arithmetic.
* `RunningTotal.Race.counted_in_doubles`: doubles are as good for totals that they hold.
-/
set_option autoImplicit false

namespace SceneGraph.RunningTotal

/-! ## Callers -/

/-- What a caller does next. -/
inductive Phase where
  /-- It reads the greatest total so far. -/
  | reading
  /-- It puts its total in the place of the one that it has read. -/
  | swapping (seen : Nat)
  /-- It counts by how much its total is greater than the one that it replaced. -/
  | adding (seen : Nat)
  | returned
deriving Repr, DecidableEq

/-- A caller that tells a total. -/
structure Caller where
  total : Nat
  phase : Phase := .reading
deriving Repr, DecidableEq

namespace Caller

/-- An atomic step of a caller; amounts are rounded before they are counted. A caller whose total is not greater than
the one that it reads has nothing more to do, and one that comes too late to swap starts over. -/
def step (round : Nat → Nat) (c : Caller) (t : RunningTotal) : Caller × RunningTotal :=
  match c.phase with
  | .reading => ({ c with phase := if c.total ≤ t.last then .returned else .swapping t.last }, t)
  | .swapping seen =>
    match t.swap seen c.total with
    | (true, t) => ({ c with phase := .adding seen }, t)
    | (false, t) => ({ c with phase := .reading }, t)
  | .adding seen => ({ c with phase := .returned }, t.count (round (c.total - seen)))
  | .returned => (c, t)

/-- The amount by which the caller has raised the greatest total and that it has not counted yet. -/
def owed (c : Caller) : Nat :=
  match c.phase with
  | .adding seen => c.total - seen
  | _ => 0

/-- What is known of a caller, given the greatest total. -/
def Fits (last : Nat) (c : Caller) : Prop :=
  match c.phase with
  | .reading => True
  | .swapping seen => seen < c.total
  | .adding _ | .returned => c.total ≤ last

end Caller

/-- Callers that tell their totals to one counter. -/
structure Race where
  shared : RunningTotal := {}
  callers : List Caller
deriving Repr, DecidableEq

namespace Race

/-- A new counter, and callers of which none has begun. -/
def start (totals : List UInt64) : Race := { callers := totals.map fun t => { total := t.toNat } }

/-- The race after a step of the caller with the given number. -/
def step (round : Nat → Nat) (x : Race) (i : Nat) : Race :=
  match x.callers[i]? with
  | none => x
  | some c => { shared := (c.step round x.shared).2, callers := x.callers.set i (c.step round x.shared).1 }

/-- The race after steps of the callers with the given numbers, in any order. -/
def run (round : Nat → Nat) (x : Race) (turns : List Nat) : Race := turns.foldl (step round) x

/-- All that was put in place and is not counted yet. -/
def owed (x : Race) : Nat := (x.callers.map Caller.owed).sum

/-- All calls have returned. -/
def Over (x : Race) : Prop := ∀ c ∈ x.callers, c.phase = .returned

end Race

/-! ## Single steps -/

section

variable {round : Nat → Nat} {t : RunningTotal} {total seen : Nat}

theorem step_behind (h : total ≤ t.last) :
    Caller.step round ⟨total, .reading⟩ t = (⟨total, .returned⟩, t) := by simp [Caller.step, h]

theorem step_ahead (h : t.last < total) :
    Caller.step round ⟨total, .reading⟩ t = (⟨total, .swapping t.last⟩, t) := by simp [Caller.step, h]

theorem step_in_time :
    Caller.step round ⟨total, .swapping t.last⟩ t = (⟨total, .adding t.last⟩, { t with last := total }) := by
  simp [Caller.step, swap]

theorem step_late (h : t.last ≠ seen) :
    Caller.step round ⟨total, .swapping seen⟩ t = (⟨total, .reading⟩, t) := by simp [Caller.step, swap, h]

theorem step_adding :
    Caller.step round ⟨total, .adding seen⟩ t = (⟨total, .returned⟩, t.count (round (total - seen))) := rfl

end

/-- A caller without others does what telling a total is defined as. -/
theorem run_alone (t : RunningTotal) (total : Nat) :
    Race.run nearestWhole { shared := t, callers := [{ total }] } [0, 0, 0] =
      { shared := t.raise total, callers := [{ total, phase := .returned }] } := by
  by_cases h : total ≤ t.last
  · simp [Race.run, Race.step, Caller.step, raise, h]
  · simp [Race.run, Race.step, Caller.step, raise, swap, add, h]

theorem count_eq {t : RunningTotal} {amount : Nat} (h : t.counted + amount < 18446744073709551616) :
    t.count amount = { t with counted := t.counted + amount } := by
  unfold count
  simp only
  congr 1
  split <;> omega

theorem Caller.Fits.mono {last last' : Nat} {c : Caller} (h : c.Fits last) (hle : last ≤ last') : c.Fits last' := by
  obtain ⟨total, phase⟩ := c
  cases phase with
  | reading => trivial
  | swapping seen => exact h
  | adding seen => exact Nat.le_trans (show total ≤ last from h) hle
  | returned => exact Nat.le_trans (show total ≤ last from h) hle

/-- Amounts up to a limit of 64 bits are counted as they are. -/
structure Exact (round : Nat → Nat) (limit : Nat) : Prop where
  round_eq : ∀ n ≤ limit, round n = n
  word : limit < 18446744073709551616

variable {round : Nat → Nat} {limit : Nat}

/-- A step of one caller, where the others owe the rest. -/
theorem Caller.step_spec (hround : Exact round limit) {c c' : Caller} {t t' : RunningTotal} {rest : Nat}
    (hstep : c.step round t = (c', t')) (hc : c.Fits t.last) (htotal : c.total ≤ limit) (hlast : t.last ≤ limit)
    (hbalance : t.counted + (c.owed + rest) = t.last) :
    c'.total = c.total ∧ t.last ≤ t'.last ∧ c'.Fits t'.last ∧ t'.counted + (c'.owed + rest) = t'.last ∧
      (t'.last = t.last ∨ t'.last = c.total) := by
  obtain ⟨total, phase⟩ := c
  cases phase with
  | reading =>
    rcases Nat.lt_or_ge t.last total with h | h
    · cases (step_ahead h).symm.trans hstep
      exact ⟨rfl, le_rfl, h, hbalance, .inl rfl⟩
    · cases (step_behind h).symm.trans hstep
      exact ⟨rfl, le_rfl, h, hbalance, .inl rfl⟩
  | swapping seen =>
    by_cases h : t.last = seen
    · subst h
      cases step_in_time.symm.trans hstep
      have hless : t.last < total := hc
      have hnone : t.counted + (0 + rest) = t.last := hbalance
      refine ⟨rfl, hless.le, le_rfl, ?_, .inr rfl⟩
      show t.counted + (total - t.last + rest) = total
      omega
    · cases (step_late h).symm.trans hstep
      exact ⟨rfl, le_rfl, trivial, hbalance, .inl rfl⟩
  | adding seen =>
    have howed : t.counted + (total - seen + rest) = t.last := hbalance
    have hword := hround.word
    have hless : total ≤ limit := htotal
    rw [step_adding, hround.round_eq (total - seen) (by omega), count_eq (by omega)] at hstep
    cases hstep
    refine ⟨rfl, le_rfl, hc, ?_, .inl rfl⟩
    show t.counted + (total - seen) + (0 + rest) = t.last
    omega
  | returned =>
    cases hstep
    exact ⟨rfl, le_rfl, hc, hbalance, .inl rfl⟩

/-! ## Interleavings -/

namespace Race

variable {x : Race}

theorem step_of_none {i : Nat} (h : x.callers[i]? = none) : x.step round i = x := by
  rw [step, h]

/-- A step changes a single caller and the counter. -/
theorem step_of_caller {i : Nat} {c c' : Caller} {t' : RunningTotal} (h : x.callers[i]? = some c)
    (hstep : c.step round x.shared = (c', t')) :
    ∃ front back, x.callers = front ++ c :: back ∧ x.step round i = ⟨t', front ++ c' :: back⟩ := by
  obtain ⟨hi, hget⟩ := List.getElem?_eq_some_iff.1 h
  obtain ⟨front, back, hsplit, -, hset⟩ : ∃ front back, _ ∧ _ ∧ x.callers.set i c' = _ := List.exists_of_set hi
  refine ⟨front, back, hget ▸ hsplit, ?_⟩
  rw [step, h]
  simp only [hstep, hset]

theorem owed_split {shared : RunningTotal} {front back : List Caller} {c : Caller} :
    (Race.mk shared (front ++ c :: back)).owed =
      c.owed + ((front.map Caller.owed).sum + (back.map Caller.owed).sum) := by
  simp only [owed, List.map_append, List.map_cons, List.sum_append, List.sum_cons]
  omega

/-- The counted amounts and those that are owed make up the greatest total, which is one of those that are told. -/
structure Sound (totals : List Nat) (x : Race) : Prop where
  callers : x.callers.map Caller.total = totals
  fits : ∀ c ∈ x.callers, c.Fits x.shared.last
  balance : x.shared.counted + x.owed = x.shared.last
  told : x.shared.last = 0 ∨ x.shared.last ∈ totals

theorem sound_start (totals : List UInt64) : (start totals).Sound (totals.map UInt64.toNat) where
  callers := by simp [start]
  fits := List.forall_mem_map.2 fun _ _ => trivial
  balance := by
    simp only [start, owed, List.map_map, Nat.zero_add]
    exact List.sum_eq_zero (List.forall_mem_map.2 fun _ _ => rfl)
  told := .inl rfl

namespace Sound

variable {totals : List Nat}

theorem last_le (h : x.Sound totals) (htotals : ∀ t ∈ totals, t ≤ limit) : x.shared.last ≤ limit := by
  rcases h.told with hnone | hmem
  · omega
  · exact htotals _ hmem

theorem step (hround : Exact round limit) (htotals : ∀ t ∈ totals, t ≤ limit) (h : x.Sound totals) (i : Nat) :
    (x.step round i).Sound totals ∧ x.shared.last ≤ (x.step round i).shared.last := by
  cases hi : x.callers[i]? with
  | none =>
    rw [step_of_none hi]
    exact ⟨h, le_rfl⟩
  | some c =>
    generalize hcstep : c.step round x.shared = r
    obtain ⟨c', t'⟩ := r
    obtain ⟨front, back, hsplit, hstep⟩ := step_of_caller hi hcstep
    obtain ⟨shared, callers⟩ := x
    obtain rfl : callers = front ++ c :: back := hsplit
    have hmap := h.callers
    have hbalance := h.balance
    rw [owed_split] at hbalance
    obtain ⟨hfront, hcback⟩ := List.forall_mem_append.1 h.fits
    obtain ⟨hc, hback⟩ := List.forall_mem_cons.1 hcback
    have hmem : c.total ∈ totals := hmap ▸ List.mem_map_of_mem (List.mem_append_right front List.mem_cons_self)
    obtain ⟨htotal, hle, hfits, hbalance', hlast⟩ :=
      Caller.step_spec hround hcstep hc (htotals _ hmem) (h.last_le htotals) hbalance
    rw [hstep]
    refine ⟨⟨?_, ?_, owed_split ▸ hbalance', ?_⟩, hle⟩
    · rw [List.map_append, List.map_cons, htotal, ← List.map_cons, ← List.map_append]
      exact hmap
    · exact List.forall_mem_append.2 ⟨fun d hd => (hfront d hd).mono hle,
        List.forall_mem_cons.2 ⟨hfits, fun d hd => (hback d hd).mono hle⟩⟩
    · rcases hlast with hlast | hlast
      · exact hlast.symm ▸ h.told
      · exact .inr (hlast.symm ▸ hmem)

theorem run (hround : Exact round limit) (htotals : ∀ t ∈ totals, t ≤ limit) (h : x.Sound totals) (turns : List Nat) :
    (x.run round turns).Sound totals ∧ x.shared.last ≤ (x.run round turns).shared.last := by
  induction turns generalizing x with
  | nil => exact ⟨h, le_rfl⟩
  | cons i turns ih =>
    obtain ⟨hnext, hle⟩ := h.step hround htotals i
    obtain ⟨hrun, hle'⟩ := ih hnext
    exact ⟨hrun, hle.trans hle'⟩

/-- When all calls have returned, nothing is owed, and the greatest total is counted. -/
theorem counted_eq (h : x.Sound totals) (hover : x.Over) : x.shared.counted = totals.foldr max 0 := by
  have howed : x.owed = 0 := by
    refine List.sum_eq_zero (List.forall_mem_map.2 fun c hc => ?_)
    rw [Caller.owed, hover c hc]
  have hcounted : x.shared.counted = x.shared.last := by
    rw [← h.balance, howed, Nat.add_zero]
  have hall : ∀ t ∈ totals, t ≤ x.shared.last := by
    rw [← h.callers]
    refine List.forall_mem_map.2 fun c hc => ?_
    have hfits := h.fits c hc
    rwa [Caller.Fits, hover c hc] at hfits
  rw [hcounted]
  refine le_antisymm ?_ (List.max_le_of_forall_le totals _ hall)
  rcases h.told with hnone | hmem
  · rw [hnone]
    exact Nat.zero_le _
  · exact List.le_max_of_le hmem le_rfl

end Sound

end Race

/-! ## The end -/

namespace Caller

/-- The caller has not put its total in place yet, and may still have to. -/
def isOpen (c : Caller) : Bool :=
  match c.phase with
  | .reading | .swapping _ => true
  | .adding _ | .returned => false

/-- The steps to the end of a caller, if no other caller raises the greatest total meanwhile. -/
def distance (last : Nat) (c : Caller) : Nat :=
  match c.phase with
  | .reading => 3
  | .swapping seen => if seen = last then 2 else 4
  | .adding _ => 1
  | .returned => 0

/-- A step of a caller either settles whether it raises the greatest total, or leaves that total as it is and brings the
caller nearer to its end. -/
theorem step_nearer {round : Nat → Nat} {c c' : Caller} {t t' : RunningTotal} (hstep : c.step round t = (c', t'))
    (hc : c.phase ≠ .returned) : (c.isOpen = true ∧ c'.isOpen = false) ∨
      (t'.last = t.last ∧ c'.isOpen = c.isOpen ∧ c'.distance t.last < c.distance t.last) := by
  obtain ⟨total, phase⟩ := c
  cases phase with
  | reading =>
    rcases Nat.lt_or_ge t.last total with h | h
    · cases (step_ahead h).symm.trans hstep
      exact .inr ⟨rfl, rfl, by simp [distance]⟩
    · cases (step_behind h).symm.trans hstep
      exact .inl ⟨rfl, rfl⟩
  | swapping seen =>
    by_cases h : t.last = seen
    · subst h
      cases step_in_time.symm.trans hstep
      exact .inl ⟨rfl, rfl⟩
    · cases (step_late h).symm.trans hstep
      exact .inr ⟨rfl, rfl, by simp [distance, Ne.symm h]⟩
  | adding seen =>
    cases hstep
    exact .inr ⟨rfl, rfl, Nat.one_pos⟩
  | returned => exact absurd rfl hc

end Caller

namespace Race

variable {x : Race}

/-- How far a race is from its end. A caller that raises the greatest total may set back all others, but they are fewer
that can do so then; hence the open callers count first. -/
def distance (x : Race) : Nat ×ₗ Nat :=
  toLex (x.callers.countP Caller.isOpen, (x.callers.map (Caller.distance x.shared.last)).sum)

theorem step_lt (round : Nat → Nat) {i : Nat} {c : Caller} (hi : x.callers[i]? = some c)
    (hc : c.phase ≠ .returned) : (x.step round i).distance < x.distance := by
  generalize hcstep : c.step round x.shared = r
  obtain ⟨c', t'⟩ := r
  obtain ⟨front, back, hsplit, hstep⟩ := step_of_caller hi hcstep
  rw [hstep, distance, distance, hsplit, Prod.Lex.toLex_lt_toLex]
  simp only [List.countP_append, List.countP_cons, List.map_append, List.map_cons, List.sum_append, List.sum_cons]
  rcases Caller.step_nearer hcstep hc with ⟨hopen, hopen'⟩ | ⟨hlast, hopen, hless⟩
  · rw [hopen, hopen']
    exact .inl (by simp)
  · rw [hlast, hopen]
    exact .inr ⟨rfl, by omega⟩

/-- Every race can be brought to its end. -/
theorem exists_over (round : Nat → Nat) (x : Race) : ∃ turns, (x.run round turns).Over := by
  induction hd : x.distance using WellFoundedLT.induction generalizing x with
  | ind d ih =>
    subst hd
    by_cases hover : x.Over
    · exact ⟨[], hover⟩
    · obtain ⟨c, hmem, hc⟩ : ∃ c ∈ x.callers, c.phase ≠ .returned := by simpa [Over] using hover
      obtain ⟨i, hi⟩ := List.mem_iff_getElem?.1 hmem
      obtain ⟨turns, hturns⟩ := ih _ (step_lt round hi hc) _ rfl
      exact ⟨i :: turns, hturns⟩

/-! ## Totals -/

theorem counted_of_exact {totals : List UInt64} (hround : Exact round limit)
    (htotals : ∀ t ∈ totals, t.toNat ≤ limit) (turns more : List Nat) :
    let x : Race := (start totals).run round turns
    x.shared.last ≤ (x.run round more).shared.last ∧ x.shared.counted + x.owed = x.shared.last ∧
      (x.Over → x.shared.counted = (totals.map UInt64.toNat).foldr max 0) := by
  intro x
  have hall : ∀ t ∈ totals.map UInt64.toNat, t ≤ limit := List.forall_mem_map.2 htotals
  have hsound : x.Sound (totals.map UInt64.toNat) := ((sound_start totals).run hround hall turns).1
  exact ⟨(hsound.run hround hall more).2, hsound.balance, hsound.counted_eq⟩

/-- However the steps of the callers are interleaved, in exact arithmetic: the greatest total never falls, what is
counted and what is owed make it up at all times, and when all calls have returned the count is the greatest total that
was told. Every interleaving can be brought to that end. -/
theorem counted_exactly (totals : List UInt64) (turns more : List Nat) :
    let x : Race := (start totals).run id turns
    x.shared.last ≤ (x.run id more).shared.last ∧ x.shared.counted + x.owed = x.shared.last ∧
      (x.Over → x.shared.counted = (totals.map UInt64.toNat).foldr max 0) ∧
      ∃ rest, (x.run id rest).Over := by
  intro x
  have hexact : Exact id 18446744073709551615 := ⟨fun _ _ => rfl, by decide⟩
  have htotals : ∀ t ∈ totals, t.toNat ≤ 18446744073709551615 := fun t _ => Nat.le_of_lt_succ t.toNat_lt
  obtain ⟨hle, hbalance, hover⟩ := counted_of_exact hexact htotals turns more
  exact ⟨hle, hbalance, hover, exists_over id x⟩

/-- The second caller comes too late to swap, overtakes the first one before it counts, and the third has nothing to
tell. -/
def overtaking : List Nat := [0, 1, 0, 1, 2, 1, 1, 1]

theorem overtaking_counted :
    ((start [5, 9, 5]).run id overtaking).shared = { last := 9, counted := 4 } ∧
      ((start [5, 9, 5]).run id overtaking).owed = 5 ∧ ((start [5, 9, 5]).run id (overtaking ++ [0])).Over ∧
      ((start [5, 9, 5]).run id (overtaking ++ [0])).shared.counted = 9 := by
  have hover : ((start [5, 9, 5]).run id (overtaking ++ [0])).Over := by
    unfold Over
    decide
  obtain ⟨-, -, hcounted, -⟩ := counted_exactly [5, 9, 5] (overtaking ++ [0]) []
  exact ⟨by decide, by decide, hover, hcounted hover⟩

end Race

/-! ## Doubles -/

theorem nearestWhole_eq {n : Nat} (h : n < 9007199254740992) : nearestWhole n = n := by
  have hlog : n.log2 - 52 = 0 := by
    rcases Nat.eq_zero_or_pos n with rfl | hpos
    · rfl
    · have : n.log2 < 53 := (Nat.log2_lt (by omega)).2 h
      omega
  simp [nearestWhole, hlog, Nat.mod_one]

/-- Doubles are as good as exact arithmetic for totals that they hold. -/
theorem Race.counted_in_doubles {totals : List UInt64} (htotals : ∀ t ∈ totals, t.toNat < 9007199254740992)
    (turns more : List Nat) :
    let x : Race := (Race.start totals).run nearestWhole turns
    x.shared.last ≤ (x.run nearestWhole more).shared.last ∧ x.shared.counted + x.owed = x.shared.last ∧
      (x.Over → x.shared.counted = (totals.map UInt64.toNat).foldr max 0) := by
  have hexact : Exact nearestWhole 9007199254740991 := ⟨fun n hn => nearestWhole_eq (by omega), by decide⟩
  exact counted_of_exact hexact (fun t ht => Nat.le_of_lt_succ (htotals t ht)) turns more

end SceneGraph.RunningTotal
