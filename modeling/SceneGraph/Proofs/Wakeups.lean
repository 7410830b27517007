import Mathlib.Data.List.Basic
import SceneGraph.Live.Engine

/-!
# Wakeups

Many callers offer values to one slot while a loop takes them. An offer is made in two steps, the value first and
the signal second, and the loop receives a signal before it polls, so a signal may be lost in one that is raised
already, be stale when it is received, or come for a value that was taken long ago. A value is never stranded for
all that: until it is polled, a signal is raised, or a caller is about to raise one, or the loop is about to poll.

* `Slot.Exchange`: the slot with its callers and its loop.
* `Slot.Exchange.move?`: what one of them does next.
* `Slot.Exchange.Sound`: no value waits unnoticed, and none is taken twice or lost from the count.
* `Slot.Exchange.Sound.run`: so it stays in every interleaving.
* `Slot.Exchange.never_stranded`: what that says of a value that waits.
-/
set_option autoImplicit false

namespace SceneGraph.Slot

variable {ι α : Type}

/-- A value that still waits when another is stored counts as superseded. -/
theorem dropped_store (s : Slot α) (v : α) : (s.store v).dropped = s.dropped + s.pending.toList.length := by
  unfold store
  cases s.pending <;> rfl

/-- A slot, the callers that offer values to it, and the loop that takes them. -/
structure Exchange (ι α : Type) where
  slot : Slot α := {}
  /-- The callers that have stored their value and not yet raised the signal. -/
  offering : List ι := []
  /-- The loop has received a signal and not yet polled. -/
  awake : Bool := false
  /-- The values that were stored, in their order. -/
  stored : List α := []
  /-- The values that were polled, in their order. -/
  polled : List α := []
  /-- The number of offers that have returned. -/
  completed : Nat := 0

/-- An atomic step of a caller or of the loop. -/
inductive Move (ι α : Type) where
  | store (caller : ι) (v : α)
  | notify (caller : ι)
  | receive
  | poll

namespace Exchange

/-- The exchange after a step; none while the caller or the loop cannot take it. A caller stores one value at a time,
and the loop waits until a signal is raised. -/
def move? [DecidableEq ι] (x : Exchange ι α) : Move ι α → Option (Exchange ι α)
  | .store i v =>
    if i ∈ x.offering then none
    else some { x with slot := x.slot.store v, offering := i :: x.offering, stored := x.stored ++ [v] }
  | .notify i =>
    if i ∈ x.offering then
      some { x with slot := x.slot.notify, offering := x.offering.erase i, completed := x.completed + 1 }
    else none
  | .receive =>
    if x.awake = false ∧ x.slot.receive.1 = true then some { x with slot := x.slot.receive.2, awake := true } else none
  | .poll =>
    if x.awake = true then
      some { x with slot := x.slot.poll.2, awake := false, polled := x.polled ++ x.slot.poll.1.toList }
    else none

/-- The exchange after an interleaving of steps. -/
def run? [DecidableEq ι] : Exchange ι α → List (Move ι α) → Option (Exchange ι α)
  | x, [] => some x
  | x, m :: rest => (x.move? m).bind fun y => y.run? rest

/-- No value waits unnoticed; what was polled and what waits are values that were stored, each at most once and in
their order; and every value that was stored was polled, was superseded or waits. -/
structure Sound (x : Exchange ι α) : Prop where
  noticed : x.slot.pending.isSome → x.slot.signal = true ∨ x.offering ≠ [] ∨ x.awake = true
  once : (x.polled ++ x.slot.pending.toList).Sublist x.stored
  counted : x.stored.length = x.polled.length + x.slot.dropped + x.slot.pending.toList.length
  returned : x.stored.length = x.completed + x.offering.length

theorem sound_empty : ({} : Exchange ι α).Sound where
  noticed h := by cases h
  once := List.nil_sublist _
  counted := rfl
  returned := rfl

variable [DecidableEq ι]

namespace Sound

variable {x y : Exchange ι α}

theorem store (h : x.Sound) {i : ι} {v : α} (hmove : x.move? (.store i v) = some y) : y.Sound := by
  simp only [move?, Option.ite_none_left_eq_some, Option.some.injEq] at hmove
  obtain ⟨-, rfl⟩ := hmove
  have hpolled : x.polled.Sublist x.stored := (List.sublist_append_left _ _).trans h.once
  refine ⟨fun _ => .inr (.inl (List.cons_ne_nil _ _)), hpolled.append (List.Sublist.refl [v]), ?_, ?_⟩
  · have hcounted := h.counted
    have hwaiting : (x.slot.store v).pending.toList.length = 1 := rfl
    simp only [dropped_store, hwaiting, List.length_append, List.length_singleton]
    omega
  · have hreturned := h.returned
    simp only [List.length_append, List.length_cons, List.length_nil]
    omega

theorem notify (h : x.Sound) {i : ι} (hmove : x.move? (.notify i) = some y) : y.Sound := by
  simp only [move?, Option.ite_none_right_eq_some, Option.some.injEq] at hmove
  obtain ⟨hi, rfl⟩ := hmove
  refine ⟨fun _ => .inl rfl, h.once, h.counted, ?_⟩
  have hpos := List.length_pos_of_mem hi
  have hreturned := h.returned
  simp only [List.length_erase_of_mem hi]
  omega

theorem receive (h : x.Sound) (hmove : x.move? .receive = some y) : y.Sound := by
  simp only [move?, Option.ite_none_right_eq_some, Option.some.injEq] at hmove
  obtain ⟨-, rfl⟩ := hmove
  -- The signal is gone, but the loop polls next.
  exact ⟨fun _ => .inr (.inr rfl), h.once, h.counted, h.returned⟩

theorem poll (h : x.Sound) (hmove : x.move? .poll = some y) : y.Sound := by
  simp only [move?, Option.ite_none_right_eq_some, Option.some.injEq] at hmove
  obtain ⟨-, rfl⟩ := hmove
  refine ⟨?_, ?_, ?_, h.returned⟩
  · intro hpending
    cases hpending
  · simpa only [Slot.poll, Option.toList_none, List.append_nil] using h.once
  · have hcounted := h.counted
    simp only [Slot.poll, List.length_append, Option.toList_none, List.length_nil]
    omega

theorem move (h : x.Sound) {m : Move ι α} (hmove : x.move? m = some y) : y.Sound := by
  cases m with
  | store i v => exact h.store hmove
  | notify i => exact h.notify hmove
  | receive => exact h.receive hmove
  | poll => exact h.poll hmove

theorem run (h : x.Sound) {moves : List (Move ι α)} (hrun : x.run? moves = some y) : y.Sound := by
  induction moves generalizing x with
  | nil =>
    obtain rfl := Option.some.inj hrun
    exact h
  | cons m rest ih =>
    obtain ⟨z, hmove, hrest⟩ := Option.bind_eq_some_iff.1 hrun
    exact ih (h.move hmove) hrest

end Sound

/-- A raised signal lets the loop take what waits in two steps. -/
theorem run?_receive_poll {x : Exchange ι α} {v : α} (hpending : x.slot.pending = some v)
    (hsignal : x.slot.signal = true) (hasleep : x.awake = false) :
    ∃ y, x.run? [.receive, .poll] = some y ∧ y.polled = x.polled ++ [v] ∧ y.slot.pending = none := by
  simp only [run?, move?, Slot.receive, Slot.poll, hpending, hsignal, hasleep, and_self, if_true,
    Option.bind_some]
  exact ⟨_, rfl, rfl, rfl⟩

/-- However the steps of callers and loop are interleaved: where a value waits while no caller is in the middle of
an offer and the loop is not about to poll, the signal is raised, so that the loop takes the value next. Every
stored value is polled at most once, in the order of storing, the one that waits after all others, and the offers that
have returned or are in the middle are as many as the values polled, those superseded and the one that waits. -/
theorem never_stranded {moves : List (Move ι α)} {x : Exchange ι α} (h : ({} : Exchange ι α).run? moves = some x) :
    (x.slot.pending.isSome → x.offering = [] → x.awake = false → x.slot.signal = true) ∧
      (∀ v, x.slot.pending = some v → x.offering = [] → x.awake = false →
        ∃ y, x.run? [.receive, .poll] = some y ∧ y.polled = x.polled ++ [v] ∧ y.slot.pending = none) ∧
      (x.polled ++ x.slot.pending.toList).Sublist x.stored ∧ (x.stored.Nodup → x.polled.Nodup) ∧
      x.stored.length = x.completed + x.offering.length ∧
      x.completed + x.offering.length =
        x.polled.length + x.slot.dropped + (if x.slot.pending.isSome then 1 else 0) := by
  have hsound : x.Sound := sound_empty.run h
  have hraised : x.slot.pending.isSome → x.offering = [] → x.awake = false → x.slot.signal = true := by
    intro hpending hoffering hasleep
    rcases hsound.noticed hpending with hsignal | hbusy | hawake
    · exact hsignal
    · exact (hbusy hoffering).elim
    · rw [hasleep] at hawake
      cases hawake
  have hpolled : x.polled.Sublist x.stored := (List.sublist_append_left _ _).trans hsound.once
  have hwaiting : x.slot.pending.toList.length = if x.slot.pending.isSome then 1 else 0 := by
    cases x.slot.pending <;> rfl
  refine ⟨hraised, ?_, hsound.once, fun hdistinct => hdistinct.sublist hpolled, hsound.returned,
    hwaiting ▸ hsound.returned ▸ hsound.counted⟩
  intro v hpending hoffering hasleep
  exact run?_receive_poll hpending (hraised (by rw [hpending]; rfl) hoffering hasleep) hasleep

/-- Two callers supersede each other, one of them again while the loop is about to poll; its signal is stale then, and
the loop polls in vain before the last offer. -/
def crossing : List (Move Nat String) :=
  [.store 0 "a", .store 1 "b", .notify 0, .receive, .store 0 "c", .notify 1, .poll, .notify 0, .receive, .poll,
    .store 1 "d", .notify 1]

theorem crossing_never_stranded : ∃ x y, ({} : Exchange Nat String).run? crossing = some x ∧
    x.slot.pending = some "d" ∧ x.offering = [] ∧ x.awake = false ∧ x.slot.signal = true ∧
    x.stored = ["a", "b", "c", "d"] ∧ x.polled = ["c"] ∧ x.polled.Nodup ∧ x.completed = 4 ∧ x.slot.dropped = 2 ∧
    x.run? [.receive, .poll] = some y ∧ y.polled = ["c", "d"] := by
  obtain ⟨x, hrun⟩ : ∃ x, ({} : Exchange Nat String).run? crossing = some x := ⟨_, rfl⟩
  obtain ⟨hraised, htaken, -, hdistinct, -, -⟩ := never_stranded hrun
  cases hrun
  obtain ⟨y, hy, hpolled, -⟩ := htaken "d" rfl rfl rfl
  exact ⟨_, y, rfl, rfl, rfl, rfl, hraised rfl rfl rfl, rfl, rfl, hdistinct (by decide), rfl, rfl, hy, hpolled⟩

end Exchange

end SceneGraph.Slot
