import SceneGraph.Plan.Build

/-!
# Runs

What a computation does to its state. `Yields x s a t` says that `x`, started in `s`, gives `a` and leaves `t`, and
`Raises x s e t` that it fails with `e` and leaves `t`; the lemmas take such runs apart along the structure of `x`.
`Reaches y t x s` says that `x`, started in `s`, comes to a part `y` in the state `t`, and fails where `y` does.
-/
set_option autoImplicit false

namespace SceneGraph

section

variable {ε σ α β : Type}

/-- The computation, started in the first state, succeeds with a value and leaves the second state. -/
def Yields (x : ExceptT ε (StateM σ) α) (s : σ) (a : α) (t : σ) : Prop := x.run.run s = (.ok a, t)

theorem yields_run {x : ExceptT ε (StateM σ) α} {s : σ} {a : α} (h : (x.run.run s).1 = .ok a) :
    Yields x s a (x.run.run s).2 :=
  Prod.ext h rfl

@[simp]
theorem yields_pure (a b : α) (s t : σ) :
    Yields (pure a : ExceptT ε (StateM σ) α) s b t ↔ b = a ∧ t = s := by
  constructor
  · intro h
    cases h
    exact ⟨rfl, rfl⟩
  · rintro ⟨rfl, rfl⟩
    rfl

theorem run_bind (x : ExceptT ε (StateM σ) α) (f : α → ExceptT ε (StateM σ) β) (s : σ) :
    (x >>= f).run.run s =
      match x.run.run s with
      | (.ok a, u) => (f a).run.run u
      | (.error e, u) => (.error e, u) := by
  change ((x.run >>= ExceptT.bindCont f) : StateM σ (Except ε β)).run s = _
  change ((ExceptT.bindCont f) (x.run.run s).1).run (x.run.run s).2 = _
  rcases x.run.run s with ⟨_ | _, _⟩ <;> rfl

@[simp]
theorem yields_bind (x : ExceptT ε (StateM σ) α) (f : α → ExceptT ε (StateM σ) β) (s t : σ) (b : β) :
    Yields (x >>= f) s b t ↔ ∃ a u, Yields x s a u ∧ Yields (f a) u b t := by
  unfold Yields
  rw [run_bind]
  rcases x.run.run s with ⟨e | a, u⟩
  · constructor
    · intro h
      cases h
    · rintro ⟨_, _, h, _⟩
      cases h
  · constructor
    · intro h
      exact ⟨a, u, rfl, h⟩
    · rintro ⟨_, _, h, h'⟩
      cases h
      exact h'

@[simp]
theorem yields_throw (e : ε) (s t : σ) (a : α) :
    ¬ Yields (throw e : ExceptT ε (StateM σ) α) s a t := by
  intro h
  cases h

@[simp]
theorem yields_get (s t u : σ) : Yields (get : ExceptT ε (StateM σ) σ) s t u ↔ t = s ∧ u = s := by
  constructor
  · intro h
    cases h
    exact ⟨rfl, rfl⟩
  · rintro ⟨rfl, rfl⟩
    rfl

@[simp]
theorem yields_set (new s t : σ) (a : PUnit) :
    Yields (set new : ExceptT ε (StateM σ) PUnit) s a t ↔ t = new := by
  constructor
  · intro h
    cases h
    rfl
  · rintro rfl
    rfl

@[simp]
theorem yields_modify (f : σ → σ) (s t : σ) (a : PUnit) :
    Yields (modify f : ExceptT ε (StateM σ) PUnit) s a t ↔ t = f s := by
  constructor
  · intro h
    cases h
    rfl
  · rintro rfl
    rfl

@[simp]
theorem yields_modifyGet (f : σ → α × σ) (s t : σ) (a : α) :
    Yields (modifyGet f : ExceptT ε (StateM σ) α) s a t ↔ a = (f s).1 ∧ t = (f s).2 := by
  constructor
  · intro h
    cases h
    exact ⟨rfl, rfl⟩
  · rintro ⟨rfl, rfl⟩
    rfl

@[simp]
theorem yields_result (r : Except ε α) (s t : σ) (a : α) :
    Yields (ExceptT.mk (pure r) : ExceptT ε (StateM σ) α) s a t ↔ r = .ok a ∧ t = s := by
  constructor
  · intro h
    cases h
    exact ⟨rfl, rfl⟩
  · rintro ⟨rfl, rfl⟩
    rfl

@[simp]
theorem yields_ite (p : Prop) [Decidable p] (x y : ExceptT ε (StateM σ) α) (s t : σ) (a : α) :
    Yields (if p then x else y) s a t ↔ (p ∧ Yields x s a t) ∨ (¬ p ∧ Yields y s a t) := by
  by_cases hp : p <;> simp [hp]

/-! ## Failing runs -/

/-- The computation, started in the first state, fails and leaves the second state. -/
def Raises (x : ExceptT ε (StateM σ) α) (s : σ) (e : ε) (t : σ) : Prop := x.run.run s = (.error e, t)

theorem raises_pure (a : α) (s t : σ) (e : ε) : ¬Raises (pure a : ExceptT ε (StateM σ) α) s e t := by
  intro h
  cases h

theorem raises_throw (e e' : ε) (s t : σ) : Raises (throw e : ExceptT ε (StateM σ) α) s e' t ↔ e' = e ∧ t = s := by
  constructor
  · intro h
    cases h
    exact ⟨rfl, rfl⟩
  · rintro ⟨rfl, rfl⟩
    rfl

/-- A sequence fails in its first part, or in the second after the first succeeded. -/
theorem raises_bind (x : ExceptT ε (StateM σ) α) (f : α → ExceptT ε (StateM σ) β) (s t : σ) (e : ε) :
    Raises (x >>= f) s e t ↔ Raises x s e t ∨ ∃ a u, Yields x s a u ∧ Raises (f a) u e t := by
  unfold Raises Yields
  rw [run_bind]
  rcases x.run.run s with ⟨e' | a, u⟩
  · constructor
    · intro h
      cases h
      exact .inl rfl
    · rintro (h | ⟨_, _, h, _⟩)
      · cases h
        rfl
      · cases h
  · constructor
    · exact fun h => .inr ⟨a, u, rfl, h⟩
    · rintro (h | ⟨_, _, h, h'⟩)
      · cases h
      · cases h
        exact h'

/-- The second computation, started in the second state, comes to the first one in the first state. -/
inductive Reaches (y : ExceptT ε (StateM σ) β) (t : σ) : {α : Type} → ExceptT ε (StateM σ) α → σ → Prop where
  | here : Reaches y t y t
  | first {α γ : Type} {x : ExceptT ε (StateM σ) γ} {f : γ → ExceptT ε (StateM σ) α} {s : σ} (h : Reaches y t x s) :
      Reaches y t (x >>= f) s
  | later {α γ : Type} {x : ExceptT ε (StateM σ) γ} {f : γ → ExceptT ε (StateM σ) α} {s u : σ} {a : γ}
      (hx : Yields x s a u) (h : Reaches y t (f a) u) : Reaches y t (x >>= f) s

/-- A computation fails where one that it comes to fails. -/
theorem Reaches.raises {y : ExceptT ε (StateM σ) β} {x : ExceptT ε (StateM σ) α} {s t u : σ} {e : ε}
    (h : Reaches y t x s) (hy : Raises y t e u) : Raises x s e u := by
  induction h with
  | here => exact hy
  | first _ ih => exact (raises_bind _ _ _ _ _).2 (.inl ih)
  | later hx _ ih => exact (raises_bind _ _ _ _ _).2 (.inr ⟨_, _, hx, ih⟩)

end

theorem eq_ok_of_toOption {ε α : Type} {r : Except ε α} {a : α} (h : r.toOption = some a) : r = .ok a := by
  cases r with
  | error e => cases h
  | ok b => exact congrArg _ (Option.some.inj h)

/-! ## Logged computations -/

section

variable {ε ε' α : Type}

@[simp]
theorem yields_ofExcept (r : Except ε α) (s t : List LogEntry) (a : α) :
    Yields (Logged.ofExcept r) s a t ↔ r = .ok a ∧ t = s :=
  yields_result r s t a

@[simp]
theorem yields_debug (message : String) (fields : List (String × String)) (s t : List LogEntry) (a : Unit) :
    Yields (Logged.debug message fields : Logged ε Unit) s a t ↔ t = s ++ [⟨.debug, message, fields⟩] :=
  yields_modify _ s t a

theorem outcome_eq_ok (x : Logged ε α) (a : α) : x.outcome.1 = .ok a ↔ ∃ log, Yields x [] a log := by
  unfold Logged.outcome Yields
  constructor
  · intro h
    exact ⟨(x.run.run []).2, Prod.ext h rfl⟩
  · rintro ⟨log, h⟩
    exact congrArg Prod.fst h

theorem outcome_eq_error (x : Logged ε α) (e : ε) : x.outcome.1 = .error e ↔ ∃ log, Raises x [] e log := by
  unfold Logged.outcome Raises
  constructor
  · intro h
    exact ⟨(x.run.run []).2, Prod.ext h rfl⟩
  · rintro ⟨log, h⟩
    exact congrArg Prod.fst h

end

/-! ## Planning computations -/

namespace PlanM

@[simp]
theorem yields_ofSession {α : Type} (x : SessionM α) (st st' : PlanState) (a : α) :
    Yields (PlanM.ofSession x) st a st' ↔
      ∃ s, Yields x st.session a s ∧ st' = { st with session := s } := by
  have hrun : (PlanM.ofSession x).run.run st =
      ((x.run.run st.session).1.mapError .expr, { st with session := (x.run.run st.session).2 }) := rfl
  unfold Yields
  rw [hrun]
  rcases x.run.run st.session with ⟨e | b, s⟩
  · constructor
    · intro h
      cases h
    · rintro ⟨_, h, _⟩
      cases h
  · constructor
    · intro h
      cases h
      exact ⟨s, rfl, rfl⟩
    · rintro ⟨_, h, rfl⟩
      cases h
      rfl

@[simp]
theorem yields_ofExpr {α : Type} (r : Except ExprError α) (st st' : PlanState) (a : α) :
    Yields (PlanM.ofExpr r) st a st' ↔ r = .ok a ∧ st' = st := by
  unfold PlanM.ofExpr
  rw [yields_result]
  cases r with
  | error e =>
    change (Except.error (.expr e) : Except PlanError α) = .ok a ∧ st' = st ↔ _
    simp
  | ok b =>
    change (Except.ok b : Except PlanError α) = .ok a ∧ st' = st ↔ _
    simp

theorem yields_declare (f : Plan → Except ResourceConflict Plan) (st st' : PlanState) (a : Unit) :
    Yields (PlanM.declare f) st a st' ↔ ∃ p, f st.plan = .ok p ∧ st' = { st with plan := p } := by
  unfold PlanM.declare
  simp only [yields_bind, yields_get]
  constructor
  · rintro ⟨_, u, ⟨rfl, rfl⟩, h⟩
    cases hf : f u.plan with
    | error e =>
      rw [hf] at h
      exact absurd h (yields_throw _ _ _ _)
    | ok p =>
      rw [hf] at h
      exact ⟨p, rfl, (yields_set _ _ _ _).1 h⟩
  · rintro ⟨p, hf, rfl⟩
    refine ⟨st, st, ⟨rfl, rfl⟩, ?_⟩
    rw [hf]
    exact (yields_set _ _ _ _).2 rfl

@[simp]
theorem yields_report (e : LogEntry) (st st' : PlanState) (a : Unit) :
    Yields (PlanM.report e) st a st' ↔ st' = { st with session := st.session.report e } :=
  yields_modify _ st st' a

@[simp]
theorem yields_debug (message : String) (fields : List (String × String)) (st st' : PlanState) (a : Unit) :
    Yields (PlanM.debug message fields) st a st' ↔
      st' = { st with session := st.session.report ⟨.debug, message, fields⟩ } :=
  yields_modify _ st st' a

theorem raises_ofSession {α : Type} {x : SessionM α} {st st' : PlanState} {e : PlanError}
    (h : Raises (ofSession x) st e st') : ∃ cause, e = .expr cause := by
  have hrun : (ofSession x).run.run st =
      ((x.run.run st.session).1.mapError .expr, { st with session := (x.run.run st.session).2 }) := rfl
  unfold Raises at h
  rw [hrun] at h
  cases hx : (x.run.run st.session).1 with
  | ok a =>
    rw [hx] at h
    cases h
  | error cause =>
    rw [hx] at h
    cases h
    exact ⟨cause, rfl⟩

theorem raises_ofExpr {α : Type} {r : Except ExprError α} {st st' : PlanState} {e : PlanError}
    (h : Raises (ofExpr r) st e st') : ∃ cause, e = .expr cause := by
  cases r with
  | ok a => cases h
  | error cause =>
    cases h
    exact ⟨cause, rfl⟩

theorem raises_declare {f : Plan → Except ResourceConflict Plan} {st st' : PlanState} {e : PlanError}
    (h : Raises (declare f) st e st') : ∃ cause, e = .conflict cause := by
  obtain h | ⟨_, _, hget, h⟩ := (raises_bind _ _ _ _ _).1 h
  · cases h
  · split at h
    · cases h
    · exact ⟨_, ((raises_throw _ _ _ _).1 h).1⟩

end PlanM

/-- A plan is built exactly when all steps of planning succeed. -/
theorem PlanContext.build_eq_ok (c : PlanContext) (plan : Plan) :
    c.build.outcome.1 = .ok plan ↔
      ∃ st, Yields c.buildAll { plan := c.emptyPlan } () st ∧ st.plan = plan := by
  have hout : c.build.outcome.1 = (c.buildAll.run.run { plan := c.emptyPlan }).1.map
      fun _ => (c.buildAll.run.run { plan := c.emptyPlan }).2.plan := rfl
  rw [hout]
  unfold Yields
  rcases c.buildAll.run.run { plan := c.emptyPlan } with ⟨e | u, st⟩
  · constructor
    · intro h
      cases h
    · rintro ⟨_, h, _⟩
      cases h
  · constructor
    · intro h
      cases h
      exact ⟨st, rfl, rfl⟩
    · rintro ⟨_, h, rfl⟩
      cases h
      rfl

end SceneGraph
