import Mathlib.Data.List.Forall2
import SceneGraph.Proofs.Run

/-!
# Two runs side by side

Statements about two runs of a computation on inputs that differ in part: where both succeed, their
results are related.

* `Agree`: two results, related where both are values.
* `Lockstep`: two computations that keep their states related and give related values.
-/
set_option autoImplicit false

namespace SceneGraph

/-! ## Results -/

/-- Where both results are values, these are related. -/
def Agree {ε ε' α β : Type} (Q : α → β → Prop) (x : Except ε α) (y : Except ε' β) : Prop :=
  ∀ a b, x = .ok a → y = .ok b → Q a b

namespace Agree

variable {ε ε' α β γ δ : Type} {Q : α → β → Prop} {Q' : γ → δ → Prop}

theorem ok {a : α} {b : β} (h : Q a b) : Agree Q (.ok a : Except ε α) (.ok b : Except ε' β) := by
  intro a' b' ha hb
  cases ha
  cases hb
  exact h

theorem error_left {e : ε} {y : Except ε' β} : Agree Q (.error e : Except ε α) y := by
  intro a b ha
  cases ha

theorem error_right {e : ε'} {x : Except ε α} : Agree Q x (.error e : Except ε' β) := by
  intro a b _ hb
  cases hb

theorem of_eq {x y : Except ε α} (h : x = y) : Agree Eq x y := by
  rintro a b rfl hb
  cases h
  cases hb
  rfl

theorem mono {P : α → β → Prop} {x : Except ε α} {y : Except ε' β} (h : Agree P x y) (hQ : ∀ a b, P a b → Q a b) :
    Agree Q x y :=
  fun a b ha hb => hQ a b (h a b ha hb)

theorem bind {x : Except ε α} {y : Except ε' β} {f : α → Except ε γ} {g : β → Except ε' δ} (hxy : Agree Q x y)
    (hfg : ∀ a b, Q a b → Agree Q' (f a) (g b)) : Agree Q' (x >>= f) (y >>= g) := by
  intro c d hc hd
  cases x with
  | error e => cases hc
  | ok a =>
    cases y with
    | error e => cases hd
    | ok b => exact hfg a b (hxy a b rfl rfl) c d hc hd

theorem mapM {P : γ → δ → Prop} {f : γ → Except ε α} {g : δ → Except ε' β} {xs : List γ} {ys : List δ}
    (h : List.Forall₂ P xs ys) (hfg : ∀ x y, P x y → Agree Q (f x) (g y)) :
    Agree (List.Forall₂ Q) (xs.mapM f) (ys.mapM g) := by
  induction h with
  | nil => exact .ok .nil
  | cons hxy _ ih =>
    rw [List.mapM_cons, List.mapM_cons]
    refine (hfg _ _ hxy).bind fun a b hab => ih.bind fun as bs has => ?_
    exact .ok (.cons hab has)

end Agree

/-! ## Computations with a state -/

/-- From related states, where both computations succeed, they give related values and leave related states. -/
def Lockstep {ε σ α β : Type} (R : σ → σ → Prop) (Q : α → β → Prop) (x : ExceptT ε (StateM σ) α)
    (y : ExceptT ε (StateM σ) β) : Prop :=
  ∀ s s' a b t t', R s s' → Yields x s a t → Yields y s' b t' → Q a b ∧ R t t'

namespace Lockstep

variable {ε σ α β γ δ : Type} {R : σ → σ → Prop} {Q : α → β → Prop} {Q' : γ → δ → Prop}
  {x : ExceptT ε (StateM σ) α} {y : ExceptT ε (StateM σ) β}

theorem pure {a : α} {b : β} (h : Q a b) : Lockstep R Q (pure a : ExceptT ε (StateM σ) α) (pure b) := by
  intro s s' a' b' t t' hR ha hb
  obtain ⟨rfl, rfl⟩ := (yields_pure _ _ _ _).1 ha
  obtain ⟨rfl, rfl⟩ := (yields_pure _ _ _ _).1 hb
  exact ⟨h, hR⟩

theorem throw_left {e : ε} : Lockstep R Q (throw e) y :=
  fun _ _ _ _ _ _ _ ha _ => absurd ha (yields_throw _ _ _ _)

theorem throw_bind {e : ε} {f : γ → ExceptT ε (StateM σ) α} : Lockstep R Q (throw e >>= f) y := by
  intro s s' a b t t' _ ha _
  obtain ⟨_, _, hthrow, _⟩ := (yields_bind _ _ _ _ _).1 ha
  exact absurd hthrow (yields_throw _ _ _ _)

theorem bind {f : α → ExceptT ε (StateM σ) γ} {g : β → ExceptT ε (StateM σ) δ} (hxy : Lockstep R Q x y)
    (hfg : ∀ a b, Q a b → Lockstep R Q' (f a) (g b)) : Lockstep R Q' (x >>= f) (y >>= g) := by
  intro s s' c d t t' hR hc hd
  obtain ⟨a, u, ha, hc⟩ := (yields_bind _ _ _ _ _).1 hc
  obtain ⟨b, u', hb, hd⟩ := (yields_bind _ _ _ _ _).1 hd
  obtain ⟨hab, hu⟩ := hxy s s' a b u u' hR ha hb
  exact hfg a b hab u u' c d t t' hu hc hd

theorem ite {p q : Prop} [Decidable p] [Decidable q] {x' : ExceptT ε (StateM σ) α} {y' : ExceptT ε (StateM σ) β}
    (hpq : p ↔ q) (hxy : Lockstep R Q x y) (hxy' : Lockstep R Q x' y') :
    Lockstep R Q (if p then x else x') (if q then y else y') := by
  by_cases hp : p
  · rw [if_pos hp, if_pos (hpq.1 hp)]
    exact hxy
  · rw [if_neg hp, if_neg fun hq => hp (hpq.2 hq)]
    exact hxy'

theorem get : Lockstep R R (get : ExceptT ε (StateM σ) σ) get := by
  intro s s' a b t t' hR ha hb
  obtain ⟨rfl, rfl⟩ := (yields_get _ _ _).1 ha
  obtain ⟨rfl, rfl⟩ := (yields_get _ _ _).1 hb
  exact ⟨hR, hR⟩

theorem set {s s' : σ} (h : R s s') :
    Lockstep R Eq (set s : ExceptT ε (StateM σ) PUnit) (set s') := by
  intro u u' a b t t' _ ha hb
  obtain rfl := (yields_set _ _ _ _).1 ha
  obtain rfl := (yields_set _ _ _ _).1 hb
  exact ⟨rfl, h⟩

theorem modify {f g : σ → σ} (h : ∀ s s', R s s' → R (f s) (g s')) :
    Lockstep R Eq (modify f : ExceptT ε (StateM σ) PUnit) (modify g) := by
  intro s s' a b t t' hR ha hb
  obtain rfl := (yields_modify _ _ _ _).1 ha
  obtain rfl := (yields_modify _ _ _ _).1 hb
  exact ⟨rfl, h s s' hR⟩

theorem modifyGet {f : σ → α × σ} {g : σ → β × σ} (h : ∀ s s', R s s' → Q (f s).1 (g s').1 ∧ R (f s).2 (g s').2) :
    Lockstep R Q (modifyGet f : ExceptT ε (StateM σ) α) (modifyGet g) := by
  intro s s' a b t t' hR ha hb
  obtain ⟨rfl, rfl⟩ := (yields_modifyGet _ _ _ _).1 ha
  obtain ⟨rfl, rfl⟩ := (yields_modifyGet _ _ _ _).1 hb
  exact h s s' hR

theorem result {r : Except ε α} {r' : Except ε β} (h : Agree Q r r') :
    Lockstep R Q (ExceptT.mk (Pure.pure r) : ExceptT ε (StateM σ) α) (ExceptT.mk (Pure.pure r')) := by
  intro s s' a b t t' hR ha hb
  obtain ⟨hr, rfl⟩ := (yields_result _ _ _ _).1 ha
  obtain ⟨hr', rfl⟩ := (yields_result _ _ _ _).1 hb
  exact ⟨h a b hr hr', hR⟩

end Lockstep

/-! ## Lists and options -/

section

variable {α β γ δ : Type} {R : α → β → Prop}

theorem find?_rel {p : α → Bool} {q : β → Bool} {xs : List α} {ys : List β} (h : List.Forall₂ R xs ys)
    (hpq : ∀ x y, R x y → p x = q y) : Option.Rel R (xs.find? p) (ys.find? q) := by
  induction h with
  | nil => exact .none
  | @cons x y xs ys hxy _ ih =>
    rw [List.find?_cons, List.find?_cons, hpq x y hxy]
    cases q y with
    | true => exact .some hxy
    | false => exact ih

theorem rel_bind {S : γ → δ → Prop} {x : Option α} {y : Option β} {f : α → Option γ} {g : β → Option δ}
    (h : Option.Rel R x y) (hfg : ∀ a b, R a b → Option.Rel S (f a) (g b)) : Option.Rel S (x >>= f) (y >>= g) := by
  cases h with
  | none => exact .none
  | some hab => exact hfg _ _ hab

theorem rel_map {S : γ → δ → Prop} {x : Option α} {y : Option β} {f : α → γ} {g : β → δ} (h : Option.Rel R x y)
    (hfg : ∀ a b, R a b → S (f a) (g b)) : Option.Rel S (x.map f) (y.map g) := by
  cases h with
  | none => exact .none
  | some hab => exact .some (hfg _ _ hab)

theorem rel_of_map_eq {f : α → γ} {g : β → γ} {x : Option α} {y : Option β} (h : x.map f = y.map g) :
    Option.Rel (fun a b => f a = g b) x y := by
  cases x with
  | none =>
    cases y with
    | none => exact .none
    | some b => cases h
  | some a =>
    cases y with
    | none => cases h
    | some b => exact .some (Option.some.inj h)

theorem map_eq_of_rel {f : α → γ} {g : β → γ} {x : Option α} {y : Option β} (h : Option.Rel R x y)
    (hfg : ∀ a b, R a b → f a = g b) : x.map f = y.map g := by
  cases h with
  | none => rfl
  | some hab => exact congrArg some (hfg _ _ hab)

theorem forall₂_isEmpty {xs : List α} {ys : List β} (h : List.Forall₂ R xs ys) : xs.isEmpty = ys.isEmpty := by
  cases h <;> rfl

theorem forall₂_filter {p : α → Bool} {q : β → Bool} {xs : List α} {ys : List β} (h : List.Forall₂ R xs ys)
    (hpq : ∀ x y, R x y → p x = q y) : List.Forall₂ R (xs.filter p) (ys.filter q) :=
  List.rel_filter (fun x y hxy => Bool.eq_iff_iff.1 (hpq x y hxy)) h

theorem forall₂_append {xs xs' : List α} {ys ys' : List β} (h : List.Forall₂ R xs ys) (h' : List.Forall₂ R xs' ys') :
    List.Forall₂ R (xs ++ xs') (ys ++ ys') :=
  List.rel_append h h'

theorem forall₂_map {S : γ → δ → Prop} {f : α → γ} {g : β → δ} {xs : List α} {ys : List β}
    (h : List.Forall₂ R xs ys) (hfg : ∀ x y, R x y → S (f x) (g y)) : List.Forall₂ S (xs.map f) (ys.map g) :=
  List.rel_map (fun x y hxy => hfg x y hxy) h

/-- Tables with the same names and related values. -/
def TableRel (P : String → α → β → Prop) (t : Table α) (u : Table β) : Prop :=
  List.Forall₂ (fun p q => p.1 = q.1 ∧ P p.1 p.2 q.2) t u

theorem TableRel.insert {P : String → α → β → Prop} {t : Table α} {u : Table β} (h : TableRel P t u) {name : String}
    {a : α} {b : β} (hab : P name a b) : TableRel P (t.insert name a) (u.insert name b) := by
  induction h with
  | nil => exact .cons ⟨rfl, hab⟩ .nil
  | @cons p q t u hpq hrest ih =>
    obtain ⟨k, x⟩ := p
    obtain ⟨k', y⟩ := q
    obtain rfl : k = k' := hpq.1
    simp only [Table.insert]
    split
    · exact .cons ⟨rfl, hab⟩ hrest
    · split
      · exact .cons ⟨rfl, hab⟩ (.cons hpq hrest)
      · exact .cons hpq ih

theorem TableRel.get? {P : String → α → β → Prop} {t : Table α} {u : Table β} (h : TableRel P t u) (name : String) :
    Option.Rel (P name) (t.get? name) (u.get? name) := by
  unfold Table.get?
  induction h with
  | nil => exact .none
  | @cons p q t u hpq _ ih =>
    rw [List.find?_cons, List.find?_cons, ← hpq.1]
    split
    · rename_i hname
      obtain rfl : p.1 = name := by simpa using hname
      exact .some hpq.2
    · exact ih

theorem map_eq_of_forall₂ {f : α → γ} {g : β → γ} {xs : List α} {ys : List β} (h : List.Forall₂ R xs ys)
    (hfg : ∀ x y, R x y → f x = g y) : xs.map f = ys.map g :=
  List.forall₂_eq_eq_eq ▸ forall₂_map h hfg

theorem filterMap_eq_of_forall₂ {f : α → Option γ} {g : β → Option γ} {xs : List α} {ys : List β}
    (h : List.Forall₂ R xs ys) (hfg : ∀ x y, R x y → f x = g y) : xs.filterMap f = ys.filterMap g := by
  induction h with
  | nil => rfl
  | cons hxy _ ih => rw [List.filterMap_cons, List.filterMap_cons, hfg _ _ hxy, ih]

end

end SceneGraph
