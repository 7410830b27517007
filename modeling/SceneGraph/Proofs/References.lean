import SceneGraph.Proofs.Inheritance

/-!
# References of code

Code refers to helper functions and to bound textures, which its module has to declare. A compiled expression
carries the names of both. They are collected on the way from one node to the next, apart from the code; still
they are those that the code refers to, no more and no fewer.

* `Code.references`: the uses of helper functions and textures in an expression.
* `Code.HasType.references`: what typed code refers to is in its scope.
* `ShaderExpr.Listed`: an expression carries the names that its code refers to.
* `ShaderExpr.listed_inherited`: expressions inherit that they are listed.
* `SessionM.Lists`: a computation keeps the expressions of a session that way.
* `ExprContext.compile_lists`: compiling an output is such a computation.
-/
set_option autoImplicit false

namespace SceneGraph

open SessionM

/-! ## References -/

namespace Code

/-- The use of something that a module has to declare. -/
@[simp]
def isReference : Code → Bool
  | .helper _ _ | .sample _ _ _ | .dimensions _ => true
  | _ => false

/-- The uses of helper functions and textures in an expression. -/
def references (e : Code) : List Code := e.uses.filter isReference

theorem mem_filterMap_uses {e : Code} {f : Code → Option String} (hf : ∀ u, u.isReference = false → f u = none)
    (name : String) : name ∈ e.uses.filterMap f ↔ ∃ u ∈ e.references, f u = some name := by
  simp only [references, List.mem_filterMap, List.mem_filter]
  refine exists_congr fun u => ⟨fun ⟨hu, hname⟩ => ⟨⟨hu, ?_⟩, hname⟩, fun ⟨hu, hname⟩ => ⟨hu.1, hname⟩⟩
  by_contra hnot
  rw [hf u (by simpa using hnot)] at hname
  cases hname

theorem mem_helpers {e : Code} {name : String} : name ∈ e.helpers ↔
    (∃ args, .helper name args ∈ e.references) ∨
      name = flipName ∧ ∃ key stem position, .sample key stem position ∈ e.references := by
  unfold helpers
  rw [mem_filterMap_uses (by rintro (_ | _) h <;> first | rfl | cases h)]
  constructor
  · rintro ⟨u, hu, hname⟩
    split at hname <;> cases hname
    · exact .inl ⟨_, hu⟩
    · exact .inr ⟨rfl, _, _, _, hu⟩
  · rintro (⟨args, hu⟩ | ⟨rfl, key, stem, position, hu⟩)
    · exact ⟨_, hu, rfl⟩
    · exact ⟨_, hu, rfl⟩

theorem mem_samples {e : Code} {key : String} :
    key ∈ e.samples ↔ ∃ stem position, .sample key stem position ∈ e.references := by
  unfold samples
  rw [mem_filterMap_uses (by rintro (_ | _) h <;> first | rfl | cases h)]
  constructor
  · rintro ⟨u, hu, hkey⟩
    split at hkey <;> cases hkey
    exact ⟨_, _, hu⟩
  · rintro ⟨stem, position, hu⟩
    exact ⟨_, hu, rfl⟩

theorem mem_textureNames {e : Code} {stem : String} : stem ∈ e.textureNames ↔
    (∃ key position, .sample key stem position ∈ e.references) ∨ .dimensions stem ∈ e.references := by
  unfold textureNames
  rw [mem_filterMap_uses (by rintro (_ | _) h <;> first | rfl | cases h)]
  constructor
  · rintro ⟨u, hu, hstem⟩
    split at hstem <;> cases hstem
    · exact .inl ⟨_, _, hu⟩
    · exact .inr hu
  · rintro (⟨key, position, hu⟩ | hu)
    · exact ⟨_, hu, rfl⟩
    · exact ⟨_, hu, rfl⟩

/-- The references of an expression are among its sources. -/
theorem references_eq (e : Code) : e.references = e.sources.filter isReference := by
  rw [references, sources, List.filter_filter]
  refine List.filter_congr fun u _ => ?_
  cases u <;> rfl

theorem references_of_sources {e : Code} (h : e.sources = []) : e.references = [] := by
  rw [references_eq, h, List.filter_nil]

theorem mem_references_of_sources {e : Code} {l : List Code} (h : ∀ u, u ∈ e.sources ↔ ∃ i ∈ l, u ∈ i.sources)
    (u : Code) : u ∈ e.references ↔ ∃ i ∈ l, u ∈ i.references := by
  simp only [references_eq, List.mem_filter, h, ← and_assoc, exists_and_right]

@[simp]
theorem references_verbatim (text : String) : (verbatim text).references = [] := rfl

@[simp]
theorem references_binary (text : String) (a b : Code) :
    (binary text a b).references = a.references ++ b.references := by
  simp only [references_eq, sources_binary, List.filter_append]

@[simp]
theorem references_call (text : String) (args : List Code) :
    (call text args).references = args.flatMap references := by
  rw [references_eq, sources_call, List.filter_flatMap]
  simp only [← references_eq]

@[simp]
theorem references_helper (text : String) (args : List Code) :
    (helper text args).references = .helper text [] :: args.flatMap references := by
  rw [references_eq, sources_helper, List.filter_cons_of_pos rfl, List.filter_flatMap]
  simp only [← references_eq]

@[simp]
theorem references_sample (key text : String) (e : Code) :
    (sample key text e).references = .sample key text (.verbatim "") :: e.references := by
  rw [references_eq, sources_sample, List.filter_cons_of_pos rfl, ← references_eq]

theorem HasType.references {matrices : Bool} {Γ : Scope} {e : Code} {t : ValueType} (h : e.HasType matrices Γ t) :
    ∀ u ∈ e.references, (∃ name ts r, u = .helper name [] ∧ Γ.function name ts r) ∨
      ∃ key stem, u = .sample key stem (.verbatim "") ∧ Γ.texture key stem := by
  have hargs : ∀ {args : List Code} {ts : List ValueType} {P : Code → Prop}, args.length = ts.length →
      (∀ (i : Nat) (a : Code) (s : ValueType), args[i]? = some a → ts[i]? = some s → ∀ u ∈ a.references, P u) →
      ∀ u ∈ args.flatMap Code.references, P u := by
    intro args ts P hlength hall u hu
    obtain ⟨a, ha, hu⟩ := List.mem_flatMap.1 hu
    obtain ⟨i, hi, rfl⟩ := List.getElem_of_mem ha
    exact hall i _ _ (List.getElem?_eq_getElem hi) (List.getElem?_eq_getElem (hlength ▸ hi)) u hu
  induction h with
  | zero _ | one _ | slot _ | time | resolution | uv | instanceIndex => exact fun u hu => absurd hu List.not_mem_nil
  | part _ _ _ _ ih | firstThree _ _ _ ih | negative _ _ _ ih | negation _ ih => exact ih
  | binary _ _ _ iha ihb =>
    intro u hu
    rw [references_binary] at hu
    exact (List.mem_append.1 hu).elim (iha u) (ihb u)
  | call _ hlength _ ih =>
    rw [references_call]
    exact hargs hlength ih
  | helper hf hlength _ ih =>
    intro u hu
    rw [references_helper] at hu
    rcases List.mem_cons.1 hu with rfl | hu
    · exact .inl ⟨_, _, _, rfl, hf⟩
    · exact hargs hlength ih u hu
  | sample htexture _ ih =>
    intro u hu
    rw [references_sample] at hu
    rcases List.mem_cons.1 hu with rfl | hu
    · exact .inr ⟨_, _, rfl, htexture⟩
    · exact ih u hu

end Code

/-! ## Expressions that list their references -/

namespace ShaderExpr

/-- The expression carries the names of the helper functions that its code calls and of the bindings that it
samples. -/
structure Listed (x : ShaderExpr) : Prop where
  helpers : ∀ name, name ∈ x.helpers ↔ name ∈ x.code.helpers
  textures : ∀ key, key ∈ x.textures ↔ key ∈ x.code.samples

theorem mem_derive_helpers (code : Code) (type : ValueType) (inputs : List ShaderExpr) (name : String) :
    name ∈ (derive code type inputs).helpers ↔ ∃ i ∈ inputs, name ∈ i.helpers := by
  have hfold : ∀ e : ShaderExpr,
      name ∈ (inputs.foldl inherit e).helpers ↔ name ∈ e.helpers ∨ ∃ i ∈ inputs, name ∈ i.helpers := by
    induction inputs with
    | nil => simp
    | cons i rest ih => simp [ih, inherit, mem_addNew, or_assoc]
  have hstart := hfold { code, type }
  simpa [derive] using hstart

variable {x : ShaderExpr}

theorem Listed.of_nil (hcode : x.code.references = []) (hhelpers : x.helpers = []) (htextures : x.textures = []) :
    x.Listed := by
  constructor <;> simp [Code.mem_helpers, Code.mem_samples, hcode, hhelpers, htextures]

/-- An expression that puts others together and has references of its own lists all of these. -/
theorem Listed.extend (own : Code) (inputs : List ShaderExpr) (h : ∀ i ∈ inputs, i.Listed)
    (hcode : ∀ u, u ∈ x.code.references ↔ u ∈ own.references ∨ ∃ i ∈ inputs, u ∈ i.code.references)
    (hhelpers : ∀ name, name ∈ x.helpers ↔ name ∈ own.helpers ∨ ∃ i ∈ inputs, name ∈ i.helpers)
    (htextures : ∀ key, key ∈ x.textures ↔ key ∈ own.samples ∨ ∃ i ∈ inputs, key ∈ i.textures) : x.Listed := by
  constructor
  · intro name
    have hin : (∃ i ∈ inputs, name ∈ i.helpers) ↔ ∃ i ∈ inputs, name ∈ i.code.helpers :=
      exists_congr fun i => and_congr_right fun hi => (h i hi).helpers name
    rw [hhelpers, hin]
    simp only [Code.mem_helpers, hcode]
    grind
  · intro key
    have hin : (∃ i ∈ inputs, key ∈ i.textures) ↔ ∃ i ∈ inputs, key ∈ i.code.samples :=
      exists_congr fun i => and_congr_right fun hi => (h i hi).textures key
    rw [htextures, hin]
    simp only [Code.mem_samples, hcode]
    grind

/-- An expression that only puts others together lists the references of these. -/
theorem Listed.derive {code : Code} {type : ValueType} {inputs : List ShaderExpr} (h : ∀ i ∈ inputs, i.Listed)
    (hcode : ∀ u, u ∈ code.references ↔ ∃ i ∈ inputs, u ∈ i.code.references) :
    (ShaderExpr.derive code type inputs).Listed := by
  refine .extend (.verbatim "") inputs h ?_ ?_ ?_
  · simpa using hcode
  · simp [mem_derive_helpers, Code.mem_helpers]
  · simp [mem_derive, Code.mem_samples]

theorem listed_inherited : Inherited Listed where
  plain hcode hx := .of_nil (Code.references_of_sources hcode) hx.helpers hx.textures
  clock hcode := .of_nil (by rw [Code.references_eq, hcode]; rfl) rfl rfl
  coordinates := .of_nil rfl rfl rfl
  instanceNumber := .of_nil rfl rfl rfl
  derive {code type inputs} h hcode := by
    have hreferences := Code.mem_references_of_sources (l := inputs.map ShaderExpr.code) (by simpa using hcode)
    exact .derive h (by simpa using hreferences)
  sample {key name uv} h := by
    -- Besides what the coordinates refer to, a sample refers to its texture and to the flip of coordinates.
    refine .extend (.sample key name (.verbatim "")) [uv] (by simpa using h) ?_ ?_ ?_
    · simp [sampled]
    · simp [sampled, mem_addNew, mem_derive_helpers, Code.mem_helpers, or_comm]
    · simp [sampled, mem_addNew, mem_derive, Code.mem_samples, or_comm]
  call {name type args} h := by
    refine .extend (.helper name []) args h ?_ ?_ ?_
    · simp [called]
    · simp [called, mem_addNew, mem_derive_helpers, Code.mem_helpers, or_comm]
    · simp [called, mem_derive, Code.mem_samples]

end ShaderExpr

/-! ## Sessions -/

/-- Every remembered expression lists its references, and helper functions have different names. -/
structure Session.Listed (s : Session) : Prop where
  memo : ∀ m ∈ s.memo, m.2.Listed
  helpers : (s.helpers.map HelperFunction.name).Nodup

theorem Session.listed_iff (s : Session) : s.Listed ↔ s.Holds (fun _ => True) (fun _ => True) ShaderExpr.Listed :=
  ⟨fun h => ⟨h.memo, fun _ _ => trivial, h.helpers, fun _ _ => trivial⟩, fun h => ⟨h.memo, h.distinct⟩⟩

theorem Session.Listed.empty : Session.Listed {} := ⟨by simp, by simp⟩

namespace SessionM

/-- A successful run keeps the expressions of a session listed, and its result is as described. -/
def Lists {α : Type} (x : SessionM α) (Q : α → Prop) : Prop :=
  ∀ s a t, Yields x s a t → s.Listed → t.Listed ∧ Q a

/-- What keeps any property that expressions inherit keeps them listed. -/
theorem Inherits.lists {p : Prepared} {α : Type} {x : SessionM α} {Q : α → Prop}
    (h : Inherits p ShaderExpr.Listed x Q) : Lists x Q := by
  intro s a t hx hs
  obtain ⟨ht, hQ⟩ := h.yields (fun _ _ => trivial) (fun _ _ => trivial) hx (s.listed_iff.1 hs)
  exact ⟨t.listed_iff.2 ht, hQ⟩

end SessionM

/-- Compiling other outputs keeps expressions listed and makes such. -/
def NodeContext.Lists (c : NodeContext) : Prop := ∀ e, SessionM.Lists (c.compile e) ShaderExpr.Listed

/-- Compiling an output makes an expression that lists its references. -/
theorem ExprContext.compile_lists (p : Prepared) (accepts : String → Bool) :
    ({ prepared := p, accepts } : ExprContext).inputs.Lists :=
  fun e => (ExprContext.compile_inherits ShaderExpr.listed_inherited p e).lists

end SceneGraph
