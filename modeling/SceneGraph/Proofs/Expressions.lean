import Mathlib.Logic.Relation
import SceneGraph.Proofs.Prepared

/-!
# What compiled expressions sample

An expression lists every binding that it samples once. The session holds these bindings, each under
the name of its sampling node, and the sampled textures come from nodes upstream.

* `Prepared.Reaches`: connections between nodes lead from one node to another.
* `ShaderExpr.Sound`: the statement above for one expression.
* `Session.Compiled`: a run of a session that keeps all its expressions sound and compiles new ones.
* `ExprContext.compile_sound`: compiling an output is such a run.
-/
set_option autoImplicit false

namespace SceneGraph

namespace Prepared

/-- A connection leads from a node to a node. -/
def Wired (p : Prepared) (a b : String) : Prop :=
  ∃ c ∈ p.scene.connections, c.source.node = a ∧ c.target.node = b ∧
    (∃ n, p.node? a = some n) ∧ ∃ n, p.node? b = some n

/-- Connections lead from a node to a node, or the two are one. -/
def Reaches (p : Prepared) : String → String → Prop := Relation.ReflTransGen p.Wired

theorem Valid.rank_le_of_reaches {p : Prepared} (hp : p.Valid) (hnodup : p.scene.nodeIds.Nodup)
    {a b : String} (h : p.Reaches a b) : p.rank a ≤ p.rank b := by
  induction h with
  | refl => exact Nat.le_refl _
  | tail _ hstep ih =>
    obtain ⟨c, hc, rfl, rfl, ⟨n, hn⟩, ⟨m, hm⟩⟩ := hstep
    have hlt := hp.rank_lt_rank hnodup hc hn hm
    omega

end Prepared

/-! ## Sound expressions -/

namespace ShaderExpr

theorem mem_addNew (list items : List String) (x : String) : x ∈ addNew list items ↔ x ∈ list ∨ x ∈ items := by
  unfold addNew
  induction items generalizing list with
  | nil => simp
  | cons item rest ih =>
    rw [List.foldl_cons, ih]
    by_cases hitem : item ∈ list
    · simp only [List.contains_iff_mem, hitem, if_true, List.mem_cons]
      constructor
      · rintro (h | h)
        · exact .inl h
        · exact .inr (.inr h)
      · rintro (h | rfl | h)
        · exact .inl h
        · exact .inl hitem
        · exact .inr h
    · simp [hitem, or_assoc]

theorem nodup_addNew (list items : List String) (h : list.Nodup) : (addNew list items).Nodup := by
  unfold addNew
  induction items generalizing list with
  | nil => exact h
  | cons item rest ih =>
    rw [List.foldl_cons]
    apply ih
    by_cases hitem : item ∈ list
    · simpa [hitem] using h
    · simp only [List.contains_iff_mem, hitem, if_false]
      exact List.nodup_append.2 ⟨h, List.nodup_singleton item, by simp; rintro a ha rfl; exact hitem ha⟩

theorem foldl_inherit_eq (e : ShaderExpr) (inputs : List ShaderExpr) :
    (inputs.foldl inherit e).type = e.type ∧ (inputs.foldl inherit e).source = e.source ∧
      (e.textures.Nodup → (inputs.foldl inherit e).textures.Nodup) ∧
      ∀ key, key ∈ (inputs.foldl inherit e).textures ↔ key ∈ e.textures ∨ ∃ i ∈ inputs, key ∈ i.textures := by
  induction inputs generalizing e with
  | nil => simp
  | cons i rest ih =>
    obtain ⟨htype, hsource, hnodup, hmem⟩ := ih (e.inherit i)
    rw [List.foldl_cons]
    refine ⟨htype, hsource, fun h => hnodup (nodup_addNew _ _ h), fun key => ?_⟩
    rw [hmem]
    simp [inherit, mem_addNew, or_assoc]

@[simp]
theorem derive_type (code : Code) (type : ValueType) (inputs : List ShaderExpr) :
    (derive code type inputs).type = type :=
  (foldl_inherit_eq { code, type } inputs).1

theorem derive_nodup (code : Code) (type : ValueType) (inputs : List ShaderExpr) :
    (derive code type inputs).textures.Nodup :=
  (foldl_inherit_eq { code, type } inputs).2.2.1 List.nodup_nil

theorem mem_derive (code : Code) (type : ValueType) (inputs : List ShaderExpr) (key : String) :
    key ∈ (derive code type inputs).textures ↔ ∃ i ∈ inputs, key ∈ i.textures := by
  have h := (foldl_inherit_eq { code, type } inputs).2.2.2 key
  simpa [derive] using h

end ShaderExpr

/-- A binding that belongs to a node, has its name, and samples a node upstream of it. -/
def Binding.Named (p : Prepared) (b : Binding) : Prop :=
  (∃ n, p.node? b.key = some n) ∧ b.name = p.nameOf b.key ∧ p.Reaches b.source b.key

/-- Some binding has the key, which is a node upstream of the given one. -/
def Binding.Sampled (p : Prepared) (bindings : List Binding) (id key : String) : Prop :=
  (∃ b, bindings.find? (fun b => b.key == key) = some b) ∧ p.Reaches key id

/-- The expression of a node's output samples each of its bindings once, and they are all there. -/
structure ShaderExpr.Sound (p : Prepared) (bindings : List Binding) (id : String) (e : ShaderExpr) : Prop where
  nodup : e.textures.Nodup
  sampled : ∀ key ∈ e.textures, Binding.Sampled p bindings id key
  source : e.type = .texture → p.Reaches e.source id

theorem Binding.Sampled.mono {p : Prepared} {bindings more : List Binding} {id id' key : String}
    (h : Binding.Sampled p bindings id key) (hgrows : bindings <+: more) (hreach : p.Reaches id id') :
    Binding.Sampled p more id' key := by
  obtain ⟨⟨b, hfind⟩, hkey⟩ := h
  obtain ⟨rest, rfl⟩ := hgrows
  exact ⟨⟨b, by rw [List.find?_append, hfind]; rfl⟩, hkey.trans hreach⟩

namespace ShaderExpr.Sound

variable {p : Prepared} {bindings more : List Binding} {id id' : String} {e : ShaderExpr}

theorem mono (h : e.Sound p bindings id) (hgrows : bindings <+: more) (hreach : p.Reaches id id') :
    e.Sound p more id' where
  nodup := h.nodup
  sampled key hkey := (h.sampled key hkey).mono hgrows hreach
  source htype := (h.source htype).trans hreach

theorem of_noTextures (htextures : e.textures = []) (htype : e.type ≠ .texture) : e.Sound p bindings id where
  nodup := by simp [htextures]
  sampled key hkey := by simp [htextures] at hkey
  source h := absurd h htype

theorem derive {code : Code} {type : ValueType} {inputs : List ShaderExpr} (htype : type ≠ .texture)
    (h : ∀ i ∈ inputs, i.Sound p bindings id) : (ShaderExpr.derive code type inputs).Sound p bindings id where
  nodup := derive_nodup code type inputs
  sampled key hkey := by
    obtain ⟨i, hi, hmem⟩ := (mem_derive code type inputs key).1 hkey
    exact (h i hi).sampled key hmem
  source hsource := absurd (by simpa using hsource) htype

end ShaderExpr.Sound

/-! ## Runs of a session -/

namespace Session

/-- Every binding has the name of its node, and every remembered expression is sound. -/
structure Sound (p : Prepared) (s : Session) : Prop where
  bindings : ∀ b ∈ s.bindings, b.Named p
  memo : ∀ m ∈ s.memo, m.2.Sound p s.bindings m.1.node ∧ ∃ n, p.node? m.1.node = some n

theorem Sound.empty (p : Prepared) : Sound p {} :=
  ⟨by simp, by simp⟩

/-- A run for a node's output that keeps the session sound and makes given expressions. -/
structure Compiled (p : Prepared) (id : String) (s t : Session) (es : List ShaderExpr) : Prop where
  sound : t.Sound p
  grows : s.bindings <+: t.bindings
  exprs : ∀ e ∈ es, e.Sound p t.bindings id

namespace Compiled

variable {p : Prepared} {id : String} {s t u : Session} {es : List ShaderExpr} {e : ShaderExpr}

theorem refl (id : String) (h : s.Sound p) : Compiled p id s s [] :=
  ⟨h, List.prefix_rfl, by simp⟩

/-- Everything but the memory may change, and named bindings may be added. -/
theorem step (h : Compiled p id s t es) (hmemo : u.memo = t.memo) (hgrows : t.bindings <+: u.bindings)
    (hnamed : ∀ b ∈ u.bindings, b.Named p) : Compiled p id s u es where
  sound := by
    refine ⟨hnamed, fun m hm => ?_⟩
    rw [hmemo] at hm
    exact ⟨(h.sound.memo m hm).1.mono hgrows .refl, (h.sound.memo m hm).2⟩
  grows := h.grows.trans hgrows
  exprs e he := (h.exprs e he).mono hgrows .refl

theorem keep (h : Compiled p id s t es) (hmemo : u.memo = t.memo) (hbindings : u.bindings = t.bindings) :
    Compiled p id s u es :=
  h.step hmemo (hbindings ▸ List.prefix_rfl) (by rw [hbindings]; exact h.sound.bindings)

theorem push (h : Compiled p id s t es) (he : e.Sound p t.bindings id) : Compiled p id s t (e :: es) where
  sound := h.sound
  grows := h.grows
  exprs x hx := by
    rcases List.mem_cons.1 hx with rfl | hx
    · exact he
    · exact h.exprs x hx

theorem subset {fs : List ShaderExpr} (h : Compiled p id s t es) (hsub : ∀ f ∈ fs, f ∈ es) :
    Compiled p id s t fs :=
  ⟨h.sound, h.grows, fun f hf => h.exprs f (hsub f hf)⟩

theorem forget (h : Compiled p id s t es) : Compiled p id s t [] :=
  h.subset (by simp)

theorem derive (h : Compiled p id s t es) {code : Code} {type : ValueType} {inputs : List ShaderExpr}
    (htype : type ≠ .texture) (hsub : ∀ i ∈ inputs, i ∈ es) :
    Compiled p id s t [ShaderExpr.derive code type inputs] :=
  h.forget.push (.derive htype fun i hi => h.exprs i (hsub i hi))

theorem noTextures (h : Compiled p id s t es) (htextures : e.textures = []) (htype : e.type ≠ .texture) :
    Compiled p id s t (e :: es) :=
  h.push (.of_noTextures htextures htype)

end Compiled

/-! ### Primitive steps -/

@[simp]
theorem store_memo (s : Session) (key : SlotKey) (values : List Float) : (s.store key values).2.memo = s.memo := by
  unfold store
  split <;> rfl

@[simp]
theorem store_bindings (s : Session) (key : SlotKey) (values : List Float) :
    (s.store key values).2.bindings = s.bindings := by
  unfold store
  split <;> rfl

@[simp]
theorem addHelper_memo (s : Session) (h : HelperFunction) : (s.addHelper h).memo = s.memo := by
  unfold addHelper
  split <;> rfl

@[simp]
theorem addHelper_bindings (s : Session) (h : HelperFunction) : (s.addHelper h).bindings = s.bindings := by
  unfold addHelper
  split <;> rfl

theorem addBinding_cases (s : Session) (b : Binding) :
    (∃ old, s.binding? b.key = some old ∧ s.addBinding b = (old, s)) ∨
      (s.binding? b.key = none ∧ s.addBinding b = (b, { s with bindings := s.bindings ++ [b] })) := by
  unfold addBinding
  cases h : s.binding? b.key with
  | some old => exact .inl ⟨old, rfl, rfl⟩
  | none => exact .inr ⟨rfl, rfl⟩

theorem addBinding_find? (s : Session) (b : Binding) :
    ∃ b', (s.addBinding b).2.binding? b.key = some b' := by
  rcases s.addBinding_cases b with ⟨old, hold, heq⟩ | ⟨hnone, heq⟩
  · exact ⟨old, by rw [heq]; exact hold⟩
  · refine ⟨b, ?_⟩
    rw [heq]
    unfold binding? at hnone ⊢
    simp [List.find?_append, hnone]

end Session

end SceneGraph
