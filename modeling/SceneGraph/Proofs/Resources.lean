import Mathlib.Data.List.Nodup
import SceneGraph.Plan.Build

/-!
# Resources of plans

A plan is consistent when every resource is declared once, every texture that is filled has its pixels,
and every pass refers to declared resources that fit it. Declarations keep a plan consistent, and what
is declared stays declared.

* `Plan.PassClosed`: everything that a pass names is declared and fits.
* `Plan.Consistent`: the statement above.
* `Plan.Grows`: the resources of a plan are the first ones of another.
-/
set_option autoImplicit false

namespace SceneGraph

/-! ## Lists by name -/

theorem find?_of_prefix {α : Type} {f : α → Bool} {a : α} {l more : List α} (h : l <+: more)
    (hfind : l.find? f = some a) : more.find? f = some a := by
  obtain ⟨rest, rfl⟩ := h
  rw [List.find?_append, hfind]
  rfl

theorem nodup_append_of_find? {α : Type} (name : α → String) (l : List α) (a : α) (h : (l.map name).Nodup)
    (hnew : l.find? (fun b => name b == name a) = none) : ((l ++ [a]).map name).Nodup := by
  rw [List.map_append, List.nodup_append]
  refine ⟨h, List.nodup_singleton _, ?_⟩
  intro x hx y hy
  obtain ⟨b, hb, rfl⟩ := List.mem_map.1 hx
  obtain rfl : y = name a := by simpa using hy
  simpa using List.find?_eq_none.1 hnew b hb

namespace Plan

/-! ## Growing plans -/

/-- The resources of a plan are the first ones of another. -/
structure Grows (p q : Plan) : Prop where
  textures : p.textures <+: q.textures
  buffers : p.buffers <+: q.buffers
  samplers : p.samplers <+: q.samplers

theorem Grows.refl (p : Plan) : p.Grows p :=
  ⟨List.prefix_rfl, List.prefix_rfl, List.prefix_rfl⟩

theorem Grows.trans {p q r : Plan} (h : p.Grows q) (h' : q.Grows r) : p.Grows r :=
  ⟨h.textures.trans h'.textures, h.buffers.trans h'.buffers, h.samplers.trans h'.samplers⟩

theorem Grows.texture? {p q : Plan} (h : p.Grows q) {name : String} {t : TextureDecl}
    (ht : p.texture? name = some t) : q.texture? name = some t :=
  find?_of_prefix h.textures ht

theorem Grows.buffer? {p q : Plan} (h : p.Grows q) {name : String} {b : BufferDecl}
    (hb : p.buffer? name = some b) : q.buffer? name = some b :=
  find?_of_prefix h.buffers hb

theorem Grows.sampler? {p q : Plan} (h : p.Grows q) {name : String} {s : SamplerDecl}
    (hs : p.sampler? name = some s) : q.sampler? name = some s :=
  find?_of_prefix h.samplers hs

/-! ## Consistent plans -/

/-- The bindings and buffers of a pass are declared, numbered, and told apart by their variables. The pass keeps
the numbers of vertices and instances in its buffers as words. -/
structure PassFits (plan : Plan) (ps : Pass) : Prop where
  textures : ∀ b ∈ ps.bindings, ∃ t, plan.texture? b.texture = some t
  samplers : ∀ b ∈ ps.bindings, ∃ s, plan.sampler? b.sampler = some s
  numbers : ∀ i b, ps.bindings[i]? = some b → b.binding = (2 + 2 * i).toUInt32
  distinct : (ps.bindings.map TextureBinding.textureVar ++ ps.bindings.map TextureBinding.samplerVar).Nodup
  vertices : ps.vertexBuffer ≠ "" → ∃ b n, plan.buffer? ps.vertexBuffer = some b ∧ b.kind = .vertex ∧
    b.data.size = 16 * n ∧ ps.vertices = n.toUInt32
  instances : ps.instanceBuffer ≠ "" → ∃ b n, plan.buffer? ps.instanceBuffer = some b ∧ b.kind = .instances ∧
    b.data.size = 8 * n ∧ ps.instances = n.toUInt32

/-- Besides, the pass draws into a declared texture that has its size and format, is not filled with
pixels, and is none of those that the pass samples. -/
structure PassClosed (plan : Plan) (ps : Pass) : Prop extends plan.PassFits ps where
  target : ∃ t, plan.texture? ps.target = some t ∧ t.upload = "" ∧ ps.size = t.size ∧ ps.format = t.format
  foreign : ∀ b ∈ ps.bindings, b.texture ≠ ps.target

/-- The buffer of a filled texture holds four bytes for each of its pixels. -/
def Uploaded (plan : Plan) (t : TextureDecl) : Prop :=
  ∃ b, plan.buffer? t.upload = some b ∧ b.kind = .pixels ∧ (b.data.size : Int) = 4 * t.size.width * t.size.height

/-- Resources are declared once, filled textures have their pixels, and passes are closed. -/
structure Consistent (plan : Plan) : Prop where
  textures : (plan.textures.map TextureDecl.name).Nodup
  buffers : (plan.buffers.map BufferDecl.name).Nodup
  samplers : (plan.samplers.map SamplerDecl.name).Nodup
  uploads : ∀ t ∈ plan.textures, t.upload ≠ "" → plan.Uploaded t
  passes : ∀ ps ∈ plan.passes, plan.PassClosed ps

theorem PassFits.mono {p q : Plan} {ps : Pass} (h : p.PassFits ps) (hgrows : p.Grows q) : q.PassFits ps where
  textures b hb := by
    obtain ⟨t, ht⟩ := h.textures b hb
    exact ⟨t, hgrows.texture? ht⟩
  samplers b hb := by
    obtain ⟨s, hs⟩ := h.samplers b hb
    exact ⟨s, hgrows.sampler? hs⟩
  numbers := h.numbers
  distinct := h.distinct
  vertices hv := by
    obtain ⟨b, n, hb, hrest⟩ := h.vertices hv
    exact ⟨b, n, hgrows.buffer? hb, hrest⟩
  instances hi := by
    obtain ⟨b, n, hb, hrest⟩ := h.instances hi
    exact ⟨b, n, hgrows.buffer? hb, hrest⟩

theorem PassClosed.mono {p q : Plan} {ps : Pass} (h : p.PassClosed ps) (hgrows : p.Grows q) :
    q.PassClosed ps where
  toPassFits := h.toPassFits.mono hgrows
  target := by
    obtain ⟨t, ht, hrest⟩ := h.target
    exact ⟨t, hgrows.texture? ht, hrest⟩
  foreign := h.foreign

theorem Uploaded.mono {p q : Plan} {t : TextureDecl} (h : p.Uploaded t) (hgrows : p.Grows q) : q.Uploaded t := by
  obtain ⟨b, hb, hrest⟩ := h
  exact ⟨b, hgrows.buffer? hb, hrest⟩

/-! ## Declarations -/

theorem declareTexture_eq_ok {p p' : Plan} {t : TextureDecl} (h : p.declareTexture t = .ok p') :
    (∃ old, p.texture? t.name = some old ∧ sameTexture old t = true ∧ p' = p) ∨
      (p.texture? t.name = none ∧ p' = { p with textures := p.textures ++ [t] }) := by
  unfold declareTexture at h
  split at h
  · rename_i hnone
    cases h
    exact .inr ⟨hnone, rfl⟩
  · rename_i old hold
    split at h
    · rename_i hsame
      cases h
      exact .inl ⟨old, hold, hsame, rfl⟩
    · cases h

/-- A declared texture is there, with the size, format and pixels that were asked for. -/
theorem declareTexture_texture? {p p' : Plan} {t : TextureDecl} (h : p.declareTexture t = .ok p') :
    p.Grows p' ∧ p'.passes = p.passes ∧
      ∃ t', p'.texture? t.name = some t' ∧ t'.size = t.size ∧ t'.format = t.format ∧ t'.upload = t.upload := by
  rcases declareTexture_eq_ok h with ⟨old, hold, hsame, rfl⟩ | ⟨hnone, rfl⟩
  · simp only [sameTexture, Bool.and_eq_true, decide_eq_true_eq] at hsame
    exact ⟨.refl _, rfl, old, hold, hsame.1.1, hsame.1.2, hsame.2⟩
  · refine ⟨⟨List.prefix_append _ _, List.prefix_rfl, List.prefix_rfl⟩, rfl, t, ?_, rfl, rfl, rfl⟩
    unfold texture? at hnone ⊢
    simp [List.find?_append, hnone]

theorem Consistent.declareTexture {p p' : Plan} {t : TextureDecl} (hp : p.Consistent)
    (h : p.declareTexture t = .ok p') (hupload : t.upload ≠ "" → p.Uploaded t) : p'.Consistent := by
  rcases declareTexture_eq_ok h with ⟨_, _, _, rfl⟩ | ⟨hnone, rfl⟩
  · exact hp
  · have hgrows : p.Grows { p with textures := p.textures ++ [t] } :=
      ⟨List.prefix_append _ _, List.prefix_rfl, List.prefix_rfl⟩
    refine ⟨nodup_append_of_find? _ _ _ hp.textures hnone, hp.buffers, hp.samplers, ?_,
      fun ps hps => (hp.passes ps hps).mono hgrows⟩
    intro t' ht' hne
    rcases List.mem_append.1 ht' with ht' | ht'
    · exact (hp.uploads t' ht' hne).mono hgrows
    · obtain rfl := List.mem_singleton.1 ht'
      exact (hupload hne).mono hgrows

theorem eq_of_sameBuffer {a b : BufferDecl} (h : sameBuffer a b = true) : a.kind = b.kind ∧ a.data = b.data := by
  simp only [sameBuffer, Bool.and_eq_true, decide_eq_true_eq] at h
  refine ⟨h.1.1, ByteArray.ext ?_⟩
  have hdata : (a.data.data == b.data.data) = true := h.2
  simpa using hdata

theorem declareBuffer_eq_ok {p p' : Plan} {b : BufferDecl} (h : p.declareBuffer b = .ok p') :
    (∃ old, p.buffer? b.name = some old ∧ sameBuffer old b = true ∧ p' = p) ∨
      (p.buffer? b.name = none ∧ p' = { p with buffers := p.buffers ++ [b] }) := by
  unfold declareBuffer at h
  split at h
  · rename_i hnone
    cases h
    exact .inr ⟨hnone, rfl⟩
  · rename_i old hold
    split at h
    · rename_i hsame
      cases h
      exact .inl ⟨old, hold, hsame, rfl⟩
    · cases h

/-- A declared buffer is there, with the role and contents that were asked for. -/
theorem declareBuffer_buffer? {p p' : Plan} {b : BufferDecl} (h : p.declareBuffer b = .ok p') :
    p.Grows p' ∧ p'.passes = p.passes ∧
      ∃ b', p'.buffer? b.name = some b' ∧ b'.kind = b.kind ∧ b'.data = b.data := by
  rcases declareBuffer_eq_ok h with ⟨old, hold, hsame, rfl⟩ | ⟨hnone, rfl⟩
  · exact ⟨.refl _, rfl, old, hold, eq_of_sameBuffer hsame⟩
  · refine ⟨⟨List.prefix_rfl, List.prefix_append _ _, List.prefix_rfl⟩, rfl, b, ?_, rfl, rfl⟩
    unfold buffer? at hnone ⊢
    simp [List.find?_append, hnone]

theorem Consistent.declareBuffer {p p' : Plan} {b : BufferDecl} (hp : p.Consistent)
    (h : p.declareBuffer b = .ok p') : p'.Consistent := by
  rcases declareBuffer_eq_ok h with ⟨_, _, _, rfl⟩ | ⟨hnone, rfl⟩
  · exact hp
  · have hgrows : p.Grows { p with buffers := p.buffers ++ [b] } :=
      ⟨List.prefix_rfl, List.prefix_append _ _, List.prefix_rfl⟩
    exact ⟨hp.textures, nodup_append_of_find? _ _ _ hp.buffers hnone, hp.samplers,
      fun t ht hne => (hp.uploads t ht hne).mono hgrows, fun ps hps => (hp.passes ps hps).mono hgrows⟩

theorem declareSampler_eq_ok {p p' : Plan} {s : SamplerDecl} (h : p.declareSampler s = .ok p') :
    (p.sampler? s.name = some s ∧ p' = p) ∨
      (p.sampler? s.name = none ∧ p' = { p with samplers := p.samplers ++ [s] }) := by
  unfold declareSampler at h
  split at h
  · rename_i hnone
    cases h
    exact .inr ⟨hnone, rfl⟩
  · rename_i old hold
    split at h
    · rename_i hsame
      cases h
      exact .inl ⟨hsame ▸ hold, rfl⟩
    · cases h

theorem declareSampler_sampler? {p p' : Plan} {s : SamplerDecl} (h : p.declareSampler s = .ok p') :
    p.Grows p' ∧ p'.passes = p.passes ∧ p'.sampler? s.name = some s := by
  rcases declareSampler_eq_ok h with ⟨hold, rfl⟩ | ⟨hnone, rfl⟩
  · exact ⟨.refl _, rfl, hold⟩
  · refine ⟨⟨List.prefix_rfl, List.prefix_rfl, List.prefix_append _ _⟩, rfl, ?_⟩
    unfold sampler? at hnone ⊢
    simp [List.find?_append, hnone]

theorem Consistent.declareSampler {p p' : Plan} {s : SamplerDecl} (hp : p.Consistent)
    (h : p.declareSampler s = .ok p') : p'.Consistent := by
  rcases declareSampler_eq_ok h with ⟨_, rfl⟩ | ⟨hnone, rfl⟩
  · exact hp
  · have hgrows : p.Grows { p with samplers := p.samplers ++ [s] } :=
      ⟨List.prefix_rfl, List.prefix_rfl, List.prefix_append _ _⟩
    exact ⟨hp.textures, hp.buffers, nodup_append_of_find? _ _ _ hp.samplers hnone,
      fun t ht hne => (hp.uploads t ht hne).mono hgrows, fun ps hps => (hp.passes ps hps).mono hgrows⟩

end Plan

end SceneGraph
