import SceneGraph.Proofs.Run
import SceneGraph.Proofs.Tables
import SceneGraph.Space.Realize

/-!
# Objects of passes

Realizing a space keeps the shader of a pass and the buffer for its frame under the id of the pass, and compiling the
shaders lists them by these ids. So passes with one id would share an entry: the objects made first are lost.

* `Space.passes_insert`: what the passes of a space insert, one after the other.
* `Space.KeyedByPass`: the tables by the ids of passes have one entry for each pass that draws.
* `Space.KeyedByPass.of_nodup`: they do where the passes have different ids.
-/
set_option autoImplicit false

namespace SceneGraph

namespace Space

variable {st st' : Realization} {u : Unit}

theorem create_keeps {c : DeviceCall} {kind : ObjectKind} {label : String} {cause : RealizeError} {o : DeviceObject}
    (h : Yields (RealizeM.create c kind label cause) st o st') : st'.resources = st.resources := by
  unfold RealizeM.create at h
  simp only [yields_bind, yields_get, yields_set] at h
  obtain ⟨_, _, ⟨rfl, rfl⟩, _, _, rfl, h⟩ := h
  split at h
  · obtain ⟨-, rfl⟩ := (yields_pure _ _ _ _).1 h
    rfl
  · exact absurd h (yields_throw _ _ _ _)

theorem call_keeps {c : DeviceCall} {cause : RealizeError} (h : Yields (RealizeM.call c cause) st u st') :
    st'.resources = st.resources := by
  unfold RealizeM.call at h
  simp only [yields_bind, yields_get, yields_set] at h
  obtain ⟨_, _, ⟨rfl, rfl⟩, _, _, rfl, h⟩ := h
  split at h
  · obtain ⟨-, rfl⟩ := (yields_pure _ _ _ _).1 h
    rfl
  · exact absurd h (yields_throw _ _ _ _)

theorem createBuffer_keeps {name : String} {usage : UInt32} {data : ByteArray} {o : DeviceObject}
    (h : Yields (RealizeM.createBuffer name usage data) st o st') : st'.resources = st.resources := by
  unfold RealizeM.createBuffer at h
  obtain ⟨o', mid, hcreate, h⟩ := (yields_bind _ _ _ _ _).1 h
  rw [← create_keeps hcreate]
  split at h
  · obtain ⟨-, rfl⟩ := (yields_pure _ _ _ _).1 h
    rfl
  · simp only [yields_bind, yields_get] at h
    obtain ⟨_, _, ⟨rfl, rfl⟩, h⟩ := h
    split at h
    · simp only [yields_bind, yields_set, yields_pure] at h
      obtain ⟨_, _, rfl, -, rfl⟩ := h
      rfl
    · simp only [yields_bind, yields_throw, and_false, exists_false] at h

theorem each_keeps {α β : Type} {f : Resources → β} {step : α → RealizeM Unit}
    (hstep : ∀ a st u st', Yields (step a) st u st' → f st'.resources = f st.resources) {as : List α}
    (h : Yields (each step as) st u st') : f st'.resources = f st.resources := by
  induction as generalizing st with
  | nil =>
    obtain ⟨-, rfl⟩ := (yields_pure _ _ _ _).1 h
    rfl
  | cons a rest ih =>
    obtain ⟨_, mid, hfirst, hrest⟩ := (yields_bind _ _ _ _ _).1 h
    rw [ih hrest, hstep a _ _ _ hfirst]

/-- The objects of passes. -/
def passObjects (r : Resources) : Table DeviceObject × Table DeviceObject := (r.shaders, r.frames)

theorem realizeBuffer_keeps {b : BufferSpec} (h : Yields (realizeBuffer b) st u st') :
    passObjects st'.resources = passObjects st.resources := by
  unfold realizeBuffer RealizeM.record at h
  split at h
  · obtain ⟨-, rfl⟩ := (yields_pure _ _ _ _).1 h
    rfl
  · simp only [yields_bind, yields_modify] at h
    obtain ⟨_, mid, hbuffer, rfl⟩ := h
    rw [← createBuffer_keeps hbuffer]
    rfl

theorem realizeSampler_keeps {m : SamplerSpec} (h : Yields (realizeSampler m) st u st') :
    passObjects st'.resources = passObjects st.resources := by
  unfold realizeSampler RealizeM.record at h
  simp only [yields_bind, yields_modify] at h
  obtain ⟨_, mid, hcreate, rfl⟩ := h
  rw [← create_keeps hcreate]
  rfl

theorem realizeTexture_keeps {s : Space} {t : TextureSpec} (h : Yields (s.realizeTexture t) st u st') :
    passObjects st'.resources = passObjects st.resources := by
  unfold realizeTexture RealizeM.record at h
  simp only [yields_bind, yields_modify] at h
  obtain ⟨_, mid, hcreate, _, _, rfl, h⟩ := h
  rw [← create_keeps hcreate]
  split at h
  · obtain ⟨-, rfl⟩ := (yields_pure _ _ _ _).1 h
    rfl
  · split at h
    · exact absurd h (yields_throw _ _ _ _)
    · rw [call_keeps h]
      rfl

/-- A pass that draws gets a shader and a buffer for its frame, under its id. -/
theorem realizePass_inserts {compiles : Shader → Bool} {binary : Bool} {p : PassSpec}
    (h : Yields (realizePass compiles binary p) st u st') :
    (p.draws = false ∧ st'.resources = st.resources) ∨ (p.draws = true ∧ ∃ shader frame,
      passObjects st'.resources =
        (st.resources.shaders.insert p.id shader, st.resources.frames.insert p.id frame)) := by
  unfold realizePass RealizeM.record at h
  split at h
  · rename_i hdraws
    obtain ⟨-, rfl⟩ := (yields_pure _ _ _ _).1 h
    exact .inl ⟨by simpa using hdraws, rfl⟩
  · rename_i hdraws
    simp only [yields_ite, yields_bind, yields_throw, yields_modify, false_and, exists_false, and_false,
      false_or] at h
    obtain ⟨-, shader, mid, hshader, _, _, rfl, frame, mid', hframe, rfl⟩ := h
    refine .inr ⟨by simpa using hdraws, shader, frame, ?_⟩
    rw [← create_keeps hshader, passObjects, createBuffer_keeps hframe]

/-- The ids of the passes that draw. -/
def drawingIds (ps : List PassSpec) : List String := (ps.filter PassSpec.draws).map PassSpec.id

theorem passes_insert {compiles : Shader → Bool} {binary : Bool} {ps : List PassSpec}
    (h : Yields (each (realizePass compiles binary) ps) st u st') :
    ∃ shaders frames : List (String × DeviceObject),
      shaders.map Prod.fst = drawingIds ps ∧ frames.map Prod.fst = drawingIds ps ∧
      st'.resources.shaders = shaders.foldl (fun t e => t.insert e.1 e.2) st.resources.shaders ∧
      st'.resources.frames = frames.foldl (fun t e => t.insert e.1 e.2) st.resources.frames := by
  induction ps generalizing st with
  | nil =>
    obtain ⟨-, rfl⟩ := (yields_pure _ _ _ _).1 h
    exact ⟨[], [], rfl, rfl, rfl, rfl⟩
  | cons p rest ih =>
    obtain ⟨_, mid, hfirst, hrest⟩ := (yields_bind _ _ _ _ _).1 h
    obtain ⟨shaders, frames, hshaders, hframes, hs, hf⟩ := ih hrest
    rcases realizePass_inserts hfirst with ⟨hdraws, heq⟩ | ⟨hdraws, shader, frame, heq⟩
    · have hids : drawingIds (p :: rest) = drawingIds rest := by simp [drawingIds, hdraws]
      rw [heq] at hs hf
      exact ⟨shaders, frames, hids ▸ hshaders, hids ▸ hframes, hs, hf⟩
    · have hids : drawingIds (p :: rest) = p.id :: drawingIds rest := by simp [drawingIds, hdraws]
      obtain ⟨hshader, hframe⟩ := Prod.mk.inj heq
      rw [hshader] at hs
      rw [hframe] at hf
      exact ⟨(p.id, shader) :: shaders, (p.id, frame) :: frames, by rw [hids, List.map_cons, hshaders],
        by rw [hids, List.map_cons, hframes], hs, hf⟩

/-! ## Tables by the ids of passes -/

theorem realize_passes {s : Space} {compiles : Shader → Bool} {binary : Bool} {d d' : Device} {r : Resources}
    (h : s.realizeWith compiles binary d = (.ok r, d')) (hids : (drawingIds s.passes).Nodup) :
    (r.shaders.map Prod.fst).Perm (drawingIds s.passes) ∧ (r.frames.map Prod.fst).Perm (drawingIds s.passes) := by
  have hrun : ∃ st, Yields (s.realizeAll compiles binary) { device := d } () st ∧ st.resources = r := by
    have hreturn : s.realizeWith compiles binary d = match (s.realizeAll compiles binary).run.run { device := d } with
      | (.ok (), st) => (.ok st.resources, st.device)
      | (.error e, st) => (.error e, (st.resources.destroy st.device).2) := by
      unfold realizeWith
      rcases (s.realizeAll compiles binary).run.run { device := d } with ⟨_ | _, _⟩ <;> rfl
    rw [hreturn] at h
    unfold Yields
    generalize (s.realizeAll compiles binary).run.run { device := d } = out at h ⊢
    rcases out with ⟨e | u, st⟩
    · cases h
    · cases h
      exact ⟨st, rfl, rfl⟩
  obtain ⟨st, hrun, rfl⟩ := hrun
  unfold realizeAll at hrun
  simp only [yields_bind] at hrun
  obtain ⟨_, st₁, hbuffers, _, st₂, htextures, _, st₃, hsamplers, hpasses⟩ := hrun
  have hempty : passObjects st₃.resources = ([], []) := by
    rw [each_keeps (fun _ _ _ _ h => realizeSampler_keeps h) hsamplers,
      each_keeps (fun _ _ _ _ h => realizeTexture_keeps h) htextures,
      each_keeps (fun _ _ _ _ h => realizeBuffer_keeps h) hbuffers]
    rfl
  obtain ⟨hshaders, hframes⟩ := Prod.mk.inj hempty
  obtain ⟨shaders, frames, hs, hf, heqs, heqf⟩ := passes_insert hpasses
  rw [hshaders] at heqs
  rw [hframes] at heqf
  rw [heqs, heqf]
  constructor
  · rw [← hs] at hids ⊢
    exact (Table.perm_ofList hids).map Prod.fst
  · rw [← hf] at hids ⊢
    exact (Table.perm_ofList hids).map Prod.fst

theorem compiledShaders_passes {s : Space} {compiles : Shader → Bool} {ids : List String}
    (h : s.compiledShaders compiles = .ok ids) (hids : (drawingIds s.passes).Nodup) :
    ids.Perm (drawingIds s.passes) := by
  unfold compiledShaders at h
  dsimp only at h
  split at h
  · cases h
  · cases h
    have hentries : ((s.passes.filter PassSpec.draws).map fun p => (p.id, ())).map Prod.fst = drawingIds s.passes := by
      simp [drawingIds]
    rw [← hentries] at hids ⊢
    exact (Table.perm_ofList hids).map Prod.fst

/-- The tables by the ids of passes have one entry for each pass that draws, whichever shaders compile. -/
structure KeyedByPass (s : Space) : Prop where
  realized {compiles : Shader → Bool} {binary : Bool} {d d' : Device} {r : Resources}
    (h : s.realizeWith compiles binary d = (.ok r, d')) :
    (r.shaders.map Prod.fst).Perm (drawingIds s.passes) ∧ (r.frames.map Prod.fst).Perm (drawingIds s.passes)
  compiled {compiles : Shader → Bool} {ids : List String} (h : s.compiledShaders compiles = .ok ids) :
    ids.Perm (drawingIds s.passes)

theorem KeyedByPass.of_nodup {s : Space} (h : (s.passes.map PassSpec.id).Nodup) : s.KeyedByPass := by
  have hids : (drawingIds s.passes).Nodup := (List.filter_sublist.map PassSpec.id).nodup h
  exact ⟨fun hrealize => realize_passes hrealize hids, fun hcompiled => compiledShaders_passes hcompiled hids⟩

end Space

end SceneGraph
