import SceneGraph.Proofs.Run
import SceneGraph.Proofs.Tables
import SceneGraph.Space.Realize

/-!
# Realizing keeps the books

An object that realizing creates is in one of two places at every moment: recorded in the resources, or destroyed. So
realizing a space gives all its objects or none, whichever calls fail, and destroying the resources releases each
object once, however often it is asked for.

* `Device.Advances`: what calls create and destroy.
* `Space.places`: the places of the objects of a space.
* `RealizeM.Adds`: a computation that fills some places, or fails with the books in order.
* `Space.realize_all_or_nothing`: all objects are live and recorded, or all that were created are destroyed once.
-/
set_option autoImplicit false

namespace SceneGraph

/-! ## The record of a device -/

namespace Device

variable {d d' d'' : Device} {made made' gone gone' : List DeviceObject}

/-- The objects that a device has destroyed are objects that it created. -/
def IsSound (d : Device) : Prop := d.destroyed ⊆ d.created

/-- The further calls that lead from a device to another created and destroyed these objects. -/
structure Advances (d d' : Device) (made gone : List DeviceObject) : Prop where
  created : d'.created = d.created ++ made
  destroyed : d'.destroyed = d.destroyed ++ gone

theorem Advances.refl (d : Device) : d.Advances d [] [] := ⟨by simp, by simp⟩

theorem Advances.trans (h : d.Advances d' made gone) (h' : d'.Advances d'' made' gone') :
    d.Advances d'' (made ++ made') (gone ++ gone') :=
  ⟨by rw [h'.created, h.created, List.append_assoc], by rw [h'.destroyed, h.destroyed, List.append_assoc]⟩

theorem created_perform (d : Device) (c : DeviceCall) :
    (d.perform c).2.created = d.created ++ (createdBy (⟨c, (d.perform c).1⟩, d.events.length)).toList := by
  unfold created perform
  dsimp only
  rw [List.zipIdx_append, List.filterMap_append]
  simp [List.filterMap_cons]
  cases createdBy _ <;> rfl

theorem perform_inert {c : DeviceCall} (hcreates : c.creates? = none) (hdestroys : ∀ o, c ≠ .destroy o) :
    d.Advances (d.perform c).2 [] [] := by
  refine ⟨?_, ?_⟩
  · rw [created_perform]
    simp [createdBy, hcreates]
  · unfold destroyed perform
    cases c <;> simp_all

theorem perform_destroy (o : DeviceObject) : d.Advances (d.perform (.destroy o)).2 [] [o] := by
  refine ⟨?_, ?_⟩
  · rw [created_perform]
    simp [createdBy, DeviceCall.creates?]
  · unfold destroyed perform
    simp

/-- A call that creates an object creates the one that it returns, or none. -/
theorem create_advances {c : DeviceCall} {kind : ObjectKind} {label : String} (h : c.creates? = some (kind, label)) :
    d.Advances (d.create c kind label).2 (d.create c kind label).1.toList [] ∧
      ∀ o ∈ (d.create c kind label).1, o.kind = kind ∧ o.label = label := by
  have hdestroys : ∀ o, c ≠ .destroy o := by
    rintro o rfl
    cases h
  refine ⟨⟨?_, ?_⟩, ?_⟩
  · change (d.perform c).2.created = _
    rw [created_perform, create]
    simp only [createdBy, h, Option.map_some]
  · change (d.perform c).2.destroyed = _
    unfold destroyed perform
    cases c <;> simp_all
  · intro o ho
    unfold create at ho
    dsimp only at ho
    split at ho
    · cases ho
      exact ⟨rfl, rfl⟩
    · cases ho

/-- Every object is known by the call that created it. -/
theorem nodup_created (d : Device) : d.created.Nodup := by
  have hserials : d.events.zipIdx.Pairwise fun e f => e.2 ≠ f.2 := by
    rw [List.pairwise_iff_getElem]
    intro i j hi hj hlt
    simp only [List.getElem_zipIdx]
    omega
  refine List.pairwise_filterMap.2 (hserials.imp fun {e f} hne o ho p hp hsame => hne ?_)
  have hserial : ∀ {e : DeviceEvent × Nat} {o : DeviceObject}, createdBy e = some o → o.serial = e.2 := by
    intro e o h
    unfold createdBy at h
    split at h
    · obtain ⟨_, -, rfl⟩ := Option.map_eq_some_iff.1 h
      rfl
    · cases h
  rw [← hserial ho, ← hserial hp, hsame]

theorem destroyAll_advances (os : List DeviceObject) : d.Advances (Resources.destroyAll d os) [] os := by
  induction os generalizing d with
  | nil => exact .refl d
  | cons o rest ih => exact (perform_destroy o).trans ih

/-- The further calls released some objects, each of them once, and nothing else. -/
structure Releases (d d' : Device) (os : List DeviceObject) : Prop where
  once : ∀ o ∈ os, d'.destroyed.count o = 1
  nothingElse : ∀ o, o ∉ os → d'.destroyed.count o = d.destroyed.count o

/-- An object that was not there before is destroyed as often as the further calls destroy it. -/
theorem Advances.releases (hd : d.IsSound) (h : d.Advances d' made gone) (hperm : gone.Perm made) :
    d.Releases d' made := by
  have hnodup : (d.created ++ made).Nodup := h.created ▸ nodup_created d'
  obtain ⟨-, hmade, hdisjoint⟩ := List.nodup_append.1 hnodup
  refine ⟨fun o ho => ?_, fun o ho => ?_⟩
  · have hfresh : o ∉ d.destroyed := fun hmem => hdisjoint o (hd hmem) o ho rfl
    rw [h.destroyed, List.count_append, List.count_eq_zero.2 hfresh, hperm.count_eq, Nat.zero_add]
    exact List.count_eq_one_of_mem hmade ho
  · rw [h.destroyed, List.count_append, hperm.count_eq, List.count_eq_zero.2 ho, Nat.add_zero]

end Device

/-! ## The places of objects -/

/-- What an object of a space is for. -/
inductive Role where
  | shader
  | sampler
  | frame
  | buffer
  | texture
deriving DecidableEq

/-- The kind of the objects with a role. -/
def Role.kind : Role → ObjectKind
  | .shader => .shader
  | .sampler => .sampler
  | .frame | .buffer => .buffer
  | .texture => .texture

/-- A place for one object: its role, and its name or the id of its pass. -/
abbrev Place := Role × String

/-- The label of the object in a place. -/
def Place.label (p : Place) : String :=
  match p.1 with
  | .frame => p.2 ++ ":frame"
  | _ => p.2

namespace Resources

/-- Records an object in a place. -/
def put (p : Place) (o : DeviceObject) (r : Resources) : Resources :=
  match p.1 with
  | .shader => { r with shaders := r.shaders.insert p.2 o }
  | .sampler => { r with samplers := r.samplers.insert p.2 o }
  | .frame => { r with frames := r.frames.insert p.2 o }
  | .buffer => { r with buffers := r.buffers.insert p.2 o }
  | .texture => { r with textures := r.textures.insert p.2 o }

/-- The objects of a table, in the places for a role. -/
def placed (role : Role) (t : Table DeviceObject) : List (Place × DeviceObject) := t.map fun e => ((role, e.1), e.2)

/-- All objects with their places, in the order in which they are destroyed. -/
def entries (r : Resources) : List (Place × DeviceObject) :=
  placed .shader r.shaders ++ placed .sampler r.samplers ++ placed .frame r.frames ++ placed .buffer r.buffers ++
    placed .texture r.textures

variable {r : Resources} {p : Place}

theorem objects_eq (r : Resources) : r.objects = r.entries.map Prod.snd := by
  simp [objects, entries, placed, Function.comp_def]

theorem mem_placed {role : Role} {t : Table DeviceObject} {e : String × DeviceObject} (h : e ∈ t) :
    ((role, e.1), e.2) ∈ placed role t :=
  List.mem_map.2 ⟨e, h, rfl⟩

theorem placed_insert {role : Role} {t : Table DeviceObject} {name : String}
    (h : ∀ e ∈ placed role t, e.1 ≠ (role, name)) (o : DeviceObject) :
    (placed role (t.insert name o)).Perm (((role, name), o) :: placed role t) := by
  have hfresh : ∀ e ∈ t, e.1 ≠ name := by
    rintro e he rfl
    exact h _ (mem_placed he) rfl
  exact (Table.perm_insert hfresh o).map _

/-- Recording an object in a free place adds it. -/
theorem entries_put (h : ∀ e ∈ r.entries, e.1 ≠ p) (o : DeviceObject) :
    (r.put p o).entries.Perm ((p, o) :: r.entries) := by
  obtain ⟨role, name⟩ := p
  simp only [entries, List.mem_append] at h
  cases role <;> simp only [put, entries]
  case shader =>
    have hput := placed_insert (t := r.shaders) (fun e he => h e (by tauto)) o
    exact (((hput.append_right _).append_right _).append_right _).append_right _
  case sampler =>
    have hput := placed_insert (t := r.samplers) (fun e he => h e (by tauto)) o
    exact ((((hput.append_left _).trans List.perm_middle).append_right _).append_right _).append_right _
  case frame =>
    have hput := placed_insert (t := r.frames) (fun e he => h e (by tauto)) o
    exact (((hput.append_left _).trans List.perm_middle).append_right _).append_right _
  case buffer =>
    have hput := placed_insert (t := r.buffers) (fun e he => h e (by tauto)) o
    exact ((hput.append_left _).trans List.perm_middle).append_right _
  case texture =>
    have hput := placed_insert (t := r.textures) (fun e he => h e (by tauto)) o
    exact (hput.append_left _).trans List.perm_middle

/-- The resources hold one live object in each of some places, of the kind and with the label for it. -/
structure Holds (r : Resources) (places : List Place) (d : Device) : Prop where
  places : (r.entries.map Prod.fst).Perm places
  once : (r.entries.map Prod.fst).Nodup
  distinct : r.objects.Nodup
  live : ∀ e ∈ r.entries, e.2 ∈ d.live
  fits : ∀ e ∈ r.entries, e.2.kind = e.1.1.kind ∧ e.2.label = e.1.label

/-- Destroys a number of times. -/
def destroyTimes : Nat → Resources → Device → Resources × Device
  | 0, r, d => (r, d)
  | n + 1, r, d => destroyTimes n (r.destroy d).1 (r.destroy d).2

theorem destroyTimes_empty (n : Nat) (d : Device) : destroyTimes n {} d = ({}, d) := by
  induction n with
  | zero => rfl
  | succ n ih => exact ih

theorem destroyTimes_succ (n : Nat) (r : Resources) (d : Device) : destroyTimes (n + 1) r d = r.destroy d :=
  destroyTimes_empty n _

end Resources

/-! ## Computations that keep the books -/

namespace RealizeM

variable {α : Type} {st : Realization}

/-- A computation makes one object of a kind with a label and leaves the recorded ones alone; a failing one releases
what it made. -/
def Makes (x : RealizeM DeviceObject) (kind : ObjectKind) (label : String) : Prop :=
  ∀ st, (x.run.run st).2.resources = st.resources ∧
    match (x.run.run st).1 with
    | .ok o => st.device.Advances (x.run.run st).2.device [o] [] ∧ o.kind = kind ∧ o.label = label
    | .error _ => ∃ os, st.device.Advances (x.run.run st).2.device os os

/-- A computation fills some places that were free; a failing one has recorded or destroyed all that it made. -/
def Adds (x : RealizeM α) (places : List Place) : Prop :=
  ∀ st, (∀ e ∈ st.resources.entries, e.1 ∉ places) → ∃ made gone,
    st.device.Advances (x.run.run st).2.device made gone ∧
    match (x.run.run st).1 with
    | .ok _ => gone = [] ∧ ∃ new : List (Place × DeviceObject), new.map Prod.fst = places ∧ new.map Prod.snd = made ∧
        (∀ e ∈ new, e.2.kind = e.1.1.kind ∧ e.2.label = e.1.label) ∧
        (x.run.run st).2.resources.entries.Perm (new ++ st.resources.entries)
    | .error _ => ((x.run.run st).2.resources.objects ++ gone).Perm (made ++ st.resources.objects)

theorem run_get (st : Realization) : (get : RealizeM Realization).run.run st = (.ok st, st) := rfl

theorem run_set (new st : Realization) : (set new : RealizeM PUnit).run.run st = (.ok ⟨⟩, new) := rfl

theorem run_pure {α : Type} (a : α) (st : Realization) : (pure a : RealizeM α).run.run st = (.ok a, st) := rfl

theorem run_throw {α : Type} (e : RealizeError) (st : Realization) :
    (throw e : RealizeM α).run.run st = (.error e, st) := rfl

theorem create_makes {c : DeviceCall} {kind : ObjectKind} {label : String} (h : c.creates? = some (kind, label))
    (cause : RealizeError) : Makes (create c kind label cause) kind label := by
  intro st
  obtain ⟨hadvances, hobject⟩ := Device.create_advances (d := st.device) h
  unfold create
  simp only [run_bind, run_get, run_set]
  generalize st.device.create c kind label = made at hadvances hobject
  obtain ⟨_ | o, d⟩ := made
  · exact ⟨rfl, [], hadvances⟩
  · exact ⟨rfl, hadvances, hobject o rfl⟩

theorem createBuffer_makes (name : String) (usage : UInt32) (data : ByteArray) :
    Makes (createBuffer name usage data) .buffer name := by
  intro st
  have hcreate := create_makes (c := .createBuffer name (bufferSize data) usage) rfl (.buffer name) st
  unfold createBuffer
  simp only [run_bind]
  generalize (create (.createBuffer name (bufferSize data) usage) .buffer name (.buffer name)).run.run st = made
    at hcreate
  obtain ⟨_ | o, mid⟩ := made
  · exact hcreate
  · obtain ⟨hresources, hadvances, hobject⟩ := hcreate
    by_cases hsize : data.size = 0
    · simp only [if_pos hsize]
      exact ⟨hresources, hadvances, hobject⟩
    · simp only [if_neg hsize, run_bind, run_get]
      have hwrite : mid.device.Advances (mid.device.perform (.writeBuffer o data)).2 [] [] :=
        Device.perform_inert rfl nofun
      generalize mid.device.perform (.writeBuffer o data) = written at hwrite
      obtain ⟨_ | _, d⟩ := written
      -- The buffer is destroyed before the failure is reported.
      · exact ⟨hresources, [o], (hadvances.trans hwrite).trans (Device.perform_destroy o)⟩
      · exact ⟨hresources, hadvances.trans hwrite, hobject⟩

theorem throw_adds (e : RealizeError) (places : List Place) : Adds (throw e : RealizeM α) places := fun st _ =>
  ⟨[], [], .refl _, by rw [run_throw]; exact .of_eq (List.append_nil _)⟩

theorem pure_adds (a : α) : Adds (pure a) [] := fun st _ =>
  ⟨[], [], .refl _, by rw [run_pure]; exact ⟨rfl, [], rfl, rfl, by simp, .refl _⟩⟩

theorem call_adds {c : DeviceCall} (hcreates : c.creates? = none) (hdestroys : ∀ o, c ≠ .destroy o)
    (cause : RealizeError) : Adds (call c cause) [] := by
  intro st _
  have hadvances : st.device.Advances (st.device.perform c).2 [] [] := Device.perform_inert hcreates hdestroys
  refine ⟨[], [], ?_⟩
  unfold call
  simp only [run_bind, run_get, run_set]
  generalize st.device.perform c = performed at hadvances
  obtain ⟨_ | _, d⟩ := performed
  · exact ⟨hadvances, .of_eq (List.append_nil _)⟩
  · exact ⟨hadvances, trivial, [], rfl, rfl, by simp, .refl _⟩

variable {β : Type} {x : RealizeM α} {y : α → RealizeM β} {places more : List Place} {p : Place}

theorem Adds.bind (hx : Adds x places) (hy : ∀ a, Adds (y a) more) (hdisjoint : ∀ p ∈ more, p ∉ places) :
    Adds (x >>= y) (places ++ more) := by
  intro st hfree
  obtain ⟨made, gone, hadvances, hout⟩ := hx st fun e he hmem => hfree e he (List.mem_append_left _ hmem)
  rw [run_bind]
  generalize x.run.run st = first at hadvances hout
  obtain ⟨_ | a, mid⟩ := first
  · exact ⟨made, gone, hadvances, hout⟩
  obtain ⟨rfl, new, rfl, rfl, hfits, hentries⟩ := hout
  have hfree' : ∀ e ∈ mid.resources.entries, e.1 ∉ more := by
    intro e he hmem
    rcases List.mem_append.1 (hentries.mem_iff.1 he) with he | he
    · exact hdisjoint _ hmem (List.mem_map_of_mem he)
    · exact hfree e he (List.mem_append_right _ hmem)
  obtain ⟨made', gone', hadvances', hout'⟩ := hy a mid hfree'
  refine ⟨_, _, hadvances.trans hadvances', ?_⟩
  dsimp only
  generalize (y a).run.run mid = second at hadvances' hout' ⊢
  obtain ⟨_ | _, fin⟩ := second
  · rw [List.nil_append, List.append_assoc]
    refine hout'.trans ?_
    have hobjects : mid.resources.objects.Perm (new.map Prod.snd ++ st.resources.objects) := by
      rw [Resources.objects_eq, Resources.objects_eq, ← List.map_append]
      exact hentries.map _
    exact (hobjects.append_left _).trans (List.perm_append_comm_assoc _ _ _)
  · obtain ⟨rfl, new', rfl, rfl, hfits', hentries'⟩ := hout'
    refine ⟨rfl, new ++ new', List.map_append, List.map_append, ?_, ?_⟩
    · intro e he
      exact (List.mem_append.1 he).elim (hfits e) (hfits' e)
    · refine hentries'.trans ((hentries.append_left _).trans ?_)
      rw [List.append_assoc]
      exact List.perm_append_comm_assoc _ _ _

/-- An object that is recorded where there was none fills the place. -/
theorem Makes.fills {x : RealizeM DeviceObject} (hx : Makes x p.1.kind p.label) :
    Adds (x >>= fun o => record (Resources.put p o) >>= fun _ => pure o) [p] := by
  intro st hfree
  have hmakes := hx st
  rw [run_bind]
  generalize x.run.run st = out at hmakes
  obtain ⟨_ | o, mid⟩ := out
  · obtain ⟨hresources, os, hadvances⟩ := hmakes
    refine ⟨os, os, hadvances, ?_⟩
    dsimp only at hresources ⊢
    rw [hresources]
    exact List.perm_append_comm
  · obtain ⟨hresources, hadvances, hfits⟩ := hmakes
    refine ⟨[o], [], hadvances, rfl, [(p, o)], rfl, rfl, ?_, ?_⟩
    · rintro e he
      cases List.mem_singleton.1 he
      exact hfits
    · change (mid.resources.put p o).entries.Perm _
      dsimp only at hresources
      rw [hresources]
      exact Resources.entries_put (fun e he heq => hfree e he (List.mem_singleton.2 heq)) o

/-- An object is recorded at once, before anything else can fail. -/
theorem Makes.record_bind {x : RealizeM DeviceObject} (hx : Makes x p.1.kind p.label) {y : DeviceObject → RealizeM Unit}
    (hy : ∀ o, Adds (y o) more) (hmore : p ∉ more) :
    Adds (x >>= fun o => record (Resources.put p o) >>= fun _ => y o) (p :: more) := by
  have hfills := hx.fills.bind hy fun q hq hp => hmore (List.mem_singleton.1 hp ▸ hq)
  simpa only [bind_assoc, pure_bind, List.singleton_append] using hfills

theorem Makes.record {x : RealizeM DeviceObject} (hx : Makes x p.1.kind p.label) :
    Adds (x >>= fun o => RealizeM.record (Resources.put p o)) [p] := by
  have hfills := hx.record_bind (fun _ => pure_adds ()) (List.not_mem_nil)
  simpa only [bind_pure_unit] using hfills

end RealizeM

/-! ## The steps of realizing -/

namespace Space

open RealizeM

/-- The places that a buffer of a space fills. -/
def bufferPlaces (b : BufferSpec) : List Place := if b.kind = .pixels then [] else [(.buffer, b.name)]

/-- The places that a pass fills. -/
def passPlaces (p : PassSpec) : List Place := if p.draws then [(.shader, p.id), (.frame, p.id)] else []

/-- The places of the objects of a space. -/
def places (s : Space) : List Place :=
  s.buffers.flatMap bufferPlaces ++ (s.textures.map (fun t => (.texture, t.name)) ++
    (s.samplers.map (fun m => (.sampler, m.name)) ++ s.passes.flatMap passPlaces))

theorem realizeBuffer_adds (b : BufferSpec) : Adds (realizeBuffer b) (bufferPlaces b) := by
  unfold realizeBuffer bufferPlaces
  by_cases h : b.kind = .pixels
  · simp only [if_pos h]
    exact pure_adds ()
  · simp only [if_neg h]
    exact (createBuffer_makes b.name b.usage b.data).record (p := (.buffer, b.name))

theorem realizeTexture_adds (s : Space) (t : TextureSpec) : Adds (s.realizeTexture t) [(.texture, t.name)] := by
  refine Makes.record_bind (p := (.texture, t.name)) (create_makes rfl _) (fun o => ?_) List.not_mem_nil
  split
  · exact pure_adds ()
  · split
    · exact throw_adds _ _
    · exact call_adds rfl (fun _ => DeviceCall.noConfusion) _

theorem realizeSampler_adds (m : SamplerSpec) : Adds (realizeSampler m) [(.sampler, m.name)] :=
  Makes.record (p := (.sampler, m.name)) (create_makes rfl _)

theorem realizePass_adds (compiles : Shader → Bool) (binary : Bool) (p : PassSpec) :
    Adds (realizePass compiles binary p) (passPlaces p) := by
  unfold realizePass passPlaces
  cases hdraws : p.draws with
  | false => exact pure_adds ()
  | true =>
    simp only [Bool.not_true, Bool.false_eq_true, ↓reduceIte]
    split
    · exact throw_adds _ _
    · refine Makes.record_bind (p := (.shader, p.id)) (create_makes rfl _) (fun o => ?_) (by simp)
      exact Makes.record (p := (.frame, p.id)) (createBuffer_makes _ _ _)

/-- What each step fills, all of them fill, where no place is filled twice. -/
theorem each_adds {α : Type} {step : α → RealizeM Unit} {filled : α → List Place}
    (hstep : ∀ a, Adds (step a) (filled a)) {as : List α} (h : (as.flatMap filled).Nodup) :
    Adds (each step as) (as.flatMap filled) := by
  induction as with
  | nil => exact pure_adds ()
  | cons a rest ih =>
    rw [List.flatMap_cons] at h ⊢
    obtain ⟨-, hrest, hdisjoint⟩ := List.nodup_append.1 h
    exact (hstep a).bind (fun _ => ih hrest) fun p hp hfirst => hdisjoint p hfirst p hp rfl

theorem realizeAll_adds {s : Space} (h : s.places.Nodup) (compiles : Shader → Bool) (binary : Bool) :
    Adds (s.realizeAll compiles binary) s.places := by
  unfold places at h ⊢
  simp only [List.map_eq_flatMap] at h ⊢
  obtain ⟨hbuffers, hlater, hfirst⟩ := List.nodup_append.1 h
  obtain ⟨htextures, hlast, hsecond⟩ := List.nodup_append.1 hlater
  obtain ⟨hsamplers, hpasses, hthird⟩ := List.nodup_append.1 hlast
  have hdisjoint : ∀ {ps qs : List Place}, (∀ p ∈ ps, ∀ q ∈ qs, p ≠ q) → ∀ q ∈ qs, q ∉ ps :=
    fun hne q hq hp => hne q hp q hq rfl
  exact (each_adds realizeBuffer_adds hbuffers).bind (fun _ =>
    (each_adds s.realizeTexture_adds htextures).bind (fun _ =>
      (each_adds realizeSampler_adds hsamplers).bind (fun _ =>
        each_adds (realizePass_adds compiles binary) hpasses)
        (hdisjoint hthird)) (hdisjoint hsecond)) (hdisjoint hfirst)

/-- Items with distinct names fill distinct places. -/
theorem nodup_flatMap_places {α : Type} {name : α → String} {filled : α → List Place} {as : List α}
    (hnames : (as.map name).Nodup) (hnodup : ∀ a, (filled a).Nodup) (hname : ∀ a, ∀ p ∈ filled a, p.2 = name a) :
    (as.flatMap filled).Nodup := by
  refine List.nodup_flatMap.2 ⟨fun a _ => hnodup a, (List.pairwise_map.1 hnames).imp fun {a b} hne p hp hq => hne ?_⟩
  rw [← hname a p hp, ← hname b p hq]

theorem nodup_places {s : Space} (htextures : (s.textures.map (·.name)).Nodup)
    (hbuffers : (s.buffers.map (·.name)).Nodup) (hsamplers : (s.samplers.map (·.name)).Nodup)
    (hpasses : (s.passes.map (·.id)).Nodup) : s.places.Nodup := by
  have hbuffer : ∀ b, ∀ p ∈ bufferPlaces b, p = (.buffer, b.name) := by
    intro b p hp
    unfold bufferPlaces at hp
    split at hp <;> simp_all
  have hpass : ∀ q, ∀ p ∈ passPlaces q, p = (.shader, q.id) ∨ p = (.frame, q.id) := by
    intro q p hp
    unfold passPlaces at hp
    split at hp <;> simp_all
  have hinjective : ∀ role : Role, Function.Injective fun name : String => ((role, name) : Place) :=
    fun role a b h => (Prod.mk.inj h).2
  refine List.nodup_append.2 ⟨?_, List.nodup_append.2 ⟨?_, List.nodup_append.2 ⟨?_, ?_, ?_⟩, ?_⟩, ?_⟩
  · refine nodup_flatMap_places hbuffers (fun b => ?_) fun b p hp => by rw [hbuffer b p hp]
    unfold bufferPlaces
    split <;> simp
  · have hnodup := htextures.map (hinjective .texture)
    rwa [List.map_map] at hnodup
  · have hnodup := hsamplers.map (hinjective .sampler)
    rwa [List.map_map] at hnodup
  · refine nodup_flatMap_places hpasses (fun q => ?_) fun q p hp => by rcases hpass q p hp with rfl | rfl <;> rfl
    unfold passPlaces
    split <;> simp
  all_goals
    rintro p hp _ hq rfl
    simp only [List.mem_append, List.mem_map, List.mem_flatMap] at hp hq
    grind

theorem realizeWith_eq (s : Space) (compiles : Shader → Bool) (binary : Bool) (d : Device) :
    s.realizeWith compiles binary d =
      match (s.realizeAll compiles binary).run.run { device := d } with
      | (.ok _, st) => (.ok st.resources, st.device)
      | (.error e, st) => (.error e, Resources.destroyAll st.device st.resources.objects) := by
  unfold realizeWith
  rcases (s.realizeAll compiles binary).run.run { device := d } with ⟨_ | _, _⟩ <;> rfl

/-- Whichever calls of the device fail and whichever shaders compile, a space with distinct names gets one live object
in each of its places, or everything that was created for it is destroyed once. Resources that were returned are
destroyed once, too, however often this is asked for. -/
theorem realize_all_or_nothing {s : Space} (htextures : (s.textures.map (·.name)).Nodup)
    (hbuffers : (s.buffers.map (·.name)).Nodup) (hsamplers : (s.samplers.map (·.name)).Nodup)
    (hpasses : (s.passes.map (·.id)).Nodup) (compiles : Shader → Bool) (binary : Bool) {d : Device}
    (hd : d.IsSound) :
    ∃ made, (∃ r d', s.realizeWith compiles binary d = (.ok r, d') ∧ d'.created = d.created ++ made ∧
        d'.destroyed = d.destroyed ∧ r.objects.Perm made ∧ r.Holds s.places d' ∧
        ∀ n, d.Releases (r.destroyTimes (n + 1) d').2 made) ∨
      ∃ e d', s.realizeWith compiles binary d = (.error e, d') ∧ d'.created = d.created ++ made ∧
        d.Releases d' made := by
  have hnodup := nodup_places htextures hbuffers hsamplers hpasses
  have hadds := realizeAll_adds hnodup compiles binary
  obtain ⟨made, gone, hadvances, hout⟩ := hadds { device := d } fun _ he => absurd he List.not_mem_nil
  rw [realizeWith_eq]
  generalize (s.realizeAll compiles binary).run.run { device := d } = out at hadvances hout
  obtain ⟨e | _, st⟩ := out
  · have hall := hadvances.trans (Device.destroyAll_advances st.resources.objects)
    have hperm : (gone ++ st.resources.objects).Perm made := by
      have hbooks : (st.resources.objects ++ gone).Perm (made ++ []) := hout
      rw [List.append_nil] at hbooks
      exact List.perm_append_comm.trans hbooks
    rw [List.append_nil] at hall
    exact ⟨made, .inr ⟨e, _, rfl, hall.created, hall.releases hd hperm⟩⟩
  · obtain ⟨rfl, new, hplaces, rfl, hfits, hentries⟩ := hout
    have hnew : st.resources.entries.Perm new := by
      have hbooks : st.resources.entries.Perm (new ++ []) := hentries
      rwa [List.append_nil] at hbooks
    have hobjects : st.resources.objects.Perm (new.map Prod.snd) := by
      rw [Resources.objects_eq]
      exact hnew.map _
    have hdestroyed : st.device.destroyed = d.destroyed := by rw [hadvances.destroyed, List.append_nil]
    have hfilled : (st.resources.entries.map Prod.fst).Perm s.places := hplaces ▸ hnew.map _
    have hcreated : (d.created ++ new.map Prod.snd).Nodup := hadvances.created ▸ st.device.nodup_created
    obtain ⟨-, hmade, hdisjoint⟩ := List.nodup_append.1 hcreated
    refine ⟨_, .inl ⟨_, _, rfl, hadvances.created, hdestroyed, hobjects, ⟨hfilled, ?_, ?_, ?_, ?_⟩, fun n => ?_⟩⟩
    · exact hfilled.nodup_iff.2 hnodup
    · exact hobjects.nodup_iff.2 hmade
    · intro e he
      have hmem : e.2 ∈ new.map Prod.snd := List.mem_map_of_mem (hnew.mem_iff.1 he)
      have halive : e.2 ∉ st.device.destroyed := by
        rw [hdestroyed]
        exact fun h => hdisjoint _ (hd h) _ hmem rfl
      refine List.mem_filter.2 ⟨hadvances.created ▸ List.mem_append_right _ hmem, ?_⟩
      simpa using halive
    · exact fun e he => hfits e (hnew.mem_iff.1 he)
    · rw [Resources.destroyTimes_succ]
      have hall := hadvances.trans (Device.destroyAll_advances st.resources.objects)
      rw [List.append_nil, List.nil_append] at hall
      exact hall.releases hd hobjects

/-- A texture with its pixels, a buffer, a sampler, and a pass that draws. -/
def postcard : Space where
  textures := [⟨"stamp", 1, 1, .rgba8Unorm, 6, "ink", 4⟩]
  buffers := [⟨"ink", .pixels, 0, ⟨#[1, 2, 3, 4]⟩, 0⟩, ⟨"lines", .vertex, 40, ⟨#[5, 6, 7, 8]⟩, 4⟩]
  samplers := [⟨"smooth", .clampToEdge, .clampToEdge, .linear, .linear⟩]
  passes := [{
    id := "front", kind := .draw, shader := .verbatim "draw", target := "stamp", size := ⟨1, 1⟩
    format := .rgba8Unorm, blend := none, load := .load, clear := ⟨0, 0, 0, 0⟩, bindings := [], vertexBuffer := "lines"
    instanceBuffer := "", layouts := [], vertices := 3, instances := 1, isAnimated := false }]

/-- The shader of the postcard is refused after three objects were created: they are destroyed. -/
theorem postcard_all_or_nothing :
    (postcard.textures.map (·.name)).Nodup ∧ (postcard.buffers.map (·.name)).Nodup ∧
      (postcard.samplers.map (·.name)).Nodup ∧ (postcard.passes.map (·.id)).Nodup ∧ Device.IsSound {} ∧
      ∃ made e d', postcard.realizeWith (fun _ => false) true {} = (.error e, d') ∧ made.length = 3 ∧
        d'.created = made ∧ Device.Releases {} d' made := by
  have hbuffers : (postcard.buffers.map (·.name)).Nodup := by decide
  have hsound : Device.IsSound {} := List.Subset.refl _
  refine ⟨by decide, hbuffers, by decide, by decide, hsound, ?_⟩
  have hrun : (postcard.realizeWith (fun _ => false) true {}).1.toOption.isSome = false ∧
      (postcard.realizeWith (fun _ => false) true {}).2.created.length = 3 := by decide
  obtain ⟨made, ⟨r, d', hok, -⟩ | ⟨e, d', herror, hcreated, hreleases⟩⟩ :=
    realize_all_or_nothing (s := postcard) (by decide) hbuffers (by decide) (by decide) (fun _ => false) true hsound
  · rw [hok] at hrun
    exact absurd hrun.1 nofun
  · rw [herror, hcreated] at hrun
    exact ⟨made, e, d', herror, hrun.2, hcreated, hreleases⟩

end Space

end SceneGraph
