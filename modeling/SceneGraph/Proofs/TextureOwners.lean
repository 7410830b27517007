import SceneGraph.Proofs.Copies
import SceneGraph.Proofs.LoadOps
import SceneGraph.Proofs.PassIds
import SceneGraph.Proofs.Sizes

/-!
# Owners of textures

The texture of a target and the one that a picture is uploaded to have the name of their node, and no two nodes have
one name. Planning makes up more names: a blur or a bloom puts two words behind its own for each scratch texture, and
the display has a fixed one. The words have no underscore, so made up names are told apart. Nothing keeps a node from
having such a name itself. An upload to it fails, since it does not agree with the other declaration, but a target of
the same size and format passes unnoticed.

* `PlanContext.Owns`: who declares a texture.
* `PlanContext.scratch_spelled`, `PlanContext.scratch_owner`: a scratch texture tells the node it was made up for.
* `PlanContext.BuiltFrom.writer`: what a pass draws into.
* `PlanContext.Separate`: no target has a made up name.
* `Compiler.texture_owners`: then, and only then, every texture has one owner.
* `Scene.smudged`: a scene where a blur draws over a target.
-/
set_option autoImplicit false

namespace SceneGraph

open PlanState

namespace PlanContext

variable {c : PlanContext} {plan : Plan} {n m : Node} {name : String}

/-! ## Owners -/

/-- The build declares the texture of this name for the node, or, without a node, for the display. -/
inductive Owns (c : PlanContext) (plan : Plan) : Option String → String → Prop where
  | written {owner : Option String} {name : String} (h : c.Declares plan owner name) : Owns c plan owner name
  /-- Pictures and texts are uploaded under the names of their nodes. -/
  | uploaded {n : Node} {t : TextureDecl} (hn : c.prepared.node? n.id = some n) (ht : t ∈ plan.textures)
      (hupload : t.upload ≠ "") (hname : t.name = c.prepared.nameOf n.id) : Owns c plan (some n.id) t.name

/-- The name is made up for a node with passes, or for the display. -/
inductive Coined (c : PlanContext) (plan : Plan) : String → Prop where
  | scratch {n : Node} {q : Pass} {name : String} (hn : c.prepared.node? n.id = some n) (hq : q ∈ plan.passes)
      (hnodes : q.nodes = [n.id]) (hname : name ∈ c.scratchNames n) : Coined c plan name
  | display {q : Pass} (hq : q ∈ plan.passes) (hkind : q.kind = .present) : Coined c plan presentTextureName

/-- No target has a name that is made up. -/
def Separate (c : PlanContext) (plan : Plan) : Prop :=
  ∀ y d, c.routes.textures.get? y = some d → ¬c.Coined plan d.texture

/-- It suffices to look at the names of all nodes. -/
theorem separate_of_names (hr : c.routes.Valid c.prepared)
    (h : ∀ t ∈ c.prepared.scene.nodes, isTargetType t.type = true → c.prepared.nameOf t.id ≠ presentTextureName ∧
      ∀ n ∈ c.prepared.scene.nodes, c.prepared.nameOf t.id ∉ c.scratchNames n) : c.Separate plan := by
  intro y d hd hcoined
  obtain ⟨t, ht, htarget, -⟩ := (hr.get?_textures y d).1 hd
  obtain ⟨rfl, hmem⟩ := Prepared.node?_eq_some ht
  obtain ⟨hpresent, hscratch⟩ := h t hmem htarget
  rw [(hr.textures_node hd).2] at hcoined
  generalize c.prepared.nameOf t.id = name at *
  cases hcoined with
  | scratch hn _ _ hname => exact hscratch _ (Prepared.node?_eq_some hn).2 hname
  | display => exact hpresent rfl

/-! ## Scratch names -/

/-- A scratch name is the name of the node with two words behind it, neither of which has an underscore. -/
theorem scratch_spelled (h : name ∈ c.scratchNames n) : ∃ word label : List Char, '_' ∉ word ∧ '_' ∉ label ∧
    name.toList = ((c.prepared.nameOf n.id).toList ++ '_' :: word) ++ '_' :: label := by
  unfold scratchNames at h
  split_ifs at h
  · rcases List.mem_cons.1 h with rfl | h
    · exact ⟨"blur".toList, ['a'], by decide, by decide, by simp [blurFirst]⟩
    · obtain rfl := List.mem_singleton.1 h
      exact ⟨"blur".toList, ['b'], by decide, by decide, by simp [blurSecond]⟩
  · obtain ⟨i, -, rfl⟩ := List.mem_map.1 h
    exact ⟨"bloom".toList, (toString i).toList, by decide, Text.notMem_repr (by decide) i, by simp [bloomLevel]; rfl⟩
  · cases h

/-- A scratch texture tells the node that it was made up for. -/
theorem scratch_owner (hc : c.Valid) (hn : c.prepared.node? n.id = some n) (hm : c.prepared.node? m.id = some m)
    (h : name ∈ c.scratchNames n) (h' : name ∈ c.scratchNames m) : n.id = m.id := by
  obtain ⟨word, label, hword, hlabel, hspelled⟩ := scratch_spelled h
  obtain ⟨word', label', hword', hlabel', hspelled'⟩ := scratch_spelled h'
  obtain ⟨hfront, -⟩ := Text.eq_of_last hlabel hlabel' (hspelled.symm.trans hspelled')
  obtain ⟨hname, -⟩ := Text.eq_of_last hword hword' hfront
  exact hc.routes.prepared.nameOf_injective hn hm (String.toList_inj.1 hname)

theorem scratch_ne_present (h : name ∈ c.scratchNames n) : name ≠ presentTextureName := by
  rintro rfl
  obtain ⟨word, label, -, -, hspelled⟩ := scratch_spelled h
  have hunderscore : '_' ∈ presentTextureName.toList := by
    rw [hspelled]
    exact List.mem_append_right _ List.mem_cons_self
  exact absurd hunderscore (by decide)

theorem isDrawType_of_scratch (h : name ∈ c.scratchNames n) : isDrawType n.type = true := by
  unfold scratchNames at h
  split_ifs at h with hblur hbloom
  · simp [isDrawType, hblur]
  · simp [isDrawType, hbloom]
  · cases h

theorem first_mem_blurRounds {first second : String} {rounds i : Nat} {reads : List String} (h : 0 < rounds) :
    first ∈ (blurRoundSketches n first second rounds i reads).map Sketch.target := by
  cases rounds with
  | zero => omega
  | succ rounds => simp [blurRoundSketches, stageSketch]

theorem scratch_drawn (h : name ∈ c.scratchNames n) (target : String) (sources : List String) :
    ∃ s ∈ c.drawSketches n target sources, s.target = name := by
  suffices hmem : name ∈ (c.drawSketches n target sources).map Sketch.target from List.mem_map.1 hmem
  unfold scratchNames at h
  split_ifs at h with hblur hbloom
  · have hpos : 0 < blurCount n := by
      unfold blurCount
      omega
    simp only [drawSketches, hblur, blurSketches, List.map_append, List.mem_append]
    rcases List.mem_cons.1 h with rfl | h
    · exact .inl (first_mem_blurRounds hpos)
    · obtain rfl := List.mem_singleton.1 h
      exact .inl (second_mem_blurRounds hpos)
  · obtain ⟨i, hi, rfl⟩ := List.mem_map.1 h
    have hlt := List.mem_range.1 hi
    simp only [drawSketches, hbloom, bloomSketches, List.map_cons, List.map_append, List.mem_cons, List.mem_append]
    cases i with
    | zero => exact .inl rfl
    | succ i =>
      refine .inr (.inl (.inl ?_))
      simp only [bloomDown, List.map_map, List.mem_map, List.mem_range, Function.comp_apply]
      exact ⟨i, by omega, rfl⟩
  · cases h

/-! ## Written textures -/

variable {st₀ st₁ : PlanState} {ps : List Pass}

/-- A pass draws into the texture of a target, into a scratch texture of its own node, or for the display. -/
theorem BuiltFrom.writer (hc : c.Valid) (h : c.BuiltFrom plan st₀ st₁ ps) {w : Pass} (hw : w ∈ plan.passes) :
    (∃ y d, c.routes.textures.get? y = some d ∧ w.target = d.texture) ∨
      (∃ n, c.prepared.node? n.id = some n ∧ w.nodes = [n.id] ∧ w.target ∈ c.scratchNames n) ∨
      w.kind = .present ∧ w.target = presentTextureName := by
  have hroute : ∀ {id r}, c.routes.route? id = some r → w.target = r.domain.texture →
      ∃ y d, c.routes.textures.get? y = some d ∧ w.target = d.texture :=
    fun hr htarget => ⟨_, _, (hc.routes.route_placed hr).domain, htarget⟩
  rcases h.pass_cases hc hw with ⟨e, hformed, hw⟩ | hshown
  · cases e with
    | enter n => cases hw
    | draw n qs =>
      obtain ⟨hn, hdraw, r, sources, hr, -, hsketch⟩ := hformed
      have hmem : w.sketch ∈ c.drawSketches n r.domain.texture sources := hsketch ▸ List.mem_map_of_mem hw
      have hnodes : w.nodes = [n.id] := (drawSketches_nodes hmem).1
      obtain ⟨init, last, hsplit, hlast, hscratch⟩ := drawSketches_target (c := c) r.domain.texture sources hdraw
      rw [hsplit, List.mem_append, List.mem_singleton] at hmem
      rcases hmem with hmem | hmem
      · exact .inr (.inl ⟨n, hn, hnodes, hscratch _ hmem⟩)
      · exact .inl (hroute hr ((congrArg Sketch.target hmem).trans hlast))
    | copy layer n target q =>
      obtain rfl := List.mem_singleton.1 hw
      obtain ⟨-, -, -, _, r, -, hr, -, -, -, hsketch⟩ := hformed
      exact .inl (hroute hr (congrArg Sketch.target hsketch))
    | clear n q =>
      obtain rfl := List.mem_singleton.1 hw
      obtain ⟨hn, htype, hsketch⟩ := hformed
      have hget := (hc.routes.get?_textures n.id _).2 ⟨n, hn, htype, rfl⟩
      have htarget := congrArg Sketch.target hsketch
      rw [Route.domainAt, hget] at htarget
      exact .inl ⟨_, _, hget, htarget⟩
  · exact .inr (.inr ⟨congrArg Sketch.kind hshown, congrArg Sketch.target hshown⟩)

/-- A node with scratch textures that has a pass draws into each of them. -/
theorem BuiltFrom.scratch_written (hc : c.Valid) (h : c.BuiltFrom plan st₀ st₁ ps)
    (hn : c.prepared.node? n.id = some n) {q : Pass} (hq : q ∈ plan.passes) (hnodes : q.nodes = [n.id])
    (hname : name ∈ c.scratchNames n) : ∃ w ∈ plan.passes, w.target = name := by
  have htarget := isTargetType_of_draw (isDrawType_of_scratch hname)
  obtain ⟨es, hemits⟩ := nodes_emits hc h.ready h.nodes
  have hpasses : plan.passes = es.flatMap Event.passes ++ ps := by
    rw [h.passes, hemits.passes, h.fresh.passes, List.nil_append]
  rw [hpasses, List.mem_append] at hq
  rcases hq with hq | hq
  · obtain ⟨e, he, hq⟩ := List.mem_flatMap.1 hq
    have hformed := hemits.formed e he
    obtain ⟨m, qs, rfl, hid⟩ := draw_of_nodes hformed hq hnodes hn htarget
    obtain ⟨hm, -, r, sources, -, -, hsketch⟩ := hformed
    rw [hid, hn] at hm
    cases hm
    obtain ⟨s, hs, hdrawn⟩ := scratch_drawn hname r.domain.texture sources
    rw [← hsketch] at hs
    obtain ⟨w, hw, rfl⟩ := List.mem_map.1 hs
    exact ⟨w, hpasses ▸ List.mem_append_left _ (List.mem_flatMap.2 ⟨_, he, hw⟩), hdrawn⟩
  · exact absurd hnodes (presentSketch_nodes hc (h.shown q hq) hn htarget)

/-- A texture that is declared for passes is in the plan, and nothing is uploaded to it. -/
theorem BuiltFrom.declared (hc : c.Valid) (h : c.BuiltFrom plan st₀ st₁ ps) {owner : Option String}
    (howner : c.Declares plan owner name) : ∃ t, plan.texture? name = some t ∧ t.upload = "" := by
  have hwritten : ∀ {w}, w ∈ plan.passes → w.target = name → ∃ t, plan.texture? name = some t ∧ t.upload = "" := by
    intro w hw htarget
    obtain ⟨t, ht, hupload, -⟩ := (h.complete.passes w hw).target
    exact ⟨t, htarget ▸ ht, hupload⟩
  cases howner with
  | target hd =>
    obtain ⟨es, hemits⟩ := nodes_emits hc h.ready h.nodes
    obtain ⟨t, ht, hupload⟩ := h.ready.targets _ _ hd
    exact ⟨t, h.grows.texture? (hemits.grows.texture? ht), hupload⟩
  | scratch hn hq hnodes hname =>
    obtain ⟨w, hw, htarget⟩ := h.scratch_written hc hn hq hnodes hname
    exact hwritten hw htarget
  | display hq hkind =>
    rcases h.pass_cases hc hq with ⟨e, hformed, hmem⟩ | hshown
    · have hkinds := (event_spelled hformed hmem).1
      rw [hkind] at hkinds
      cases e <;> simp [kindsOf] at hkinds
    · exact hwritten hq (congrArg Sketch.target hshown)

/-! ## Uploads -/

/-- If anything is uploaded to the texture, it has the name of a node. -/
def Titled (c : PlanContext) (t : TextureDecl) : Prop :=
  t.upload ≠ "" → ∃ n, c.prepared.node? n.id = some n ∧ t.name = c.prepared.nameOf n.id

theorem Titled.declare {p p' : Plan} {t : TextureDecl} (h : p.declareTexture t = .ok p') (ht : c.Titled t)
    (hp : ∀ old ∈ p.textures, c.Titled old) : ∀ t' ∈ p'.textures, c.Titled t' := by
  rcases Plan.declareTexture_eq_ok h with ⟨-, -, -, rfl⟩ | ⟨-, rfl⟩
  · exact hp
  · intro t' ht'
    rcases List.mem_append.1 ht' with ht' | ht'
    · exact hp t' ht'
    · obtain rfl := List.mem_singleton.1 ht'
      exact ht

theorem Step.titled {g g' : PlanStage} (h : c.Step g g') (hg : ∀ t ∈ g.state.plan.textures, c.Titled t) :
    ∀ t ∈ g'.state.plan.textures, c.Titled t := by
  cases h with
  | texture hcanvas hplan => exact .declare hplan (fun hne => absurd hcanvas.upload hne) hg
  | upload hn _ hbuffer htexture =>
    refine .declare htexture (fun _ => ⟨_, hn, rfl⟩) ?_
    rcases Plan.declareBuffer_eq_ok hbuffer with ⟨-, -, -, rfl⟩ | ⟨-, rfl⟩ <;> exact hg
  | buffer hplan => rcases Plan.declareBuffer_eq_ok hplan with ⟨-, -, -, rfl⟩ | ⟨-, rfl⟩ <;> exact hg
  | sampler hplan => rcases Plan.declareSampler_eq_ok hplan with ⟨-, rfl⟩ | ⟨-, rfl⟩ <;> exact hg
  | _ => exact hg

theorem textures_titled (h : c.build.outcome.1 = .ok plan) : ∀ t ∈ plan.textures, c.Titled t := by
  obtain ⟨g, rfl, hsteps⟩ := steps_of_build h
  refine hsteps.preserves (I := fun g => ∀ t ∈ g.state.plan.textures, c.Titled t) (fun _ _ => Step.titled) ?_
  exact fun _ hnone => nomatch hnone

/-! ## One owner -/

/-- An upload is no texture that passes draw into. -/
theorem BuiltFrom.not_declared (hc : c.Valid) (h : c.BuiltFrom plan st₀ st₁ ps) {t : TextureDecl}
    (ht : t ∈ plan.textures) (hupload : t.upload ≠ "") {owner : Option String} : ¬c.Declares plan owner t.name := by
  intro howner
  obtain ⟨t', ht', hbare⟩ := h.declared hc howner
  rw [Plan.texture?_of_mem h.complete.textures ht] at ht'
  cases ht'
  exact hupload hbare

/-- Where no target has a made up name, passes draw into textures of one owner each. -/
theorem Separate.distinctTextures (hseparate : c.Separate plan) (hc : c.Valid) : c.DistinctTextures plan := by
  intro a b name ha hb
  cases ha with
  | @target y d hd =>
    generalize hname : d.texture = name at hb
    cases hb with
    | target he => rw [hc.routes.texture_injective hd he hname]
    | scratch hm hw hnodes hscratch => exact absurd (.scratch hm hw hnodes (hname ▸ hscratch)) (hseparate y d hd)
    | display hw hkind => exact absurd (hname ▸ .display hw hkind) (hseparate y d hd)
  | scratch hn hq hnodes hname =>
    cases hb with
    | target he => exact absurd (.scratch hn hq hnodes hname) (hseparate _ _ he)
    | scratch hm _ _ hscratch => rw [scratch_owner hc hn hm hname hscratch]
    | display => exact absurd rfl (scratch_ne_present hname)
  | display hq hkind =>
    generalize hname : presentTextureName = name at hb
    cases hb with
    | target he => exact absurd (hname ▸ .display hq hkind) (hseparate _ _ he)
    | scratch _ _ _ hscratch => exact absurd hname.symm (scratch_ne_present hscratch)
    | display => rfl

/-- Every texture has one owner exactly where no target has a made up name. -/
theorem BuiltFrom.separate_iff (hc : c.Valid) (h : c.BuiltFrom plan st₀ st₁ ps) :
    c.Separate plan ↔ ∀ a b name, c.Owns plan a name → c.Owns plan b name → a = b := by
  constructor
  · intro hseparate a b name ha hb
    cases ha with
    | written ha =>
      cases hb with
      | written hb => exact hseparate.distinctTextures hc a b name ha hb
      | uploaded _ ht hupload => exact absurd ha (h.not_declared hc ht hupload)
    | @uploaded n t hn ht hupload hname =>
      generalize htexture : t.name = name at hb
      cases hb with
      | written hb => exact absurd (htexture ▸ hb) (h.not_declared hc ht hupload)
      | uploaded hm _ _ hname' =>
        rw [hc.routes.prepared.nameOf_injective hn hm (hname.symm.trans (htexture.trans hname'))]
  · intro hone y d hd hcoined
    have htarget : c.Owns plan (some y) d.texture := .written (.target hd)
    generalize d.texture = name at *
    cases hcoined with
    | scratch hn hq hnodes hname =>
      have hsame := hone _ _ _ htarget (.written (.scratch hn hq hnodes hname))
      exact ne_draw_of_target hc hd hn (isDrawType_of_scratch hname) (Option.some.inj hsame)
    | display hq hkind => cases hone _ _ _ htarget (.written (.display hq hkind))

/-- Only the passes of a node draw into a scratch texture of it, unless a target has the name. -/
theorem BuiltFrom.scratch_writer (hc : c.Valid) (h : c.BuiltFrom plan st₀ st₁ ps)
    (hn : c.prepared.node? n.id = some n) (hname : name ∈ c.scratchNames n)
    (hfree : ∀ y d, c.routes.textures.get? y = some d → d.texture ≠ name) {w : Pass} (hw : w ∈ plan.passes)
    (htarget : w.target = name) : w.nodes = [n.id] := by
  rcases h.writer hc hw with ⟨y, d, hd, htexture⟩ | ⟨m, hm, hnodes, hscratch⟩ | ⟨-, hpresent⟩
  · exact absurd (htexture.symm.trans htarget) (hfree y d hd)
  · rw [hnodes, scratch_owner hc hm hn hscratch (htarget ▸ hname)]
  · exact absurd (htarget.symm.trans hpresent) (scratch_ne_present hname)

theorem BuiltFrom.owner (hc : c.Valid) (hbuild : c.build.outcome.1 = .ok plan) (h : c.BuiltFrom plan st₀ st₁ ps)
    {t : TextureDecl} (ht : t ∈ plan.textures) : ∃ a, c.Owns plan a t.name := by
  by_cases hupload : t.upload = ""
  · obtain ⟨first, later, honto, -⟩ := build_loads hc.routes hbuild ht hupload
    have hfirst : first ∈ plan.passesOnto t.name := honto ▸ List.mem_cons_self
    obtain ⟨hmem, htarget⟩ := List.mem_filter.1 hfirst
    have htarget : first.target = t.name := of_decide_eq_true htarget
    rw [← htarget]
    rcases h.writer hc hmem with ⟨y, d, hd, htexture⟩ | ⟨n, hn, hnodes, hscratch⟩ | ⟨hkind, hpresent⟩
    · exact ⟨some y, htexture ▸ .written (.target hd)⟩
    · exact ⟨some n.id, .written (.scratch hn hmem hnodes hscratch)⟩
    · exact ⟨none, hpresent ▸ .written (.display hmem hkind)⟩
  · obtain ⟨n, hn, hname⟩ := textures_titled hbuild t ht hupload
    exact ⟨some n.id, .uploaded hn ht hupload hname⟩

end PlanContext

/-- Every texture of a compiled scene is declared by some node or for the display. None is declared by two of them
exactly where no target has a name that planning makes up. And a scratch texture, unless it shares its name with a
target, is drawn into by the passes of its node alone. -/
theorem Compiler.texture_owners {c : Compiler} (hc : c.registry = Registry.builtin) {s : Scene} {r : Compiled}
    (h : (c.compile s).outcome.1 = .ok r) : ∃ routes, c.CompiledFrom s r routes ∧
    (∀ t ∈ r.plan.textures, ∃ a, (r.prepared.context routes c.environment).Owns r.plan a t.name) ∧
    ((r.prepared.context routes c.environment).Separate r.plan ↔
      ∀ a b name, (r.prepared.context routes c.environment).Owns r.plan a name →
        (r.prepared.context routes c.environment).Owns r.plan b name → a = b) ∧
    ∀ n name, r.prepared.node? n.id = some n → name ∈ (r.prepared.context routes c.environment).scratchNames n →
      (∀ y d, routes.textures.get? y = some d → d.texture ≠ name) →
      ∀ w ∈ r.plan.passes, w.target = name → w.nodes = [n.id] := by
  obtain ⟨routes, hfrom⟩ := Compiler.compile_eq_ok h
  have hplanned := hfrom.planned hc
  have hvalid := hplanned.valid
  obtain ⟨st₀, st₁, ps, hbuilt⟩ := PlanContext.build_stages hvalid hplanned.build
  exact ⟨routes, hfrom, fun t ht => hbuilt.owner hvalid hplanned.build ht, hbuilt.separate_iff hvalid,
    fun n name hn hname hfree w hw htarget => hbuilt.scratch_writer hvalid hn hname hfree hw htarget⟩

theorem Scene.blurred_checks : (({} : Compiler).compile Scene.blurred).outcome.1.toOption.any (fun r =>
    decide (r.plan.textures.map TextureDecl.name = ["glow", "scene", "soft_blur_a", "soft_blur_b"]) &&
      decide (∀ t ∈ r.prepared.scene.nodes, isTargetType t.type = true →
        r.prepared.nameOf t.id ≠ presentTextureName ∧ ∀ n ∈ r.prepared.scene.nodes,
          r.prepared.nameOf t.id ∉ (r.prepared.context ⟨[], [], [], []⟩ {}).scratchNames n)) = true := by
  rw [Schema.builtin_eq, Registry.builtin_eq]
  decide +kernel

/-- The four textures of a target, the screen and a blur have one owner each. -/
theorem Scene.blurred_owners : ∃ r routes, (({} : Compiler).compile Scene.blurred).outcome.1 = .ok r ∧
    ({} : Compiler).CompiledFrom Scene.blurred r routes ∧
    r.plan.textures.map TextureDecl.name = ["glow", "scene", "soft_blur_a", "soft_blur_b"] ∧
    ∀ a b name, (r.prepared.context routes {}).Owns r.plan a name →
      (r.prepared.context routes {}).Owns r.plan b name → a = b := by
  obtain ⟨r, hr, hchecks⟩ := (Option.any_eq_true _ _).1 Scene.blurred_checks
  obtain ⟨htextures, hnames⟩ := Bool.and_eq_true_iff.1 hchecks
  have hr := eq_ok_of_toOption hr
  obtain ⟨routes, hfrom, -, hone, -⟩ := Compiler.texture_owners (c := {}) rfl hr
  have hplanned := hfrom.planned rfl
  exact ⟨r, routes, hr, hfrom, of_decide_eq_true htextures,
    hone.1 (PlanContext.separate_of_names hplanned.valid.routes (of_decide_eq_true hnames))⟩

/-- A target that has the name of a scratch texture: it is drawn into and shown, and a blur is shown below it. -/
def Scene.smudged : Scene where
  nodes := [{ id := "screen", type := "Screen" }, { id := "stack", type := "Composite" },
    { id := "paper", type := "RenderTexture" }, { id := "ink", type := "RenderPass" },
    { id := "soft", type := "Blur" }, { id := "soft_blur_a", type := "RenderTexture" },
    { id := "pen", type := "RenderPass" }, { id := "show", type := "Blit" }]
  connections := [{ id := "c0", source := ⟨"ink", "pass"⟩, target := ⟨"paper", "pass"⟩ },
    { id := "c1", source := ⟨"paper", "texture"⟩, target := ⟨"soft", "texture"⟩ },
    { id := "c2", source := ⟨"soft", "pass"⟩, target := ⟨"stack", "pass"⟩ },
    { id := "c3", source := ⟨"pen", "pass"⟩, target := ⟨"soft_blur_a", "pass"⟩ },
    { id := "c4", source := ⟨"soft_blur_a", "texture"⟩, target := ⟨"show", "texture"⟩ },
    { id := "c5", source := ⟨"show", "pass"⟩, target := ⟨"stack", "dynamic_0"⟩ },
    { id := "c6", source := ⟨"stack", "pass"⟩, target := ⟨"screen", "pass"⟩ }]
  outputs := [("main", "screen")]

theorem Scene.smudged_checks : (({} : Compiler).compile Scene.smudged).outcome.1.toOption.any (fun r =>
    decide (r.plan.passes.map (fun q => (q.id, q.nodes, q.target)) =
      [("draw:ink", ["ink"], "paper"), ("draw:pen", ["pen"], "soft_blur_a"),
        ("blur:soft:h0", ["soft"], "soft_blur_a"), ("blur:soft:v0", ["soft"], "soft_blur_b"),
        ("blur:soft:h1", ["soft"], "soft_blur_a"), ("blur:soft:v1", ["soft"], "soft_blur_b"),
        ("blur:soft:out", ["soft"], "scene"), ("blit:show", ["show"], "scene")]) &&
      ((r.prepared.node? "soft").any fun n =>
        decide ("soft_blur_a" ∈ (r.prepared.context ⟨[], [], [], []⟩ {}).scratchNames n)) &&
      (r.prepared.node? "soft_blur_a").any fun n =>
        decide (isTargetType n.type = true ∧ r.prepared.nameOf n.id = "soft_blur_a")) = true := by
  rw [Schema.builtin_eq, Registry.builtin_eq]
  decide +kernel

/-- One texture is declared by a target and by a blur, and passes for both draw into it. -/
theorem Scene.smudged_twice : ∃ r routes, (({} : Compiler).compile Scene.smudged).outcome.1 = .ok r ∧
    ({} : Compiler).CompiledFrom Scene.smudged r routes ∧
    (r.prepared.context routes {}).Owns r.plan (some "soft") "soft_blur_a" ∧
    (r.prepared.context routes {}).Owns r.plan (some "soft_blur_a") "soft_blur_a" ∧
    ∃ q w, q ∈ r.plan.passes ∧ w ∈ r.plan.passes ∧ q.nodes = ["pen"] ∧ w.nodes = ["soft"] ∧
      q.target = "soft_blur_a" ∧ w.target = "soft_blur_a" := by
  obtain ⟨r, hr, hchecks⟩ := (Option.any_eq_true _ _).1 Scene.smudged_checks
  obtain ⟨hchecks, htarget⟩ := Bool.and_eq_true_iff.1 hchecks
  obtain ⟨hpasses, hscratch⟩ := Bool.and_eq_true_iff.1 hchecks
  have hpasses := of_decide_eq_true hpasses
  have hr := eq_ok_of_toOption hr
  obtain ⟨routes, hfrom⟩ := Compiler.compile_eq_ok hr
  have hvalid := (hfrom.planned rfl).valid
  have hpass : ∀ x ∈ r.plan.passes.map (fun q => (q.id, q.nodes, q.target)),
      ∃ q ∈ r.plan.passes, q.nodes = x.2.1 ∧ q.target = x.2.2 := by
    intro x hx
    obtain ⟨q, hq, rfl⟩ := List.mem_map.1 hx
    exact ⟨q, hq, rfl, rfl⟩
  obtain ⟨q, hq, hqnodes, hqtarget⟩ := hpass ("draw:pen", ["pen"], "soft_blur_a") (by simp [hpasses])
  obtain ⟨w, hw, hwnodes, hwtarget⟩ := hpass ("blur:soft:h0", ["soft"], "soft_blur_a") (by simp [hpasses])
  obtain ⟨n, hn, hname⟩ := (Option.any_eq_true _ _).1 hscratch
  obtain ⟨t, ht, htname⟩ := (Option.any_eq_true _ _).1 htarget
  obtain ⟨htype, htexture⟩ := of_decide_eq_true htname
  obtain ⟨hid, -⟩ := Prepared.node?_eq_some hn
  obtain ⟨htid, -⟩ := Prepared.node?_eq_some ht
  have hget := (hvalid.routes.get?_textures t.id _).2 ⟨t, Prepared.node?_self ht, htype, rfl⟩
  have hsoft : (r.prepared.context routes {}).Declares r.plan (some n.id) "soft_blur_a" :=
    .scratch (Prepared.node?_self hn) hw (by rw [hwnodes, hid]) (of_decide_eq_true hname)
  have hpaper : (r.prepared.context routes {}).Declares r.plan (some t.id) "soft_blur_a" := by
    have howner : (r.prepared.context routes {}).Declares r.plan (some t.id) _ := .target hget
    rwa [(hvalid.routes.textures_node hget).2, htexture] at howner
  exact ⟨r, routes, hr, hfrom, .written (hid ▸ hsoft), .written (htid ▸ hpaper), q, w, hq, hw, hqnodes, hwnodes,
    hqtarget, hwtarget⟩

end SceneGraph
