import SceneGraph.Proofs.Built

/-!
# Reading what is written

A pass reads textures that earlier passes have written. Within the passes of a draw node this is so by
their order; a target that it samples stands before the node, and everything that draws into the target
stands before the target.

* `Fed`: every sketch of a list reads given textures or targets of sketches before it.
* `PlanContext.drawSketches_fed`: the passes of a draw node are fed.
* `PlanContext.Declares`: the textures that the build declares for passes to write.
* `PlanContext.History.place_le_rank`: what draws into the texture of a target has its turn before the target.
* `Scene.PlannedAs.reads_after_writes`: passes read what has been written completely.
-/
set_option autoImplicit false

namespace SceneGraph

namespace Plan

/-- Some pass before the position writes the texture. -/
def WrittenBefore (plan : Plan) (i : Nat) (name : String) : Prop :=
  ∃ (j : Nat) (w : Pass), j < i ∧ plan.passes[j]? = some w ∧ w.target = name

/-- All passes that write the texture stand before the position. -/
def DoneBefore (plan : Plan) (i : Nat) (name : String) : Prop :=
  ∀ (j : Nat) (w : Pass), plan.passes[j]? = some w → w.target = name → j < i

end Plan

/-! ## Fed lists -/

/-- Every sketch of the list reads given textures or targets of sketches before it. -/
def Fed (given : List String) (l : List Sketch) : Prop :=
  ∀ (i : Nat) (s : Sketch), l[i]? = some s → ∀ name ∈ s.reads,
    name ∈ given ∨ ∃ (j : Nat) (w : Sketch), j < i ∧ l[j]? = some w ∧ w.target = name

namespace Fed

variable {given : List String} {s : Sketch} {l l' : List Sketch}

theorem nil : Fed given [] := by
  intro i s h
  simp at h

theorem of_subset (h : ∀ s ∈ l, ∀ name ∈ s.reads, name ∈ given) : Fed given l :=
  fun _ s hs name hname => .inl (h s (List.mem_of_getElem? hs) name hname)

/-- The rest may read the target of the first sketch. -/
theorem cons (hreads : ∀ name ∈ s.reads, name ∈ given) (h : Fed (s.target :: given) l) : Fed given (s :: l) := by
  intro i w hw name hname
  cases i with
  | zero =>
    cases hw
    exact .inl (hreads name hname)
  | succ i =>
    rw [List.getElem?_cons_succ] at hw
    rcases h i w hw name hname with hgiven | ⟨j, v, hj, hv, rfl⟩
    · rcases List.mem_cons.1 hgiven with rfl | hgiven
      · exact .inr ⟨0, s, Nat.succ_pos i, rfl, rfl⟩
      · exact .inl hgiven
    · exact .inr ⟨j + 1, v, Nat.succ_lt_succ hj, hv, rfl⟩

/-- The second list may read the targets of the first one. -/
theorem append (h : Fed given l) (h' : Fed (given ++ l.map Sketch.target) l') : Fed given (l ++ l') := by
  intro i s hs name hname
  rcases Nat.lt_or_ge i l.length with hlt | hge
  · rw [List.getElem?_append_left hlt] at hs
    rcases h i s hs name hname with hgiven | ⟨j, w, hj, hw, rfl⟩
    · exact .inl hgiven
    · exact .inr ⟨j, w, hj, by rwa [List.getElem?_append_left (hj.trans hlt)], rfl⟩
  · rw [List.getElem?_append_right hge] at hs
    rcases h' _ s hs name hname with hgiven | ⟨j, w, hj, hw, rfl⟩
    · rcases List.mem_append.1 hgiven with hgiven | hgiven
      · exact .inl hgiven
      · obtain ⟨w, hw, rfl⟩ := List.mem_map.1 hgiven
        obtain ⟨j, hlt, hj⟩ := List.mem_iff_getElem.1 hw
        exact .inr ⟨j, w, hlt.trans_le hge,
          by rw [List.getElem?_append_left hlt, List.getElem?_eq_getElem hlt, hj], rfl⟩
    · refine .inr ⟨l.length + j, w, by omega, ?_, rfl⟩
      rw [List.getElem?_append_right (Nat.le_add_right _ _), Nat.add_sub_cancel_left, hw]

end Fed

namespace PlanContext

variable {c : PlanContext} {n : Node} {target : String} {sources : List String}

/-! ## The passes of draw nodes -/

theorem blurRounds_fed {first second : String} {rounds i : Nat} {reads given : List String}
    (hreads : ∀ name ∈ reads, name ∈ given) : Fed given (blurRoundSketches n first second rounds i reads) := by
  induction rounds generalizing i reads given with
  | zero => exact .nil
  | succ rounds ih =>
    refine .cons hreads (.cons (by simp [stageSketch]) (ih ?_))
    simp [stageSketch]

theorem second_mem_blurRounds {first second : String} {rounds i : Nat} {reads : List String} (h : 0 < rounds) :
    second ∈ (blurRoundSketches n first second rounds i reads).map Sketch.target := by
  cases rounds with
  | zero => omega
  | succ rounds => simp [blurRoundSketches, stageSketch]

theorem blurSketches_fed : Fed sources (c.blurSketches n sources target) := by
  have hpos : 0 < blurCount n := by
    unfold blurCount
    omega
  refine .append (blurRounds_fed fun _ h => h) (.of_subset ?_)
  simp only [stageSketch, List.mem_singleton, forall_eq, List.mem_append]
  exact .inr (second_mem_blurRounds hpos)

theorem bloomDown_fed {k m : Nat} {given : List String} (h : c.bloomLevel n m ∈ given) :
    Fed given ((List.range' m k).map fun i =>
      stageSketch n .bloom s!"down{i + 1}" [c.bloomLevel n i] (c.bloomLevel n (i + 1))) := by
  induction k generalizing m given with
  | zero => exact .nil
  | succ k ih => exact .cons (by simpa [stageSketch] using h) (ih List.mem_cons_self)

theorem bloomSketches_fed : Fed sources (c.bloomSketches n sources target) := by
  refine .cons (fun _ h => h) (.append (.append ?_ (.of_subset ?_)) (.of_subset ?_))
  · unfold bloomDown
    rw [List.range_eq_range']
    exact bloomDown_fed List.mem_cons_self
  · intro s hs name hname
    obtain ⟨i, hi, rfl⟩ := List.mem_map.1 hs
    obtain rfl : name = c.bloomLevel n (i + 1) := by simpa [stageSketch] using hname
    refine List.mem_append_right _ (List.mem_map.2 ⟨_, List.mem_map.2 ⟨i, ?_, rfl⟩, rfl⟩)
    exact List.mem_reverse.1 hi
  · intro s hs name hname
    obtain rfl := List.mem_singleton.1 hs
    rcases List.mem_append.1 hname with hname | hname
    · exact List.mem_append_left _ (List.mem_cons_of_mem _ hname)
    · obtain rfl := List.mem_singleton.1 hname
      exact List.mem_append_left _ List.mem_cons_self

/-- The passes of a draw node are fed by the textures that it samples. -/
theorem drawSketches_fed : Fed sources (c.drawSketches n target sources) := by
  unfold drawSketches
  split
  · exact .of_subset (by simp)
  · exact .of_subset (by simp)
  · exact blurSketches_fed
  · exact bloomSketches_fed
  · exact .nil

theorem blurRounds_nodes {first second : String} {rounds i : Nat} {reads : List String} {s : Sketch}
    (h : s ∈ blurRoundSketches n first second rounds i reads) : s.nodes = [n.id] ∧ s.kind = .blur := by
  induction rounds generalizing i reads with
  | zero => cases h
  | succ rounds ih =>
    rcases List.mem_cons.1 h with rfl | h
    · exact ⟨rfl, rfl⟩
    · rcases List.mem_cons.1 h with rfl | h
      · exact ⟨rfl, rfl⟩
      · exact ih h

/-- The passes of a draw node belong to it alone, and they are of the kind that its type says. -/
theorem drawSketches_nodes {s : Sketch} (h : s ∈ c.drawSketches n target sources) :
    s.nodes = [n.id] ∧ (s.kind = .draw ∨ s.kind = .blit ∨ s.kind = .blur ∨ s.kind = .bloom) := by
  unfold drawSketches at h
  split at h
  · obtain rfl := List.mem_singleton.1 h
    simp
  · obtain rfl := List.mem_singleton.1 h
    simp
  · rcases List.mem_append.1 h with h | h
    · obtain ⟨hnodes, hkind⟩ := blurRounds_nodes h
      simp [hnodes, hkind]
    · obtain rfl := List.mem_singleton.1 h
      simp [stageSketch]
  · rcases List.mem_cons.1 h with rfl | h
    · simp [stageSketch]
    · simp only [bloomDown, bloomUp, List.mem_append, List.mem_map, List.mem_singleton] at h
      rcases h with (⟨_, _, rfl⟩ | ⟨_, _, rfl⟩) | rfl <;> simp [stageSketch]
  · cases h

/-- The scratch textures of a draw node. -/
def scratchNames (c : PlanContext) (n : Node) : List String :=
  if n.type = "Blur" then [c.blurFirst n, c.blurSecond n]
  else if n.type = "Bloom" then (List.range (bloomCount n)).map (c.bloomLevel n)
  else []

theorem blurRounds_target {first second : String} {rounds i : Nat} {reads : List String} {s : Sketch}
    (h : s ∈ blurRoundSketches n first second rounds i reads) : s.target = first ∨ s.target = second := by
  induction rounds generalizing i reads with
  | zero => cases h
  | succ rounds ih =>
    rcases List.mem_cons.1 h with rfl | h
    · exact .inl rfl
    · rcases List.mem_cons.1 h with rfl | h
      · exact .inr rfl
      · exact ih h

/-- A draw node draws into scratch textures, and last into its target. -/
theorem drawSketches_target (target : String) (sources : List String) (htype : isDrawType n.type = true) :
    ∃ init last, c.drawSketches n target sources = init ++ [last] ∧ last.target = target ∧
      ∀ s ∈ init, s.target ∈ c.scratchNames n := by
  unfold drawSketches
  split
  · exact ⟨[], _, rfl, rfl, by simp⟩
  · exact ⟨[], _, rfl, rfl, by simp⟩
  · rename_i hblur
    refine ⟨_, _, rfl, rfl, fun s hs => ?_⟩
    rcases blurRounds_target hs with h | h <;> simp [scratchNames, hblur, h]
  · rename_i hbloom
    refine ⟨_ :: (_ ++ _), _, rfl, rfl, fun s hs => ?_⟩
    have hpos := bloomCount_pos n
    have hlevel : ∀ i < bloomCount n, c.bloomLevel n i ∈ c.scratchNames n := by
      intro i hi
      simp only [scratchNames, hbloom, reduceIte]
      exact List.mem_map_of_mem (List.mem_range.2 hi)
    rcases List.mem_cons.1 hs with rfl | hs
    · exact hlevel 0 hpos
    · rcases List.mem_append.1 hs with hs | hs <;> obtain ⟨i, hi, rfl⟩ := List.mem_map.1 hs
      · have := List.mem_range.1 hi
        exact hlevel (i + 1) (by omega)
      · have := List.mem_range.1 (List.mem_reverse.1 hi)
        exact hlevel i (by omega)
  · rename_i h₁ h₂ h₃ h₄
    rcases isDrawType_cases htype with h | h | h | h
    exacts [(h₁ h).elim, (h₂ h).elim, (h₃ h).elim, (h₄ h).elim]

/-! ## Textures that passes write -/

/-- The build declares the texture of this name for passes of the node to write, or, without a node, for the
display. Uploaded textures are not written; the build fails where one has a name of these. -/
inductive Declares (c : PlanContext) (plan : Plan) : Option String → String → Prop where
  | target {id : String} {d : Domain} (hd : c.routes.textures.get? id = some d) : Declares c plan (some id) d.texture
  /-- A draw node with passes declares its scratch textures. -/
  | scratch {n : Node} {q : Pass} {name : String} (hn : c.prepared.node? n.id = some n) (hq : q ∈ plan.passes)
      (hnodes : q.nodes = [n.id]) (hname : name ∈ c.scratchNames n) : Declares c plan (some n.id) name
  /-- The pass for the display has a texture of its own. -/
  | display {q : Pass} (hq : q ∈ plan.passes) (hkind : q.kind = .present) : Declares c plan none presentTextureName

/-- No two nodes declare a texture of the same name. -/
def DistinctTextures (c : PlanContext) (plan : Plan) : Prop :=
  ∀ a b name, c.Declares plan a name → c.Declares plan b name → a = b

/-- The textures that a build can declare for passes to write, with their owners. -/
def declarations (c : PlanContext) : List (Option String × String) :=
  (none, presentTextureName) :: c.routes.textures.map (fun e => (some e.1, e.2.texture)) ++
    c.prepared.scene.nodes.flatMap fun n => (c.scratchNames n).map fun name => (some n.id, name)

theorem Declares.mem_declarations {plan : Plan} {owner : Option String} {name : String}
    (h : c.Declares plan owner name) : (owner, name) ∈ c.declarations := by
  unfold declarations
  cases h with
  | target hd =>
    obtain ⟨e, he, rfl⟩ := Option.map_eq_some_iff.1 hd
    have hid := List.find?_some he
    refine List.mem_append_left _ (List.mem_cons_of_mem _ (List.mem_map.2 ⟨e, List.mem_of_find?_eq_some he, ?_⟩))
    rw [show e.1 = _ by simpa using hid]
  | @scratch n _ _ hn _ _ hname =>
    refine List.mem_append_right _ (List.mem_flatMap.2 ⟨n, (Prepared.node?_eq_some hn).2, ?_⟩)
    exact List.mem_map_of_mem hname
  | display => exact List.mem_append_left _ List.mem_cons_self

theorem distinctTextures_of_declarations (plan : Plan)
    (h : ∀ x ∈ c.declarations, ∀ y ∈ c.declarations, x.2 = y.2 → x.1 = y.1) : c.DistinctTextures plan :=
  fun _ _ _ ha hb => h _ ha.mem_declarations _ hb.mem_declarations rfl

theorem ne_draw_of_target (hc : c.Valid) {y : String} {d : Domain} (hd : c.routes.textures.get? y = some d)
    (hn : c.prepared.node? n.id = some n) (hdraw : isDrawType n.type = true) : y ≠ n.id := by
  rintro rfl
  obtain ⟨t, ht, htype, _⟩ := (hc.routes.get?_textures n.id d).1 hd
  rw [hn] at ht
  cases ht
  rw [isTargetType_of_draw hdraw] at htype
  cases htype

/-- A scratch texture of a draw node with passes is no texture of a target. -/
theorem DistinctTextures.scratch_ne {plan : Plan} (h : c.DistinctTextures plan) (hc : c.Valid)
    (hn : c.prepared.node? n.id = some n) (hdraw : isDrawType n.type = true) {q : Pass} (hq : q ∈ plan.passes)
    (hnodes : q.nodes = [n.id]) {name : String} (hname : name ∈ c.scratchNames n) {y : String} {d : Domain}
    (hd : c.routes.textures.get? y = some d) : name ≠ d.texture := by
  rintro rfl
  have hsame := h _ _ _ (.target hd) (.scratch hn hq hnodes hname)
  exact ne_draw_of_target hc hd hn hdraw (Option.some.inj hsame)

namespace History

variable {plan : Plan} {st₀ st : PlanState} {tr : List (Nat × Event)} {ps : List Pass}

theorem mem_passes (h : c.History plan st₀ st tr ps) {x : Nat × Event} (hx : x ∈ tr) {q : Pass}
    (hq : q ∈ x.2.passes) : q ∈ plan.passes := by
  rw [h.passes]
  exact List.mem_append_left _ (List.mem_flatMap.2 ⟨x, hx, hq⟩)

/-- A routed node has the domain of the node whose turn it is. -/
theorem root_domain (hc : c.Valid) (h : c.History plan st₀ st tr ps) {x : Nat × Event} (hx : x ∈ tr) {r : Route}
    (hr : c.routes.route? x.2.subject = some r) :
    ∃ root q, c.TurnOf x.1 root ∧ c.routes.route? root.id = some q ∧ q.domain = r.domain := by
  obtain ⟨root, hroot, hbelow⟩ := h.traced.placed x hx
  suffices hroute : ∃ q, c.routes.route? root.id = some q by
    obtain ⟨q, hq⟩ := hroute
    obtain ⟨r', hr', hdomain⟩ := hbelow.domain hc hq
    rw [hr] at hr'
    cases hr'
    exact ⟨root, q, hroot, hq, hdomain.symm⟩
  rcases hroot.2.2 with ⟨htype, _⟩ | ⟨hdraw, _⟩ | htarget
  · exact hc.routes.route_exists hroot.2.1 (by simp [isRoutedType, htype])
  · exact hc.routes.route_exists hroot.2.1 (by simp [isRoutedType, hdraw])
  · rw [hbelow.to_target hc hroot.2.1 htarget] at hr
    exact ⟨r, hr⟩

/-- A node that is drawn has its turn before the target that it draws into. -/
theorem place_lt_domain (hc : c.Valid) (hnodup : c.prepared.scene.nodeIds.Nodup) (h : c.History plan st₀ st tr ps)
    {x : Nat × Event} (hx : x ∈ tr) {r : Route} (hr : c.routes.route? x.2.subject = some r) :
    x.1 < c.prepared.rank r.domain.node := by
  obtain ⟨root, q, hroot, hq, hdomain⟩ := h.root_domain hc hx hr
  rw [← hroot.rank hc hnodup, ← hdomain]
  exact hc.routes.rank_lt_domain hnodup hq

/-- What draws into the texture of a target has its turn before the target, or it is the target's own. -/
theorem place_le_rank (hc : c.Valid) (hnodup : c.prepared.scene.nodeIds.Nodup) (h : c.History plan st₀ st tr ps)
    (hdistinct : c.DistinctTextures plan) {x : Nat × Event} (hx : x ∈ tr) {q : Pass} (hq : q ∈ x.2.passes)
    {y : String} {d : Domain} (hd : c.routes.textures.get? y = some d) (htarget : q.target = d.texture) :
    x.1 ≤ c.prepared.rank y := by
  have hformed := h.formed x hx
  have hplan := h.mem_passes hx hq
  have hroute : ∀ r, c.routes.route? x.2.subject = some r → q.target = r.domain.texture →
      x.1 ≤ c.prepared.rank y := by
    intro r hr htexture
    rw [← hc.routes.texture_injective (hc.routes.route_placed hr).domain hd (htexture.symm.trans htarget)]
    exact (h.place_lt_domain hc hnodup hx hr).le
  obtain ⟨root, hroot, hbelow⟩ := h.traced.placed x hx
  obtain ⟨i, e⟩ := x
  cases e with
  | enter m => cases hq
  | draw m qs =>
    obtain ⟨hm, hdraw, r, sources, hr, _, hsketch⟩ := hformed
    have hmem : q.sketch ∈ c.drawSketches m r.domain.texture sources := by
      rw [← hsketch]
      exact List.mem_map_of_mem hq
    obtain ⟨init, last, hsplit, hlast, hscratch⟩ := drawSketches_target (c := c) r.domain.texture
      sources hdraw
    have hnodes := (drawSketches_nodes hmem).1
    rw [hsplit] at hmem
    rcases List.mem_append.1 hmem with hmem | hmem
    · exact absurd htarget (hdistinct.scratch_ne hc hm hdraw hplan hnodes (hscratch _ hmem) hd)
    · obtain hlast' := List.mem_singleton.1 hmem
      exact hroute r hr ((congrArg Sketch.target hlast').trans hlast)
  | copy layer m target w =>
    obtain rfl := List.mem_singleton.1 hq
    obtain ⟨_, _, _, _, r, _, hr, _, _, _, hsketch⟩ := hformed
    exact hroute r hr (congrArg Sketch.target hsketch)
  | clear m w =>
    obtain rfl := List.mem_singleton.1 hq
    obtain ⟨hm, htype, hsketch⟩ := hformed
    have hget := (hc.routes.get?_textures m.id _).2 ⟨m, hm, htype, rfl⟩
    have htexture : q.target = (Route.targetDomain c.prepared m).texture := by
      have := congrArg Sketch.target hsketch
      rwa [Route.domainAt, hget] at this
    rw [← hc.routes.texture_injective hget hd (htexture.symm.trans htarget)]
    have hself : m.id = root.id := hbelow.target hm htype
    rw [hself, hroot.rank hc hnodup]

/-- The texture of a target is written at a turn no later than the target's. -/
theorem written_by (hc : c.Valid) (h : c.History plan st₀ st tr ps) {y : String} {d : Domain}
    (hd : c.routes.textures.get? y = some d) :
    ∃ j w x, PassAt tr j w x ∧ x.1 ≤ c.prepared.rank y ∧ w.target = d.texture := by
  obtain ⟨n, hn, htype, rfl⟩ := (hc.routes.get?_textures y d).1 hd
  obtain ⟨rfl, _⟩ := Prepared.node?_eq_some hn
  have hlt := hc.routes.prepared.rank_lt hn
  obtain ⟨x, hx, hle, w, hw, htarget⟩ := h.traced.written _ hlt n (turnOf_rank hc hn (.inr (.inr htype))) htype
  obtain ⟨j, z, hz, hplace⟩ := exists_passAt hx hw
  refine ⟨j, w, z, hz, hplace ▸ hle, htarget.trans ?_⟩
  rw [Route.domainAt, hd]
  rfl

/-! ## Positions in the plan -/

theorem pass_cases (h : c.History plan st₀ st tr ps) {i : Nat} {q : Pass} (hq : plan.passes[i]? = some q) :
    (∃ x, PassAt tr i q x) ∨ (q.sketch = c.presentSketch ∧ (tracePasses tr).length ≤ i) := by
  rw [h.passes] at hq
  rcases Nat.lt_or_ge i (tracePasses tr).length with hlt | hge
  · rw [List.getElem?_append_left hlt] at hq
    exact .inl (passAt_of_getElem? hq)
  · rw [List.getElem?_append_right hge] at hq
    exact .inr ⟨h.shown q (List.mem_of_getElem? hq), hge⟩

theorem getElem?_passes (h : c.History plan st₀ st tr ps) {i : Nat} {q : Pass}
    (hq : (tracePasses tr)[i]? = some q) : i < (tracePasses tr).length ∧ plan.passes[i]? = some q := by
  obtain ⟨hlt, _⟩ := List.getElem?_eq_some_iff.1 hq
  refine ⟨hlt, ?_⟩
  rw [h.passes, List.getElem?_append_left hlt, hq]

theorem lt_of_target (hc : c.Valid) (hnodup : c.prepared.scene.nodeIds.Nodup) (h : c.History plan st₀ st tr ps)
    (hdistinct : c.DistinctTextures plan) {y : String} {d : Domain} (hd : c.routes.textures.get? y = some d)
    {i : Nat} (hlater : ∀ j w x, PassAt tr j w x → x.1 ≤ c.prepared.rank y → j < i) {j : Nat} {w : Pass}
    (hw : plan.passes[j]? = some w) (htarget : w.target = d.texture) : j < i := by
  rcases h.pass_cases hw with ⟨x, hx⟩ | ⟨hsketch, _⟩
  · exact hlater j w x hx (h.place_le_rank hc hnodup hdistinct hx.mem hx.mem_passes hd htarget)
  · have hdisplay : c.Declares plan none presentTextureName :=
      .display (List.mem_of_getElem? hw) (congrArg Sketch.kind hsketch)
    have hname : presentTextureName = d.texture := (congrArg Sketch.target hsketch).symm.trans htarget
    rw [hname] at hdisplay
    cases hdistinct _ _ _ hdisplay (.target hd)

/-- The target of a draw node's texture stands before the node. -/
theorem rank_lt_of_reaches (hc : c.Valid) (hnodup : c.prepared.scene.nodeIds.Nodup) {y : String} {d : Domain}
    (hd : c.routes.textures.get? y = some d) (hn : c.prepared.node? n.id = some n) (hdraw : isDrawType n.type = true)
    (h : c.prepared.Reaches y n.id) : c.prepared.rank y < c.prepared.rank n.id := by
  obtain ⟨t, ht, _⟩ := (hc.routes.get?_textures y d).1 hd
  refine lt_of_le_of_ne (hc.routes.prepared.rank_le_of_reaches hnodup h) fun heq => ?_
  exact ne_draw_of_target hc hd hn hdraw (hc.routes.prepared.rank_injective ht heq)

/-! ## Textures that passes sample -/

/-- A target whose turn and all before it are over has been written, and it is written no more. -/
theorem target_done (hc : c.Valid) (hnodup : c.prepared.scene.nodeIds.Nodup) (h : c.History plan st₀ st tr ps)
    (hdistinct : c.DistinctTextures plan) {y : String} {d : Domain} (hd : c.routes.textures.get? y = some d)
    {i : Nat} (hlater : ∀ j w x, PassAt tr j w x → x.1 ≤ c.prepared.rank y → j < i) :
    plan.WrittenBefore i d.texture ∧ plan.DoneBefore i d.texture := by
  refine ⟨?_, fun j w hw htarget => h.lt_of_target hc hnodup hdistinct hd hlater hw htarget⟩
  obtain ⟨j, w, x, hx, hle, htarget⟩ := h.written_by hc hd
  exact ⟨j, w, hlater j w x hx hle, (h.getElem?_passes hx.getElem?).2, htarget⟩

/-- A pass of a draw node samples pixels, a finished target, or a scratch texture that was written. -/
theorem draw_reads (hc : c.Valid) (hnodup : c.prepared.scene.nodeIds.Nodup) (h : c.History plan st₀ st tr ps)
    (hdistinct : c.DistinctTextures plan) {i k : Nat} {q : Pass} {m : Node} {qs : List Pass}
    (hq : PassAt tr i q (k, .draw m qs)) {name : String} (hname : name ∈ q.sketch.reads) :
    (∃ t, plan.texture? name = some t ∧ t.upload ≠ "") ∨
      (plan.WrittenBefore i name ∧ ∀ y d, c.routes.textures.get? y = some d → d.texture = name →
        plan.DoneBefore i name) := by
  obtain ⟨hm, hdraw, r, sources, hr, hsources, hsketch⟩ := h.formed _ hq.mem
  obtain ⟨o, l, rfl, hl, haround⟩ := hq.around
  have hget : (c.drawSketches m r.domain.texture sources)[l]? = some q.sketch := by
    rw [← hsketch, List.getElem?_map]
    exact congrArg (Option.map Pass.sketch) hl
  rcases drawSketches_fed l q.sketch hget name hname with hsource | ⟨j, w, hj, hw, rfl⟩
  · obtain ⟨source, hreach, ⟨d, hd, rfl⟩ | hupload⟩ := hsources name hsource
    · obtain ⟨root, hroot, hbelow⟩ := h.traced.placed _ hq.mem
      have hplace : c.prepared.rank m.id ≤ k := by
        have := hbelow.rank_le hc hnodup
        rwa [hroot.rank hc hnodup] at this
      have hlt := rank_lt_of_reaches hc hnodup hd hm hdraw hreach
      obtain ⟨hwritten, hdone⟩ := h.target_done hc hnodup hdistinct hd fun j w x hx hle =>
        h.traced.lt_of_lt hq hx (lt_of_le_of_lt hle (lt_of_lt_of_le hlt hplace))
      exact .inr ⟨hwritten, fun _ _ _ _ => hdone⟩
    · exact .inl hupload
  · rw [← hsketch, List.getElem?_map] at hw
    obtain ⟨w, hw', rfl⟩ := Option.map_eq_some_iff.1 hw
    refine .inr ⟨⟨o + j, w, by omega, (h.getElem?_passes (haround j w hw')).2, rfl⟩, fun y d hd htexture => ?_⟩
    -- an earlier pass of the node is not its last one, so it draws into a scratch texture
    obtain ⟨init, last, hsplit, _, hscratch⟩ := drawSketches_target (c := c) r.domain.texture
      sources hdraw
    have hlength := (List.getElem?_eq_some_iff.1 hget).1
    rw [hsplit, List.length_append, List.length_singleton] at hlength
    have hinit : w.sketch ∈ init := by
      have hmap : (qs.map Pass.sketch)[j]? = some w.sketch := by
        rw [List.getElem?_map]
        exact congrArg (Option.map Pass.sketch) hw'
      rw [hsketch, hsplit, List.getElem?_append_left (by omega)] at hmap
      exact List.mem_of_getElem? hmap
    have hnodes := (drawSketches_nodes (List.mem_of_getElem? hget)).1
    have hplan := h.mem_passes hq.mem hq.mem_passes
    exact absurd htexture.symm (hdistinct.scratch_ne hc hm hdraw hplan hnodes (hscratch _ hinit) hd)

end History

end PlanContext

/-- Passes that sample textures read what has been written: an earlier pass has written the texture, and where
it is the texture of a target, all passes that write it are earlier. -/
theorem Scene.PlannedAs.reads_after_writes {s : Scene} {schema : Schema} {options : PrepareOptions}
    {env : Environment} {p : Prepared} {r : Routes} {plan : Plan} (h : s.PlannedAs schema options env p r plan)
    (hnodup : p.scene.nodeIds.Nodup)
    (hdistinct : (p.context r env).DistinctTextures plan) {i : Nat} {q : Pass}
    {b : TextureBinding} {t : TextureDecl} (hq : plan.passes[i]? = some q)
    (hkind : q.kind ∈ [PassKind.draw, .blit, .blur, .bloom, .present]) (hb : b ∈ q.bindings)
    (ht : plan.texture? b.texture = some t) (hupload : t.upload = "") :
    plan.WrittenBefore i b.texture ∧
      ∀ y d, r.textures.get? y = some d → d.texture = b.texture → plan.DoneBefore i b.texture := by
  obtain ⟨st₀, st, tr, ps, hhistory⟩ := h.history hnodup
  have hread : b.texture ∈ q.sketch.reads := List.mem_map_of_mem hb
  rcases hhistory.pass_cases hq with ⟨⟨k, e⟩, hx⟩ | ⟨hsketch, hlength⟩
  · have hformed := hhistory.formed _ hx.mem
    have hmem := hx.mem_passes
    cases e with
    | enter m => cases hmem
    | draw m qs =>
      rcases hhistory.draw_reads h.valid hnodup hdistinct hx hread with ⟨t', ht', hne⟩ | hdone
      · rw [ht] at ht'
        cases ht'
        exact absurd hupload hne
      · exact hdone
    | copy layer m target w =>
      obtain rfl := List.mem_singleton.1 hmem
      obtain ⟨_, _, _, _, _, _, _, _, _, _, hsketch⟩ := hformed
      rw [show q.kind = .compose from congrArg Sketch.kind hsketch] at hkind
      exact absurd hkind (by decide)
    | clear m w =>
      obtain rfl := List.mem_singleton.1 hmem
      obtain ⟨_, _, hsketch⟩ := hformed
      rw [show q.kind = .clear from congrArg Sketch.kind hsketch] at hkind
      exact absurd hkind (by decide)
  · rw [hsketch] at hread
    obtain heq : b.texture = p.output.texture := by simpa [PlanContext.presentSketch] using hread
    obtain ⟨d, hd, houtput⟩ := h.valid.routes.get?_output
    obtain ⟨hwritten, hdone⟩ := hhistory.target_done h.valid hnodup hdistinct hd (i := i) fun j w x hx _ =>
      lt_of_lt_of_le (hhistory.getElem?_passes hx.getElem?).1 hlength
    rw [heq, ← houtput]
    exact ⟨hwritten, fun _ _ _ _ => hdone⟩

theorem Scene.blurred_samples : (Scene.blurred.planned? Schema.builtin {} {}).any (fun (p, r, plan) =>
    decide p.scene.nodeIds.Nodup &&
      decide (∀ x ∈ (p.context r {}).declarations, ∀ y ∈ (p.context r {}).declarations, x.2 = y.2 → x.1 = y.1) &&
      plan.passes[1]?.any fun q => decide (q.kind = .blur) && q.bindings[0]?.any fun b =>
        (plan.texture? b.texture).any fun t => t.upload == "") = true := by
  rw [Scene.planned?_builtin]
  decide +kernel

theorem Scene.blurred_reads : ∃ p r plan q b t, Scene.blurred.PlannedAs Schema.builtin {} {} p r plan ∧
    p.scene.nodeIds.Nodup ∧ (p.context r {}).DistinctTextures plan ∧
    plan.passes[1]? = some q ∧ q.kind = .blur ∧ b ∈ q.bindings ∧ plan.texture? b.texture = some t ∧ t.upload = "" ∧
    plan.WrittenBefore 1 b.texture ∧
      ∀ y d, r.textures.get? y = some d → d.texture = b.texture → plan.DoneBefore 1 b.texture := by
  obtain ⟨⟨p, r, plan⟩, hsome, hchecks⟩ := Option.any_eq_true _ _ |>.1 Scene.blurred_samples
  have hplanned := (Scene.planned?_eq_some _ _ _ _ _ _ _).1 hsome
  simp only [Bool.and_eq_true, decide_eq_true_eq] at hchecks
  obtain ⟨⟨hnodup, hnames⟩, hpass⟩ := hchecks
  obtain ⟨q, hq, hpass⟩ := Option.any_eq_true _ _ |>.1 hpass
  obtain ⟨hkind, hpass⟩ := Bool.and_eq_true_iff.1 hpass
  obtain ⟨b, hb, hpass⟩ := Option.any_eq_true _ _ |>.1 hpass
  obtain ⟨t, ht, hupload⟩ := Option.any_eq_true _ _ |>.1 hpass
  have hdistinct := PlanContext.distinctTextures_of_declarations plan hnames
  have hkind' : q.kind = .blur := by simpa using hkind
  have hupload' : t.upload = "" := by simpa using hupload
  exact ⟨p, r, plan, q, b, t, hplanned, hnodup, hdistinct, hq, hkind', List.mem_of_getElem? hb, ht, hupload',
    hplanned.reads_after_writes hnodup hdistinct hq (by simp [hkind']) (List.mem_of_getElem? hb) ht hupload'⟩

end SceneGraph
