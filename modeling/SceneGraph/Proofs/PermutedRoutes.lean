import SceneGraph.Proofs.Domains
import SceneGraph.Proofs.Permuted

/-!
# Preparation and routes of reordered scenes

Where no node is an instance of a group, inputs for passes are fed by passes and no source of an image is given an
image, preparing a scene with reordered connections gives the same nodes in the same order, the same names and the
same constants, and every node has the same route.

* `Scene.PassFed`: passes feed the inputs for passes.
* `Prepared.Permuted`: two prepared scenes up to the order of connections.
* `Scene.prepare_permuted`, `Prepared.resolve_permuted`: the two stages.
-/
set_option autoImplicit false

namespace SceneGraph

namespace Scene

variable {schema : Schema} {s t : Scene}

/-- No node is an instance of a group. -/
def Groupless (s : Scene) : Prop := ∀ n ∈ s.nodes, n.type ≠ Groups.instanceType

/-- The type that an input port takes. -/
def taken? (schema : Schema) (s : Scene) (e : Endpoint) : Option String :=
  (s.indexed? e.node).bind fun n => schema.inputType? n e.port

/-- The type that an output port gives. -/
def given? (schema : Schema) (s : Scene) (e : Endpoint) : Option String :=
  (s.indexed? e.node).bind fun n => schema.outputType? n e.port

/-- Every input that takes passes is fed by an output that gives passes. -/
def PassFed (schema : Schema) (s : Scene) : Prop :=
  ∀ c ∈ s.connections, s.taken? schema c.target = some "pass" → s.given? schema c.source = some "pass"

theorem Groupless.of_bare (h : s.Groupless) (hbare : t.nodes.map Schema.bare = s.nodes.map Schema.bare) :
    t.Groupless := by
  intro n hn
  obtain ⟨m, hm, hsame⟩ := List.mem_map.1 (hbare ▸ List.mem_map_of_mem hn : Schema.bare n ∈ s.nodes.map Schema.bare)
  have htype : (Schema.bare m).type = (Schema.bare n).type := by rw [hsame]
  exact fun hn => h m hm (htype.trans hn)

theorem bind_of_bare (hbare : t.nodes.map Schema.bare = s.nodes.map Schema.bare) {f : Node → Option String}
    (hf : ∀ n, f (Schema.bare n) = f n) (id : String) : (t.indexed? id).bind f = (s.indexed? id).bind f := by
  have hsame := congrArg (Option.bind · f) (indexed?_bare hbare id)
  simpa only [Option.bind_map, Function.comp_def, hf] using hsame

/-- The types of ports do not depend on parameters. -/
theorem given?_of_bare (hbare : t.nodes.map Schema.bare = s.nodes.map Schema.bare) (e : Endpoint) :
    t.given? schema e = s.given? schema e := bind_of_bare hbare (fun _ => rfl) _

theorem taken?_of_bare (hbare : t.nodes.map Schema.bare = s.nodes.map Schema.bare) (e : Endpoint) :
    t.taken? schema e = s.taken? schema e := bind_of_bare hbare (fun _ => rfl) _

theorem PassFed.of_bare (h : s.PassFed schema) (hbare : t.nodes.map Schema.bare = s.nodes.map Schema.bare)
    (hconns : ∀ c ∈ t.connections, c ∈ s.connections) : t.PassFed schema := by
  intro c hc htaken
  rw [taken?_of_bare hbare] at htaken
  rw [given?_of_bare hbare]
  exact h c (hconns c hc) htaken

end Scene

/-! ## Preparation -/

/-- A scene without instances of groups expands to itself. -/
theorem Groups.expand_groupless {s : Scene} (h : s.Groupless) (depth : Int) : expand depth s = ⟨0, .ok s⟩ := by
  have hnone : s.nodes.find? (fun n => n.type == instanceType) = none :=
    List.find?_eq_none.2 fun n hn => by simpa using h n hn
  unfold expand
  split
  · rw [hnone]
  · unfold expandRounds
    rw [hnone]

/-- Where passes feed the inputs for passes, nothing is wrapped. -/
theorem Wrap.autoWrap_passFed {schema : Schema} {s : Scene} (h : s.PassFed schema) :
    (autoWrap schema s).result = .ok s := by
  have hbare : ∀ c ∈ s.connections, bareType? schema s c = none := by
    intro c hc
    unfold bareType?
    split
    · rename_i m n hm hn
      split
      · rename_i htype
        have htaken : s.taken? schema c.target = some "pass" := by rw [Scene.taken?, hn]; exact htype
        have hgiven := h c hc htaken
        rw [Scene.given?, hm, Option.bind_some] at hgiven
        simp [hgiven]
      · rfl
    · rfl
  have hall (conns : List Connection) (hconns : ∀ c ∈ conns, bareType? schema s c = none) (made : Nat) :
      wrapAll schema s conns made = .ok (conns, [], []) := by
    induction conns generalizing made with
    | nil => rfl
    | cons c rest ih =>
      obtain ⟨hc, hrest⟩ := List.forall_mem_cons.1 hconns
      unfold wrapAll
      rw [hc, ih hrest]
      rfl
  unfold autoWrap
  rw [hall _ hbare]
  simp

/-- Two prepared scenes with the same nodes in the same order, up to the order of the connections. -/
structure Prepared.Permuted (p q : Prepared) : Prop where
  scene : p.scene.Permuted q.scene
  order : p.order = q.order
  names : p.names = q.names
  output : p.output = q.output
  baked : p.baked = q.baked

/-- A scene with reordered connections is prepared to the same nodes. -/
theorem Scene.prepare_permuted {schema : Schema} {options : PrepareOptions} {s t : Scene} {p : Prepared}
    (h : s.Permuted t) (hgroups : s.Groupless) (hpass : s.PassFed schema) (hchain : s.Unchained)
    (hp : (s.prepare schema options).outcome.1 = .ok p) :
    ∃ q, (t.prepare schema options).outcome.1 = .ok q ∧ p.Permuted q := by
  have hexpand := Groups.expand_groupless hgroups options.maxGroupDepth
  have hexpand' := Groups.expand_groupless (s := t) (fun n hn => hgroups n (h.nodes ▸ hn)) options.maxGroupDepth
  obtain ⟨expanded, inlined, wrapped, hfrom⟩ := prepare_eq_ok hp
  obtain rfl : s = expanded := Except.ok.inj ((congrArg Groups.Expansion.result hexpand).symm.trans hfrom.expand)
  obtain ⟨inlined', hinline', hinlined⟩ := Images.inline_permuted h hchain hfrom.inline
  obtain ⟨hrest, hbare⟩ := Images.inline_bare hfrom.inline
  have hpass' : inlined.PassFed schema := hpass.of_bare hbare fun c hc => by rwa [hrest] at hc
  obtain rfl : inlined = wrapped := Except.ok.inj ((Wrap.autoWrap_passFed hpass').symm.trans hfrom.wrap)
  have hpass'' : inlined'.PassFed schema := hpass'.of_bare (by rw [hinlined.nodes]) fun c hc =>
    hinlined.connections.mem_iff.2 hc
  have hshaken := Graph.treeShake_permuted hinlined
  have hfrom' : t.PreparedFrom schema options { p with scene := Graph.treeShake inlined' } t inlined' inlined' := {
    expand := congrArg Groups.Expansion.result hexpand'
    recheck := by rw [hexpand']; rfl
    inline := hinline'
    wrap := Wrap.autoWrap_passFed hpass''
    scene := rfl
    order := by rw [← Graph.topologicalOrder_permuted hshaken, ← hfrom.scene]; exact hfrom.order
    baked := by rw [← Bake.constants_permuted _ hshaken, ← hfrom.scene]; exact hfrom.baked
    output := by rw [← Output.resolve_permuted hshaken, ← hfrom.scene]; exact hfrom.output
    names := by rw [hfrom.names, hfrom.scene]; unfold Names.ofScene; rw [hshaken.nodes]
    schema := hfrom.schema }
  obtain ⟨stats, hq⟩ := hfrom'.prepare
  exact ⟨_, hq, hfrom.scene ▸ hshaken, rfl, rfl, rfl, rfl⟩

/-! ## Routes -/

namespace Prepared.Permuted

variable {p q : Prepared}

theorem node? (h : p.Permuted q) : p.node? = q.node? := h.scene.indexed?

theorem nameOf (h : p.Permuted q) : p.nameOf = q.nameOf := by
  funext id
  unfold Prepared.nameOf
  rw [h.names]

theorem layersOf (h : p.Permuted q) : p.layersOf = q.layersOf := by
  funext id
  unfold Prepared.layersOf
  rw [h.node?, Layer.ordered_permuted h.scene]

theorem compositesOf (h : p.Permuted q) : p.compositesOf = q.compositesOf := by
  funext layer
  unfold Prepared.compositesOf composites typeOf
  rw [h.order, h.node?, h.layersOf]

end Prepared.Permuted

/-- Two lists of routes that lead every node and every target into the same texture. -/
structure Routes.Same (r r' : Routes) : Prop where
  byNode : r.byNode = r'.byNode
  textures : r.textures = r'.textures

namespace Route

variable {p q : Prepared}

theorem targetDomains_permuted (h : p.Permuted q) : targetDomains p = targetDomains q := by
  unfold targetDomains targetDomain
  rw [h.order, h.node?, h.output, h.nameOf]

theorem foldl_addOnce_perm {ids ids' : List String} (h : ids.Perm ids') :
    (ids.foldl addOnce []).Perm (ids'.foldl addOnce []) := by
  refine (List.perm_ext_iff_of_nodup (nodup_foldl_addOnce .nil) (nodup_foldl_addOnce .nil)).2 fun id => ?_
  simp [mem_foldl_addOnce, h.mem_iff]

/-- The target of a node does not depend on the order in which its consumers are found. -/
theorem target_perm {explicit explicit' inherited inherited' : List String} (hexplicit : explicit.Perm explicit')
    (hinherited : inherited.Perm inherited') {t : String × Bool} (h : target explicit inherited = .ok t) :
    target explicit' inherited' = .ok t := by
  obtain ⟨id, isExplicit⟩ := t
  rw [target_iff] at *
  rcases h with ⟨rfl, hkind⟩ | ⟨rfl, rfl, hkind⟩
  · exact .inl ⟨List.perm_singleton.1 hexplicit.symm, hkind⟩
  · exact .inr ⟨hexplicit.symm.eq_nil, List.perm_singleton.1 hinherited.symm, hkind⟩

theorem ofNode_permuted (h : p.Permuted q) {textures : Table Domain} {found : Table Route} {n : Node} {r : Route}
    (hr : ofNode p textures found n = .ok r) : ofNode q textures found n = .ok r := by
  have hconsumers : (passConsumers p n.id).Perm (passConsumers q n.id) := by
    unfold passConsumers
    rw [h.node?]
    exact (h.scene.connections.filter _).filterMap _
  have hexplicit : (explicitTargets (passConsumers p n.id)).Perm (explicitTargets (passConsumers q n.id)) :=
    foldl_addOnce_perm ((hconsumers.filter _).map _)
  have hinherited : (inheritedTargets found (passConsumers p n.id)).Perm
      (inheritedTargets found (passConsumers q n.id)) :=
    foldl_addOnce_perm ((hconsumers.filter _).filterMap _)
  have hshape : shape p n = shape q n := by
    unfold shape
    rw [h.scene.inputAt?, h.baked]
  unfold ofNode at *
  simp only [bind, Except.bind] at *
  cases ht : target (explicitTargets (passConsumers p n.id)) (inheritedTargets found (passConsumers p n.id)) with
  | error reason =>
    rw [ht] at hr
    cases hr
  | ok t =>
    rw [ht] at hr
    rw [target_perm hexplicit hinherited ht, ← hshape, ← h.layersOf]
    exact hr

theorem findAll_permuted (h : p.Permuted q) {textures : Table Domain} {ids : List String} {found routes : Table Route}
    (hroutes : findAll p textures ids found = .ok routes) : findAll q textures ids found = .ok routes := by
  induction ids generalizing found with
  | nil => exact hroutes
  | cons id rest ih =>
    unfold findAll at hroutes ⊢
    rw [← h.node?]
    cases hn : p.node? id with
    | none =>
      rw [hn] at hroutes
      exact ih hroutes
    | some n =>
      simp only [hn] at hroutes ⊢
      split
      · rename_i hrouted
        rw [if_pos hrouted] at hroutes
        split at hroutes
        · cases hroutes
        · rename_i r hr
          rw [ofNode_permuted h hr]
          exact ih hroutes
      · rename_i hrouted
        rw [if_neg hrouted] at hroutes
        exact ih hroutes

end Route

/-- The routes of a scene do not depend on the order of its connections. -/
theorem Prepared.resolve_permuted {p q : Prepared} (h : p.Permuted q) {r : Routes}
    (hr : p.resolve.outcome.1 = .ok r) : ∃ r', q.resolve.outcome.1 = .ok r' ∧ r.Same r' := by
  obtain ⟨byNode, hfind, rfl⟩ := Prepared.resolve_eq_ok.1 hr
  rw [h.order, Route.targetDomains_permuted h] at hfind
  exact ⟨_, Prepared.resolve_eq_ok.2 ⟨byNode, Route.findAll_permuted h hfind, rfl⟩, rfl,
    Route.targetDomains_permuted h⟩

end SceneGraph
