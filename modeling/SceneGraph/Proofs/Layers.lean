import SceneGraph.Proofs.Built
import SceneGraph.Proofs.Domains
import SceneGraph.Proofs.DrawnOnce
import SceneGraph.Proofs.PortTypes

/-!
# Layers

Wrapping leaves connections that bring passes to compositions and targets alone, so by the types of ports their sources
are draw nodes and compositions, with one exception: a node whose type leaves an output open may declare it as one of
passes itself. Nothing comes of such a source. Everything else that a composition or a target takes gets into its
texture.

* `Schema.OwnPass`: an output that is one of passes by the declaration of its node alone.
* `Wrap.autoWrap_source`: where the passes of a wrapped scene come from.
* `PlanContext.Copying`: what is begun has its layers on other targets copied.
* `Prepared.Shown`: what a node draws is in a texture.
* `Compiler.layer_routed_iff`: the sources with a route, and what the plan has of them.
-/
set_option autoImplicit false

namespace SceneGraph

/-- The input of a node that takes passes into a texture: one for layers of a composition, or that of a target. -/
def Node.IsPassInput (m : Node) (port : String) : Prop :=
  m.type = compositeType ∧ Layer.IsPort port ∨ isTargetType m.type = true ∧ port = "pass"

/-! ## Outputs of passes -/

theorem PortSpec.Covers.mem {ports : List PortSpec} {port : String} {spec : PortSpec} (h : Covers ports port spec) :
    spec ∈ ports := by
  cases h with
  | named hfirst =>
    obtain ⟨-, before, after, rfl, -⟩ := hfirst
    simp
  | family _ hfirst =>
    obtain ⟨-, before, after, rfl, -⟩ := hfirst
    simp

namespace Schema

variable {s : Schema} {n m : Node} {port : String} {t : NodeType}

/-- The output gives passes, but only by the declaration of the node itself. -/
def OwnPass (s : Schema) (n : Node) (port : String) : Prop :=
  s.Gives n port "pass" ∧
    ∀ t spec, s.nodeType? n.type = some t → PortSpec.Covers t.outputs port spec → spec.type ≠ "pass"

/-- A node of a type with fixed outputs declares none of its own. -/
theorem not_ownPass (ht : s.nodeType? n.type = some t) (hfixed : t.declaredPorts = false)
    (hlisted : ∀ spec ∈ t.outputs, spec.type ≠ "any") : ¬s.OwnPass n port := by
  rintro ⟨hgives, hunlisted⟩
  generalize htype : "pass" = type at hgives
  cases hgives with
  | group => exact absurd htype (by decide)
  | refined hknown _ hport hany =>
    cases ht.symm.trans hknown
    exact hlisted _ hport.mem hany
  | listed hknown _ hport => exact hunlisted _ _ hknown hport htype.symm
  | declared hknown _ _ hports =>
    cases ht.symm.trans hknown
    cases hfixed.symm.trans hports

theorem listed_passes :
    (∀ e ∈ listed.types, (isRoutedType e.1 = true ∨ isTargetType e.1 = true →
      e.2.declaredPorts = false ∧ ∀ spec ∈ e.2.outputs, spec.type ≠ "any") ∧
        (isRoutedType e.1 = false → ∀ spec ∈ e.2.outputs, spec.type ≠ "pass")) ∧
    (∀ name ∈ ["RenderPass", "Blit", "Blur", "Bloom", compositeType, screenType, "RenderTexture"],
      (listed.nodeType? name).isSome = true) ∧
    ∀ name ∈ [screenType, "RenderTexture"], (listed.nodeType? name).map (fun t => (t.declaredPorts, t.inputs)) =
      some (false, [Builtin.port "pass" "pass"]) := by
  decide +kernel

/-- Draw nodes, compositions and targets have fixed outputs, and no other type lists an output of passes. -/
theorem builtin_outputs {type : String} (ht : builtin.nodeType? type = some t) :
    (isRoutedType type = true ∨ isTargetType type = true →
      t.declaredPorts = false ∧ ∀ spec ∈ t.outputs, spec.type ≠ "any") ∧
      (isRoutedType type = false → ∀ spec ∈ t.outputs, spec.type ≠ "pass") := by
  rw [builtin_eq] at ht
  exact listed_passes.1 (type, t) (Table.mem_of_get? ht)

theorem builtin_routed {type : String} (h : isRoutedType type = true ∨ isTargetType type = true) :
    ∃ t, builtin.nodeType? type = some t := by
  rw [builtin_eq]
  refine Option.isSome_iff_exists.1 (listed_passes.2.1 type ?_)
  simp only [isRoutedType, isDrawType, isTargetType, Bool.or_eq_true, beq_iff_eq] at h
  simp only [List.mem_cons, List.not_mem_nil, or_false]
  tauto

theorem builtin_not_ownPass (h : isRoutedType n.type = true ∨ isTargetType n.type = true) :
    ¬builtin.OwnPass n port := by
  obtain ⟨t, ht⟩ := builtin_routed h
  obtain ⟨hfixed, hlisted⟩ := (builtin_outputs ht).1 h
  exact not_ownPass ht hfixed hlisted

/-- An output gives passes of a draw node or a composition, or by the declaration of its node alone. -/
theorem routed_of_gives (h : builtin.Gives n port "pass") (hown : ¬builtin.OwnPass n port) :
    isRoutedType n.type = true := by
  by_contra hrouted
  refine hown ⟨h, fun t spec ht hport => ?_⟩
  exact (builtin_outputs ht).2 (Bool.eq_false_iff.2 hrouted) spec hport.mem

/-! ## Inputs of passes -/

theorem find?_layerPort (h : Layer.IsPort port) :
    (PortSpec.find? Builtin.composite.inputs port).map PortSpec.type = some "pass" := by
  rcases h with rfl | hdynamic
  · decide
  · have hpass : ("pass" == port) = false := by
      rw [beq_eq_false_iff_ne]
      rintro rfl
      exact absurd hdynamic (by decide)
    have hstem : ['d', 'y', 'n', 'a', 'm', 'i', 'c', '_'].isPrefixOf port.toList = true := hdynamic
    simp [PortSpec.find?, Builtin.composite, Builtin.port, hpass, -List.isPrefixOf_iff_prefix, hstem]

theorem builtin_target {type : String} (h : isTargetType type = true) :
    (builtin.nodeType? type).map (fun t => (t.declaredPorts, t.inputs)) =
      some (false, [Builtin.port "pass" "pass"]) := by
  rw [builtin_eq]
  refine listed_passes.2.2 type ?_
  simpa [isTargetType] using h

theorem inputType?_of_listed {type : String} (ht : s.nodeType? m.type = some t) (hfixed : t.declaredPorts = false)
    (hport : (PortSpec.find? t.inputs port).map PortSpec.type = some type) : s.inputType? m port = some type := by
  obtain ⟨spec, hspec, rfl⟩ := Option.map_eq_some_iff.1 hport
  simp [inputType?, ht, hfixed, NodeType.input?, hspec]

theorem inputType?_passInput (h : m.IsPassInput port) : builtin.inputType? m port = some "pass" := by
  rcases h with ⟨htype, hport⟩ | ⟨htype, rfl⟩
  · obtain ⟨t, ht, hfields⟩ := Option.map_eq_some_iff.1 builtin_composite
    simp only [Prod.mk.injEq] at hfields
    exact inputType?_of_listed (htype ▸ ht) hfields.1 (hfields.2.2 ▸ find?_layerPort hport)
  · obtain ⟨t, ht, hfields⟩ := Option.map_eq_some_iff.1 (builtin_target htype)
    simp only [Prod.mk.injEq] at hfields
    exact inputType?_of_listed ht hfields.1 (hfields.2 ▸ by decide)

end Schema

/-! ## Sources of passes -/

theorem isRoutedType_of_draw {type : String} (h : isDrawType type = true) : isRoutedType type = true := by
  simp [isRoutedType, h]

theorem Node.IsPassInput.not_draw {m : Node} {port : String} (h : m.IsPassInput port) : isDrawType m.type = false := by
  rw [← Bool.not_eq_true]
  intro hdraw
  rcases h with ⟨htype, -⟩ | ⟨htarget, -⟩
  · exact PlanContext.isDrawType_ne_composite hdraw htype
  · cases (PlanContext.isTargetType_of_draw hdraw).symm.trans htarget

namespace Wrap

/-- A connection between nodes that wrapping leaves alone brings a pass, if its end takes passes. -/
theorem gives_of_bareType?_none {schema : Schema} {s : Scene} {c : Connection} {n m : Node}
    (h : bareType? schema s c = none) (hn : s.indexed? c.source.node = some n) (hm : s.indexed? c.target.node = some m)
    (hinput : schema.inputType? m c.target.port = some "pass") : schema.Gives n c.source.port "pass" := by
  unfold bareType? at h
  simp only [hn, hm, hinput, if_true] at h
  split at h
  · rename_i hgiven
    rw [← Schema.outputType?_iff]
    cases houtput : schema.outputType? n c.source.port with
    | none =>
      rw [houtput] at hgiven
      exact absurd hgiven (by decide)
    | some type =>
      rw [houtput] at hgiven
      exact congrArg some hgiven
  · cases h

/-- A node whose output leads to an input of passes in a wrapped scene is a draw node or gives passes. -/
theorem autoWrap_source {s t : Scene} (hwrap : (autoWrap Schema.builtin s).result = .ok t) {c : Connection}
    (hc : c ∈ t.connections) {n m : Node} (hn : t.indexed? c.source.node = some n)
    (hm : t.indexed? c.target.node = some m) (hinput : m.IsPassInput c.target.port) :
    isDrawType n.type = true ∨ Schema.builtin.Gives n c.source.port "pass" := by
  obtain ⟨conns, nodes, extra, hmade, rfl⟩ := autoWrap_made hwrap
  have hsettles := wrapAll_settles hmade
  rcases indexed?_wrapped hn with hwrapper | ⟨hnew, hold⟩
  · exact .inl (hsettles.wrappers n hwrapper)
  rcases indexed?_wrapped hm with hwrapper | ⟨htargets, holdTarget⟩
  · cases hinput.not_draw.symm.trans (hsettles.wrappers m hwrapper)
  rcases List.mem_append.1 hc with hc | hc
  · rcases hsettles.kept c hc with ⟨-, hbare⟩ | ⟨w, hw, htarget⟩
    · exact .inr (gives_of_bareType?_none hbare hold holdTarget (Schema.inputType?_passInput hinput))
    · exact absurd htarget.symm (htargets w hw)
  · obtain ⟨w, hw, hsource⟩ := hsettles.leaving c hc
    exact absurd hsource.symm (hnew w hw)

end Wrap

/-- A node whose output leads to an input of passes is a draw node or a composition exactly if the output is not one of
passes by the declaration of the node alone. -/
theorem Scene.PreparedFrom.source_routed_iff {s : Scene} {options : PrepareOptions} {p : Prepared}
    {expanded inlined wrapped : Scene} (h : s.PreparedFrom Schema.builtin options p expanded inlined wrapped)
    {c : Connection} (hc : c ∈ p.scene.connections) {n m : Node} (hn : p.node? c.source.node = some n)
    (hm : p.node? c.target.node = some m) (hinput : m.IsPassInput c.target.port) :
    isRoutedType n.type = true ↔ ¬Schema.builtin.OwnPass n c.source.port := by
  constructor
  · exact fun hrouted => Schema.builtin_not_ownPass (.inl hrouted)
  · intro hown
    unfold Prepared.node? at hn hm
    rw [h.scene] at hc hn hm
    rcases Wrap.autoWrap_source h.wrap hc (Graph.indexed?_treeShake hn) (Graph.indexed?_treeShake hm) hinput with
      hdraw | hgives
    · exact isRoutedType_of_draw hdraw
    · exact Schema.routed_of_gives hgives hown

theorem Routes.Valid.route_iff {r : Routes} {p : Prepared} (hr : r.Valid p) {id : String} :
    (∃ q, r.route? id = some q) ↔ ∃ n, p.node? id = some n ∧ isRoutedType n.type = true := by
  constructor
  · rintro ⟨q, hq⟩
    obtain ⟨n, hn, htype, -⟩ := (hr.route_placed hq).node
    exact ⟨n, hn, htype⟩
  · rintro ⟨n, hn, htype⟩
    exact hr.route_exists hn htype

/-! ## Copies of layers -/

open PlanState

namespace PlanContext

variable {c : PlanContext} {st st' : PlanState} {n : Node} {busy : List String}

/-- A node is a layer of a composition on another target, the one given. -/
def Foreign (c : PlanContext) (x m target : String) : Prop :=
  ∃ ln lr r, c.prepared.node? x = some ln ∧ c.routes.route? x = some lr ∧ c.routes.route? m = some r ∧
    (∃ l ∈ r.layers, l.node = x) ∧ lr.domain.node ≠ r.domain.node ∧ r.domain.node = target

/-- What has been begun has its layers on other targets copied, unless it belongs to the compositions in progress. -/
def Copying (c : PlanContext) (busy : List String) (st : PlanState) : Prop :=
  ∀ m ∈ st.drawn, m ∉ busy → ∀ x target, c.Foreign x m target → (x, target) ∈ st.copied

theorem Foreign.composite (hc : c.Valid) {x m target : String} (h : c.Foreign x m target) :
    ∃ n, c.prepared.node? m = some n ∧ n.type = compositeType := by
  obtain ⟨_, _, r, _, _, hr, ⟨l, hl, -⟩, _⟩ := h
  rw [(hc.routes.route_placed hr).layers] at hl
  exact (layersOf_connection hl).1

namespace Copying

theorem mono (h : c.Copying busy st) (hdrawn : st'.drawn = st.drawn) (hcopied : ∀ k ∈ st.copied, k ∈ st'.copied) :
    c.Copying busy st' := by
  intro m hm hbusy x target hforeign
  exact hcopied _ (h m (hdrawn ▸ hm) hbusy x target hforeign)

theorem begin (h : c.Copying busy st) (id : String) : c.Copying (id :: busy) { st with drawn := id :: st.drawn } := by
  intro m hm hbusy x target hforeign
  rcases List.mem_cons.1 hm with rfl | hm
  · exact absurd List.mem_cons_self hbusy
  · exact h m hm (fun hmem => hbusy (List.mem_cons_of_mem id hmem)) x target hforeign

theorem finish {id : String} (h : c.Copying (id :: busy) st)
    (hall : ∀ x target, c.Foreign x id target → (x, target) ∈ st.copied) : c.Copying busy st := by
  intro m hm hbusy x target hforeign
  by_cases heq : m = id
  · exact hall x target (heq ▸ hforeign)
  · exact h m hm (by simpa [heq] using hbusy) x target hforeign

theorem draw (h : c.Copying busy st) {id : String} (hdrawn : st'.drawn = id :: st.drawn)
    (hcopied : st'.copied = st.copied) (hnone : ∀ x target, ¬c.Foreign x id target) : c.Copying busy st' := by
  intro m hm hbusy x target hforeign
  rw [hdrawn] at hm
  rw [hcopied]
  rcases List.mem_cons.1 hm with rfl | hm
  · exact absurd hforeign (hnone x target)
  · exact h m hm hbusy x target hforeign

end Copying

theorem copied_subset {es : List Event} (h : Emits c st st' es) : ∀ k ∈ st.copied, k ∈ st'.copied := by
  intro k hk
  rw [h.copied]
  exact List.mem_append_right _ hk

theorem draw_copying (hc : c.Valid) (hn : c.prepared.node? n.id = some n) (hdraw : isDrawType n.type = true)
    (hst : Ready c st) {u : Unit} (h : Yields (c.draw n) st u st') (hcopying : c.Copying busy st) :
    c.Copying busy st' := by
  rcases draw_planned hc hn hst h with ⟨_, rfl⟩ | ⟨_, _, _, _, _, _, hplanned, _⟩
  · exact hcopying
  · refine hcopying.draw hplanned.adds.drawn hplanned.adds.copied fun x target hforeign => ?_
    obtain ⟨m, hm, htype⟩ := hforeign.composite hc
    cases hn.symm.trans hm
    exact isDrawType_ne_composite hdraw htype

/-- A layer on another target has been copied once it has been planned. -/
theorem compose_copied {layer : String} {source target : Domain}
    (hsource : c.routes.textures.get? source.node = some source)
    (htarget : c.routes.textures.get? target.node = some target) (hst : Ready c st) {u : Unit}
    (h : Yields (compose layer source n target) st u st') : (layer, target.node) ∈ st'.copied := by
  unfold compose at h
  simp only [yields_bind, yields_get, yields_ite, PlanM.yields_debug, yields_set, PlanM.yields_ofExpr,
    List.contains_iff_mem] at h
  obtain ⟨_, st, ⟨rfl, rfl⟩, ⟨hmem, rfl⟩ | ⟨_, _, _, rfl, blend, _, ⟨_, rfl⟩, hplan⟩⟩ := h
  · exact hmem
  · have hst₁ : Ready c { st with copied := (layer, target.node) :: st.copied } :=
      ⟨hst.sound, hst.consistent, hst.targets⟩
    obtain ⟨q, hplanned, -⟩ := Effect.plan_planned hst₁ ⟨hst₁.targets _ _ htarget, by
      obtain ⟨t, ht, _⟩ := hst₁.targets _ _ hsource
      simpa using ⟨t, ht⟩, by simp⟩ hplan
    rw [hplanned.adds.copied]
    exact List.mem_cons_self

theorem layer_copied {inner : Node → PlanM Unit} (hc : c.Valid) {r : Route} {l : Layer}
    (hr : c.routes.route? n.id = some r) (hst : Ready c st) {u : Unit} (h : Yields (c.layer inner n r l) st u st')
    {target : String} (hforeign : c.Foreign l.node n.id target) : (l.node, target) ∈ st'.copied := by
  obtain ⟨ln, lr, r', hln, hlr, hr', -, hother, rfl⟩ := hforeign
  cases hr.symm.trans hr'
  unfold layer at h
  simp only [hln, hlr, hother, if_false] at h
  rw [(Prepared.node?_eq_some hln).1] at h
  exact compose_copied (hc.routes.route_placed hlr).domain (hc.routes.route_placed hr).domain hst h

/-- Planning a composition keeps copying. -/
def KeepsCopying (c : PlanContext) (inner : Node → PlanM Unit) (n : Node) : Prop :=
  ∀ st st' u busy, Ready c st → Yields (inner n) st u st' → c.Copying busy st → c.Copying busy st'

theorem layer_copying {inner : Node → PlanM Unit} (hc : c.Valid) (hn : c.prepared.node? n.id = some n)
    (htype : n.type = compositeType)
    (hinner : ∀ ln, c.prepared.node? ln.id = some ln → ln.type = compositeType → c.KeepsCopying inner ln)
    {r : Route} {l : Layer} (hr : c.routes.route? n.id = some r) (hl : l ∈ r.layers) (hst : Ready c st) {u : Unit}
    (h : Yields (c.layer inner n r l) st u st') (hcopying : c.Copying busy st) : c.Copying busy st' := by
  rcases layer_cases hr hl h with ⟨rfl, _⟩ | ⟨ln, _, hln, _, ⟨hltype, h⟩ | ⟨hdraw, h⟩⟩ |
    ⟨ln, lr, hid, hln, hlr, hother, h⟩
  · exact hcopying
  · exact hinner ln hln hltype st st' u busy hst h hcopying
  · exact draw_copying hc hln hdraw hst h hcopying
  · obtain ⟨_, hemits, hdrawn, _⟩ := compose_emits hc hln hn htype hlr hr hl hid.symm hother hst h
    exact hcopying.mono hdrawn (copied_subset hemits)

theorem layers_copying {inner : Node → PlanM Unit} (hc : c.Valid) (hn : c.prepared.node? n.id = some n)
    (htype : n.type = compositeType)
    (hemits : ∀ ln, c.prepared.node? ln.id = some ln → ln.type = compositeType → c.Composes inner ln)
    (hinner : ∀ ln, c.prepared.node? ln.id = some ln → ln.type = compositeType → c.KeepsCopying inner ln)
    {r : Route} (hr : c.routes.route? n.id = some r) {ls : List Layer} (hls : ∀ l ∈ ls, l ∈ r.layers)
    (hst : Ready c st) {u : Unit} (h : Yields (c.layers inner n r ls) st u st') (hcopying : c.Copying busy st) :
    c.Copying busy st' ∧ ∀ l ∈ ls, ∀ target, c.Foreign l.node n.id target → (l.node, target) ∈ st'.copied := by
  induction ls generalizing st with
  | nil =>
    obtain ⟨_, rfl⟩ := (yields_pure _ _ _ _).1 h
    exact ⟨hcopying, by simp⟩
  | cons l rest ih =>
    unfold layers at h
    simp only [yields_bind] at h
    obtain ⟨_, st₁, hfirst, hrest⟩ := h
    have hrest' : ∀ l' ∈ rest, l' ∈ r.layers := fun l' hl' => hls l' (List.mem_cons_of_mem l hl')
    obtain ⟨_, h₁, _⟩ := layer_emits hc hn htype hemits hr (hls l List.mem_cons_self) hst hfirst
    obtain ⟨_, h₂, _⟩ := layers_emits hc hn htype hemits hr hrest' h₁.ready hrest
    have hcopying₁ := layer_copying hc hn htype hinner hr (hls l List.mem_cons_self) hst hfirst hcopying
    obtain ⟨hcopying₂, hcopied⟩ := ih hrest' h₁.ready hrest hcopying₁
    refine ⟨hcopying₂, ?_⟩
    intro l' hl' target hforeign
    rcases List.mem_cons.1 hl' with rfl | hl'
    · exact copied_subset h₂ _ (layer_copied hc hr hst hfirst hforeign)
    · exact hcopied l' hl' target hforeign

/-- However deep compositions are nested, one that is begun has its layers on other targets copied. -/
theorem compositeWithin_copying (hc : c.Valid) {depth : Nat} (hn : c.prepared.node? n.id = some n)
    (htype : n.type = compositeType) : c.KeepsCopying (c.compositeWithin depth) n := by
  induction depth generalizing n with
  | zero =>
    intro st st' u busy hst h hcopying
    obtain ⟨_, rfl⟩ := (yields_pure _ _ _ _).1 h
    exact hcopying
  | succ depth ih =>
    intro st st' u busy hst h hcopying
    rcases yields_once.1 h with ⟨_, rfl⟩ | ⟨_, r, hr, h⟩
    · exact hcopying
    · obtain ⟨hcopying', hall⟩ := layers_copying hc hn htype
        (fun ln hln hltype => compositeWithin_emits hc hln hltype) (fun ln hln hltype => ih hln hltype) hr
        (fun _ hl => hl) (ready_drawn hst (n.id :: st.drawn)) h (hcopying.begin n.id)
      refine hcopying'.finish fun x target hforeign => ?_
      obtain ⟨_, _, r', _, _, hr', ⟨l, hl, rfl⟩, _⟩ := id hforeign
      cases hr.symm.trans hr'
      exact hall l hl target hforeign

theorem node_copying (hc : c.Valid) (hn : c.prepared.node? n.id = some n) (hst : Ready c st) {u : Unit}
    (h : Yields (c.node n) st u st') (hcopying : c.Copying [] st) : c.Copying [] st' := by
  rcases node_cases h with ⟨rfl, _⟩ | ⟨_, ⟨htype, h⟩ | ⟨hdraw, h⟩ | ⟨htype, h⟩⟩
  · exact hcopying
  · exact compositeWithin_copying hc hn htype st st' u [] hst h hcopying
  · exact draw_copying hc hn hdraw hst h hcopying
  · obtain ⟨_, hemits, hdrawn, _⟩ := clearUnwritten_emits hc hn htype hst h
    exact hcopying.mono hdrawn (copied_subset hemits)

theorem nodes_copying (hc : c.Valid) {ids : List String} (hst : Ready c st) {u : Unit}
    (h : Yields (c.nodes ids) st u st') (hcopying : c.Copying [] st) : c.Copying [] st' := by
  induction ids generalizing st with
  | nil =>
    obtain ⟨_, rfl⟩ := (yields_pure _ _ _ _).1 h
    exact hcopying
  | cons id rest ih =>
    unfold nodes at h
    split at h
    · rename_i n hn
      obtain ⟨_, st₁, hfirst, hrest⟩ := (yields_bind _ _ _ _ _).1 h
      have hself := Prepared.node?_self hn
      obtain ⟨_, h₁, _⟩ := node_emits hc hself hst hfirst
      exact ih h₁.ready hrest (node_copying hc hself hst hfirst hcopying)
    · exact ih hst h hcopying

end PlanContext

/-! ## What gets to a texture -/

/-- The passes of a plan bring what a node draws to a texture, in whatever order they stand: a pass of the node draws
there, or the node is a composition there and all that it takes gets to the texture in turn, or it gets to another
texture, which is copied there. -/
inductive Prepared.Carried (p : Prepared) (r : Routes) (plan : Plan) : String → String → Prop
  | drawn {n : Node} {q : Route} {w : Pass} (hn : p.node? n.id = some n) (hdraw : isDrawType n.type = true)
      (hq : r.route? n.id = some q) (hw : w ∈ plan.passes) (hnodes : w.nodes = [n.id])
      (htarget : w.target = q.domain.texture) : Carried p r plan n.id q.domain.texture
  | composed {n : Node} {q : Route} (hn : p.node? n.id = some n) (htype : n.type = compositeType)
      (hq : r.route? n.id = some q)
      (hlayers : ∀ conn ∈ p.scene.connections, conn.target.node = n.id → Layer.IsPort conn.target.port →
        conn.source.port = "pass" → (∃ lr, r.route? conn.source.node = some lr) →
          Carried p r plan conn.source.node q.domain.texture) : Carried p r plan n.id q.domain.texture
  | copied {id source target : String} {w : Pass} (hcarried : Carried p r plan id source) (hw : w ∈ plan.passes)
      (hkind : w.kind = .compose) (hlayer : w.nodes.head? = some id)
      (hreads : w.bindings.map TextureBinding.texture = [source]) (htarget : w.target = target) :
      Carried p r plan id target

/-- The texture that the passes on the inputs of a composition or a target get into. -/
def Routes.texture? (r : Routes) (m : Node) : Option String :=
  if m.type = compositeType then (r.route? m.id).map fun q => q.domain.texture
  else (r.textures.get? m.id).map Domain.texture

namespace PlanContext.History

variable {c : PlanContext} {plan : Plan} {st₀ st : PlanState} {tr : List (Nat × Event)} {ps : List Pass}

/-- A copy that has been made is a pass of the plan. -/
theorem copied_pass (hc : c.Valid) (h : c.History plan st₀ st tr ps) {x target : String}
    (hcopied : (x, target) ∈ st.copied) : ∃ lr d w, c.routes.route? x = some lr ∧
      c.routes.textures.get? target = some d ∧ w ∈ plan.passes ∧ w.kind = .compose ∧ w.nodes.head? = some x ∧
      w.bindings.map TextureBinding.texture = [lr.domain.texture] ∧ w.target = d.texture := by
  rw [h.traced.emits.copied, h.fresh.copied, List.append_nil, List.mem_reverse] at hcopied
  obtain ⟨e, he, hlayer⟩ := List.mem_filterMap.1 hcopied
  have hformed := h.event_formed he
  cases e with
  | enter m => cases hlayer
  | draw m qs => cases hlayer
  | clear m q => cases hlayer
  | copy layer m target' w =>
    cases hlayer
    obtain ⟨_, _, _, lr, r, hlr, hr, _, _, rfl, hsketch⟩ := hformed
    refine ⟨lr, r.domain, w, hlr, (hc.routes.route_placed hr).domain, ?_, congrArg Sketch.kind hsketch, ?_,
      congrArg Sketch.reads hsketch, congrArg Sketch.target hsketch⟩
    · obtain ⟨y, hy, heq⟩ := List.mem_map.1 he
      rw [h.passes]
      refine List.mem_append_left _ (List.mem_flatMap.2 ⟨y, hy, ?_⟩)
      rw [heq]
      exact List.mem_singleton_self w
    · rw [show w.nodes = [layer.id, m.id] from congrArg Sketch.nodes hsketch]
      rfl

theorem drawn_pass (hc : c.Valid) (h : c.History plan st₀ st tr ps) {n : Node} (hn : c.prepared.node? n.id = some n)
    (hdraw : isDrawType n.type = true) {r : Route} (hr : c.routes.route? n.id = some r) (hmem : n.id ∈ st.drawn) :
    ∃ w ∈ plan.passes, w.nodes = [n.id] ∧ w.target = r.domain.texture := by
  obtain ⟨init, last, hpasses, htarget, -⟩ := (h.planned_once hc hn hdraw hr hmem).last
  have hlast : last ∈ plan.passesOf n.id := hpasses ▸ List.mem_append_right init (List.mem_singleton_self last)
  obtain ⟨hw, hnodes⟩ := List.mem_filter.1 hlast
  exact ⟨last, hw, of_decide_eq_true hnodes, htarget⟩

end PlanContext.History

theorem Routes.texture?_composite {r : Routes} {m : Node} (htype : m.type = compositeType) {q : Route}
    (hq : r.route? m.id = some q) : r.texture? m = some q.domain.texture := by
  simp [texture?, htype, hq]

theorem Routes.texture?_target {r : Routes} {m : Node} (htype : isTargetType m.type = true) {d : Domain}
    (hd : r.textures.get? m.id = some d) : r.texture? m = some d.texture := by
  have hnot : m.type ≠ compositeType := by
    intro hcomposite
    rw [hcomposite] at htype
    exact absurd htype (by decide)
  simp [texture?, hnot, hd]

namespace Prepared.RoutedBy

variable {p : Prepared} {r : Routes} {id : String} {q : Route} {m : Node}

/-- A node that feeds a target leads into the texture of that. -/
theorem domain_of_target (h : p.RoutedBy r) (hq : r.route? id = some q) (hfeeds : Route.Feeds p id m)
    (htarget : isTargetType m.type = true) : q.domain = Route.targetDomain p m := by
  obtain ⟨n, hn, htype⟩ := h.routed id q hq
  obtain ⟨q', T, hq', hT, -, hdomain⟩ := h.domain id n hn htype
  cases hq.symm.trans hq'
  obtain ⟨rfl, -⟩ := Prepared.node?_eq_some hn
  cases hT with
  | wired _ _ hsingle => rw [hdomain, hsingle m hfeeds htarget]
  | inherited hunwired => cases (hunwired m hfeeds).symm.trans htarget

/-- A node that feeds no target has the domain of every composition that it feeds. -/
theorem domain_of_composite (h : p.RoutedBy r) (hq : r.route? id = some q) (hexp : q.isExplicit = false)
    (hfeeds : Route.Feeds p id m) (htype : m.type = compositeType) {qm : Route} (hqm : r.route? m.id = some qm) :
    q.domain = qm.domain := by
  obtain ⟨n, hn, hrouted⟩ := h.routed id q hq
  obtain ⟨q', T, hq', hT, -, hdomain⟩ := h.domain id n hn hrouted
  obtain ⟨qm', T', hqm', -, hunique, hdomain'⟩ := h.domain m.id m hfeeds.node? (by simp [isRoutedType, htype])
  cases hq.symm.trans hq'
  cases hqm.symm.trans hqm'
  obtain ⟨rfl, -⟩ := Prepared.node?_eq_some hn
  cases hT with
  | wired hwired htarget =>
    have hexplicit := (h.isExplicit n.id q hq).2 ⟨T, hwired, htarget⟩
    cases hexp.symm.trans hexplicit
  | inherited _ _ _ hall => rw [hdomain, hdomain', hunique T (hall m hfeeds htype)]

end Prepared.RoutedBy

namespace PlanContext.History

variable {c : PlanContext} {plan : Plan} {st₀ st : PlanState} {tr : List (Nat × Event)} {ps : List Pass}
  (hc : c.Valid) (hnodup : c.prepared.scene.nodeIds.Nodup) (hrouted : c.prepared.RoutedBy c.routes)
  (hcopying : c.Copying [] st) {conn : Connection} {m : Node} {q : Route}
include hc hnodup hrouted

/-- A draw node that feeds an input of passes is drawn, by its own turn or by the composition that it feeds. -/
theorem fed_drawn (h : c.History plan st₀ st tr ps) (hconn : conn ∈ c.prepared.scene.connections)
    (hport : conn.source.port = "pass") (hm : c.prepared.node? conn.target.node = some m)
    (hinput : m.IsPassInput conn.target.port) {n : Node} (hn : c.prepared.node? n.id = some n)
    (hid : n.id = conn.source.node) (hdraw : isDrawType n.type = true) (hq : c.routes.route? n.id = some q) :
    n.id ∈ st.drawn := by
  have hfeeds : Route.Feeds c.prepared n.id m := ⟨conn, hconn, hid.symm, hm, hport⟩
  cases hexp : q.isExplicit with
  | true => exact h.root_drawn hc hn (.inr (.inl ⟨hdraw, q, hq, hexp⟩)) (isTargetType_of_draw hdraw)
  | false =>
    rcases hinput with ⟨htype, hlayer⟩ | ⟨htarget, -⟩
    · obtain ⟨qm, hqm⟩ := hc.routes.route_exists hfeeds.node? (by simp [isRoutedType, htype])
      have hl := mem_layersOf hconn hm htype hlayer
      rw [← (hc.routes.route_placed hqm).layers] at hl
      have hplace : c.InPlace n.id m.id := ⟨qm, q, n, hqm, ⟨_, hl, hid.symm⟩, hn, hq,
        by rw [hrouted.domain_of_composite hq hexp hfeeds htype hqm], .inr ⟨hdraw, hexp⟩⟩
      exact h.traced.complete _ (h.composite_drawn hc hnodup hfeeds.node? htype) (by simp) _ hplace
    · cases hexp.symm.trans ((hrouted.isExplicit n.id q hq).2 ⟨m, hfeeds, htarget⟩)

include hcopying

/-- What gets to the domain of its node gets on to the texture of a composition or a target that the node feeds. -/
theorem fed_carried (h : c.History plan st₀ st tr ps) (hconn : conn ∈ c.prepared.scene.connections)
    (hport : conn.source.port = "pass") (hm : c.prepared.node? conn.target.node = some m)
    (hinput : m.IsPassInput conn.target.port) (hq : c.routes.route? conn.source.node = some q)
    (hcarried : c.prepared.Carried c.routes plan conn.source.node q.domain.texture) :
    ∃ texture, c.routes.texture? m = some texture ∧
      c.prepared.Carried c.routes plan conn.source.node texture := by
  have hfeeds : Route.Feeds c.prepared conn.source.node m := ⟨conn, hconn, rfl, hm, hport⟩
  rcases hinput with ⟨htype, hlayer⟩ | ⟨htarget, -⟩
  · obtain ⟨qm, hqm⟩ := hc.routes.route_exists hfeeds.node? (by simp [isRoutedType, htype])
    refine ⟨_, Routes.texture?_composite htype hqm, ?_⟩
    by_cases hsame : q.domain.node = qm.domain.node
    · have hdomain := (hc.routes.route_placed hq).domain
      rw [hsame, (hc.routes.route_placed hqm).domain] at hdomain
      rw [Option.some.inj hdomain]
      exact hcarried
    · obtain ⟨n, hn, -⟩ := hrouted.routed _ q hq
      have hl := mem_layersOf hconn hm htype hlayer
      rw [← (hc.routes.route_placed hqm).layers] at hl
      have hforeign : c.Foreign conn.source.node m.id qm.domain.node :=
        ⟨n, q, qm, hn, hq, hqm, ⟨_, hl, rfl⟩, hsame, rfl⟩
      have hcopied := hcopying m.id (h.composite_drawn hc hnodup hfeeds.node? htype) (by simp) _ _ hforeign
      obtain ⟨lr, d, w, hlr, hd, hw, hkind, hlayer, hreads, htexture⟩ := h.copied_pass hc hcopied
      cases hq.symm.trans hlr
      cases (hc.routes.route_placed hqm).domain.symm.trans hd
      exact .copied hcarried hw hkind hlayer hreads htexture
  · refine ⟨_, Routes.texture?_target htarget ((hc.routes.get?_textures m.id _).2 ⟨m, hfeeds.node?, htarget, rfl⟩), ?_⟩
    rw [← hrouted.domain_of_target hq hfeeds htarget]
    exact hcarried

/-- What a node with a route draws gets to the texture of every composition and target that it feeds. -/
theorem carried (h : c.History plan st₀ st tr ps) (hconn : conn ∈ c.prepared.scene.connections)
    (hport : conn.source.port = "pass") (hm : c.prepared.node? conn.target.node = some m)
    (hinput : m.IsPassInput conn.target.port) (hq : c.routes.route? conn.source.node = some q) :
    ∃ texture, c.routes.texture? m = some texture ∧
      c.prepared.Carried c.routes plan conn.source.node texture := by
  -- the layers of a composition have smaller ranks
  induction hk : c.prepared.rank conn.source.node using Nat.strongRecOn generalizing conn m q with
  | ind k ih =>
    refine h.fed_carried hc hnodup hrouted hcopying hconn hport hm hinput hq ?_
    obtain ⟨n, hn, htype⟩ := hrouted.routed _ q hq
    obtain ⟨hid, -⟩ := Prepared.node?_eq_some hn
    rw [← hid] at hq hn ⊢
    rcases Bool.or_eq_true_iff.1 htype with hdraw | hcomposite
    · have hdrawn := h.fed_drawn hc hnodup hrouted hconn hport hm hinput hn hid hdraw hq
      obtain ⟨w, hw, hnodes, htexture⟩ := h.drawn_pass hc hn hdraw hq hdrawn
      exact .drawn hn hdraw hq hw hnodes htexture
    · have hcomposite := beq_iff_eq.1 hcomposite
      refine .composed hn hcomposite hq fun conn' hconn' htarget hlayer hport' hroute => ?_
      obtain ⟨lr, hlr⟩ := hroute
      obtain ⟨ln, hln, -⟩ := hrouted.routed _ lr hlr
      have hlt := hc.routes.prepared.rank_lt_rank hnodup hconn' hln (htarget ▸ hn)
      rw [htarget, hid, hk] at hlt
      obtain ⟨texture, htexture, hcarried⟩ := ih _ hlt hconn' hport' (htarget ▸ hn) (.inl ⟨hcomposite, hlayer⟩) hlr rfl
      cases htexture.symm.trans (Routes.texture?_composite hcomposite hq)
      exact hcarried

end PlanContext.History

/-- In a planned scene what a node with a route draws gets to the texture of every composition and target that it
feeds. -/
theorem Scene.PlannedAs.carried {s : Scene} {schema : Schema} {options : PrepareOptions} {env : Environment}
    {p : Prepared} {r : Routes} {plan : Plan} (h : s.PlannedAs schema options env p r plan)
    (hnodup : p.scene.nodeIds.Nodup) {conn : Connection} (hconn : conn ∈ p.scene.connections)
    (hport : conn.source.port = "pass") {m : Node} (hm : p.node? conn.target.node = some m)
    (hinput : m.IsPassInput conn.target.port) {q : Route} (hq : r.route? conn.source.node = some q) :
    ∃ texture, r.texture? m = some texture ∧ p.Carried r plan conn.source.node texture := by
  have hrouted := (Prepared.resolve_domains h.prepare hnodup).2 r h.resolve
  obtain ⟨st₀, st, ps, hbuilt⟩ := PlanContext.build_stages h.valid h.build
  obtain ⟨tr, hhistory⟩ := hbuilt.history h.valid hnodup
  have hempty : (p.context r env).Copying [] st₀ := by
    intro m hm
    rw [hbuilt.fresh.drawn] at hm
    cases hm
  have hcopying := PlanContext.nodes_copying h.valid hbuilt.ready hbuilt.nodes hempty
  exact hhistory.carried h.valid hnodup hrouted hcopying hconn hport hm hinput hq

/-! ## What the plan knows of -/

/-- A node that a pass belongs to is a draw node, a composition or a target. -/
def Prepared.Drawable (p : Prepared) (id : String) : Prop :=
  ∃ n, p.node? id = some n ∧ (isRoutedType n.type = true ∨ isTargetType n.type = true)

theorem Event.Formed.drawable {c : PlanContext} {plan : Plan} (hc : c.Valid) {e : Event} (h : e.Formed c plan)
    {w : Pass} (hw : w ∈ e.passes) {id : String} (hid : id ∈ w.nodes) : c.prepared.Drawable id := by
  cases e with
  | enter n => cases hw
  | draw n qs =>
    obtain ⟨hn, hdraw, r, sources, _, _, hsketch⟩ := h
    have hmem : w.sketch ∈ c.drawSketches n r.domain.texture sources := hsketch ▸ List.mem_map_of_mem hw
    rw [show w.nodes = [n.id] from (PlanContext.drawSketches_nodes hmem).1, List.mem_singleton] at hid
    exact ⟨n, hid ▸ hn, .inl (isRoutedType_of_draw hdraw)⟩
  | copy layer n target q =>
    obtain ⟨hlayer, hn, htype, lr, _, hlr, _, _, _, _, hsketch⟩ := h
    cases List.mem_singleton.1 hw
    rw [show w.nodes = [layer.id, n.id] from congrArg Sketch.nodes hsketch] at hid
    rcases List.mem_cons.1 hid with rfl | hid
    · obtain ⟨m, hm, hrouted⟩ := hc.routes.route_iff.1 ⟨lr, hlr⟩
      exact ⟨m, hm, .inl hrouted⟩
    · exact ⟨n, List.mem_singleton.1 hid ▸ hn, .inl (by simp [isRoutedType, htype])⟩
  | clear n q =>
    obtain ⟨hn, htarget, hsketch⟩ := h
    cases List.mem_singleton.1 hw
    rw [show w.nodes = [n.id] from congrArg Sketch.nodes hsketch, List.mem_singleton] at hid
    exact ⟨n, hid ▸ hn, .inr htarget⟩

theorem Scene.PlannedAs.drawable {s : Scene} {schema : Schema} {options : PrepareOptions} {env : Environment}
    {p : Prepared} {r : Routes} {plan : Plan} (h : s.PlannedAs schema options env p r plan) {w : Pass}
    (hw : w ∈ plan.passes) {id : String} (hid : id ∈ w.nodes) : p.Drawable id := by
  obtain ⟨st₀, st, ps, hbuilt⟩ := PlanContext.build_stages h.valid h.build
  obtain ⟨es, hemits⟩ := PlanContext.nodes_emits h.valid hbuilt.ready hbuilt.nodes
  rw [hbuilt.passes, hemits.passes, hbuilt.fresh.passes, List.nil_append] at hw
  rcases List.mem_append.1 hw with hw | hw
  · obtain ⟨e, he, hw⟩ := List.mem_flatMap.1 hw
    exact (hemits.formed e he).drawable h.valid hw hid
  · obtain ⟨n, hn, htype⟩ := h.valid.routes.prepared.output_node
    rw [show w.nodes = [p.output.node] from congrArg Sketch.nodes (hbuilt.shown w hw), List.mem_singleton] at hid
    exact ⟨n, hid ▸ hn, .inr (by simp [isTargetType, htype])⟩

/-! ## Layers of compiled scenes -/

/-- What the plan makes of a connection to an input of passes: what its source draws gets to the texture, where the
source has a route and ids are distinct, and nothing of the source is in the plan where it has none. A wrapper can be
meant by a connection from a node that is missing before, and at any port; its own connection starts at its passes. -/
structure Prepared.Delivers (p : Prepared) (r : Routes) (plan : Plan) (conn : Connection) (m : Node) : Prop where
  carried : (∃ q, r.route? conn.source.node = some q) → p.scene.nodeIds.Nodup → conn.source.port = "pass" →
    ∃ texture, r.texture? m = some texture ∧ p.Carried r plan conn.source.node texture
  dropped : (¬∃ q, r.route? conn.source.node = some q) → ∀ w ∈ plan.passes, conn.source.node ∉ w.nodes

/-- Under the built-in schema, of the connections to compositions and targets at their inputs of passes, those have a
source with a route that start at a node whose output is one of passes by its type, not just by the declaration of the
node. With the built-in node compilers these get to the texture, and the others leave no trace in the plan. -/
theorem Compiler.layer_routed_iff {c : Compiler} (hc : c.schema = Schema.builtin) {s : Scene} {r : Compiled}
    (h : (c.compile s).outcome.1 = .ok r) : ∃ routes, r.prepared.resolve.outcome.1 = .ok routes ∧
      ∀ conn ∈ r.prepared.scene.connections, ∀ m, r.prepared.node? conn.target.node = some m →
        m.IsPassInput conn.target.port →
          ((∃ q, routes.route? conn.source.node = some q) ↔
            ∃ n, r.prepared.node? conn.source.node = some n ∧ ¬Schema.builtin.OwnPass n conn.source.port) ∧
          (c.registry = Registry.builtin → r.prepared.Delivers routes r.plan conn m) := by
  obtain ⟨routes, hfrom⟩ := Compiler.compile_eq_ok h
  refine ⟨routes, hfrom.resolve, fun conn hconn m hm hinput => ?_⟩
  have hprepare := hfrom.prepare
  rw [hc] at hprepare
  obtain ⟨expanded, inlined, wrapped, hprepared⟩ := Scene.prepare_eq_ok hprepare
  have hvalid := Prepared.resolve_valid (Scene.prepare_valid hprepare) hfrom.resolve
  have hiff : (∃ q, routes.route? conn.source.node = some q) ↔
      ∃ n, r.prepared.node? conn.source.node = some n ∧ ¬Schema.builtin.OwnPass n conn.source.port := by
    rw [hvalid.route_iff]
    exact exists_congr fun n => and_congr_right fun hn => hprepared.source_routed_iff hconn hn hm hinput
  refine ⟨hiff, fun hregistry => ?_⟩
  have hplanned := hfrom.planned hregistry
  constructor
  · rintro ⟨q, hq⟩ hnodup hport
    exact hplanned.carried hnodup hconn hport hm hinput hq
  · intro hunrouted w hw hmem
    obtain ⟨n, hn, htype⟩ := hplanned.drawable hw hmem
    exact hunrouted (hiff.2 ⟨n, hn, Schema.builtin_not_ownPass htype⟩)

/-- A composition of a pass and of a snippet whose output is declared as one of passes. -/
def Scene.pierced : Scene where
  nodes := [{ id := "screen", type := "Screen" }, { id := "stack", type := "Composite" },
    { id := "base", type := "RenderPass" },
    { id := "hole", type := "Expression", params := [("source", .str "1.0")]
      outputs := [{ id := "value", type := "pass" }] }]
  connections := [{ id := "c0", source := ⟨"base", "pass"⟩, target := ⟨"stack", "pass"⟩ },
    { id := "c1", source := ⟨"hole", "value"⟩, target := ⟨"stack", "dynamic_0"⟩ },
    { id := "c2", source := ⟨"stack", "pass"⟩, target := ⟨"screen", "pass"⟩ }]
  outputs := [("main", "screen")]

theorem Scene.pierced_checks : (({} : Compiler).compile Scene.pierced).outcome.1.toOption.any (fun r =>
    decide (r.plan.passes.map (fun w => (w.nodes, w.target)) = [(["base"], "scene")]) &&
      decide r.prepared.scene.nodeIds.Nodup && decide (r.prepared.scene.connections = Scene.pierced.connections) &&
      decide ((r.prepared.node? "stack").map Node.type = some compositeType) &&
      (r.prepared.resolve.outcome.1.toOption.any fun routes => (routes.route? "base").isSome &&
        (routes.route? "hole").isNone)) = true := by
  rw [Schema.builtin_eq, Registry.builtin_eq]
  decide +kernel

theorem Scene.pierced_compiled : ∃ r routes stack, (({} : Compiler).compile Scene.pierced).outcome.1 = .ok r ∧
    r.prepared.resolve.outcome.1 = .ok routes ∧
    r.plan.passes.map (fun w => (w.nodes, w.target)) = [(["base"], "scene")] ∧
    r.prepared.scene.nodeIds.Nodup ∧ r.prepared.scene.connections = Scene.pierced.connections ∧
    r.prepared.node? "stack" = some stack ∧ stack.type = compositeType ∧ (∃ q, routes.route? "base" = some q) ∧
    ¬∃ q, routes.route? "hole" = some q := by
  obtain ⟨r, hr, hchecks⟩ := (Option.any_eq_true _ _).1 Scene.pierced_checks
  simp only [Bool.and_eq_true, decide_eq_true_eq, Option.map_eq_some_iff] at hchecks
  obtain ⟨⟨⟨⟨hpasses, hnodup⟩, hconns⟩, stack, hstack, htype⟩, hresolve⟩ := hchecks
  obtain ⟨routes, hroutes, hfound⟩ := (Option.any_eq_true _ _).1 hresolve
  obtain ⟨hbase, hhole⟩ := Bool.and_eq_true_iff.1 hfound
  refine ⟨r, routes, stack, eq_ok_of_toOption hr, eq_ok_of_toOption hroutes, hpasses, hnodup, hconns, hstack, htype,
    Option.isSome_iff_exists.1 hbase, ?_⟩
  rintro ⟨q, hq⟩
  rw [hq] at hhole
  cases hhole

/-- The pass gets to the texture of the scene, and of the snippet nothing is in the plan. -/
theorem Scene.pierced_delivers : ∃ r routes, (({} : Compiler).compile Scene.pierced).outcome.1 = .ok r ∧
    r.prepared.resolve.outcome.1 = .ok routes ∧ (∃ texture, r.prepared.Carried routes r.plan "base" texture) ∧
    ∀ w ∈ r.plan.passes, "hole" ∉ w.nodes := by
  obtain ⟨r, routes, stack, hr, hroutes, -, hnodup, hconns, hstack, htype, hbase, hhole⟩ := Scene.pierced_compiled
  obtain ⟨routes', hroutes', hlayers⟩ := Compiler.layer_routed_iff (c := {}) rfl hr
  cases hroutes.symm.trans hroutes'
  rw [hconns] at hlayers
  have hcarried := ((hlayers { id := "c0", source := ⟨"base", "pass"⟩, target := ⟨"stack", "pass"⟩ }
    (by simp [Scene.pierced]) stack hstack (.inl ⟨htype, .inl rfl⟩)).2 rfl).carried hbase hnodup rfl
  have hdropped := ((hlayers { id := "c1", source := ⟨"hole", "value"⟩, target := ⟨"stack", "dynamic_0"⟩ }
    (by simp [Scene.pierced]) stack hstack (.inl ⟨htype, .inr (by decide)⟩)).2 rfl).dropped hhole
  obtain ⟨texture, -, hcarried⟩ := hcarried
  exact ⟨r, routes, hr, hroutes, ⟨texture, hcarried⟩, hdropped⟩

/-- A scene that compiles, with a layer whose source has no route and of which nothing is drawn. -/
theorem Scene.pierced_drops : ∃ r routes, (({} : Compiler).compile Scene.pierced).outcome.1 = .ok r ∧
    r.prepared.resolve.outcome.1 = .ok routes ∧
    (∃ conn ∈ r.prepared.scene.connections, ∃ m, r.prepared.node? conn.target.node = some m ∧
      m.IsPassInput conn.target.port ∧ ¬∃ q, routes.route? conn.source.node = some q) ∧
    r.plan.passes.map (fun w => (w.nodes, w.target)) = [(["base"], "scene")] := by
  obtain ⟨r, routes, stack, hr, hroutes, hpasses, -, hconns, hstack, htype, -, hhole⟩ := Scene.pierced_compiled
  refine ⟨r, routes, hr, hroutes, ⟨{ id := "c1", source := ⟨"hole", "value"⟩, target := ⟨"stack", "dynamic_0"⟩ }, ?_,
    stack, hstack, .inl ⟨htype, .inr (by decide)⟩, hhole⟩, hpasses⟩
  rw [hconns]
  simp [Scene.pierced]

end SceneGraph
