import SceneGraph.Proofs.Names
import SceneGraph.Proofs.Order
import SceneGraph.Proofs.Run

/-!
# Facts about prepared scenes

What preparation establishes and planning relies on: the order is topological, the names are those of
the scene, and the output is a screen.

* `Prepared.Valid`: these facts of a prepared scene.
* `Scene.prepare_valid`: preparation establishes them.
* `Prepared.rank`: the place of a node in the order; connections raise it.
-/
set_option autoImplicit false

namespace SceneGraph

/-! ## Lookup by id -/

theorem Scene.indexed?_eq_some {s : Scene} {id : String} {n : Node} (h : s.indexed? id = some n) :
    n.id = id ∧ n ∈ s.nodes := by
  have hid := List.find?_some h
  exact ⟨by simpa using hid, List.mem_reverse.1 (List.mem_of_find?_eq_some h)⟩

theorem Scene.indexed?_isSome {s : Scene} {id : String} : (∃ n, s.indexed? id = some n) ↔ id ∈ s.nodeIds := by
  constructor
  · rintro ⟨n, hn⟩
    obtain ⟨rfl, hmem⟩ := Scene.indexed?_eq_some hn
    exact List.mem_map_of_mem hmem
  · intro h
    obtain ⟨n, hn, hid⟩ := List.mem_map.1 h
    apply Option.isSome_iff_exists.1
    exact List.find?_isSome.2 ⟨n, List.mem_reverse.2 hn, by simpa using hid⟩

/-! ## Runs of the preparation -/

/-- The steps of a successful preparation. -/
structure Scene.PreparedFrom (s : Scene) (schema : Schema) (options : PrepareOptions) (p : Prepared)
    (expanded inlined wrapped : Scene) : Prop where
  expand : (Groups.expand options.maxGroupDepth s).result = .ok expanded
  recheck : Prepare.recheck schema (Groups.expand options.maxGroupDepth s).count expanded = .ok ()
  inline : (Images.inline schema expanded).result = .ok inlined
  wrap : (Wrap.autoWrap schema inlined).result = .ok wrapped
  scene : p.scene = Graph.treeShake wrapped
  order : Graph.topologicalOrder p.scene = .ok p.order
  baked : Bake.constants options.face p.scene p.order = .ok p.baked
  output : Output.resolve p.scene options.resolution = .ok p.output
  names : p.names = Names.ofScene p.scene p.output.node
  schema : p.schema = schema

theorem Prepare.yields_stepped {α : Type} (r : Except StepError α) (s t : List LogEntry) (a : α) :
    Yields (Prepare.stepped r) s a t ↔ r = .ok a ∧ t = s := by
  cases r with
  | ok b => simp [Prepare.stepped, eq_comm]
  | error e => simp [Prepare.stepped]

theorem Prepare.ordered_eq_ok (s : Scene) (order : List String) (h : Prepare.ordered s = .ok order) :
    Graph.topologicalOrder s = .ok order := by
  unfold Prepare.ordered at h
  split at h
  · rename_i o ho
    cases h
    exact ho
  · cases h

theorem Scene.prepare_eq_ok {s : Scene} {schema : Schema} {options : PrepareOptions} {p : Prepared}
    (h : (s.prepare schema options).outcome.1 = .ok p) :
    ∃ expanded inlined wrapped, s.PreparedFrom schema options p expanded inlined wrapped := by
  obtain ⟨log, hrun⟩ := (outcome_eq_ok _ _).1 h
  unfold Scene.prepare Prepare.counted at hrun
  simp only [yields_bind, yields_ofExcept, Prepare.yields_stepped, yields_debug, yields_pure] at hrun
  obtain ⟨expanded, _, ⟨hexpand, _⟩, _, _, ⟨hrecheck, _⟩, _, _, _, inlined, _, ⟨hinline, _⟩, _, _, _, wrapped,
    _, ⟨hwrap, _⟩, _, _, _, order, _, ⟨horder, _⟩, baked, _, ⟨hbaked, _⟩, _, _, _, output, _, ⟨houtput, _⟩, _, _,
    _, rfl, _⟩ := hrun
  exact ⟨expanded, inlined, wrapped, hexpand, hrecheck, hinline, hwrap, rfl,
    Prepare.ordered_eq_ok _ _ horder, hbaked, houtput, rfl, rfl⟩

theorem Scene.PreparedFrom.prepare {s : Scene} {schema : Schema} {options : PrepareOptions} {p : Prepared}
    {expanded inlined wrapped : Scene} (h : s.PreparedFrom schema options p expanded inlined wrapped) :
    ∃ stats, (s.prepare schema options).outcome.1 = .ok { p with stats } := by
  have horder : Prepare.ordered (Graph.treeShake wrapped) = .ok p.order := by
    unfold Prepare.ordered
    rw [← h.scene, h.order]
  have hbaked := h.scene ▸ h.baked
  have houtput := h.scene ▸ h.output
  have hnames : Names.ofScene (Graph.treeShake wrapped) p.output.node = p.names := by rw [h.names, h.scene]
  have hrun : ∃ stats log, Yields (s.prepare schema options) [] { p with stats } log := by
    unfold Scene.prepare Prepare.counted
    simp only [yields_bind, yields_ofExcept, Prepare.yields_stepped, yields_debug, yields_pure]
    apply Exists.intro
    apply Exists.intro
    refine ⟨expanded, _, ⟨h.expand, rfl⟩, (), _, ⟨h.recheck, rfl⟩, (), _, rfl, inlined, _, ⟨h.inline, rfl⟩, (), _, rfl,
      wrapped, _, ⟨h.wrap, rfl⟩, (), _, rfl, p.order, _, ⟨horder, rfl⟩, p.baked, _, ⟨hbaked, rfl⟩, (), _, rfl,
      p.output, _,
      ⟨houtput, rfl⟩, (), _, rfl, ?_, rfl⟩
    rw [hnames, ← h.scene, ← h.schema]
  obtain ⟨stats, log, hrun⟩ := hrun
  exact ⟨stats, (outcome_eq_ok _ _).2 ⟨log, hrun⟩⟩

/-! ## Valid prepared scenes -/

namespace Prepared

/-- The order is topological, the names are those of the scene, and the output is a screen with the
reserved texture. -/
structure Valid (p : Prepared) : Prop where
  order : Graph.topologicalOrder p.scene = .ok p.order
  names : p.names = Names.ofScene p.scene p.output.node
  baked : ∃ face, Bake.constants face p.scene p.order = .ok p.baked
  output_node : ∃ n, p.node? p.output.node = some n ∧ n.type = screenType
  output_texture : p.output.texture = Names.sceneTexture

end Prepared

theorem Output.resolve_eq_ok {s : Scene} {fallback : Size} {o : SceneOutput}
    (h : Output.resolve s fallback = .ok o) :
    (∃ n, s.indexed? o.node = some n ∧ n.type = screenType) ∧ o.texture = Names.sceneTexture := by
  unfold Output.resolve at h
  split at h
  · cases h
  · rename_i n hn
    split at h
    · cases h
    · rename_i htype
      cases hc : Output.checkSize n fallback ["width", "height"] with
      | error e => simp [hc, bind, Except.bind] at h
      | ok u =>
        simp only [hc, bind, Except.bind] at h
        cases h
        obtain ⟨hid, _⟩ := Scene.indexed?_eq_some hn
        exact ⟨⟨n, by rw [hid]; exact hn, by simpa using htype⟩, rfl⟩

/-- Preparation establishes what planning relies on. -/
theorem Scene.prepare_valid {s : Scene} {schema : Schema} {options : PrepareOptions} {p : Prepared}
    (h : (s.prepare schema options).outcome.1 = .ok p) : p.Valid := by
  obtain ⟨_, _, _, hfrom⟩ := Scene.prepare_eq_ok h
  obtain ⟨hnode, htexture⟩ := Output.resolve_eq_ok hfrom.output
  exact ⟨hfrom.order, hfrom.names, ⟨_, hfrom.baked⟩, hnode, htexture⟩

namespace Prepared

variable {p : Prepared}

theorem node?_eq_some {id : String} {n : Node} (h : p.node? id = some n) : n.id = id ∧ n ∈ p.scene.nodes :=
  Scene.indexed?_eq_some h

theorem node?_self {id : String} {n : Node} (h : p.node? id = some n) : p.node? n.id = some n := by
  obtain ⟨hid, _⟩ := node?_eq_some h
  rw [hid]
  exact h

theorem Valid.mem_order (hp : p.Valid) (id : String) : id ∈ p.order ↔ ∃ n, p.node? id = some n := by
  rw [(Graph.topologicalOrder_perm hp.order).mem_iff]
  exact Scene.indexed?_isSome.symm

/-! ## Names -/

theorem Valid.names_get? (hp : p.Valid) {id : String} {n : Node} (h : p.node? id = some n) :
    p.names.get? id = some (p.nameOf id) := by
  have hmem : id ∈ p.scene.nodeIds := Scene.indexed?_isSome.1 ⟨n, h⟩
  obtain ⟨x, hx⟩ := Names.ofScene_get? p.scene p.output.node id hmem
  rw [← hp.names] at hx
  simp [nameOf, hx]

/-- Different nodes have different names. -/
theorem Valid.nameOf_injective (hp : p.Valid) {a b : String} {n m : Node} (ha : p.node? a = some n)
    (hb : p.node? b = some m) (h : p.nameOf a = p.nameOf b) : a = b := by
  have hga := hp.names_get? ha
  have hgb := hp.names_get? hb
  rw [← h, hp.names] at hgb
  rw [hp.names] at hga
  exact Names.ofScene_injective p.scene p.output.node a b _ hga hgb

theorem Valid.nameOf_output (hp : p.Valid) : p.nameOf p.output.node = p.output.texture := by
  obtain ⟨n, hn, _⟩ := hp.output_node
  have hmem : p.output.node ∈ p.scene.nodeIds := Scene.indexed?_isSome.1 ⟨n, hn⟩
  have hget := Names.ofScene_output p.scene p.output.node hmem
  rw [nameOf, hp.names, hget, hp.output_texture]
  rfl

/-! ## Ranks -/

/-- The place of a node in the order. -/
def rank (p : Prepared) (id : String) : Nat := p.order.idxOf id

theorem Valid.rank_lt (hp : p.Valid) {id : String} {n : Node} (h : p.node? id = some n) :
    p.rank id < p.order.length :=
  List.idxOf_lt_length_iff.2 ((hp.mem_order id).2 ⟨n, h⟩)

theorem Valid.order_nodup (hp : p.Valid) (hnodup : p.scene.nodeIds.Nodup) : p.order.Nodup :=
  (Graph.topologicalOrder_perm hp.order).nodup_iff.2 hnodup

theorem Valid.order_length (hp : p.Valid) : p.order.length = p.scene.nodes.length := by
  rw [(Graph.topologicalOrder_perm hp.order).length_eq]
  simp [Scene.nodeIds]

theorem Valid.rank_injective (hp : p.Valid) {a b : String} {n : Node} (ha : p.node? a = some n)
    (h : p.rank a = p.rank b) : a = b :=
  (List.idxOf_inj ((hp.mem_order a).2 ⟨n, ha⟩)).1 h

/-- A connection between nodes leads to a higher rank. -/
theorem Valid.rank_lt_rank (hp : p.Valid) (hnodup : p.scene.nodeIds.Nodup) {c : Connection} {n m : Node}
    (hc : c ∈ p.scene.connections) (hn : p.node? c.source.node = some n)
    (hm : p.node? c.target.node = some m) : p.rank c.source.node < p.rank c.target.node :=
  Graph.idxOf_lt_idxOf hp.order hnodup c hc (Scene.indexed?_isSome.1 ⟨n, hn⟩)
    (Scene.indexed?_isSome.1 ⟨m, hm⟩)

end Prepared

end SceneGraph
