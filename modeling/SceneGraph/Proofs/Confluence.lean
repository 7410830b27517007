import SceneGraph.Proofs.Acyclic
import SceneGraph.Proofs.Compilers
import SceneGraph.Proofs.Storage

/-!
# Baking in any order

Baking a node reads the results of the nodes that are wired into it and writes results of its own. In an order in
which every connection goes forward the results that it reads are the final ones, so the final map is determined by
what each node makes of its inputs: any other such order comes to the same map, or fails as well.

* `BakedMap.get?_putAll`: what a map holds after a node has written its results.
* `Bake.node_alongside`: on maps that agree on the inputs of a node, baking it fails alike or writes the same.
* `Bake.Finished`: a map that holds for every node what baking makes of its inputs.
* `Bake.constants_confluent`: two forward orders fail together and come to the same map.
-/
set_option autoImplicit false

namespace SceneGraph

/-! ## Forward orders -/

theorem Graph.Forward.of_connections {s : Scene} {order : List String} (hperm : order.Perm s.nodeIds)
    (h : ∀ c ∈ s.connections, order.idxOf c.source.node < order.idxOf c.target.node) : Forward s order :=
  ⟨hperm, fun _ _ ⟨c, hc, hsource, htarget, _⟩ => hsource ▸ htarget ▸ h c hc⟩

/-- Nothing that is wired into a node of a forward order comes after it, or is the node itself. -/
theorem Graph.Forward.source_notMem {s : Scene} {order : List String} {id : String} (hforward : Forward s order)
    (hdistinct : s.nodeIds.Nodup) {before after : List String} (horder : order = before ++ id :: after)
    {c : Connection} (hc : c ∈ s.connections) (htarget : c.target.node = id) : c.source.node ∉ id :: after := by
  intro hmem
  subst horder
  have hid : id ∈ before ++ id :: after := List.mem_append_right _ List.mem_cons_self
  have hlt := hforward.joins c.source.node id ⟨c, hc, rfl, htarget,
    hforward.perm.mem_iff.1 (List.mem_append_right _ hmem), hforward.perm.mem_iff.1 hid⟩
  have hdisjoint := (List.nodup_append.1 (hforward.perm.nodup_iff.2 hdistinct)).2.2
  have hsource : c.source.node ∉ before := fun hb => hdisjoint _ hb _ hmem rfl
  have hid : id ∉ before := fun hb => hdisjoint _ hb _ List.mem_cons_self rfl
  rw [List.idxOf_append_of_notMem hsource, List.idxOf_append_of_notMem hid, List.idxOf_cons_self] at hlt
  omega

/-! ## Reading and writing baked results -/

namespace BakedMap

variable {m r : BakedMap} {id port : String}

/-- Puts results of one node, one after the other. -/
def putAll (m : BakedMap) (id : String) (writes : List (String × Baked)) : BakedMap :=
  writes.foldl (fun m w => m.put id w.1 w.2) m

theorem get?_putAll (m : BakedMap) (id : String) (writes : List (String × Baked)) (key : BakeKey) :
    (m.putAll id writes).get? key = ((putAll [] id writes).get? key).or (m.get? key) := by
  induction writes generalizing m with
  | nil => rfl
  | cons w rest ih =>
    have hnext : ∀ start : BakedMap, start.putAll id (w :: rest) = (start.put id w.1 w.2).putAll id rest := fun _ => rfl
    rw [hnext, hnext, ih, ih (put [] id w.1 w.2), get?_put, get?_put]
    split
    · rw [Option.or_assoc, Option.some_or]
    · have hnone : get? [] key = none := rfl
      rw [hnone, Option.or_none]

theorem get?_putAll_of_ne {writes : List (String × Baked)} {key : BakeKey} (h : key.node ≠ id) :
    (m.putAll id writes).get? key = m.get? key := by
  induction writes generalizing m with
  | nil => rfl
  | cons w rest ih =>
    have hkey : key ≠ ⟨id, w.1, w.2.kind⟩ := fun heq => h (congrArg BakeKey.node heq)
    exact ih.trans ((get?_put ..).trans (if_neg hkey))

/-- The maps hold the same results of a node. -/
def SameAt (m r : BakedMap) (id : String) : Prop := ∀ port kind, m.get? ⟨id, port, kind⟩ = r.get? ⟨id, port, kind⟩

namespace SameAt

theorem symm (h : m.SameAt r id) : r.SameAt m id := fun port kind => (h port kind).symm

theorem trans {q : BakedMap} (h : m.SameAt r id) (h' : r.SameAt q id) : m.SameAt q id :=
  fun port kind => (h port kind).trans (h' port kind)

theorem putAll (h : m.SameAt r id) (node : String) (writes : List (String × Baked)) :
    (m.putAll node writes).SameAt (r.putAll node writes) id := fun port kind => by
  rw [get?_putAll m, get?_putAll r, h port kind]

theorem value? {e : Endpoint} (h : m.SameAt r e.node) : m.value? e = r.value? e := by
  unfold BakedMap.value?
  rw [h]

theorem mesh? {e : Endpoint} (h : m.SameAt r e.node) : m.mesh? e = r.mesh? e := by
  unfold BakedMap.mesh?
  rw [h]

theorem instances? {e : Endpoint} (h : m.SameAt r e.node) : m.instances? e = r.instances? e := by
  unfold BakedMap.instances?
  rw [h]

end SameAt

/-- A mesh that is put has no part in the offsets. -/
theorem instances?_put_mesh (m : BakedMap) (node port : String) (g : Mesh) (e : Endpoint) :
    (m.put node port (.mesh g)).instances? e = m.instances? e := by
  have hkind : (⟨e.node, e.port, .instances⟩ : BakeKey) ≠ ⟨node, port, (Baked.mesh g).kind⟩ := fun heq =>
    nomatch congrArg BakeKey.kind heq
  unfold instances?
  rw [get?_put, if_neg hkind]

end BakedMap

namespace Bake

variable {face : Text.Face} {s : Scene} {m r : BakedMap} {n : Node} {id : String} {order other : List String}

/-! ## What a node reads -/

/-- The maps hold the same results of all nodes that are wired into a node. -/
def SameInputs (s : Scene) (id : String) (m r : BakedMap) : Prop :=
  ∀ c ∈ s.connections, c.target.node = id → m.SameAt r c.source.node

namespace SameInputs

theorem inputAt? (h : SameInputs s id m r) {ports : List String} {c : Connection} (hc : s.inputAt? id ports = some c) :
    m.SameAt r c.source.node :=
  h c (Scene.inputAt?_eq_some hc).1 (Scene.inputAt?_eq_some hc).2

theorem wired (h : SameInputs s id m r) (ports : List String) : wired s m id ports = wired s r id ports := by
  unfold Bake.wired
  cases hc : s.inputAt? id ports with
  | none => rfl
  | some c => exact congrArg some (h.inputAt? hc).value?

theorem input (h : SameInputs s n.id m r) (port : String) (default : List Float) :
    input s m n port default = input s r n port default := by
  unfold Bake.input
  rw [h.wired]

theorem scalar (h : SameInputs s n.id m r) (port : String) (default : Float) :
    scalar s m n port default = scalar s r n port default := by
  unfold Bake.scalar
  rw [h.input]

theorem pair (h : SameInputs s n.id m r) (port : String) (default : Float × Float) :
    pair s m n port default = pair s r n port default := by
  unfold Bake.pair
  rw [h.input]

theorem geometry (h : SameInputs s n.id m r) : geometry s m n = geometry s r n := by
  unfold Bake.geometry
  cases hc : s.inputAt? n.id ["geometry"] with
  | none => rfl
  | some c =>
    dsimp only
    rw [(h.inputAt? hc).mesh?]

theorem replaceComponents (h : SameInputs s id m r) (names : List String) (xs : List Float) :
    replaceComponents s m id names xs = replaceComponents s r id names xs := by
  induction names generalizing xs with
  | nil => rfl
  | cons name names ih =>
    cases xs with
    | nil => rfl
    | cons x xs =>
      unfold Bake.replaceComponents
      rw [h.wired, ih]

theorem fold (h : SameInputs s n.id m r) : fold s m n = fold s r n := by
  unfold Bake.fold
  simp only [h.wired, h.replaceComponents]

end SameInputs

theorem geometry_source {source : Endpoint} {g : Mesh} (h : geometry s m n = .ok (some (source, g))) :
    ∃ c, s.inputAt? n.id ["geometry"] = some c ∧ c.source = source := by
  unfold geometry at h
  cases hc : s.inputAt? n.id ["geometry"] with
  | none => simp [hc] at h
  | some c =>
    rw [hc] at h
    dsimp only at h
    split at h
    · exact ⟨c, rfl, (Prod.mk.inj (Option.some.inj (Except.ok.inj h))).1⟩
    · cases h

/-! ## What a node writes -/

/-- Two bakings of a node, from two maps: both are refused for one reason, or both write the same results. -/
inductive Alongside (id : String) (m r : BakedMap) : Result BakedMap → Result BakedMap → Prop where
  | error (e : PrepareError) : Alongside id m r (.error e) (.error e)
  | ok (writes : List (String × Baked)) : Alongside id m r (.ok (m.putAll id writes)) (.ok (r.putAll id writes))

theorem Alongside.bind {α : Type} {x : Result α} {f g : α → Result BakedMap}
    (h : ∀ a, x = .ok a → Alongside id m r (f a) (g a)) : Alongside id m r (x >>= f) (x >>= g) := by
  cases x with
  | error e => exact .error e
  | ok a => exact h a rfl

theorem rect_alongside (h : SameInputs s n.id m r) : Alongside n.id m r (rect s m n) (rect s r n) := by
  unfold rect
  rw [h.scalar, h.scalar, h.pair]
  exact .bind fun _ _ => .bind fun _ _ => .bind fun _ _ => .ok [("geometry", .mesh _)]

theorem disc_alongside (h : SameInputs s n.id m r) : Alongside n.id m r (disc s m n) (disc s r n) := by
  unfold disc
  rw [h.scalar, h.pair]
  refine .bind fun _ _ => .bind fun _ _ => ?_
  dsimp only
  split
  · exact .error _
  · exact .ok [("geometry", .mesh _)]

theorem transform_alongside (h : SameInputs s n.id m r) :
    Alongside n.id m r (transform s m n) (transform s r n) := by
  unfold transform
  rw [h.geometry]
  refine .bind fun found hfound => ?_
  match found with
  | none => exact .error _
  | some (source, g) =>
    obtain ⟨c, hc, rfl⟩ := geometry_source hfound
    dsimp only
    rw [h.pair, h.pair, h.scalar]
    refine .bind fun shift _ => .bind fun scale _ => .bind fun turn _ => ?_
    simp only [BakedMap.instances?_put_mesh, (h.inputAt? hc).instances?]
    cases r.instances? c.source with
    | none => exact .ok [("geometry", .mesh _)]
    | some offsets => exact .ok [("geometry", .mesh _), ("geometry", .instances _)]

theorem instances_alongside (h : SameInputs s n.id m r) :
    Alongside n.id m r (instances s m n) (instances s r n) := by
  unfold instances
  rw [h.geometry, h.scalar, h.scalar, h.pair]
  refine .bind fun g _ => .bind fun count _ => .bind fun columns _ => .bind fun spacing _ => ?_
  split
  · exact .error _
  · split
    · exact .error _
    · exact .ok [("geometry", .mesh _), ("geometry", .instances _)]

theorem text_alongside : Alongside n.id m r (text face m n) (text face r n) := by
  unfold text
  split
  · exact .ok [("texture", .pixels _)]
  · exact .error _

theorem value_eq_putAll (s : Scene) (m : BakedMap) (n : Node) : value s m n = m.putAll n.id
    (match fold s m n with
    | none => []
    | some (port, xs) => (port, .value xs) ::
        if n.type = "Split" then (componentNames.zip xs).map fun c => (c.1, .value [c.2]) else []) := by
  unfold value
  cases fold s m n with
  | none => rfl
  | some found =>
    dsimp only
    split
    · rw [BakedMap.putAll, List.foldl_cons, List.foldl_map]
    · rfl

theorem node_alongside (h : SameInputs s n.id m r) : Alongside n.id m r (node face s m n) (node face s r n) := by
  unfold node
  split
  · exact rect_alongside h
  · exact disc_alongside h
  · exact transform_alongside h
  · exact instances_alongside h
  · exact text_alongside
  · rw [value_eq_putAll s m, value_eq_putAll s r, h.fold]
    exact .ok _

/-! ## Runs -/

/-- Baking a node writes results of that node alone. -/
theorem node_elsewhere {next : BakedMap} (h : node face s m n = .ok next) (hid : id ≠ n.id) : next.SameAt m id := by
  have halong : Alongside n.id m m (node face s m n) (node face s m n) := node_alongside fun _ _ _ _ _ => rfl
  rw [h] at halong
  cases halong with
  | ok writes => exact fun _ _ => BakedMap.get?_putAll_of_ne hid

theorem nodes_elsewhere (h : nodes face s order m = .ok r) (hid : id ∉ order) : r.SameAt m id := by
  induction order generalizing m with
  | nil =>
    cases h
    exact fun _ _ => rfl
  | cons first rest ih =>
    obtain ⟨hfirst, hrest⟩ := List.ne_and_not_mem_of_not_mem_cons hid
    cases hn : s.indexed? first with
    | none => exact ih (nodes_missing hn ▸ h) hrest
    | some n =>
      obtain ⟨next, hnode, hrun⟩ := (nodes_found_ok hn).1 h
      obtain ⟨rfl, -⟩ := Scene.indexed?_eq_some hn
      exact (ih hrun hrest).trans (node_elsewhere hnode hfirst)

theorem nodes_append (face : Text.Face) (s : Scene) (before after : List String) (m : BakedMap) :
    nodes face s (before ++ after) m = (nodes face s before m >>= nodes face s after) := by
  induction before generalizing m with
  | nil => rfl
  | cons first rest ih =>
    cases hn : s.indexed? first with
    | none => rw [List.cons_append, nodes_missing hn, nodes_missing hn, ih]
    | some n =>
      rw [List.cons_append, nodes_found hn, nodes_found hn]
      cases node face s m n with
      | error e => rfl
      | ok next => exact ih next

theorem nodes_append_ok {before after : List String} (h : nodes face s (before ++ after) m = .ok r) :
    ∃ middle, nodes face s before m = .ok middle ∧ nodes face s after middle = .ok r := by
  rw [nodes_append] at h
  cases hbefore : nodes face s before m with
  | error e =>
    rw [hbefore] at h
    cases h
  | ok middle => exact ⟨middle, rfl, by rwa [hbefore] at h⟩

/-! ## Finished maps -/

/-- The map holds of a node what baking makes of its inputs, where the node has no results yet. -/
def Derived (face : Text.Face) (s : Scene) (r : BakedMap) (n : Node) : Prop :=
  ∃ m next, SameInputs s n.id m r ∧ m.SameAt [] n.id ∧ node face s m n = .ok next ∧ next.SameAt r n.id

/-- A map that holds for every node what baking makes of its inputs, and nothing else. -/
structure Finished (face : Text.Face) (s : Scene) (r : BakedMap) : Prop where
  derived : ∀ id n, s.indexed? id = some n → Derived face s r n
  missing : ∀ id, id ∉ s.nodeIds → r.SameAt [] id

/-- From maps that agree on its inputs and hold no results of it, a node gets the same results. -/
theorem Derived.node (h : Derived face s r n) (hinputs : SameInputs s n.id m r) (hempty : m.SameAt [] n.id) :
    ∃ next, node face s m n = .ok next ∧ next.SameAt r n.id := by
  obtain ⟨m', next', hinputs', hempty', hnode', hnext'⟩ := h
  have halong : Alongside n.id m m' (Bake.node face s m n) (Bake.node face s m' n) :=
    node_alongside fun c hc htarget => (hinputs c hc htarget).trans (hinputs' c hc htarget).symm
  rw [hnode'] at halong
  cases halong' : Bake.node face s m n with
  | error e =>
    rw [halong'] at halong
    cases halong
  | ok next =>
    rw [halong'] at halong
    cases halong with
    | ok writes => exact ⟨_, rfl, ((hempty.trans hempty'.symm).putAll _ writes).trans hnext'⟩

/-- The result of baking in a forward order is finished: what a node read is not written again. -/
theorem finished_of_constants (hdistinct : s.nodeIds.Nodup) (hforward : Graph.Forward s order)
    (hrun : constants face s order = .ok r) : Finished face s r where
  missing id hid := nodes_elsewhere hrun fun horder => hid (hforward.perm.mem_iff.1 horder)
  derived id n hn := by
    obtain ⟨rfl, -⟩ := Scene.indexed?_eq_some hn
    have hmem : n.id ∈ order := hforward.perm.mem_iff.2 (Scene.indexed?_isSome.1 ⟨n, hn⟩)
    obtain ⟨before, after, rfl⟩ := List.append_of_mem hmem
    obtain ⟨m, hbefore, hafter⟩ := nodes_append_ok hrun
    obtain ⟨next, hnode, hrest⟩ := (nodes_found_ok hn).1 hafter
    have hnodup := hforward.perm.nodup_iff.2 hdistinct
    have hnot : n.id ∉ before := fun hb =>
      (List.nodup_append.1 hnodup).2.2 _ hb _ List.mem_cons_self rfl
    have hnot' : n.id ∉ after := (List.nodup_cons.1 (List.nodup_append.1 hnodup).2.1).1
    refine ⟨m, next, fun c hc htarget => ?_, nodes_elsewhere hbefore hnot, hnode,
      (nodes_elsewhere hrest hnot').symm⟩
    exact (nodes_elsewhere hafter (hforward.source_notMem hdistinct rfl hc htarget)).symm

/-- Baking the rest of a forward order completes a map that is finished as far as the nodes before it. -/
theorem nodes_of_finished (hdistinct : s.nodeIds.Nodup) (hforward : Graph.Forward s order)
    (hfinished : Finished face s r)
    {before after : List String} (horder : order = before ++ after) (hdone : ∀ id ∈ before, m.SameAt r id)
    (hopen : ∀ id, id ∉ before → m.SameAt [] id) :
    ∃ final, nodes face s after m = .ok final ∧ ∀ id, final.SameAt r id := by
  have hmissing : ∀ id, id ∉ order → m.SameAt r id := fun id hid =>
    (hopen id fun hb => hid (horder ▸ List.mem_append_left _ hb)).trans
      (hfinished.missing id fun hmem => hid (hforward.perm.mem_iff.2 hmem)).symm
  induction after generalizing before m with
  | nil =>
    refine ⟨m, rfl, fun id => ?_⟩
    by_cases hid : id ∈ before
    · exact hdone id hid
    · exact hmissing id (by rwa [horder, List.append_nil])
  | cons first after ih =>
    obtain ⟨n, hn⟩ := Scene.indexed?_isSome.2 (hforward.perm.mem_iff.1 (horder ▸ by simp : first ∈ order))
    obtain ⟨rfl, -⟩ := Scene.indexed?_eq_some hn
    have hinputs : SameInputs s n.id m r := fun c hc htarget => by
      have hsource := hforward.source_notMem hdistinct horder hc htarget
      by_cases hb : c.source.node ∈ before
      · exact hdone _ hb
      · exact hmissing _ (by rw [horder, List.mem_append]; exact not_or.2 ⟨hb, hsource⟩)
    have hnot : n.id ∉ before := fun hb =>
      (List.nodup_append.1 (horder ▸ hforward.perm.nodup_iff.2 hdistinct)).2.2 _ hb _ List.mem_cons_self rfl
    obtain ⟨next, hnode, hnext⟩ := (hfinished.derived _ n hn).node hinputs (hopen _ hnot)
    have hdone' : ∀ id ∈ before ++ [n.id], next.SameAt r id := fun id hid => by
      by_cases hown : id = n.id
      · exact hown ▸ hnext
      · exact (node_elsewhere hnode hown).trans (hdone id (by simpa [hown] using hid))
    have hopen' : ∀ id, id ∉ before ++ [n.id] → next.SameAt [] id := fun id hid => by
      obtain ⟨hbefore, hown⟩ := not_or.1 (mt List.mem_append.2 hid)
      exact (node_elsewhere hnode fun heq => hown (List.mem_singleton.2 heq)).trans (hopen id hbefore)
    have hrest : order = (before ++ [n.id]) ++ after := by rw [horder, List.append_assoc, List.singleton_append]
    rw [nodes_found hn, hnode]
    refine ih hrest hdone' hopen' fun id hid => (node_elsewhere hnode ?_).trans (hmissing id hid)
    rintro rfl
    exact hid (horder ▸ by simp)

/-- What baking comes to in one forward order it comes to in another. -/
theorem constants_of_ok (hdistinct : s.nodeIds.Nodup) (horder : Graph.Forward s order) (hother : Graph.Forward s other)
    (hrun : constants face s order = .ok m) : ∃ m', constants face s other = .ok m' ∧ ∀ id, m'.SameAt m id :=
  nodes_of_finished hdistinct hother (finished_of_constants hdistinct horder hrun) (List.nil_append other).symm
    (fun _ hid => absurd hid List.not_mem_nil) fun _ _ _ _ => rfl

theorem error_of_error (hdistinct : s.nodeIds.Nodup) (horder : Graph.Forward s order) (hother : Graph.Forward s other) :
    (∃ e, constants face s order = .error e) → ∃ e, constants face s other = .error e := by
  rintro ⟨e, he⟩
  cases hrun : constants face s other with
  | error e => exact ⟨e, rfl⟩
  | ok m =>
    obtain ⟨m', hrun', -⟩ := constants_of_ok hdistinct hother horder hrun
    cases he.symm.trans hrun'

/-- Of two orders of the nodes in which every connection goes forward, baking fails in both or in none, and the maps
that it comes to hold the same result under every key. -/
theorem constants_confluent (hdistinct : s.nodeIds.Nodup) (horder : Graph.Forward s order)
    (hother : Graph.Forward s other) :
    ((∃ e, constants face s order = .error e) ↔ ∃ e, constants face s other = .error e) ∧
      ∀ m m', constants face s order = .ok m → constants face s other = .ok m' → ∀ key, m.get? key = m'.get? key := by
  refine ⟨⟨error_of_error hdistinct horder hother, error_of_error hdistinct hother horder⟩, fun m m' hm hm' key => ?_⟩
  obtain ⟨m'', hrun, hsame⟩ := constants_of_ok hdistinct horder hother hm
  obtain rfl := Except.ok.inj (hrun.symm.trans hm')
  exact (hsame key.node key.port key.kind).symm

/-- A tile that is repeated on a grid and turned; the number of tiles is wired in. -/
def tiled : Scene where
  nodes := [{ id := "turned", type := "Transform2D" },
    { id := "grid", type := "Instances", params := [("columns", .num 2)] },
    { id := "tile", type := "Rect" }, { id := "count", type := "Int", params := [("value", .num 3)] }]
  connections := [{ source := ⟨"tile", "geometry"⟩, target := ⟨"grid", "geometry"⟩ },
    { source := ⟨"count", "value"⟩, target := ⟨"grid", "count"⟩ },
    { source := ⟨"grid", "geometry"⟩, target := ⟨"turned", "geometry"⟩ }]

theorem tiled_forward : Graph.Forward tiled ["tile", "count", "grid", "turned"] ∧
    Graph.Forward tiled ["count", "tile", "grid", "turned"] :=
  ⟨.of_connections (by decide) (by decide), .of_connections (by decide) (by decide)⟩

theorem tiled_confluent : tiled.nodeIds.Nodup ∧
    (constants .bitmap tiled ["tile", "count", "grid", "turned"]).toBool = true ∧
    ((∃ e, constants .bitmap tiled ["tile", "count", "grid", "turned"] = .error e) ↔
      ∃ e, constants .bitmap tiled ["count", "tile", "grid", "turned"] = .error e) ∧
    ∀ m m', constants .bitmap tiled ["tile", "count", "grid", "turned"] = .ok m →
      constants .bitmap tiled ["count", "tile", "grid", "turned"] = .ok m' → ∀ key, m.get? key = m'.get? key :=
  ⟨by decide, by decide +kernel, constants_confluent (by decide) tiled_forward.1 tiled_forward.2⟩

end Bake

end SceneGraph
