import SceneGraph.Proofs.Accepted
import SceneGraph.Proofs.LayerOrder
import SceneGraph.Proofs.Lockstep
import SceneGraph.Proofs.Order

/-!
# Reordered connections

Two scenes with the same nodes and the same connections in another order. Where no input port takes two connections,
the connection on a port, the layers of a composition, the order of the nodes and the constants are the same.

Inlining goes along the connections, one after the other. Two of them may change places where they lead to different
nodes and neither starts at the node that the other writes. Parameters are all that inlining and validation change.

* `Scene.Permuted`: the two scenes.
* `Layer.ordered_permuted`: the layers of a composition.
* `Graph.topologicalOrder_permuted`: the order of the nodes.
* `Bake.constants_permuted`: the constants.
* `Scene.Unchained`: no source of an image is given an image itself.
* `Images.inline_permuted`: inlining along reordered connections.
* `Images.inline_bare`, `Schema.validate_bare`: nodes apart from their parameters.
-/
set_option autoImplicit false

namespace SceneGraph

/-- Every input port takes at most one connection. -/
def Scene.SingleFed (s : Scene) : Prop := (s.connections.map Connection.target).Nodup

/-- Two scenes with the same nodes, where the connections of the one are those of the other in some order. -/
structure Scene.Permuted (s t : Scene) : Prop where
  nodes : s.nodes = t.nodes
  outputs : s.outputs = t.outputs
  groups : s.groups = t.groups
  connections : s.connections.Perm t.connections
  single : s.SingleFed

/-! ## Lookups -/

theorem find?_perm {α : Type} {p : α → Bool} {xs ys : List α} (h : xs.Perm ys)
    (hone : ∀ x ∈ xs, ∀ y ∈ xs, p x = true → p y = true → x = y) : xs.find? p = ys.find? p := by
  cases hx : xs.find? p with
  | none =>
    have hnone := List.find?_eq_none.1 hx
    exact (List.find?_eq_none.2 fun y hy => hnone y (h.mem_iff.2 hy)).symm
  | some x =>
    have hmem := List.mem_of_find?_eq_some hx
    cases hy : ys.find? p with
    | none => exact absurd (List.find?_some hx) (List.find?_eq_none.1 hy x (h.mem_iff.1 hmem))
    | some y =>
      have hmem' := h.mem_iff.2 (List.mem_of_find?_eq_some hy)
      exact congrArg some (hone x hmem y hmem' (List.find?_some hx) (List.find?_some hy))

theorem Endpoint.eq_of_parts {a b : Endpoint} (hnode : a.node = b.node) (hport : a.port = b.port) : a = b := by
  cases a
  cases b
  exact congrArg₂ Endpoint.mk hnode hport

namespace Scene.Permuted

variable {s t : Scene}

theorem nodeIds (h : s.Permuted t) : s.nodeIds = t.nodeIds := congrArg (List.map Node.id) h.nodes

theorem indexed? (h : s.Permuted t) : s.indexed? = t.indexed? := by
  funext id
  unfold Scene.indexed?
  rw [h.nodes]

theorem target_injective (h : s.Permuted t) {c d : Connection} (hc : c ∈ s.connections) (hd : d ∈ s.connections)
    (htarget : c.target = d.target) : c = d :=
  List.inj_on_of_nodup_map h.single hc hd htarget

theorem inputAt? (h : s.Permuted t) : s.inputAt? = t.inputAt? := by
  have hfound (id port : String) : s.inputConnection? id port = t.inputConnection? id port := by
    refine find?_perm h.connections fun c hc d hd hcp hdp => h.target_injective hc hd ?_
    simp only [Bool.and_eq_true, beq_iff_eq] at hcp hdp
    exact Endpoint.eq_of_parts (hcp.1.trans hdp.1.symm) (hcp.2.trans hdp.2.symm)
  funext id ports
  unfold Scene.inputAt?
  simp only [hfound]

end Scene.Permuted

/-! ## Layers -/

namespace Layer

/-- The layers of a composition do not depend on the order of the connections. -/
theorem ordered_permuted {s t : Scene} (h : s.Permuted t) : ordered s = ordered t := by
  funext m
  refine ordered_of_perm h.connections fun a ha b hb hport => ?_
  obtain ⟨c, hc, ⟨hcm, -⟩, rfl⟩ := mem_arrivals.1 (ordered_perm.mem_iff.1 ha)
  obtain ⟨d, hd, ⟨hdm, -⟩, rfl⟩ := mem_arrivals.1 (ordered_perm.mem_iff.1 hb)
  have htarget : c.target = d.target := Endpoint.eq_of_parts (hcm.trans hdm.symm) hport
  exact congrArg ofConnection (h.target_injective hc hd htarget)

end Layer

/-! ## The graph -/

namespace Graph

variable {s t : Scene}

theorem drain_eq_of_perm (remaining : List Nat) (edges : List (Nat × Nat)) {edges' : List (Nat × Nat)}
    (h : edges.Perm edges') : drain remaining edges = drain remaining edges' := by
  induction remaining, edges using drain_induction generalizing edges' with
  | stop remaining edges hfound =>
    have hready : isReady edges = isReady edges' := funext fun _ => h.all_eq
    rw [drain_none _ _ hfound, drain_none remaining edges' (hready ▸ hfound)]
  | take remaining edges i hfound ih =>
    have hready : isReady edges = isReady edges' := funext fun _ => h.all_eq
    rw [drain_some _ _ _ hfound, drain_some remaining edges' i (hready ▸ hfound), ih (h.filter _)]

/-- The order of the nodes does not depend on the order of the connections. -/
theorem topologicalOrder_permuted (h : s.Permuted t) : topologicalOrder s = topologicalOrder t := by
  have hids : idsAt s = idsAt t := by
    funext positions
    unfold idsAt
    rw [h.nodeIds]
  have hedges : (edges s).Perm (edges t) := by
    unfold edges
    rw [h.nodeIds]
    exact h.connections.filterMap _
  unfold topologicalOrder
  rw [h.nodes, hids, drain_eq_of_perm _ _ hedges]

theorem treeShake_permuted (h : s.Permuted t) : (treeShake s).Permuted (treeShake t) where
  nodes := by
    have hused : isUsed s = isUsed t := by
      funext id
      unfold isUsed
      rw [h.outputs, h.connections.any_eq]
    unfold treeShake
    rw [h.nodes, hused]
  outputs := h.outputs
  groups := h.groups
  connections := h.connections
  single := h.single

end Graph

theorem Output.resolve_permuted {s t : Scene} (h : s.Permuted t) : resolve s = resolve t := by
  have hscreen (outputs : Table String) : firstScreen? s outputs = firstScreen? t outputs := by
    induction outputs with
    | nil => rfl
    | cons o rest ih =>
      unfold firstScreen?
      rw [h.indexed?, ih]
  funext fallback
  unfold resolve Output.find named
  rw [h.indexed?, h.outputs, h.nodes, hscreen]

/-! ## Constants -/

namespace Bake

variable {s t : Scene}

theorem wired_permuted (h : s.Permuted t) : wired s = wired t := by
  funext m id ports
  unfold wired
  rw [h.inputAt?]

theorem input_permuted (h : s.Permuted t) : input s = input t := by
  funext m n port default
  unfold input
  rw [wired_permuted h]

theorem geometry_permuted (h : s.Permuted t) : geometry s = geometry t := by
  funext m n
  unfold geometry
  rw [h.inputAt?]

theorem replaceComponents_permuted (h : s.Permuted t) : replaceComponents s = replaceComponents t := by
  funext m id names xs
  induction names generalizing xs with
  | nil => rfl
  | cons name names ih =>
    cases xs with
    | nil => rfl
    | cons x xs =>
      unfold replaceComponents
      simp only [wired_permuted h, ih]

theorem node_permuted (face : Text.Face) (h : s.Permuted t) : node face s = node face t := by
  have hfold : Bake.fold s = Bake.fold t := by
    funext m n
    unfold Bake.fold
    rw [wired_permuted h, replaceComponents_permuted h]
  funext m n
  unfold node rect disc transform instances pair scalar value
  rw [input_permuted h, geometry_permuted h, hfold]

/-- The constants do not depend on the order of the connections. -/
theorem constants_permuted (face : Text.Face) (h : s.Permuted t) : constants face s = constants face t := by
  have hnodes (order : List String) (m : BakedMap) : nodes face s order m = nodes face t order m := by
    induction order generalizing m with
    | nil => rfl
    | cons id rest ih =>
      unfold nodes
      rw [h.indexed?, node_permuted face h]
      simp only [ih]
  exact funext fun order => hnodes order []

end Bake

/-! ## Checks -/

namespace Scene

variable {s t : Scene}

theorem checkEndpoints_of_forall {ids : List String} {i : Nat} {conns : List Connection}
    (h : ∀ c ∈ conns, c.source.node ∈ ids ∧ c.target.node ∈ ids) : checkEndpoints ids i conns = .ok () := by
  induction conns generalizing i with
  | nil => rfl
  | cons c rest ih =>
    obtain ⟨⟨hsource, htarget⟩, hrest⟩ := List.forall_mem_cons.1 h
    unfold checkEndpoints
    simp only [List.contains_iff_mem.2 hsource, List.contains_iff_mem.2 htarget]
    exact ih hrest

theorem checkStructure_permuted (h : s.Permuted t) (hs : s.checkStructure = .ok ()) : t.checkStructure = .ok () := by
  unfold checkStructure at *
  rw [← h.nodes, ← h.nodeIds, ← h.outputs]
  cases hnodes : checkNodes 0 [] s.nodes with
  | error e => simp [hnodes, bind, Except.bind] at hs
  | ok u =>
    cases hends : checkEndpoints s.nodeIds 0 s.connections with
    | error e => simp [hnodes, hends, bind, Except.bind] at hs
    | ok u =>
      rw [hnodes, hends] at hs
      rw [checkEndpoints_of_forall fun c hc => checkEndpoints_eq_ok hends c (h.connections.mem_iff.2 hc)]
      exact hs

end Scene

/-- A scene with reordered connections is valid with the other, and its normal form is the other's with reordered
connections. -/
theorem Schema.validate_permuted {schema : Schema} {s t v : Scene} (h : s.Permuted t)
    (hv : schema.validate s = .ok v) : ∃ w, schema.validate t = .ok w ∧ v.Permuted w := by
  unfold Schema.validate at *
  rw [← h.nodes, ← h.groups]
  cases hnodes : s.nodes.mapM schema.normalize with
  | error e => simp [hnodes, bind, Except.bind] at hv
  | ok nodes =>
    cases hgroups : s.groups.mapM schema.normalizeGroup with
    | error e => simp [hnodes, hgroups, bind, Except.bind] at hv
    | ok groups =>
      cases hwires : schema.checkAll nodes s.connections with
      | error e => simp [hnodes, hgroups, hwires, bind, Except.bind] at hv
      | ok u =>
        rw [hnodes, hgroups] at hv
        simp only [bind, Except.bind, hwires, pure, Except.pure, Except.ok.injEq] at hv
        have hwires' : schema.checkAll nodes t.connections = .ok () :=
          checkAll_iff.2 fun c hc => checkAll_iff.1 hwires c (h.connections.mem_iff.2 hc)
        refine ⟨{ t with nodes, groups }, ?_, ?_⟩
        · simp only [bind, Except.bind, hwires', pure, Except.pure]
        · exact hv ▸ ⟨rfl, h.outputs, rfl, h.connections, h.single⟩

/-- No node on whose image input a connection lands is the source of a connection to an image input. -/
def Scene.Unchained (s : Scene) : Prop :=
  ∀ c ∈ s.connections, ∀ d ∈ s.connections, c.target.port = "image" → d.target.port = "image" →
    c.target.node ≠ d.source.node

/-! ## Runs along lists -/

/-- A run along a list whose steps commute ends in the same state along every order of the list. -/
theorem foldlM_perm {σ α : Type} {f : σ → α → Option σ} {xs ys : List α} (h : xs.Perm ys)
    (hswap : xs.Pairwise fun x y => ∀ s, (f s x).bind (f · y) = (f s y).bind (f · x)) (s : σ) :
    xs.foldlM f s = ys.foldlM f s := by
  induction h generalizing s with
  | nil => rfl
  | cons x _ ih =>
    rw [List.foldlM_cons, List.foldlM_cons]
    exact congrArg _ (funext fun s => ih (List.pairwise_cons.1 hswap).2 s)
  | swap x y rest =>
    have hyx := (List.pairwise_cons.1 hswap).1 x List.mem_cons_self s
    simp only [List.foldlM_cons, ← bind_assoc]
    exact congrArg (· >>= _) hyx
  | trans hxy _ ih ih' =>
    have hswap' := (hxy.pairwise_iff fun hab s => (hab s).symm).1 hswap
    rw [ih hswap, ih' hswap']

/-! ## Validation -/

namespace Schema

variable {schema : Schema}

theorem validate_bare {s v : Scene} (h : schema.validate s = .ok v) : v.nodes.map bare = s.nodes.map bare := by
  unfold validate at h
  simp only [bind, Except.bind] at h
  split at h
  · cases h
  · rename_i nodes hnodes
    split at h
    · cases h
    · split at h
      · cases h
      · cases h
        exact (map_eq_of_forall₂ (mapM_eq_ok hnodes) fun _ _ hmade => (normalize_bare hmade).symm).symm

end Schema

theorem Scene.indexed?_bare {s t : Scene} (hbare : t.nodes.map Schema.bare = s.nodes.map Schema.bare) (id : String) :
    (t.indexed? id).map Schema.bare = (s.indexed? id).map Schema.bare := by
  have hfound (s : Scene) : (s.indexed? id).map Schema.bare = Schema.lastWithId? (s.nodes.map Schema.bare) id :=
    (Schema.lastWithId?_bare s.nodes id).symm
  rw [hfound, hfound, hbare]

namespace Images

variable {schema : Schema} {s t : Scene} {c d : Connection} {n m : Node}

/-! ## Writing nodes -/

/-- The scene with a node written over the last one of its id. -/
def write (s : Scene) : Option Node → Scene
  | none => s
  | some n => { s with nodes := replaceLast n s.nodes }

theorem go_find?_of_ne {id : String} (hid : id ≠ n.id) (nodes : List Node) :
    (replaceLast.go n nodes).find? (fun k => k.id == id) = nodes.find? fun k => k.id == id := by
  induction nodes with
  | nil => rfl
  | cons k rest ih =>
    unfold replaceLast.go
    split
    · rename_i hk
      simp [hk, Ne.symm hid]
    · rw [List.find?_cons, List.find?_cons, ih]

theorem indexed?_write {w : Option Node} {id : String} (hid : ∀ n, w = some n → id ≠ n.id) :
    (write s w).indexed? id = s.indexed? id := by
  cases w with
  | none => rfl
  | some n =>
    unfold write Scene.indexed? replaceLast
    rw [List.reverse_reverse]
    exact go_find?_of_ne (hid n rfl) _

theorem go_comm (hid : n.id ≠ m.id) (nodes : List Node) :
    replaceLast.go m (replaceLast.go n nodes) = replaceLast.go n (replaceLast.go m nodes) := by
  induction nodes with
  | nil => rfl
  | cons k rest ih =>
    by_cases hn : k.id = n.id
    · have hm : k.id ≠ m.id := fun h => hid (hn.symm.trans h)
      simp [replaceLast.go, hn, hid]
    · by_cases hm : k.id = m.id
      · simp [replaceLast.go, hm, Ne.symm hid]
      · simp [replaceLast.go, hn, hm, ih]

theorem write_comm {w v : Option Node} (hid : ∀ n m, w = some n → v = some m → n.id ≠ m.id) :
    write (write s w) v = write (write s v) w := by
  cases w with
  | none => rfl
  | some n =>
    cases v with
    | none => rfl
    | some m =>
      unfold write replaceLast
      simp only [List.reverse_reverse, go_comm (hid n m rfl rfl)]

/-! ## One connection -/

/-- The node that a connection writes, if it writes one; nothing where it brings no image. -/
def written? (schema : Schema) (s : Scene) (c : Connection) : Option (Option Node) :=
  if c.target.port ≠ "image" then some none
  else match s.indexed? c.target.node, s.indexed? c.source.node with
    | none, _ => some none
    | some _, none => none
    | some consumer, some source =>
      if schema.category source.type ≠ "image" then none else some (some (copyKeys source sourceKeys consumer).1)

/-- Inlines along one connection. -/
def inlined? (schema : Schema) (s : Scene) (c : Connection) : Option Scene := (written? schema s c).map (write s)

theorem inlineAll_eq_ok {conns : List Connection} {count : Nat} :
    (inlineAll schema conns count s).result = .ok t ↔ conns.foldlM (inlined? schema) s = some t := by
  induction conns generalizing count s with
  | nil => simp [inlineAll]
  | cons c rest ih =>
    rw [List.foldlM_cons]
    unfold inlineAll inlined? written?
    by_cases hport : c.target.port = "image"
    · simp only [hport, ne_eq, not_true, if_false]
      cases s.indexed? c.target.node with
      | none => exact ih
      | some consumer =>
        cases s.indexed? c.source.node with
        | none => simp
        | some source =>
          by_cases hcategory : schema.category source.type = "image"
          · simp only [hcategory, not_true, if_false]
            exact ih
          · simp [hcategory]
    · simp only [hport, ne_eq, not_false_eq_true, if_true]
      exact ih

/-- What a connection writes is the node that it leads to, with other parameters. -/
theorem written?_some {w : Node} (h : written? schema s c = some (some w)) :
    c.target.port = "image" ∧ w.id = c.target.node ∧
      ∃ old, s.indexed? w.id = some old ∧ Schema.bare w = Schema.bare old := by
  unfold written? at h
  split at h
  · cases h
  · rename_i hport
    split at h
    · cases h
    · cases h
    · rename_i consumer source htarget _
      split at h
      · cases h
      · cases h
        have hbare := copyKeys_bare source sourceKeys consumer
        have hid : (copyKeys source sourceKeys consumer).1.id = c.target.node :=
          (congrArg Node.id hbare).trans (Scene.indexed?_eq_some htarget).1
        exact ⟨not_not.1 hport, hid, consumer, hid ▸ htarget, hbare⟩

/-- A connection writes the same whether another one has been followed before. -/
theorem written?_write {w : Option Node} (hw : written? schema s c = some w) (htarget : c.target ≠ d.target)
    (hsource : c.target.port = "image" → d.target.port = "image" → c.target.node ≠ d.source.node) :
    written? schema (write s w) d = written? schema s d := by
  unfold written?
  by_cases hport : d.target.port = "image"
  · have hwritten (n : Node) (hn : w = some n) : d.target.node ≠ n.id ∧ d.source.node ≠ n.id := by
      obtain ⟨hcport, hid, -⟩ := written?_some (hn ▸ hw)
      refine ⟨fun h => htarget ?_, fun h => hsource hcport hport (hid.symm.trans h.symm)⟩
      exact Endpoint.eq_of_parts (hid.symm.trans h.symm) (hcport.trans hport.symm)
    rw [indexed?_write fun n hn => (hwritten n hn).1, indexed?_write fun n hn => (hwritten n hn).2]
  · simp only [hport, ne_eq, not_false_eq_true, if_true]

theorem inlined?_comm (htarget : c.target ≠ d.target)
    (hcd : c.target.port = "image" → d.target.port = "image" → c.target.node ≠ d.source.node)
    (hdc : d.target.port = "image" → c.target.port = "image" → d.target.node ≠ c.source.node) :
    (inlined? schema s c).bind (inlined? schema · d) = (inlined? schema s d).bind (inlined? schema · c) := by
  unfold inlined?
  cases hc : written? schema s c with
  | none =>
    cases hd : written? schema s d with
    | none => rfl
    | some v => simp [written?_write hd (Ne.symm htarget) hdc, hc]
  | some w =>
    cases hd : written? schema s d with
    | none => simp [written?_write hc htarget hcd, hd]
    | some v =>
      have hid : ∀ n m, w = some n → v = some m → n.id ≠ m.id := by
        rintro n m rfl rfl h
        obtain ⟨hcport, hn, -⟩ := written?_some hc
        obtain ⟨hdport, hm, -⟩ := written?_some hd
        exact htarget (Endpoint.eq_of_parts (hn.symm.trans (h.trans hm)) (hcport.trans hdport.symm))
      simp [written?_write hc htarget hcd, written?_write hd (Ne.symm htarget) hdc, hc, hd, write_comm hid]

theorem write_bare {w : Option Node} (hw : written? schema s c = some w) :
    (write s w).nodes.map Schema.bare = s.nodes.map Schema.bare := by
  cases w with
  | none => rfl
  | some w =>
    obtain ⟨-, -, old, hold, hsame⟩ := written?_some hw
    have hgo (nodes : List Node) (hfound : nodes.find? (fun k => k.id == w.id) = some old) :
        (replaceLast.go w nodes).map Schema.bare = nodes.map Schema.bare := by
      induction nodes with
      | nil => rfl
      | cons k rest ih =>
        unfold replaceLast.go
        split
        · rename_i hk
          rw [List.find?_cons_of_pos (by simpa using hk)] at hfound
          simp [hsame, Option.some.inj hfound]
        · rename_i hk
          rw [List.find?_cons_of_neg (by simpa using hk)] at hfound
          simp [ih hfound]
    unfold write replaceLast
    rw [List.map_reverse, hgo _ hold, List.map_reverse, List.reverse_reverse]

/-! ## All connections -/

theorem foldlM_inlined?_cons {rest : List Connection} (h : (c :: rest).foldlM (inlined? schema) s = some t) :
    ∃ w, written? schema s c = some w ∧ rest.foldlM (inlined? schema) (write s w) = some t := by
  rw [List.foldlM_cons] at h
  obtain ⟨u, hu, h⟩ := Option.bind_eq_some_iff.1 h
  obtain ⟨w, hw, rfl⟩ := Option.map_eq_some_iff.1 hu
  exact ⟨w, hw, h⟩

theorem foldlM_inlined?_bare {conns : List Connection} (h : conns.foldlM (inlined? schema) s = some t) :
    t = { s with nodes := t.nodes } ∧ t.nodes.map Schema.bare = s.nodes.map Schema.bare := by
  induction conns generalizing s with
  | nil =>
    cases h
    exact ⟨rfl, rfl⟩
  | cons c rest ih =>
    obtain ⟨w, hw, h⟩ := foldlM_inlined?_cons h
    obtain ⟨hrest, hbare⟩ := ih h
    refine ⟨?_, hbare.trans (write_bare hw)⟩
    cases w <;> exact hrest

theorem foldlM_inlined?_source {conns : List Connection} (h : conns.foldlM (inlined? schema) s = some t)
    (hc : c ∈ conns) (hport : c.target.port = "image") {n : Node} (hn : s.indexed? c.target.node = some n) :
    ∃ m, s.indexed? c.source.node = some m ∧ schema.category m.type = "image" := by
  induction conns generalizing s n with
  | nil => cases hc
  | cons d rest ih =>
    obtain ⟨w, hw, h⟩ := foldlM_inlined?_cons h
    rcases List.mem_cons.1 hc with rfl | hc
    · unfold written? at hw
      rw [if_neg (not_not.2 hport), hn] at hw
      cases hm : s.indexed? c.source.node with
      | none => simp [hm] at hw
      | some m =>
        refine ⟨m, rfl, ?_⟩
        by_contra hcategory
        simp [hm, hcategory] at hw
    · have hsame := Scene.indexed?_bare (write_bare hw)
      have hn' := hsame c.target.node
      rw [hn] at hn'
      obtain ⟨n', hn', -⟩ := Option.map_eq_some_iff.1 hn'
      obtain ⟨m', hm', hcategory⟩ := ih h hc hn'
      have hm := hsame c.source.node
      rw [hm'] at hm
      obtain ⟨m, hm, hbare⟩ := Option.map_eq_some_iff.1 hm.symm
      have htype : (Schema.bare m).type = (Schema.bare m').type := by rw [hbare]
      exact ⟨m, hm, (congrArg schema.category htype).trans hcategory⟩

theorem inline_bare (h : (inline schema s).result = .ok t) :
    t = { s with nodes := t.nodes } ∧ t.nodes.map Schema.bare = s.nodes.map Schema.bare :=
  foldlM_inlined?_bare (inlineAll_eq_ok.1 h)

theorem foldlM_inlined?_nodes {conns : List Connection} {u : Scene} (h : s.nodes = t.nodes)
    (hu : conns.foldlM (inlined? schema) s = some u) :
    conns.foldlM (inlined? schema) t = some { t with nodes := u.nodes } := by
  induction conns generalizing s t with
  | nil =>
    cases hu
    rw [h]
    rfl
  | cons c rest ih =>
    obtain ⟨w, hw, hu⟩ := foldlM_inlined?_cons hu
    have hindexed : s.indexed? = t.indexed? := by
      funext id
      unfold Scene.indexed?
      rw [h]
    have hw' : written? schema t c = some w := by
      rw [← hw]
      unfold written?
      rw [hindexed]
    have hstep : inlined? schema t c = some (write t w) := by
      unfold inlined?
      rw [hw']
      rfl
    have hnodes : (write s w).nodes = (write t w).nodes := by
      cases w with
      | none => exact h
      | some n => exact congrArg (replaceLast n) h
    rw [List.foldlM_cons, hstep]
    refine (ih hnodes hu).trans ?_
    cases w <;> rfl

/-- Inlining along reordered connections gives the same nodes. -/
theorem inline_permuted (h : s.Permuted t) (hchain : s.Unchained) {u : Scene} (hu : (inline schema s).result = .ok u) :
    ∃ v, (inline schema t).result = .ok v ∧ u.Permuted v := by
  have hswap : s.connections.Pairwise fun c d => ∀ s,
      (inlined? schema s c).bind (inlined? schema · d) = (inlined? schema s d).bind (inlined? schema · c) :=
    (List.pairwise_map.1 h.single).imp_of_mem fun hc hd htarget _ =>
      inlined?_comm htarget (hchain _ hc _ hd) (hchain _ hd _ hc)
  have hrun : t.connections.foldlM (inlined? schema) s = some u :=
    (foldlM_perm h.connections hswap s).symm.trans (inlineAll_eq_ok.1 hu)
  obtain ⟨hrest, -⟩ := inline_bare hu
  refine ⟨{ t with nodes := u.nodes }, inlineAll_eq_ok.2 (foldlM_inlined?_nodes h.nodes hrun), ?_⟩
  exact ⟨rfl, hrest ▸ h.outputs, hrest ▸ h.groups, hrest ▸ h.connections, hrest ▸ h.single⟩

end Images

end SceneGraph
