import SceneGraph.Proofs.Queued

/-!
# Independent edits

Two clients edit one scene by deltas. Where they touch different nodes and different connections, and neither wires
anything to what the other touches, it makes no difference whose message comes first. After each message the
dangling connections are pruned, so an old connection could be lost in one order and kept in the other. It is not:
its ends were there before, and a delta of the other client neither takes them away nor brings them back.

* `Cache.edit`: a delta is applied, and what dangles is pruned.
* `Delta.Apart`: the deltas have nothing to do with each other.
* `Cache.mem_connections_edit`: the connections after a delta.
* `Cache.nodes_edit_edit`, `Cache.connections_edit_edit`: two deltas in either order.
* `Engine.edits_commute`: two messages in either order, after any session.
-/
set_option autoImplicit false

namespace SceneGraph

/-- Two deltas touch different nodes and different connections, and neither gives a connection with an end that the
other touches. -/
structure Delta.Apart (d d' : Delta) : Prop where
  nodes : ∀ k ∈ Live.touched Node.id d.nodes, k ∉ Live.touched Node.id d'.nodes
  connections : ∀ k ∈ Live.touched Connection.id d.connections, k ∉ Live.touched Connection.id d'.connections
  left : ∀ x ∈ d.connections.added ++ d.connections.updated,
    x.source.node ∉ Live.touched Node.id d'.nodes ∧ x.target.node ∉ Live.touched Node.id d'.nodes
  right : ∀ x ∈ d'.connections.added ++ d'.connections.updated,
    x.source.node ∉ Live.touched Node.id d.nodes ∧ x.target.node ∉ Live.touched Node.id d.nodes

theorem Delta.Apart.symm {d d' : Delta} (h : d.Apart d') : d'.Apart d where
  nodes k hk hk' := h.nodes k hk' hk
  connections k hk hk' := h.connections k hk' hk
  left := h.right
  right := h.left

namespace Cache

/-! ## One delta -/

/-- Applies a delta and prunes what dangles. -/
def edit (c : Cache) (d : Delta) : Cache := (c.applyDelta d).prune

variable {c : Cache} {d d' : Delta}

theorem Keyed.edit (h : c.Keyed) (d : Delta) : (c.edit d).Keyed := (h.applyDelta d).prune

theorem mem_nodes_edit (h : c.Keyed) {n : Node} : n ∈ (c.edit d).contents.nodes ↔
    Live.latest? Node.id (d.nodes.added ++ d.nodes.updated) n.id = some n ∨
      n.id ∉ Live.touched Node.id d.nodes ∧ n ∈ c.contents.nodes :=
  Live.mem_applyEdits h.nodes

theorem mem_connections_edit (h : c.Keyed) {x : Connection} : x ∈ (c.edit d).contents.connections ↔
    (Live.latest? Connection.id (d.connections.added ++ d.connections.updated) x.id = some x ∨
      x.id ∉ Live.touched Connection.id d.connections ∧ x ∈ c.contents.connections) ∧
    x.source.node ∈ (c.edit d).contents.nodeIds ∧ x.target.node ∈ (c.edit d).contents.nodeIds := by
  have hkept : x ∈ (c.edit d).contents.connections ↔ x ∈ (c.applyDelta d).contents.connections ∧
      isAttached (c.applyDelta d).contents x = true := List.mem_filter
  have hedited : x ∈ (c.applyDelta d).contents.connections ↔
      Live.latest? Connection.id (d.connections.added ++ d.connections.updated) x.id = some x ∨
        x.id ∉ Live.touched Connection.id d.connections ∧ x ∈ c.contents.connections :=
    Live.mem_applyEdits h.connections
  rw [hkept, hedited, isAttached_iff]
  rfl

/-- A delta neither takes away nor brings back a node that it does not touch. -/
theorem mem_nodeIds_edit (h : c.Keyed) {k : String} (hfree : k ∉ Live.touched Node.id d.nodes) :
    k ∈ (c.edit d).contents.nodeIds ↔ k ∈ c.contents.nodeIds := by
  have hids : k ∈ (c.edit d).contents.nodeIds ↔ k ∈ (d.nodes.added ++ d.nodes.updated).map Node.id ∨
      k ∉ Live.touched Node.id d.nodes ∧ k ∈ c.contents.nodeIds := Live.mem_map_applyEdits h.nodes
  have hgiven : k ∉ (d.nodes.added ++ d.nodes.updated).map Node.id := fun hk =>
    hfree (List.mem_append_right _ hk)
  rw [hids]
  exact ⟨fun hk => (hk.resolve_left hgiven).2, fun hk => .inr ⟨hfree, hk⟩⟩

/-! ## Two deltas -/

theorem nodes_edit_edit (h : c.Keyed) (hapart : d.Apart d') :
    ((c.edit d).edit d').contents.nodes.Perm ((c.edit d').edit d).contents.nodes := by
  have hnodup := ((h.edit d).edit d').nodes.of_map
  have hnodup' := ((h.edit d').edit d).nodes.of_map
  rw [List.perm_ext_iff_of_nodup hnodup hnodup']
  intro n
  rw [mem_nodes_edit (h.edit d), mem_nodes_edit h, mem_nodes_edit (h.edit d'), mem_nodes_edit h]
  -- What a delta gives is touched by it, so the other one leaves it alone.
  have hleft := fun hn => hapart.nodes n.id (Live.mem_touched_of_latest? (x := n) hn)
  have hright := fun hn => hapart.symm.nodes n.id (Live.mem_touched_of_latest? (x := n) hn)
  tauto

theorem nodeIds_edit_edit (h : c.Keyed) (hapart : d.Apart d') {k : String} :
    k ∈ ((c.edit d).edit d').contents.nodeIds ↔ k ∈ ((c.edit d').edit d).contents.nodeIds :=
  ((nodes_edit_edit h hapart).map Node.id).mem_iff

/-- A node that stood there before and stands there after both deltas stands there after one of them. -/
theorem mem_nodeIds_between (h : c.Keyed) (hapart : d.Apart d') {k : String} (hold : k ∈ c.contents.nodeIds)
    (hnew : k ∈ ((c.edit d).edit d').contents.nodeIds) : k ∈ (c.edit d').contents.nodeIds := by
  by_cases hk : k ∈ Live.touched Node.id d'.nodes
  · -- The second delta touches it, so the first one does not.
    have hfree : k ∉ Live.touched Node.id d.nodes := hapart.symm.nodes k hk
    rwa [nodeIds_edit_edit h hapart, mem_nodeIds_edit (h.edit d') hfree] at hnew
  · rwa [mem_nodeIds_edit h hk]

theorem connections_edit_edit_subset (h : c.Keyed) (hjoined : c.dangling = []) (hapart : d.Apart d') :
    ((c.edit d).edit d').contents.connections ⊆ ((c.edit d').edit d).contents.connections := by
  intro x hx
  obtain ⟨hx, hsource, htarget⟩ := (mem_connections_edit (h.edit d)).1 hx
  rw [mem_connections_edit (h.edit d'), mem_connections_edit h, ← nodeIds_edit_edit h hapart,
    ← nodeIds_edit_edit h hapart]
  refine ⟨?_, hsource, htarget⟩
  rcases hx with hlatest | ⟨hfree', hx⟩
  · -- The second delta gave it, with ends that the first one does not touch.
    have hfree := hapart.symm.connections x.id (Live.mem_touched_of_latest? hlatest)
    obtain ⟨hsource', htarget'⟩ := hapart.right x (Live.mem_of_latest? hlatest)
    rw [nodeIds_edit_edit h hapart, mem_nodeIds_edit (h.edit d') hsource'] at hsource
    rw [nodeIds_edit_edit h hapart, mem_nodeIds_edit (h.edit d') htarget'] at htarget
    exact .inr ⟨hfree, .inl hlatest, hsource, htarget⟩
  · obtain ⟨hlatest | ⟨hfree, hold⟩, -⟩ := (mem_connections_edit h).1 hx
    · exact .inl hlatest
    · -- It stood there before, and so did its ends.
      obtain ⟨hsource', htarget'⟩ := (isAttached_iff _ x).1 ((dangling_eq_nil_iff c).1 hjoined x hold)
      exact .inr ⟨hfree, .inr ⟨hfree', hold⟩, mem_nodeIds_between h hapart hsource' hsource,
        mem_nodeIds_between h hapart htarget' htarget⟩

theorem connections_edit_edit (h : c.Keyed) (hjoined : c.dangling = []) (hapart : d.Apart d') :
    ((c.edit d).edit d').contents.connections.Perm ((c.edit d').edit d).contents.connections := by
  have hnodup := ((h.edit d).edit d').connections.of_map
  have hnodup' := ((h.edit d').edit d).connections.of_map
  rw [List.perm_ext_iff_of_nodup hnodup hnodup']
  intro x
  constructor
  · intro hx
    exact connections_edit_edit_subset h hjoined hapart hx
  · intro hx
    exact connections_edit_edit_subset h hjoined hapart.symm hx

theorem plain_edit (h : d.outputs = none ∧ d.version = "") :
    (c.edit d).contents.outputs = c.contents.outputs ∧ (c.edit d).contents.version = c.contents.version := by
  have houtputs : (c.edit d).contents.outputs = d.outputs.getD c.contents.outputs := rfl
  have hversion : (c.edit d).contents.version = if d.version = "" then c.contents.version else d.version := rfl
  rw [houtputs, hversion, h.1, Option.getD_none, if_pos h.2]
  exact ⟨rfl, rfl⟩

end Cache

/-! ## Two messages -/

namespace Engine

variable {ε ρ : Type}

/-- The message that carries a delta. -/
def editMessage (d : Delta) : Message := { type := "delta", delta := some d }

theorem submit?_editMessage (e : Engine ρ) (d : Delta) : ∃ log, e.submit? (editMessage d) =
    some ({ e with cache := e.cache.edit d, queue := e.queue.offer (e.cache.edit d).materialize }, log) := ⟨_, rfl⟩

/-- Whatever happened in a session, two deltas that have nothing to do with each other and carry neither outputs nor
a version can be sent in either order. Both orders lead to caches that hold every id once, with the same nodes, the
same connections, the same outputs and the same version. -/
theorem edits_commute (b : Backend ε ρ) (events : List Event) {d d' : Delta}
    (hplain : d.outputs = none ∧ d.version = "") (hplain' : d'.outputs = none ∧ d'.version = "")
    (hapart : d.Apart d') :
    ∃ e₁ e₂ e₁₂ e₂₁ l₁ l₂ l₁₂ l₂₁,
      (({} : Engine ρ).run b events).submit? (editMessage d) = some (e₁, l₁) ∧
      e₁.submit? (editMessage d') = some (e₁₂, l₁₂) ∧
      (({} : Engine ρ).run b events).submit? (editMessage d') = some (e₂, l₂) ∧
      e₂.submit? (editMessage d) = some (e₂₁, l₂₁) ∧
      e₁₂.cache.Keyed ∧ e₂₁.cache.Keyed ∧
      e₁₂.cache.contents.nodes.Perm e₂₁.cache.contents.nodes ∧
      e₁₂.cache.contents.connections.Perm e₂₁.cache.contents.connections ∧
      e₁₂.cache.contents.outputs = e₂₁.cache.contents.outputs ∧
      e₁₂.cache.contents.version = e₂₁.cache.contents.version := by
  have hkeyed : (({} : Engine ρ).run b events).cache.Keyed := keyed_run b Cache.keyed_empty events
  have hjoined : (({} : Engine ρ).run b events).cache.dangling = [] := dangling_run b rfl events
  generalize ({} : Engine ρ).run b events = e at hkeyed hjoined ⊢
  obtain ⟨l₁, h₁⟩ := submit?_editMessage e d
  obtain ⟨l₂, h₂⟩ := submit?_editMessage e d'
  obtain ⟨l₁₂, h₁₂⟩ := submit?_editMessage
    { e with cache := e.cache.edit d, queue := e.queue.offer (e.cache.edit d).materialize } d'
  obtain ⟨l₂₁, h₂₁⟩ := submit?_editMessage
    { e with cache := e.cache.edit d', queue := e.queue.offer (e.cache.edit d').materialize } d
  refine ⟨_, _, _, _, l₁, l₂, l₁₂, l₂₁, h₁, h₁₂, h₂, h₂₁, (hkeyed.edit d).edit d', (hkeyed.edit d').edit d,
    Cache.nodes_edit_edit hkeyed hapart, Cache.connections_edit_edit hkeyed hjoined hapart, ?_⟩
  -- Neither delta says anything of outputs and version, so those of the session stay.
  obtain ⟨houtputs₁, hversion₁⟩ := Cache.plain_edit (c := e.cache) hplain
  obtain ⟨houtputs₂, hversion₂⟩ := Cache.plain_edit (c := e.cache) hplain'
  obtain ⟨houtputs₁₂, hversion₁₂⟩ := Cache.plain_edit (c := e.cache.edit d) hplain'
  obtain ⟨houtputs₂₁, hversion₂₁⟩ := Cache.plain_edit (c := e.cache.edit d') hplain
  exact ⟨(houtputs₁₂.trans houtputs₁).trans (houtputs₂₁.trans houtputs₂).symm,
    (hversion₁₂.trans hversion₁).trans (hversion₂₁.trans hversion₂).symm⟩

/-- Three nodes in a row. -/
def rowMessage : Message where
  type := "scene"
  scene := some
    { nodes := [{ id := "a", type := "Color" }, { id := "b", type := "Float" }, { id := "c", type := "Float" }]
      connections := [{ id := "ab", source := ⟨"a", "color"⟩, target := ⟨"b", "in"⟩ },
        { id := "bc", source := ⟨"b", "value"⟩, target := ⟨"c", "in"⟩ }] }

/-- The first node goes away, comes back with another type and is wired once more. -/
def headEdit : Delta where
  nodes := { removed := ["a"], added := [{ id := "a", type := "Float" }] }
  connections := { added := [{ id := "ab'", source := ⟨"a", "value"⟩, target := ⟨"b", "in"⟩ }] }

/-- The last node goes away with what hangs on it, and another one is wired in its place. -/
def tailEdit : Delta where
  nodes := { removed := ["c"], added := [{ id := "d", type := "Float" }] }
  connections := { updated := [{ id := "bd", source := ⟨"b", "value"⟩, target := ⟨"d", "in"⟩ }] }

theorem headEdit_apart : headEdit.Apart tailEdit where
  nodes := by decide
  connections := by decide
  left := by decide
  right := by decide

/-- In both orders the same nodes and connections remain, though they stand in different places. -/
theorem headEdit_commutes : ∃ e₁ e₂ e₁₂ e₂₁ l₁ l₂ l₁₂ l₂₁,
    (({} : Engine Picture).run ({} : Compiler).backend [.submit rowMessage]).submit? (editMessage headEdit) =
      some (e₁, l₁) ∧
    e₁.submit? (editMessage tailEdit) = some (e₁₂, l₁₂) ∧
    (({} : Engine Picture).run ({} : Compiler).backend [.submit rowMessage]).submit? (editMessage tailEdit) =
      some (e₂, l₂) ∧
    e₂.submit? (editMessage headEdit) = some (e₂₁, l₂₁) ∧
    e₁₂.cache.contents.nodes.Perm e₂₁.cache.contents.nodes ∧
    e₁₂.cache.contents.connections.Perm e₂₁.cache.contents.connections ∧
    e₁₂.cache.contents.nodeIds = ["b", "a", "d"] ∧ e₂₁.cache.contents.nodeIds = ["b", "d", "a"] ∧
    e₁₂.cache.contents.connections.map Connection.id = ["ab", "ab'", "bd"] ∧
    e₂₁.cache.contents.connections.map Connection.id = ["ab", "bd", "ab'"] := by
  obtain ⟨e₁, e₂, e₁₂, e₂₁, l₁, l₂, l₁₂, l₂₁, h₁, h₁₂, h₂, h₂₁, -, -, hnodes, hconns, -⟩ :=
    edits_commute ({} : Compiler).backend [.submit rowMessage] (d := headEdit) ⟨rfl, rfl⟩ ⟨rfl, rfl⟩ headEdit_apart
  refine ⟨e₁, e₂, e₁₂, e₂₁, l₁, l₂, l₁₂, l₂₁, h₁, h₁₂, h₂, h₂₁, hnodes, hconns, ?_⟩
  cases h₁
  cases h₁₂
  cases h₂
  cases h₂₁
  decide +kernel

end Engine

end SceneGraph
