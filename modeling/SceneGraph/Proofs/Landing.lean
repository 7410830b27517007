import SceneGraph.Proofs.Prepared
import SceneGraph.Proofs.Tables

/-!
# Ports of compositions

Validation lets connections land on a composition only at the ports of its layers. It leaves out connections
from missing nodes, so this holds of the prepared scene where those, too, land on ports of layers.

* `Scene.Landed`: connections into compositions land on ports of layers.
* `Schema.checkConnections_landed`: connections that fit the schema do, except for those from missing nodes.
* `Images.inline_landed`, `Wrap.autoWrap_landed`, `Graph.treeShake_landed`: the later steps keep that.
* `Scene.PreparedFrom.landed`: the prepared scene has it.
-/
set_option autoImplicit false

namespace SceneGraph

/-- The port takes layers of a composition. -/
def Layer.IsPort (port : String) : Prop := port = "pass" ∨ Layer.isDynamic port = true

namespace Scene

/-- Connections into compositions land on ports of layers. -/
def Landed (s : Scene) : Prop :=
  ∀ conn ∈ s.connections, ∀ n, s.indexed? conn.target.node = some n → n.type = compositeType →
    Layer.IsPort conn.target.port

/-- Connections into compositions from missing nodes land on ports of layers. -/
def MissingLanded (s : Scene) : Prop :=
  ∀ conn ∈ s.connections, s.indexed? conn.source.node = none →
    ∀ n, s.indexed? conn.target.node = some n → n.type = compositeType → Layer.IsPort conn.target.port

end Scene

/-! ## Connections that fit the schema -/

namespace Schema

theorem builtin_composite : (builtin.nodeType? compositeType).map (fun t => (t.declaredPorts, t.openInputs, t.inputs)) =
    some (false, false, Builtin.composite.inputs) := by
  rw [builtin_eq]
  decide +kernel

theorem inputType?_composite {n : Node} (htype : n.type = compositeType) {port type : String}
    (h : builtin.inputType? n port = some type) : Layer.IsPort port := by
  obtain ⟨t, ht, hfields⟩ := Option.map_eq_some_iff.1 builtin_composite
  simp only [Prod.mk.injEq] at hfields
  obtain ⟨hdeclared, hopen, hinputs⟩ := hfields
  unfold inputType? at h
  simp only [htype, ht, hdeclared, hopen, Bool.false_eq_true, if_false] at h
  split at h
  · rename_i spec hspec
    unfold NodeType.input? PortSpec.find? at hspec
    rw [hinputs] at hspec
    split at hspec
    · rename_i q hq
      have hname := List.find?_some hq
      have hmem := List.mem_of_find?_eq_some hq
      simp only [Builtin.composite, Builtin.port, List.mem_cons, List.not_mem_nil, or_false] at hmem
      rcases hmem with rfl | rfl
      · exact .inl (beq_iff_eq.1 (Bool.and_eq_true_iff.1 hname).2).symm
      · simp at hname
    · have hname := List.find?_some hspec
      have hmem := List.mem_of_find?_eq_some hspec
      simp only [Builtin.composite, Builtin.port, List.mem_cons, List.not_mem_nil, or_false] at hmem
      rcases hmem with rfl | rfl
      · simp at hname
      · exact .inr (Bool.and_eq_true_iff.1 hname).2
  · cases h

theorem checkAll_ok {schema : Schema} {nodes : List Node} {conns : List Connection}
    (h : schema.checkAll nodes conns = .ok ()) {conn : Connection} (hconn : conn ∈ conns) {a b : Node}
    (ha : lastWithId? nodes conn.source.node = some a) (hb : lastWithId? nodes conn.target.node = some b) :
    schema.checkConnection a b conn = .ok () := by
  induction conns with
  | nil => cases hconn
  | cons c rest ih =>
    unfold checkAll at h
    rcases List.mem_cons.1 hconn with rfl | hconn
    · rw [ha, hb] at h
      simp only [bind, Except.bind] at h
      split at h
      · cases h
      · rename_i hok
        exact hok
    · split at h
      · simp only [bind, Except.bind] at h
        split at h
        · cases h
        · exact ih h hconn
      · exact ih h hconn

theorem checkConnections_landed {s : Scene} (h : builtin.checkConnections s = .ok ()) (hmissing : s.MissingLanded) :
    s.Landed := by
  intro conn hconn n hn htype
  cases ha : s.indexed? conn.source.node with
  | none => exact hmissing conn hconn ha n hn htype
  | some a =>
    have hcheck := checkAll_ok h hconn ha hn
    unfold checkConnection at hcheck
    split at hcheck
    · cases hcheck
    · split at hcheck
      · cases hcheck
      · rename_i hwanted
        exact inputType?_composite htype hwanted

end Schema

/-! ## Keeping it -/

/-- A scene with the same connections, in which compositions were compositions before. -/
theorem Scene.Landed.of_nodes {s t : Scene} (h : s.Landed) (hconns : ∀ conn ∈ t.connections, conn ∈ s.connections)
    (hnodes : ∀ id n, t.indexed? id = some n → ∃ m, s.indexed? id = some m ∧ m.type = n.type) : t.Landed := by
  intro conn hconn n hn htype
  obtain ⟨m, hm, hsame⟩ := hnodes _ n hn
  exact h conn (hconns conn hconn) m hm (hsame.trans htype)

theorem Graph.indexed?_treeShake {s : Scene} {id : String} {n : Node}
    (h : (treeShake s).indexed? id = some n) : s.indexed? id = some n := by
  have hid := (Scene.indexed?_eq_some h).1
  have hmem := (Scene.indexed?_eq_some h).2
  have hused : isUsed s id = true := by
    rw [← hid]
    exact (List.mem_filter.1 hmem).2
  unfold Scene.indexed? treeShake at h
  rw [← List.filter_reverse, List.find?_filter] at h
  rw [Scene.indexed?, ← h]
  congr 1
  funext m
  by_cases hm : m.id = id
  · simp [hm, hused]
  · simp [hm]

theorem Graph.treeShake_landed {s : Scene} (h : s.Landed) : (treeShake s).Landed :=
  h.of_nodes (fun _ hconn => hconn) fun _ n hn => ⟨n, indexed?_treeShake hn, rfl⟩

/-- A node without its parameters. -/
def Schema.bare (n : Node) : Node := { n with params := [] }

theorem Schema.keeps_of_bare {n m : Node} (h : bare m = bare n) : m.id = n.id ∧ m.type = n.type := by
  unfold bare at h
  simp only [Node.mk.injEq] at h
  exact ⟨h.1, h.2.1⟩

namespace Images

theorem replaceLast_go_find? (n : Node) (l : List Node) {id : String} {m : Node}
    (h : (replaceLast.go n l).find? (fun k => k.id == id) = some m) :
    ∃ k, l.find? (fun k => k.id == id) = some k ∧ (k = m ∨ k.id = n.id ∧ m = n) := by
  induction l with
  | nil => cases h
  | cons k rest ih =>
    unfold replaceLast.go at h
    rw [List.find?_cons]
    split at h
    · rename_i hk
      rw [List.find?_cons, ← hk] at h
      cases hid : k.id == id with
      | true =>
        rw [hid] at h
        cases h
        exact ⟨_, rfl, .inr ⟨hk, rfl⟩⟩
      | false =>
        rw [hid] at h
        exact ⟨m, h, .inl rfl⟩
    · rw [List.find?_cons] at h
      cases hid : k.id == id with
      | true =>
        rw [hid] at h
        exact ⟨k, rfl, .inl (Option.some.inj h)⟩
      | false =>
        rw [hid] at h
        exact ih h

/-- Replacing a node by one of its id and type changes the type of no node. -/
theorem replaceLast_type {s : Scene} {n old : Node} (hold : s.indexed? n.id = some old) (htype : old.type = n.type)
    {id : String} {m : Node} (hm : Scene.indexed? { s with nodes := replaceLast n s.nodes } id = some m) :
    ∃ k, s.indexed? id = some k ∧ k.type = m.type := by
  have hgo : (replaceLast.go n s.nodes.reverse).find? (fun k => k.id == id) = some m := by
    rw [← List.reverse_reverse (replaceLast.go n s.nodes.reverse)]
    exact hm
  obtain ⟨k, hk, rfl | ⟨hkid, rfl⟩⟩ := replaceLast_go_find? _ _ hgo
  · exact ⟨k, hk, rfl⟩
  · have hself : k.id = id := (Scene.indexed?_eq_some hk).1
    have hk' : s.indexed? id = some k := hk
    rw [← hself, hkid, hold] at hk'
    exact ⟨k, hk, (Option.some.inj hk') ▸ htype⟩

theorem replaceLast_landed {s : Scene} {n old : Node} (h : s.Landed) (hold : s.indexed? n.id = some old)
    (htype : old.type = n.type) : Scene.Landed { s with nodes := replaceLast n s.nodes } :=
  h.of_nodes (fun _ hconn => hconn) fun _ _ hm => replaceLast_type hold htype hm

theorem copyKeys_bare (source : Node) (keys : List String) (n : Node) :
    Schema.bare (copyKeys source keys n).1 = Schema.bare n := by
  induction keys generalizing n with
  | nil => rfl
  | cons key rest ih =>
    unfold copyKeys
    split
    · exact ih _
    · exact ih n

theorem inlineAll_landed {schema : Schema} {conns : List Connection} {count : Nat} {s t : Scene} (h : s.Landed)
    (hinline : (inlineAll schema conns count s).result = .ok t) : t.Landed := by
  induction conns generalizing count s with
  | nil =>
    cases hinline
    exact h
  | cons c rest ih =>
    unfold inlineAll at hinline
    split at hinline
    · exact ih h hinline
    · split at hinline
      · exact ih h hinline
      · rename_i consumer hconsumer
        split at hinline
        · cases hinline
        · rename_i source hsource
          split at hinline
          · cases hinline
          · simp only at hinline
            obtain ⟨hid, htype⟩ := Schema.keeps_of_bare (copyKeys_bare source sourceKeys consumer)
            obtain ⟨hconsumerid, _⟩ := Scene.indexed?_eq_some hconsumer
            have hold : s.indexed? (copyKeys source sourceKeys consumer).1.id = some consumer := by
              rw [hid, hconsumerid]
              exact hconsumer
            exact ih (replaceLast_landed h hold htype.symm) hinline

theorem inline_landed {schema : Schema} {s t : Scene} (h : s.Landed) (hinline : (inline schema s).result = .ok t) :
    t.Landed :=
  inlineAll_landed h hinline

end Images

/-! ## Wrapping -/

theorem Schema.fillDefaults_bare {params : Table ParamSpec} {n m : Node} (h : fillDefaults params n = .ok m) :
    bare m = bare n := by
  induction params generalizing n with
  | nil =>
    cases h
    rfl
  | cons e rest ih =>
    unfold fillDefaults at h
    split at h
    · exact ih h
    · split at h
      · cases h
      · split at h
        · exact (ih h).trans rfl
        · exact ih h

theorem Schema.normalize_bare {schema : Schema} {n m : Node} (h : schema.normalize n = .ok m) : bare m = bare n := by
  unfold normalize at h
  split at h
  · cases h
  · simp only [bind, Except.bind] at h
    split at h
    · cases h
    · exact (fillDefaults_bare h).trans rfl

theorem Schema.normalize_keeps {schema : Schema} {n m : Node} (h : schema.normalize n = .ok m) :
    m.id = n.id ∧ m.type = n.type :=
  keeps_of_bare (normalize_bare h)

namespace Wrap

/-- What wrapping makes of connections: each stays or leads to a wrapper, wrappers are no compositions, and they
lead to inputs that take passes. -/
structure Wraps (schema : Schema) (s : Scene) (conns : List Connection)
    (made : List Connection × List Node × List Connection) : Prop where
  rewired : ∀ c ∈ made.1, c ∈ conns ∨ ∃ w ∈ made.2.1, c.target.node = w.id
  wrappers : ∀ w ∈ made.2.1, w.type ≠ compositeType
  leaving : ∀ e ∈ made.2.2, ∃ n, s.indexed? e.target.node = some n ∧ schema.inputType? n e.target.port = some "pass"

theorem bareType?_some {schema : Schema} {s : Scene} {c : Connection} {type : String}
    (h : bareType? schema s c = some type) :
    ∃ n, s.indexed? c.target.node = some n ∧ schema.inputType? n c.target.port = some "pass" := by
  unfold bareType? at h
  split at h
  · rename_i target _ htarget
    split at h
    · rename_i hpass
      exact ⟨_, htarget, hpass⟩
    · cases h
  · cases h

/-- What wrapping leaves of connections: those without a bare value stay, the others lead to wrappers, which are draw
nodes, and the new ones lead from these to inputs that take passes. -/
structure Settles (schema : Schema) (s : Scene) (conns : List Connection)
    (made : List Connection × List Node × List Connection) : Prop where
  kept : ∀ c ∈ made.1, (c ∈ conns ∧ bareType? schema s c = none) ∨ ∃ w ∈ made.2.1, c.target.node = w.id
  wrappers : ∀ w ∈ made.2.1, isDrawType w.type = true
  leaving : ∀ e ∈ made.2.2, ∃ w ∈ made.2.1, e.source.node = w.id
  landing : ∀ e ∈ made.2.2, ∃ n, s.indexed? e.target.node = some n ∧ schema.inputType? n e.target.port = some "pass"

namespace Settles

variable {schema : Schema} {s : Scene} {rest conns extra : List Connection} {nodes : List Node} {c : Connection}

theorem keep (h : Settles schema s rest (conns, nodes, extra)) (hbare : bareType? schema s c = none) :
    Settles schema s (c :: rest) (c :: conns, nodes, extra) where
  kept c' hc' := by
    rcases List.mem_cons.1 hc' with rfl | hc'
    · exact .inl ⟨List.mem_cons_self, hbare⟩
    · exact (h.kept c' hc').imp_left fun hold => ⟨List.mem_cons_of_mem c hold.1, hold.2⟩
  wrappers := h.wrappers
  leaving := h.leaving
  landing := h.landing

theorem wrap (h : Settles schema s rest (conns, nodes, extra)) (c : Connection) {node : Node}
    {entering leaving : Connection} (hdraw : isDrawType node.type = true) (hentering : entering.target.node = node.id)
    (hleaving : leaving.source.node = node.id)
    (hlanding : ∃ n, s.indexed? leaving.target.node = some n ∧ schema.inputType? n leaving.target.port = some "pass") :
    Settles schema s (c :: rest) (entering :: conns, node :: nodes, leaving :: extra) where
  kept c' hc' := by
    rcases List.mem_cons.1 hc' with rfl | hc'
    · exact .inr ⟨node, List.mem_cons_self, hentering⟩
    · rcases h.kept c' hc' with ⟨hold, hbare⟩ | ⟨w, hw, htarget⟩
      · exact .inl ⟨List.mem_cons_of_mem c hold, hbare⟩
      · exact .inr ⟨w, List.mem_cons_of_mem node hw, htarget⟩
  wrappers := List.forall_mem_cons.2 ⟨hdraw, h.wrappers⟩
  leaving := by
    refine List.forall_mem_cons.2 ⟨⟨node, List.mem_cons_self, hleaving⟩, fun e he => ?_⟩
    obtain ⟨w, hw, hsource⟩ := h.leaving e he
    exact ⟨w, List.mem_cons_of_mem node hw, hsource⟩
  landing := List.forall_mem_cons.2 ⟨hlanding, h.landing⟩

theorem wraps {made : List Connection × List Node × List Connection} (h : Settles schema s conns made) :
    Wraps schema s conns made where
  rewired c hc := (h.kept c hc).imp_left And.left
  wrappers w hw htype := by
    have hdraw := h.wrappers w hw
    rw [htype] at hdraw
    exact absurd hdraw (by decide)
  leaving := h.landing

end Settles

theorem wrapper_draw (c : Connection) (type : String) : isDrawType (wrapper c type).1.type = true := by
  unfold wrapper
  split
  · change isDrawType "Blit" = true
    decide
  · change isDrawType "RenderPass" = true
    decide

theorem wrapAll_settles {schema : Schema} {s : Scene} {conns : List Connection} {count : Nat}
    {made : List Connection × List Node × List Connection} (h : wrapAll schema s conns count = .ok made) :
    Settles schema s conns made := by
  induction conns generalizing count made with
  | nil =>
    cases h
    exact ⟨by simp, by simp, by simp, by simp⟩
  | cons c rest ih =>
    unfold wrapAll at h
    split at h
    · rename_i hbare
      simp only [bind, Except.bind] at h
      split at h
      · cases h
      · rename_i made' hmade'
        cases h
        exact (ih hmade').keep hbare
    · rename_i type hbare
      simp only at h
      split at h
      · cases h
      · rename_i node hnode
        simp only [bind, Except.bind] at h
        split at h
        · cases h
        · rename_i made' hmade'
          cases h
          obtain ⟨hid, htype⟩ := Schema.normalize_keeps hnode
          have hlanding := bareType?_some hbare
          exact (ih hmade').wrap c (htype ▸ wrapper_draw c type) hid.symm hid.symm hlanding

/-- Nodes of a wrapped scene are wrappers or were there before; at the id of a wrapper there is one. -/
theorem indexed?_wrapped {s : Scene} {nodes : List Node} {conns : List Connection} {id : String} {n : Node}
    (h : Scene.indexed? { s with nodes := s.nodes ++ nodes, connections := conns } id = some n) :
    n ∈ nodes ∨ (∀ w ∈ nodes, w.id ≠ id) ∧ s.indexed? id = some n := by
  unfold Scene.indexed? at h
  rw [List.reverse_append, List.find?_append] at h
  rcases Option.or_eq_some_iff.1 h with hnew | ⟨hnone, hold⟩
  · exact .inl (List.mem_reverse.1 (List.mem_of_find?_eq_some hnew))
  · refine .inr ⟨fun w hw => ?_, hold⟩
    simpa using List.find?_eq_none.1 hnone w (List.mem_reverse.2 hw)

/-- A wrapped scene has the wrappers behind its nodes, and the new connections behind the rewired ones. -/
theorem autoWrap_made {schema : Schema} {s t : Scene} (h : (autoWrap schema s).result = .ok t) :
    ∃ conns nodes extra, wrapAll schema s s.connections 0 = .ok (conns, nodes, extra) ∧
      t = { s with nodes := s.nodes ++ nodes, connections := conns ++ extra } := by
  unfold autoWrap at h
  split at h
  · cases h
  · rename_i conns nodes extra hmade
    exact ⟨conns, nodes, extra, hmade, (Except.ok.inj h).symm⟩

theorem autoWrap_landed {s t : Scene} (h : s.Landed) (hwrap : (autoWrap Schema.builtin s).result = .ok t) :
    t.Landed := by
  obtain ⟨conns, nodes, extra, hmade, rfl⟩ := autoWrap_made hwrap
  have hw := (wrapAll_settles hmade).wraps
  intro conn hconn n hn htype
  -- a composition is no wrapper, so it was there before
  obtain ⟨hnew, hbefore⟩ := (indexed?_wrapped hn).resolve_left fun hmem => hw.wrappers n hmem htype
  rcases List.mem_append.1 hconn with hconn | hconn
  · rcases hw.rewired conn hconn with hold | ⟨w, hw', heq⟩
    · exact h conn hold n hbefore htype
    · exact absurd heq.symm (hnew w hw')
  · obtain ⟨m, hm, hpass⟩ := hw.leaving conn hconn
    rw [hbefore] at hm
    cases hm
    exact Schema.inputType?_composite htype hpass

end Wrap

/-! ## Expansion of groups -/

namespace Groups

theorem expandNodes_count {groups : List Group} {s t : Scene} {l nodes : List Node} {count : Nat}
    (h : expandNodes groups s l = .ok (t, nodes, count)) {n : Node} (hn : n ∈ l) (htype : n.type = instanceType) :
    0 < count := by
  induction l generalizing s t nodes count with
  | nil => cases hn
  | cons m rest ih =>
    unfold expandNodes at h
    split at h
    · simp only at h
      split at h
      · cases h
      · simp only [bind, Except.bind] at h
        split at h
        · cases h
        · split at h
          · cases h
          · cases h
            exact Nat.succ_pos _
    · rename_i hm
      simp only [bind, Except.bind] at h
      split at h
      · cases h
      · rename_i made hmade
        cases h
        rcases List.mem_cons.1 hn with rfl | hn
        · exact absurd htype hm
        · exact ih hmade hn

/-- Rounds that expand no instance leave the scene as it is. -/
theorem expandRounds_count {limit : Int} {rounds total : Nat} {s : Scene} :
    total ≤ (expandRounds limit rounds total s).count ∧
      ((expandRounds limit rounds total s).count = total → ∀ t, (expandRounds limit rounds total s).result = .ok t →
        t = s) := by
  induction rounds generalizing total s with
  | zero =>
    unfold expandRounds
    split
    · exact ⟨Nat.le_refl _, fun _ t ht => (Except.ok.inj ht).symm⟩
    · exact ⟨Nat.le_refl _, fun _ t ht => absurd ht (by simp [refuse])⟩
  | succ rounds ih =>
    unfold expandRounds
    split
    · exact ⟨Nat.le_refl _, fun _ t ht => (Except.ok.inj ht).symm⟩
    · rename_i n hn
      simp only
      split
      · exact ⟨Nat.le_refl _, fun _ t ht => by cases ht⟩
      · rename_i s' nodes count hnodes
        have hpos := expandNodes_count hnodes (List.mem_of_find?_eq_some hn) (by simpa using List.find?_some hn)
        obtain ⟨hle, _⟩ := @ih (total + count) { s' with nodes := nodes }
        exact ⟨by omega, fun heq => by omega⟩

/-- An expansion without instances leaves the scene as it is. -/
theorem expand_count {depth : Int} {s t : Scene} (h : (expand depth s).result = .ok t)
    (hcount : (expand depth s).count = 0) : t = s := by
  unfold expand at h hcount
  split at h
  · split at h
    · exact (Except.ok.inj h).symm
    · exact absurd h (by simp [refuse])
  · rename_i hgroups
    simp only [hgroups] at hcount
    exact expandRounds_count.2 hcount t h

end Groups

theorem Prepare.checkConnections_of_recheck {schema : Schema} {depth : Int} {s expanded : Scene}
    (hs : schema.checkConnections s = .ok ()) (hexpand : (Groups.expand depth s).result = .ok expanded)
    (h : recheck schema (Groups.expand depth s).count expanded = .ok ()) :
    schema.checkConnections expanded = .ok () := by
  unfold recheck at h
  split at h
  · rename_i hcount
    rw [Groups.expand_count hexpand hcount]
    exact hs
  · split at h
    · assumption
    · cases h

theorem Schema.checkConnections_of_validate {schema : Schema} {s valid : Scene} (h : schema.validate s = .ok valid) :
    schema.checkConnections valid = .ok () := by
  unfold validate at h
  simp only [bind, Except.bind] at h
  split at h
  · cases h
  · split at h
    · cases h
    · split at h
      · cases h
      · rename_i hcheck
        cases h
        exact hcheck

/-- Connections into compositions of a prepared scene land on ports of layers, where those from missing nodes did
so in the expanded scene. -/
theorem Scene.PreparedFrom.landed {s : Scene} {options : PrepareOptions} {p : Prepared}
    {expanded inlined wrapped : Scene} (h : s.PreparedFrom Schema.builtin options p expanded inlined wrapped)
    (hs : Schema.builtin.checkConnections s = .ok ()) (hmissing : expanded.MissingLanded) : p.scene.Landed := by
  have hexpanded := Schema.checkConnections_landed (Prepare.checkConnections_of_recheck hs h.expand h.recheck) hmissing
  rw [h.scene]
  exact Graph.treeShake_landed (Wrap.autoWrap_landed (Images.inline_landed hexpanded h.inline) h.wrap)

end SceneGraph
