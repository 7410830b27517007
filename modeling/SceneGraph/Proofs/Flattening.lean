import Mathlib.Data.List.Nodup
import Mathlib.Data.List.Pairwise
import Mathlib.Logic.Relation
import Mathlib.Tactic.MkIffOfInductiveProp
import SceneGraph.Proofs.Instances

/-!
# Flattening

A scene with groups read as the flat scene it stands for. An instance stands for the contents of its
group, those of inner instances included, and a port of an instance stands for the ports behind it. The
depth says how many levels of groups are read. Replacing one instance by the contents of its group, read
one level less deep, changes nothing in this reading.

* `Groups.leaves`, `Groups.resolve`, `Groups.inside`, `Groups.shownAs`: the reading of a node, of a port,
  of the connections inside a node, and of an output.
* `Groups.Laid`: the order in which ids lie, which every replacement keeps.
* `Groups.Mapped`: every instance that a port leads to maps it.
* `Groups.Reads.replace`: one replacement keeps the reading.
-/
set_option autoImplicit false

namespace SceneGraph

namespace Groups

open Relation

/-! ## The reading -/

/-- A node, and the number of levels of groups that are read at it. -/
structure Placed where
  depth : Nat
  node : Node

/-- Nodes read to one depth. -/
def place (d : Nat) (nodes : List Node) : List Placed := nodes.map (Placed.mk d)

/-- The ways to follow a name into groups: a connection back to where it starts, a connection on to
where it lands, an output to the node it shows. -/
inductive Way where
  | source
  | target
  | shown
deriving DecidableEq

/-- The inner ports that a port of an instance stands for. Where a connection starts, the first counts; an
output shows the node behind the first output of the group, whichever port. -/
def Way.through : Way → Group → String → List GroupPort
  | .source, g, port => (portsOf g.outputs port).take 1
  | .target, g, port => portsOf g.inputs port
  | .shown, g, _ => (g.outputs.take 1).map fun p => { p with port := "" }

variable (groups : List Group)

/-- The nodes that a node stands for, in order. -/
def leaves : Nat → Node → List Node
  | 0, n => [n]
  | d + 1, n =>
    match group? groups n with
    | none => [n]
    | some g => (innerNodes n.id g).flatMap (leaves d)

/-- The ports that a port of a node stands for. -/
def resolve (way : Way) : Nat → Node → String → List Endpoint
  | 0, n, port => [⟨n.id, port⟩]
  | d + 1, n, port =>
    match group? groups n with
    | none => [⟨n.id, port⟩]
    | some g => (way.through g port).flatMap fun p =>
        ((innerNodes n.id g).filter fun m => m.id == innerId n.id p.node).flatMap fun m => resolve way d m p.port

/-- The ports that an endpoint stands for among nodes. -/
def resolveAt (way : Way) (ns : List Placed) (e : Endpoint) : List Endpoint :=
  (ns.filter fun x => x.node.id == e.node).flatMap fun x => resolve groups way x.depth x.node e.port

/-- The connections that a connection stands for: it lands on every port behind its target. -/
def wire (ns : List Placed) (ends : Endpoint × Endpoint) : List (Endpoint × Endpoint) :=
  (resolveAt groups .target ns ends.2).flatMap fun t => (resolveAt groups .source ns ends.1).map fun s => (s, t)

/-- The connections that stand inside a node. -/
def inside : Nat → Node → List (Endpoint × Endpoint)
  | 0, _ => []
  | d + 1, n =>
    match group? groups n with
    | none => []
    | some g =>
      (g.connections.map fun c => (innerConnection n.id c).ends).flatMap (wire groups (place d (innerNodes n.id g))) ++
        (innerNodes n.id g).flatMap (inside d)

/-- The node that an id stands for at a node or inside it. -/
def shownAs : Nat → Node → String → Option String
  | 0, n, id => if n.id = id then some id else none
  | d + 1, n, id =>
    if n.id = id then (resolve groups .shown (d + 1) n "").head?.map Endpoint.node
    else
      match group? groups n with
      | none => none
      | some g => (innerNodes n.id g).findSome? fun m => shownAs d m id

/-- The nodes that nodes stand for. -/
def flatNodes (ns : List Placed) : List Node := ns.flatMap fun x => leaves groups x.depth x.node

/-- The connections that nodes and their connections stand for. -/
def flatWires (ns : List Placed) (conns : List Connection) : List (Endpoint × Endpoint) :=
  (conns.map Connection.ends).flatMap (wire groups ns) ++ ns.flatMap fun x => inside groups x.depth x.node

/-- The id that an output stands for. -/
def shownId (ns : List Placed) (id : String) : String :=
  (ns.findSome? fun x => shownAs groups x.depth x.node id).getD id

/-- The outputs that outputs stand for. -/
def flatOutputs (ns : List Placed) (outputs : Table String) : Table String :=
  outputs.map fun o => (o.1, shownId groups ns o.2)

variable {groups}

/-! ### Nodes that are no instances -/

section Leaf

variable {n : Node} (h : group? groups n = none)
include h

theorem leaves_leaf (d : Nat) : leaves groups d n = [n] := by
  cases d <;> simp [leaves, h]

theorem resolve_leaf (way : Way) (d : Nat) (port : String) : resolve groups way d n port = [⟨n.id, port⟩] := by
  cases d <;> simp [resolve, h]

theorem inside_leaf (d : Nat) : inside groups d n = [] := by
  cases d <;> simp [inside, h]

theorem shownAs_leaf (d : Nat) (id : String) : shownAs groups d n id = if n.id = id then some id else none := by
  cases d with
  | zero => rfl
  | succ d =>
    unfold shownAs
    rw [resolve_leaf h, h]
    split
    · simp_all
    · rfl

end Leaf

/-! ### Instances -/

section Instance

variable {n : Node} {g : Group} (h : group? groups n = some g)
include h

theorem leaves_instance (d : Nat) : leaves groups (d + 1) n = flatNodes groups (place d (innerNodes n.id g)) := by
  simp [leaves, h, flatNodes, place, List.flatMap_map]

theorem resolve_instance (way : Way) (d : Nat) (port : String) :
    resolve groups way (d + 1) n port = (way.through g port).flatMap fun p =>
      resolveAt groups way (place d (innerNodes n.id g)) ⟨innerId n.id p.node, p.port⟩ := by
  simp [resolve, h, resolveAt, place, List.filter_map, List.flatMap_map, Function.comp_def]

theorem inside_instance (d : Nat) :
    inside groups (d + 1) n =
      (g.connections.map fun c => (innerConnection n.id c).ends).flatMap (wire groups (place d (innerNodes n.id g))) ++
        (place d (innerNodes n.id g)).flatMap fun x => inside groups x.depth x.node := by
  simp [inside, h, place, List.flatMap_map]

theorem shownAs_instance {id : String} (hid : n.id ≠ id) (d : Nat) :
    shownAs groups (d + 1) n id =
      (place d (innerNodes n.id g)).findSome? fun x => shownAs groups x.depth x.node id := by
  simp [shownAs, h, hid, place, List.findSome?_map, Function.comp_def]

end Instance

/-- Nothing at a node has an id that neither is the node's nor lies inside it. -/
theorem shownAs_eq_none {d : Nat} {n : Node} {id : String} (hne : n.id ≠ id) (hin : ¬Inside n.id id) :
    shownAs groups d n id = none := by
  induction d generalizing n with
  | zero => simp [shownAs, hne]
  | succ d ih =>
    cases hg : group? groups n with
    | none => simp [shownAs_leaf hg, hne]
    | some g =>
      rw [shownAs_instance hg hne, List.findSome?_eq_none_iff]
      intro x hx
      obtain ⟨m, hm, rfl⟩ := List.mem_map.1 hx
      have hbelow := inside_of_mem_innerNodes hm
      exact ih (fun heq => hin (heq ▸ hbelow)) fun hdeep => hin (hbelow.trans hdeep)

/-! ## Graphs whose ids lie apart -/

/-- No connection among nodes joins an instance to itself. -/
def NoLoops (nodes : List Node) (conns : List Connection) : Prop :=
  ∀ c ∈ conns, ∀ n ∈ nodes, n.type = instanceType → c.source.node = n.id → c.target.node ≠ n.id

instance (nodes : List Node) (conns : List Connection) : Decidable (NoLoops nodes conns) :=
  inferInstanceAs (Decidable (∀ c ∈ conns, ∀ n ∈ nodes, n.type = instanceType →
    c.source.node = n.id → c.target.node ≠ n.id))

/-- A graph whose ids are plain and distinct, whose connections join nodes of it, and in which no
connection joins an instance to itself. -/
@[mk_iff]
structure Tidy (nodes : List Node) (conns : List Connection) : Prop where
  plain : ∀ n ∈ nodes, '/' ∉ n.id.toList
  distinct : (nodes.map Node.id).Nodup
  joined : ∀ c ∈ conns, c.source.node ∈ nodes.map Node.id ∧ c.target.node ∈ nodes.map Node.id
  loopless : NoLoops nodes conns

/-- A group whose contents are tidy and whose ports are those of inner nodes. -/
@[mk_iff]
structure TidyGroup (g : Group) : Prop extends Tidy g.nodes g.connections where
  ports : ∀ p ∈ g.inputs ++ g.outputs, p.node ∈ g.nodes.map Node.id

instance (nodes : List Node) (conns : List Connection) : Decidable (Tidy nodes conns) :=
  decidable_of_iff' _ (tidy_iff nodes conns)

instance (g : Group) : Decidable (TidyGroup g) := decidable_of_iff' _ (tidyGroup_iff g)

/-- A graph in which no id lies inside another, connections join nodes of it and none joins an instance
to itself: what is left of tidiness while instances are replaced. -/
structure Laid (nodes : List Node) (conns : List Connection) : Prop where
  apart : (nodes.map Node.id).Pairwise Apart
  joined : ∀ c ∈ conns, c.source.node ∈ nodes.map Node.id ∧ c.target.node ∈ nodes.map Node.id
  loopless : NoLoops nodes conns

theorem Tidy.laid {nodes : List Node} {conns : List Connection} (h : Tidy nodes conns) : Laid nodes conns where
  apart := pairwise_apart h.plain h.distinct
  joined := h.joined
  loopless := h.loopless

theorem through_named {g : Group} (hg : TidyGroup g) {way : Way} {port : String} {p : GroupPort}
    (hp : p ∈ way.through g port) : p.node ∈ g.nodes.map Node.id := by
  cases way with
  | source => exact hg.ports p (List.mem_append_right _ (List.mem_of_mem_filter (List.mem_of_mem_take hp)))
  | target => exact hg.ports p (List.mem_append_left _ (List.mem_of_mem_filter hp))
  | shown =>
    obtain ⟨q, hq, rfl⟩ := List.mem_map.1 hp
    exact hg.ports q (List.mem_append_right _ (List.mem_of_mem_take hq))

section Step

variable {as bs : List Node} {n : Node} {g : Group} {conns : List Connection}

theorem Laid.left (h : Laid (as ++ n :: bs) conns) {m : Node} (hm : m ∈ as ++ bs) : Apart n.id m.id :=
  apart_of_mem h.apart hm

/-- An id of the graph is that of the instance, or one apart from it. -/
theorem Laid.mem_cases (h : Laid (as ++ n :: bs) conns) {id : String} (hid : id ∈ (as ++ n :: bs).map Node.id) :
    id = n.id ∨ Apart n.id id ∧ id ∈ (as ++ bs).map Node.id := by
  obtain ⟨m, hm, rfl⟩ := List.mem_map.1 hid
  rcases List.mem_append.1 hm with hm | hm
  · exact .inr ⟨h.left (by simp [hm]), List.mem_map_of_mem (by simp [hm])⟩
  · rcases List.mem_cons.1 hm with rfl | hm
    · exact .inl rfl
    · exact .inr ⟨h.left (by simp [hm]), List.mem_map_of_mem (by simp [hm])⟩

/-- Where the connections of a graph run once an instance is replaced: outside it, into it, out of it, or
inside it. -/
theorem Laid.mem_replace (h : Laid (as ++ n :: bs) conns) (htype : n.type = instanceType) (hg : TidyGroup g)
    {c : Connection} (hc : c ∈ conns.flatMap (reroute n.id g) ++ g.connections.map (innerConnection n.id)) :
    (c ∈ conns ∧ (Apart n.id c.source.node ∧ c.source.node ∈ (as ++ bs).map Node.id) ∧
        (Apart n.id c.target.node ∧ c.target.node ∈ (as ++ bs).map Node.id)) ∨
      ((Apart n.id c.source.node ∧ c.source.node ∈ (as ++ bs).map Node.id) ∧
        ∃ a ∈ g.nodes.map Node.id, c.target.node = innerId n.id a) ∨
      ((∃ a ∈ g.nodes.map Node.id, c.source.node = innerId n.id a) ∧
        (Apart n.id c.target.node ∧ c.target.node ∈ (as ++ bs).map Node.id)) ∨
      ∃ o ∈ g.connections, c = innerConnection n.id o := by
  rcases List.mem_append.1 hc with hc | hc
  · obtain ⟨o, ho, hc⟩ := List.mem_flatMap.1 hc
    have hsource := h.mem_cases (h.joined o ho).1
    have htarget := h.mem_cases (h.joined o ho).2
    rcases mem_reroute hc with ⟨ht, p, hp, hs', ht'⟩ | ⟨ht, hs, p, hp, hs', ht'⟩ | ⟨ht, hs, rfl⟩
    · have hs : o.source.node ≠ n.id := fun heq => h.loopless o ho n (by simp) htype heq ht
      rw [hs', ht']
      exact .inr (.inl ⟨hsource.resolve_left hs, p.node,
        hg.ports p (List.mem_append_left _ (List.mem_of_mem_filter hp)), rfl⟩)
    · rw [hs', ht']
      exact .inr (.inr (.inl ⟨⟨p.node, hg.ports p (List.mem_append_right _ (List.mem_of_mem_filter hp)), rfl⟩,
        htarget.resolve_left ht⟩))
    · exact .inl ⟨ho, hsource.resolve_left hs, htarget.resolve_left ht⟩
  · obtain ⟨o, ho, rfl⟩ := List.mem_map.1 hc
    exact .inr (.inr (.inr ⟨o, ho, rfl⟩))

theorem Laid.replace (h : Laid (as ++ n :: bs) conns) (htype : n.type = instanceType) (hg : TidyGroup g) :
    Laid (as ++ innerNodes n.id g ++ bs)
      (conns.flatMap (reroute n.id g) ++ g.connections.map (innerConnection n.id)) := by
  have houter : ∀ {id}, id ∈ (as ++ bs).map Node.id → id ∈ (as ++ innerNodes n.id g ++ bs).map Node.id := by
    simp only [List.map_append, List.mem_append]
    exact fun hid => hid.imp_left .inl
  have hinner : ∀ {a}, a ∈ g.nodes.map Node.id → innerId n.id a ∈ (as ++ innerNodes n.id g ++ bs).map Node.id := by
    simp only [List.map_append, List.mem_append]
    exact fun ha => .inl (.inr (mem_map_id_innerNodes.2 ha))
  have hnot : ∀ {a id : String}, Apart n.id id → id ≠ innerId n.id a := fun hid heq =>
    hid.left (heq ▸ inside_innerId _ _)
  refine ⟨apart_replace h.apart hg.plain hg.distinct, ?_, ?_⟩
  · intro c hc
    rcases h.mem_replace htype hg hc with
      ⟨-, ⟨-, hs⟩, -, ht⟩ | ⟨⟨-, hs⟩, a, ha, ht⟩ | ⟨⟨a, ha, hs⟩, -, ht⟩ | ⟨o, ho, rfl⟩
    · exact ⟨houter hs, houter ht⟩
    · exact ⟨houter hs, ht ▸ hinner ha⟩
    · exact ⟨hs ▸ hinner ha, houter ht⟩
    · exact ⟨hinner (hg.joined o ho).1, hinner (hg.joined o ho).2⟩
  · intro c hc m hm hinst hsource htarget
    have hm : m ∈ as ++ bs ∨ m ∈ innerNodes n.id g := by
      simp only [List.mem_append] at hm ⊢
      tauto
    rcases h.mem_replace htype hg hc with
      ⟨hold, ⟨hapart, -⟩, -⟩ | ⟨⟨hapart, -⟩, a, -, ht⟩ | ⟨⟨a, -, hs⟩, hapart, -⟩ | ⟨o, ho, rfl⟩
    · rcases hm with hm | hm
      · refine h.loopless c hold m ?_ hinst hsource htarget
        simp only [List.mem_append, List.mem_cons] at hm ⊢
        tauto
      · obtain ⟨x, -, rfl⟩ := mem_innerNodes hm
        exact hnot hapart hsource
    · exact hnot hapart (hsource.trans (htarget.symm.trans ht))
    · exact hnot hapart (htarget.trans (hsource.symm.trans hs))
    · rcases hm with hm | hm
      · exact hnot (h.left hm) hsource.symm
      · obtain ⟨x, hx, rfl⟩ := mem_innerNodes hm
        exact hg.loopless o ho x hx hinst (innerId_inj.1 hsource) (innerId_inj.1 htarget)

end Step

/-! ## What a connection becomes stands for what it stood for -/

section Reading

variable {as bs : List Placed} {n : Node} {g : Group} {conns : List Connection}

/-- The nodes around an instance, before and after its replacement. -/
theorem filter_instance (h : Laid (as.map Placed.node ++ n :: bs.map Placed.node) conns) (d : Nat) :
    (as ++ ⟨d, n⟩ :: bs).filter (fun x => x.node.id == n.id) = [⟨d, n⟩] := by
  have hnone : ∀ l : List Placed, (∀ x ∈ l, x ∈ as ++ bs) → l.filter (fun x => x.node.id == n.id) = [] := by
    intro l hl
    rw [List.filter_eq_nil_iff]
    intro x hx heq
    have hmem : x.node ∈ as.map Placed.node ++ bs.map Placed.node := by
      rw [← List.map_append]
      exact List.mem_map_of_mem (hl x hx)
    exact (h.left hmem).ne (beq_iff_eq.1 heq).symm
  rw [List.filter_append, List.filter_cons_of_pos (by simp), hnone as (by simp +contextual),
    hnone bs (by simp +contextual)]
  rfl

theorem filter_apart {id : String} (hid : Apart n.id id) (d e : Nat) :
    (as ++ place d (innerNodes n.id g) ++ bs).filter (fun x => x.node.id == id) =
      (as ++ ⟨e, n⟩ :: bs).filter (fun x => x.node.id == id) := by
  have hnone : (place d (innerNodes n.id g)).filter (fun x => x.node.id == id) = [] := by
    rw [List.filter_eq_nil_iff]
    intro x hx heq
    obtain ⟨m, hm, rfl⟩ := List.mem_map.1 hx
    exact hid.left (beq_iff_eq.1 heq ▸ inside_of_mem_innerNodes hm)
  rw [List.filter_append, List.filter_append, hnone, List.filter_append,
    List.filter_cons_of_neg (by simpa using hid.ne), List.append_nil]

theorem filter_inner (h : Laid (as.map Placed.node ++ n :: bs.map Placed.node) conns) (d : Nat) (a : String) :
    (as ++ place d (innerNodes n.id g) ++ bs).filter (fun x => x.node.id == innerId n.id a) =
      (place d (innerNodes n.id g)).filter (fun x => x.node.id == innerId n.id a) := by
  have hnone : ∀ l : List Placed, (∀ x ∈ l, x ∈ as ++ bs) → l.filter (fun x => x.node.id == innerId n.id a) = [] := by
    intro l hl
    rw [List.filter_eq_nil_iff]
    intro x hx heq
    have hmem : x.node ∈ as.map Placed.node ++ bs.map Placed.node := by
      rw [← List.map_append]
      exact List.mem_map_of_mem (hl x hx)
    exact (h.left hmem).left (beq_iff_eq.1 heq ▸ inside_innerId _ _)
  rw [List.filter_append, List.filter_append, hnone as (by simp +contextual), hnone bs (by simp +contextual),
    List.nil_append, List.append_nil]

theorem resolveAt_instance (h : Laid (as.map Placed.node ++ n :: bs.map Placed.node) conns)
    (hg : group? groups n = some g) (way : Way) (d : Nat) {e : Endpoint} (he : e.node = n.id) :
    resolveAt groups way (as ++ ⟨d + 1, n⟩ :: bs) e = (way.through g e.port).flatMap fun p =>
      resolveAt groups way (as ++ place d (innerNodes n.id g) ++ bs) ⟨innerId n.id p.node, p.port⟩ := by
  simp only [resolveAt, he, filter_instance h, filter_inner h, List.flatMap_singleton]
  rw [resolve_instance hg]
  rfl

theorem resolveAt_apart {e : Endpoint} (he : Apart n.id e.node) (way : Way) (d : Nat) :
    resolveAt groups way (as ++ place d (innerNodes n.id g) ++ bs) e =
      resolveAt groups way (as ++ ⟨d + 1, n⟩ :: bs) e := by
  simp only [resolveAt, filter_apart he d (d + 1)]

/-- What a connection becomes stands for what it stood for. -/
theorem wire_reroute (h : Laid (as.map Placed.node ++ n :: bs.map Placed.node) conns)
    (hg : group? groups n = some g) (d : Nat) {c : Connection} (hc : c ∈ conns) :
    ((reroute n.id g c).map Connection.ends).flatMap (wire groups (as ++ place d (innerNodes n.id g) ++ bs)) =
      wire groups (as ++ ⟨d + 1, n⟩ :: bs) c.ends := by
  have hsource := h.mem_cases (h.joined c hc).1
  have htarget := h.mem_cases (h.joined c hc).2
  have hapart : ∀ way {e : Endpoint}, Apart n.id e.node →
      resolveAt groups way (as ++ place d (innerNodes n.id g) ++ bs) e =
        resolveAt groups way (as ++ ⟨d + 1, n⟩ :: bs) e := fun way _ he => resolveAt_apart he way d
  rw [map_ends_reroute]
  unfold wire Connection.ends
  by_cases ht : c.target.node = n.id
  · -- Rewiring leaves the start alone here, so it must not be at the instance too.
    have hs : c.source.node ≠ n.id := fun heq => h.loopless c hc n (by simp) (group?_eq_some hg).1 heq ht
    have hsource := hapart .source (hsource.resolve_left hs).1
    simp only [if_pos ht, List.flatMap_map, resolveAt_instance h hg .target d ht, List.flatMap_assoc, hsource]
    rfl
  · have htarget := hapart .target (htarget.resolve_left ht).1
    by_cases hs : c.source.node = n.id
    · simp only [if_neg ht, if_pos hs, List.flatMap_map, resolveAt_instance h hg .source d hs, htarget, Way.through]
      cases portsOf g.outputs c.source.port <;> simp
    · have hsource := hapart .source (hsource.resolve_left hs).1
      simp only [if_neg ht, if_neg hs, List.flatMap_singleton, hsource, htarget]

/-- Replacing an instance keeps the connections that a graph stands for. -/
theorem flatWires_replace (h : Laid (as.map Placed.node ++ n :: bs.map Placed.node) conns)
    (hg : group? groups n = some g) (d : Nat) :
    (flatWires groups (as ++ place d (innerNodes n.id g) ++ bs)
        (conns.flatMap (reroute n.id g) ++ g.connections.map (innerConnection n.id))).Perm
      (flatWires groups (as ++ ⟨d + 1, n⟩ :: bs) conns) := by
  have hold : ((conns.flatMap (reroute n.id g)).map Connection.ends).flatMap
      (wire groups (as ++ place d (innerNodes n.id g) ++ bs)) =
        (conns.map Connection.ends).flatMap (wire groups (as ++ ⟨d + 1, n⟩ :: bs)) := by
    rw [List.map_flatMap, List.flatMap_assoc, List.flatMap_map]
    exact List.flatMap_congr fun c hc => wire_reroute h hg d hc
  have hnew : ((g.connections.map (innerConnection n.id)).map Connection.ends).flatMap
      (wire groups (as ++ place d (innerNodes n.id g) ++ bs)) =
        (g.connections.map fun c => (innerConnection n.id c).ends).flatMap
          (wire groups (place d (innerNodes n.id g))) := by
    simp only [List.map_map, List.flatMap_map, wire, resolveAt, innerConnection, Connection.ends, Function.comp_def,
      filter_inner h]
  unfold flatWires
  rw [List.map_append, List.flatMap_append, hold, hnew]
  simp only [List.flatMap_append, List.flatMap_cons, inside_instance hg, List.append_assoc]
  -- The group's own connections come last after the replacement, and in the place of the instance before.
  refine List.Perm.append_left _ ?_
  exact List.perm_append_comm_assoc _ _ _

/-! ### Outputs -/

theorem findSome?_filter_of_none {α β : Type} {f : α → Option β} {p : α → Bool} {l : List α}
    (h : ∀ x ∈ l, p x = false → f x = none) : l.findSome? f = (l.filter p).findSome? f := by
  induction l with
  | nil => rfl
  | cons x l ih =>
    have ih := ih fun y hy => h y (List.mem_cons_of_mem x hy)
    cases hp : p x with
    | true => simp [List.filter_cons_of_pos hp, List.findSome?_cons, ih]
    | false => simp [List.filter_cons_of_neg (Bool.eq_false_iff.1 hp), h x List.mem_cons_self hp, ih]

theorem filter_eq_singleton {α : Type} {f : α → String} {l : List α} (h : (l.map f).Nodup) {x : α} (hx : x ∈ l) :
    l.filter (fun y => f y == f x) = [x] := by
  induction l with
  | nil => cases hx
  | cons y l ih =>
    rw [List.map_cons, List.nodup_cons] at h
    rcases List.mem_cons.1 hx with rfl | hx
    · have hnone : l.filter (fun y => f y == f x) = [] := by
        rw [List.filter_eq_nil_iff]
        exact fun y hy heq => h.1 (beq_iff_eq.1 heq ▸ List.mem_map_of_mem hy)
      simp [hnone]
    · have hne : f y ≠ f x := fun heq => h.1 (heq ▸ List.mem_map_of_mem hx)
      simp [hne, ih h.2 hx]

theorem Laid.distinct {nodes : List Node} {conns : List Connection} (h : Laid nodes conns) :
    (nodes.map Node.id).Nodup :=
  h.apart.imp Apart.ne

theorem findSome?_shownAs {ns : List Placed} {conns : List Connection} (h : Laid (ns.map Placed.node) conns)
    {x : Placed} (hx : x ∈ ns) :
    (ns.findSome? fun y => shownAs groups y.depth y.node x.node.id) = shownAs groups x.depth x.node x.node.id := by
  have hapart : ∀ y ∈ ns, y.node.id ≠ x.node.id → Apart y.node.id x.node.id := fun y hy hne =>
    h.apart.forall (List.mem_map_of_mem (List.mem_map_of_mem hy))
      (List.mem_map_of_mem (List.mem_map_of_mem hx)) hne
  have hdistinct : (ns.map fun y => y.node.id).Nodup := by
    simpa [List.map_map, Function.comp_def] using h.distinct
  have hnone : ∀ y ∈ ns, (y.node.id == x.node.id) = false → shownAs groups y.depth y.node x.node.id = none := by
    intro y hy hne
    have hapart := hapart y hy (by simpa using hne)
    exact shownAs_eq_none hapart.ne hapart.left
  rw [findSome?_filter_of_none hnone, filter_eq_singleton hdistinct hx]
  simp

theorem shownAs_self (d : Nat) (n : Node) :
    shownAs groups d n n.id = (resolve groups .shown d n "").head?.map Endpoint.node := by
  cases d <;> simp [shownAs, resolve]

end Reading

/-! ## Mapped ports -/

/-- A port of an instance leads to the ports of inner nodes that it stands for. -/
def Leads (groups : List Group) (way : Way) (a b : Node × String) : Prop :=
  ∃ g, group? groups a.1 = some g ∧ ∃ p ∈ way.through g a.2,
    b.1 ∈ innerNodes a.1.id g ∧ b.1.id = innerId a.1.id p.node ∧ b.2 = p.port

/-- Every instance that a port of a node leads to maps it. -/
def Mapped (groups : List Group) (way : Way) (n : Node) (port : String) : Prop :=
  ∀ b, ReflTransGen (Leads groups way) (n, port) b → ∀ g, group? groups b.1 = some g → way.through g b.2 ≠ []

section Mapped

variable {way : Way} {n : Node} {port : String}

theorem mapped_leaf (h : group? groups n = none) : Mapped groups way n port := by
  intro b hb g hg
  rcases hb.cases_head with rfl | ⟨c, ⟨g', hg', -⟩, -⟩
  · rw [h] at hg
    cases hg
  · rw [h] at hg'
    cases hg'

theorem mapped_instance {g : Group} (h : group? groups n = some g) :
    Mapped groups way n port ↔ way.through g port ≠ [] ∧ ∀ p ∈ way.through g port, ∀ m ∈ innerNodes n.id g,
      m.id = innerId n.id p.node → Mapped groups way m p.port := by
  constructor
  · intro hmapped
    refine ⟨hmapped _ .refl g h, ?_⟩
    intro p hp m hm hid b hb
    exact hmapped b (.head ⟨g, h, p, hp, hm, hid, rfl⟩ hb)
  · rintro ⟨hne, hinner⟩ b hb g' hg'
    rcases hb.cases_head with rfl | ⟨c, ⟨g'', hg'', p, hp, hm, hid, hport⟩, hrest⟩
    · obtain rfl := Option.some.inj (h.symm.trans hg')
      exact hne
    · obtain rfl := Option.some.inj (h.symm.trans hg'')
      obtain ⟨m, q⟩ := c
      obtain rfl : q = p.port := hport
      exact hinner p hp m hm hid b hrest g' hg'

/-- A port that stands for one port of an inner node leads where that one leads. -/
theorem resolve_through {g : Group} (hg : group? groups n = some g) (htidy : TidyGroup g) {p : GroupPort}
    (hp : way.through g port = [p]) {m : Node} (hm : m ∈ innerNodes n.id g) (hid : m.id = innerId n.id p.node)
    (d : Nat) :
    resolve groups way (d + 1) n port = resolve groups way d m p.port := by
  have hdistinct : ((innerNodes n.id g).map Node.id).Nodup := by
    rw [map_id_innerNodes]
    exact htidy.distinct.map fun _ _ => innerId_inj.1
  rw [resolve, hg]
  simp only [hp, List.flatMap_singleton, ← hid, filter_eq_singleton hdistinct hm]

/-- Back to where a connection starts, and to the node that an output shows, there is one way. -/
theorem resolve_unique (hgroups : ∀ g ∈ groups, TidyGroup g) (hway : way ≠ .target) {d : Nat}
    (h : Mapped groups way n port) : ∃ e, resolve groups way d n port = [e] := by
  induction d generalizing n port with
  | zero => exact ⟨_, rfl⟩
  | succ d ih =>
    cases hg : group? groups n with
    | none => exact ⟨_, resolve_leaf hg way _ port⟩
    | some g =>
      have htidy := hgroups g (mem_of_group? hg)
      obtain ⟨hne, hinner⟩ := (mapped_instance hg).1 h
      -- Only an input stands for several ports; of several outputs with one name the first counts.
      obtain ⟨p, hp⟩ : ∃ p, way.through g port = [p] := by
        cases way with
        | target => exact absurd rfl hway
        | source =>
          cases hports : portsOf g.outputs port with
          | nil => simp [Way.through, hports] at hne
          | cons p ps => exact ⟨p, by simp [Way.through, hports]⟩
        | shown =>
          cases hports : g.outputs with
          | nil => simp [Way.through, hports] at hne
          | cons p ps => exact ⟨_, by simp [Way.through, hports]; rfl⟩
      have hmem : p ∈ way.through g port := by simp [hp]
      obtain ⟨m, hm, hid⟩ := exists_mem_innerNodes n.id (through_named htidy hmem)
      obtain ⟨e, he⟩ := ih (hinner p hmem m hm hid)
      exact ⟨e, (resolve_through hg htidy hp hm hid d).trans he⟩

end Mapped

/-! ## One replacement keeps the reading -/

section Reads

variable {as bs : List Placed} {n : Node} {g : Group} {conns : List Connection}

theorem map_node_place (d : Nat) (nodes : List Node) : (place d nodes).map Placed.node = nodes := by
  simp [place, Function.comp_def]

theorem flatNodes_replace (hg : group? groups n = some g) (d : Nat) :
    flatNodes groups (as ++ place d (innerNodes n.id g) ++ bs) = flatNodes groups (as ++ ⟨d + 1, n⟩ :: bs) := by
  simp only [flatNodes, List.flatMap_append, List.flatMap_cons, leaves_instance hg, List.append_assoc]

/-- What an output becomes stands for what it stood for. -/
theorem shownId_redirect (hgroups : ∀ g ∈ groups, TidyGroup g)
    (h : Laid (as.map Placed.node ++ n :: bs.map Placed.node) conns) (hg : group? groups n = some g) (d : Nat)
    {id : String} (hmapped : n.id = id → Mapped groups .shown n "") :
    shownId groups (as ++ place d (innerNodes n.id g) ++ bs) (redirect n.id g id) =
      shownId groups (as ++ ⟨d + 1, n⟩ :: bs) id := by
  by_cases hid : n.id = id
  · subst hid
    have htidy := hgroups g (mem_of_group? hg)
    obtain ⟨hne, hinner⟩ := (mapped_instance hg).1 (hmapped rfl)
    obtain ⟨p, ps, hports⟩ : ∃ p ps, g.outputs = p :: ps := by
      cases hports : g.outputs with
      | nil => simp [Way.through, hports] at hne
      | cons p ps => exact ⟨p, ps, rfl⟩
    have hthrough : Way.shown.through g "" = [{ p with port := "" }] := by simp [Way.through, hports]
    obtain ⟨m, hm, hmid⟩ := exists_mem_innerNodes n.id (htidy.ports p (by simp [hports]))
    have hredirect : redirect n.id g n.id = m.id := by simp [redirect, hports, hmid]
    -- The node behind the port is read on both sides, before through the instance.
    have hbefore : resolve groups .shown (d + 1) n "" = resolve groups .shown d m "" :=
      resolve_through hg htidy hthrough hm hmid d
    obtain ⟨e, he⟩ := resolve_unique hgroups (by decide) (d := d)
      (hinner { p with port := "" } (by simp [hthrough]) m hm hmid)
    have hlaid := h.replace (group?_eq_some hg).1 htidy
    have hat : Laid ((as ++ ⟨d + 1, n⟩ :: bs).map Placed.node) conns := by simpa using h
    have hold : ((as ++ ⟨d + 1, n⟩ :: bs).findSome? fun y => shownAs groups y.depth y.node n.id) =
        shownAs groups (d + 1) n n.id := findSome?_shownAs (x := ⟨d + 1, n⟩) hat (by simp)
    have hnew : ((as ++ place d (innerNodes n.id g) ++ bs).findSome? fun y => shownAs groups y.depth y.node m.id) =
        shownAs groups d m m.id := findSome?_shownAs (x := ⟨d, m⟩)
      (by simpa only [List.map_append, map_node_place] using hlaid) (by simp [place, hm])
    simp only [shownAs_self, hbefore, he] at hold hnew
    simp only [shownId, hredirect, hold, hnew]
    rfl
  · simp only [shownId, redirect, if_neg (Ne.symm hid), List.findSome?_append, List.findSome?_cons,
      shownAs_instance hg hid]
    cases List.findSome? (fun x => shownAs groups x.depth x.node id) as <;>
      cases List.findSome? (fun x => shownAs groups x.depth x.node id) (place d (innerNodes n.id g)) <;> rfl

variable (groups) in
/-- A graph with outputs stands for a flat one. -/
structure Reads (ns : List Placed) (conns : List Connection) (outputs : Table String)
    (nodes : List Node) (wires : List (Endpoint × Endpoint)) (shown : Table String) : Prop where
  nodes : flatNodes groups ns = nodes
  wires : (flatWires groups ns conns).Perm wires
  outputs : flatOutputs groups ns outputs = shown

variable {outputs shown : Table String} {nodes : List Node} {wires : List (Endpoint × Endpoint)}

/-- Replacing an instance by the contents of its group keeps what the graph stands for. -/
theorem Reads.replace (hgroups : ∀ g ∈ groups, TidyGroup g)
    (hlaid : Laid (as.map Placed.node ++ n :: bs.map Placed.node) conns) (hg : group? groups n = some g) {d : Nat}
    (hmapped : ∀ o ∈ outputs, n.id = o.2 → Mapped groups .shown n "")
    (h : Reads groups (as ++ ⟨d + 1, n⟩ :: bs) conns outputs nodes wires shown) :
    Reads groups (as ++ place d (innerNodes n.id g) ++ bs)
      (conns.flatMap (reroute n.id g) ++ g.connections.map (innerConnection n.id))
      (outputs.map fun o => (o.1, redirect n.id g o.2)) nodes wires shown where
  nodes := (flatNodes_replace hg d).trans h.nodes
  wires := (flatWires_replace hlaid hg d).trans h.wires
  outputs := by
    rw [← h.outputs, flatOutputs, flatOutputs, List.map_map]
    refine List.map_congr_left fun o ho => ?_
    rw [Function.comp_apply, shownId_redirect hgroups hlaid hg d (hmapped o ho)]

/-- A node that is no instance is read the same to every depth. -/
theorem Reads.leaf (hn : group? groups n = none) {d e : Nat}
    (h : Reads groups (as ++ ⟨d, n⟩ :: bs) conns outputs nodes wires shown) :
    Reads groups (as ++ ⟨e, n⟩ :: bs) conns outputs nodes wires shown where
  nodes := by
    rw [← h.nodes]
    simp only [flatNodes, List.flatMap_append, List.flatMap_cons, leaves_leaf hn]
  wires := by
    have hat : ∀ way p, resolveAt groups way (as ++ ⟨e, n⟩ :: bs) p = resolveAt groups way (as ++ ⟨d, n⟩ :: bs) p := by
      intro way p
      simp only [resolveAt, List.filter_append, List.filter_cons, List.flatMap_append]
      split <;> simp [resolve_leaf hn]
    have hwire : wire groups (as ++ ⟨e, n⟩ :: bs) = wire groups (as ++ ⟨d, n⟩ :: bs) := by
      funext ends
      simp only [wire, hat]
    refine List.Perm.trans (List.Perm.of_eq ?_) h.wires
    simp only [flatWires, hwire, List.flatMap_append, List.flatMap_cons, inside_leaf hn]
  outputs := by
    rw [← h.outputs]
    simp only [flatOutputs, shownId, List.findSome?_append, List.findSome?_cons, shownAs_leaf hn]

/-- A graph without instances stands for itself. -/
theorem reads_leaves {ns : List Placed} (hns : ∀ x ∈ ns, group? groups x.node = none)
    (hlaid : Laid (ns.map Placed.node) conns) :
    Reads groups ns conns outputs (ns.map Placed.node) (conns.map Connection.ends) outputs where
  nodes := by
    rw [flatNodes, List.map_eq_flatMap]
    exact List.flatMap_congr fun x hx => leaves_leaf (hns x hx) _
  wires := by
    have hat : ∀ way, ∀ e : Endpoint, e.node ∈ (ns.map Placed.node).map Node.id → resolveAt groups way ns e = [e] := by
      intro way e he
      obtain ⟨m, hm, hid⟩ := List.mem_map.1 he
      obtain ⟨x, hx, rfl⟩ := List.mem_map.1 hm
      have hdistinct : (ns.map fun y => y.node.id).Nodup := by
        simpa [List.map_map, Function.comp_def] using hlaid.distinct
      rw [resolveAt, ← hid, filter_eq_singleton hdistinct hx, List.flatMap_singleton, resolve_leaf (hns x hx), hid]
    have hinside : (ns.flatMap fun x => inside groups x.depth x.node) = [] :=
      List.flatMap_eq_nil_iff.2 fun x hx => inside_leaf (hns x hx) _
    refine List.Perm.of_eq ?_
    rw [flatWires, hinside, List.append_nil, List.flatMap_map, List.map_eq_flatMap]
    refine List.flatMap_congr fun c hc => ?_
    obtain ⟨hsource, htarget⟩ := hlaid.joined c hc
    simp only [wire, Connection.ends, hat _ _ hsource, hat _ _ htarget]
    rfl
  outputs := by
    have hshown : ∀ id, shownId groups ns id = id := by
      intro id
      unfold shownId
      cases hfound : ns.findSome? fun x => shownAs groups x.depth x.node id with
      | none => rfl
      | some shown =>
        obtain ⟨x, hx, heq⟩ := List.exists_of_findSome?_eq_some hfound
        rw [shownAs_leaf (hns x hx)] at heq
        split at heq
        · exact (Option.some.inj heq).symm
        · cases heq
    simp [flatOutputs, hshown]

end Reads

end Groups

end SceneGraph
