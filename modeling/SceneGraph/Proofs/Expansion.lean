import SceneGraph.Proofs.Flattening
import SceneGraph.Proofs.Run

/-!
# Expansion is flattening

The rounds of an expansion replace instances one by one, while connections may run between instances that
are replaced and instances that are not. They succeed exactly when every instance names a group, all that is
used of instances is mapped and no instance lies too deep, and they end in the flat scene that the scene
stands for.

* `Groups.Within`: a node stands inside another, a number of levels down.
* `Groups.Expandable`: when a scene can be expanded.
* `Groups.Sound`: the same of a scene of which some instances are replaced.
* `Groups.sound_replace`: one replacement succeeds and keeps it exactly where it held.
* `Groups.expandRounds_ok_iff`, `Groups.expandRounds_reads`: the rounds.
* `Groups.expand_flattens`: the expansion.
-/
set_option autoImplicit false

namespace SceneGraph

namespace Groups

variable {groups : List Group}

/-! ## Nodes inside nodes -/

/-- The second node stands inside the first, a number of levels down. -/
inductive Within (groups : List Group) : Nat → Node → Node → Prop where
  | self (n : Node) : Within groups 0 n n
  | inner {k : Nat} {n m x : Node} {g : Group} (hg : group? groups n = some g) (hm : m ∈ innerNodes n.id g)
      (h : Within groups k m x) : Within groups (k + 1) n x

theorem Within.eq_or_inside {k : Nat} {n m : Node} (h : Within groups k n m) : m = n ∨ Inside n.id m.id := by
  induction h with
  | self n => exact .inl rfl
  | inner hg hm h ih =>
    have hbelow := inside_of_mem_innerNodes hm
    rcases ih with rfl | hin
    · exact .inr hbelow
    · exact .inr (hbelow.trans hin)

theorem Within.leaf {k : Nat} {n m : Node} (h : Within groups k n m) (hn : group? groups n = none) : m = n ∧ k = 0 := by
  cases h with
  | self => exact ⟨rfl, rfl⟩
  | inner hg hm h =>
    rw [hn] at hg
    cases hg

/-- A property of all nodes inside an instance is one of the instance and of all nodes inside the copies
of its group's nodes. -/
theorem forall_within_instance {n : Node} {g : Group} (hg : group? groups n = some g) {P : Nat → Node → Prop} :
    (∀ k m, Within groups k n m → P k m) ↔
      P 0 n ∧ ∀ x ∈ innerNodes n.id g, ∀ k m, Within groups k x m → P (k + 1) m := by
  constructor
  · intro h
    exact ⟨h 0 n (.self n), fun x hx k m hm => h (k + 1) m (.inner hg hx hm)⟩
  · rintro ⟨hself, hinner⟩ k m hm
    cases hm with
    | self => exact hself
    | inner hg' hx h =>
      obtain rfl := Option.some.inj (hg.symm.trans hg')
      exact hinner _ hx _ m h

/-- Every instance at a node or inside it names a group, and none lies deeper than a number of levels. -/
def Fits (groups : List Group) (d : Nat) (n : Node) : Prop :=
  ∀ k m, Within groups k n m → m.type = instanceType → (group? groups m).isSome ∧ k < d

theorem fits_leaf {n : Node} (hn : n.type ≠ instanceType) (d : Nat) : Fits groups d n := by
  intro k m hm htype
  obtain ⟨rfl, -⟩ := hm.leaf (group?_leaf hn)
  exact absurd htype hn

theorem fits_instance {n : Node} {g : Group} (hg : group? groups n = some g) (d : Nat) :
    Fits groups (d + 1) n ↔ ∀ x ∈ innerNodes n.id g, Fits groups d x := by
  unfold Fits
  rw [forall_within_instance hg]
  simp [hg]

theorem not_fits_undefined {n : Node} (htype : n.type = instanceType) (hg : group? groups n = none) (d : Nat) :
    ¬Fits groups d n := by
  intro h
  have hsome := (h 0 n (.self n) htype).1
  simp [hg] at hsome

/-! ## Mapped ends -/

/-- Every node that an endpoint names maps what it leads to. -/
def MappedAt (groups : List Group) (way : Way) (nodes : List Node) (e : Endpoint) : Prop :=
  ∀ m ∈ nodes, m.id = e.node → Mapped groups way m e.port

/-- Both ends of a connection are mapped. -/
def EndsMapped (groups : List Group) (nodes : List Node) (ends : Endpoint × Endpoint) : Prop :=
  MappedAt groups .source nodes ends.1 ∧ MappedAt groups .target nodes ends.2

/-- The connections inside a node and inside the nodes in it have mapped ends. -/
def InnerMapped (groups : List Group) (n : Node) : Prop :=
  ∀ k m, Within groups k n m → ∀ g, group? groups m = some g →
    ∀ c ∈ g.connections, EndsMapped groups (innerNodes m.id g) (innerConnection m.id c).ends

/-- The node with an id, at a node or inside it, leads to a node to show. -/
def NameMapped (groups : List Group) (n : Node) (id : String) : Prop :=
  ∀ k m, Within groups k n m → m.id = id → Mapped groups .shown m ""

theorem innerMapped_instance {n : Node} {g : Group} (hg : group? groups n = some g) :
    InnerMapped groups n ↔
      (∀ c ∈ g.connections, EndsMapped groups (innerNodes n.id g) (innerConnection n.id c).ends) ∧
        ∀ x ∈ innerNodes n.id g, InnerMapped groups x := by
  unfold InnerMapped
  rw [forall_within_instance hg]
  simp [hg]

theorem nameMapped_instance {n : Node} {g : Group} (hg : group? groups n = some g) {id : String} :
    NameMapped groups n id ↔
      (n.id = id → Mapped groups .shown n "") ∧ ∀ x ∈ innerNodes n.id g, NameMapped groups x id :=
  forall_within_instance hg

theorem nameMapped_of_not_inside {n : Node} {id : String} (hne : n.id ≠ id) (hin : ¬Inside n.id id) :
    NameMapped groups n id := by
  intro k m hm hid
  rcases hm.eq_or_inside with rfl | hm
  · exact absurd hid hne
  · exact absurd (hid ▸ hm) hin

theorem nameMapped_self {n : Node} : NameMapped groups n n.id ↔ Mapped groups .shown n "" := by
  constructor
  · exact fun h => h 0 n (.self n) rfl
  · intro h k m hm hid
    rcases hm.eq_or_inside with rfl | hm
    · exact h
    · exact absurd hid.symm hm.ne

/-- In a graph whose ids lie apart, the id of a node leads on from that node only. -/
theorem Laid.nameMapped {nodes : List Node} {conns : List Connection} (h : Laid nodes conns) {n : Node}
    (hn : n ∈ nodes) :
    (∀ m ∈ nodes, NameMapped groups m n.id) ↔ Mapped groups .shown n "" := by
  constructor
  · exact fun hall => nameMapped_self.1 (hall n hn)
  · intro hmapped m hm
    by_cases hid : m.id = n.id
    · obtain rfl := List.inj_on_of_nodup_map h.distinct hm hn hid
      exact nameMapped_self.2 hmapped
    · have hapart := h.apart.forall (List.mem_map_of_mem hm) (List.mem_map_of_mem hn) hid
      exact nameMapped_of_not_inside hid hapart.left

/-! ## One replacement -/

section Step

variable {as bs : List Node} {n : Node} {g : Group} {conns : List Connection}

theorem mappedAt_instance (h : Laid (as ++ n :: bs) conns) (hg : group? groups n = some g) {way : Way} {e : Endpoint}
    (he : e.node = n.id) :
    MappedAt groups way (as ++ n :: bs) e ↔ way.through g e.port ≠ [] ∧ ∀ p ∈ way.through g e.port,
      MappedAt groups way (as ++ innerNodes n.id g ++ bs) ⟨innerId n.id p.node, p.port⟩ := by
  have hold : MappedAt groups way (as ++ n :: bs) e ↔ Mapped groups way n e.port := by
    constructor
    · exact fun hall => hall n (by simp) he.symm
    · intro hmapped m hm hid
      obtain rfl := List.inj_on_of_nodup_map h.distinct hm (by simp) (hid.trans he)
      exact hmapped
  rw [hold, mapped_instance hg]
  refine and_congr_right fun _ => forall₂_congr fun p _ => ?_
  constructor
  · intro hinner m hm hid
    by_cases hm' : m ∈ innerNodes n.id g
    · exact hinner m hm' hid
    · have hout : m ∈ as ++ bs := by
        simp only [List.mem_append] at hm ⊢
        tauto
      exact absurd ((hid : m.id = innerId n.id p.node) ▸ inside_innerId n.id p.node) (h.left hout).left
  · exact fun hall m hm hid => hall m (by simp [hm]) hid

theorem mappedAt_apart {way : Way} {e : Endpoint} (he : Apart n.id e.node) :
    MappedAt groups way (as ++ innerNodes n.id g ++ bs) e ↔ MappedAt groups way (as ++ n :: bs) e := by
  have hn : n.id ≠ e.node := he.ne
  have hinner : ∀ m ∈ innerNodes n.id g, m.id ≠ e.node := fun m hm hid =>
    he.left (hid ▸ inside_of_mem_innerNodes hm)
  simp only [MappedAt, List.mem_append, List.mem_cons]
  grind

theorem mappedAt_inner (h : Laid (as ++ n :: bs) conns) {way : Way} {a port : String} :
    MappedAt groups way (as ++ innerNodes n.id g ++ bs) ⟨innerId n.id a, port⟩ ↔
      MappedAt groups way (innerNodes n.id g) ⟨innerId n.id a, port⟩ := by
  have hout : ∀ m ∈ as ++ bs, m.id ≠ innerId n.id a := fun m hm hid =>
    (h.left hm).left (hid ▸ inside_innerId n.id a)
  simp only [MappedAt, List.mem_append] at hout ⊢
  grind

/-- The ends of a connection are mapped exactly when it can be rewired and the ends of what it becomes
are mapped. -/
theorem endsMapped_reroute (h : Laid (as ++ n :: bs) conns) (hg : group? groups n = some g) {c : Connection}
    (hc : c ∈ conns) :
    EndsMapped groups (as ++ n :: bs) c.ends ↔
      ((c.target.node = n.id → portsOf g.inputs c.target.port ≠ []) ∧
        (c.target.node ≠ n.id → c.source.node = n.id → portsOf g.outputs c.source.port ≠ [])) ∧
      ∀ c' ∈ reroute n.id g c, EndsMapped groups (as ++ innerNodes n.id g ++ bs) c'.ends := by
  have hsource := h.mem_cases (h.joined c hc).1
  have htarget := h.mem_cases (h.joined c hc).2
  rw [← List.forall_mem_map (P := EndsMapped groups (as ++ innerNodes n.id g ++ bs)), map_ends_reroute]
  simp only [EndsMapped, Connection.ends]
  by_cases ht : c.target.node = n.id
  · have hs : c.source.node ≠ n.id := fun heq => h.loopless c hc n (by simp) (group?_eq_some hg).1 heq ht
    rw [mappedAt_instance h hg ht, ← mappedAt_apart (g := g) (hsource.resolve_left hs).1]
    simp only [Way.through, if_pos ht, List.forall_mem_map]
    cases portsOf g.inputs c.target.port with
    | nil => simp [ht]
    | cons p ps => simp only [List.forall_mem_cons]; grind
  · rw [← mappedAt_apart (g := g) (htarget.resolve_left ht).1]
    by_cases hs : c.source.node = n.id
    · rw [mappedAt_instance h hg hs]
      simp only [Way.through, if_neg ht, if_pos hs, List.forall_mem_map]
      cases portsOf g.outputs c.source.port <;> simp [ht, hs]
    · rw [← mappedAt_apart (g := g) (hsource.resolve_left hs).1]
      simp [ht, hs]

theorem nameMapped_redirect (h : Laid (as ++ n :: bs) conns) (hg : group? groups n = some g) (htidy : TidyGroup g)
    {id : String} :
    (∀ m ∈ as ++ n :: bs, NameMapped groups m id) ↔
      (id = n.id → g.outputs ≠ []) ∧
        ∀ m ∈ as ++ innerNodes n.id g ++ bs, NameMapped groups m (redirect n.id g id) := by
  by_cases hid : id = n.id
  · subst hid
    rw [h.nameMapped (by simp), mapped_instance hg]
    cases hports : g.outputs with
    | nil => simp [Way.through, hports]
    | cons p ps =>
      obtain ⟨m, hm, hmid⟩ := exists_mem_innerNodes n.id (htidy.ports p (by simp [hports]))
      have hlaid := h.replace (group?_eq_some hg).1 htidy
      have hredirect : redirect n.id g n.id = m.id := by simp [redirect, hports, hmid]
      rw [hredirect, hlaid.nameMapped (by simp [hm])]
      simp only [Way.through, hports, List.take_succ_cons, List.take_zero, List.map_cons, List.map_nil,
        List.forall_mem_singleton, ← hmid]
      constructor
      · exact fun hall => ⟨by simp, hall.2 m hm rfl⟩
      · rintro ⟨-, hmapped⟩
        refine ⟨by simp, fun x hx hxid => ?_⟩
        obtain rfl := List.inj_on_of_nodup_map hlaid.distinct (by simp [hx]) (by simp [hm]) hxid
        exact hmapped
  · simp only [redirect, if_neg hid, List.mem_append, List.mem_cons, or_imp, forall_and, forall_eq,
      nameMapped_instance hg]
    grind

end Step

/-- Nothing stands in the way of expanding nodes with their connections and outputs. -/
structure Sound (groups : List Group) (ns : List Placed) (conns : List Connection) (outputs : Table String) : Prop where
  fits : ∀ x ∈ ns, Fits groups x.depth x.node
  wires : ∀ c ∈ conns, EndsMapped groups (ns.map Placed.node) c.ends
  inner : ∀ x ∈ ns, InnerMapped groups x.node
  outputs : ∀ o ∈ outputs, ∀ m ∈ ns.map Placed.node, NameMapped groups m o.2

section Sound

variable {as bs : List Placed} {n : Node} {g : Group} {s : Scene}

/-- An instance can be replaced, with nothing in the way afterwards, exactly when nothing was in the way. -/
theorem sound_replace (hlaid : Laid (as.map Placed.node ++ n :: bs.map Placed.node) s.connections)
    (hg : group? groups n = some g) (htidy : TidyGroup g) (d : Nat) :
    Sound groups (as ++ ⟨d + 1, n⟩ :: bs) s.connections s.outputs ↔
      Replaceable s n.id g ∧ Sound groups (as ++ place d (innerNodes n.id g) ++ bs)
        (replace s n.id g).connections (replace s n.id g).outputs := by
  have hfits : (∀ x ∈ as ++ ⟨d + 1, n⟩ :: bs, Fits groups x.depth x.node) ↔
      ∀ x ∈ as ++ place d (innerNodes n.id g) ++ bs, Fits groups x.depth x.node := by
    simp only [List.mem_append, List.mem_cons, or_imp, forall_and, forall_eq, fits_instance hg, place,
      List.forall_mem_map, and_assoc]
  have hinner : (∀ x ∈ as ++ ⟨d + 1, n⟩ :: bs, InnerMapped groups x.node) ↔
      (∀ c ∈ g.connections, EndsMapped groups (as.map Placed.node ++ innerNodes n.id g ++ bs.map Placed.node)
        (innerConnection n.id c).ends) ∧
      ∀ x ∈ as ++ place d (innerNodes n.id g) ++ bs, InnerMapped groups x.node := by
    simp only [List.mem_append, List.mem_cons, or_imp, forall_and, forall_eq, innerMapped_instance hg, place,
      List.forall_mem_map, EndsMapped, Connection.ends, innerConnection, mappedAt_inner hlaid]
    tauto
  have hwires : (∀ c ∈ s.connections, EndsMapped groups (as.map Placed.node ++ n :: bs.map Placed.node) c.ends) ↔
      (∀ c ∈ s.connections, (c.target.node = n.id → portsOf g.inputs c.target.port ≠ []) ∧
        (c.target.node ≠ n.id → c.source.node = n.id → portsOf g.outputs c.source.port ≠ [])) ∧
      ∀ c ∈ s.connections.flatMap (reroute n.id g),
        EndsMapped groups (as.map Placed.node ++ innerNodes n.id g ++ bs.map Placed.node) c.ends := by
    rw [List.forall_mem_flatMap, ← forall₂_and]
    exact forall₂_congr fun c hc => endsMapped_reroute hlaid hg hc
  have houtputs : (∀ o ∈ s.outputs, ∀ m ∈ as.map Placed.node ++ n :: bs.map Placed.node, NameMapped groups m o.2) ↔
      (∀ o ∈ s.outputs, o.2 = n.id → g.outputs ≠ []) ∧
      ∀ o ∈ s.outputs, ∀ m ∈ as.map Placed.node ++ innerNodes n.id g ++ bs.map Placed.node,
        NameMapped groups m (redirect n.id g o.2) := by
    rw [← forall₂_and]
    exact forall₂_congr fun o _ => nameMapped_redirect hlaid hg htidy
  -- Each condition on the left falls into one on the instance's own ports and the same one afterwards.
  constructor
  · rintro ⟨h1, h2, h3, h4⟩
    rw [List.map_append, List.map_cons] at h2 h4
    obtain ⟨hroutes, hrewired⟩ := hwires.1 h2
    obtain ⟨hconns, hbelow⟩ := hinner.1 h3
    obtain ⟨hshown, hredirected⟩ := houtputs.1 h4
    refine ⟨⟨fun c hc => (hroutes c hc).1, fun c hc => (hroutes c hc).2, hshown⟩, hfits.1 h1, ?_, hbelow, ?_⟩
    · simp only [replace, List.forall_mem_append, List.forall_mem_map, List.map_append, map_node_place]
      exact ⟨hrewired, hconns⟩
    · simpa only [replace, List.forall_mem_map, List.map_append, map_node_place] using hredirected
  · rintro ⟨⟨ht, hs, ho⟩, h1, h2, h3, h4⟩
    simp only [replace, List.forall_mem_append, List.forall_mem_map, List.map_append, map_node_place] at h2
    refine ⟨hfits.2 h1, ?_, hinner.2 ⟨h2.2, h3⟩, ?_⟩
    · rw [List.map_append, List.map_cons]
      exact hwires.2 ⟨fun c hc => ⟨ht c hc, hs c hc⟩, h2.1⟩
    · rw [List.map_append, List.map_cons]
      refine houtputs.2 ⟨ho, fun o hmem => ?_⟩
      have hshown := h4 (o.1, redirect n.id g o.2) (List.mem_map_of_mem hmem)
      simpa only [List.map_append, map_node_place] using hshown

theorem sound_leaf (hn : n.type ≠ instanceType) {conns : List Connection} {outputs : Table String} (d e : Nat) :
    Sound groups (as ++ ⟨d, n⟩ :: bs) conns outputs ↔ Sound groups (as ++ ⟨e, n⟩ :: bs) conns outputs := by
  have hswap : ∀ d e, Sound groups (as ++ ⟨d, n⟩ :: bs) conns outputs →
      Sound groups (as ++ ⟨e, n⟩ :: bs) conns outputs := by
    rintro d e ⟨hfits, hwires, hinner, houtputs⟩
    refine ⟨?_, by simpa using hwires, ?_, by simpa using houtputs⟩
    · simp only [List.mem_append, List.mem_cons, or_imp, forall_and, forall_eq] at hfits ⊢
      exact ⟨hfits.1, fits_leaf hn e, hfits.2.2⟩
    · simpa [or_imp, forall_and] using hinner
  exact ⟨hswap d e, hswap e d⟩

theorem sound_leaves {ns : List Placed} {conns : List Connection} {outputs : Table String}
    (hns : ∀ x ∈ ns, x.node.type ≠ instanceType) : Sound groups ns conns outputs where
  fits x hx := fits_leaf (hns x hx) _
  wires c hc := by
    constructor <;>
    · intro m hm _
      obtain ⟨x, hx, rfl⟩ := List.mem_map.1 hm
      exact mapped_leaf (group?_leaf (hns x hx))
  inner x hx k m hm g hg := by
    obtain ⟨rfl, -⟩ := hm.leaf (group?_leaf (hns x hx))
    rw [group?_leaf (hns x hx)] at hg
    cases hg
  outputs o ho m hm k y hy _ := by
    obtain ⟨x, hx, rfl⟩ := List.mem_map.1 hm
    obtain ⟨rfl, -⟩ := hy.leaf (group?_leaf (hns x hx))
    exact mapped_leaf (group?_leaf (hns x hx))

end Sound

/-! ## Rounds -/

/-- The nodes of a round in between: those it has come past are read one level less deep. -/
def stage (d : Nat) (done rest : List Node) : List Placed := place d done ++ place (d + 1) rest

theorem map_node_stage (d : Nat) (done rest : List Node) : (stage d done rest).map Placed.node = done ++ rest := by
  simp [stage, map_node_place]

theorem stage_cons (d : Nat) (done : List Node) (n : Node) (rest : List Node) :
    stage d done (n :: rest) = place d done ++ ⟨d + 1, n⟩ :: place (d + 1) rest := rfl

theorem stage_leaf (d : Nat) (done : List Node) (n : Node) (rest : List Node) :
    stage d (done ++ [n]) rest = place d done ++ ⟨d, n⟩ :: place (d + 1) rest := by
  simp [stage, place]

theorem stage_append (d : Nat) (done inner rest : List Node) :
    stage d (done ++ inner) rest = place d done ++ place d inner ++ place (d + 1) rest := by
  simp [stage, place]

theorem stage_nil (d : Nat) (done : List Node) : stage d done [] = place d done := by
  simp [stage, place]

section Rounds

variable {s t : Scene} {d : Nat}

theorem laid_stage {done rest : List Node} {n : Node} {conns : List Connection}
    (h : Laid (done ++ n :: rest) conns) :
    Laid ((place d done).map Placed.node ++ n :: (place (d + 1) rest).map Placed.node) conns := by
  simpa only [map_node_place] using h

/-- The graph of a scene of which a round has come past some nodes. -/
structure Underway (groups : List Group) (done rest : List Node) (s : Scene) : Prop where
  groups : s.groups = groups
  laid : Laid (done ++ rest) s.connections

theorem Underway.leaf {done rest : List Node} {n : Node} (h : Underway groups done (n :: rest) s) :
    Underway groups (done ++ [n]) rest s :=
  ⟨h.groups, by simpa using h.laid⟩

theorem Underway.replace (hgroups : ∀ g ∈ groups, TidyGroup g) {done rest : List Node} {n : Node} {g : Group}
    (hg : group? groups n = some g) (h : Underway groups done (n :: rest) s) :
    Underway groups (done ++ innerNodes n.id g) rest (replace s n.id g) :=
  ⟨h.groups, h.laid.replace (group?_eq_some hg).1 (hgroups g (mem_of_group? hg))⟩

/-- A round succeeds, with nothing in the way of the next, exactly when nothing is in the way. -/
theorem expandNodes_sound (hgroups : ∀ g ∈ groups, TidyGroup g) (h : Underway groups [] s.nodes s) :
    Sound groups (place (d + 1) s.nodes) s.connections s.outputs ↔
      ∃ t nodes count, expandNodes groups s s.nodes = .ok (t, nodes, count) ∧
        Sound groups (place d nodes) t.connections t.outputs := by
  have hiff : Sound groups (stage d [] s.nodes) s.connections s.outputs ↔
      ∃ t nodes count, expandNodes groups s s.nodes = .ok (t, nodes, count) ∧
        Sound groups (stage d ([] ++ nodes) []) t.connections t.outputs := expandNodes_ok_iff (I := Underway groups)
    (P := fun done rest s => Sound groups (stage d done rest) s.connections s.outputs)
    (fun _ hI => hI.leaf) (fun hg _ hI => hI.replace hgroups hg)
    (fun {done n rest s} hn => by
      rw [stage_cons, stage_leaf]
      exact sound_leaf hn (d + 1) d)
    (fun {done n rest s} htype hg hsound =>
      not_fits_undefined htype hg (d + 1) (hsound.fits ⟨d + 1, n⟩ (by simp [stage_cons])))
    (fun {done n rest s g} hg hI => by
      rw [stage_cons, stage_append]
      exact sound_replace (laid_stage hI.laid) hg (hgroups g (mem_of_group? hg)) d) h
  simp only [stage_nil, List.nil_append] at hiff
  exact hiff

theorem not_sound_of_instance {n : Node} (hn : n ∈ s.nodes) (htype : n.type = instanceType) :
    ¬Sound groups (place 0 s.nodes) s.connections s.outputs := by
  intro h
  exact Nat.not_lt_zero 0 (h.fits ⟨0, n⟩ (List.mem_map_of_mem hn) 0 n (.self n) htype).2

/-- The rounds succeed exactly when nothing is in the way. -/
theorem expandRounds_ok_iff {limit : Int} {total : Nat} (hgroups : ∀ g ∈ groups, TidyGroup g)
    (h : Underway groups [] s.nodes s) :
    (∃ t, (expandRounds limit d total s).result = .ok t) ↔ Sound groups (place d s.nodes) s.connections s.outputs := by
  induction d generalizing s total with
  | zero =>
    unfold expandRounds
    cases hfind : s.nodes.find? fun n => n.type == instanceType with
    | none =>
      refine ⟨fun _ => sound_leaves ?_, fun _ => ⟨s, rfl⟩⟩
      simpa [place] using hfind
    | some n =>
      have htype := List.find?_some hfind
      have hnot : ¬Sound groups (place 0 s.nodes) s.connections s.outputs :=
        not_sound_of_instance (List.mem_of_find?_eq_some hfind) (by simpa using htype)
      simp [refuse, hnot]
  | succ d ih =>
    unfold expandRounds
    cases hfind : s.nodes.find? fun n => n.type == instanceType with
    | none =>
      refine ⟨fun _ => sound_leaves ?_, fun _ => ⟨s, rfl⟩⟩
      simpa [place] using hfind
    | some n =>
      -- One round and one level: what is left fits the remaining rounds.
      rw [expandNodes_sound hgroups h, h.groups]
      cases hrun : expandNodes groups s s.nodes with
      | error e => simp
      | ok made =>
        obtain ⟨t, nodes, count⟩ := made
        have hend := expandNodes_invariant (P := Underway groups) (fun _ hI => hI.leaf)
          (fun hg _ hI => hI.replace hgroups hg) h hrun
        have hunder : Underway groups [] nodes { t with nodes } := ⟨hend.groups, by simpa using hend.laid⟩
        simpa using ih hunder

/-- A round keeps what the scene stands for. -/
theorem expandNodes_reads (hgroups : ∀ g ∈ groups, TidyGroup g) (h : Underway groups [] s.nodes s)
    (hsound : Sound groups (place (d + 1) s.nodes) s.connections s.outputs)
    {flat nodes : List Node} {wires : List (Endpoint × Endpoint)} {shown : Table String}
    (hreads : Reads groups (place (d + 1) s.nodes) s.connections s.outputs flat wires shown)
    {count : Nat} (hrun : expandNodes groups s s.nodes = .ok (t, nodes, count)) :
    Underway groups [] nodes t ∧ Sound groups (place d nodes) t.connections t.outputs ∧
      Reads groups (place d nodes) t.connections t.outputs flat wires shown := by
  -- Along the round; `Sound` is there for the outputs, which are read only where they are mapped.
  have hend := expandNodes_invariant
    (P := fun done rest s => Underway groups done rest s ∧
      Sound groups (stage d done rest) s.connections s.outputs ∧
      Reads groups (stage d done rest) s.connections s.outputs flat wires shown)
    (fun {done n rest s} hn hI => by
      rw [stage_leaf]
      exact ⟨hI.1.leaf, (sound_leaf hn (d + 1) d).1 hI.2.1, hI.2.2.leaf (group?_leaf hn)⟩)
    (fun {done n rest s g} hg _ hI => by
      obtain ⟨hunder, hsound, hreads⟩ := hI
      have hmapped : ∀ o ∈ s.outputs, n.id = o.2 → Mapped groups .shown n "" := fun o ho hid =>
        hsound.outputs o ho n (by simp [map_node_stage]) 0 n (.self n) hid
      rw [stage_append]
      exact ⟨hunder.replace hgroups hg,
        ((sound_replace (laid_stage hunder.laid) hg (hgroups g (mem_of_group? hg)) d).1 hsound).2,
        hreads.replace hgroups (laid_stage hunder.laid) hg hmapped⟩)
    ⟨h, hsound, hreads⟩ hrun
  simp only [stage_nil, List.nil_append] at hend
  exact ⟨⟨hend.1.groups, by simpa using hend.1.laid⟩, hend.2⟩

/-- Rounds that succeed end in the scene that the scene stands for. -/
theorem expandRounds_reads {limit : Int} {total : Nat} (hgroups : ∀ g ∈ groups, TidyGroup g)
    (h : Underway groups [] s.nodes s) {flat : List Node} {wires : List (Endpoint × Endpoint)} {shown : Table String}
    (hreads : Reads groups (place d s.nodes) s.connections s.outputs flat wires shown)
    (hrun : (expandRounds limit d total s).result = .ok t) :
    t.nodes = flat ∧ (t.connections.map Connection.ends).Perm wires ∧ t.outputs = shown ∧
      Laid t.nodes t.connections ∧ ∀ n ∈ t.nodes, n.type ≠ instanceType := by
  have hsound := (expandRounds_ok_iff hgroups h).1 ⟨t, hrun⟩
  obtain ⟨⟨e, hunder, -, hend⟩, hleaves⟩ := expandRounds_invariant
    (P := fun d s => Underway groups [] s.nodes s ∧ Sound groups (place d s.nodes) s.connections s.outputs ∧
      Reads groups (place d s.nodes) s.connections s.outputs flat wires shown)
    (fun {d s t nodes count} hI hnodes => by
      obtain ⟨hunder, hsound, hreads⟩ := hI
      rw [hunder.groups] at hnodes
      obtain ⟨hunder, hrest⟩ := expandNodes_reads hgroups hunder hsound hreads hnodes
      exact ⟨⟨hunder.groups, hunder.laid⟩, hrest⟩)
    ⟨h, hsound, hreads⟩ hrun
  -- Without instances, a scene stands for itself.
  have hself : Reads groups (place e t.nodes) t.connections t.outputs _ _ _ := reads_leaves
    (by simpa [place] using fun n hn => group?_leaf (hleaves n hn))
    (by simpa only [map_node_place, List.nil_append] using hunder.laid)
  rw [map_node_place] at hself
  exact ⟨hself.nodes.symm.trans hend.nodes, hself.wires.symm.trans hend.wires,
    hself.outputs.symm.trans hend.outputs, hunder.laid, hleaves⟩

end Rounds

/-! ## The expansion -/

variable (groups) in
/-- The nodes that a node stands for below a path of instances. The id of each is its whole path. -/
def copies : Nat → List String → Node → List Node
  | 0, path, n => [{ n with id := "/".intercalate (path ++ [n.id]) }]
  | d + 1, path, n =>
    match group? groups n with
    | none => [{ n with id := "/".intercalate (path ++ [n.id]) }]
    | some g => g.nodes.flatMap (copies d (path ++ [n.id]))

variable (groups) in
theorem leaves_eq_copies (d : Nat) (path : List String) (n : Node) :
    leaves groups d { n with id := "/".intercalate (path ++ [n.id]) } = copies groups d path n := by
  induction d generalizing path n with
  | zero => rfl
  | succ d ih =>
    have hsame : group? groups { n with id := "/".intercalate (path ++ [n.id]) } = group? groups n := rfl
    cases hg : group? groups n with
    | none => rw [leaves_leaf (hsame.trans hg), copies, hg]
    | some g =>
      rw [leaves, hsame, copies, hg]
      simp only [innerNodes, List.flatMap_map]
      refine List.flatMap_congr fun m _ => ?_
      have hid : innerId ("/".intercalate (path ++ [n.id])) m.id = "/".intercalate (path ++ [n.id] ++ [m.id]) := by
        have hjoin := String.intercalate_append_of_ne_nil (s := "/") (l := path ++ [n.id]) (m := [m.id])
          (by simp) (by simp)
        rw [hjoin, String.intercalate_singleton, innerId]
      rw [hid, ih]

theorem flatNodes_eq_copies (d : Nat) (nodes : List Node) :
    flatNodes groups (place d nodes) = nodes.flatMap (copies groups d []) := by
  rw [flatNodes, place, List.flatMap_map]
  refine List.flatMap_congr fun n _ => ?_
  simpa using leaves_eq_copies groups d [] n

/-- When a scene can be expanded: every instance that it holds, those inside instances included, names a
group and lies at most so deep; and every port of an instance that a connection or an output uses, be it
through the ports of other instances, is mapped. -/
structure Expandable (maxDepth : Int) (s : Scene) : Prop where
  defined : ∀ n ∈ s.nodes, ∀ k m, Within s.groups k n m → m.type = instanceType → (group? s.groups m).isSome
  shallow : ∀ n ∈ s.nodes, ∀ k m, Within s.groups k n m → m.type = instanceType → (k : Int) + 1 ≤ maxDepth
  wires : ∀ c ∈ s.connections, EndsMapped s.groups s.nodes c.ends
  inner : ∀ n ∈ s.nodes, InnerMapped s.groups n
  outputs : ∀ o ∈ s.outputs, ∀ n ∈ s.nodes, NameMapped s.groups n o.2

theorem sound_place_iff {maxDepth : Int} {s : Scene} :
    Sound s.groups (place maxDepth.toNat s.nodes) s.connections s.outputs ↔ Expandable maxDepth s := by
  constructor
  · rintro ⟨hfits, hwires, hinner, houtputs⟩
    have hfits : ∀ n ∈ s.nodes, Fits s.groups maxDepth.toNat n := fun n hn => hfits ⟨_, n⟩ (List.mem_map_of_mem hn)
    rw [map_node_place] at hwires houtputs
    refine ⟨fun n hn k m hm htype => (hfits n hn k m hm htype).1, ?_, hwires,
      fun n hn => hinner ⟨maxDepth.toNat, n⟩ (List.mem_map_of_mem hn), houtputs⟩
    intro n hn k m hm htype
    have hlt := (hfits n hn k m hm htype).2
    omega
  · rintro ⟨hdefined, hshallow, hwires, hinner, houtputs⟩
    refine ⟨?_, by simpa only [map_node_place] using hwires, ?_, by simpa only [map_node_place] using houtputs⟩
    · intro x hx
      obtain ⟨n, hn, rfl⟩ := List.mem_map.1 hx
      intro k m hm htype
      have hle := hshallow n hn k m hm htype
      exact ⟨hdefined n hn k m hm htype, show k < maxDepth.toNat by omega⟩
    · intro x hx
      obtain ⟨n, hn, rfl⟩ := List.mem_map.1 hx
      exact hinner n hn

/-- A scene is the flattening of another, read to a depth: its nodes are the copies of the nodes that are
no instances, in order and with their paths as ids; its connections join, for each connection of the other
scene or of an instance in it, the one port it starts at with all the ports it lands on; and its outputs
are the nodes that the outputs show. -/
structure Flattens (d : Nat) (s t : Scene) : Prop where
  nodes : t.nodes = s.nodes.flatMap (copies s.groups d [])
  leaves : ∀ n ∈ t.nodes, n.type ≠ instanceType
  distinct : t.nodeIds.Nodup
  wires : (t.connections.map Connection.ends).Perm (flatWires s.groups (place d s.nodes) s.connections)
  ends : ∀ c ∈ t.connections, c.source.node ∈ t.nodeIds ∧ c.target.node ∈ t.nodeIds
  starts : ∀ c ∈ s.connections, ∃ e, resolveAt s.groups .source (place d s.nodes) c.source = [e]
  outputs : t.outputs = flatOutputs s.groups (place d s.nodes) s.outputs

theorem expand_of_expandable {maxDepth : Int} {s t : Scene} (hs : Expandable maxDepth s)
    (h : (expandRounds maxDepth maxDepth.toNat 0 s).result = .ok t) : ∃ t, (expand maxDepth s).result = .ok t := by
  unfold expand
  split
  · rename_i hempty
    cases hfind : s.nodes.find? fun n => n.type == instanceType with
    | none => exact ⟨s, rfl⟩
    | some n =>
      have hdefined := hs.defined n (List.mem_of_find?_eq_some hfind) 0 n (.self n)
        (by simpa using List.find?_some hfind)
      simp [group?, find?, List.isEmpty_iff.1 hempty] at hdefined
  · exact ⟨t, h⟩

/-- Expansion succeeds exactly on the scenes that can be expanded, and flattens them. -/
theorem expand_flattens (maxDepth : Int) (s : Scene) (hscene : Tidy s.nodes s.connections)
    (hgroups : ∀ g ∈ s.groups, TidyGroup g) :
    ((∃ t, (expand maxDepth s).result = .ok t) ↔ Expandable maxDepth s) ∧
      ∀ t, (expand maxDepth s).result = .ok t → Flattens maxDepth.toNat s t := by
  have hunder : Underway s.groups [] s.nodes s := ⟨rfl, hscene.laid⟩
  have hrounds : (∃ t, (expandRounds maxDepth maxDepth.toNat 0 s).result = .ok t) ↔
      Sound s.groups (place maxDepth.toNat s.nodes) s.connections s.outputs := expandRounds_ok_iff hgroups hunder
  rw [sound_place_iff] at hrounds
  refine ⟨⟨fun ⟨t, h⟩ => hrounds.1 ⟨t, expandRounds_of_expand h⟩, fun h => ?_⟩, fun t h => ?_⟩
  · obtain ⟨t, ht⟩ := hrounds.2 h
    exact expand_of_expandable h ht
  · have hrun := expandRounds_of_expand h
    have hexpandable := hrounds.1 ⟨t, hrun⟩
    obtain ⟨hnodes, hwires, houtputs, hlaid, hleaves⟩ := expandRounds_reads hgroups hunder ⟨rfl, .refl _, rfl⟩ hrun
    refine ⟨hnodes.trans (flatNodes_eq_copies _ _), hleaves, hlaid.distinct, hwires, hlaid.joined, ?_, houtputs⟩
    intro c hc
    obtain ⟨n, hn, hid⟩ := List.mem_map.1 (hscene.joined c hc).1
    have hdistinct : ((place maxDepth.toNat s.nodes).map fun x => x.node.id).Nodup := by
      simpa [place, Function.comp_def] using hscene.distinct
    obtain ⟨e, he⟩ := resolve_unique hgroups (by decide) (d := maxDepth.toNat) ((hexpandable.wires c hc).1 n hn hid)
    refine ⟨e, ?_⟩
    rw [resolveAt, ← hid, filter_eq_singleton hdistinct (x := ⟨maxDepth.toNat, n⟩) (List.mem_map_of_mem hn),
      List.flatMap_singleton]
    exact he

end Groups

/-- A frame around a core: an instance with an instance in it, whose input leads into both. -/
def Scene.framed : Scene where
  nodes := [{ id := "screen", type := "Screen" },
    { id := "frame", type := "Group", params := [("groupId", .str "frame")] }, { id := "tint", type := "Color" }]
  connections := [{ id := "c0", source := ⟨"tint", "color"⟩, target := ⟨"frame", "tone"⟩ },
    { id := "c1", source := ⟨"frame", "out"⟩, target := ⟨"screen", "pass"⟩ }]
  outputs := [("main", "screen"), ("preview", "frame")]
  groups := [
    { id := "frame"
      nodes := [{ id := "core", type := "Group", params := [("groupId", .str "core")] },
        { id := "draw", type := "RenderPass" }]
      connections := [{ id := "c0", source := ⟨"core", "shade"⟩, target := ⟨"draw", "color"⟩ }]
      inputs := [⟨"tone", "core", "in"⟩, ⟨"tone", "draw", "tint"⟩]
      outputs := [⟨"out", "draw", "pass"⟩] },
    { id := "core"
      nodes := [{ id := "base", type := "Color" }, { id := "mix", type := "Mix" }]
      connections := [{ id := "c0", source := ⟨"base", "color"⟩, target := ⟨"mix", "b"⟩ }]
      inputs := [⟨"in", "mix", "a"⟩]
      outputs := [⟨"shade", "mix", "value"⟩] }]

theorem Scene.framed_expands : (Groups.expand 2 Scene.framed).result.toOption.any (fun t =>
    t.nodeIds == ["screen", "frame/core/base", "frame/core/mix", "frame/draw", "tint"] &&
      t.connections.map (fun c => (c.id, c.ends)) ==
        [("c0", ⟨"tint", "color"⟩, ⟨"frame/core/mix", "a"⟩), ("c0#1", ⟨"tint", "color"⟩, ⟨"frame/draw", "tint"⟩),
          ("c1", ⟨"frame/draw", "pass"⟩, ⟨"screen", "pass"⟩),
          ("frame/c0", ⟨"frame/core/mix", "value"⟩, ⟨"frame/draw", "color"⟩),
          ("frame/core/c0", ⟨"frame/core/base", "color"⟩, ⟨"frame/core/mix", "b"⟩)] &&
      t.outputs == [("main", "screen"), ("preview", "frame/draw")]) = true := by
  decide +kernel

theorem Scene.framed_flattens : Groups.Tidy Scene.framed.nodes Scene.framed.connections ∧
    (∀ g ∈ Scene.framed.groups, Groups.TidyGroup g) ∧ Groups.Expandable 2 Scene.framed ∧
    ∃ t, (Groups.expand 2 Scene.framed).result = .ok t ∧
      t.nodeIds = ["screen", "frame/core/base", "frame/core/mix", "frame/draw", "tint"] ∧
      t.outputs = [("main", "screen"), ("preview", "frame/draw")] ∧ Groups.Flattens 2 Scene.framed t := by
  have hscene : Groups.Tidy Scene.framed.nodes Scene.framed.connections := by decide +kernel
  have hgroups : ∀ g ∈ Scene.framed.groups, Groups.TidyGroup g := by decide +kernel
  obtain ⟨t, ht, hchecks⟩ := Option.any_eq_true _ _ |>.1 Scene.framed_expands
  simp only [Bool.and_eq_true, beq_iff_eq] at hchecks
  obtain ⟨hiff, hflat⟩ := Groups.expand_flattens 2 Scene.framed hscene hgroups
  have ht := eq_ok_of_toOption ht
  exact ⟨hscene, hgroups, hiff.1 ⟨t, ht⟩, t, ht, hchecks.1.1, hchecks.2, hflat t ht⟩

end SceneGraph
