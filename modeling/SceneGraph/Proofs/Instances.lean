import Mathlib.Data.List.Basic
import SceneGraph.Prepare.Groups

/-!
# Replacing one instance

What it takes to replace one instance of a group by a copy of the group's contents, and what the scene
is afterwards. A round replaces the instances among a list of nodes one after the other, so a statement
about a round is a statement about one replacement.

* `Groups.Inside`, `Groups.Apart`: ids that lie inside one another, and ids that do not.
* `Groups.instantiate_eq_ok`: when an instance can be replaced, and the scene that results.
* `Groups.expandNodes_invariant`: what every replacement keeps, a round keeps.
* `Groups.expand_invariant`: and so does the expansion.
* `Groups.expandNodes_ok_iff`: a round succeeds exactly when every replacement of it does.
-/
set_option autoImplicit false

namespace SceneGraph

/-- The two ends of a connection. -/
def Connection.ends (c : Connection) : Endpoint × Endpoint := (c.source, c.target)

namespace Groups

/-! ## Ids inside ids -/

/-- The second id names something inside the first. -/
def Inside (a b : String) : Prop := ∃ r, b = innerId a r

/-- Two different ids, neither inside the other. -/
structure Apart (a b : String) : Prop where
  ne : a ≠ b
  left : ¬Inside a b
  right : ¬Inside b a

theorem Apart.symm {a b : String} (h : Apart a b) : Apart b a := ⟨h.ne.symm, h.right, h.left⟩

instance : Std.Symm Apart := ⟨fun _ _ => Apart.symm⟩

theorem toList_innerId (a x : String) : (innerId a x).toList = a.toList ++ '/' :: x.toList := by
  simp [innerId]

theorem innerId_inj {a x y : String} : innerId a x = innerId a y ↔ x = y := by
  rw [← String.toList_inj, toList_innerId, toList_innerId, List.append_cancel_left_eq, List.cons.injEq,
    String.toList_inj]
  simp

theorem inside_innerId (a x : String) : Inside a (innerId a x) := ⟨x, rfl⟩

theorem Inside.trans {a b c : String} (hab : Inside a b) (hbc : Inside b c) : Inside a c := by
  obtain ⟨x, rfl⟩ := hab
  obtain ⟨y, rfl⟩ := hbc
  refine ⟨innerId x y, ?_⟩
  rw [← String.toList_inj]
  simp [toList_innerId]

theorem Inside.length_lt {a b : String} (h : Inside a b) : a.toList.length < b.toList.length := by
  obtain ⟨x, rfl⟩ := h
  rw [toList_innerId, List.length_append, List.length_cons]
  omega

theorem Inside.ne {a b : String} (h : Inside a b) : a ≠ b := by
  rintro rfl
  exact Nat.lt_irrefl _ h.length_lt

/-- What an id without separators is set behind holds all the ids it lies in. -/
theorem Inside.of_innerId {a b x : String} (hx : '/' ∉ x.toList) (h : Inside b (innerId a x)) : b = a ∨ Inside b a := by
  obtain ⟨r, hr⟩ := h
  rw [← String.toList_inj, toList_innerId, toList_innerId] at hr
  obtain ⟨cs, hb, hcs⟩ | ⟨cs, ha, -⟩ := List.append_eq_append_iff.1 hr
  · cases cs with
    | nil => exact .inl (String.toList_inj.1 (by simpa using hb))
    | cons c cs =>
      -- The separator after `b` would stand inside `x`.
      rw [List.cons_append, List.cons.injEq] at hcs
      exact absurd (by rw [hcs.2]; simp) hx
  · cases cs with
    | nil => exact .inl (String.toList_inj.1 (by simpa using ha.symm))
    | cons c cs =>
      rw [ha, List.append_assoc, List.append_cancel_left_eq, List.cons_append, List.cons.injEq] at hr
      refine .inr ⟨String.ofList cs, ?_⟩
      rw [← String.toList_inj, toList_innerId, String.toList_ofList, ha, hr.1]

theorem Apart.innerId {a b x : String} (h : Apart a b) (hx : '/' ∉ x.toList) : Apart (innerId a x) b where
  ne := by
    rintro rfl
    exact h.left (inside_innerId a x)
  left hin := h.left ((inside_innerId a x).trans hin)
  right hin := by
    rcases hin.of_innerId hx with rfl | hin
    · exact h.ne rfl
    · exact h.right hin

theorem not_inside_siblings {a x y : String} (hy : '/' ∉ y.toList) : ¬Inside (innerId a x) (innerId a y) := by
  intro h
  rcases h.of_innerId hy with heq | hin
  · exact (inside_innerId a x).ne heq.symm
  · exact ((inside_innerId a x).trans hin).ne rfl

theorem apart_siblings {a x y : String} (hx : '/' ∉ x.toList) (hy : '/' ∉ y.toList) (hne : x ≠ y) :
    Apart (innerId a x) (innerId a y) :=
  ⟨fun h => hne (innerId_inj.1 h), not_inside_siblings hy, not_inside_siblings hx⟩

theorem apart_plain {a b : String} (ha : '/' ∉ a.toList) (hb : '/' ∉ b.toList) (hne : a ≠ b) : Apart a b where
  ne := hne
  left := by
    rintro ⟨r, rfl⟩
    exact hb (by simp [toList_innerId])
  right := by
    rintro ⟨r, rfl⟩
    exact ha (by simp [toList_innerId])

theorem pairwise_apart {nodes : List Node} (hplain : ∀ n ∈ nodes, '/' ∉ n.id.toList)
    (hdistinct : (nodes.map Node.id).Nodup) : (nodes.map Node.id).Pairwise Apart := by
  rw [List.pairwise_map]
  refine (List.pairwise_map.1 hdistinct).imp_of_mem ?_
  intro a b ha hb hne
  exact apart_plain (hplain a ha) (hplain b hb) hne

/-! ## One instance -/

/-- The group that a node is an instance of. -/
def group? (groups : List Group) (n : Node) : Option Group :=
  if n.type = instanceType then find? groups (n.stringOr "groupId" "") else none

/-- What a connection becomes when an instance is replaced. -/
def reroute (inst : String) (g : Group) (c : Connection) : List Connection :=
  if c.target.node = inst then fanOut inst c (portsOf g.inputs c.target.port)
  else if c.source.node = inst then
    ((portsOf g.outputs c.source.port).take 1).map fun p => { c with source := ⟨innerId inst p.node, p.port⟩ }
  else [c]

/-- What an output becomes when an instance is replaced. -/
def redirect (inst : String) (g : Group) (id : String) : String :=
  if id = inst then ((g.outputs.take 1).map fun p => innerId inst p.node).headD id else id

/-- The connections and outputs of a scene once an instance is replaced. -/
def replace (s : Scene) (inst : String) (g : Group) : Scene :=
  { s with
    connections := s.connections.flatMap (reroute inst g) ++ g.connections.map (innerConnection inst)
    outputs := s.outputs.map fun o => (o.1, redirect inst g o.2) }

/-- The group maps what the connections and outputs of a scene use of its instance. A connection from
the instance to itself counts only where it lands. -/
structure Replaceable (s : Scene) (inst : String) (g : Group) : Prop where
  targets : ∀ c ∈ s.connections, c.target.node = inst → portsOf g.inputs c.target.port ≠ []
  sources : ∀ c ∈ s.connections, c.target.node ≠ inst → c.source.node = inst → portsOf g.outputs c.source.port ≠ []
  outputs : ∀ o ∈ s.outputs, o.2 = inst → g.outputs ≠ []

/-! ### Inner nodes -/

theorem mem_innerNodes {inst : String} {g : Group} {m : Node} (h : m ∈ innerNodes inst g) :
    ∃ x ∈ g.nodes, m = { x with id := innerId inst x.id } := by
  obtain ⟨x, hx, rfl⟩ := List.mem_map.1 h
  exact ⟨x, hx, rfl⟩

theorem inside_of_mem_innerNodes {inst : String} {g : Group} {m : Node} (h : m ∈ innerNodes inst g) :
    Inside inst m.id := by
  obtain ⟨x, -, rfl⟩ := mem_innerNodes h
  exact inside_innerId inst x.id

theorem map_id_innerNodes (inst : String) (g : Group) :
    (innerNodes inst g).map Node.id = (g.nodes.map Node.id).map (innerId inst) := by
  simp [innerNodes]

theorem mem_map_id_innerNodes {inst a : String} {g : Group} :
    innerId inst a ∈ (innerNodes inst g).map Node.id ↔ a ∈ g.nodes.map Node.id := by
  rw [map_id_innerNodes, List.mem_map]
  constructor
  · rintro ⟨b, hb, heq⟩
    exact innerId_inj.1 heq ▸ hb
  · exact fun ha => ⟨a, ha, rfl⟩

/-- Every node of a group has its copy in each instance. -/
theorem exists_mem_innerNodes (inst : String) {a : String} {g : Group} (ha : a ∈ g.nodes.map Node.id) :
    ∃ m ∈ innerNodes inst g, m.id = innerId inst a :=
  List.mem_map.1 (mem_map_id_innerNodes.2 ha)

section Around

variable {as bs : List Node} {n : Node} {g : Group}

theorem apart_of_mem (h : ((as ++ n :: bs).map Node.id).Pairwise Apart) {m : Node} (hm : m ∈ as ++ bs) :
    Apart n.id m.id := by
  rw [List.map_append, List.map_cons, List.pairwise_append, List.pairwise_cons] at h
  rcases List.mem_append.1 hm with hm | hm
  · exact (h.2.2 m.id (List.mem_map_of_mem hm) n.id List.mem_cons_self).symm
  · exact h.2.1.1 m.id (List.mem_map_of_mem hm)

/-- Ids that lie apart do so after an instance is replaced. -/
theorem apart_replace (h : ((as ++ n :: bs).map Node.id).Pairwise Apart) (hplain : ∀ x ∈ g.nodes, '/' ∉ x.id.toList)
    (hdistinct : (g.nodes.map Node.id).Nodup) : ((as ++ innerNodes n.id g ++ bs).map Node.id).Pairwise Apart := by
  have hinner : ((innerNodes n.id g).map Node.id).Pairwise Apart := by
    rw [map_id_innerNodes, List.map_map, List.pairwise_map]
    refine (List.pairwise_map.1 hdistinct).imp_of_mem ?_
    intro x y hx hy hne
    exact apart_siblings (hplain x hx) (hplain y hy) hne
  have hacross : ∀ m ∈ innerNodes n.id g, ∀ o ∈ as ++ bs, Apart m.id o.id := by
    intro m hm o ho
    obtain ⟨x, hx, rfl⟩ := mem_innerNodes hm
    exact (apart_of_mem h ho).innerId (hplain x hx)
  simp only [List.map_append, List.map_cons, List.pairwise_append, List.pairwise_cons, List.mem_cons,
    List.forall_mem_map, List.mem_append] at h hacross hinner ⊢
  grind [Apart.symm]

end Around

section Replacement

variable {inst : String} {g : Group}

theorem rewire_eq_ok {c : Connection} {cs : List Connection} :
    rewire inst g c = .ok cs ↔
      ((c.target.node = inst → portsOf g.inputs c.target.port ≠ []) ∧
        (c.target.node ≠ inst → c.source.node = inst → portsOf g.outputs c.source.port ≠ [])) ∧
      reroute inst g c = cs := by
  unfold rewire reroute
  by_cases ht : c.target.node = inst
  · cases hp : portsOf g.inputs c.target.port with
    | nil => simp [ht, refuse]
    | cons p ps => simp [ht]
  · by_cases hs : c.source.node = inst
    · cases hp : portsOf g.outputs c.source.port with
      | nil => simp [ht, hs, refuse]
      | cons p ps => simp [ht, hs]
    · simp [ht, hs]

theorem rewireAll_eq_ok {conns cs : List Connection} :
    rewireAll inst g conns = .ok cs ↔
      (∀ c ∈ conns, (c.target.node = inst → portsOf g.inputs c.target.port ≠ []) ∧
        (c.target.node ≠ inst → c.source.node = inst → portsOf g.outputs c.source.port ≠ [])) ∧
      conns.flatMap (reroute inst g) = cs := by
  induction conns generalizing cs with
  | nil => simp [rewireAll]
  | cons c rest ih =>
    rw [rewireAll, List.forall_mem_cons, List.flatMap_cons]
    constructor
    · intro h
      cases hc : rewire inst g c with
      | error e => simp [hc, bind, Except.bind] at h
      | ok first =>
        cases hrest : rewireAll inst g rest with
        | error e => simp [hc, hrest, bind, Except.bind] at h
        | ok others =>
          simp only [hc, hrest, bind, Except.bind, pure, Except.pure, Except.ok.injEq] at h
          obtain ⟨hroute, rfl⟩ := rewire_eq_ok.1 hc
          obtain ⟨hroutes, rfl⟩ := ih.1 hrest
          exact ⟨⟨hroute, hroutes⟩, h⟩
    · rintro ⟨⟨hroute, hroutes⟩, rfl⟩
      rw [rewire_eq_ok.2 ⟨hroute, rfl⟩, ih.2 ⟨hroutes, rfl⟩]
      rfl

theorem rewireOutputs_eq_ok {outputs os : Table String} :
    rewireOutputs inst g outputs = .ok os ↔
      (∀ o ∈ outputs, o.2 = inst → g.outputs ≠ []) ∧ outputs.map (fun o => (o.1, redirect inst g o.2)) = os := by
  induction outputs generalizing os with
  | nil => simp [rewireOutputs]
  | cons o rest ih =>
    obtain ⟨name, id⟩ := o
    rw [rewireOutputs, List.forall_mem_cons, List.map_cons]
    have hrest : ∀ first : String × String,
        (rewireOutputs inst g rest >>= fun others => pure (first :: others)) = .ok os ↔
          (∀ o ∈ rest, o.2 = inst → g.outputs ≠ []) ∧
            first :: rest.map (fun o => (o.1, redirect inst g o.2)) = os := by
      intro first
      constructor
      · intro h
        cases hr : rewireOutputs inst g rest with
        | error e => simp [hr, bind, Except.bind] at h
        | ok others =>
          simp only [hr, bind, Except.bind, pure, Except.pure, Except.ok.injEq] at h
          obtain ⟨hall, rfl⟩ := ih.1 hr
          exact ⟨hall, h⟩
      · rintro ⟨hall, rfl⟩
        rw [ih.2 ⟨hall, rfl⟩]
        rfl
    by_cases hid : id = inst
    · cases hg : g.outputs with
      | nil => simp [hid, refuse]
      | cons p ps =>
        simp only [if_pos hid, hrest, hg]
        simp [redirect, hid, hg]
    · simp only [if_neg hid, hrest]
      simp [redirect, hid]

theorem map_ends_fanOut (c : Connection) (ps : List GroupPort) :
    (fanOut inst c ps).map Connection.ends = ps.map fun p => (c.source, ⟨innerId inst p.node, p.port⟩) := by
  calc (fanOut inst c ps).map Connection.ends
      = (ps.zipIdx.map Prod.fst).map fun p => (c.source, ⟨innerId inst p.node, p.port⟩) := by
        simp only [fanOut, List.map_map]
        rfl
    _ = ps.map fun p => (c.source, ⟨innerId inst p.node, p.port⟩) := by rw [List.zipIdx_map_fst]

/-- The ends of what a connection becomes: all that rewiring changes, apart from ids. -/
theorem map_ends_reroute (c : Connection) :
    (reroute inst g c).map Connection.ends =
      if c.target.node = inst then
        (portsOf g.inputs c.target.port).map fun p => (c.source, ⟨innerId inst p.node, p.port⟩)
      else if c.source.node = inst then
        ((portsOf g.outputs c.source.port).take 1).map fun p => (⟨innerId inst p.node, p.port⟩, c.target)
      else [c.ends] := by
  unfold reroute
  split
  · exact map_ends_fanOut c _
  · split
    · rw [List.map_map]
      rfl
    · rfl

theorem mem_reroute {c c' : Connection} (h : c' ∈ reroute inst g c) :
    (c.target.node = inst ∧ ∃ p ∈ portsOf g.inputs c.target.port,
        c'.source = c.source ∧ c'.target = ⟨innerId inst p.node, p.port⟩) ∨
      (c.target.node ≠ inst ∧ c.source.node = inst ∧ ∃ p ∈ portsOf g.outputs c.source.port,
        c'.source = ⟨innerId inst p.node, p.port⟩ ∧ c'.target = c.target) ∨
      (c.target.node ≠ inst ∧ c.source.node ≠ inst ∧ c' = c) := by
  have hends := List.mem_map_of_mem h (f := Connection.ends)
  rw [map_ends_reroute] at hends
  by_cases ht : c.target.node = inst
  · rw [if_pos ht] at hends
    obtain ⟨p, hp, heq⟩ := List.mem_map.1 hends
    obtain ⟨hs, ht'⟩ := Prod.mk.inj heq
    exact .inl ⟨ht, p, hp, hs.symm, ht'.symm⟩
  · by_cases hs : c.source.node = inst
    · rw [if_neg ht, if_pos hs] at hends
      obtain ⟨p, hp, heq⟩ := List.mem_map.1 hends
      obtain ⟨hs', ht'⟩ := Prod.mk.inj heq
      exact .inr (.inl ⟨ht, hs, p, List.mem_of_mem_take hp, hs'.symm, ht'.symm⟩)
    · rw [reroute, if_neg ht, if_neg hs] at h
      exact .inr (.inr ⟨ht, hs, List.mem_singleton.1 h⟩)

/-- An instance can be replaced exactly when its group maps what is used of it. -/
theorem instantiate_eq_ok {s t : Scene} :
    instantiate s inst g = .ok t ↔ Replaceable s inst g ∧ replace s inst g = t := by
  unfold instantiate
  constructor
  · intro h
    cases hc : rewireAll inst g s.connections with
    | error e => simp [hc, bind, Except.bind] at h
    | ok cs =>
      cases ho : rewireOutputs inst g s.outputs with
      | error e => simp [hc, ho, bind, Except.bind] at h
      | ok os =>
        simp only [hc, ho, bind, Except.bind, pure, Except.pure, Except.ok.injEq] at h
        obtain ⟨hroutes, rfl⟩ := rewireAll_eq_ok.1 hc
        obtain ⟨houts, rfl⟩ := rewireOutputs_eq_ok.1 ho
        exact ⟨⟨fun c hc => (hroutes c hc).1, fun c hc => (hroutes c hc).2, houts⟩, h⟩
  · rintro ⟨h, rfl⟩
    rw [rewireAll_eq_ok.2 ⟨fun c hc => ⟨h.targets c hc, h.sources c hc⟩, rfl⟩, rewireOutputs_eq_ok.2 ⟨h.outputs, rfl⟩]
    rfl

end Replacement

/-! ## Rounds -/

section Rounds

variable {groups : List Group}

theorem group?_eq_some {n : Node} {g : Group} (h : group? groups n = some g) :
    n.type = instanceType ∧ find? groups (n.stringOr "groupId" "") = some g := by
  unfold group? at h
  split at h
  · exact ⟨‹_›, h⟩
  · cases h

theorem group?_leaf {n : Node} (h : n.type ≠ instanceType) : group? groups n = none := if_neg h

theorem mem_of_group? {n : Node} {g : Group} (h : group? groups n = some g) : g ∈ groups :=
  List.mem_reverse.1 (List.mem_of_find?_eq_some (group?_eq_some h).2)

theorem expandNodes_nil (s : Scene) : expandNodes groups s [] = .ok (s, [], 0) := rfl

theorem expandNodes_leaf {s t : Scene} {n : Node} {rest nodes : List Node} {count : Nat}
    (htype : n.type ≠ instanceType) :
    expandNodes groups s (n :: rest) = .ok (t, nodes, count) ↔
      ∃ others, expandNodes groups s rest = .ok (t, others, count) ∧ nodes = n :: others := by
  rw [expandNodes, if_neg htype]
  cases expandNodes groups s rest with
  | error e => simp [bind, Except.bind]
  | ok made =>
    simp only [bind, Except.bind, pure, Except.pure, Except.ok.injEq, Prod.ext_iff]
    grind

theorem expandNodes_instance {s t : Scene} {n : Node} {rest nodes : List Node} {count : Nat}
    (htype : n.type = instanceType) :
    expandNodes groups s (n :: rest) = .ok (t, nodes, count) ↔
      ∃ g others rounds, group? groups n = some g ∧ Replaceable s n.id g ∧
        expandNodes groups (replace s n.id g) rest = .ok (t, others, rounds) ∧
        nodes = innerNodes n.id g ++ others ∧ count = rounds + 1 := by
  rw [expandNodes, if_pos htype, group?, if_pos htype]
  dsimp only
  cases hg : find? groups (n.stringOr "groupId" "") with
  | none => simp [refuse]
  | some g =>
    cases hi : instantiate s n.id g with
    | error e =>
      have hnot : ¬Replaceable s n.id g := fun hr => by simp [instantiate_eq_ok.2 ⟨hr, rfl⟩] at hi
      simp [hi, hnot, bind, Except.bind]
    | ok s' =>
      obtain ⟨hr, rfl⟩ := instantiate_eq_ok.1 hi
      cases hrun : expandNodes groups (replace s n.id g) rest with
      | error e => simp [hi, hrun, bind, Except.bind]
      | ok made =>
        simp only [hi, hrun, bind, Except.bind, pure, Except.pure, Except.ok.injEq, Prod.ext_iff]
        grind

/-- What every replacement of an instance keeps, a round keeps. The invariant is about the nodes that
the round has come past, the nodes it has still to look at, and the connections and outputs. -/
theorem expandNodes_invariant {P : List Node → List Node → Scene → Prop}
    (leaf : ∀ {done n rest s}, n.type ≠ instanceType → P done (n :: rest) s → P (done ++ [n]) rest s)
    (inst : ∀ {done n rest s g}, group? groups n = some g → Replaceable s n.id g → P done (n :: rest) s →
      P (done ++ innerNodes n.id g) rest (replace s n.id g))
    {done rest nodes : List Node} {s t : Scene} {count : Nat} (h : P done rest s)
    (hrun : expandNodes groups s rest = .ok (t, nodes, count)) : P (done ++ nodes) [] t := by
  induction rest generalizing done s nodes count with
  | nil =>
    simp only [expandNodes_nil, Except.ok.injEq, Prod.mk.injEq] at hrun
    obtain ⟨rfl, rfl, -⟩ := hrun
    simpa using h
  | cons n rest ih =>
    by_cases htype : n.type = instanceType
    · obtain ⟨g, others, rounds, hg, hr, hothers, rfl, -⟩ := (expandNodes_instance htype).1 hrun
      rw [← List.append_assoc]
      exact ih (inst hg hr h) hothers
    · obtain ⟨others, hothers, rfl⟩ := (expandNodes_leaf htype).1 hrun
      rw [List.append_cons]
      exact ih (leaf htype h) hothers

/-- A round succeeds and ends in a state with a property exactly when it starts in one, where the same
holds of each replacement. -/
theorem expandNodes_ok_iff {I P : List Node → List Node → Scene → Prop}
    (keepLeaf : ∀ {done n rest s}, n.type ≠ instanceType → I done (n :: rest) s → I (done ++ [n]) rest s)
    (keepInst : ∀ {done n rest s g}, group? groups n = some g → Replaceable s n.id g → I done (n :: rest) s →
      I (done ++ innerNodes n.id g) rest (replace s n.id g))
    (leaf : ∀ {done n rest s}, n.type ≠ instanceType → (P done (n :: rest) s ↔ P (done ++ [n]) rest s))
    (undefined : ∀ {done n rest s}, n.type = instanceType → group? groups n = none → ¬P done (n :: rest) s)
    (inst : ∀ {done n rest s g}, group? groups n = some g → I done (n :: rest) s →
      (P done (n :: rest) s ↔ Replaceable s n.id g ∧ P (done ++ innerNodes n.id g) rest (replace s n.id g)))
    {done rest : List Node} {s : Scene} (h : I done rest s) :
    P done rest s ↔
      ∃ t nodes count, expandNodes groups s rest = .ok (t, nodes, count) ∧ P (done ++ nodes) [] t := by
  induction rest generalizing done s with
  | nil => simp [expandNodes_nil]
  | cons n rest ih =>
    by_cases htype : n.type = instanceType
    · simp only [expandNodes_instance htype]
      cases hg : group? groups n with
      | none => simp [undefined htype hg]
      | some g =>
        rw [inst hg h]
        by_cases hr : Replaceable s n.id g
        · rw [ih (keepInst hg hr h)]
          constructor
          · rintro ⟨-, t, nodes, count, hrun, hend⟩
            exact ⟨t, _, _, ⟨g, nodes, count, rfl, hr, hrun, rfl, rfl⟩, by rwa [← List.append_assoc]⟩
          · rintro ⟨t, nodes, count, ⟨g', others, rounds, hg', -, hrun, rfl, -⟩, hend⟩
            obtain rfl := Option.some.inj hg'
            exact ⟨hr, t, others, rounds, hrun, by rwa [List.append_assoc]⟩
        · constructor
          · exact fun hp => absurd hp.1 hr
          · rintro ⟨t, nodes, count, ⟨g', others, rounds, hg', hr', -⟩, -⟩
            obtain rfl := Option.some.inj hg'
            exact absurd hr' hr
    · simp only [expandNodes_leaf htype]
      rw [leaf htype, ih (keepLeaf htype h)]
      constructor
      · rintro ⟨t, nodes, count, hrun, hend⟩
        exact ⟨t, _, count, ⟨nodes, hrun, rfl⟩, by rwa [List.append_cons]⟩
      · rintro ⟨t, nodes, count, ⟨others, hrun, rfl⟩, hend⟩
        exact ⟨t, others, count, hrun, by rwa [← List.append_cons]⟩

theorem expandRounds_of_expand {maxDepth : Int} {s t : Scene} (h : (expand maxDepth s).result = .ok t) :
    (expandRounds maxDepth maxDepth.toNat 0 s).result = .ok t := by
  unfold expand at h
  split at h
  · cases hfind : s.nodes.find? fun n => n.type == instanceType with
    | none =>
      unfold expandRounds
      simpa [hfind] using h
    | some n => simp [hfind, refuse] at h
  · exact h

/-- What every round keeps, with one level less to go, the rounds keep, and they leave no instance. -/
theorem expandRounds_invariant {P : Nat → Scene → Prop}
    (round : ∀ {d s t nodes count}, P (d + 1) s → expandNodes s.groups s s.nodes = .ok (t, nodes, count) →
      P d { t with nodes })
    {limit : Int} {d total : Nat} {s t : Scene} (h : P d s) (hrun : (expandRounds limit d total s).result = .ok t) :
    (∃ e, P e t) ∧ ∀ n ∈ t.nodes, n.type ≠ instanceType := by
  induction d generalizing s total with
  | zero =>
    unfold expandRounds at hrun
    cases hfind : s.nodes.find? fun n => n.type == instanceType with
    | none =>
      simp only [hfind, Except.ok.injEq] at hrun
      exact hrun ▸ ⟨⟨0, h⟩, by simpa using hfind⟩
    | some n => simp [hfind, refuse] at hrun
  | succ d ih =>
    unfold expandRounds at hrun
    cases hfind : s.nodes.find? fun n => n.type == instanceType with
    | none =>
      simp only [hfind, Except.ok.injEq] at hrun
      exact hrun ▸ ⟨⟨d + 1, h⟩, by simpa using hfind⟩
    | some n =>
      cases hnodes : expandNodes s.groups s s.nodes with
      | error e => simp [hfind, hnodes] at hrun
      | ok made =>
        simp only [hfind, hnodes] at hrun
        exact ih (round h hnodes) hrun

/-- What every replacement of an instance keeps, the expansion keeps, and it leaves no instance. -/
theorem expand_invariant {P : List Node → List Connection → Table String → Prop} {maxDepth : Int} {s t : Scene}
    (step : ∀ {as n bs g} {r : Scene}, group? s.groups n = some g → Replaceable r n.id g →
      P (as ++ n :: bs) r.connections r.outputs →
      P (as ++ innerNodes n.id g ++ bs) (replace r n.id g).connections (replace r n.id g).outputs)
    (h : P s.nodes s.connections s.outputs) (hrun : (expand maxDepth s).result = .ok t) :
    P t.nodes t.connections t.outputs ∧ ∀ n ∈ t.nodes, n.type ≠ instanceType := by
  obtain ⟨⟨-, hend⟩, hleaves⟩ := expandRounds_invariant
    (P := fun _ r => r.groups = s.groups ∧ P r.nodes r.connections r.outputs)
    (fun {d r t nodes count} hr hnodes => by
      have hround : t.groups = s.groups ∧ P ([] ++ nodes ++ []) t.connections t.outputs := expandNodes_invariant
        (P := fun done rest r => r.groups = s.groups ∧ P (done ++ rest) r.connections r.outputs)
        (fun _ hI => ⟨hI.1, by simpa using hI.2⟩) (fun hg hr hI => ⟨hI.1, step hg hr hI.2⟩) hr (hr.1 ▸ hnodes)
      simpa using hround)
    ⟨rfl, h⟩ (expandRounds_of_expand hrun)
  exact ⟨hend.2, hleaves⟩

end Rounds

end Groups

end SceneGraph
