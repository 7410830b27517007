import SceneGraph.Proofs.Expansion
import SceneGraph.Scene.Structure

/-!
# Ends of expanded connections

Where the connections and outputs of an expanded scene lead. They land on nodes of it and start at nodes of
it, with one exception: a connection from an instance to itself is rewired only where it lands, and starts
at an id that no node has once the instance is replaced.

* `Scene.checkStructure_eq_ok`: what structural soundness says.
* `Groups.Loopless`: no connection joins an instance to itself, inside instances either.
* `Groups.Intact.replace_iff`: a replacement neither makes nor mends connections that start nowhere, or will.
* `Groups.expand_joins`: the ends of the connections and the outputs of an expanded scene.
-/
set_option autoImplicit false

namespace SceneGraph

/-! ## Structural soundness -/

namespace Scene

theorem checkNodes_eq_ok {nodes : List Node} {i : Nat} {seen : List String} (h : checkNodes i seen nodes = .ok ()) :
    (nodes.map Node.id).Nodup ∧ ∀ n ∈ nodes, n.id ∉ seen := by
  induction nodes generalizing i seen with
  | nil => simp
  | cons n rest ih =>
    unfold checkNodes at h
    split at h
    · cases h
    · split at h
      · cases h
      · split at h
        · cases h
        · rename_i hseen
          obtain ⟨hdistinct, hrest⟩ := ih h
          have hfresh : ∀ m ∈ rest, m.id ≠ n.id := fun m hm heq => hrest m hm (heq ▸ List.mem_cons_self)
          refine ⟨?_, ?_⟩
          · rw [List.map_cons, List.nodup_cons]
            refine ⟨fun hmem => ?_, hdistinct⟩
            obtain ⟨m, hm, heq⟩ := List.mem_map.1 hmem
            exact hfresh m hm heq
          · rintro m hm hmem
            rcases List.mem_cons.1 hm with rfl | hm
            · exact hseen (by simpa using hmem)
            · exact hrest m hm (List.mem_cons_of_mem _ hmem)

theorem checkEndpoints_eq_ok {ids : List String} {i : Nat} {conns : List Connection}
    (h : checkEndpoints ids i conns = .ok ()) : ∀ c ∈ conns, c.source.node ∈ ids ∧ c.target.node ∈ ids := by
  induction conns generalizing i with
  | nil => simp
  | cons c rest ih =>
    unfold checkEndpoints at h
    split at h
    · cases h
    · split at h
      · cases h
      · rename_i hsource htarget
        rw [List.forall_mem_cons]
        exact ⟨⟨by simpa using hsource, by simpa using htarget⟩, ih h⟩

theorem checkOutputs_eq_ok {ids : List String} {outputs : Table String} (h : checkOutputs ids outputs = .ok ()) :
    ∀ o ∈ outputs, o.2 ∈ ids := by
  induction outputs with
  | nil => simp
  | cons o rest ih =>
    unfold checkOutputs at h
    split at h
    · rename_i hid
      rw [List.forall_mem_cons]
      exact ⟨by simpa using hid, ih h⟩
    · cases h

/-- The ids of a structurally sound scene are distinct, and its connections and outputs name nodes of it. -/
theorem checkStructure_eq_ok {s : Scene} (h : s.checkStructure = .ok ()) :
    s.nodeIds.Nodup ∧ (∀ c ∈ s.connections, c.source.node ∈ s.nodeIds ∧ c.target.node ∈ s.nodeIds) ∧
      ∀ o ∈ s.outputs, o.2 ∈ s.nodeIds := by
  unfold checkStructure at h
  simp only [bind, Except.bind] at h
  split at h
  · cases h
  · rename_i hnodes
    split at h
    · cases h
    · rename_i hends
      exact ⟨(checkNodes_eq_ok hnodes).1, checkEndpoints_eq_ok hends, checkOutputs_eq_ok h⟩

end Scene

namespace Groups

/-- A group with distinct inner ids, none empty, whose connections and ports name inner nodes. -/
@[mk_iff]
structure WellFormed (g : Group) : Prop where
  distinct : (g.nodes.map Node.id).Nodup
  named : ∀ n ∈ g.nodes, n.id ≠ ""
  joined : ∀ c ∈ g.connections, c.source.node ∈ g.nodes.map Node.id ∧ c.target.node ∈ g.nodes.map Node.id
  ports : ∀ p ∈ g.inputs ++ g.outputs, p.node ∈ g.nodes.map Node.id

instance (g : Group) : Decidable (WellFormed g) := decidable_of_iff' _ (wellFormed_iff g)

/-! ## Where connections lead, whatever the ids -/

/-- Connections land on nodes and start at nodes or at an id that they land inside of; outputs show nodes. -/
structure Leading (nodes : List Node) (conns : List Connection) (outputs : Table String) : Prop where
  targets : ∀ c ∈ conns, c.target.node ∈ nodes.map Node.id
  sources : ∀ c ∈ conns, c.source.node ∈ nodes.map Node.id ∨ Inside c.source.node c.target.node
  outputs : ∀ o ∈ outputs, o.2 ∈ nodes.map Node.id

section Step

variable {as bs : List Node} {n : Node} {g : Group}

theorem mem_ids_replace {id : String} (hid : id ∈ (as ++ n :: bs).map Node.id) (hne : id ≠ n.id) :
    id ∈ (as ++ innerNodes n.id g ++ bs).map Node.id := by
  simp only [List.map_append, List.map_cons, List.mem_append, List.mem_cons] at hid ⊢
  tauto

theorem mem_ids_inner {a : String} (ha : a ∈ g.nodes.map Node.id) :
    innerId n.id a ∈ (as ++ innerNodes n.id g ++ bs).map Node.id := by
  simp only [List.map_append, List.mem_append]
  exact .inl (.inr (mem_map_id_innerNodes.2 ha))

theorem Leading.replace (hg : WellFormed g) {s : Scene} (hr : Replaceable s n.id g)
    (h : Leading (as ++ n :: bs) s.connections s.outputs) :
    Leading (as ++ innerNodes n.id g ++ bs) (replace s n.id g).connections (replace s n.id g).outputs := by
  have hinput : ∀ {port p}, p ∈ portsOf g.inputs port → p.node ∈ g.nodes.map Node.id := fun hp =>
    hg.ports _ (List.mem_append_left _ (List.mem_of_mem_filter hp))
  have houtput : ∀ {port p}, p ∈ portsOf g.outputs port → p.node ∈ g.nodes.map Node.id := fun hp =>
    hg.ports _ (List.mem_append_right _ (List.mem_of_mem_filter hp))
  refine ⟨?_, ?_, ?_⟩
  · intro c hc
    rcases List.mem_append.1 hc with hc | hc
    · obtain ⟨o, ho, hc⟩ := List.mem_flatMap.1 hc
      rcases mem_reroute hc with ⟨-, p, hp, -, ht⟩ | ⟨hne, -, p, -, -, ht⟩ | ⟨hne, -, rfl⟩
      · exact ht ▸ mem_ids_inner (hinput hp)
      · exact ht ▸ mem_ids_replace (h.targets o ho) hne
      · exact mem_ids_replace (h.targets c ho) hne
    · obtain ⟨o, ho, rfl⟩ := List.mem_map.1 hc
      exact mem_ids_inner (hg.joined o ho).2
  · intro c hc
    rcases List.mem_append.1 hc with hc | hc
    · obtain ⟨o, ho, hc⟩ := List.mem_flatMap.1 hc
      rcases mem_reroute hc with ⟨hin, p, hp, hs, ht⟩ | ⟨-, -, p, hp, hs, -⟩ | ⟨-, hne, rfl⟩
      · rw [hs, ht]
        by_cases hself : o.source.node = n.id
        · exact .inr (hself ▸ inside_innerId n.id p.node)
        · rcases h.sources o ho with hsource | hsource
          · exact .inl (mem_ids_replace hsource hself)
          · exact .inr ((hin ▸ hsource : Inside o.source.node n.id).trans (inside_innerId n.id p.node))
      · exact .inl (hs ▸ mem_ids_inner (houtput hp))
      · exact (h.sources c ho).imp_left fun hsource => mem_ids_replace hsource hne
    · obtain ⟨o, ho, rfl⟩ := List.mem_map.1 hc
      exact .inl (mem_ids_inner (hg.joined o ho).1)
  · intro o ho
    obtain ⟨o, hold, rfl⟩ := List.mem_map.1 ho
    by_cases hid : o.2 = n.id
    · obtain ⟨p, ps, hports⟩ := List.exists_cons_of_ne_nil (hr.outputs o hold hid)
      have hredirect : redirect n.id g o.2 = innerId n.id p.node := by simp [redirect, hid, hports]
      rw [hredirect]
      exact mem_ids_inner (hg.ports p (by simp [hports]))
    · rw [redirect, if_neg hid]
      exact mem_ids_replace (h.outputs o hold) hid

end Step

/-! ## Connections that start nowhere -/

/-- No connection inside a node joins an instance to itself. -/
def InnerLoopless (groups : List Group) (n : Node) : Prop :=
  ∀ k m, Within groups k n m → ∀ g, group? groups m = some g → NoLoops g.nodes g.connections

/-- No connection of a scene, or inside an instance that it holds, joins an instance to itself. -/
structure Loopless (s : Scene) : Prop where
  outer : NoLoops s.nodes s.connections
  inner : ∀ n ∈ s.nodes, InnerLoopless s.groups n

/-- No id holds separators, so that ids inside others are told from the others. -/
@[mk_iff]
structure Plain (s : Scene) : Prop where
  outer : ∀ n ∈ s.nodes, '/' ∉ n.id.toList
  inner : ∀ g ∈ s.groups, ∀ n ∈ g.nodes, '/' ∉ n.id.toList

instance (s : Scene) : Decidable (Plain s) := decidable_of_iff' _ (plain_iff s)

/-- An id that no node has, nor will have when instances are replaced. -/
def Gone (nodes : List Node) (id : String) : Prop := ∀ m ∈ nodes, m.id ≠ id ∧ ¬Inside m.id id

/-- Ids lie apart, and connections start at nodes or at ids that are gone. -/
structure Parted (nodes : List Node) (conns : List Connection) : Prop where
  apart : (nodes.map Node.id).Pairwise Apart
  sources : ∀ c ∈ conns, c.source.node ∈ nodes.map Node.id ∨ Gone nodes c.source.node

/-- Connections start at nodes, and none joins an instance to itself, inside nodes either. -/
structure Intact (groups : List Group) (nodes : List Node) (conns : List Connection) : Prop where
  sources : ∀ c ∈ conns, c.source.node ∈ nodes.map Node.id
  outer : NoLoops nodes conns
  inner : ∀ n ∈ nodes, InnerLoopless groups n

section Step

variable {groups : List Group} {as bs : List Node} {n : Node} {g : Group}

theorem gone_instance (h : ((as ++ n :: bs).map Node.id).Pairwise Apart) :
    Gone (as ++ innerNodes n.id g ++ bs) n.id := by
  intro m hm
  have hm : m ∈ as ++ bs ∨ m ∈ innerNodes n.id g := by
    simp only [List.mem_append] at hm ⊢
    tauto
  rcases hm with hm | hm
  · have hapart := apart_of_mem h hm
    exact ⟨hapart.ne.symm, hapart.right⟩
  · have hbelow := inside_of_mem_innerNodes hm
    exact ⟨hbelow.ne.symm, fun hin => (hbelow.trans hin).ne rfl⟩

theorem Gone.replace {id : String} (h : Gone (as ++ n :: bs) id) : Gone (as ++ innerNodes n.id g ++ bs) id := by
  intro m hm
  have hm : m ∈ as ++ n :: bs ∨ m ∈ innerNodes n.id g := by
    simp only [List.mem_append, List.mem_cons] at hm ⊢
    tauto
  rcases hm with hm | hm
  · exact h m hm
  · have hbelow := inside_of_mem_innerNodes hm
    have hn := h n (by simp)
    exact ⟨fun heq => hn.2 (heq ▸ hbelow), fun hin => hn.2 (hbelow.trans hin)⟩

theorem Gone.not_mem {nodes : List Node} {id : String} (h : Gone nodes id) : id ∉ nodes.map Node.id := by
  intro hid
  obtain ⟨m, hm, heq⟩ := List.mem_map.1 hid
  exact (h m hm).1 heq

theorem Parted.replace (hg : WellFormed g) (hplain : ∀ x ∈ g.nodes, '/' ∉ x.id.toList) {s : Scene}
    (h : Parted (as ++ n :: bs) s.connections) :
    Parted (as ++ innerNodes n.id g ++ bs) (replace s n.id g).connections := by
  refine ⟨apart_replace h.apart hplain hg.distinct, ?_⟩
  have hstart : ∀ c ∈ s.connections, c.source.node ∈ (as ++ innerNodes n.id g ++ bs).map Node.id ∨
      Gone (as ++ innerNodes n.id g ++ bs) c.source.node := by
    intro c hc
    by_cases hself : c.source.node = n.id
    · rw [hself]
      exact .inr (gone_instance h.apart)
    · exact (h.sources c hc).imp (fun hsource => mem_ids_replace hsource hself) Gone.replace
  intro c hc
  rcases List.mem_append.1 hc with hc | hc
  · obtain ⟨o, ho, hc⟩ := List.mem_flatMap.1 hc
    rcases mem_reroute hc with ⟨-, p, -, hs, -⟩ | ⟨-, -, p, hp, hs, -⟩ | ⟨-, -, rfl⟩
    · exact hs ▸ hstart o ho
    · exact .inl (hs ▸ mem_ids_inner (hg.ports p (List.mem_append_right _ (List.mem_of_mem_filter hp))))
    · exact hstart c ho
  · obtain ⟨o, ho, rfl⟩ := List.mem_map.1 hc
    exact .inl (mem_ids_inner (hg.joined o ho).1)

/-- A connection keeps its start unless that is at the instance and it lands elsewhere. -/
theorem exists_mem_reroute {s : Scene} (hr : Replaceable s n.id g) {c : Connection} (hc : c ∈ s.connections)
    (hkept : c.source.node = n.id → c.target.node = n.id) : ∃ c' ∈ reroute n.id g c, c'.source = c.source := by
  by_cases ht : c.target.node = n.id
  · obtain ⟨p, ps, hports⟩ := List.exists_cons_of_ne_nil (hr.targets c hc ht)
    rw [reroute, if_pos ht, hports]
    exact ⟨_, List.mem_cons_self, rfl⟩
  · rw [reroute, if_neg ht, if_neg fun hs => ht (hkept hs)]
    exact ⟨c, List.mem_singleton.2 rfl, rfl⟩

theorem innerLoopless_instance (hg : group? groups n = some g) :
    InnerLoopless groups n ↔ NoLoops g.nodes g.connections ∧ ∀ x ∈ innerNodes n.id g, InnerLoopless groups x := by
  unfold InnerLoopless
  rw [forall_within_instance hg]
  simp [hg]

theorem noLoops_inner {inst : String} :
    NoLoops (innerNodes inst g) (g.connections.map (innerConnection inst)) ↔ NoLoops g.nodes g.connections := by
  simp [NoLoops, innerNodes, innerConnection, innerId_inj]

theorem NoLoops.mono {nodes nodes' : List Node} {conns conns' : List Connection} (h : NoLoops nodes conns)
    (hnodes : nodes' ⊆ nodes) (hconns : conns' ⊆ conns) : NoLoops nodes' conns' :=
  fun c hc n hn => h c (hconns hc) n (hnodes hn)

/-- Replacing an instance neither makes nor mends a connection that starts nowhere, or will. -/
theorem Intact.replace_iff (hwell : WellFormed g) (hplain : ∀ x ∈ g.nodes, '/' ∉ x.id.toList) {s : Scene}
    (hg : group? groups n = some g) (hr : Replaceable s n.id g)
    (htargets : ∀ c ∈ s.connections, c.target.node ∈ (as ++ n :: bs).map Node.id)
    (hparted : Parted (as ++ n :: bs) s.connections) :
    Intact groups (as ++ n :: bs) s.connections ↔
      Intact groups (as ++ innerNodes n.id g ++ bs) (replace s n.id g).connections := by
  have hinner : (∀ m ∈ as ++ n :: bs, InnerLoopless groups m) ↔ NoLoops g.nodes g.connections ∧
      ∀ m ∈ as ++ innerNodes n.id g ++ bs, InnerLoopless groups m := by
    simp only [List.mem_append, List.mem_cons, or_imp, forall_and, forall_eq, innerLoopless_instance hg]
    tauto
  have htype := (group?_eq_some hg).1
  constructor
  · rintro ⟨hsources, houter, hin⟩
    obtain ⟨hloops, hin⟩ := hinner.1 hin
    have hlaid : Laid (as ++ n :: bs) s.connections :=
      ⟨hparted.apart, fun c hc => ⟨hsources c hc, htargets c hc⟩, houter⟩
    have htidy : TidyGroup g := ⟨⟨hplain, hwell.distinct, hwell.joined, hloops⟩, hwell.ports⟩
    have hnext := hlaid.replace htype htidy
    exact ⟨fun c hc => (hnext.joined c hc).1, hnext.loopless, hin⟩
  · rintro ⟨hsources, houter, hin⟩
    have hmem : ∀ {c c'}, c ∈ s.connections → c' ∈ reroute n.id g c → c' ∈ (replace s n.id g).connections :=
      fun hc hc' => List.mem_append_left _ (List.mem_flatMap.2 ⟨_, hc, hc'⟩)
    -- A connection from the instance to itself would keep its start, and no node has that id any more.
    have hlanded : ∀ c ∈ s.connections, c.source.node = n.id → c.target.node ≠ n.id := by
      intro c hc hs ht
      obtain ⟨c', hc', heq⟩ := exists_mem_reroute hr hc fun _ => ht
      exact (gone_instance hparted.apart).not_mem (hs ▸ heq ▸ hsources c' (hmem hc hc'))
    refine ⟨?_, ?_, hinner.2 ⟨?_, hin⟩⟩
    · intro c hc
      refine (hparted.sources c hc).resolve_right fun hgone => ?_
      obtain ⟨c', hc', heq⟩ := exists_mem_reroute hr hc fun hs => absurd hs.symm (hgone n (by simp)).1
      exact hgone.replace.not_mem (heq ▸ hsources c' (hmem hc hc'))
    · intro c hc m hm hinst hs ht
      have hne : m.id ≠ n.id := fun heq => hlanded c hc (hs.trans heq) (ht.trans heq)
      have hself : c ∈ reroute n.id g c := by simp [reroute, hs, ht, hne]
      have hm : m ∈ as ++ innerNodes n.id g ++ bs := by
        simp only [List.mem_append, List.mem_cons] at hm ⊢
        grind
      exact houter c (hmem hc hself) m hm hinst hs ht
    · exact noLoops_inner.1 (houter.mono (fun m hm => by simp [hm]) fun c hc => List.mem_append_right _ hc)

end Step

/-! ## The expansion -/

theorem expand_leading {maxDepth : Int} {s t : Scene} (hgroups : ∀ g ∈ s.groups, WellFormed g)
    (hs : Leading s.nodes s.connections s.outputs) (h : (expand maxDepth s).result = .ok t) :
    Leading t.nodes t.connections t.outputs :=
  (expand_invariant (P := Leading) (fun hg hr hI => hI.replace (hgroups _ (mem_of_group? hg)) hr) hs h).1

/-- An expanded scene's connections land on nodes of it and start at nodes of it or at an id that they land
inside of; its outputs show nodes of it. Where ids are plain, its connections all start at nodes of it
exactly when none of the scene's, nor any inside its instances, joins an instance to itself. -/
theorem expand_joins {maxDepth : Int} {s t : Scene} (hs : s.checkStructure = .ok ())
    (hgroups : ∀ g ∈ s.groups, WellFormed g) (h : (expand maxDepth s).result = .ok t) :
    (∀ c ∈ t.connections, c.target.node ∈ t.nodeIds ∧
        (c.source.node ∈ t.nodeIds ∨ Inside c.source.node c.target.node)) ∧
      (∀ o ∈ t.outputs, o.2 ∈ t.nodeIds) ∧
      (Plain s → ((∀ c ∈ t.connections, c.source.node ∈ t.nodeIds) ↔ Loopless s)) := by
  obtain ⟨hdistinct, hjoined, houtputs⟩ := Scene.checkStructure_eq_ok hs
  have hleading : Leading s.nodes s.connections s.outputs :=
    ⟨fun c hc => (hjoined c hc).2, fun c hc => .inl (hjoined c hc).1, houtputs⟩
  have hend := expand_leading hgroups hleading h
  refine ⟨fun c hc => ⟨hend.targets c hc, hend.sources c hc⟩, hend.outputs, fun hplain => ?_⟩
  have hparted : Parted s.nodes s.connections :=
    ⟨pairwise_apart hplain.outer hdistinct, fun c hc => .inl (hjoined c hc).1⟩
  -- Being intact is carried both ways through every replacement, from the scene to its expansion and back.
  obtain ⟨⟨-, -, hintact⟩, hleaves⟩ := expand_invariant (s := s)
    (P := fun nodes conns outputs => Leading nodes conns outputs ∧ Parted nodes conns ∧
      (Intact s.groups nodes conns ↔ Intact s.groups s.nodes s.connections))
    (fun {as n bs g r} hg hr hI => by
      obtain ⟨hleading, hparted, hintact⟩ := hI
      have hwell := hgroups g (mem_of_group? hg)
      have hplain := hplain.inner g (mem_of_group? hg)
      exact ⟨hleading.replace hwell hr, hparted.replace hwell hplain,
        (Intact.replace_iff hwell hplain hg hr hleading.targets hparted).symm.trans hintact⟩)
    ⟨hleading, hparted, Iff.rfl⟩ h
  have hbefore : Intact s.groups s.nodes s.connections ↔ Loopless s :=
    ⟨fun hi => ⟨hi.outer, hi.inner⟩, fun hl => ⟨fun c hc => (hjoined c hc).1, hl.outer, hl.inner⟩⟩
  have hafter : Intact s.groups t.nodes t.connections ↔ ∀ c ∈ t.connections, c.source.node ∈ t.nodeIds := by
    refine ⟨Intact.sources, fun hsources => ⟨hsources, ?_, ?_⟩⟩
    · exact fun c _ n hn htype => absurd htype (hleaves n hn)
    · intro n hn k m hm g hg
      obtain ⟨rfl, -⟩ := hm.leaf (group?_leaf (hleaves n hn))
      rw [group?_leaf (hleaves m hn)] at hg
      cases hg
  rw [← hafter, hintact, hbefore]

end Groups

theorem Scene.framed_structure : Scene.framed.checkStructure = .ok () :=
  eq_ok_of_toOption (by decide)

theorem Scene.framed_starts : (Groups.expand 2 Scene.framed).result.toOption.any (fun t =>
    decide (∀ c ∈ t.connections, c.source.node ∈ t.nodeIds)) = true := by
  decide

theorem Scene.framed_joins : Scene.framed.checkStructure = .ok () ∧
    (∀ g ∈ Scene.framed.groups, Groups.WellFormed g) ∧ Groups.Plain Scene.framed ∧ Groups.Loopless Scene.framed ∧
    ∃ t, (Groups.expand 2 Scene.framed).result = .ok t ∧
      (∀ c ∈ t.connections, c.target.node ∈ t.nodeIds ∧ c.source.node ∈ t.nodeIds) ∧
      ∀ o ∈ t.outputs, o.2 ∈ t.nodeIds := by
  have hgroups : ∀ g ∈ Scene.framed.groups, Groups.WellFormed g := by decide
  have hplain : Groups.Plain Scene.framed := by decide
  obtain ⟨t, ht, hstarts⟩ := Option.any_eq_true _ _ |>.1 Scene.framed_starts
  rw [decide_eq_true_eq] at hstarts
  have ht := eq_ok_of_toOption ht
  obtain ⟨hends, houtputs, hiff⟩ := Groups.expand_joins Scene.framed_structure hgroups ht
  exact ⟨Scene.framed_structure, hgroups, hplain, (hiff hplain).1 hstarts, t, ht,
    fun c hc => ⟨(hends c hc).1, hstarts c hc⟩, houtputs⟩

/-- An instance whose first part feeds its second through its own ports. -/
def Scene.selfFed : Scene where
  nodes := [{ id := "screen", type := "Screen" },
    { id := "pair", type := "Group", params := [("groupId", .str "two")] }]
  connections := [{ id := "c0", source := ⟨"pair", "first"⟩, target := ⟨"pair", "second"⟩ },
    { id := "c1", source := ⟨"pair", "out"⟩, target := ⟨"screen", "pass"⟩ }]
  outputs := [("main", "screen")]
  groups := [
    { id := "two"
      nodes := [{ id := "tint", type := "Color" }, { id := "draw", type := "RenderPass" }]
      inputs := [⟨"second", "draw", "color"⟩]
      outputs := [⟨"first", "tint", "color"⟩, ⟨"out", "draw", "pass"⟩] }]

theorem Scene.selfFed_expands : Scene.selfFed.checkStructure.toOption.any (fun _ =>
    (Groups.expand 8 Scene.selfFed).result.toOption.any fun t =>
      t.connections.any fun c => decide (c.source.node ∉ t.nodeIds)) = true := by
  decide

/-- The expanded scene has a connection from the instance, which it has no more. -/
theorem Scene.selfFed_dangles : Scene.selfFed.checkStructure = .ok () ∧
    (∀ g ∈ Scene.selfFed.groups, Groups.WellFormed g) ∧
    ∃ t, (Groups.expand 8 Scene.selfFed).result = .ok t ∧ ∃ c ∈ t.connections, c.source.node ∉ t.nodeIds := by
  obtain ⟨_, hs, hchecks⟩ := Option.any_eq_true _ _ |>.1 Scene.selfFed_expands
  obtain ⟨t, ht, hchecks⟩ := Option.any_eq_true _ _ |>.1 hchecks
  obtain ⟨c, hc, hsource⟩ := List.any_eq_true.1 hchecks
  exact ⟨eq_ok_of_toOption hs, by decide, t, eq_ok_of_toOption ht, c, hc, of_decide_eq_true hsource⟩

end SceneGraph
