import SceneGraph.Proofs.Dangling
import SceneGraph.Proofs.Landing

/-!
# Distinct ids

Preparation makes ids from ids: of inner nodes behind those of instances, and of wrappers from the ends of
the connections they stand on. Where the given ids hold none of the separators, ids of different origin are
never the same, with one exception: the id of a wrapper does not tell from which port of its source the
value comes, so two bare values from one node on one input have wrappers of one id.

* `Scene.SeparatorFree`: no id of the scene or inside its groups holds a separator.
* `Groups.expand_distinct`: the ids of the expanded scene are distinct.
* `Wrap.wrapperId_eq_iff`: what the id of a wrapper tells.
* `Wrap.autoWrap_eq_ok`: what wrapping makes.
* `Scene.prepare_distinct`: when the ids of a prepared scene are distinct.
-/
set_option autoImplicit false

namespace SceneGraph

/-! ## Separators -/

/-- The id holds none of the characters that join ids. -/
def SeparatorFree (id : String) : Prop := ∀ ch ∈ ['/', '~', '.'], ch ∉ id.toList

instance (id : String) : Decidable (SeparatorFree id) := List.decidableBAll (fun ch => ch ∉ id.toList) ['/', '~', '.']

/-- No node of the scene or of one of its groups has a separator in its id. -/
@[mk_iff]
structure Scene.SeparatorFree (s : Scene) : Prop where
  outer : ∀ n ∈ s.nodes, SceneGraph.SeparatorFree n.id
  inner : ∀ g ∈ s.groups, ∀ n ∈ g.nodes, SceneGraph.SeparatorFree n.id

instance (s : Scene) : Decidable s.SeparatorFree := decidable_of_iff' _ (Scene.separatorFree_iff s)

/-- The id holds none of the characters that make ids of wrappers. -/
def Unwrapped (id : String) : Prop := '~' ∉ id.toList ∧ '.' ∉ id.toList

theorem SeparatorFree.plain {id : String} (h : SeparatorFree id) : '/' ∉ id.toList := h '/' (by simp)

theorem SeparatorFree.unwrapped {id : String} (h : SeparatorFree id) : Unwrapped id :=
  ⟨h '~' (by simp), h '.' (by simp)⟩

/-! ## Expansion -/

namespace Groups

theorem unwrapped_innerId {a x : String} (ha : Unwrapped a) (hx : Unwrapped x) : Unwrapped (innerId a x) := by
  simp [Unwrapped, toList_innerId, ha.1, ha.2, hx.1, hx.2]

/-- Ids without separators that are distinct, in the scene and in its groups, give distinct ids. -/
theorem expand_distinct {maxDepth : Int} {s t : Scene} (hdistinct : s.nodeIds.Nodup) (hplain : s.SeparatorFree)
    (hgroups : ∀ g ∈ s.groups, (g.nodes.map Node.id).Nodup) (h : (expand maxDepth s).result = .ok t) :
    t.nodeIds.Nodup ∧ ∀ id ∈ t.nodeIds, Unwrapped id := by
  obtain ⟨⟨hapart, hunwrapped⟩, -⟩ := expand_invariant
    (P := fun nodes _ _ => (nodes.map Node.id).Pairwise Apart ∧ ∀ n ∈ nodes, Unwrapped n.id)
    (fun {as n bs g r} hg _ hI => by
      have hfree := hplain.inner g (mem_of_group? hg)
      refine ⟨apart_replace hI.1 (fun x hx => (hfree x hx).plain) (hgroups g (mem_of_group? hg)), ?_⟩
      intro m hm
      rcases List.mem_append.1 hm with hm | hm
      · rcases List.mem_append.1 hm with hm | hm
        · exact hI.2 m (by simp [hm])
        · obtain ⟨x, hx, rfl⟩ := mem_innerNodes hm
          exact unwrapped_innerId (hI.2 n (by simp)) (hfree x hx).unwrapped
      · exact hI.2 m (by simp [hm]))
    ⟨pairwise_apart (fun n hn => (hplain.outer n hn).plain) hdistinct, fun n hn => (hplain.outer n hn).unwrapped⟩ h
  refine ⟨hapart.imp Apart.ne, fun id hid => ?_⟩
  obtain ⟨n, hn, rfl⟩ := List.mem_map.1 hid
  exact hunwrapped n hn

end Groups

/-! ## Validation and inlining -/

/-- A mapping that succeeds, element by element. -/
theorem mapM_eq_ok {ε α β : Type} {f : α → Except ε β} {xs : List α} {ys : List β} (h : xs.mapM f = .ok ys) :
    List.Forall₂ (fun x y => f x = .ok y) xs ys := by
  induction xs generalizing ys with
  | nil =>
    cases h
    exact .nil
  | cons x xs ih =>
    rw [List.mapM_cons] at h
    cases hx : f x with
    | error e => simp [hx, bind, Except.bind] at h
    | ok y =>
      cases hxs : xs.mapM f with
      | error e => simp [hx, hxs, bind, Except.bind] at h
      | ok rest =>
        simp only [hx, hxs, bind, Except.bind, pure, Except.pure, Except.ok.injEq] at h
        exact h ▸ .cons hx (ih hxs)

theorem exists_mem_of_mapM {ε α β : Type} {f : α → Except ε β} {xs : List α} {ys : List β} (h : xs.mapM f = .ok ys)
    {y : β} (hy : y ∈ ys) : ∃ x ∈ xs, f x = .ok y := by
  obtain ⟨i, hi, rfl⟩ := List.getElem_of_mem hy
  have hall := mapM_eq_ok h
  have hi' : i < xs.length := hall.length_eq ▸ hi
  exact ⟨xs.get ⟨i, hi'⟩, List.get_mem xs _, hall.get hi' hi⟩

namespace Schema

variable {schema : Schema}

theorem mapM_normalize_ids {nodes made : List Node} (h : nodes.mapM schema.normalize = .ok made) :
    made.map Node.id = nodes.map Node.id := by
  have hsame : List.Forall₂ (fun a b => a = b) (nodes.map Node.id) (made.map Node.id) := by
    rw [List.forall₂_map_left_iff, List.forall₂_map_right_iff]
    exact (mapM_eq_ok h).imp fun a b hab => (normalize_keeps hab).1.symm
  exact (List.forall₂_eq_eq_eq ▸ hsame : nodes.map Node.id = made.map Node.id).symm

/-- Validation keeps the ids of nodes, in groups too, and how they are connected. -/
theorem validate_keeps {s v : Scene} (h : schema.validate s = .ok v) :
    v.nodeIds = s.nodeIds ∧ v.connections = s.connections ∧ v.outputs = s.outputs ∧
      ∀ g ∈ v.groups, ∃ g' ∈ s.groups, g.nodes.map Node.id = g'.nodes.map Node.id ∧
        g.connections = g'.connections ∧ g.inputs = g'.inputs ∧ g.outputs = g'.outputs := by
  unfold validate at h
  simp only [bind, Except.bind] at h
  split at h
  · cases h
  · rename_i nodes hnodes
    split at h
    · cases h
    · rename_i groups hgroups
      split at h
      · cases h
      · cases h
        refine ⟨mapM_normalize_ids hnodes, rfl, rfl, fun g hg => ?_⟩
        obtain ⟨g', hg', hnormal⟩ := exists_mem_of_mapM hgroups hg
        unfold normalizeGroup at hnormal
        simp only [bind, Except.bind] at hnormal
        split at hnormal
        · cases hnormal
        · rename_i inner hinner
          split at hnormal
          · cases hnormal
          · cases hnormal
            exact ⟨g', hg', mapM_normalize_ids hinner, rfl, rfl, rfl⟩

end Schema

namespace Images

theorem replaceLast_go_ids (n : Node) (nodes : List Node) :
    (replaceLast.go n nodes).map Node.id = nodes.map Node.id := by
  induction nodes with
  | nil => rfl
  | cons m rest ih =>
    unfold replaceLast.go
    split
    · rename_i hid
      simp [hid]
    · simp [ih]

theorem inlineAll_keeps {schema : Schema} {conns : List Connection} {count : Nat} {s t : Scene}
    (h : (inlineAll schema conns count s).result = .ok t) :
    t.nodeIds = s.nodeIds ∧ t.connections = s.connections ∧ t.outputs = s.outputs := by
  induction conns generalizing count s with
  | nil =>
    cases h
    exact ⟨rfl, rfl, rfl⟩
  | cons c rest ih =>
    unfold inlineAll at h
    split at h
    · exact ih h
    · split at h
      · exact ih h
      · split at h
        · cases h
        · split at h
          · cases h
          · simp only at h
            obtain ⟨hids, hconns, houtputs⟩ := ih h
            refine ⟨hids.trans ?_, hconns, houtputs⟩
            simp [Scene.nodeIds, replaceLast, replaceLast_go_ids]

end Images

/-! ## Wrapping -/

namespace Wrap

/-- The connections that bring a bare value to an input for passes. -/
def bare (schema : Schema) (s : Scene) : List Connection :=
  s.connections.filter fun c => (bareType? schema s c).isSome

/-- The id that wrapping gives to the target of a connection. -/
def wrappedTarget (schema : Schema) (s : Scene) (c : Connection) : String :=
  if (bareType? schema s c).isSome then wrapperId c else c.target.node

theorem wrapAll_eq_ok {schema : Schema} {s : Scene} {conns rewired extra : List Connection} {count : Nat}
    {nodes : List Node} (h : wrapAll schema s conns count = .ok (rewired, nodes, extra)) :
    nodes.map Node.id = (conns.filter fun c => (bareType? schema s c).isSome).map wrapperId ∧
      rewired.map (fun c => c.target.node) = conns.map (wrappedTarget schema s) ∧
      extra.map (fun c => c.target.node) =
        (conns.filter fun c => (bareType? schema s c).isSome).map fun c => c.target.node := by
  induction conns generalizing count rewired nodes extra with
  | nil =>
    cases h
    exact ⟨rfl, rfl, rfl⟩
  | cons c rest ih =>
    unfold wrapAll at h
    split at h
    · rename_i hbare
      simp only [bind, Except.bind] at h
      split at h
      · cases h
      · rename_i made hmade
        obtain ⟨conns', nodes', extra'⟩ := made
        cases h
        obtain ⟨hnodes, hrewired, hextra⟩ := ih hmade
        simp [hbare, hnodes, hrewired, hextra, wrappedTarget]
    · rename_i type hbare
      simp only at h
      split at h
      · cases h
      · rename_i node hnode
        simp only [bind, Except.bind] at h
        split at h
        · cases h
        · rename_i made hmade
          obtain ⟨conns', nodes', extra'⟩ := made
          cases h
          obtain ⟨hnodes, hrewired, hextra⟩ := ih hmade
          have hid : (wrapper c type).1.id = wrapperId c := by
            unfold wrapper
            split <;> rfl
          have hnodeid : node.id = wrapperId c := (Schema.normalize_keeps hnode).1.trans hid
          simp [hbare, hnodes, hrewired, hextra, hid, hnodeid, wrappedTarget]

theorem append_cons_inj {ch : Char} {xs ys us vs : List Char} (hx : ch ∉ xs) (hy : ch ∉ ys)
    (h : xs ++ ch :: us = ys ++ ch :: vs) : xs = ys ∧ us = vs := by
  induction xs generalizing ys with
  | nil =>
    cases ys with
    | nil => exact ⟨rfl, (List.cons.inj h).2⟩
    | cons y ys => exact absurd (List.cons.inj h).1 fun heq => hy (heq ▸ List.mem_cons_self)
  | cons x xs ih =>
    cases ys with
    | nil => exact absurd (List.cons.inj h).1.symm fun heq => hx (heq ▸ List.mem_cons_self)
    | cons y ys =>
      obtain ⟨hhead, htail⟩ := List.cons.inj h
      rw [List.mem_cons, not_or] at hx hy
      obtain ⟨rfl, hrest⟩ := ih hx.2 hy.2 htail
      exact ⟨by rw [hhead], hrest⟩

/-- The id of a wrapper tells the node it takes a value from and the port that takes the pass. -/
theorem wrapperId_eq_iff {c e : Connection} (hc : Unwrapped c.source.node ∧ Unwrapped c.target.node)
    (he : Unwrapped e.source.node ∧ Unwrapped e.target.node) :
    wrapperId c = wrapperId e ↔ (c.source.node, c.target) = (e.source.node, e.target) := by
  constructor
  · intro h
    rw [← String.toList_inj] at h
    simp only [wrapperId, String.toList_append, List.append_assoc] at h
    -- The first `~` ends the id of the source, the first `.` after it that of the target; ports may hold both.
    obtain ⟨hsource, hrest⟩ := append_cons_inj hc.1.1 he.1.1 h
    obtain ⟨htarget, hport⟩ := append_cons_inj hc.2.2 he.2.2 (List.append_cancel_left hrest)
    have hends : c.target = e.target :=
      congrArg₂ Endpoint.mk (String.toList_inj.1 htarget) (String.toList_inj.1 hport)
    rw [String.toList_inj.1 hsource, hends]
  · intro h
    obtain ⟨hsource, htarget⟩ := Prod.mk.inj h
    rw [wrapperId, wrapperId, hsource, htarget]

theorem not_unwrapped_wrapperId (c : Connection) : ¬Unwrapped (wrapperId c) := by
  intro h
  exact h.1 (by simp [wrapperId])

/-- A bare value comes from a node of the scene and goes to one. -/
theorem mem_nodeIds_of_bare {schema : Schema} {s : Scene} {c : Connection} (hc : c ∈ bare schema s) :
    c.source.node ∈ s.nodeIds ∧ c.target.node ∈ s.nodeIds := by
  have hsome := (List.mem_filter.1 hc).2
  unfold bareType? at hsome
  split at hsome
  · rename_i source target hsource htarget
    obtain ⟨hsid, hsmem⟩ := Scene.indexed?_eq_some hsource
    obtain ⟨htid, htmem⟩ := Scene.indexed?_eq_some htarget
    exact ⟨hsid ▸ List.mem_map_of_mem hsmem, htid ▸ List.mem_map_of_mem htmem⟩
  · cases hsome

/-- What wrapping makes: wrappers for the bare values, and connections to them and on from them. -/
theorem autoWrap_eq_ok {schema : Schema} {s t : Scene} (h : (autoWrap schema s).result = .ok t) :
    t.nodeIds = s.nodeIds ++ (bare schema s).map wrapperId ∧
      t.connections.map (fun c => c.target.node) =
        s.connections.map (wrappedTarget schema s) ++ (bare schema s).map fun c => c.target.node := by
  obtain ⟨conns, nodes, extra, hmade, rfl⟩ := autoWrap_made h
  obtain ⟨hnodes, hrewired, hextra⟩ := wrapAll_eq_ok hmade
  simp only [Scene.nodeIds, List.map_append, hnodes, hrewired, hextra]
  exact ⟨rfl, rfl⟩

section

variable {schema : Schema} {s t : Scene}

/-- The ids of the wrappers are distinct exactly when no two bare values come from one node to one port. -/
theorem nodup_wrapperIds (hs : ∀ id ∈ s.nodeIds, Unwrapped id) :
    ((bare schema s).map wrapperId).Nodup ↔ ((bare schema s).map fun c => (c.source.node, c.target)).Nodup := by
  have hends : ∀ c ∈ bare schema s, Unwrapped c.source.node ∧ Unwrapped c.target.node := fun c hc =>
    ⟨hs _ (mem_nodeIds_of_bare hc).1, hs _ (mem_nodeIds_of_bare hc).2⟩
  simp only [List.nodup_iff_pairwise_ne, List.pairwise_map]
  constructor <;> refine fun h => h.imp_of_mem fun hc he hne heq => hne ?_
  · exact (wrapperId_eq_iff (hends _ hc) (hends _ he)).2 heq
  · exact (wrapperId_eq_iff (hends _ hc) (hends _ he)).1 heq

/-- Every wrapper takes part in the scene, so that shaking keeps it. -/
theorem isUsed_wrapper (h : (autoWrap schema s).result = .ok t) {c : Connection} (hc : c ∈ bare schema s) :
    Graph.isUsed t (wrapperId c) = true := by
  obtain ⟨-, htargets⟩ := autoWrap_eq_ok h
  obtain ⟨hmem, hsome⟩ := List.mem_filter.1 hc
  have hfed : wrapperId c ∈ t.connections.map fun c => c.target.node := by
    rw [htargets]
    refine List.mem_append_left _ (List.mem_map.2 ⟨c, hmem, ?_⟩)
    rw [wrappedTarget, if_pos hsome]
  obtain ⟨e, he, htarget⟩ := List.mem_map.1 hfed
  unfold Graph.isUsed
  rw [Bool.or_eq_true, List.any_eq_true]
  exact .inl ⟨e, he, by simp [htarget]⟩

/-- The nodes of a scene after wrapping and shaking. -/
theorem nodeIds_treeShake (h : (autoWrap schema s).result = .ok t) :
    (Graph.treeShake t).nodeIds = s.nodeIds.filter (Graph.isUsed t) ++ (bare schema s).map wrapperId := by
  have hkept : ((bare schema s).map wrapperId).filter (Graph.isUsed t) = (bare schema s).map wrapperId := by
    rw [List.filter_eq_self, List.forall_mem_map]
    exact fun c hc => isUsed_wrapper h hc
  rw [Graph.nodeIds_treeShake, (autoWrap_eq_ok h).1, List.filter_append, hkept]

theorem count_wrappedTarget {conns : List Connection} {id : String} (h : ∀ e ∈ conns, e.target.node ≠ id) :
    (conns.map (wrappedTarget schema s)).count id =
      ((conns.filter fun c => (bareType? schema s c).isSome).map wrapperId).count id := by
  induction conns with
  | nil => rfl
  | cons e rest ih =>
    rw [List.forall_mem_cons] at h
    have ih := ih h.2
    cases hbare : (bareType? schema s e).isSome with
    | true => simp [wrappedTarget, hbare, List.count_cons, ih]
    | false => simp [wrappedTarget, hbare, h.1, ih]

/-- A wrapper is fed once for every bare value that has it. -/
theorem length_incomingTo_wrapper (h : (autoWrap schema s).result = .ok t) (hs : ∀ id ∈ s.nodeIds, Unwrapped id)
    (htargets : ∀ c ∈ s.connections, c.target.node ∈ s.nodeIds) (c : Connection) :
    (t.incomingTo (wrapperId c)).length = ((bare schema s).map wrapperId).count (wrapperId c) := by
  have hnot : ∀ e ∈ s.connections, e.target.node ≠ wrapperId c := fun e he heq =>
    not_unwrapped_wrapperId c (heq ▸ hs _ (htargets e he))
  have hlength : (t.incomingTo (wrapperId c)).length =
      (t.connections.map fun e => e.target.node).count (wrapperId c) := by
    rw [Scene.incomingTo, ← List.countP_eq_length_filter, List.count, List.countP_map]
    rfl
  have hextra : ((bare schema s).map fun e => e.target.node).count (wrapperId c) = 0 := by
    rw [List.count_eq_zero]
    intro hmem
    obtain ⟨e, he, heq⟩ := List.mem_map.1 hmem
    exact hnot e (List.mem_filter.1 he).1 heq
  -- No connection that was there before leads to a wrapper, so what counts is what wrapping rewired.
  rw [hlength, (autoWrap_eq_ok h).2, List.count_append, hextra, Nat.add_zero, count_wrappedTarget hnot, bare]

end

end Wrap

/-! ## The prepared scene -/

theorem Scene.SeparatorFree.of_validate {s v : Scene} {schema : Schema} (h : s.SeparatorFree)
    (hv : schema.validate s = .ok v) : v.SeparatorFree := by
  obtain ⟨hids, -, -, hgroups⟩ := Schema.validate_keeps hv
  have hmem : ∀ {nodes nodes' : List Node}, nodes.map Node.id = nodes'.map Node.id →
      (∀ n ∈ nodes', SceneGraph.SeparatorFree n.id) → ∀ n ∈ nodes, SceneGraph.SeparatorFree n.id := by
    intro nodes nodes' hsame hfree n hn
    obtain ⟨m, hm, heq⟩ := List.mem_map.1 (hsame ▸ List.mem_map_of_mem hn : n.id ∈ nodes'.map Node.id)
    exact heq ▸ hfree m hm
  refine ⟨hmem hids h.outer, fun g hg => ?_⟩
  obtain ⟨g', hg', hsame, -⟩ := hgroups g hg
  exact hmem hsame (h.inner g' hg')

theorem Groups.WellFormed.of_same {g g' : Group} (h : WellFormed g')
    (hnodes : g.nodes.map Node.id = g'.nodes.map Node.id)
    (hconns : g.connections = g'.connections) (hports : g.inputs = g'.inputs ∧ g.outputs = g'.outputs) :
    WellFormed g where
  distinct := hnodes ▸ h.distinct
  named n hn := by
    obtain ⟨m, hm, heq⟩ := List.mem_map.1 (hnodes ▸ List.mem_map_of_mem hn : n.id ∈ g'.nodes.map Node.id)
    exact heq ▸ h.named m hm
  joined := by rw [hnodes, hconns]; exact h.joined
  ports := by rw [hnodes, hports.1, hports.2]; exact h.ports

/-- The order of a prepared scene lists its ids. Where the ids of a scene are distinct and hold no separators,
inside its groups too, those of the prepared scene are the ids of the expanded scene that are used and the ids
of the wrappers. They are distinct exactly when no two bare values come from one node to one port; then the
order lists each of them once and, where the connections and ports of groups name inner nodes, one connection
feeds each wrapper. -/
theorem Scene.prepare_distinct {s v : Scene} {schema : Schema} {options : PrepareOptions} {p : Prepared}
    (hs : s.checkStructure = .ok ()) (hplain : s.SeparatorFree)
    (hgroups : ∀ g ∈ s.groups, (g.nodes.map Node.id).Nodup) (hv : schema.validate s = .ok v)
    (hp : (v.prepare schema options).outcome.1 = .ok p) :
    ∃ expanded inlined wrapped, v.PreparedFrom schema options p expanded inlined wrapped ∧
      p.order.Perm p.scene.nodeIds ∧
      p.scene.nodeIds = expanded.nodeIds.filter (Graph.isUsed wrapped) ++
        (Wrap.bare schema inlined).map Wrap.wrapperId ∧
      (p.scene.nodeIds.Nodup ↔ ((Wrap.bare schema inlined).map fun c => (c.source.node, c.target)).Nodup) ∧
      (p.scene.nodeIds.Nodup → (∀ id ∈ p.scene.nodeIds, p.order.count id = 1) ∧
        ((∀ g ∈ s.groups, Groups.WellFormed g) →
          ∀ c ∈ Wrap.bare schema inlined, (p.scene.incomingTo (Wrap.wrapperId c)).length = 1)) := by
  obtain ⟨expanded, inlined, wrapped, hfrom⟩ := Scene.prepare_eq_ok hp
  obtain ⟨hdistinct, hjoined, houtputs⟩ := Scene.checkStructure_eq_ok hs
  obtain ⟨hids, hconns, hshown, hvgroups⟩ := Schema.validate_keeps hv
  have hperm := Graph.topologicalOrder_perm hfrom.order
  have hvgroups' : ∀ g ∈ v.groups, (g.nodes.map Node.id).Nodup := by
    intro g hg
    obtain ⟨g', hg', hsame, -⟩ := hvgroups g hg
    exact hsame ▸ hgroups g' hg'
  obtain ⟨hexpanded, hunwrapped⟩ :=
    Groups.expand_distinct (hids ▸ hdistinct) (hplain.of_validate hv) hvgroups' hfrom.expand
  obtain ⟨hinlined, hsameconns, -⟩ := Images.inlineAll_keeps hfrom.inline
  rw [← hinlined] at hexpanded hunwrapped
  have hnodes : p.scene.nodeIds = expanded.nodeIds.filter (Graph.isUsed wrapped) ++
      (Wrap.bare schema inlined).map Wrap.wrapperId := by
    rw [hfrom.scene, Wrap.nodeIds_treeShake hfrom.wrap, hinlined]
  have hiff : p.scene.nodeIds.Nodup ↔ ((Wrap.bare schema inlined).map Wrap.wrapperId).Nodup := by
    rw [hnodes, List.nodup_append]
    refine ⟨fun h => h.2.1, fun h => ⟨hinlined ▸ hexpanded.filter _, h, ?_⟩⟩
    rintro id hid _ hmem rfl
    obtain ⟨c, -, rfl⟩ := List.mem_map.1 hmem
    exact Wrap.not_unwrapped_wrapperId c (hunwrapped _ (hinlined ▸ (List.mem_filter.1 hid).1))
  refine ⟨expanded, inlined, wrapped, hfrom, hperm, hnodes, hiff.trans (Wrap.nodup_wrapperIds hunwrapped), ?_⟩
  intro hnodup
  refine ⟨fun id hid => (hperm.count_eq id).trans (List.count_eq_one_of_mem hnodup hid), ?_⟩
  intro hwell c hc
  have hleading : Groups.Leading v.nodes v.connections v.outputs := by
    rw [← hids] at hjoined houtputs
    rw [hconns, hshown]
    exact ⟨fun c hc => (hjoined c hc).2, fun c hc => .inl (hjoined c hc).1, houtputs⟩
  have hvwell : ∀ g ∈ v.groups, Groups.WellFormed g := by
    intro g hg
    obtain ⟨g', hg', hsame, hgconns, hports⟩ := hvgroups g hg
    exact (hwell g' hg').of_same hsame hgconns hports
  have htargets : ∀ c ∈ inlined.connections, c.target.node ∈ inlined.nodeIds := by
    rw [hsameconns, hinlined]
    exact (Groups.expand_leading hvwell hleading hfrom.expand).targets
  have hincoming : p.scene.incomingTo (Wrap.wrapperId c) = wrapped.incomingTo (Wrap.wrapperId c) := by
    rw [hfrom.scene]
    rfl
  rw [hincoming, Wrap.length_incomingTo_wrapper hfrom.wrap hunwrapped htargets]
  exact List.count_eq_one_of_mem (hiff.1 hnodup) (List.mem_map_of_mem hc)

/-- A color inside an instance, set on an input for passes. -/
def Scene.poster : Scene where
  nodes := [{ id := "screen", type := "Screen" }, { id := "stack", type := "Composite" },
    { id := "art", type := "Group", params := [("groupId", .str "art")] }]
  connections := [{ id := "c0", source := ⟨"art", "ink"⟩, target := ⟨"stack", "pass"⟩ },
    { id := "c1", source := ⟨"stack", "pass"⟩, target := ⟨"screen", "pass"⟩ }]
  outputs := [("main", "screen")]
  groups := [{ id := "art", nodes := [{ id := "ink", type := "Color" }], outputs := [⟨"ink", "ink", "color"⟩] }]

theorem Scene.poster_checks : Scene.poster.checkStructure.toOption.any (fun _ =>
    (Schema.builtin.validate Scene.poster).toOption.any fun v =>
      (v.prepare Schema.builtin {}).outcome.1.toOption.any fun p =>
        decide (p.scene.nodeIds = ["screen", "stack", "art/ink", "art/ink~wrap~stack.pass"])) = true := by
  rw [Schema.builtin_eq]
  decide +kernel

theorem Scene.poster_distinct : Scene.poster.checkStructure = .ok () ∧ Scene.poster.SeparatorFree ∧
    (∀ g ∈ Scene.poster.groups, Groups.WellFormed g) ∧
    ∃ v p inlined, Schema.builtin.validate Scene.poster = .ok v ∧ (v.prepare Schema.builtin {}).outcome.1 = .ok p ∧
      p.scene.nodeIds = ["screen", "stack", "art/ink", "art/ink~wrap~stack.pass"] ∧
      (∀ id ∈ p.scene.nodeIds, p.order.count id = 1) ∧
      ∀ c ∈ Wrap.bare Schema.builtin inlined, (p.scene.incomingTo (Wrap.wrapperId c)).length = 1 := by
  obtain ⟨_, hs, hchecks⟩ := Option.any_eq_true _ _ |>.1 Scene.poster_checks
  obtain ⟨v, hv, hchecks⟩ := Option.any_eq_true _ _ |>.1 hchecks
  obtain ⟨p, hp, hids⟩ := Option.any_eq_true _ _ |>.1 hchecks
  rw [decide_eq_true_eq] at hids
  have hs := eq_ok_of_toOption hs
  have hv := eq_ok_of_toOption hv
  have hp := eq_ok_of_toOption hp
  have hplain : Scene.poster.SeparatorFree := by decide +kernel
  have hgroups : ∀ g ∈ Scene.poster.groups, Groups.WellFormed g := by decide +kernel
  obtain ⟨_, inlined, _, -, -, -, -, hall⟩ :=
    Scene.prepare_distinct hs hplain (fun g hg => (hgroups g hg).distinct) hv hp
  obtain ⟨hcount, hfed⟩ := hall (hids ▸ by decide)
  exact ⟨hs, hplain, hgroups, v, p, inlined, hv, hp, hids, hcount, hfed hgroups⟩

/-- An image that is set on one input for passes both as a color and as a texture. -/
def Scene.doubled : Scene where
  nodes := [{ id := "screen", type := "Screen" }, { id := "stack", type := "Composite" },
    { id := "img", type := "ImageTexture" }]
  connections := [{ id := "c0", source := ⟨"img", "color"⟩, target := ⟨"stack", "pass"⟩ },
    { id := "c1", source := ⟨"img", "texture"⟩, target := ⟨"stack", "pass"⟩ },
    { id := "c2", source := ⟨"stack", "pass"⟩, target := ⟨"screen", "pass"⟩ }]
  outputs := [("main", "screen")]

theorem Scene.doubled_checks : Scene.doubled.checkStructure.toOption.any (fun _ =>
    (Schema.builtin.validate Scene.doubled).toOption.any fun v =>
      (v.prepare Schema.builtin {}).outcome.1.toOption.any fun p =>
        decide (p.order.count "img~wrap~stack.pass" = 2) && decide (p.scene.nodeIds.count "img~wrap~stack.pass" = 2) &&
          decide ((p.scene.incomingTo "img~wrap~stack.pass").length = 2)) = true := by
  rw [Schema.builtin_eq]
  decide +kernel

/-- Two wrappers have one id: the order lists it twice, and two connections feed each. -/
theorem Scene.doubled_collides : Scene.doubled.checkStructure = .ok () ∧ Scene.doubled.groups = [] ∧
    ∃ v p, Schema.builtin.validate Scene.doubled = .ok v ∧ (v.prepare Schema.builtin {}).outcome.1 = .ok p ∧
      ¬p.scene.nodeIds.Nodup ∧ ¬p.order.Nodup ∧ (p.scene.incomingTo "img~wrap~stack.pass").length ≠ 1 := by
  obtain ⟨_, hs, hchecks⟩ := Option.any_eq_true _ _ |>.1 Scene.doubled_checks
  obtain ⟨v, hv, hchecks⟩ := Option.any_eq_true _ _ |>.1 hchecks
  obtain ⟨p, hp, hchecks⟩ := Option.any_eq_true _ _ |>.1 hchecks
  simp only [Bool.and_eq_true, decide_eq_true_eq] at hchecks
  obtain ⟨⟨horder, hids⟩, hfed⟩ := hchecks
  have hnot : ∀ {l : List String} {id : String}, l.count id = 2 → ¬l.Nodup := by
    intro l id hcount hnodup
    have hle := List.nodup_iff_count_le_one.1 hnodup id
    omega
  exact ⟨eq_ok_of_toOption hs, rfl, v, p, eq_ok_of_toOption hv, eq_ok_of_toOption hp, hnot hids, hnot horder, by omega⟩

end SceneGraph
