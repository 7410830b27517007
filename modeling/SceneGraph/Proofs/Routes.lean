import SceneGraph.Proofs.Prepared

/-!
# Facts about routes

A route leads into the texture of a target node that stands later in the order: the target wired to the
node, or the one of a composition that the node feeds.

* `Routes.Valid`: the routes are those of a prepared scene.
* `Routes.Valid.route_placed`: what every route says.
* `Routes.Valid.route_inherited`: an inherited domain is that of a composition fed by the node.
* `Routes.Valid.rank_lt_domain`: a node stands before the target that it renders into.
-/
set_option autoImplicit false

namespace SceneGraph

namespace Route

/-! ## Targets -/

theorem get?_targetDomains_fold (p : Prepared) (ids : List String) (t : Table Domain) (id : String) (d : Domain) :
    (ids.foldl (fun t id =>
      match p.node? id with
      | some n => if isTargetType n.type then t.insert id (targetDomain p n) else t
      | none => t) t).get? id = some d ↔
    (∃ n, id ∈ ids ∧ p.node? id = some n ∧ isTargetType n.type = true ∧ d = targetDomain p n) ∨
      ((id ∉ ids ∨ ∀ n, p.node? id = some n → isTargetType n.type = false) ∧ t.get? id = some d) := by
  induction ids generalizing t with
  | nil => simp
  | cons k rest ih =>
    rw [List.foldl_cons, ih]
    cases hk : p.node? k with
    | none => by_cases hid : id = k <;> simp_all
    | some n =>
      by_cases htype : isTargetType n.type = true
      · by_cases hid : id = k
        · subst hid
          simp [hk, htype, Table.get?_insert_self]
          by_cases hin : id ∈ rest <;> simp [hin, eq_comm]
        · simp [hid, htype, Table.get?_insert_ne _ _ _ _ hid]
      · by_cases hid : id = k
        · subst hid
          simp_all
        · simp_all

theorem get?_targetDomains {p : Prepared} (hp : p.Valid) (id : String) (d : Domain) :
    (targetDomains p).get? id = some d ↔
      ∃ n, p.node? id = some n ∧ isTargetType n.type = true ∧ d = targetDomain p n := by
  refine (get?_targetDomains_fold p p.order [] id d).trans ?_
  simp only [Table.get?_nil, reduceCtorEq, and_false, or_false]
  constructor
  · rintro ⟨n, _, h⟩
    exact ⟨n, h⟩
  · rintro ⟨n, hn, h⟩
    exact ⟨n, (hp.mem_order id).2 ⟨n, hn⟩, hn, h⟩

theorem mem_foldl_addOnce (acc ids : List String) (x : String) :
    x ∈ ids.foldl addOnce acc ↔ x ∈ acc ∨ x ∈ ids := by
  induction ids generalizing acc with
  | nil => simp
  | cons k rest ih =>
    rw [List.foldl_cons, ih]
    unfold addOnce
    by_cases hk : acc.contains k = true
    · have hk' : k ∈ acc := by simpa using hk
      simp only [hk, if_true, List.mem_cons]
      constructor
      · rintro (h | h)
        · exact .inl h
        · exact .inr (.inr h)
      · rintro (h | rfl | h)
        · exact .inl h
        · exact .inl hk'
        · exact .inr h
    · simp only [hk]
      simp [or_assoc]

theorem mem_passConsumers (p : Prepared) (id : String) (m : Node) :
    m ∈ passConsumers p id ↔
      ∃ c ∈ p.scene.connections, c.source.node = id ∧ c.source.port = "pass" ∧ p.node? c.target.node = some m := by
  unfold passConsumers Scene.outgoingFrom
  simp only [List.mem_filterMap, List.mem_filter, beq_iff_eq]
  constructor
  · rintro ⟨c, ⟨hc, hid⟩, h⟩
    split at h
    · exact ⟨c, hc, hid, by assumption, h⟩
    · cases h
  · rintro ⟨c, hc, hid, hport, h⟩
    exact ⟨c, ⟨hc, hid⟩, by simpa [hport] using h⟩

theorem target_eq_ok {explicit inherited : List String} {t : String} {isExplicit : Bool}
    (h : target explicit inherited = .ok (t, isExplicit)) :
    (isExplicit = true ∧ explicit = [t]) ∨ (isExplicit = false ∧ explicit = [] ∧ inherited = [t]) := by
  unfold target at h
  split at h <;> simp_all

/-! ## Single routes -/

/-- A connection carries the pass output of a node to another node. -/
def Feeds (p : Prepared) (id : String) (m : Node) : Prop :=
  ∃ c ∈ p.scene.connections, c.source.node = id ∧ p.node? c.target.node = some m ∧ c.source.port = "pass"

/-- What a route says about its node, whatever the other routes are. -/
structure Placed (p : Prepared) (textures : Table Domain) (id : String) (q : Route) : Prop where
  node : ∃ n, p.node? id = some n ∧ isRoutedType n.type = true ∧ shape p n = .ok q.geometry
  layers : q.layers = p.layersOf id
  domain : textures.get? q.domain.node = some q.domain
  explicit : q.isExplicit = true → ∃ m, Feeds p id m ∧ m.id = q.domain.node

/-- The node feeds a composition with the same domain. -/
def Inherits (p : Prepared) (found : Table Route) (id : String) (q : Route) : Prop :=
  ∃ m q', Feeds p id m ∧ m.type = compositeType ∧ found.get? m.id = some q' ∧ q'.domain = q.domain

theorem ofNode_placed {p : Prepared} (hp : p.Valid) {found : Table Route} {n : Node} {q : Route} {id : String}
    (hn : p.node? id = some n) (htype : isRoutedType n.type = true)
    (hfound : ∀ a q', found.get? a = some q' → Placed p (targetDomains p) a q')
    (h : ofNode p (targetDomains p) found n = .ok q) :
    Placed p (targetDomains p) id q ∧ (q.isExplicit = false → Inherits p found id q) := by
  obtain ⟨rfl, _⟩ := Prepared.node?_eq_some hn
  unfold ofNode at h
  simp only [bind, Except.bind] at h
  split at h
  · cases h
  · rename_i te htarget
    obtain ⟨t, isExplicit⟩ := te
    simp only at h
    split at h
    · cases h
    · rename_i g hshape
      cases h
      rcases target_eq_ok htarget with ⟨rfl, hexp⟩ | ⟨rfl, hexp, hinh⟩
      · have ht : t ∈ explicitTargets (passConsumers p n.id) := by simp [hexp]
        unfold explicitTargets at ht
        rw [mem_foldl_addOnce] at ht
        simp only [List.not_mem_nil, false_or, List.mem_map, List.mem_filter] at ht
        obtain ⟨m, ⟨hm, hmtype⟩, rfl⟩ := ht
        obtain ⟨c, hc, hsource, hport, hcm⟩ := (mem_passConsumers p n.id m).1 hm
        have hget : (targetDomains p).get? m.id = some (targetDomain p m) :=
          (get?_targetDomains hp _ _).2 ⟨m, Prepared.node?_self hcm, hmtype, rfl⟩
        refine ⟨⟨⟨n, hn, htype, hshape⟩, rfl, ?_, ?_⟩, by simp⟩
        · simp [domainAt, hget, targetDomain]
        · intro _
          exact ⟨m, ⟨c, hc, hsource, hcm, hport⟩, by simp [domainAt, hget, targetDomain]⟩
      · have ht : t ∈ inheritedTargets found (passConsumers p n.id) := by simp [hinh]
        unfold inheritedTargets at ht
        rw [mem_foldl_addOnce] at ht
        simp only [List.not_mem_nil, false_or, List.mem_filterMap, List.mem_filter, Bool.and_eq_true,
          Option.map_eq_some_iff, beq_iff_eq] at ht
        obtain ⟨m, ⟨hm, _, hmtype⟩, q', hq', rfl⟩ := ht
        obtain ⟨c, hc, hsource, hport, hcm⟩ := (mem_passConsumers p n.id m).1 hm
        have hget := (hfound m.id q' hq').domain
        refine ⟨⟨⟨n, hn, htype, hshape⟩, rfl, ?_, by simp⟩, ?_⟩
        · simp [domainAt, hget]
        · intro _
          exact ⟨m, q', ⟨c, hc, hsource, hcm, hport⟩, hmtype, hq', by simp [domainAt, hget]⟩

/-! ## All routes -/

/-- A step of finding routes leaves the routes as they are, or it adds that of the node. -/
theorem findAll_cons {p : Prepared} {textures : Table Domain} {id : String} {rest : List String}
    {found byNode : Table Route} (h : findAll p textures (id :: rest) found = .ok byNode) :
    (∀ n, p.node? id = some n → isRoutedType n.type = false) ∧ findAll p textures rest found = .ok byNode ∨
      ∃ n q, p.node? id = some n ∧ isRoutedType n.type = true ∧ ofNode p textures found n = .ok q ∧
        findAll p textures rest (found.insert id q) = .ok byNode := by
  simp only [findAll] at h
  split at h
  · rename_i hnone
    refine .inl ⟨fun n hn => ?_, h⟩
    rw [hnone] at hn
    cases hn
  · rename_i n hn
    split at h
    · rename_i htype
      split at h
      · cases h
      · rename_i q hq
        rw [(Prepared.node?_eq_some hn).1] at h
        exact .inr ⟨n, q, hn, htype, hq, h⟩
    · rename_i htype
      refine .inl ⟨fun m hm => ?_, h⟩
      rw [hn] at hm
      cases hm
      exact Bool.eq_false_iff.2 htype

theorem placed_insert {p : Prepared} {found : Table Route} {id : String} {q : Route}
    (hfound : ∀ a q, found.get? a = some q → Placed p (targetDomains p) a q)
    (hplaced : Placed p (targetDomains p) id q) :
    ∀ a q', (found.insert id q).get? a = some q' → Placed p (targetDomains p) a q' := by
  intro a q' ha
  rw [Table.get?_insert] at ha
  split at ha
  · rename_i heq
    cases ha
    rw [heq]
    exact hplaced
  · exact hfound a q' ha

theorem findAll_placed {p : Prepared} (hp : p.Valid) {ids : List String} {found byNode : Table Route}
    (hfound : ∀ a q, found.get? a = some q → Placed p (targetDomains p) a q)
    (h : findAll p (targetDomains p) ids found = .ok byNode) :
    ∀ a q, byNode.get? a = some q → Placed p (targetDomains p) a q := by
  induction ids generalizing found with
  | nil =>
    cases h
    exact hfound
  | cons id rest ih =>
    rcases findAll_cons h with ⟨_, h⟩ | ⟨n, q, hn, htype, hq, h⟩
    · exact ih hfound h
    · exact ih (placed_insert hfound (ofNode_placed hp hn htype hfound hq).1) h

theorem findAll_get? {p : Prepared} {textures : Table Domain} {ids : List String} {found byNode : Table Route}
    (h : findAll p textures ids found = .ok byNode) {a : String} {q : Route} (ha : a ∉ ids)
    (hq : found.get? a = some q) : byNode.get? a = some q := by
  induction ids generalizing found with
  | nil =>
    cases h
    exact hq
  | cons id rest ih =>
    obtain ⟨hne, hrest⟩ := List.ne_and_not_mem_of_not_mem_cons ha
    rcases findAll_cons h with ⟨_, h⟩ | ⟨n, _, _, _, _, h⟩
    · exact ih h hrest hq
    · refine ih h hrest ?_
      rw [Table.get?_insert_ne _ _ _ _ hne]
      exact hq

theorem findAll_inherits {p : Prepared} (hp : p.Valid) {ids : List String} {found byNode : Table Route}
    (hnodup : ids.Nodup) (hnew : ∀ a ∈ ids, found.get? a = none)
    (hfound : ∀ a q, found.get? a = some q → Placed p (targetDomains p) a q)
    (h : findAll p (targetDomains p) ids found = .ok byNode) :
    ∀ a q, byNode.get? a = some q → found.get? a = some q ∨ (q.isExplicit = false → Inherits p byNode a q) := by
  induction ids generalizing found with
  | nil =>
    cases h
    exact fun a q hq => .inl hq
  | cons id rest ih =>
    obtain ⟨hid, hrest⟩ := List.nodup_cons.1 hnodup
    have hnew' : ∀ a ∈ rest, found.get? a = none := fun a ha => hnew a (List.mem_cons_of_mem id ha)
    rcases findAll_cons h with ⟨_, h⟩ | ⟨n, q, hn, htype, hq, h⟩
    · exact ih hrest hnew' hfound h
    have hplaced := ofNode_placed hp hn htype hfound hq
    have hnew'' : ∀ a ∈ rest, (found.insert id q).get? a = none := by
      intro a ha
      rw [Table.get?_insert_ne _ _ _ _ (by rintro rfl; exact hid ha)]
      exact hnew' a ha
    intro a q' ha
    rcases ih hrest hnew'' (placed_insert hfound hplaced.1) h a q' ha with hold | hinh
    · rw [Table.get?_insert] at hold
      split at hold
      · rename_i heq
        cases hold
        refine .inr fun hexp => ?_
        obtain ⟨m, q'', hfeeds, hmtype, hq'', hdomain⟩ := hplaced.2 hexp
        -- the route that is inherited was there before, so it is not one of those still to find
        have hm : m.id ∉ id :: rest := by
          intro hmem
          rw [hnew m.id hmem] at hq''
          cases hq''
        obtain ⟨hne, hm⟩ := List.ne_and_not_mem_of_not_mem_cons hm
        have hfinal := findAll_get? h hm (by rw [Table.get?_insert_ne _ _ _ _ hne]; exact hq'')
        rw [heq]
        exact ⟨m, q'', hfeeds, hmtype, hfinal, hdomain⟩
      · exact .inl hold
    · exact .inr hinh

theorem findAll_exists {p : Prepared} {textures : Table Domain} {ids : List String}
    {found byNode : Table Route} (h : findAll p textures ids found = .ok byNode) {a : String} {n : Node}
    (hn : p.node? a = some n) (htype : isRoutedType n.type = true)
    (ha : a ∈ ids ∨ ∃ q, found.get? a = some q) : ∃ q, byNode.get? a = some q := by
  induction ids generalizing found with
  | nil =>
    cases h
    simpa using ha
  | cons id rest ih =>
    rw [List.mem_cons, or_assoc] at ha
    rcases findAll_cons h with ⟨hnone, h⟩ | ⟨m, q, hm, _, _, h⟩
    · refine ih h (ha.resolve_left ?_)
      rintro rfl
      rw [hnone n hn] at htype
      cases htype
    · refine ih h ?_
      rw [Table.get?_insert]
      split
      · exact .inr ⟨q, rfl⟩
      · rename_i hne
        exact ha.resolve_left hne

end Route

namespace Routes

/-- The routes are those of a prepared scene. -/
structure Valid (r : Routes) (p : Prepared) : Prop where
  prepared : p.Valid
  textures : r.textures = Route.targetDomains p
  routes : Route.findAll p (Route.targetDomains p) p.order.reverse [] = .ok r.byNode

end Routes

theorem Prepared.resolve_valid {p : Prepared} (hp : p.Valid) {r : Routes} (h : p.resolve.outcome.1 = .ok r) :
    r.Valid p := by
  obtain ⟨log, hrun⟩ := (outcome_eq_ok _ _).1 h
  unfold Prepared.resolve at hrun
  simp only [yields_bind, yields_ofExcept, yields_debug, yields_pure] at hrun
  obtain ⟨byNode, _, ⟨hfind, _⟩, _, _, _, rfl, _⟩ := hrun
  exact ⟨hp, rfl, hfind⟩

namespace Routes.Valid

variable {r : Routes} {p : Prepared}

/-! ## Textures of targets -/

theorem get?_textures (hr : r.Valid p) (id : String) (d : Domain) :
    r.textures.get? id = some d ↔
      ∃ n, p.node? id = some n ∧ isTargetType n.type = true ∧ d = Route.targetDomain p n := by
  rw [hr.textures]
  exact Route.get?_targetDomains hr.prepared id d

theorem textures_node (hr : r.Valid p) {id : String} {d : Domain} (h : r.textures.get? id = some d) :
    d.node = id ∧ d.texture = p.nameOf id := by
  obtain ⟨n, hn, _, rfl⟩ := (hr.get?_textures id d).1 h
  obtain ⟨rfl, _⟩ := Prepared.node?_eq_some hn
  exact ⟨rfl, rfl⟩

/-- Different targets have different textures. -/
theorem texture_injective (hr : r.Valid p) {a b : String} {d e : Domain} (ha : r.textures.get? a = some d)
    (hb : r.textures.get? b = some e) (h : d.texture = e.texture) : a = b := by
  obtain ⟨n, hn, _⟩ := (hr.get?_textures a d).1 ha
  obtain ⟨m, hm, _⟩ := (hr.get?_textures b e).1 hb
  rw [(hr.textures_node ha).2, (hr.textures_node hb).2] at h
  exact hr.prepared.nameOf_injective hn hm h

theorem get?_output (hr : r.Valid p) :
    ∃ d, r.textures.get? p.output.node = some d ∧ d.texture = p.output.texture := by
  obtain ⟨n, hn, htype⟩ := hr.prepared.output_node
  have htarget : isTargetType n.type = true := by simp [isTargetType, htype]
  have hget := (hr.get?_textures p.output.node _).2 ⟨n, hn, htarget, rfl⟩
  exact ⟨_, hget, by rw [(hr.textures_node hget).2, hr.prepared.nameOf_output]⟩

/-! ## Routes of nodes -/

theorem route_placed (hr : r.Valid p) {id : String} {q : Route} (h : r.route? id = some q) :
    Route.Placed p r.textures id q := by
  rw [hr.textures]
  exact Route.findAll_placed hr.prepared (by simp) hr.routes id q h

theorem route_exists (hr : r.Valid p) {id : String} {n : Node} (hn : p.node? id = some n)
    (htype : isRoutedType n.type = true) : ∃ q, r.route? id = some q := by
  refine Route.findAll_exists hr.routes hn htype (.inl ?_)
  rw [List.mem_reverse]
  exact (hr.prepared.mem_order id).2 ⟨n, hn⟩

/-- A node without a target of its own feeds a composition with the same domain. -/
theorem route_inherited (hr : r.Valid p) (hnodup : p.scene.nodeIds.Nodup) {id : String} {q : Route}
    (h : r.route? id = some q) (hexp : q.isExplicit = false) :
    ∃ m q', Route.Feeds p id m ∧ m.type = compositeType ∧ r.route? m.id = some q' ∧ q'.domain = q.domain := by
  have horder : p.order.reverse.Nodup := List.nodup_reverse.2 (hr.prepared.order_nodup hnodup)
  rcases Route.findAll_inherits hr.prepared horder (by simp) (by simp) hr.routes id q h with hnone | hinh
  · simp at hnone
  · exact hinh hexp

theorem feeds_rank_lt (hr : r.Valid p) (hnodup : p.scene.nodeIds.Nodup) {id : String} {n m : Node}
    (hn : p.node? id = some n) (h : Route.Feeds p id m) : p.rank id < p.rank m.id := by
  obtain ⟨c, hc, rfl, hm, _⟩ := h
  rw [(Prepared.node?_eq_some hm).1]
  exact hr.prepared.rank_lt_rank hnodup hc hn hm

/-- A node stands before the target that it renders into. -/
theorem rank_lt_domain (hr : r.Valid p) (hnodup : p.scene.nodeIds.Nodup) {id : String} {q : Route}
    (h : r.route? id = some q) : p.rank id < p.rank q.domain.node := by
  -- inherited domains are followed through compositions of higher and higher rank
  induction hk : p.order.length - p.rank id using Nat.strongRecOn generalizing id q with
  | ind k ih =>
    obtain ⟨n, hn, _⟩ := (hr.route_placed h).node
    cases hexp : q.isExplicit with
    | true =>
      obtain ⟨m, hfeeds, hm⟩ := (hr.route_placed h).explicit hexp
      rw [← hm]
      exact hr.feeds_rank_lt hnodup hn hfeeds
    | false =>
      obtain ⟨m, q', hfeeds, _, hq', hdomain⟩ := hr.route_inherited hnodup h hexp
      have hlt := hr.feeds_rank_lt hnodup hn hfeeds
      have hlen := hr.prepared.rank_lt hn
      have := ih (p.order.length - p.rank m.id) (by omega) hq' rfl
      rw [hdomain] at this
      omega

end Routes.Valid

end SceneGraph
