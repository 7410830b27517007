import SceneGraph.Proofs.Routes
import SceneGraph.Proofs.Tables

/-!
# Domains

The domain of a node is the one target it feeds or, where it feeds none, the domain that all compositions it feeds have.
The walk through the routes goes from higher to lower ranks, so it finds these compositions routed and decides at every
node whether there is a domain.

* `Prepared.HasDomain`: the domain of a node, `Prepared.HasDomain.unique`: there is one at most.
* `Route.target_located`: the step at one node.
* `Route.RoutedOutside`: what the walk keeps, every node that it has passed has its route.
* `Route.findAll_iff`: the walk succeeds exactly if every node has a domain and its shape is baked.
* `Prepared.resolve_domains`: the routes of a prepared scene.
-/
set_option autoImplicit false

namespace SceneGraph

namespace Prepared

variable {p : Prepared} {n T T' : Node}

/-- A node has the domain of a target if that is the only target it feeds, or if it feeds no target but compositions,
and all of these have the domain. -/
inductive HasDomain (p : Prepared) : Node → Node → Prop
  | wired {n T : Node} (hwired : Route.Feeds p n.id T) (htarget : isTargetType T.type = true)
      (hsingle : ∀ m, Route.Feeds p n.id m → isTargetType m.type = true → m = T) : HasDomain p n T
  | inherited {n T m : Node} (hunwired : ∀ m, Route.Feeds p n.id m → isTargetType m.type = false)
      (hfeeds : Route.Feeds p n.id m) (hcomposite : m.type = compositeType)
      (hall : ∀ m, Route.Feeds p n.id m → m.type = compositeType → HasDomain p m T) : HasDomain p n T

theorem HasDomain.target (h : p.HasDomain n T) : isTargetType T.type = true ∧ p.node? T.id = some T := by
  induction h with
  | wired hwired htarget =>
    obtain ⟨c, -, -, hnode, -⟩ := hwired
    exact ⟨htarget, node?_self hnode⟩
  | inherited _ hfeeds hcomposite _ ih => exact ih _ hfeeds hcomposite

theorem HasDomain.unique (h : p.HasDomain n T) (h' : p.HasDomain n T') : T = T' := by
  induction h generalizing T' with
  | wired hwired htarget hsingle =>
    cases h' with
    | wired hwired' htarget' => exact (hsingle _ hwired' htarget').symm
    | inherited hunwired => cases (hunwired _ hwired).symm.trans htarget
  | inherited hunwired hfeeds hcomposite _ ih =>
    cases h' with
    | wired hwired' htarget' => cases (hunwired _ hwired').symm.trans htarget'
    | inherited _ _ _ hall' => exact ih _ hfeeds hcomposite (hall' _ hfeeds hcomposite)

/-- A shape that is wired to the geometry input of the node is baked. -/
def Meshed (p : Prepared) (n : Node) : Prop :=
  n.type = "RenderPass" → ∀ c, p.scene.inputAt? n.id ["geometry"] = some c → (p.baked.mesh? c.source).isSome = true

end Prepared

namespace Route

variable {p : Prepared} {n T : Node}

/-! ## Single routes -/

theorem nodup_foldl_addOnce {acc ids : List String} (h : acc.Nodup) : (ids.foldl addOnce acc).Nodup := by
  induction ids generalizing acc with
  | nil => exact h
  | cons k rest ih =>
    refine ih ?_
    unfold addOnce
    split
    · exact h
    · rename_i hk
      exact (List.nodup_append_comm).1 (List.nodup_cons.2 ⟨by simpa using hk, h⟩)

/-- What is left of a list without repetitions is a single id exactly if nothing else is in it. -/
theorem foldl_addOnce_singleton {ids : List String} {t : String} :
    ids.foldl addOnce [] = [t] ↔ t ∈ ids ∧ ∀ x ∈ ids, x = t := by
  have hmem (x : String) : x ∈ ids.foldl addOnce [] ↔ x ∈ ids := by simp [mem_foldl_addOnce]
  constructor
  · intro h
    rw [h] at hmem
    exact ⟨(hmem t).1 List.mem_cons_self, fun x hx => List.mem_singleton.1 ((hmem x).2 hx)⟩
  · rintro ⟨ht, hall⟩
    refine List.perm_singleton.1 ((List.perm_ext_iff_of_nodup (nodup_foldl_addOnce .nil) (List.nodup_singleton t)).2
      fun x => ?_)
    rw [hmem, List.mem_singleton]
    exact ⟨hall x, fun hx => hx ▸ ht⟩

theorem foldl_addOnce_nil {ids : List String} : ids.foldl addOnce [] = [] ↔ ids = [] := by
  constructor
  · intro h
    refine List.eq_nil_iff_forall_not_mem.2 fun x hx => ?_
    have hmem := (mem_foldl_addOnce [] ids x).2 (.inr hx)
    rw [h] at hmem
    cases hmem
  · rintro rfl
    rfl

theorem target_iff {explicit inherited : List String} {t : String} {isExplicit : Bool} :
    target explicit inherited = .ok (t, isExplicit) ↔
      explicit = [t] ∧ isExplicit = true ∨ explicit = [] ∧ inherited = [t] ∧ isExplicit = false := by
  constructor
  · intro h
    rcases target_eq_ok h with ⟨hexp, h⟩ | ⟨hexp, h, hinherited⟩
    · exact .inl ⟨h, hexp⟩
    · exact .inr ⟨h, hinherited, hexp⟩
  · rintro (⟨rfl, rfl⟩ | ⟨rfl, rfl, rfl⟩)
    · rfl
    · rfl

theorem mem_passConsumers_iff {id : String} {m : Node} : m ∈ passConsumers p id ↔ Feeds p id m := by
  rw [mem_passConsumers]
  exact exists_congr fun c => and_congr_right fun _ => and_congr_right fun _ => and_comm

theorem Feeds.node? {id : String} {m : Node} (h : Feeds p id m) : p.node? m.id = some m := by
  obtain ⟨c, -, -, hnode, -⟩ := h
  exact Prepared.node?_self hnode

theorem explicitTargets_singleton {id : String} : explicitTargets (passConsumers p id) = [T.id] ∧ Feeds p id T ↔
    Feeds p id T ∧ isTargetType T.type = true ∧ ∀ m, Feeds p id m → isTargetType m.type = true → m = T := by
  unfold explicitTargets
  rw [foldl_addOnce_singleton]
  simp only [List.mem_map, List.mem_filter, mem_passConsumers_iff]
  constructor
  · rintro ⟨⟨⟨m, ⟨hm, htarget⟩, hid⟩, hall⟩, hT⟩
    have hsame : m = T := Option.some.inj (hm.node?.symm.trans (hid ▸ hT.node?))
    refine ⟨hT, hsame ▸ htarget, fun m' hm' htarget' => ?_⟩
    exact Option.some.inj (hm'.node?.symm.trans (hall m'.id ⟨m', ⟨hm', htarget'⟩, rfl⟩ ▸ hT.node?))
  · rintro ⟨hT, htarget, hsingle⟩
    refine ⟨⟨⟨T, ⟨hT, htarget⟩, rfl⟩, ?_⟩, hT⟩
    rintro _ ⟨m, ⟨hm, hm'⟩, rfl⟩
    rw [hsingle m hm hm']

theorem explicitTargets_nil {id : String} : explicitTargets (passConsumers p id) = [] ↔
    ∀ m, Feeds p id m → isTargetType m.type = false := by
  unfold explicitTargets
  simp only [foldl_addOnce_nil, List.map_eq_nil_iff, List.filter_eq_nil_iff, mem_passConsumers_iff,
    Bool.not_eq_true]

/-- A route leads into the texture of the target whose domain the node has. -/
structure Located (p : Prepared) (n : Node) (q : Route) : Prop where
  domain : ∃ T, p.HasDomain n T ∧ q.domain = targetDomain p T
  isExplicit : q.isExplicit = true ↔ ∃ m, Feeds p n.id m ∧ isTargetType m.type = true

/-- The compositions that a node feeds have been routed. -/
def Awaits (p : Prepared) (found : Table Route) (n : Node) : Prop :=
  ∀ m, Feeds p n.id m → m.type = compositeType → ∃ q, found.get? m.id = some q ∧ Located p m q

theorem mem_inherited {found : Table Route} (h : Awaits p found n) (x : String) :
    x ∈ ((passConsumers p n.id).filter fun m => !isTargetType m.type && m.type == compositeType).filterMap
        (fun m => (found.get? m.id).map fun r => r.domain.node) ↔
      ∃ m T, Feeds p n.id m ∧ m.type = compositeType ∧ p.HasDomain m T ∧ T.id = x := by
  have hcomposite : isTargetType compositeType = false := by decide
  simp only [List.mem_filterMap, List.mem_filter, mem_passConsumers_iff, Bool.and_eq_true, Bool.not_eq_true',
    beq_iff_eq, Option.map_eq_some_iff]
  constructor
  · rintro ⟨m, ⟨hfeeds, -, htype⟩, q, hq, rfl⟩
    obtain ⟨q', hq', hlocated⟩ := h m hfeeds htype
    cases hq.symm.trans hq'
    obtain ⟨T, hT, hdomain⟩ := hlocated.domain
    exact ⟨m, T, hfeeds, htype, hT, by rw [hdomain]; rfl⟩
  · rintro ⟨m, T, hfeeds, htype, hT, rfl⟩
    obtain ⟨q, hq, hlocated⟩ := h m hfeeds htype
    obtain ⟨T', hT', hdomain⟩ := hlocated.domain
    cases hT.unique hT'
    exact ⟨m, ⟨hfeeds, htype ▸ hcomposite, htype⟩, q, hq, by rw [hdomain]; rfl⟩

/-- A node gets a target exactly if it has a domain, and it gets the one of its domain. -/
theorem target_located {found : Table Route} (h : Awaits p found n) {t : String} {isExplicit : Bool} :
    target (explicitTargets (passConsumers p n.id)) (inheritedTargets found (passConsumers p n.id)) =
        .ok (t, isExplicit) ↔
      (∃ T, p.HasDomain n T ∧ T.id = t) ∧
        (isExplicit = true ↔ ∃ m, Feeds p n.id m ∧ isTargetType m.type = true) := by
  rw [target_iff, explicitTargets_nil, inheritedTargets, foldl_addOnce_singleton]
  simp only [mem_inherited h]
  constructor
  · rintro (⟨hwired, rfl⟩ | ⟨hunwired, ⟨⟨m, T, hfeeds, htype, hT, rfl⟩, hall⟩, rfl⟩)
    · have hmem : t ∈ explicitTargets (passConsumers p n.id) := by simp [hwired]
      unfold explicitTargets at hmem
      simp only [mem_foldl_addOnce, List.not_mem_nil, false_or, List.mem_map, List.mem_filter,
        mem_passConsumers_iff] at hmem
      obtain ⟨T, ⟨hT, htarget⟩, rfl⟩ := hmem
      obtain ⟨-, -, hsingle⟩ := explicitTargets_singleton.1 ⟨hwired, hT⟩
      exact ⟨⟨T, .wired hT htarget hsingle, rfl⟩, by simpa using ⟨T, hT, htarget⟩⟩
    · refine ⟨⟨T, .inherited hunwired hfeeds htype fun m' hm' htype' => ?_, rfl⟩, by simpa using hunwired⟩
      obtain ⟨q, -, hlocated⟩ := h m' hm' htype'
      obtain ⟨T', hT', -⟩ := hlocated.domain
      have hid := hall T'.id ⟨m', T', hm', htype', hT', rfl⟩
      cases Option.some.inj (hT'.target.2.symm.trans (hid ▸ hT.target.2))
      exact hT'
  · rintro ⟨⟨T, hT, rfl⟩, hexplicit⟩
    cases hT with
    | wired hwired htarget hsingle =>
      exact .inl ⟨(explicitTargets_singleton.2 ⟨hwired, htarget, hsingle⟩).1, hexplicit.2 ⟨T, hwired, htarget⟩⟩
    | @inherited _ _ m hunwired hfeeds htype hall =>
      refine .inr ⟨hunwired, ⟨⟨m, T, hfeeds, htype, hall m hfeeds htype, rfl⟩, ?_⟩, ?_⟩
      · rintro _ ⟨m', T', hm', htype', hT', rfl⟩
        rw [hT'.unique (hall m' hm' htype')]
      · cases isExplicit with
        | false => rfl
        | true =>
          obtain ⟨m', hm', htarget⟩ := hexplicit.1 rfl
          cases (hunwired m' hm').symm.trans htarget

theorem shape_isOk : (∃ g, shape p n = .ok g) ↔ p.Meshed n := by
  unfold shape Prepared.Meshed
  by_cases htype : n.type = "RenderPass"
  · simp only [htype, ne_eq, not_true_eq_false, if_false, forall_true_left]
    cases hinput : p.scene.inputAt? n.id ["geometry"] with
    | none => simp
    | some c => cases hmesh : p.baked.mesh? c.source <;> simp [hmesh]
  · simp [htype]

theorem ofNode_isOk {found : Table Route} (h : Awaits p found n) :
    (∃ q, ofNode p (targetDomains p) found n = .ok q) ↔ (∃ T, p.HasDomain n T) ∧ p.Meshed n := by
  rw [← shape_isOk]
  unfold ofNode
  simp only [bind, Except.bind, pure, Except.pure]
  constructor
  · rintro ⟨q, hq⟩
    split at hq
    · cases hq
    · rename_i te htarget
      obtain ⟨T, hT, -⟩ := ((target_located h).1 htarget).1
      split at hq
      · cases hq
      · rename_i g hshape
        exact ⟨⟨T, hT⟩, g, hshape⟩
  · rintro ⟨⟨T, hT⟩, g, hshape⟩
    obtain ⟨isExplicit, hexplicit⟩ : ∃ b : Bool, b = true ↔ ∃ m, Feeds p n.id m ∧ isTargetType m.type = true := by
      by_cases hwired : ∃ m, Feeds p n.id m ∧ isTargetType m.type = true
      · exact ⟨true, by simp [hwired]⟩
      · exact ⟨false, by simp [hwired]⟩
    rw [(target_located h).2 ⟨⟨T, hT, rfl⟩, hexplicit⟩]
    dsimp only
    rw [hshape]
    exact ⟨_, rfl⟩

theorem ofNode_located (hp : p.Valid) {found : Table Route} (h : Awaits p found n) {q : Route}
    (hq : ofNode p (targetDomains p) found n = .ok q) : Located p n q := by
  unfold ofNode at hq
  simp only [bind, Except.bind, pure, Except.pure] at hq
  split at hq
  · cases hq
  · rename_i te htarget
    obtain ⟨⟨T, hT, hid⟩, hexplicit⟩ := (target_located h).1 htarget
    split at hq
    · cases hq
    · cases hq
      have hget : (targetDomains p).get? te.1 = some (targetDomain p T) :=
        (get?_targetDomains hp _ _).2 ⟨T, hid ▸ hT.target.2, hT.target.1, rfl⟩
      exact ⟨⟨T, hT, by simp [domainAt, hget]⟩, hexplicit⟩

/-! ## All routes -/

/-- Every draw pass and composition that is not in the list has its route. -/
def RoutedOutside (p : Prepared) (ids : List String) (found : Table Route) : Prop :=
  ∀ a m, p.node? a = some m → isRoutedType m.type = true → a ∉ ids → ∃ q, found.get? a = some q ∧ Located p m q

theorem RoutedOutside.skip {id : String} {rest : List String} {found : Table Route}
    (h : RoutedOutside p (id :: rest) found) (hskipped : ∀ n, p.node? id = some n → ¬isRoutedType n.type = true) :
    RoutedOutside p rest found := by
  intro a m hm htype ha
  refine h a m hm htype fun hmem => ?_
  rcases List.mem_cons.1 hmem with rfl | hmem
  · exact hskipped m hm htype
  · exact ha hmem

theorem RoutedOutside.insert {id : String} {rest : List String} {found : Table Route} {q : Route}
    (h : RoutedOutside p (id :: rest) found) (hn : p.node? id = some n) (hq : Located p n q) :
    RoutedOutside p rest (found.insert id q) := by
  intro a m hm htype ha
  rw [Table.get?_insert]
  by_cases hsame : a = id
  · cases (hsame ▸ hm).symm.trans hn
    exact ⟨q, if_pos hsame, hq⟩
  · rw [if_neg hsame]
    exact h a m hm htype (List.not_mem_cons_of_ne_of_not_mem hsame ha)

section

variable (hp : p.Valid) (hnodup : p.scene.nodeIds.Nodup)
include hp hnodup

theorem feeds_rank {id : String} {m : Node} (hn : p.node? id = some n) (h : Feeds p id m) :
    p.rank id < p.rank m.id := by
  obtain ⟨c, hc, rfl, hm, -⟩ := h
  rw [(Prepared.node?_eq_some hm).1]
  exact hp.rank_lt_rank hnodup hc hn hm

/-- The walk goes from higher to lower ranks, so at every node the compositions that it feeds have been routed. -/
theorem awaits_of_descending {id : String} {rest : List String} {found : Table Route}
    (hdescending : (id :: rest).Pairwise fun a b => p.rank b < p.rank a) (hn : p.node? id = some n)
    (hfound : RoutedOutside p (id :: rest) found) : Awaits p found n := by
  intro m hfeeds htype
  obtain ⟨rfl, -⟩ := Prepared.node?_eq_some hn
  have hrank := feeds_rank hp hnodup hn hfeeds
  refine hfound m.id m hfeeds.node? (by simp [isRoutedType, htype]) fun hmem => ?_
  rcases List.mem_cons.1 hmem with hsame | hmem
  · rw [hsame] at hrank
    exact absurd hrank (Nat.lt_irrefl _)
  · exact absurd ((List.pairwise_cons.1 hdescending).1 m.id hmem) (Nat.lt_asymm hrank)

/-- The routes that are left are found exactly if each of these nodes has a domain and a baked shape, and then every
node has its route. -/
theorem findAll_iff {ids : List String} {found : Table Route}
    (hdescending : ids.Pairwise fun a b => p.rank b < p.rank a)
    (hfound : RoutedOutside p ids found) :
    ((∃ byNode, findAll p (targetDomains p) ids found = .ok byNode) ↔
      ∀ id ∈ ids, ∀ n, p.node? id = some n → isRoutedType n.type = true → (∃ T, p.HasDomain n T) ∧ p.Meshed n) ∧
    ∀ byNode, findAll p (targetDomains p) ids found = .ok byNode → RoutedOutside p [] byNode := by
  induction ids generalizing found with
  | nil =>
    refine ⟨by simp [findAll], fun byNode h => ?_⟩
    cases h
    exact hfound
  | cons id rest ih =>
    have hrest := (List.pairwise_cons.1 hdescending).2
    -- a node without a route is passed over, so nothing is asked of it
    have hskip (hskipped : ∀ n, p.node? id = some n → ¬isRoutedType n.type = true) :
        ∀ n, p.node? id = some n → isRoutedType n.type = true → (∃ T, p.HasDomain n T) ∧ p.Meshed n :=
      fun n hn htype => absurd htype (hskipped n hn)
    rw [List.forall_mem_cons]
    unfold findAll
    cases hn : p.node? id with
    | none =>
      have hskipped : ∀ n, p.node? id = some n → ¬isRoutedType n.type = true := by simp [hn]
      simpa [hn] using ih hrest (hfound.skip hskipped)
    | some n =>
      dsimp only
      split
      · rename_i htype
        obtain rfl := (Prepared.node?_eq_some hn).1
        have hawaits := awaits_of_descending hp hnodup hdescending hn hfound
        have hhead := ofNode_isOk hawaits
        cases hq : ofNode p (targetDomains p) found n with
        | error reason =>
          refine ⟨⟨?_, fun hall => ?_⟩, ?_⟩
          · rintro ⟨_, ⟨⟩⟩
          · obtain ⟨q, hq'⟩ := hhead.2 (hall.1 n rfl htype)
            cases hq.symm.trans hq'
          · rintro _ ⟨⟩
        | ok q =>
          have hroute := hhead.1 ⟨q, hq⟩
          obtain ⟨hiff, hlocated⟩ := ih hrest (hfound.insert hn (ofNode_located hp hawaits hq))
          refine ⟨hiff.trans ⟨fun h => ⟨fun n' hn' _ => ?_, h⟩, And.right⟩, hlocated⟩
          cases hn'
          exact hroute
      · rename_i htype
        have hskipped : ∀ n', p.node? id = some n' → ¬isRoutedType n'.type = true := fun n' hn' => by
          cases hn.symm.trans hn'
          exact htype
        obtain ⟨hiff, hlocated⟩ := ih hrest (hfound.skip hskipped)
        rw [hn] at hskip hskipped
        exact ⟨hiff.trans ⟨fun h => ⟨hskip hskipped, h⟩, And.right⟩, hlocated⟩

end

end Route

namespace Prepared

variable {s : Scene} {schema : Schema} {options : PrepareOptions} {p : Prepared}

theorem order_descending (hp : p.Valid) (hnodup : p.scene.nodeIds.Nodup) :
    p.order.reverse.Pairwise fun a b => p.rank b < p.rank a := by
  rw [List.pairwise_reverse, List.pairwise_iff_getElem]
  intro i j hi hj hij
  rwa [rank, rank, List.Nodup.idxOf_getElem (hp.order_nodup hnodup), List.Nodup.idxOf_getElem (hp.order_nodup hnodup)]

theorem resolve_eq_ok {r : Routes} : p.resolve.outcome.1 = .ok r ↔
    ∃ byNode, Route.findAll p (Route.targetDomains p) p.order.reverse [] = .ok byNode ∧
      r = { byNode, order := p.order.filter fun id => byNode.has id, textures := Route.targetDomains p,
            consumerEdges := Route.consumerEdges p } := by
  rw [outcome_eq_ok]
  unfold Prepared.resolve
  simp only [yields_bind, yields_ofExcept, yields_debug, yields_pure]
  constructor
  · rintro ⟨_, byNode, _, ⟨hfind, -⟩, _, _, -, hr, -⟩
    exact ⟨byNode, hfind, hr⟩
  · rintro ⟨byNode, hfind, hr⟩
    exact ⟨_, byNode, _, ⟨hfind, rfl⟩, (), _, rfl, hr, rfl⟩

/-- What the routes of a scene say: every draw pass and composition leads into the texture of the one target whose
domain it has, by a wire of its own where it feeds a target, and the order is that of the scene. -/
structure RoutedBy (p : Prepared) (r : Routes) : Prop where
  domain : ∀ id n, p.node? id = some n → isRoutedType n.type = true → ∃ q T, r.route? id = some q ∧
    p.HasDomain n T ∧ (∀ T', p.HasDomain n T' → T' = T) ∧ q.domain = Route.targetDomain p T
  isExplicit : ∀ id q, r.route? id = some q →
    (q.isExplicit = true ↔ ∃ m, Route.Feeds p id m ∧ isTargetType m.type = true)
  routed : ∀ id q, r.route? id = some q → ∃ n, p.node? id = some n ∧ isRoutedType n.type = true
  order : r.order = p.order.filter fun id => (p.node? id).any fun n => isRoutedType n.type

/-- Resolving succeeds exactly if every draw pass and composition has a domain and the shapes wired to draw passes are
baked. The geometry input of a pass is the connection that the input index finds, the first on the port. -/
theorem resolve_domains (h : (s.prepare schema options).outcome.1 = .ok p) (hnodup : p.scene.nodeIds.Nodup) :
    ((∃ r, p.resolve.outcome.1 = .ok r) ↔
      (∀ id n, p.node? id = some n → isRoutedType n.type = true → ∃ T, p.HasDomain n T) ∧
        ∀ id n, p.node? id = some n → p.Meshed n) ∧
    ∀ r, p.resolve.outcome.1 = .ok r → p.RoutedBy r := by
  have hp := Scene.prepare_valid h
  have hordered : Route.RoutedOutside p p.order.reverse [] := fun a m hm _ ha =>
    absurd (List.mem_reverse.2 ((hp.mem_order a).2 ⟨m, hm⟩)) ha
  obtain ⟨hiff, hlocated⟩ := Route.findAll_iff hp hnodup (order_descending hp hnodup) hordered
  constructor
  · simp only [resolve_eq_ok]
    rw [exists_comm]
    simp only [exists_and_left, exists_eq, and_true]
    rw [hiff]
    constructor
    · intro hall
      refine ⟨fun id n hn htype => ?_, fun id n hn htype => ?_⟩
      · exact (hall id (List.mem_reverse.2 ((hp.mem_order id).2 ⟨n, hn⟩)) n hn htype).1
      · have hrouted : isRoutedType n.type = true := by rw [htype]; decide
        exact (hall id (List.mem_reverse.2 ((hp.mem_order id).2 ⟨n, hn⟩)) n hn hrouted).2 htype
    · exact fun ⟨hdomain, hmeshed⟩ id _ n hn htype => ⟨hdomain id n hn htype, hmeshed id n hn⟩
  · intro r hr
    have hvalid := resolve_valid hp hr
    have hfound := hlocated _ hvalid.routes
    have hrouted (id : String) (q : Route) (hq : r.route? id = some q) :
        ∃ n, p.node? id = some n ∧ isRoutedType n.type = true := by
      obtain ⟨n, hn, htype, -⟩ := (hvalid.route_placed hq).node
      exact ⟨n, hn, htype⟩
    refine ⟨fun id n hn htype => ?_, fun id q hq => ?_, hrouted, ?_⟩
    · obtain ⟨q, hq, hroute⟩ := hfound id n hn htype List.not_mem_nil
      obtain ⟨T, hT, hdomain⟩ := hroute.domain
      exact ⟨q, T, hq, hT, fun T' hT' => hT'.unique hT, hdomain⟩
    · obtain ⟨n, hn, htype⟩ := hrouted id q hq
      obtain ⟨q', hq', hroute⟩ := hfound id n hn htype List.not_mem_nil
      cases hq.symm.trans hq'
      rw [hroute.isExplicit, (node?_eq_some hn).1]
    · obtain ⟨byNode, hfind, rfl⟩ := resolve_eq_ok.1 hr
      refine List.filter_congr fun id _ => ?_
      rw [Bool.eq_iff_iff, Table.has_iff, Option.any_eq_true]
      constructor
      · rintro ⟨q, hq⟩
        obtain ⟨n, hn, htype⟩ := hrouted id q hq
        exact ⟨n, hn, htype⟩
      · rintro ⟨n, hn, htype⟩
        obtain ⟨q, hq, -⟩ := hfound id n hn htype List.not_mem_nil
        exact ⟨q, hq⟩

end Prepared

/-- A pass that feeds a composition and the composition that this one feeds, and is shown through the outer one. -/
def Scene.nested : Scene where
  nodes := [{ id := "screen", type := "Screen" }, { id := "outer", type := "Composite" },
    { id := "inner", type := "Composite" }, { id := "draw", type := "RenderPass" }]
  connections := [{ id := "a", source := ⟨"draw", "pass"⟩, target := ⟨"inner", "pass"⟩ },
    { id := "b", source := ⟨"draw", "pass"⟩, target := ⟨"outer", "dynamic_0"⟩ },
    { id := "c", source := ⟨"inner", "pass"⟩, target := ⟨"outer", "dynamic_1"⟩ },
    { id := "d", source := ⟨"outer", "pass"⟩, target := ⟨"screen", "pass"⟩ }]
  outputs := [("main", "screen")]

theorem Scene.nested_prepares : (Scene.nested.prepare Schema.builtin {}).outcome.1.toOption.any (fun p =>
    decide p.scene.nodeIds.Nodup && p.resolve.outcome.1.toOption.any fun r =>
      (r.route? "draw").any fun q => q.domain.node == "screen" && !q.isExplicit) = true := by
  rw [Schema.builtin_eq]
  decide +kernel

theorem Scene.nested_routed : ∃ p r, ((Scene.nested.prepare Schema.builtin {}).outcome.1 = .ok p ∧
    p.scene.nodeIds.Nodup) ∧ p.resolve.outcome.1 = .ok r ∧ p.RoutedBy r ∧
      ∀ id n, p.node? id = some n → isRoutedType n.type = true → ∃ T, p.HasDomain n T := by
  obtain ⟨p, hp, hchecks⟩ := (Option.any_eq_true _ _).1 Scene.nested_prepares
  obtain ⟨hnodup, hresolve⟩ := Bool.and_eq_true_iff.1 hchecks
  obtain ⟨r, hr, -⟩ := (Option.any_eq_true _ _).1 hresolve
  have hp' := eq_ok_of_toOption hp
  have hdomains := Prepared.resolve_domains hp' (of_decide_eq_true hnodup)
  have hr' := eq_ok_of_toOption hr
  exact ⟨p, r, ⟨hp', of_decide_eq_true hnodup⟩, hr', hdomains.2 r hr', (hdomains.1.1 ⟨r, hr'⟩).1⟩

end SceneGraph
