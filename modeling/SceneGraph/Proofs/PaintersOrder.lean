import SceneGraph.Proofs.Copies
import SceneGraph.Proofs.LayerOrder

/-!
# Painter's order

A composition plans its layers in order, but what is drawn for a layer may have been drawn before, for another
consumer. With a single consumer for everything that is drawn for two layers of a composition, both are trees that are
entered through the composition alone, the upper one when the lower one has been drawn completely.

* `PlanContext.consumer_unique`, `PlanContext.place_unique`: a node with one consumer is a layer in one place.
* `PlanContext.shares_of_single`: as a layer, such a node renders into the texture of the composition.
* `PlanContext.Stacked`: two layers of a composition on its texture, with single consumers.
* `PlanContext.Stacked.disjoint`, `PlanContext.Stacked.parent`: both trees are apart, and the composition is the only
  way into the upper one.
* `PlanContext.Follows`: events in painter's order, of which those above come when all below is drawn.
* `PlanContext.Stacked.composite_follows`: planning a composition emits such events.
* `Scene.PlannedAs.paints_in_order`: the passes of the lower layer precede those of the upper one.
-/
set_option autoImplicit false

namespace SceneGraph

open PlanState

theorem target_eq_of_single {s : Scene} {z : String} (h : (s.outgoingFrom z).length = 1) {k k' : Connection}
    (hk : k ∈ s.connections) (hsource : k.source.node = z) (hk' : k' ∈ s.connections) (hsource' : k'.source.node = z) :
    k.target = k'.target := by
  obtain ⟨only, honly⟩ := List.length_eq_one_iff.1 h
  have hmem : ∀ k ∈ s.connections, k.source.node = z → k = only := by
    intro k hk hsource
    have hout : k ∈ s.outgoingFrom z := List.mem_filter.2 ⟨hk, beq_iff_eq.2 hsource⟩
    rwa [honly, List.mem_singleton] at hout
  rw [hmem k hk hsource, hmem k' hk' hsource']

/-- Whether the first node is a layer of the second one on its texture. -/
def Routes.sharing (r : Routes) (z m : String) : Bool :=
  (r.route? m).any fun q => (q.layers.any fun l => l.node == z) &&
    (r.route? z).any fun lr => lr.domain.node == q.domain.node

namespace PlanContext

variable {c : PlanContext} {m x y z : String} {n : Node}

theorem sharesTexture_iff : c.SharesTexture z m ↔ c.routes.sharing z m = true := by
  simp [SharesTexture, Routes.sharing, Option.any_eq_true, List.any_eq_true]

/-! ## Single consumers -/

theorem consumer_unique (hc : c.Valid) (hsingle : (c.prepared.scene.outgoingFrom z).length = 1) {m' : String}
    {r r' : Route} (hr : c.routes.route? m = some r) (hr' : c.routes.route? m' = some r')
    (hl : ∃ l ∈ r.layers, l.node = z) (hl' : ∃ l ∈ r'.layers, l.node = z) : m = m' := by
  obtain ⟨l, hl, rfl⟩ := hl
  obtain ⟨l', hl', hsame⟩ := hl'
  rw [(hc.routes.route_placed hr).layers] at hl
  rw [(hc.routes.route_placed hr').layers] at hl'
  obtain ⟨-, k, hk, hsource, rfl⟩ := layersOf_connection hl
  obtain ⟨-, k', hk', hsource', rfl⟩ := layersOf_connection hl'
  rw [target_eq_of_single hsingle hk hsource hk' (hsource'.trans hsame)]

theorem count_layers_le (p : Prepared) (m z : String) :
    ((p.layersOf m).map Layer.node).count z ≤ (p.scene.outgoingFrom z).length := by
  unfold Prepared.layersOf
  split
  · split
    · rename_i n _ _
      rw [(Layer.ordered_perm.map Layer.node).count_eq, Layer.arrivals, List.map_map, List.count, List.countP_map]
      calc (p.scene.connections.filter (fun k => Layer.Brings n k)).countP _
          ≤ p.scene.connections.countP _ := List.filter_sublist.countP_le
        _ = (p.scene.outgoingFrom z).length := List.countP_eq_length_filter
    · simp
  · simp

theorem place_unique (hc : c.Valid) (hsingle : (c.prepared.scene.outgoingFrom z).length = 1) {r : Route}
    (hr : c.routes.route? m = some r) {i j : Nat} {l l' : Layer} (hl : r.layers[i]? = some l)
    (hl' : r.layers[j]? = some l') (hz : l.node = z) (hz' : l'.node = z) : i = j := by
  have hcount := count_layers_le c.prepared m z
  rw [hsingle, ← (hc.routes.route_placed hr).layers] at hcount
  have htwice : ∀ {i j : Nat} {l l' : Layer}, r.layers[i]? = some l → r.layers[j]? = some l' → l.node = z →
      l'.node = z → ¬i < j := by
    intro i j l l' hl hl' hz hz' hlt
    obtain ⟨hi, rfl⟩ := List.getElem?_eq_some_iff.1 hl
    obtain ⟨hj, rfl⟩ := List.getElem?_eq_some_iff.1 hl'
    have hduplicate : (r.layers.map Layer.node).Duplicate z := List.duplicate_iff_exists_distinct_get.2
      ⟨⟨i, by simpa using hi⟩, ⟨j, by simpa using hj⟩, hlt, by simp [hz], by simp [hz']⟩
    have := List.duplicate_iff_two_le_count.1 hduplicate
    omega
  exact Nat.le_antisymm (not_lt.1 (htwice hl' hl hz' hz)) (not_lt.1 (htwice hl hl' hz hz'))

theorem InPlace.shares (h : c.InPlace z m) : c.SharesTexture z m := by
  obtain ⟨r, lr, -, hr, hl, -, hlr, hsame, -⟩ := h
  exact ⟨r, lr, hr, hl, hlr, hsame⟩

theorem Below.drawnFor (h : c.Below z x) : c.DrawnFor z x :=
  Relation.ReflTransGen.mono (fun _ _ hplace => InPlace.shares (c := c) hplace) _ _ h

/-- A layer with one consumer, the composition, has no target of its own. -/
theorem inherits_of_single (hc : c.Valid) (hsingle : (c.prepared.scene.outgoingFrom z).length = 1) {r lr : Route}
    (hr : c.routes.route? m = some r) (hl : ∃ l ∈ r.layers, l.node = z) (hlr : c.routes.route? z = some lr) :
    lr.isExplicit = false := by
  by_contra hexp
  -- its own target would be the composition
  have hexp := Bool.eq_true_of_not_eq_false hexp
  obtain ⟨t, ⟨k, hk, hsource, ht, -⟩, htarget⟩ := (hc.routes.route_placed hlr).explicit hexp
  obtain ⟨t', ht', htype, -⟩ := (hc.routes.get?_textures _ _).1 (hc.routes.route_placed hlr).domain
  obtain ⟨l, hl, rfl⟩ := hl
  rw [(hc.routes.route_placed hr).layers] at hl
  obtain ⟨⟨n, hn, hcomposite⟩, k', hk', hsource', rfl⟩ := layersOf_connection hl
  rw [target_eq_of_single hsingle hk hsource hk' hsource', hn] at ht
  cases ht
  rw [← htarget, Prepared.node?_self hn] at ht'
  cases ht'
  rw [hcomposite] at htype
  exact absurd htype (by decide)

/-- A layer with one consumer renders into the texture of the composition. So if this holds of all layers of a node, at
every depth, they are all drawn for it. -/
theorem shares_of_single (hc : c.Valid) (hnodup : c.prepared.scene.nodeIds.Nodup)
    (hsingle : (c.prepared.scene.outgoingFrom z).length = 1) {r lr : Route} (hr : c.routes.route? m = some r)
    (hl : ∃ l ∈ r.layers, l.node = z) (hlr : c.routes.route? z = some lr) : c.SharesTexture z m := by
  obtain ⟨n, q, ⟨k, hk, hsource, hn, -⟩, -, hq, hdomain⟩ :=
    hc.routes.route_inherited hnodup hlr (inherits_of_single hc hsingle hr hl hlr)
  refine ⟨r, lr, hr, hl, hlr, ?_⟩
  obtain ⟨l, hl, rfl⟩ := hl
  rw [(hc.routes.route_placed hr).layers] at hl
  obtain ⟨-, k', hk', hsource', rfl⟩ := layersOf_connection hl
  obtain ⟨hid, -⟩ := Prepared.node?_eq_some hn
  rw [hid, target_eq_of_single hsingle hk hsource hk' hsource', hr] at hq
  cases hq
  rw [hdomain]

theorem SharesTexture.inPlace (hc : c.Valid) (hsingle : (c.prepared.scene.outgoingFrom z).length = 1)
    (h : c.SharesTexture z m) : c.InPlace z m := by
  obtain ⟨r, lr, hr, hl, hlr, hsame⟩ := h
  obtain ⟨ln, hln, hrouted, -⟩ := (hc.routes.route_placed hlr).node
  refine ⟨r, lr, ln, hr, hl, hln, hlr, hsame, ?_⟩
  rcases Bool.or_eq_true_iff.1 hrouted with hdraw | htype
  · exact .inr ⟨hdraw, inherits_of_single hc hsingle hr hl hlr⟩
  · exact .inl (beq_iff_eq.1 htype)

theorem DrawnFor.below_of_single (hc : c.Valid)
    (hsingle : ∀ z, c.DrawnFor z x → (c.prepared.scene.outgoingFrom z).length = 1) (h : c.DrawnFor z x) :
    c.Below z x := by
  induction h using Relation.ReflTransGen.head_induction_on with
  | refl => exact .refl
  | head hshares hrest ih => exact .head (hshares.inPlace hc (hsingle _ (.head hshares hrest))) ih

theorem DrawnFor.shares (h : c.DrawnFor z x) (hx : c.SharesTexture x m) : ∃ w, c.SharesTexture z w := by
  rcases Relation.ReflTransGen.cases_head h with rfl | ⟨w, hw, -⟩
  · exact ⟨m, hx⟩
  · exact ⟨w, hw⟩

/-! ## Turns of layers -/

theorem nested_of_inPlace (hc : c.Valid) (h : c.InPlace z m) : c.isNested z = true := by
  obtain ⟨n, hn, htype⟩ := h.composite hc
  obtain ⟨r, lr, -, hr, ⟨l, hl, rfl⟩, -, hlr, hsame, -⟩ := h
  rw [(hc.routes.route_placed hr).layers] at hl
  have hcomposite : m ∈ c.prepared.composites :=
    List.mem_filter.2 ⟨(hc.routes.prepared.mem_order m).2 ⟨n, hn⟩, by simp [Prepared.typeOf, hn, htype]⟩
  have hmem : m ∈ c.prepared.compositesOf l.node :=
    List.mem_flatMap.2 ⟨m, hcomposite, List.mem_map.2 ⟨l, List.mem_filter.2 ⟨hl, beq_self_eq_true _⟩, rfl⟩⟩
  unfold isNested
  rw [hlr]
  exact List.any_eq_true.2 ⟨m, hmem, by rw [hr]; exact beq_iff_eq.2 hsame.symm⟩

/-- A layer that a composition draws in place has no turn of its own. -/
theorem InPlace.not_root (hc : c.Valid) (hn : c.prepared.node? n.id = some n) (h : c.InPlace n.id m) : ¬c.Root n := by
  have hnested := nested_of_inPlace hc h
  obtain ⟨r, lr, ln, hr, -, hln, hlr, -, hkind⟩ := h
  rw [hn] at hln
  cases hln
  rintro (⟨-, hnot⟩ | ⟨hdraw, r', hr', hexp⟩ | htarget)
  · rw [hnested] at hnot
    cases hnot
  · rw [hlr] at hr'
    cases hr'
    rcases hkind with htype | ⟨-, hinherits⟩
    · exact isDrawType_ne_composite hdraw htype
    · rw [hexp] at hinherits
      cases hinherits
  · rcases hkind with htype | ⟨hdraw, -⟩
    · rw [htype] at htarget
      exact absurd htarget (by decide)
    · rw [isTargetType_of_draw hdraw] at htarget
      cases htarget

/-! ## Two layers of a composition -/

/-- Two layers of a composition on its texture, the first one before the second one. All that is drawn for them has one
consumer. -/
structure Stacked (c : PlanContext) (m x y : String) : Prop where
  lower : c.SharesTexture x m
  upper : c.SharesTexture y m
  order : ∃ (r : Route) (i j : Nat) (l l' : Layer), c.routes.route? m = some r ∧ r.layers[i]? = some l ∧ l.node = x ∧
    r.layers[j]? = some l' ∧ l'.node = y ∧ i < j
  single : ∀ z, c.DrawnFor z x ∨ c.DrawnFor z y → (c.prepared.scene.outgoingFrom z).length = 1

namespace Stacked

theorem single_below (h : c.Stacked m x y) (hz : c.Below z x ∨ c.Below z y) :
    (c.prepared.scene.outgoingFrom z).length = 1 :=
  h.single z (hz.imp Below.drawnFor Below.drawnFor)

theorem lower_inPlace (h : c.Stacked m x y) (hc : c.Valid) : c.InPlace x m :=
  h.lower.inPlace hc (h.single x (.inl .refl))

theorem upper_inPlace (h : c.Stacked m x y) (hc : c.Valid) : c.InPlace y m :=
  h.upper.inPlace hc (h.single y (.inr .refl))

/-- What is drawn with one of the layers is drawn in place by one composition. -/
theorem inPlace_unique (h : c.Stacked m x y) (hc : c.Valid) (hz : c.Below z x ∨ c.Below z y) {w w' : String}
    (hw : c.InPlace z w) (hw' : c.InPlace z w') : w = w' := by
  obtain ⟨r, -, -, hr, hl, -⟩ := hw
  obtain ⟨r', -, -, hr', hl', -⟩ := hw'
  exact consumer_unique hc (h.single_below hz) hr hr' hl hl'

theorem ne (h : c.Stacked m x y) (hc : c.Valid) : x ≠ y := by
  obtain ⟨r, i, j, l, l', hr, hl, hx, hl', hy, hlt⟩ := h.order
  intro heq
  have := place_unique hc (h.single x (.inl .refl)) hr hl hl' hx (hy.trans heq.symm)
  omega

/-- The composition is drawn with none of its layers. -/
theorem not_below (h : c.Stacked m x y) (hc : c.Valid) (hnodup : c.prepared.scene.nodeIds.Nodup) :
    ¬c.Below m x ∧ ¬c.Below m y := by
  have hx := (h.lower_inPlace hc).rank_lt hc hnodup
  have hy := (h.upper_inPlace hc).rank_lt hc hnodup
  exact ⟨fun hm => absurd (hm.rank_le hc hnodup) (by omega), fun hm => absurd (hm.rank_le hc hnodup) (by omega)⟩

/-- Nothing is drawn with both layers. -/
theorem disjoint (h : c.Stacked m x y) (hc : c.Valid) (hnodup : c.prepared.scene.nodeIds.Nodup) (hx : c.Below z x) :
    ¬c.Below z y := by
  obtain ⟨hmx, hmy⟩ := h.not_below hc hnodup
  induction hx using Relation.ReflTransGen.head_induction_on with
  | refl =>
    intro hy
    rcases Relation.ReflTransGen.cases_head hy with heq | ⟨w, hw, hrest⟩
    · exact h.ne hc heq
    · rw [h.inPlace_unique hc (.inr hy) hw (h.lower_inPlace hc)] at hrest
      exact hmy hrest
  | @head z w hw hrest ih =>
    intro hy
    rcases Relation.ReflTransGen.cases_head hy with rfl | ⟨w', hw', hrest'⟩
    · rw [h.inPlace_unique hc (.inr .refl) hw (h.upper_inPlace hc)] at hrest
      exact hmx hrest
    · rw [h.inPlace_unique hc (.inr hy) hw' hw] at hrest'
      exact ih hrest'

/-- What is drawn with a layer has no turn of its own. -/
theorem not_root (h : c.Stacked m x y) (hc : c.Valid) (hn : c.prepared.node? n.id = some n)
    (hz : c.Below n.id x ∨ c.Below n.id y) : ¬c.Root n := by
  have hplace : ∃ w, c.InPlace n.id w := by
    rcases hz with hz | hz <;> rcases Relation.ReflTransGen.cases_head hz with heq | ⟨w, hw, -⟩
    · exact ⟨m, heq ▸ h.lower_inPlace hc⟩
    · exact ⟨w, hw⟩
    · exact ⟨m, heq ▸ h.upper_inPlace hc⟩
    · exact ⟨w, hw⟩
  obtain ⟨w, hw⟩ := hplace
  exact hw.not_root hc hn

/-- The composition is the only way into the upper layer. -/
theorem parent (h : c.Stacked m x y) (hc : c.Valid) {w : String} (hplace : c.InPlace z w) (hz : c.Below z y)
    (hw : ¬c.Below w y) : z = y ∧ w = m := by
  rcases Relation.ReflTransGen.cases_head hz with rfl | ⟨w', hw', hrest⟩
  · exact ⟨rfl, h.inPlace_unique hc (.inr hz) hplace (h.upper_inPlace hc)⟩
  · rw [h.inPlace_unique hc (.inr hz) hw' hplace] at hrest
    exact absurd hrest hw

/-- Before the upper layer has its place among those of a composition, the lower one has. -/
theorem before (h : c.Stacked m x y) (hc : c.Valid) {w : String} {r : Route} (hr : c.routes.route? w = some r)
    {pre post : List Layer} {k : Layer} (hsplit : r.layers = pre ++ k :: post) (hplace : c.InPlace k.node w)
    (hk : c.Below k.node y) (hw : ¬c.Below w y) : c.InPlace x w ∧ ∃ l ∈ pre, l.node = x := by
  obtain ⟨hy, rfl⟩ := h.parent hc hplace hk hw
  refine ⟨h.lower_inPlace hc, ?_⟩
  obtain ⟨r', i, j, l, l', hr', hl, hx, hl', hy', hlt⟩ := h.order
  rw [hr] at hr'
  cases hr'
  have hplace' : r.layers[pre.length]? = some k := by rw [hsplit, List.getElem?_append_right le_rfl, Nat.sub_self]; rfl
  have hj := place_unique hc (h.single y (.inr .refl)) hr hl' hplace' hy' hy
  refine ⟨l, List.mem_of_getElem? (i := i) ?_, hx⟩
  rwa [hsplit, List.getElem?_append_left (hj ▸ hlt)] at hl

end Stacked

/-! ## Painter's order -/

/-- All that is drawn with the node has been drawn. -/
def AllDrawn (c : PlanContext) (st : PlanState) (x : String) : Prop := ∀ z, c.Below z x → z ∈ st.drawn

theorem Complete.allDrawn {st : PlanState} {busy : List String} (h : c.Complete busy st)
    (hfree : ∀ z, c.Below z x → z ∉ busy) (hx : x ∈ st.drawn) : c.AllDrawn st x := by
  intro z hz
  induction hz using Relation.ReflTransGen.head_induction_on with
  | refl => exact hx
  | head hplace hrest ih => exact h _ ih (hfree _ hrest) _ hplace

/-- A run that emits events in painter's order: after one above there is none below. Those below were not drawn before,
and where there is one above all below has been drawn. -/
structure Follows (c : PlanContext) (x y : String) (st st' : PlanState) (es : List Event) : Prop where
  emits : Emits c st st' es
  fresh : ∀ e ∈ es, c.Below e.subject x → e.subject ∉ st.drawn
  sorted : es.Pairwise fun e e' => c.Below e.subject y → ¬c.Below e'.subject x
  done : ∀ e ∈ es, c.Below e.subject y → c.AllDrawn st' x

namespace Follows

variable {st st' st'' : PlanState} {es es' : List Event}

theorem refl (hst : Ready c st) : c.Follows x y st st [] where
  emits := .refl hst
  fresh := by simp
  sorted := .nil
  done := by simp

theorem trans (h : c.Follows x y st st' es) (h' : c.Follows x y st' st'' es') : c.Follows x y st st'' (es ++ es') where
  emits := h.emits.trans h'.emits
  fresh e he hx := by
    rcases List.mem_append.1 he with he | he
    · exact h.fresh e he hx
    · exact fun hold => h'.fresh e he hx (h.emits.drawn_subset hold)
  sorted := by
    -- after an event above, events below would be drawn again
    refine List.pairwise_append.2 ⟨h.sorted, h'.sorted, fun e he e' he' hy hx => ?_⟩
    exact h'.fresh e' he' hx (h.done e he hy _ hx)
  done e he hy := by
    rcases List.mem_append.1 he with he | he
    · exact fun z hz => h'.emits.drawn_subset (h.done e he hy z hz)
    · exact h'.done e he hy

theorem of_aside (hemits : Emits c st st' es) (hes : ∀ e ∈ es, ¬c.Below e.subject x ∧ ¬c.Below e.subject y) :
    c.Follows x y st st' es where
  emits := hemits
  fresh e he hx := absurd hx (hes e he).1
  sorted := List.pairwise_of_forall_mem_list fun e he _ _ hy => absurd hy (hes e he).2
  done e he hy := absurd hy (hes e he).2

end Follows

/-- Planning the composition emits events in painter's order, if all below has been drawn where the composition itself
is above. The compositions in progress stand later in the order of the scene. -/
def Stacks (c : PlanContext) (x y : String) (inner : Node → PlanM Unit) (n : Node) : Prop :=
  ∀ st st' u busy, Ready c st → Yields (inner n) st u st' → c.Complete busy st →
    (∀ b ∈ busy, c.prepared.rank n.id < c.prepared.rank b) → (c.Below n.id y → c.AllDrawn st x) →
    ∃ es, c.Follows x y st st' es

namespace Stacked

variable {st st' : PlanState}

/-- New events of one node are in painter's order, if all below has been drawn where the node is above. -/
theorem follows (h : c.Stacked m x y) (hc : c.Valid) (hnodup : c.prepared.scene.nodeIds.Nodup) {es : List Event}
    (hemits : Emits c st st' es) (hes : ∀ e ∈ es, c.Below e.subject z ∧ e.subject ∉ st.drawn)
    (hbelow : c.Below z y → c.AllDrawn st x) (hside : c.Below z x ∨ c.Below z y ∨ ∀ e ∈ es, e.subject = z) :
    c.Follows x y st st' es := by
  by_cases hx : c.Below z x
  · have hall : ∀ e ∈ es, ¬c.Below e.subject y := fun e he => h.disjoint hc hnodup ((hes e he).1.trans hx)
    exact ⟨hemits, fun e he _ => (hes e he).2,
      List.pairwise_of_forall_mem_list fun e he _ _ hy => absurd hy (hall e he), fun e he hy => absurd hy (hall e he)⟩
  · by_cases hy : c.Below z y
    · have hall : ∀ e ∈ es, ¬c.Below e.subject x := fun e he hx' =>
        h.disjoint hc hnodup hx' ((hes e he).1.trans hy)
      exact ⟨hemits, fun e he hx' => absurd hx' (hall e he),
        List.pairwise_of_forall_mem_list fun _ _ e he _ => hall e he,
        fun _ _ _ w hw => hemits.drawn_subset (hbelow hy w hw)⟩
    · have hself := (hside.resolve_left hx).resolve_left hy
      exact .of_aside hemits fun e he => by rw [hself e he]; exact ⟨hx, hy⟩

/-- Planning a layer of a composition that belongs to neither layer. -/
theorem layer_follows (h : c.Stacked m x y) (hc : c.Valid) (hnodup : c.prepared.scene.nodeIds.Nodup)
    {inner : Node → PlanM Unit} (hn : c.prepared.node? n.id = some n) (htype : n.type = compositeType)
    (hx : ¬c.Below n.id x) (hy : ¬c.Below n.id y)
    (hinner : ∀ ln, c.prepared.node? ln.id = some ln → ln.type = compositeType → c.InPlace ln.id n.id →
      c.Stacks x y inner ln)
    {r : Route} {l : Layer} (hr : c.routes.route? n.id = some r) (hl : l ∈ r.layers) (hst : Ready c st) {u : Unit}
    (hrun : Yields (c.layer inner n r l) st u st') {busy : List String} (hcomplete : c.Complete busy st)
    (hbusy : ∀ b ∈ busy, c.prepared.rank n.id ≤ c.prepared.rank b)
    (hbelow : c.InPlace l.node n.id → c.Below l.node y → c.AllDrawn st x) : ∃ es, c.Follows x y st st' es := by
  rcases layer_cases hr hl hrun with ⟨rfl, -⟩ | ⟨ln, hid, hln, hplace, ⟨hltype, hrun⟩ | ⟨-, hrun⟩⟩ |
    ⟨ln, lr, hid, hln, hlr, hother, hrun⟩
  · exact ⟨[], .refl hst⟩
  · have hlt := hplace.rank_lt hc hnodup
    exact hinner ln hln hltype hplace st st' u busy hst hrun hcomplete
      (fun b hb => lt_of_lt_of_le hlt (hbusy b hb)) (hid ▸ hbelow (hid ▸ hplace))
  · obtain ⟨es, hemits, -, hsubjects⟩ := draw_emits hc hln hst hrun
    refine ⟨es, h.follows hc hnodup (z := ln.id) hemits (fun e he => ?_) (hid ▸ hbelow (hid ▸ hplace))
      (.inr (.inr fun e he => (hsubjects e he).1))⟩
    rw [(hsubjects e he).1]
    exact ⟨.refl, (hsubjects e he).2⟩
  · obtain ⟨es, hemits, -, hsubjects⟩ := compose_emits hc hln hn htype hlr hr hl hid.symm hother hst hrun
    exact ⟨es, .of_aside hemits fun e he => by rw [hsubjects e he]; exact ⟨hx, hy⟩⟩

/-- Planning all layers. The upper layer is among them only behind the lower one, which has been drawn then. -/
theorem layers_follows (h : c.Stacked m x y) (hc : c.Valid) (hnodup : c.prepared.scene.nodeIds.Nodup)
    {inner : Node → PlanM Unit} (hn : c.prepared.node? n.id = some n) (htype : n.type = compositeType)
    (hx : ¬c.Below n.id x) (hy : ¬c.Below n.id y)
    (hfinishes : ∀ ln, c.prepared.node? ln.id = some ln → ln.type = compositeType → c.InPlace ln.id n.id →
      c.Finishes inner ln)
    (hinner : ∀ ln, c.prepared.node? ln.id = some ln → ln.type = compositeType → c.InPlace ln.id n.id →
      c.Stacks x y inner ln)
    {r : Route} (hr : c.routes.route? n.id = some r) {ls : List Layer} (hls : ∀ l ∈ ls, l ∈ r.layers)
    (hst : Ready c st) {u : Unit} (hrun : Yields (c.layers inner n r ls) st u st') {busy : List String}
    (hcomplete : c.Complete busy st) (hbusy : ∀ b ∈ busy, c.prepared.rank n.id ≤ c.prepared.rank b)
    (hbefore : ∀ pre k post, ls = pre ++ k :: post → c.InPlace k.node n.id → c.Below k.node y →
      c.AllDrawn st x ∨ c.InPlace x n.id ∧ ∃ l ∈ pre, l.node = x) : ∃ es, c.Follows x y st st' es := by
  induction ls generalizing st with
  | nil =>
    obtain ⟨-, rfl⟩ := (yields_pure _ _ _ _).1 hrun
    exact ⟨[], .refl hst⟩
  | cons k rest ih =>
    unfold layers at hrun
    obtain ⟨_, st₁, hfirst, hrest⟩ := (yields_bind _ _ _ _ _).1 hrun
    have hk := hls k List.mem_cons_self
    have hbelow : c.InPlace k.node n.id → c.Below k.node y → c.AllDrawn st x := by
      intro hplace hk
      refine (hbefore [] k rest rfl hplace hk).resolve_right ?_
      rintro ⟨_, _, hnone, _⟩
      exact absurd hnone List.not_mem_nil
    obtain ⟨es, h₁⟩ := h.layer_follows hc hnodup hn htype hx hy hinner hr hk hst hfirst hcomplete hbusy hbelow
    obtain ⟨hcomplete₁, hdrawn⟩ := layer_complete hc hn htype hfinishes hr hk hst hfirst hcomplete
    have hbefore₁ : ∀ pre k' post, rest = pre ++ k' :: post → c.InPlace k'.node n.id → c.Below k'.node y →
        c.AllDrawn st₁ x ∨ c.InPlace x n.id ∧ ∃ l ∈ pre, l.node = x := by
      intro pre k' post hsplit hplace hk'
      rcases hbefore (k :: pre) k' post (by rw [hsplit, List.cons_append]) hplace hk' with hall | ⟨hlower, l, hl, hlx⟩
      · exact .inl fun z hz => h₁.emits.drawn_subset (hall z hz)
      · rcases List.mem_cons.1 hl with rfl | hl
        · -- the lower layer has just been drawn, and no composition in progress is below it
          refine .inl (hcomplete₁.allDrawn (fun z hz hmem => ?_) (hlx ▸ hdrawn (hlx ▸ hlower)))
          have hle := hz.rank_le hc hnodup
          have hlt := hlower.rank_lt hc hnodup
          have hge := hbusy z hmem
          omega
        · exact .inr ⟨hlower, l, hl, hlx⟩
    obtain ⟨es', h₂⟩ := ih (fun l hl => hls l (List.mem_cons_of_mem k hl)) h₁.emits.ready hrest hcomplete₁ hbefore₁
    exact ⟨es ++ es', h₁.trans h₂⟩

/-- Planning a composition emits events in painter's order, however deep compositions are nested. -/
theorem compositeWithin_follows (h : c.Stacked m x y) (hc : c.Valid) (hnodup : c.prepared.scene.nodeIds.Nodup)
    {depth : Nat} (hn : c.prepared.node? n.id = some n) (htype : n.type = compositeType)
    (hdepth : c.prepared.rank n.id < depth) : c.Stacks x y (c.compositeWithin depth) n := by
  induction depth generalizing n with
  | zero => omega
  | succ depth ih =>
    intro st st' u busy hst hrun hcomplete hbusy hbelow
    by_cases hside : c.Below n.id x ∨ c.Below n.id y
    -- inside one of the layers there are no events of the other one
    · obtain ⟨es, hemits, hes⟩ := compositeWithin_emits hc hn htype st st' u hst hrun
      exact ⟨es, h.follows hc hnodup hemits hes hbelow (hside.imp_right .inl)⟩
    · obtain ⟨hx, hy⟩ := not_or.1 hside
      rcases yields_once.1 hrun with ⟨-, rfl⟩ | ⟨hmem, r, hr, hrun⟩
      · exact ⟨[], .refl hst⟩
      · have henter := Emits.enter hst hn htype hmem
        have hlt : ∀ {ln : Node}, c.InPlace ln.id n.id → c.prepared.rank ln.id < depth := fun hplace => by
          have := hplace.rank_lt hc hnodup
          omega
        have hbusy' : ∀ b ∈ n.id :: busy, c.prepared.rank n.id ≤ c.prepared.rank b := by
          intro b hb
          rcases List.mem_cons.1 hb with rfl | hb
          · exact le_rfl
          · exact (hbusy b hb).le
        obtain ⟨es, hes⟩ := h.layers_follows hc hnodup hn htype hx hy
          (fun ln hln hltype hplace => compositeWithin_complete hc hnodup hln hltype (hlt hplace))
          (fun ln hln hltype hplace => ih hln hltype (hlt hplace)) hr (fun _ hl => hl) henter.ready hrun
          (hcomplete.begin n.id) hbusy' fun pre k post hsplit hplace hk => .inr (h.before hc hr hsplit hplace hk hy)
        refine ⟨.enter n :: es, (Follows.of_aside henter ?_).trans hes⟩
        intro e he
        obtain rfl := List.mem_singleton.1 he
        exact ⟨hx, hy⟩

theorem composite_follows (h : c.Stacked m x y) (hc : c.Valid) (hnodup : c.prepared.scene.nodeIds.Nodup)
    (hn : c.prepared.node? n.id = some n) (htype : n.type = compositeType) : c.Stacks x y c.composite n := by
  refine h.compositeWithin_follows hc hnodup hn htype ?_
  have := hc.routes.prepared.rank_lt hn
  rw [hc.routes.prepared.order_length] at this
  omega

/-- The turn of a node emits events in painter's order. -/
theorem node_follows (h : c.Stacked m x y) (hc : c.Valid) (hnodup : c.prepared.scene.nodeIds.Nodup)
    (hn : c.prepared.node? n.id = some n) (hst : Ready c st) {u : Unit} (hrun : Yields (c.node n) st u st')
    (hcomplete : c.Complete [] st) : ∃ es, c.Follows x y st st' es := by
  rcases node_cases hrun with ⟨rfl, -⟩ | ⟨hroot, hrun⟩
  · exact ⟨[], .refl hst⟩
  -- a node with a turn of its own belongs to neither layer
  have hside := mt (h.not_root hc hn) (not_not_intro hroot)
  obtain ⟨hx, hy⟩ := not_or.1 hside
  rcases hrun with ⟨htype, hrun⟩ | ⟨-, hrun⟩ | ⟨htype, hrun⟩
  · exact h.composite_follows hc hnodup hn htype st st' u [] hst hrun hcomplete (fun _ hnone => nomatch hnone)
      fun hbelow => absurd hbelow hy
  · obtain ⟨es, hemits, -, hsubjects⟩ := draw_emits hc hn hst hrun
    exact ⟨es, .of_aside hemits fun e he => by rw [(hsubjects e he).1]; exact ⟨hx, hy⟩⟩
  · obtain ⟨es, hemits, -, hsubjects, -⟩ := clearUnwritten_emits hc hn htype hst hrun
    exact ⟨es, .of_aside hemits fun e he => by rw [hsubjects e he]; exact ⟨hx, hy⟩⟩

/-- All turns emit events in painter's order. -/
theorem nodes_follows (h : c.Stacked m x y) (hc : c.Valid) (hnodup : c.prepared.scene.nodeIds.Nodup)
    {ids : List String} (hst : Ready c st) (hcomplete : c.Complete [] st) {u : Unit}
    (hrun : Yields (c.nodes ids) st u st') : ∃ es, c.Follows x y st st' es := by
  induction ids generalizing st with
  | nil =>
    obtain ⟨-, rfl⟩ := (yields_pure _ _ _ _).1 hrun
    exact ⟨[], .refl hst⟩
  | cons id rest ih =>
    unfold nodes at hrun
    split at hrun
    · rename_i n hn
      obtain ⟨_, st₁, hfirst, hrest⟩ := (yields_bind _ _ _ _ _).1 hrun
      have hself := Prepared.node?_self hn
      obtain ⟨es, h₁⟩ := h.node_follows hc hnodup hself hst hfirst hcomplete
      obtain ⟨hcomplete₁, -⟩ := node_complete hc hnodup hself hst hfirst hcomplete
      obtain ⟨es', h₂⟩ := ih h₁.emits.ready hcomplete₁ hrest
      exact ⟨es ++ es', h₁.trans h₂⟩
    · exact ih hst hcomplete hrun

end Stacked

/-! ## Passes of layers -/

variable {plan : Plan}

/-- The pass belongs to something that is drawn for the node. -/
def PassFor (c : PlanContext) (x : String) (q : Pass) : Prop := ∃ z ∈ q.nodes, c.DrawnFor z x

theorem not_target_of_shares (hc : c.Valid) (hz : c.SharesTexture n.id m) (hn : c.prepared.node? n.id = some n) :
    isTargetType n.type = false := by
  obtain ⟨-, lr, -, -, hlr, -⟩ := hz
  obtain ⟨ln, hln, hrouted, -⟩ := (hc.routes.route_placed hlr).node
  rw [hn] at hln
  cases hln
  exact isTargetType_of_routed hrouted

/-- A pass that belongs to something drawn for a layer is emitted with the layer: what has one consumer on its texture
is not copied. -/
theorem PassFor.below (hc : c.Valid) (hx : c.SharesTexture x m)
    (hsingle : ∀ z, c.DrawnFor z x → (c.prepared.scene.outgoingFrom z).length = 1) {e : Event}
    (hformed : e.Formed c plan) {q : Pass} (hq : q ∈ e.passes) (h : c.PassFor x q) : c.Below e.subject x := by
  obtain ⟨z, hz, hfor⟩ := h
  obtain ⟨w, hw⟩ := hfor.shares hx
  cases e with
  | enter n => cases hq
  | draw n qs =>
    obtain ⟨-, -, r, sources, -, -, hsketch⟩ := hformed
    have hmem : q.sketch ∈ c.drawSketches n r.domain.texture sources := hsketch ▸ List.mem_map_of_mem hq
    have hnodes : q.nodes = [n.id] := (drawSketches_nodes hmem).1
    rw [hnodes, List.mem_singleton] at hz
    rw [Event.subject, ← hz]
    exact hfor.below_of_single hc hsingle
  | copy layer n target q' =>
    obtain rfl := List.mem_singleton.1 hq
    obtain ⟨-, -, -, lr, r, hlr, hr, hl, hother, -, hsketch⟩ := hformed
    have hnodes : q.nodes = [layer.id, n.id] := congrArg Sketch.nodes hsketch
    rw [hnodes] at hz
    rcases List.mem_cons.1 hz with rfl | hz
    · obtain ⟨r', lr', hr', hl', hlr', hsame⟩ := hw
      obtain rfl := consumer_unique hc (hsingle _ hfor) hr hr' hl hl'
      rw [hr] at hr'
      rw [hlr] at hlr'
      cases hr'
      cases hlr'
      exact absurd hsame hother
    · rw [Event.subject, ← List.mem_singleton.1 hz]
      exact hfor.below_of_single hc hsingle
  | clear n q' =>
    obtain rfl := List.mem_singleton.1 hq
    obtain ⟨hn, htype, hsketch⟩ := hformed
    have hnodes : q.nodes = [n.id] := congrArg Sketch.nodes hsketch
    rw [hnodes, List.mem_singleton] at hz
    rw [not_target_of_shares hc (hz ▸ hw) hn] at htype
    cases htype

theorem not_passFor_present (hc : c.Valid) (hx : c.SharesTexture x m) {q : Pass}
    (hsketch : q.sketch = c.presentSketch) : ¬c.PassFor x q := by
  rintro ⟨z, hz, hfor⟩
  obtain ⟨w, hw⟩ := hfor.shares hx
  have hnodes : q.nodes = [c.prepared.output.node] := congrArg Sketch.nodes hsketch
  rw [hnodes, List.mem_singleton] at hz
  obtain ⟨n, hn, htype⟩ := hc.routes.prepared.output_node
  obtain ⟨hid, -⟩ := Prepared.node?_eq_some hn
  have hnot := not_target_of_shares hc (n := n) (by rw [hid, ← hz]; exact hw) (Prepared.node?_self hn)
  rw [htype] at hnot
  exact absurd hnot (by decide)

/-- The passes of a plan are in painter's order, and none belongs to both layers. -/
theorem BuiltFrom.painted (hc : c.Valid) (hnodup : c.prepared.scene.nodeIds.Nodup) {st₀ st₁ : PlanState}
    {ps : List Pass} (h : c.BuiltFrom plan st₀ st₁ ps) (hstacked : c.Stacked m x y) :
    (plan.passes.Pairwise fun q w => c.PassFor y q → ¬c.PassFor x w) ∧
      ∀ q ∈ plan.passes, c.PassFor x q → ¬c.PassFor y q := by
  have hcomplete : c.Complete [] st₀ := by simp [Complete, h.fresh.drawn]
  obtain ⟨es, hes⟩ := hstacked.nodes_follows hc hnodup h.ready hcomplete h.nodes
  have hformed : ∀ e ∈ es, e.Formed c plan := fun e he => (hes.emits.formed e he).mono h.grows
  have hlower : ∀ e ∈ es, ∀ q ∈ e.passes, c.PassFor x q → c.Below e.subject x := fun e he q hq hfor =>
    hfor.below hc hstacked.lower (fun z hz => hstacked.single z (.inl hz)) (hformed e he) hq
  have hupper : ∀ e ∈ es, ∀ q ∈ e.passes, c.PassFor y q → c.Below e.subject y := fun e he q hq hfor =>
    hfor.below hc hstacked.upper (fun z hz => hstacked.single z (.inr hz)) (hformed e he) hq
  have hpasses : plan.passes = es.flatMap Event.passes ++ ps := by
    rw [h.passes, hes.emits.passes, h.fresh.passes, List.nil_append]
  rw [hpasses]
  refine ⟨List.pairwise_append.2 ⟨List.pairwise_flatMap.2 ⟨fun e he => ?_, ?_⟩, ?_, fun q _ w hw _ => ?_⟩,
    fun q hq hx hy => ?_⟩
  · refine List.pairwise_of_forall_mem_list fun q hq w hw hy hx => ?_
    exact hstacked.disjoint hc hnodup (hlower e he w hw hx) (hupper e he q hq hy)
  · exact hes.sorted.imp_of_mem fun he he' hsorted q hq w hw hy hx =>
      hsorted (hupper _ he q hq hy) (hlower _ he' w hw hx)
  · exact List.pairwise_of_forall_mem_list fun _ _ w hw _ =>
      not_passFor_present hc hstacked.lower (h.shown w hw)
  · exact not_passFor_present hc hstacked.lower (h.shown w hw)
  · rcases List.mem_append.1 hq with hq | hq
    · obtain ⟨e, he, hq⟩ := List.mem_flatMap.1 hq
      exact hstacked.disjoint hc hnodup (hlower e he q hq hx) (hupper e he q hq hy)
    · exact not_passFor_present hc hstacked.lower (h.shown q hq) hx

end PlanContext

/-- Of two layers on the texture of their composition, where all that is drawn for them, through any depth of
compositions, has a single consumer: the passes for the first one precede the passes for the second one. -/
theorem Scene.PlannedAs.paints_in_order {s : Scene} {schema : Schema} {options : PrepareOptions}
    {env : Environment} {p : Prepared} {r : Routes} {plan : Plan} (h : s.PlannedAs schema options env p r plan)
    (hnodup : p.scene.nodeIds.Nodup) {m : String} {route : Route} (hroute : r.route? m = some route)
    {a b : Nat} {l l' : Layer} (hl : route.layers[a]? = some l) (hl' : route.layers[b]? = some l') (hlt : a < b)
    (hshares : (p.context r env).SharesTexture l.node m) (hshares' : (p.context r env).SharesTexture l'.node m)
    (hsingle : ∀ z, (p.context r env).DrawnFor z l.node ∨ (p.context r env).DrawnFor z l'.node →
      (p.scene.outgoingFrom z).length = 1)
    {i j : Nat} {q w : Pass} (hq : plan.passes[i]? = some q) (hw : plan.passes[j]? = some w)
    (hqfor : (p.context r env).PassFor l.node q) (hwfor : (p.context r env).PassFor l'.node w) : i < j := by
  have hstacked : (p.context r env).Stacked m l.node l'.node :=
    ⟨hshares, hshares', ⟨route, a, b, l, l', hroute, hl, rfl, hl', rfl, hlt⟩, hsingle⟩
  obtain ⟨st₀, st₁, ps, hbuilt⟩ := PlanContext.build_stages h.valid h.build
  obtain ⟨hsorted, happart⟩ := hbuilt.painted h.valid hnodup hstacked
  obtain ⟨hi, rfl⟩ := List.getElem?_eq_some_iff.1 hq
  obtain ⟨hj, rfl⟩ := List.getElem?_eq_some_iff.1 hw
  rcases lt_trichotomy i j with hless | rfl | hless
  · exact hless
  · exact absurd hwfor (happart _ (List.getElem_mem hi) hqfor)
  · exact absurd hqfor (List.pairwise_iff_getElem.1 hsorted j i hj hi hless hwfor)

/-- Two compositions in one: a blur and a shape in the lower one, a shape in a composition of its own in the upper
one. -/
def Scene.terraced : Scene where
  nodes := [{ id := "screen", type := "Screen" }, { id := "hill", type := "Composite" },
    { id := "foot", type := "Composite" }, { id := "top", type := "Composite" }, { id := "hut", type := "Composite" },
    { id := "photo", type := "RenderTexture" }, { id := "sun", type := "RenderPass" }, { id := "haze", type := "Blur" },
    { id := "rock", type := "RenderPass" }, { id := "roof", type := "RenderPass" }]
  connections := [{ id := "c0", source := ⟨"sun", "pass"⟩, target := ⟨"photo", "pass"⟩ },
    { id := "c1", source := ⟨"photo", "texture"⟩, target := ⟨"haze", "texture"⟩ },
    { id := "c2", source := ⟨"haze", "pass"⟩, target := ⟨"foot", "pass"⟩ },
    { id := "c3", source := ⟨"rock", "pass"⟩, target := ⟨"foot", "dynamic_0"⟩ },
    { id := "c4", source := ⟨"roof", "pass"⟩, target := ⟨"hut", "pass"⟩ },
    { id := "c5", source := ⟨"hut", "pass"⟩, target := ⟨"top", "pass"⟩ },
    { id := "c6", source := ⟨"foot", "pass"⟩, target := ⟨"hill", "pass"⟩ },
    { id := "c7", source := ⟨"top", "pass"⟩, target := ⟨"hill", "dynamic_0"⟩ },
    { id := "c8", source := ⟨"hill", "pass"⟩, target := ⟨"screen", "pass"⟩ }]
  outputs := [("main", "screen")]

theorem Scene.terraced_checks : (Scene.terraced.planned? Schema.builtin {} {}).any (fun (p, r, plan) =>
    decide p.scene.nodeIds.Nodup &&
      decide (∀ n ∈ p.scene.nodes, isRoutedType n.type = true → (p.scene.outgoingFrom n.id).length = 1) &&
      decide (plan.passes.map Pass.nodes =
        [["sun"], ["haze"], ["haze"], ["haze"], ["haze"], ["haze"], ["rock"], ["roof"]]) &&
      decide (∀ e ∈ [("foot", "hill"), ("rock", "foot"), ("top", "hill"), ("hut", "top"), ("roof", "hut")],
        r.sharing e.1 e.2 = true) &&
      (r.route? "hill").any fun h => decide (h.layers.map Layer.node = ["foot", "top"])) = true := by
  rw [Scene.planned?_builtin]
  decide +kernel

/-- The rock of the lower composition is painted before the roof in the upper one. -/
theorem Scene.terraced_painted : ∃ p r plan, Scene.terraced.PlannedAs Schema.builtin {} {} p r plan ∧
    plan.passes.map Pass.nodes = [["sun"], ["haze"], ["haze"], ["haze"], ["haze"], ["haze"], ["rock"], ["roof"]] ∧
    ∀ (i j : Nat) (q w : Pass), plan.passes[i]? = some q → plan.passes[j]? = some w → q.nodes = ["rock"] →
      w.nodes = ["roof"] → i < j := by
  obtain ⟨⟨p, r, plan⟩, hsome, hchecks⟩ := (Option.any_eq_true _ _).1 Scene.terraced_checks
  have hplanned := (Scene.planned?_eq_some _ _ _ _ _ _ _).1 hsome
  simp only [Bool.and_eq_true, decide_eq_true_eq] at hchecks
  obtain ⟨⟨⟨⟨hnodup, hrouted⟩, hpasses⟩, hpairs⟩, hlayers⟩ := hchecks
  obtain ⟨h, hh, hlayers⟩ := (Option.any_eq_true _ _).1 hlayers
  have hshares : ∀ e ∈ [("foot", "hill"), ("rock", "foot"), ("top", "hill"), ("hut", "top"), ("roof", "hut")],
      (p.context r {}).SharesTexture e.1 e.2 := fun e he => PlanContext.sharesTexture_iff.2 (hpairs e he)
  obtain ⟨foot, rest, hlist, hfoot, hrest⟩ := List.map_eq_cons_iff.1 (of_decide_eq_true hlayers)
  obtain ⟨top, rest, rfl, htop, -⟩ := List.map_eq_cons_iff.1 hrest
  have hlower := hshares ("foot", "hill") (by simp)
  have hupper := hshares ("top", "hill") (by simp)
  rw [← hfoot] at hlower
  rw [← htop] at hupper
  have hsingle : ∀ z x m, (p.context r {}).DrawnFor z x → (p.context r {}).SharesTexture x m →
      (p.scene.outgoingFrom z).length = 1 := by
    intro z x m hz hx
    obtain ⟨w, -, lr, -, -, hlr, -⟩ := hz.shares hx
    obtain ⟨n, hn, htype, -⟩ := (hplanned.valid.routes.route_placed hlr).node
    obtain ⟨rfl, hmem⟩ := Prepared.node?_eq_some hn
    exact hrouted n hmem htype
  have hrock : (p.context r {}).DrawnFor "rock" foot.node := hfoot ▸ .single (hshares ("rock", "foot") (by simp))
  have hroof : (p.context r {}).DrawnFor "roof" top.node :=
    htop ▸ .head (hshares ("roof", "hut") (by simp)) (.single (hshares ("hut", "top") (by simp)))
  refine ⟨p, r, plan, hplanned, hpasses, fun i j q w hq hw hqnodes hwnodes => ?_⟩
  exact hplanned.paints_in_order hnodup hh (a := 0) (b := 1) (by simp [hlist]) (by simp [hlist]) Nat.zero_lt_one hlower
    hupper (fun z hz => hz.elim (fun hz => hsingle z _ _ hz hlower) fun hz => hsingle z _ _ hz hupper) hq hw
    ⟨"rock", by simp [hqnodes], hrock⟩ ⟨"roof", by simp [hwnodes], hroof⟩

end SceneGraph
