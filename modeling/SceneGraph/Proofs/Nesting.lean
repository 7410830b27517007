import SceneGraph.Proofs.Events

/-!
# Compositions in place

A composition draws its layers on the same target itself, and so on inwards; layers on another target
are copied. An event can so belong to another node than the one whose turn it is.

* `PlanContext.InPlace`, `PlanContext.Below`: the layers that a composition draws itself, and everything
  that is drawn with a node.
* `PlanContext.Complete`: what is drawn has all its layers drawn.
* `PlanContext.composite_emits`, `PlanContext.composite_complete`: planning a composition emits events
  below it and draws everything below it.
* `PlanContext.Root`: the nodes that are planned at their own turn.
* `PlanContext.node_emits`, `PlanContext.node_complete`: the same of planning any node.
-/
set_option autoImplicit false

namespace SceneGraph

open PlanState

namespace PlanContext

variable {c : PlanContext} {st st' : PlanState} {n : Node}

/-! ## Layers -/

/-- The first node is a layer that the second one, a composition, draws in place. -/
def InPlace (c : PlanContext) (x m : String) : Prop :=
  ∃ r lr ln, c.routes.route? m = some r ∧ (∃ l ∈ r.layers, l.node = x) ∧ c.prepared.node? x = some ln ∧
    c.routes.route? x = some lr ∧ lr.domain.node = r.domain.node ∧
    (ln.type = compositeType ∨ isDrawType ln.type = true ∧ lr.isExplicit = false)

/-- The first node is drawn with the second one. -/
def Below (c : PlanContext) (x m : String) : Prop := Relation.ReflTransGen c.InPlace x m

theorem layersOf_connection {p : Prepared} {id : String} {l : Layer} (h : l ∈ p.layersOf id) :
    (∃ n, p.node? id = some n ∧ n.type = compositeType) ∧
      ∃ conn ∈ p.scene.connections, conn.source.node = l.node ∧ conn.target.node = id := by
  unfold Prepared.layersOf at h
  split at h
  · rename_i n hn
    split at h
    · rename_i htype
      refine ⟨⟨n, hn, htype⟩, ?_⟩
      have hlanding : l ∈ (p.scene.connections.filter fun conn => conn.target.node == n.id).map Layer.ofConnection := by
        unfold Layer.ordered at h
        rcases List.mem_append.1 h with h | h
        · exact List.mem_of_mem_filter h
        · exact List.mem_of_mem_filter (List.mem_mergeSort.1 h)
      obtain ⟨conn, hconn, rfl⟩ := List.mem_map.1 hlanding
      obtain ⟨hmem, htarget⟩ := List.mem_filter.1 hconn
      refine ⟨conn, hmem, rfl, ?_⟩
      rw [← (Prepared.node?_eq_some hn).1]
      simpa using htarget
    · cases h
  · cases h

theorem layer_rank_lt (hc : c.Valid) (hnodup : c.prepared.scene.nodeIds.Nodup) {r : Route} {l : Layer}
    {ln : Node} {m : String} (hr : c.routes.route? m = some r) (hl : l ∈ r.layers)
    (hln : c.prepared.node? l.node = some ln) : c.prepared.rank l.node < c.prepared.rank m := by
  rw [(hc.routes.route_placed hr).layers] at hl
  obtain ⟨⟨n, hn, _⟩, conn, hconn, hsource, htarget⟩ := layersOf_connection hl
  have := hc.routes.prepared.rank_lt_rank hnodup hconn (by rw [hsource]; exact hln) (by rw [htarget]; exact hn)
  rwa [hsource, htarget] at this

namespace InPlace

variable {x m : String}

theorem rank_lt (hc : c.Valid) (hnodup : c.prepared.scene.nodeIds.Nodup) (h : c.InPlace x m) :
    c.prepared.rank x < c.prepared.rank m := by
  obtain ⟨r, lr, ln, hr, ⟨l, hl, rfl⟩, hln, _⟩ := h
  exact layer_rank_lt hc hnodup hr hl hln

theorem composite (hc : c.Valid) (h : c.InPlace x m) :
    ∃ n, c.prepared.node? m = some n ∧ n.type = compositeType := by
  obtain ⟨r, lr, ln, hr, ⟨l, hl, rfl⟩, _⟩ := h
  rw [(hc.routes.route_placed hr).layers] at hl
  exact (layersOf_connection hl).1

end InPlace

namespace Below

variable {x m : String}

/-- What is drawn with a node has the node's domain. -/
theorem domain (hc : c.Valid) {r : Route} (h : c.Below x m) (hr : c.routes.route? m = some r) :
    ∃ lr, c.routes.route? x = some lr ∧ lr.domain = r.domain := by
  induction h using Relation.ReflTransGen.head_induction_on with
  | refl => exact ⟨r, hr, rfl⟩
  | head hplace _ ih =>
    obtain ⟨r₁, lr₁, ln, hr₁, _, _, hlr₁, hsame, _⟩ := hplace
    obtain ⟨r₂, hr₂, hdomain⟩ := ih
    rw [hr₁] at hr₂
    cases hr₂
    refine ⟨lr₁, hlr₁, ?_⟩
    have hplaced := (hc.routes.route_placed hlr₁).domain
    rw [hsame, (hc.routes.route_placed hr₁).domain] at hplaced
    rw [← Option.some.inj hplaced, hdomain]

theorem rank_le (hc : c.Valid) (hnodup : c.prepared.scene.nodeIds.Nodup) (h : c.Below x m) :
    c.prepared.rank x ≤ c.prepared.rank m := by
  induction h with
  | refl => exact le_rfl
  | tail _ hplace ih => exact ih.trans (hplace.rank_lt hc hnodup).le

end Below

/-- The node is drawn with all its layers, unless it belongs to the compositions in progress. -/
def Complete (c : PlanContext) (busy : List String) (st : PlanState) : Prop :=
  ∀ m ∈ st.drawn, m ∉ busy → ∀ x, c.InPlace x m → x ∈ st.drawn

namespace Complete

variable {busy : List String}

theorem below (h : c.Complete [] st) {x m : String} (hm : m ∈ st.drawn) (hbelow : c.Below x m) : x ∈ st.drawn := by
  induction hbelow using Relation.ReflTransGen.head_induction_on with
  | refl => exact hm
  | head hplace _ ih => exact h _ ih (by simp) _ hplace

theorem begin (h : c.Complete busy st) (id : String) :
    c.Complete (id :: busy) { st with drawn := id :: st.drawn } := by
  intro m hm hbusy x hx
  rcases List.mem_cons.1 hm with rfl | hm
  · exact absurd List.mem_cons_self hbusy
  · exact List.mem_cons_of_mem id (h m hm (fun hmem => hbusy (List.mem_cons_of_mem id hmem)) x hx)

theorem finish {id : String} (h : c.Complete (id :: busy) st) (hall : ∀ x, c.InPlace x id → x ∈ st.drawn) :
    c.Complete busy st := by
  intro m hm hbusy x hx
  by_cases heq : m = id
  · rw [heq] at hx
    exact hall x hx
  · exact h m hm (by simpa [heq] using hbusy) x hx

theorem draw (h : c.Complete busy st) {id : String} (hdrawn : st'.drawn = id :: st.drawn)
    (hnone : ∀ x, ¬ c.InPlace x id) : c.Complete busy st' := by
  intro m hm hbusy x hx
  rw [hdrawn] at hm ⊢
  rcases List.mem_cons.1 hm with rfl | hm
  · exact absurd hx (hnone x)
  · exact List.mem_cons_of_mem id (h m hm hbusy x hx)

theorem congr (h : c.Complete busy st) (hdrawn : st'.drawn = st.drawn) : c.Complete busy st' := by
  unfold Complete
  rw [hdrawn]
  exact h

end Complete

/-! ## Planning layers -/

/-- What planning a layer does: nothing, the composition or draw node that it is, or a copy. -/
theorem layer_cases {inner : Node → PlanM Unit} {r : Route} {l : Layer} (hr : c.routes.route? n.id = some r)
    (hl : l ∈ r.layers) {u : Unit} (h : Yields (c.layer inner n r l) st u st') :
    (st' = st ∧ ¬ c.InPlace l.node n.id) ∨
      (∃ ln, ln.id = l.node ∧ c.prepared.node? ln.id = some ln ∧ c.InPlace ln.id n.id ∧
        ((ln.type = compositeType ∧ Yields (inner ln) st u st') ∨
          (isDrawType ln.type = true ∧ Yields (c.draw ln) st u st'))) ∨
      (∃ ln lr, ln.id = l.node ∧ c.prepared.node? ln.id = some ln ∧ c.routes.route? ln.id = some lr ∧
        lr.domain.node ≠ r.domain.node ∧ Yields (compose ln.id lr.domain n r.domain) st u st') := by
  unfold layer at h
  split at h
  · rename_i ln lr hln hlr
    obtain ⟨hid, _⟩ := Prepared.node?_eq_some hln
    simp only [yields_ite, yields_pure, Bool.and_eq_true, Bool.not_eq_true'] at h
    rw [← hid] at hln hlr ⊢
    rcases h with ⟨hsame, ⟨htype, h⟩ | ⟨htype, ⟨⟨hdraw, hexp⟩, h⟩ | ⟨hdraw, _, h⟩⟩⟩ | ⟨hother, h⟩
    · exact .inr (.inl ⟨ln, rfl, hln, ⟨r, lr, ln, hr, ⟨l, hl, hid.symm⟩, hln, hlr, hsame, .inl htype⟩, .inl ⟨htype, h⟩⟩)
    · exact .inr (.inl ⟨ln, rfl, hln, ⟨r, lr, ln, hr, ⟨l, hl, hid.symm⟩, hln, hlr, hsame, .inr ⟨hdraw, hexp⟩⟩,
        .inr ⟨hdraw, h⟩⟩)
    · refine .inl ⟨h, ?_⟩
      rintro ⟨_, lr', ln', _, _, hln', hlr', _, hkind⟩
      rw [hln] at hln'
      rw [hlr] at hlr'
      cases hln'
      cases hlr'
      rcases hkind with hcomp | hinplace
      · exact htype hcomp
      · exact hdraw hinplace
    · exact .inr (.inr ⟨ln, lr, rfl, hln, hlr, hother, h⟩)
  · rename_i hnone
    obtain ⟨_, rfl⟩ := (yields_pure _ _ _ _).1 h
    refine .inl ⟨rfl, ?_⟩
    rintro ⟨_, lr, ln, _, _, hln, hlr, _⟩
    exact hnone ln lr hln hlr

/-- Planning a composition emits events that are drawn with it and were not drawn before. -/
def Composes (c : PlanContext) (inner : Node → PlanM Unit) (n : Node) : Prop :=
  ∀ st st' u, Ready c st → Yields (inner n) st u st' →
    ∃ es, Emits c st st' es ∧ ∀ e ∈ es, c.Below e.subject n.id ∧ e.subject ∉ st.drawn

theorem layer_emits {inner : Node → PlanM Unit} (hc : c.Valid) (hn : c.prepared.node? n.id = some n)
    (htype : n.type = compositeType)
    (hinner : ∀ ln, c.prepared.node? ln.id = some ln → ln.type = compositeType → c.Composes inner ln)
    {r : Route} {l : Layer} (hr : c.routes.route? n.id = some r) (hl : l ∈ r.layers) (hst : Ready c st) {u : Unit}
    (h : Yields (c.layer inner n r l) st u st') :
    ∃ es, Emits c st st' es ∧ ∀ e ∈ es, e.subject = n.id ∨ (c.Below e.subject n.id ∧ e.subject ∉ st.drawn) := by
  rcases layer_cases hr hl h with ⟨rfl, _⟩ | ⟨ln, _, hln, hplace, ⟨hltype, h⟩ | ⟨_, h⟩⟩ |
    ⟨ln, lr, hid, hln, hlr, hother, h⟩
  · exact ⟨[], .refl hst, by simp⟩
  · obtain ⟨es, hemits, hsubjects⟩ := hinner ln hln hltype st st' u hst h
    exact ⟨es, hemits, fun e he => .inr ⟨(hsubjects e he).1.tail hplace, (hsubjects e he).2⟩⟩
  · obtain ⟨es, hemits, _, hsubjects⟩ := draw_emits hc hln hst h
    refine ⟨es, hemits, fun e he => .inr ?_⟩
    rw [(hsubjects e he).1]
    exact ⟨.single hplace, (hsubjects e he).2⟩
  · obtain ⟨es, hemits, _, hsubjects⟩ := compose_emits hc hln hn htype hlr hr hl hid.symm hother hst h
    exact ⟨es, hemits, fun e he => .inl (hsubjects e he)⟩

theorem layers_emits {inner : Node → PlanM Unit} (hc : c.Valid) (hn : c.prepared.node? n.id = some n)
    (htype : n.type = compositeType)
    (hinner : ∀ ln, c.prepared.node? ln.id = some ln → ln.type = compositeType → c.Composes inner ln)
    {r : Route} (hr : c.routes.route? n.id = some r) {ls : List Layer} (hls : ∀ l ∈ ls, l ∈ r.layers)
    (hst : Ready c st) {u : Unit} (h : Yields (c.layers inner n r ls) st u st') :
    ∃ es, Emits c st st' es ∧ ∀ e ∈ es, e.subject = n.id ∨ (c.Below e.subject n.id ∧ e.subject ∉ st.drawn) := by
  induction ls generalizing st with
  | nil =>
    obtain ⟨_, rfl⟩ := (yields_pure _ _ _ _).1 h
    exact ⟨[], .refl hst, by simp⟩
  | cons l rest ih =>
    unfold layers at h
    simp only [yields_bind] at h
    obtain ⟨_, st₁, hfirst, hrest⟩ := h
    obtain ⟨es, h₁, hsubjects⟩ := layer_emits hc hn htype hinner hr (hls l List.mem_cons_self) hst hfirst
    obtain ⟨es', h₂, hsubjects'⟩ := ih (fun l' hl' => hls l' (List.mem_cons_of_mem l hl')) h₁.ready hrest
    refine ⟨es ++ es', h₁.trans h₂, ?_⟩
    intro e he
    rcases List.mem_append.1 he with he | he
    · exact hsubjects e he
    · rcases hsubjects' e he with hself | ⟨hbelow, hnew⟩
      · exact .inl hself
      · exact .inr ⟨hbelow, fun hmem => hnew (h₁.drawn_subset hmem)⟩

/-- Planning a composition emits events below it, however deep compositions are nested. -/
theorem compositeWithin_emits (hc : c.Valid) {depth : Nat} (hn : c.prepared.node? n.id = some n)
    (htype : n.type = compositeType) : c.Composes (c.compositeWithin depth) n := by
  induction depth generalizing n with
  | zero =>
    intro st st' u hst h
    obtain ⟨_, rfl⟩ := (yields_pure _ _ _ _).1 h
    exact ⟨[], .refl hst, by simp⟩
  | succ depth ih =>
    intro st st' u hst h
    rcases yields_once.1 h with ⟨_, rfl⟩ | ⟨hmem, r, hr, h⟩
    -- a composition that has been drawn is left alone
    · exact ⟨[], .refl hst, by simp⟩
    · have hst₁ := ready_drawn hst (n.id :: st.drawn)
      obtain ⟨es, hemits, hsubjects⟩ := layers_emits hc hn htype (fun ln hln hltype => ih hln hltype) hr
        (fun _ hl => hl) hst₁ h
      refine ⟨.enter n :: es, (Emits.enter hst hn htype hmem).trans hemits, ?_⟩
      intro e he
      rcases List.mem_cons.1 he with rfl | he
      · exact ⟨.refl, hmem⟩
      · rcases hsubjects e he with hself | ⟨hbelow, hnew⟩
        · rw [hself]
          exact ⟨.refl, hmem⟩
        · exact ⟨hbelow, fun hold => hnew (List.mem_cons_of_mem n.id hold)⟩

/-! ## Drawing all layers -/

/-- Planning a composition draws it with all its layers. -/
def Finishes (c : PlanContext) (inner : Node → PlanM Unit) (n : Node) : Prop :=
  ∀ st st' u busy, Ready c st → Yields (inner n) st u st' → c.Complete busy st →
    c.Complete busy st' ∧ n.id ∈ st'.drawn

theorem not_inPlace_of_type (hc : c.Valid) (hn : c.prepared.node? n.id = some n) (htype : n.type ≠ compositeType)
    (x : String) : ¬ c.InPlace x n.id := by
  intro h
  obtain ⟨m, hm, hmtype⟩ := h.composite hc
  rw [hn] at hm
  cases hm
  exact htype hmtype

theorem isDrawType_cases {type : String} (h : isDrawType type = true) :
    type = "RenderPass" ∨ type = "Blit" ∨ type = "Blur" ∨ type = "Bloom" := by
  simpa [isDrawType, or_assoc] using h

theorem isDrawType_ne_composite {type : String} (h : isDrawType type = true) : type ≠ compositeType := by
  rintro rfl
  exact absurd h (by decide)

theorem draw_complete (hc : c.Valid) (hn : c.prepared.node? n.id = some n) (hdraw : isDrawType n.type = true)
    (hst : Ready c st) {u : Unit} (h : Yields (c.draw n) st u st') {busy : List String}
    (hcomplete : c.Complete busy st) : c.Complete busy st' := by
  rcases draw_planned hc hn hst h with ⟨_, rfl⟩ | ⟨_, _, _, _, _, _, hplanned, _⟩
  · exact hcomplete
  · exact hcomplete.draw hplanned.adds.drawn (not_inPlace_of_type hc hn (isDrawType_ne_composite hdraw))

theorem layer_complete {inner : Node → PlanM Unit} (hc : c.Valid) (hn : c.prepared.node? n.id = some n)
    (htype : n.type = compositeType)
    (hinner : ∀ ln, c.prepared.node? ln.id = some ln → ln.type = compositeType → c.InPlace ln.id n.id →
      c.Finishes inner ln)
    {r : Route} {l : Layer} (hr : c.routes.route? n.id = some r) (hl : l ∈ r.layers) (hst : Ready c st) {u : Unit}
    (h : Yields (c.layer inner n r l) st u st') {busy : List String} (hcomplete : c.Complete busy st) :
    c.Complete busy st' ∧ (c.InPlace l.node n.id → l.node ∈ st'.drawn) := by
  rcases layer_cases hr hl h with ⟨rfl, hnone⟩ | ⟨ln, hid, hln, hplace, ⟨hltype, h⟩ | ⟨hdraw, h⟩⟩ |
    ⟨ln, lr, hid, hln, hlr, hother, h⟩
  · exact ⟨hcomplete, fun hplace => absurd hplace hnone⟩
  · obtain ⟨hcomplete', hdrawn⟩ := hinner ln hln hltype hplace st st' u busy hst h hcomplete
    exact ⟨hcomplete', fun _ => hid ▸ hdrawn⟩
  · obtain ⟨_, _, hdrawn, _⟩ := draw_emits hc hln hst h
    exact ⟨draw_complete hc hln hdraw hst h hcomplete, fun _ => hid ▸ hdrawn⟩
  · obtain ⟨_, _, hdrawn, _⟩ := compose_emits hc hln hn htype hlr hr hl hid.symm hother hst h
    refine ⟨hcomplete.congr hdrawn, ?_⟩
    rintro ⟨r', lr', _, hr', _, _, hlr', hsame, _⟩
    rw [hr] at hr'
    rw [← hid, hlr] at hlr'
    cases hr'
    cases hlr'
    exact absurd hsame hother

theorem layers_complete {inner : Node → PlanM Unit} (hc : c.Valid) (hn : c.prepared.node? n.id = some n)
    (htype : n.type = compositeType)
    (hemits : ∀ ln, c.prepared.node? ln.id = some ln → ln.type = compositeType → c.Composes inner ln)
    (hinner : ∀ ln, c.prepared.node? ln.id = some ln → ln.type = compositeType → c.InPlace ln.id n.id →
      c.Finishes inner ln)
    {r : Route} (hr : c.routes.route? n.id = some r) {ls : List Layer} (hls : ∀ l ∈ ls, l ∈ r.layers)
    (hst : Ready c st) {u : Unit} (h : Yields (c.layers inner n r ls) st u st') {busy : List String}
    (hcomplete : c.Complete busy st) :
    c.Complete busy st' ∧ ∀ l ∈ ls, c.InPlace l.node n.id → l.node ∈ st'.drawn := by
  induction ls generalizing st with
  | nil =>
    obtain ⟨_, rfl⟩ := (yields_pure _ _ _ _).1 h
    exact ⟨hcomplete, by simp⟩
  | cons l rest ih =>
    unfold layers at h
    simp only [yields_bind] at h
    obtain ⟨_, st₁, hfirst, hrest⟩ := h
    have hrest' : ∀ l' ∈ rest, l' ∈ r.layers := fun l' hl' => hls l' (List.mem_cons_of_mem l hl')
    obtain ⟨_, h₁, _⟩ := layer_emits hc hn htype hemits hr (hls l List.mem_cons_self) hst hfirst
    obtain ⟨_, h₂, _⟩ := layers_emits hc hn htype hemits hr hrest' h₁.ready hrest
    obtain ⟨hcomplete₁, hdrawn⟩ := layer_complete hc hn htype hinner hr (hls l List.mem_cons_self) hst hfirst hcomplete
    obtain ⟨hcomplete₂, hdrawn'⟩ := ih hrest' h₁.ready hrest hcomplete₁
    refine ⟨hcomplete₂, ?_⟩
    intro l' hl' hplace
    rcases List.mem_cons.1 hl' with rfl | hl'
    · exact h₂.drawn_subset (hdrawn hplace)
    · exact hdrawn' l' hl' hplace

/-- With more depth than the composition's rank, all that is below it gets drawn. -/
theorem compositeWithin_complete (hc : c.Valid) (hnodup : c.prepared.scene.nodeIds.Nodup) {depth : Nat}
    (hn : c.prepared.node? n.id = some n) (htype : n.type = compositeType) (hdepth : c.prepared.rank n.id < depth) :
    c.Finishes (c.compositeWithin depth) n := by
  -- layers in place have smaller ranks, so the depth suffices for them, too
  induction depth generalizing n with
  | zero => omega
  | succ depth ih =>
    intro st st' u busy hst h hcomplete
    rcases yields_once.1 h with ⟨hmem, rfl⟩ | ⟨hmem, r, hr, h⟩
    · exact ⟨hcomplete, hmem⟩
    · have hst₁ := ready_drawn hst (n.id :: st.drawn)
      have hemits : ∀ ln, c.prepared.node? ln.id = some ln → ln.type = compositeType →
          c.Composes (c.compositeWithin depth) ln := fun ln hln hltype => compositeWithin_emits hc hln hltype
      obtain ⟨_, h₁, _⟩ := layers_emits hc hn htype hemits hr (fun _ hl => hl) hst₁ h
      obtain ⟨hcomplete', hall⟩ := layers_complete hc hn htype hemits
        (fun ln hln hltype hplace => ih hln hltype (by have := hplace.rank_lt hc hnodup; omega)) hr (fun _ hl => hl)
        hst₁ h (hcomplete.begin n.id)
      refine ⟨hcomplete'.finish ?_, h₁.drawn_subset List.mem_cons_self⟩
      intro x hplace
      obtain ⟨r', _, _, hr', ⟨l, hl, rfl⟩, _⟩ := id hplace
      rw [hr] at hr'
      cases hr'
      exact hall l hl hplace

theorem composite_emits (hc : c.Valid) (hn : c.prepared.node? n.id = some n) (htype : n.type = compositeType) :
    c.Composes c.composite n :=
  compositeWithin_emits hc hn htype

theorem composite_complete (hc : c.Valid) (hnodup : c.prepared.scene.nodeIds.Nodup)
    (hn : c.prepared.node? n.id = some n) (htype : n.type = compositeType) : c.Finishes c.composite n := by
  refine compositeWithin_complete hc hnodup hn htype ?_
  have := hc.routes.prepared.rank_lt hn
  rw [hc.routes.prepared.order_length] at this
  omega

/-! ## Turns -/

/-- The node is planned at its own turn: a composition in no other one on the same target, a draw node with
a target of its own, or a target. -/
def Root (c : PlanContext) (n : Node) : Prop :=
  (n.type = compositeType ∧ c.isNested n.id = false) ∨
    (isDrawType n.type = true ∧ ∃ r, c.routes.route? n.id = some r ∧ r.isExplicit = true) ∨
      isTargetType n.type = true

theorem isTargetType_of_draw {type : String} (h : isDrawType type = true) : isTargetType type = false := by
  rcases isDrawType_cases h with rfl | rfl | rfl | rfl <;> decide

theorem isTargetType_of_routed {type : String} (h : isRoutedType type = true) : isTargetType type = false := by
  rcases Bool.or_eq_true_iff.1 h with hdraw | hcomposite
  · exact isTargetType_of_draw hdraw
  · rw [beq_iff_eq.1 hcomposite]
    decide

/-- What a node does at its turn: nothing, unless it is planned then. -/
theorem node_cases {u : Unit} (h : Yields (c.node n) st u st') :
    (st' = st ∧ ¬ c.Root n) ∨
      (c.Root n ∧ ((n.type = compositeType ∧ Yields (c.composite n) st u st') ∨
        (isDrawType n.type = true ∧ Yields (c.draw n) st u st') ∨
          (isTargetType n.type = true ∧ Yields (c.clearUnwritten n) st u st'))) := by
  have hcomposite : isDrawType compositeType = false ∧ isTargetType compositeType = false := by decide
  unfold node at h
  split at h
  · rename_i htype
    cases hnested : c.isNested n.id with
    | true =>
      simp only [hnested, if_true, yields_pure] at h
      refine .inl ⟨h.2, ?_⟩
      simp [Root, htype, hnested, hcomposite]
    | false =>
      simp only [hnested] at h
      exact .inr ⟨.inl ⟨htype, hnested⟩, .inl ⟨htype, h⟩⟩
  · rename_i htype
    split at h
    · rename_i hdraw
      split at h
      · rename_i r hr
        cases hexp : r.isExplicit with
        | true =>
          simp only [hexp, if_true] at h
          exact .inr ⟨.inr (.inl ⟨hdraw, r, hr, hexp⟩), .inr (.inl ⟨hdraw, h⟩)⟩
        | false =>
          simp only [hexp, Bool.false_eq_true, if_false, yields_pure] at h
          refine .inl ⟨h.2, ?_⟩
          simp [Root, htype, hdraw, hr, hexp, isTargetType_of_draw hdraw]
      · rename_i hr
        refine .inl ⟨((yields_pure _ _ _ _).1 h).2, ?_⟩
        simp [Root, htype, hdraw, hr, isTargetType_of_draw hdraw]
    · rename_i hdraw
      split at h
      · rename_i ht
        exact .inr ⟨.inr (.inr ht), .inr (.inr ⟨ht, h⟩)⟩
      · rename_i ht
        refine .inl ⟨((yields_pure _ _ _ _).1 h).2, ?_⟩
        simp [Root, htype, hdraw, ht]

/-- A node emits events below it: new ones, or the clearing of a target. -/
theorem node_emits (hc : c.Valid) (hn : c.prepared.node? n.id = some n) (hst : Ready c st) {u : Unit}
    (h : Yields (c.node n) st u st') :
    ∃ es, Emits c st st' es ∧ ∀ e ∈ es, c.Root n ∧ c.Below e.subject n.id ∧
      (e.subject ∉ st.drawn ∨ isTargetType n.type = true ∧ e.subject = n.id) := by
  rcases node_cases h with ⟨rfl, _⟩ | ⟨hroot, ⟨htype, h⟩ | ⟨_, h⟩ | ⟨htype, h⟩⟩
  · exact ⟨[], .refl hst, by simp⟩
  · obtain ⟨es, hemits, hsubjects⟩ := composite_emits hc hn htype st st' u hst h
    exact ⟨es, hemits, fun e he => ⟨hroot, (hsubjects e he).1, .inl (hsubjects e he).2⟩⟩
  · obtain ⟨es, hemits, _, hsubjects⟩ := draw_emits hc hn hst h
    refine ⟨es, hemits, fun e he => ?_⟩
    rw [(hsubjects e he).1]
    exact ⟨hroot, .refl, .inl (hsubjects e he).2⟩
  · obtain ⟨es, hemits, _, hsubjects, _⟩ := clearUnwritten_emits hc hn htype hst h
    refine ⟨es, hemits, fun e he => ?_⟩
    rw [hsubjects e he]
    exact ⟨hroot, .refl, .inr ⟨htype, rfl⟩⟩

/-- After its turn a node is drawn with all its layers, and the texture of a target is written. -/
theorem node_complete (hc : c.Valid) (hnodup : c.prepared.scene.nodeIds.Nodup)
    (hn : c.prepared.node? n.id = some n) (hst : Ready c st) {u : Unit} (h : Yields (c.node n) st u st')
    (hcomplete : c.Complete [] st) :
    c.Complete [] st' ∧ (c.Root n → isTargetType n.type = false → n.id ∈ st'.drawn) ∧
      (isTargetType n.type = true → (Route.domainAt c.routes.textures n.id).texture ∈ st'.written) := by
  rcases node_cases h with ⟨rfl, hroot⟩ | ⟨_, ⟨htype, h⟩ | ⟨hdraw, h⟩ | ⟨htype, h⟩⟩
  · exact ⟨hcomplete, fun hr => absurd hr hroot, fun htarget => absurd (.inr (.inr htarget)) hroot⟩
  · obtain ⟨hcomplete', hdrawn⟩ := composite_complete hc hnodup hn htype st st' u [] hst h hcomplete
    refine ⟨hcomplete', fun _ _ => hdrawn, fun htarget => ?_⟩
    rw [htype] at htarget
    exact absurd htarget (by decide)
  · obtain ⟨_, _, hdrawn, _⟩ := draw_emits hc hn hst h
    refine ⟨draw_complete hc hn hdraw hst h hcomplete, fun _ _ => hdrawn, fun htarget => ?_⟩
    rw [isTargetType_of_draw hdraw] at htarget
    cases htarget
  · obtain ⟨_, _, hdrawn, _, hwritten, _⟩ := clearUnwritten_emits hc hn htype hst h
    refine ⟨hcomplete.congr hdrawn, fun _ hfalse => ?_, fun _ => hwritten⟩
    rw [htype] at hfalse
    cases hfalse

end PlanContext

end SceneGraph
