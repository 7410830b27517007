import SceneGraph.Proofs.Buffers

/-!
# Load operations

Every texture of a plan that is not filled from a buffer is drawn into, and the passes that draw into it share its
contents: the first one clears it to its color, the later ones load what is there.

Planning keeps the set of textures that have been written. A step of planning declares textures that it writes
before it ends, and a pass clears exactly if its target is not in the set yet. The targets of a scene are declared
before all passes; the turn of a target clears it where no pass has been there before.

* `TextureDecl.ClearedBy`: the load operations of passes onto a texture.
* `PlanState.Loading`: in a state of planning, the written textures are those that passes draw into, in this way.
* `PlanM.Painting`: a step of planning that keeps this, and writes the textures that it declares.
* `Scene.plan_loads`: every texture of a plan without an upload is cleared once and loaded from then on.
-/
set_option autoImplicit false

namespace SceneGraph

/-! ## Passes onto a texture -/

/-- The first pass onto a texture clears it to its color, and the later ones load it. -/
structure TextureDecl.ClearedBy (t : TextureDecl) (first : Pass) (later : List Pass) : Prop where
  load : first.load = .clear
  color : first.clear = t.clear
  later : ∀ q ∈ later, q.load = .load ∧ q.clear = {}

/-- The passes that draw into a texture, in order. -/
def Plan.passesOnto (plan : Plan) (name : String) : List Pass := plan.passes.filter fun q => q.target = name

theorem TextureDecl.ClearedBy.append {t : TextureDecl} {first q : Pass} {later : List Pass}
    (h : t.ClearedBy first later)
    (hload : q.load = .load) (hclear : q.clear = {}) : t.ClearedBy first (later ++ [q]) := by
  refine ⟨h.load, h.color, fun q' hq' => ?_⟩
  rcases List.mem_append.1 hq' with hq' | hq'
  · exact h.later q' hq'
  · obtain rfl := List.mem_singleton.1 hq'
    exact ⟨hload, hclear⟩

theorem Plan.texture?_of_mem {plan : Plan} (hnames : (plan.textures.map TextureDecl.name).Nodup) {t : TextureDecl}
    (ht : t ∈ plan.textures) : plan.texture? t.name = some t := by
  unfold texture?
  induction hlist : plan.textures generalizing plan with
  | nil => simp [hlist] at ht
  | cons first rest ih =>
    rw [hlist] at ht hnames
    obtain ⟨hfirst, hrest⟩ := List.nodup_cons.1 hnames
    rcases List.mem_cons.1 ht with rfl | ht
    · simp
    · have hne : first.name ≠ t.name := fun heq => hfirst (heq ▸ List.mem_map_of_mem ht)
      rw [List.find?_cons_of_neg (by simpa using hne)]
      exact @ih { plan with textures := rest } hrest ht rfl

namespace PlanState

/-- A texture has not been written and no pass draws into it, or it has been written and the passes that draw into it
clear and load it. -/
inductive Painted (st : PlanState) (name : String) : Prop where
  | bare (hpasses : st.plan.passesOnto name = []) (hwritten : name ∉ st.written)
  | written (t : TextureDecl) (first : Pass) (later : List Pass) (ht : st.plan.texture? name = some t)
    (hpasses : st.plan.passesOnto name = first :: later) (hcleared : t.ClearedBy first later)
    (hwritten : name ∈ st.written)

/-- The textures have different names, and the written ones are those that passes clear and load. -/
structure Loading (st : PlanState) : Prop where
  names : (st.plan.textures.map TextureDecl.name).Nodup
  painted : ∀ name, st.Painted name

/-- A run of planning that keeps track of what is written. The textures that it declares are filled, written, or
among those that are due. -/
structure Paints (due : String → Prop) (st st' : PlanState) : Prop where
  written : ∀ name ∈ st.written, name ∈ st'.written
  textures : ∀ t ∈ st'.plan.textures, t.upload = "" → t ∈ st.plan.textures ∨ due t.name ∨ t.name ∈ st'.written
  loading : st.Loading → st'.Loading

variable {due late : String → Prop} {st st' st'' : PlanState}

theorem Painted.mono {name : String} (h : st.Painted name) (htextures : st.plan.textures <+: st'.plan.textures)
    (hpasses : st'.plan.passes = st.plan.passes) (hwritten : st'.written = st.written) : st'.Painted name := by
  have honto : st'.plan.passesOnto name = st.plan.passesOnto name := by rw [Plan.passesOnto, hpasses, Plan.passesOnto]
  cases h with
  | bare hnone hnot => exact .bare (honto.trans hnone) (hwritten ▸ hnot)
  | written t first later ht hsome hcleared hmem =>
    exact .written t first later ( find?_of_prefix htextures ht) (honto.trans hsome) hcleared (hwritten ▸ hmem)

namespace Paints

theorem of_same (htextures : st'.plan.textures = st.plan.textures) (hpasses : st'.plan.passes = st.plan.passes)
    (hwritten : st'.written = st.written) : Paints due st st' where
  written _ h := hwritten ▸ h
  textures _ ht _ := .inl (htextures ▸ ht)
  loading h := ⟨htextures ▸ h.names, fun name => (h.painted name).mono (htextures ▸ List.prefix_rfl) hpasses hwritten⟩

theorem refl (st : PlanState) : Paints due st st := of_same rfl rfl rfl

theorem trans (h : Paints due st st') (h' : Paints due st' st'') : Paints due st st'' where
  written name hname := h'.written name (h.written name hname)
  textures t ht hbare := by
    rcases h'.textures t ht hbare with ht | hlater
    · rcases h.textures t ht hbare with ht | hdue | hwritten
      · exact .inl ht
      · exact .inr (.inl hdue)
      · exact .inr (.inr (h'.written _ hwritten))
    · exact .inr hlater
  loading hst := h'.loading (h.loading hst)

/-- What is due has been written in the end. -/
theorem done (h : Paints late st st') (hlate : ∀ name, late name → due name ∨ name ∈ st'.written) :
    Paints due st st' where
  written := h.written
  textures t ht hbare := by
    rcases h.textures t ht hbare with ht | hname | hwritten
    · exact .inl ht
    · exact .inr (hlate _ hname)
    · exact .inr (.inr hwritten)
  loading := h.loading

end Paints

end PlanState

open PlanState

/-! ## Steps of planning -/

/-- A step of planning that writes the textures that it declares, apart from those that are due. -/
def PlanM.Painting {α : Type} (due : String → Prop) (x : PlanM α) : Prop :=
  ∀ st a st', Yields x st a st' → Paints due st st'

namespace PlanM

variable {α β : Type} {due : String → Prop}

namespace Painting

theorem of_same {x : PlanM α} (h : ∀ st a st', Yields x st a st' → st'.plan.textures = st.plan.textures ∧
    st'.plan.passes = st.plan.passes ∧ st'.written = st.written) : Painting due x := fun st a st' hx =>
  have ⟨htextures, hpasses, hwritten⟩ := h st a st' hx
  .of_same htextures hpasses hwritten

theorem pure (a : α) : Painting due (Pure.pure a) :=
  of_same fun _ _ _ h => ((yields_pure _ _ _ _).1 h).2 ▸ ⟨rfl, rfl, rfl⟩

theorem throw (e : PlanError) : Painting due (throw e : PlanM α) :=
  fun _ _ _ h => absurd h (yields_throw _ _ _ _)

theorem bind {x : PlanM α} {f : α → PlanM β} (hx : Painting due x) (hf : ∀ a, Painting due (f a)) :
    Painting due (x >>= f) := by
  intro st b st' h
  obtain ⟨a, mid, ha, hb⟩ := (yields_bind _ _ _ _ _).1 h
  exact (hx _ _ _ ha).trans (hf a _ _ _ hb)

theorem written {x : PlanM α} {st st' : PlanState} {a : α} (hx : Painting (fun _ => True) x) (h : Yields x st a st') :
    ∀ name ∈ st.written, name ∈ st'.written :=
  (hx _ _ _ h).written

theorem ite {p : Prop} [Decidable p] {x y : PlanM α} (hx : Painting due x) (hy : Painting due y) :
    Painting due (if p then x else y) := by
  split
  · exact hx
  · exact hy

theorem get : Painting due get :=
  of_same fun _ _ _ h => ((yields_get _ _ _).1 h).2 ▸ ⟨rfl, rfl, rfl⟩

theorem ofSession (x : SessionM α) : Painting due (PlanM.ofSession x) :=
  of_same fun st a st' h => by
    obtain ⟨_, _, rfl⟩ := (yields_ofSession _ _ _ _).1 h
    exact ⟨rfl, rfl, rfl⟩

theorem ofExpr (r : Except ExprError α) : Painting due (PlanM.ofExpr r) :=
  of_same fun _ _ _ h => ((yields_ofExpr _ _ _ _).1 h).2 ▸ ⟨rfl, rfl, rfl⟩

theorem report (e : LogEntry) : Painting due (PlanM.report e) :=
  of_same fun _ _ _ h => (yields_report _ _ _ _).1 h ▸ ⟨rfl, rfl, rfl⟩

theorem declareBuffer (b : BufferDecl) : Painting due (PlanM.declare fun p => p.declareBuffer b) :=
  of_same fun st _ st' h => by
    obtain ⟨p, hp, rfl⟩ := (yields_declare _ _ _ _).1 h
    rcases Plan.declareBuffer_eq_ok hp with ⟨_, _, _, rfl⟩ | ⟨_, rfl⟩ <;> exact ⟨rfl, rfl, rfl⟩

theorem declareSampler (s : SamplerDecl) : Painting due (PlanM.declare fun p => p.declareSampler s) :=
  of_same fun st _ st' h => by
    obtain ⟨p, hp, rfl⟩ := (yields_declare _ _ _ _).1 h
    rcases Plan.declareSampler_eq_ok hp with ⟨_, rfl⟩ | ⟨_, rfl⟩ <;> exact ⟨rfl, rfl, rfl⟩

theorem declareTexture {t : TextureDecl} (ht : t.upload = "" → due t.name) :
    Painting due (PlanM.declare fun p => p.declareTexture t) := by
  intro st _ st' h
  obtain ⟨p, hp, rfl⟩ := (yields_declare _ _ _ _).1 h
  rcases Plan.declareTexture_eq_ok hp with ⟨_, _, _, rfl⟩ | ⟨hnone, rfl⟩
  · exact .refl _
  · refine ⟨fun _ h => h, fun x hx hbare => ?_, fun hst => ⟨?_, fun name => ?_⟩⟩
    · rcases List.mem_append.1 hx with hx | hx
      · exact .inl hx
      · obtain rfl := List.mem_singleton.1 hx
        exact .inr (.inl (ht hbare))
    · exact nodup_append_of_find? _ _ _ hst.names hnone
    · exact (hst.painted name).mono (List.prefix_append _ _) rfl rfl

end Painting

/-- The state after a pass: its target is written, and the pass clears it or loads it, as its place asks. -/
theorem addPass_eq {ps : Pass} {u : Unit} {st st' : PlanState} (h : Yields (addPass ps) st u st') :
    ∃ t q, st.plan.texture? ps.target = some t ∧ q.target = ps.target ∧ (q.load, q.clear) = loadOf st t ∧
      st'.plan.textures = st.plan.textures ∧ st'.plan.passes = st.plan.passes ++ [q] ∧
      ∀ name, name ∈ st'.written ↔ name = ps.target ∨ name ∈ st.written := by
  unfold addPass at h
  simp only [yields_bind, yields_get] at h
  obtain ⟨_, st, ⟨rfl, rfl⟩, h⟩ := h
  split at h
  · exact absurd h (yields_throw _ _ _ _)
  · rename_i t ht
    simp only [yields_ite, yields_bind, yields_throw, false_and, exists_false, and_false, false_or, yields_set,
      PlanM.yields_debug] at h
    obtain ⟨_, _, _, rfl, rfl⟩ := h
    have hname : t.name = ps.target := by simpa using List.find?_some ht
    refine ⟨t, { ps with size := t.size, format := t.format, load := (loadOf st t).1, clear := (loadOf st t).2 },
      ht, rfl,
      rfl, rfl, rfl, fun name => ?_⟩
    rw [hname]
    dsimp only
    split
    · rename_i hmem
      exact ⟨.inr, fun h => h.elim (fun heq => heq ▸ List.contains_iff_mem.1 hmem) id⟩
    · exact List.mem_cons

theorem addPass_written {ps : Pass} {u : Unit} {st st' : PlanState} (h : Yields (addPass ps) st u st') :
    ps.target ∈ st'.written := by
  obtain ⟨_, _, _, _, _, _, _, hwritten⟩ := addPass_eq h
  exact (hwritten _).2 (.inl rfl)

/-- A further pass loads its target where it is written, and clears it to its color where it is not. -/
theorem addPass_painted {ps : Pass} {u : Unit} {st st' : PlanState} (h : Yields (addPass ps) st u st')
    {name : String} (hname : st.Painted name) : st'.Painted name := by
  obtain ⟨t, q, ht, hq, hload, htextures, hpasses, hwritten⟩ := addPass_eq h
  have hdeclared : t.name = ps.target := by simpa using List.find?_some ht
  have htexture : ∀ x, st'.plan.texture? x = st.plan.texture? x := fun x => by
    rw [Plan.texture?, htextures, Plan.texture?]
  by_cases hown : name = ps.target
  · subst hown
    have honto : st'.plan.passesOnto ps.target = st.plan.passesOnto ps.target ++ [q] := by
      simp [Plan.passesOnto, hpasses, List.filter_append, hq]
    have hmem : ps.target ∈ st'.written := (hwritten _).2 (.inl rfl)
    cases hname with
    | bare hnone hnot =>
      have hfresh : loadOf st t = (.clear, t.clear) := by simp [loadOf, hdeclared, hnot]
      obtain ⟨hclear, hcolor⟩ := Prod.mk.inj (hload.trans hfresh)
      exact .written t q [] ((htexture _).trans ht) (by rw [honto, hnone, List.nil_append])
        ⟨hclear, hcolor, fun _ h => nomatch h⟩ hmem
    | written t' first later ht' hsome hcleared hold =>
      have hagain : loadOf st t = (.load, {}) := by simp [loadOf, hdeclared, hold]
      obtain ⟨hkeep, hcolor⟩ := Prod.mk.inj (hload.trans hagain)
      exact .written t' first (later ++ [q]) ((htexture _).trans ht') (by rw [honto, hsome, List.cons_append])
        (hcleared.append hkeep hcolor) hmem
  · have honto : st'.plan.passesOnto name = st.plan.passesOnto name := by
      simp [Plan.passesOnto, hpasses, List.filter_append, hq, Ne.symm hown]
    have hsame : name ∈ st'.written ↔ name ∈ st.written := (hwritten name).trans (or_iff_right hown)
    cases hname with
    | bare hnone hnot => exact .bare (honto.trans hnone) (mt hsame.1 hnot)
    | written t' first later ht' hsome hcleared hold =>
      exact .written t' first later ((htexture _).trans ht') (honto.trans hsome) hcleared (hsame.2 hold)

theorem Painting.addPass (ps : Pass) : Painting due (addPass ps) := by
  intro st u st' h
  obtain ⟨_, _, _, _, _, htextures, _, hwritten⟩ := addPass_eq h
  exact ⟨fun name hname => (hwritten name).2 (.inr hname), fun _ ht _ => .inl (htextures ▸ ht),
    fun hst => ⟨htextures ▸ hst.names, fun name => addPass_painted h (hst.painted name)⟩⟩

end PlanM

open PlanM

variable {due : String → Prop} {st st' : PlanState} {u : Unit}

namespace Effect

theorem declareSamplers_painting (inputs : List EffectInput) : Painting due (declareSamplers inputs) := by
  induction inputs with
  | nil => exact .pure _
  | cons i rest ih => exact .bind (.declareSampler _) fun _ => ih

theorem plan_painting (e : Effect) : Painting due e.plan :=
  .bind (declareSamplers_painting _) fun _ => .addPass _

theorem plan_written {e : Effect} (h : Yields e.plan st u st') : e.target ∈ st'.written := by
  obtain ⟨_, _, _, hadd⟩ := (yields_bind _ _ _ _ _).1 h
  exact addPass_written hadd

end Effect

namespace PlanContext

variable (c : PlanContext) (n : Node)

/-! ## Passes of a node -/

theorem upload_painting (i : Image) : Painting due (c.upload n i) := by
  refine .bind (.declareBuffer _) fun _ => .bind (.declareTexture fun hbare => ?_) fun _ => .pure _
  exact absurd hbare (append_ne_empty _ _ (by decide))

theorem imageTexture_painting : Painting due (c.imageTexture n) := by
  unfold imageTexture
  dsimp only
  split
  · exact .bind (.report _) fun _ => c.upload_painting n _
  · split
    · exact c.upload_painting n _
    · exact .throw _
    · exact .throw _

theorem textTexture_painting : Painting due (c.textTexture n) := by
  unfold textTexture
  split
  · exact c.upload_painting n _
  · split
    · exact c.upload_painting n _
    · exact .throw _

theorem sourceTexture_painting (id : String) : Painting due (c.sourceTexture id) := by
  unfold sourceTexture
  split
  · exact .pure _
  · split
    · exact .throw _
    · split
      · exact c.imageTexture_painting _
      · exact c.textTexture_painting _
      · exact .throw _

theorem wiredTexture_painting : Painting due (c.wiredTexture n) := by
  refine .bind (.ofSession _) fun e => .ite (.bind (.throw _) fun _ => ?_) (c.sourceTexture_painting _)
  exact c.sourceTexture_painting _

theorem bindingsFrom_painting (i : Nat) (keys : List String) : Painting due (c.bindingsFrom i keys) := by
  induction keys generalizing i with
  | nil => exact .pure _
  | cons key rest ih =>
    unfold bindingsFrom
    refine .bind .get fun st => ?_
    split
    · exact ih _
    · refine .bind (c.sourceTexture_painting _) fun _ => .bind (.declareSampler _) fun _ => ?_
      exact .bind (ih _) fun _ => .pure _

theorem withGeometry_painting (g : Geometry) (ps : Pass) : Painting due (c.withGeometry g ps) := by
  refine .ite (.pure _) (.bind (.declareBuffer _) fun _ => ?_)
  exact .ite (.pure _) (.bind (.declareBuffer _) fun _ => .pure _)

theorem renderPass_painting (r : Route) : Painting due (c.renderPass n r) := by
  refine .bind (.ofSession _) fun _ => .bind (.ofSession _) fun _ => .bind (.ofExpr _) fun _ => ?_
  refine .bind (c.bindingsFrom_painting _ _) fun _ => .bind (c.withGeometry_painting _ _) fun _ => ?_
  exact .bind .get fun _ => .addPass _

theorem blit_painting (r : Route) : Painting due (c.blit n r) :=
  .bind (c.wiredTexture_painting n) fun _ => .bind (.ofExpr _) fun _ => Effect.plan_painting _

theorem scratch_painting {name : String} (hname : due name) (r : Route) (divisor : Int) :
    Painting due (scratch n name r divisor) := by
  unfold scratch
  split
  · exact .throw _
  · exact .declareTexture fun _ => hname

/-! ## Blurs -/

theorem blurRounds_painting (first second : String) (radius : Code) (rounds i : Nat) (source : String) :
    Painting due (blurRounds n first second radius rounds i source) := by
  induction rounds generalizing i source with
  | zero => exact .pure _
  | succ rounds ih => exact .bind (Effect.plan_painting _) fun _ => .bind (Effect.plan_painting _) fun _ => ih _ _

/-- A round of a blur writes both scratch textures. -/
theorem blurRounds_written {first second source : String} {radius : Code} {rounds i : Nat} (hrounds : 0 < rounds)
    (h : Yields (blurRounds n first second radius rounds i source) st u st') :
    first ∈ st'.written ∧ second ∈ st'.written := by
  cases rounds with
  | zero => exact absurd hrounds (Nat.lt_irrefl 0)
  | succ rounds =>
    unfold blurRounds at h
    simp only [yields_bind] at h
    obtain ⟨_, _, hrow, _, _, hcolumn, hrest⟩ := h
    have hlater := (blurRounds_painting n _ _ _ _ _ _).written hrest
    have hfirst := (Effect.plan_painting _).written hcolumn _ (Effect.plan_written hrow)
    exact ⟨hlater _ hfirst, hlater _ (Effect.plan_written hcolumn)⟩

theorem blur_painting (r : Route) : Painting due (c.blur n r) := by
  intro st u st' h
  let late (name : String) : Prop := due name ∨ name = c.blurFirst n ∨ name = c.blurSecond n
  have hpaints : Paints late st st' := by
    refine PlanM.Painting.bind (c.wiredTexture_painting n) (fun _ => .bind (.ofExpr _) fun _ => ?_) _ _ _ h
    refine .bind (.ofSession _) fun _ => .bind (scratch_painting n (.inr (.inl rfl)) _ _) fun _ => ?_
    refine .bind (scratch_painting n (.inr (.inr rfl)) _ _) fun _ => ?_
    exact .bind (blurRounds_painting n _ _ _ _ _ _) fun _ => Effect.plan_painting _
  unfold blur at h
  simp only [yields_bind] at h
  obtain ⟨_, _, _, _, _, _, _, _, _, _, _, _, _, _, _, _, _, hrounds, hout⟩ := h
  obtain ⟨hfirst, hsecond⟩ := blurRounds_written n (by omega) hrounds
  have hlast := (Effect.plan_painting _).written hout
  refine hpaints.done fun name hname => ?_
  rcases hname with hname | rfl | rfl
  · exact .inl hname
  · exact .inr (hlast _ hfirst)
  · exact .inr (hlast _ hsecond)

/-! ## Blooms -/

theorem planAll_painting (es : List Effect) : Painting due (planAll es) := by
  induction es with
  | nil => exact .pure _
  | cons e rest ih => exact .bind (Effect.plan_painting e) fun _ => ih

theorem planAll_written {es : List Effect} (h : Yields (planAll es) st u st') :
    ∀ e ∈ es, e.target ∈ st'.written := by
  induction es generalizing st with
  | nil => exact fun _ he => nomatch he
  | cons first rest ih =>
    obtain ⟨_, _, hfirst, hrest⟩ := (yields_bind _ _ _ _ _).1 h
    intro e he
    rcases List.mem_cons.1 he with rfl | he
    · exact (planAll_painting rest).written hrest _ (Effect.plan_written hfirst)
    · exact ih hrest e he

theorem bloomLevels_painting {name : String} (r : Route) {levels : List Nat}
    (h : ∀ i ∈ levels, due s!"{name}_bloom_{i}") : Painting due (bloomLevels n name r levels) := by
  induction levels with
  | nil => exact .pure _
  | cons i rest ih =>
    obtain ⟨hi, hrest⟩ := List.forall_mem_cons.1 h
    exact .bind (scratch_painting n hi _ _) fun _ => ih hrest

/-- The first level of a bloom is extracted, and each other one is written on the way down. -/
theorem bloom_painting (r : Route) : Painting due (c.bloom n r) := by
  intro st u st' h
  let late (name : String) : Prop := due name ∨ ∃ i < bloomCount n, name = c.bloomLevel n i
  have hpaints : Paints late st st' := by
    refine PlanM.Painting.bind (c.wiredTexture_painting n) (fun _ => .bind (.ofExpr _) fun _ => ?_) _ _ _ h
    refine .bind (.ofSession _) fun _ => .bind (.ofSession _) fun _ => ?_
    refine .bind (bloomLevels_painting n r fun i hi => .inr ⟨i, List.mem_range.1 hi, rfl⟩) fun _ => ?_
    refine .bind (Effect.plan_painting _) fun _ => .bind (planAll_painting _) fun _ => ?_
    exact .bind (planAll_painting _) fun _ => Effect.plan_painting _
  unfold bloom at h
  simp only [yields_bind] at h
  obtain ⟨_, _, _, _, _, _, _, _, _, _, _, _, _, _, _, _, _, hextract, _, _, hdown, _, _, hup, hcombine⟩ := h
  have hafter := fun name hname =>
    (Effect.plan_painting _).written hcombine name ((planAll_painting _).written hup name hname)
  refine hpaints.done fun name hname => ?_
  rcases hname with hname | ⟨i, hi, rfl⟩
  · exact .inl hname
  · refine .inr ?_
    cases i with
    | zero => exact hafter _ ((planAll_painting _).written hdown _ (Effect.plan_written hextract))
    | succ i =>
      have hstage := planAll_written hdown _ (List.mem_map_of_mem (List.mem_range.2 (Nat.lt_sub_of_add_lt hi)))
      exact hafter _ hstage

/-! ## Turns of nodes -/

theorem markDrawn_painting (id : String) : Painting due (markDrawn id) :=
  .of_same fun st isDrawn st' h => by
    rcases (yields_markDrawn id isDrawn).1 h with ⟨_, _, rfl⟩ | ⟨_, _, rfl⟩ <;> exact ⟨rfl, rfl, rfl⟩

theorem routeOf_painting (id : String) : Painting due (c.routeOf id) :=
  .of_same fun _ r _ h => ((yields_routeOf id r).1 h).2 ▸ ⟨rfl, rfl, rfl⟩

theorem draw_painting : Painting due (c.draw n) := by
  refine .bind (markDrawn_painting _) fun _ => .ite (.pure _) (.bind (c.routeOf_painting _) fun r => ?_)
  split
  · exact c.renderPass_painting n r
  · exact c.blit_painting n r
  · exact c.blur_painting n r
  · exact c.bloom_painting n r
  · exact .throw _

theorem compose_painting (layer : String) (source target : Domain) :
    Painting due (compose layer source n target) := by
  intro st u st' h
  unfold compose at h
  simp only [yields_bind, yields_get, yields_ite, yields_set, PlanM.yields_debug, yields_ofExpr] at h
  obtain ⟨_, st, ⟨rfl, rfl⟩, ⟨_, rfl⟩ | ⟨_, _, _, rfl, _, _, ⟨_, rfl⟩, hplan⟩⟩ := h
  · exact .of_same rfl rfl rfl
  · have hmarked : Paints due st { st with copied := (layer, target.node) :: st.copied } := .of_same rfl rfl rfl
    exact hmarked.trans (Effect.plan_painting _ _ _ _ hplan)

theorem layers_painting {inner : Node → PlanM Unit} (hinner : ∀ n, Painting due (inner n)) (r : Route)
    (ls : List Layer) : Painting due (c.layers inner n r ls) := by
  have hlayer : ∀ l, Painting due (c.layer inner n r l) := by
    intro l
    unfold layer
    split
    · exact .ite (.ite (hinner _) (.ite (c.draw_painting _) (.pure _))) (compose_painting n _ _ _)
    · exact .pure _
  induction ls with
  | nil => exact .pure _
  | cons l rest ih => exact .bind (hlayer l) fun _ => ih

theorem compositeWithin_painting (depth : Nat) : ∀ n, Painting due (c.compositeWithin depth n) := by
  induction depth with
  | zero => exact fun _ => .pure _
  | succ depth ih =>
    intro n
    refine .bind (markDrawn_painting _) fun _ => .ite (.pure _) (.bind (c.routeOf_painting _) fun r => ?_)
    exact c.layers_painting n ih r _

theorem clearUnwritten_painting : Painting due (c.clearUnwritten n) :=
  .bind .get fun _ => .ite (.pure _) (.addPass _)

/-- After its turn a target has been written: by a pass that came before, or by one that clears it. -/
theorem clearUnwritten_written (h : Yields (c.clearUnwritten n) st u st') :
    (Route.domainAt c.routes.textures n.id).texture ∈ st'.written := by
  unfold clearUnwritten at h
  simp only [yields_bind, yields_get, yields_ite, yields_pure, List.contains_iff_mem] at h
  obtain ⟨_, _, ⟨rfl, rfl⟩, ⟨hmem, _, rfl⟩ | ⟨_, hadd⟩⟩ := h
  · exact hmem
  · exact addPass_written hadd

theorem node_painting : Painting due (c.node n) := by
  unfold node
  refine .ite (.ite (.pure _) (c.compositeWithin_painting _ n)) (.ite ?_ (.ite ?_ (.pure _)))
  · split
    · exact .ite (c.draw_painting n) (.pure _)
    · exact .pure _
  · exact c.clearUnwritten_painting n

theorem node_target (htype : isTargetType n.type = true) : c.node n = c.clearUnwritten n := by
  have hcases : n.type = screenType ∨ n.type = "RenderTexture" := by simpa [isTargetType] using htype
  unfold node
  rcases hcases with h | h <;> simp [h, isTargetType, isDrawType, compositeType, screenType]

theorem nodes_painting (ids : List String) : Painting due (c.nodes ids) := by
  induction ids with
  | nil => exact .pure _
  | cons id rest ih =>
    unfold nodes
    cases c.prepared.node? id with
    | none => exact ih
    | some n => exact .bind (c.node_painting n) fun _ => ih

variable {c}

/-- All targets have been written after the turns of the nodes. -/
theorem nodes_written (hr : c.routes.Valid c.prepared) {ids : List String} (h : Yields (c.nodes ids) st u st') :
    ∀ id ∈ ids, ∀ d, c.routes.textures.get? id = some d → d.texture ∈ st'.written := by
  induction ids generalizing st with
  | nil => exact fun _ hid => nomatch hid
  | cons first rest ih =>
    unfold nodes at h
    intro id hid d hd
    obtain ⟨n, hn, htype, -⟩ := (hr.get?_textures id d).1 hd
    obtain ⟨rfl, -⟩ := Prepared.node?_eq_some hn
    split at h
    · rename_i m hm
      obtain ⟨_, mid, hturn, hrest⟩ := (yields_bind _ _ _ _ _).1 h
      rcases List.mem_cons.1 hid with rfl | hid
      · obtain rfl := Option.some.inj (hn.symm.trans hm)
        have hdomain : Route.domainAt c.routes.textures n.id = d := by simp [Route.domainAt, hd]
        rw [node_target c n htype] at hturn
        exact (nodes_painting c rest).written hrest _ (hdomain ▸ clearUnwritten_written c n hturn)
      · exact ih hrest _ hid d hd
    · rename_i hmissing
      rcases List.mem_cons.1 hid with rfl | hid
      · cases hn.symm.trans hmissing
      · exact ih h _ hid d hd

/-! ## Plans -/

/-- The targets of an order are due when they are declared. -/
theorem declareTargets_painting (c : PlanContext) (ids : List String) :
    Painting (fun name => ∃ id ∈ ids, ∃ d, c.routes.textures.get? id = some d ∧ d.texture = name)
      (c.declareTargets ids) := by
  suffices h : ∀ rest, rest ⊆ ids → Painting (fun name => ∃ id ∈ ids, ∃ d, c.routes.textures.get? id = some d ∧
      d.texture = name) (c.declareTargets rest) from h ids (List.Subset.refl _)
  intro rest hrest
  induction rest with
  | nil => exact .pure _
  | cons id rest ih =>
    obtain ⟨hid, hrest⟩ := List.cons_subset.1 hrest
    unfold declareTargets
    cases hd : c.routes.textures.get? id with
    | none => exact ih hrest
    | some d =>
      cases c.prepared.node? id with
      | none => exact ih hrest
      | some n =>
        refine .bind ?_ fun _ => ih hrest
        unfold declareTarget
        split
        · exact .throw _
        · exact .declareTexture fun _ => ⟨id, hid, d, hd, rfl⟩

theorem present_painting (c : PlanContext) : Painting due c.present := by
  intro st u st' h
  unfold present at h
  simp only [yields_ite, yields_bind, yields_pure, yields_modify] at h
  rcases h with ⟨_, _, rfl⟩ | ⟨_, _, mid, htexture, _, _, rfl, hplan⟩
  · exact .refl _
  · let late (name : String) : Prop := due name ∨ name = presentTextureName
    have hdeclared : Paints late st mid := Painting.declareTexture (fun _ => .inr rfl) _ _ _ htexture
    have hshown : Paints late mid { mid with plan := { mid.plan with presentTexture := presentTextureName } } :=
      .of_same rfl rfl rfl
    refine (hdeclared.trans (hshown.trans (Effect.plan_painting _ _ _ _ hplan))).done fun name hname => ?_
    rcases hname with hname | rfl
    · exact .inl hname
    · exact .inr (Effect.plan_written hplan)

theorem declareParams_painting : Painting due declareParams := by
  intro st u st' h
  unfold declareParams at h
  simp only [yields_bind, yields_get, yields_set] at h
  obtain ⟨_, st, ⟨rfl, rfl⟩, _, _, rfl, hbuffer⟩ := h
  have hparams : Paints due st { st with plan := { st.plan with params := paramsOf st.session.params } } :=
    .of_same rfl rfl rfl
  exact hparams.trans (Painting.declareBuffer _ _ _ _ hbuffer)

/-- Building a plan declares no texture that is neither filled nor written. -/
theorem buildAll_paints (hr : c.routes.Valid c.prepared) (h : Yields c.buildAll st u st') :
    Paints (fun _ => False) st st' := by
  unfold buildAll at h
  simp only [yields_bind, yields_get] at h
  obtain ⟨_, _, htargets, _, st₁, hnodes, _, _, hpresent, _, _, hparams, _, _, ⟨rfl, rfl⟩, hreport⟩ := h
  have hdeclared := c.declareTargets_painting _ _ _ _ htargets
  have hlater (due : String → Prop) : Paints due st₁ st' :=
    (present_painting c _ _ _ hpresent).trans
      ((declareParams_painting _ _ _ hparams).trans (Painting.report _ _ _ _ hreport))
  have hall := hdeclared.trans ((c.nodes_painting _ _ _ _ hnodes).trans (hlater _))
  refine hall.done fun name hname => ?_
  obtain ⟨id, hid, d, hd, rfl⟩ := hname
  exact .inr ((hlater fun _ => True).written _ (nodes_written hr hnodes id hid d hd))

/-- The passes onto a texture of a plan that no buffer fills, in order: there is a first one, which clears the texture
to its color, and all later ones load it. -/
theorem build_loads (hr : c.routes.Valid c.prepared) {plan : Plan} (h : c.build.outcome.1 = .ok plan) {t : TextureDecl}
    (ht : t ∈ plan.textures) (hbare : t.upload = "") :
    ∃ first later, plan.passesOnto t.name = first :: later ∧ t.ClearedBy first later := by
  obtain ⟨st, hrun, rfl⟩ := (build_eq_ok c plan).1 h
  have hpaints := buildAll_paints hr hrun
  have hloading : st.Loading := hpaints.loading
    ⟨by simp [emptyPlan], fun name => .bare (by simp [Plan.passesOnto, emptyPlan]) List.not_mem_nil⟩
  have hwritten : t.name ∈ st.written := by
    rcases hpaints.textures t ht hbare with ht | hfalse | hwritten
    · simp [emptyPlan] at ht
    · exact hfalse.elim
    · exact hwritten
  cases hloading.painted t.name with
  | bare _ hnot => exact absurd hwritten hnot
  | written t' first later ht' hpasses hcleared _ =>
    obtain rfl := Option.some.inj ((Plan.texture?_of_mem hloading.names ht).symm.trans ht')
    exact ⟨first, later, hpasses, hcleared⟩

end PlanContext

/-- Of every plan of a scene, with whatever compilers and images: each texture that no buffer fills is the target of
some pass. The first pass onto it clears it to its color, and the later ones load it. -/
theorem Scene.plan_loads {s : Scene} {schema : Schema} {options : PrepareOptions} {p : Prepared} {r : Routes}
    {registry : Registry} {env : Environment} {plan : Plan} (hprepare : (s.prepare schema options).outcome.1 = .ok p)
    (hresolve : p.resolve.outcome.1 = .ok r)
    (hbuild : ({ prepared := p, routes := r, registry, environment := env } : PlanContext).build.outcome.1 = .ok plan) :
    ∀ t ∈ plan.textures, t.upload = "" →
      ∃ first later, plan.passesOnto t.name = first :: later ∧ t.ClearedBy first later := fun _ ht hbare =>
  PlanContext.build_loads (c := { prepared := p, routes := r, registry, environment := env })
    (Prepared.resolve_valid (Scene.prepare_valid hprepare) hresolve) hbuild ht hbare

/-- A texture that a shape is drawn into, a screen that a blur is drawn into, and the scratch textures of the blur. -/
theorem Scene.blurred_loads : ∃ p r plan, (Scene.blurred.prepare Schema.builtin {}).outcome.1 = .ok p ∧
    p.resolve.outcome.1 = .ok r ∧
    ({ prepared := p, routes := r, registry := .builtin, environment := {} } : PlanContext).build.outcome.1 = .ok plan ∧
    ∀ t ∈ plan.textures, t.upload = "" →
      ∃ first later, plan.passesOnto t.name = first :: later ∧ t.ClearedBy first later := by
  obtain ⟨⟨p, r, plan⟩, hsome⟩ := Option.isSome_iff_exists.1 Scene.blurred_planned
  have hplanned := (Scene.planned?_eq_some _ _ _ _ _ _ _).1 hsome
  exact ⟨p, r, plan, hplanned.prepare, hplanned.resolve, hplanned.build,
    Scene.plan_loads hplanned.prepare hplanned.resolve hplanned.build⟩

end SceneGraph
