import SceneGraph.Proofs.Prepared
import SceneGraph.Proofs.Scripts
import SceneGraph.Proofs.TypedCode

/-!
# Compiling outputs terminates

Preparation orders the nodes, so the sources of a node are below it, also where ids are repeated or sources are
missing. Compiling an output goes from a node to its sources: it ends before the bound on its depth is reached, and
never comes back to an output that is being compiled. What it remembers stays.

* `Graph.level`: the place of an id in the order; connections raise it.
* `ExprContext.depth`: how deep the outputs below one are nested at most.
* `ExprContext.compileWithin_eq`: a greater bound on the depth changes nothing.
* `ExprContext.Later`: one session is another one after some calls.
* `ExprContext.compile_terminates`: no cycle, nothing in progress afterwards, and the same expression ever after.
-/
set_option autoImplicit false

namespace SceneGraph

/-! ## Levels -/

namespace Graph

variable {s : Scene} {order : List String}

/-- The place of an id in the order in which nodes are taken. Of nodes with one id the last one counts. -/
def level (s : Scene) (id : String) : Nat :=
  match position? s.nodeIds id with
  | some i => (drain (List.range s.nodes.length) (edges s)).1.idxOf i
  | none => 0

theorem level_lt (h : topologicalOrder s = .ok order) {c : Connection} (hc : c ∈ s.connections)
    (hsource : c.source.node ∈ s.nodeIds) (htarget : c.target.node ∈ s.nodeIds) :
    level s c.source.node < level s c.target.node := by
  obtain ⟨i, hi⟩ := position?_isSome _ _ hsource
  obtain ⟨j, hj⟩ := position?_isSome _ _ htarget
  have hrange : ∀ {id : String} {k : Nat}, position? s.nodeIds id = some k → k ∈ List.range s.nodes.length := by
    intro id k hk
    obtain ⟨hlt, -⟩ := List.getElem?_eq_some_iff.1 (getElem?_of_position? _ _ _ hk)
    simpa [Scene.nodeIds] using hlt
  have hedge : (i, j) ∈ edges s := List.mem_filterMap.2 ⟨c, hc, by simp only [hi, hj]⟩
  have htaken : j ∈ (drain (List.range s.nodes.length) (edges s)).1 :=
    (topologicalOrder_eq_ok h).2.mem_iff.2 (hrange hj)
  simpa only [level, hi, hj] using drain_edge _ _ i j hedge (hrange hi) htaken

end Graph

/-! ## Depth -/

namespace ExprContext

variable {c : ExprContext} {order : List String}

/-- How deep the outputs below one are nested at most: every step down uses up a connection. The output of a missing
node has none below it. -/
def depth (c : ExprContext) (id : String) : Nat :=
  let s := c.prepared.scene
  if id ∈ s.nodeIds then (s.connections.filter fun w => Graph.level s w.target.node ≤ Graph.level s id).length + 1
  else 1

theorem depth_pos (c : ExprContext) (id : String) : 0 < c.depth id := by
  unfold depth
  dsimp only
  split <;> omega

theorem depth_lt_depthLimit (c : ExprContext) (id : String) : c.depth id < c.depthLimit := by
  have hfilter := List.length_filter_le
    (fun w => decide (Graph.level c.prepared.scene w.target.node ≤ Graph.level c.prepared.scene id))
    c.prepared.scene.connections
  unfold depth depthLimit
  dsimp only
  split <;> omega

/-- The sources of a node are less deep than the node. -/
theorem depth_source (h : Graph.topologicalOrder c.prepared.scene = .ok order) {w : Connection}
    (hw : w ∈ c.prepared.scene.connections) (htarget : w.target.node ∈ c.prepared.scene.nodeIds) :
    c.depth w.source.node < c.depth w.target.node := by
  set s := c.prepared.scene with hs
  have hmem : w ∈ s.connections.filter fun v => Graph.level s v.target.node ≤ Graph.level s w.target.node :=
    List.mem_filter.2 ⟨hw, by simp⟩
  unfold depth
  rw [← hs]
  simp only [if_pos htarget]
  split
  · rename_i hsource
    have hlevel := Graph.level_lt h hw hsource htarget
    -- The connection itself leads to a level above its source.
    have hstrict : (s.connections.filter fun v => Graph.level s v.target.node ≤ Graph.level s w.source.node).length <
        (s.connections.filter fun v => Graph.level s v.target.node ≤ Graph.level s w.target.node).length := by
      have hbelow : (s.connections.filter fun v => Graph.level s v.target.node ≤ Graph.level s w.source.node) =
          (s.connections.filter fun v => Graph.level s v.target.node ≤ Graph.level s w.target.node).filter fun v =>
            Graph.level s v.target.node ≤ Graph.level s w.source.node := by
        rw [List.filter_filter]
        refine List.filter_congr fun v _ => ?_
        rw [Bool.eq_iff_iff]
        simp only [Bool.and_eq_true, decide_eq_true_eq]
        omega
      rw [hbelow]
      exact List.length_filter_lt_length_iff_exists.2 ⟨w, hmem, by simpa using hlevel⟩
    omega
  · have hpos := List.length_pos_of_mem hmem
    omega

theorem mem_nodeIds {e : Endpoint} {n : Node} {k : NodeCompiler} (h : c.compilerOf e = .ok (n, k)) :
    n.id = e.node ∧ e.node ∈ c.prepared.scene.nodeIds := by
  obtain ⟨hn, -⟩ := compilerOf_eq_ok h
  exact ⟨(Prepared.node?_eq_some hn).1, Scene.indexed?_isSome.1 ⟨n, hn⟩⟩

theorem compilerOf_ne_cycle {e : Endpoint} {err : ExprError} (h : c.compilerOf e = .error err) (cycle : CycleError) :
    err ≠ .cycle cycle := by
  unfold compilerOf at h
  split at h
  · cases h
    exact nofun
  · split at h
    · cases h
      exact nofun
    · cases h

/-- A bound on the depth that is greater than the depth makes no difference. -/
theorem compileWithin_eq (h : Graph.topologicalOrder c.prepared.scene = .ok order) {fuel fuel' : Nat} {e : Endpoint}
    (hfuel : c.depth e.node ≤ fuel) (hfuel' : c.depth e.node ≤ fuel') :
    c.compileWithin fuel e = c.compileWithin fuel' e := by
  have hpos := c.depth_pos e.node
  induction fuel generalizing fuel' e with
  | zero => omega
  | succ fuel ih =>
    obtain ⟨fuel', rfl⟩ : ∃ f, fuel' = f + 1 := ⟨fuel' - 1, by omega⟩
    refine ExceptT.ext (StateT.ext fun s => ?_)
    rw [run_compileWithin, run_compileWithin]
    cases hcompiler : c.compilerOf e with
    | error err => rfl
    | ok found =>
      obtain ⟨n, k⟩ := found
      obtain ⟨hid, hmem⟩ := mem_nodeIds hcompiler
      -- The compiler of the node compiles outputs that are less deep.
      have hsources : ∀ w ∈ c.prepared.scene.connections, w.target.node = n.id →
          c.compileWithin fuel w.source = c.compileWithin fuel' w.source := by
        intro w hw htarget
        have hdepth := depth_source h hw (by rw [htarget, hid]; exact hmem)
        rw [htarget, hid] at hdepth
        exact ih (by omega) (by omega) (c.depth_pos _)
      have hrun := (k.run_script c.prepared c.accepts n e.port fun _ => True).congr hsources
      dsimp only at hrun ⊢
      rw [hrun]

/-! ## Runs -/

/-- What a run leaves alone that has some outputs in progress: what is remembered stays, and nothing is remembered of
the outputs in progress. -/
def progressing (active : List Endpoint) : Law where
  Inv s := s.active = active
  Rel s t := (∀ e x, s.compiled? e = some x → t.compiled? e = some x) ∧ ∀ e ∈ active, t.compiled? e = s.compiled? e
  Fine _ := True
  Fails err := ∀ cycle, err ≠ .cycle cycle
  refl s := ⟨fun _ _ h => h, fun _ _ => rfl⟩
  trans h h' := ⟨fun e x hx => h'.1 e x (h.1 e x hx), fun e he => (h'.2 e he).trans (h.2 e he)⟩
  fine _ _ := trivial
  quiet {s t} hs h := by
    have hsame : ∀ e, t.compiled? e = s.compiled? e := fun e => by rw [Session.compiled?, h.memo]; rfl
    exact ⟨h.active.trans hs, fun e x hx => (hsame e).trans hx, fun e _ => hsame e⟩

theorem constant_progresses {active : List Endpoint} (node param : String) (values : List Float) (t : ValueType) :
    SessionM.Obeys (progressing active) (SessionM.constant node param values t) fun x =>
      x.type = t ∧ x.code.ReadsIn fun _ => True := by
  intro s hs
  have hmemo := s.store_memo ⟨node, param⟩ values
  have hactive : (s.store ⟨node, param⟩ values).2.active = s.active := by
    unfold Session.store
    split <;> rfl
  have hsame : ∀ e, (s.store ⟨node, param⟩ values).2.compiled? e = s.compiled? e := fun e => by
    rw [Session.compiled?, hmemo]
    rfl
  exact ⟨hactive.trans hs, ⟨fun e x hx => (hsame e).trans hx, fun e _ => hsame e⟩, fun _ => ⟨rfl, fun _ _ => trivial⟩⟩

/-- The outputs in progress are of existing nodes above an output. -/
def Above (c : ExprContext) (e : Endpoint) (active : List Endpoint) : Prop :=
  ∀ a ∈ active, a.node ∈ c.prepared.scene.nodeIds ∧ (e.node ∈ c.prepared.scene.nodeIds →
    Graph.level c.prepared.scene e.node < Graph.level c.prepared.scene a.node)

/-- While the inputs of an output are compiled, the output itself is in progress above them. -/
theorem Above.source (h : Graph.topologicalOrder c.prepared.scene = .ok order) {w : Connection}
    (hw : w ∈ c.prepared.scene.connections) {e : Endpoint} (htarget : w.target.node = e.node)
    (hmem : e.node ∈ c.prepared.scene.nodeIds) {active : List Endpoint} (habove : c.Above e active) :
    c.Above w.source (e :: active) := by
  have hlevel : w.source.node ∈ c.prepared.scene.nodeIds →
      Graph.level c.prepared.scene w.source.node < Graph.level c.prepared.scene e.node := fun hsource =>
    htarget ▸ Graph.level_lt h hw hsource (htarget ▸ hmem)
  intro a ha
  rcases List.mem_cons.1 ha with rfl | ha
  · exact ⟨hmem, hlevel⟩
  · exact ⟨(habove a ha).1, fun hsource => (hlevel hsource).trans ((habove a ha).2 hmem)⟩

/-- An output that was neither compiled nor in progress can be remembered after its compilation. -/
theorem progressing_remember {s t : Session} {e : Endpoint} {active : List Endpoint} (hmemo : s.compiled? e = none)
    (hfree : e ∉ active) (h : (progressing (e :: active)).Rel (s.enter e) t) (x : ShaderExpr) :
    (progressing active).Rel s ((t.leave e).remember e x) := by
  obtain ⟨hkept, hactive⟩ := h
  refine ⟨fun a y hy => ?_, fun a ha => ?_⟩
  · rw [Session.compiled?_remember, if_neg]
    · exact hkept a y hy
    · rintro rfl
      rw [hmemo] at hy
      cases hy
  · rw [Session.compiled?_remember, if_neg]
    · exact hactive a (List.mem_cons_of_mem e ha)
    · rintro rfl
      exact hfree ha

theorem compileWithin_progresses (h : Graph.topologicalOrder c.prepared.scene = .ok order) {fuel : Nat} {e : Endpoint}
    (hfuel : c.depth e.node ≤ fuel) {active : List Endpoint} (habove : c.Above e active) :
    SessionM.Obeys (progressing active) (c.compileWithin fuel e) fun x => x.code.ReadsIn fun _ => True := by
  have hpos := c.depth_pos e.node
  have hreads : ∀ x : ShaderExpr, x.code.ReadsIn fun _ => True := fun _ _ _ => trivial
  induction fuel generalizing e active with
  | zero => omega
  | succ fuel ih =>
    intro s hs
    rw [run_compileWithin]
    cases hmemo : s.compiled? e with
    | some x => exact ⟨hs, (progressing active).refl s, fun _ => hreads x⟩
    | none =>
      dsimp only
      split
      · -- The output is not above itself.
        rename_i hactive
        obtain ⟨hmem, hlevel⟩ := habove e (hs ▸ List.contains_iff_mem.1 hactive)
        exact absurd (hlevel hmem) (Nat.lt_irrefl _)
      rename_i hfree
      have hfree : e ∉ active := fun hmem => hfree (List.contains_iff_mem.2 (hs.symm ▸ hmem))
      cases hcompiler : c.compilerOf e with
      | error err =>
        exact ⟨hs, (progressing active).refl s, compilerOf_ne_cycle hcompiler⟩
      | ok found =>
        obtain ⟨n, k⟩ := found
        obtain ⟨hid, hmem⟩ := mem_nodeIds hcompiler
        have hinputs : ∀ w ∈ c.prepared.scene.connections, w.target.node = n.id → w.target.port ∈ k.reads n →
            SessionM.Obeys (progressing (e :: active)) (c.compileWithin fuel w.source) fun x =>
              x.code.ReadsIn fun _ => True := by
          intro w hw htarget _
          have htarget : w.target.node = e.node := htarget.trans hid
          have hdepth := depth_source h hw (htarget ▸ hmem)
          rw [htarget] at hdepth
          exact ih (by omega) (habove.source h hw htarget hmem) (c.depth_pos _)
        have hrun := (k.run_script c.prepared c.accepts n e.port fun _ => True).obeys hinputs
          (fun param values t _ => constant_progresses n.id param values t) (by rintro _ (_ | _) cycle <;> exact nofun)
        obtain ⟨hinv, hrel, hout⟩ := hrun (s.enter e) (by rw [← hs]; rfl)
        dsimp only
        generalize (k.run ⟨c.prepared, c.compileWithin fuel, c.accepts⟩ n e.port).run.run (s.enter e) = out
          at hinv hrel hout
        obtain ⟨r, t⟩ := out
        have hleft : (t.leave e).active = active := by
          change t.active.erase e = active
          rw [show t.active = e :: active from hinv, List.erase_cons_head]
        cases r with
        | error err => exact ⟨hleft, ⟨hrel.1, fun a ha => hrel.2 a (List.mem_cons_of_mem e ha)⟩, hout⟩
        | ok x => exact ⟨hleft, progressing_remember hmemo hfree hrel x, fun _ => hreads x⟩

/-! ## Calls -/

/-- A call on a session: an output is compiled, with or without success, or a constant is stored. -/
inductive Call (c : ExprContext) : Session → Session → Prop where
  | compile (s : Session) (e : Endpoint) : Call c s ((c.compile e).run.run s).2
  | store (s : Session) (key : SlotKey) (values : List Float) : Call c s (s.store key values).2

/-- A session after some calls. -/
def Later (c : ExprContext) : Session → Session → Prop := Relation.ReflTransGen c.Call

theorem compile_progresses (h : Graph.topologicalOrder c.prepared.scene = .ok order) (e : Endpoint) :
    SessionM.Obeys (progressing []) (c.compile e) fun x => x.code.ReadsIn fun _ => True :=
  compileWithin_progresses h (Nat.le_of_lt (c.depth_lt_depthLimit e.node)) nofun

/-- No call leaves an output in progress or forgets an expression. -/
theorem Later.progresses (h : Graph.topologicalOrder c.prepared.scene = .ok order) {s t : Session} (hst : c.Later s t)
    (hs : s.active = []) : t.active = [] ∧ ∀ e x, s.compiled? e = some x → t.compiled? e = some x := by
  induction hst with
  | refl => exact ⟨hs, fun _ _ hx => hx⟩
  | tail _ hcall ih =>
    obtain ⟨hactive, hkept⟩ := ih
    cases hcall with
    | compile e =>
      obtain ⟨hidle, hrel, -⟩ := compile_progresses h e _ hactive
      exact ⟨hidle, fun a x hx => hrel.1 a x (hkept a x hx)⟩
    | store key values =>
      obtain ⟨hidle, hrel, -⟩ := constant_progresses key.node key.param values .float _ hactive
      exact ⟨hidle, fun a x hx => hrel.1 a x (hkept a x hx)⟩

theorem compile_remembered {s : Session} {e : Endpoint} {x : ShaderExpr} (h : s.compiled? e = some x) :
    (c.compile e).run.run s = (.ok x, s) := by
  unfold compile depthLimit
  rw [run_compileWithin, h]

theorem compiled?_of_ok {s : Session} {e : Endpoint} {x : ShaderExpr} (h : ((c.compile e).run.run s).1 = .ok x) :
    ((c.compile e).run.run s).2.compiled? e = some x := by
  unfold compile depthLimit at h ⊢
  rw [run_compileWithin] at h ⊢
  split at h
  · rename_i y hy
    cases h
    exact hy
  · split at h
    · cases h
    · rename_i hfree
      rw [if_neg hfree]
      split at h
      · cases h
      · split at h
        · cases h
        · cases h
          exact (Session.compiled?_remember _ e e x).trans (if_pos rfl)

/-- On a prepared scene every call comes to an end before the bound on the depth is reached, without finding a cycle,
and leaves no output in progress. An output that was compiled has the same expression in all later calls, which change
nothing. -/
theorem compile_terminates {scene : Scene} {schema : Schema} {options : PrepareOptions} {p : Prepared}
    (hp : (scene.prepare schema options).outcome.1 = .ok p) (registry : Registry)
    (accepts : String → Bool) {s : Session} (hs : ExprContext.Later ⟨p, registry, accepts⟩ {} s) (e : Endpoint) :
    (∀ fuel, ExprContext.depthLimit ⟨p, registry, accepts⟩ ≤ fuel →
      ExprContext.compileWithin ⟨p, registry, accepts⟩ fuel e = ExprContext.compile ⟨p, registry, accepts⟩ e) ∧
    (∀ cycle, ((ExprContext.compile ⟨p, registry, accepts⟩ e).run.run s).1 ≠ .error (.cycle cycle)) ∧
    ((ExprContext.compile ⟨p, registry, accepts⟩ e).run.run s).2.active = [] ∧
    ∀ x t, Yields (ExprContext.compile ⟨p, registry, accepts⟩ e) s x t →
      ∀ u, ExprContext.Later ⟨p, registry, accepts⟩ t u →
        Yields (ExprContext.compile ⟨p, registry, accepts⟩ e) u x u := by
  have horder := (Scene.prepare_valid hp).order
  set c : ExprContext := ⟨p, registry, accepts⟩ with hc
  have hdepth := c.depth_lt_depthLimit e.node
  obtain ⟨hidle, -⟩ := hs.progresses (c := c) horder rfl
  obtain ⟨hafter, -, hout⟩ := compile_progresses (c := c) horder e s hidle
  refine ⟨fun fuel hfuel => compileWithin_eq horder (by omega) (by omega), fun cycle herror => ?_, hafter, ?_⟩
  · rw [herror] at hout
    exact hout cycle rfl
  · intro x t hx u hu
    unfold Yields at hx
    have hcompiled := compiled?_of_ok (congrArg Prod.fst hx)
    rw [hx] at hcompiled hafter
    exact compile_remembered ((hu.progresses horder hafter).2 e x hcompiled)

end ExprContext

/-- The color of the striped pass, compiled after an attempt that failed: it is the same after further calls. -/
theorem Scene.striped_terminates : ∃ (scene : Scene) (p : Prepared) (s t : Session) (x : ShaderExpr),
    (scene.prepare Schema.builtin {}).outcome.1 = .ok p ∧ ExprContext.Later { prepared := p } {} s ∧
      Yields (ExprContext.compile { prepared := p } ⟨"choice", "value"⟩) s x t ∧ t.active = [] ∧
      ∀ u, ExprContext.Later { prepared := p } t u →
        Yields (ExprContext.compile { prepared := p } ⟨"choice", "value"⟩) u x u := by
  obtain ⟨scene, -, hscene⟩ := (Option.any_eq_true _ _).1 striped_checks
  obtain ⟨p, hp, hx⟩ := (Option.any_eq_true _ _).1 hscene
  obtain ⟨x, hx, -⟩ := (Option.any_eq_true _ _).1 hx
  have hp := eq_ok_of_toOption hp
  have hyields := yields_run (eq_ok_of_toOption hx)
  have hlater : ExprContext.Later { prepared := p } {} _ := .single (.compile {} ⟨"ghost", "value"⟩)
  obtain ⟨-, -, hidle, hsame⟩ := ExprContext.compile_terminates hp Registry.builtin Wgsl.accepts hlater
    ⟨"choice", "value"⟩
  exact ⟨scene, p, _, _, x, hp, hlater, hyields, hidle, hsame x _ hyields⟩

end SceneGraph
