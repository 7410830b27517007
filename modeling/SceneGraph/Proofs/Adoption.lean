import SceneGraph.Proofs.Built
import SceneGraph.Proofs.Dangling
import SceneGraph.Proofs.Queued

/-!
# Compiled and adopted scenes

A scene can be compiled as it is, or be sent to an engine and compiled in a step. The engine keeps connections
by their ids, which nothing has checked. So both ways lead to one plan where the ids of the connections are
distinct, and where they are not, the engine compiles a scene that has lost some of them.

* `Cache.contents_prune_replace`: what a cache keeps of a structurally sound scene.
* `Engine.step_adopts`: a step adopts a queued scene that compiles.
* `Compiler.adopts_compiled`: a new engine adopts a scene with the plan that compiling it gives.
-/
set_option autoImplicit false

namespace SceneGraph

/-- A cache keeps all of a structurally sound scene but for connections whose id comes again. -/
theorem Cache.contents_prune_replace (c : Cache) {s : Scene} (h : s.checkStructure = .ok ()) :
    (c.replace s).prune.contents = { s with connections := Live.once Connection.id s.connections } := by
  obtain ⟨hdistinct, hjoined, -⟩ := Scene.checkStructure_eq_ok h
  have hcontents : (c.replace s).contents = { s with connections := Live.once Connection.id s.connections } := by
    rw [replace, contentsOf_eq, (Live.once_eq_self_iff Node.id s.nodes).2 hdistinct]
  have hdangling : (c.replace s).dangling = [] := by
    -- What is kept stood in the scene, so it joins nodes still.
    rw [dangling_eq_nil_iff, hcontents]
    exact fun x hx => (isAttached_iff _ x).2 (hjoined x (Live.mem_of_mem_once hx))
  rw [prune_of_dangling_eq_nil hdangling, hcontents]

theorem Engine.step_adopts {ε ρ : Type} {b : Backend ε ρ} {e : Engine ρ} {s : Scene} {r : ρ}
    (hqueued : e.queue.pending = some s) (hcompiled : (b.compile s).1 = .ok r) :
    (e.step b).1 = some { active := r, source := .fresh, rebuild := e.needsRebuild b r } := by
  simp only [step, Slot.poll, hqueued, compile, hcompiled]
  rfl

theorem Engine.step_of_pending {ε ρ : Type} (b : Backend ε ρ) {e : Engine ρ} {s : Scene}
    (hqueued : e.queue.pending = some s) : ∃ out, (e.step b).1 = some out := by
  simp only [step, Slot.poll, hqueued]
  exact ⟨_, rfl⟩

/-- A scene that compiles can be sent to a new engine, which queues it with all its nodes and compiles what it queued
in the next step. Of the connections it keeps one for each id, so it queues the scene as it is exactly when their
ids are distinct; then the step adopts the scene with the plan that compiling it gives. -/
theorem Compiler.adopts_compiled {c : Compiler} {s : Scene} {r : Compiled} (h : (c.compile s).outcome.1 = .ok r) :
    ∃ e log q out, ({} : Engine Picture).submitScene? s = some (e, log) ∧ e.queue.pending = some q ∧
      (e.step c.backend).1 = some out ∧
      q = { s with connections := Live.once Connection.id s.connections } ∧
      (q = s ↔ (s.connections.map Connection.id).Nodup) ∧
      (∀ r', (c.compile q).outcome.1 = .ok r' →
        out.source = .fresh ∧ out.failure = none ∧ out.active.plan = r'.plan) ∧
      ((s.connections.map Connection.id).Nodup →
        out.source = .fresh ∧ out.failure = none ∧ out.active.plan = r.plan) := by
  obtain ⟨e, log, hsubmit, hpending⟩ : ∃ e log, ({} : Engine Picture).submitScene? s = some (e, log) ∧
      e.queue.pending = some (({} : Cache).replace s).prune.contents := ⟨_, _, rfl, rfl⟩
  rw [Cache.contents_prune_replace {} (checkStructure_of_compile h)] at hpending
  have hsame : { s with connections := Live.once Connection.id s.connections } = s ↔
      (s.connections.map Connection.id).Nodup := by
    rw [← Live.once_eq_self_iff]
    constructor
    · intro heq
      exact congrArg Scene.connections heq
    · intro heq
      rw [heq]
  obtain ⟨out, hout⟩ := Engine.step_of_pending c.backend hpending
  have hfresh : ∀ r', (c.compile { s with connections := Live.once Connection.id s.connections }).outcome.1 = .ok r' →
      out.source = .fresh ∧ out.failure = none ∧ out.active.plan = r'.plan := by
    intro r' hr'
    have hcompiled := congrArg (Except.map Picture.ofCompiled) hr'
    cases hout.symm.trans (Engine.step_adopts hpending hcompiled)
    exact ⟨rfl, rfl, rfl⟩
  refine ⟨e, log, _, out, hsubmit, hpending, hout, rfl, hsame, hfresh, fun hdistinct => ?_⟩
  -- Nothing was lost, so the step compiles the scene itself.
  exact hfresh r ((hsame.2 hdistinct).symm ▸ h)

/-- A color that fills the screen, with the ids of its two connections. -/
def Scene.filled (first second : String) : Scene where
  nodes := [{ id := "screen", type := "Screen" }, { id := "tint", type := "Color" },
    { id := "rp", type := "RenderPass" }]
  connections := [{ id := first, source := ⟨"tint", "color"⟩, target := ⟨"rp", "color"⟩ },
    { id := second, source := ⟨"rp", "pass"⟩, target := ⟨"screen", "pass"⟩ }]
  outputs := [("main", "screen")]

theorem Scene.filled_checks : (({} : Compiler).compile (.filled "c0" "c1")).outcome.1.toOption.any
    (fun r => decide (r.plan.params.length = 20)) = true := by
  rw [Schema.builtin_eq, Registry.builtin_eq]
  decide +kernel

theorem Scene.filled_adopted : ∃ r e log out, (({} : Compiler).compile (.filled "c0" "c1")).outcome.1 = .ok r ∧
    ({} : Engine Picture).submitScene? (.filled "c0" "c1") = some (e, log) ∧
    (e.step ({} : Compiler).backend).1 = some out ∧ ((Scene.filled "c0" "c1").connections.map Connection.id).Nodup ∧
    out.source = .fresh ∧ out.failure = none ∧ out.active.plan = r.plan ∧ r.plan.params.length = 20 := by
  obtain ⟨r, hr, hparams⟩ := Option.any_eq_true _ _ |>.1 Scene.filled_checks
  have hr := eq_ok_of_toOption hr
  have hdistinct : ((Scene.filled "c0" "c1").connections.map Connection.id).Nodup := by decide
  obtain ⟨e, log, _, out, hsubmit, -, hout, -, -, -, hsame⟩ := Compiler.adopts_compiled hr
  obtain ⟨hsource, hfailure, hplan⟩ := hsame hdistinct
  exact ⟨r, e, log, out, hr, hsubmit, hout, hdistinct, hsource, hfailure, hplan, of_decide_eq_true hparams⟩

theorem Scene.unnamed_checks : (({} : Compiler).compile (.filled "" "")).outcome.1.toOption.any (fun r =>
    (({} : Engine Picture).submitScene? (.filled "" "")).any fun sent =>
      (sent.1.step ({} : Compiler).backend).1.any fun out =>
        decide (r.plan.params.length = 20) && decide (out.active.plan.params.length = 16) &&
          decide (out.source = .fresh) &&
            sent.1.queue.pending.any fun q => decide (q.connections.length = 1)) = true := by
  rw [Schema.builtin_eq, Registry.builtin_eq]
  decide +kernel

/-- Where the connections have no ids, an engine queues one of the two and adopts the scene with another plan. -/
theorem Scene.unnamed_fades : ∃ r e log q out, (({} : Compiler).compile (.filled "" "")).outcome.1 = .ok r ∧
    ({} : Engine Picture).submitScene? (.filled "" "") = some (e, log) ∧ e.queue.pending = some q ∧
    (Scene.filled "" "").connections.length = 2 ∧ q.connections.length = 1 ∧
    (e.step ({} : Compiler).backend).1 = some out ∧ out.source = .fresh ∧ out.active.plan ≠ r.plan := by
  obtain ⟨r, hr, hchecks⟩ := Option.any_eq_true _ _ |>.1 Scene.unnamed_checks
  obtain ⟨⟨e, log⟩, hsubmit, hchecks⟩ := Option.any_eq_true _ _ |>.1 hchecks
  obtain ⟨out, hout, hchecks⟩ := Option.any_eq_true _ _ |>.1 hchecks
  simp only [Bool.and_eq_true, decide_eq_true_eq] at hchecks
  obtain ⟨⟨⟨hdirect, hlive⟩, hsource⟩, hchecks⟩ := hchecks
  obtain ⟨q, hq, hlost⟩ := Option.any_eq_true _ _ |>.1 hchecks
  refine ⟨r, e, log, q, out, eq_ok_of_toOption hr, hsubmit, hq, rfl, of_decide_eq_true hlost, hout, hsource, ?_⟩
  intro hplan
  rw [hplan, hdirect] at hlive
  cases hlive

end SceneGraph
