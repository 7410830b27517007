import SceneGraph.Compile
import SceneGraph.Proofs.TypedCompilers

/-!
# Compiled code has its type

Compiling an output, after any attempts before, makes code of the type that it declares. The shading
language accepts it unless it chooses between matrices.

* `ExprContext.compile_keeps`: compiling an output makes typed code, and keeps the session typed where it fails.
* `ExprContext.Arises`: a session of attempts, failed ones included.
* `ExprContext.compile_typed`: the statement above.
* `Scene.forked`: a scene whose code chooses between matrices.
-/
set_option autoImplicit false

namespace SceneGraph

open SessionM

namespace ExprContext

variable {accepts : String → Bool}

theorem compileWithin_types {p : Prepared} (hp : p.Valid) (fuel : Nat) :
    NodeContext.Types ⟨p, ({ prepared := p, accepts } : ExprContext).compileWithin fuel, accepts⟩ := by
  induction fuel with
  | zero => exact fun e s => .throw
  | succ fuel ih =>
    intro e s
    simp only [compileWithin]
    refine .bind .get fun _ _ _ h => ?_
    obtain ⟨rfl, rfl⟩ := h
    split
    · -- remembered code is typed by assumption
      rename_i x hx
      obtain ⟨m, hm, rfl⟩ := Option.map_eq_some_iff.1 hx
      exact .of_typed fun hs => .pure (hs.memo m (List.mem_of_find?_eq_some hm))
    · refine .refuse fun _ => .bind .result fun r t _ h => ?_
      obtain ⟨n, k⟩ := r
      obtain ⟨rfl, hcompiler⟩ := h
      obtain ⟨hn, hk⟩ := compilerOf_eq_ok hcompiler
      refine .bind (.modify ⟨List.prefix_rfl, List.prefix_rfl⟩ fun hs => ⟨hs.memo, hs.helpers⟩) fun _ u _ _ => ?_
      have hrun := k.run_keeps ih hp (Prepared.node?_self hn) (Registry.builtin_suits hk) e.port u
      -- where the attempt fails, what it has compiled on the way stays in the session
      refine .bind hrun.attempt fun r v _ hr => ?_
      refine .bind (.modify ⟨List.prefix_rfl, List.prefix_rfl⟩ fun hs => ⟨hs.memo, hs.helpers⟩) fun _ w _ hw => ?_
      subst hw
      cases r with
      | error err => exact .throw
      | ok x =>
        have hx : x.Typed accepts (v.leave e) := hr x rfl
        refine .bind (.modify ⟨List.prefix_rfl, List.prefix_rfl⟩ fun hs => hs.remember e hx) fun _ y _ hy => .pure ?_
        subst hy
        exact hx

theorem compile_keeps {p : Prepared} (hp : p.Valid) (e : Endpoint) (s : Session) :
    Keeps accepts p (({ prepared := p, accepts } : ExprContext).compile e) s fun x t => x.Typed accepts t :=
  compileWithin_types hp _ e s

/-- The sessions of a context: outputs have been compiled, with or without success, constants stored and
entries reported. -/
inductive Arises (c : ExprContext) : Session → Prop where
  | start : Arises c {}
  | compile {s : Session} (h : Arises c s) (e : Endpoint) : Arises c ((c.compile e).run.run s).2
  | store {s : Session} (h : Arises c s) (key : SlotKey) (values : List Float) : Arises c (s.store key values).2
  | report {s : Session} (h : Arises c s) (entry : LogEntry) : Arises c (s.report entry)

theorem Arises.typed {p : Prepared} (hp : p.Valid) {s : Session}
    (h : ({ prepared := p, accepts } : ExprContext).Arises s) : s.Typed accepts p := by
  induction h with
  | start => exact .empty accepts p
  | compile _ e ih => exact (compile_keeps hp e _ ih).1
  | store _ key values ih => exact ih.store key values
  | report _ entry ih => exact ⟨ih.memo, ih.helpers⟩

/-- Compiled code has its type under the rules with choices between matrices, and under the rules of the shading
language exactly where it does not make such a choice. -/
theorem compile_typed {scene : Scene} {schema : Schema} {options : PrepareOptions} {p : Prepared}
    (hp : (scene.prepare schema options).outcome.1 = .ok p) {s t : Session} {e : Endpoint} {x : ShaderExpr}
    (hs : ({ prepared := p, accepts } : ExprContext).Arises s)
    (h : Yields (({ prepared := p, accepts } : ExprContext).compile e) s x t) (hx : x.type ≠ .texture) :
    x.code.HasType true (t.scope accepts) x.type ∧
      (x.code.HasType false (t.scope accepts) x.type ↔ x.code.choosesMatrix = false) := by
  have hvalid := Scene.prepare_valid hp
  obtain ⟨_, _, hresult⟩ := compile_keeps hvalid e s (hs.typed hvalid)
  unfold Yields at h
  rw [h] at hresult
  have hcode := hresult x rfl hx
  exact ⟨hcode, Code.hasType_false_iff.trans (and_iff_right hcode)⟩

end ExprContext

/-- A pass whose color is that of a text or gray, by the number of the instance. -/
def Scene.striped : Scene where
  nodes := [{ id := "screen", type := "Screen" }, { id := "rp", type := "RenderPass" },
    { id := "index", type := "InstanceIndex" }, { id := "limit", type := "Int" }, { id := "early", type := "Compare" },
    { id := "text", type := "Text" }, { id := "choice", type := "Select" }]
  connections := [{ id := "c0", source := ⟨"index", "index"⟩, target := ⟨"early", "a"⟩ },
    { id := "c1", source := ⟨"limit", "value"⟩, target := ⟨"early", "b"⟩ },
    { id := "c2", source := ⟨"early", "value"⟩, target := ⟨"choice", "cond"⟩ },
    { id := "c3", source := ⟨"text", "color"⟩, target := ⟨"choice", "a"⟩ },
    { id := "c4", source := ⟨"limit", "value"⟩, target := ⟨"choice", "b"⟩ },
    { id := "c5", source := ⟨"choice", "value"⟩, target := ⟨"rp", "color"⟩ },
    { id := "c6", source := ⟨"rp", "pass"⟩, target := ⟨"screen", "pass"⟩ }]
  outputs := [("main", "screen")]

theorem Scene.striped_checks : (Schema.builtin.validate Scene.striped).toOption.any (fun scene =>
    (scene.prepare Schema.builtin {}).outcome.1.toOption.any fun p =>
      let c : ExprContext := { prepared := p }
      ((c.compile ⟨"choice", "value"⟩).run.run ((c.compile ⟨"ghost", "value"⟩).run.run {}).2).1.toOption.any fun x =>
        decide (x.type = .vec4) && !x.code.choosesMatrix) = true := by
  rw [Schema.builtin_eq, Registry.builtin_eq]
  decide +kernel

/-- After an attempt that failed, the color compiles to code that the shading language accepts. -/
theorem Scene.striped_typed : ∃ scene p s x t, Schema.builtin.validate Scene.striped = .ok scene ∧
    (scene.prepare Schema.builtin {}).outcome.1 = .ok p ∧ ({ prepared := p } : ExprContext).Arises s ∧
    Yields (({ prepared := p } : ExprContext).compile ⟨"choice", "value"⟩) s x t ∧ x.type = .vec4 ∧
    x.code.choosesMatrix = false ∧ x.code.HasType false (t.scope Wgsl.accepts) .vec4 := by
  obtain ⟨scene, hscene, hchecks⟩ := Option.any_eq_true _ _ |>.1 Scene.striped_checks
  obtain ⟨p, hp, hchecks⟩ := Option.any_eq_true _ _ |>.1 hchecks
  obtain ⟨x, hx, hchecks⟩ := Option.any_eq_true _ _ |>.1 hchecks
  simp only [Bool.and_eq_true, decide_eq_true_eq, Bool.not_eq_true'] at hchecks
  obtain ⟨htype, hmatrix⟩ := hchecks
  have hrun := yields_run (eq_ok_of_toOption hx)
  have harises := (ExprContext.Arises.start (c := { prepared := p })).compile ⟨"ghost", "value"⟩
  have htyped := ExprContext.compile_typed (eq_ok_of_toOption hp) harises hrun (by rw [htype]; decide)
  exact ⟨scene, p, _, x, _, eq_ok_of_toOption hscene, eq_ok_of_toOption hp, harises, hrun, htype, hmatrix,
    htype ▸ htyped.2.2 hmatrix⟩

/-- A pass whose place is chosen between two matrices. -/
def Scene.forked : Scene where
  nodes := [{ id := "screen", type := "Screen" }, { id := "rp", type := "RenderPass" }, { id := "a", type := "Mat4" },
    { id := "b", type := "Mat4" }, { id := "k", type := "Bool" }, { id := "sel", type := "Select" }]
  connections := [{ id := "c0", source := ⟨"k", "value"⟩, target := ⟨"sel", "cond"⟩ },
    { id := "c1", source := ⟨"a", "value"⟩, target := ⟨"sel", "a"⟩ },
    { id := "c2", source := ⟨"b", "value"⟩, target := ⟨"sel", "b"⟩ },
    { id := "c3", source := ⟨"sel", "value"⟩, target := ⟨"rp", "transform"⟩ },
    { id := "c4", source := ⟨"rp", "pass"⟩, target := ⟨"screen", "pass"⟩ }]
  outputs := [("main", "screen")]

theorem Scene.forked_checks : (Schema.builtin.validate Scene.forked).toOption.any (fun scene =>
    (scene.prepare Schema.builtin {}).outcome.1.toOption.any fun p =>
      ((({ prepared := p } : ExprContext).compile ⟨"sel", "value"⟩).run.run {}).1.toOption.any fun x =>
        decide (x.type = .mat4) && x.code.choosesMatrix) = true := by
  rw [Schema.builtin_eq, Registry.builtin_eq]
  decide +kernel

/-- The scene is valid and its output compiles, to code that has no type in the shading language. -/
theorem Scene.forked_untyped : ∃ scene p x t, Schema.builtin.validate Scene.forked = .ok scene ∧
    (scene.prepare Schema.builtin {}).outcome.1 = .ok p ∧
    Yields (({ prepared := p } : ExprContext).compile ⟨"sel", "value"⟩) {} x t ∧ x.type = .mat4 ∧
    ∀ u, ¬ x.code.HasType false (t.scope Wgsl.accepts) u := by
  obtain ⟨scene, hscene, hchecks⟩ := Option.any_eq_true _ _ |>.1 Scene.forked_checks
  obtain ⟨p, hp, hchecks⟩ := Option.any_eq_true _ _ |>.1 hchecks
  obtain ⟨x, hx, hchecks⟩ := Option.any_eq_true _ _ |>.1 hchecks
  rw [Bool.and_eq_true, decide_eq_true_eq] at hchecks
  refine ⟨scene, p, x, _, eq_ok_of_toOption hscene, eq_ok_of_toOption hp, yields_run (eq_ok_of_toOption hx),
    hchecks.1, fun u hu => ?_⟩
  rw [hu.choosesMatrix_eq_false] at hchecks
  cases hchecks.2

end SceneGraph
