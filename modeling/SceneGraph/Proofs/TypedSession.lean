import SceneGraph.Proofs.Compilers
import SceneGraph.Proofs.Resources
import SceneGraph.Proofs.Typing

/-!
# Sessions with typed code

A session declares the textures that it binds and the snippets that it accepted. Its expressions keep
their types while it goes on, also through failures: declarations are only ever added, and a name that is
taken stands for the same function, since different nodes have different names.

* `Session.scope`: what the code of a session can refer to.
* `Session.Typed`: every remembered expression has its type, and every helper function is known.
* `SessionM.Keeps`: a computation keeps sessions typed, and its result is as described.
-/
set_option autoImplicit false

namespace SceneGraph

/-! ## Scopes of sessions -/

/-- The snippet is valid code in some stage. -/
def Snippet.Accepted (accepts : String → Bool) (f : Snippet) : Prop := ∃ stage, f.isValid accepts stage = true

namespace Session

/-- The textures that a session binds, which code reads through the flip, and the snippets among its helper
functions. -/
def scope (accepts : String → Bool) (s : Session) : Scope where
  texture key name :=
    (∃ b, s.binding? key = some b ∧ b.name = name) ∧ s.helper? Code.flipName = some CompileNode.flipHelper
  function name ts t :=
    (t.isScalar = true ∨ t.isVector = true) ∧ ∃ f : Snippet, s.helper? name = some f.toHelper ∧
      f.Accepted accepts ∧ f.args.map SnippetArg.type = ts ∧ f.result = t
  function_result _ _ _ h := h.1

/-- Everything declared in the first session is declared in the second. -/
structure Extends (s t : Session) : Prop where
  bindings : s.bindings <+: t.bindings
  helpers : s.helpers <+: t.helpers

namespace Extends

variable {accepts : String → Bool} {s t u : Session}

theorem refl (s : Session) : s.Extends s := ⟨List.prefix_rfl, List.prefix_rfl⟩

theorem trans (h : s.Extends t) (h' : t.Extends u) : s.Extends u :=
  ⟨h.bindings.trans h'.bindings, h.helpers.trans h'.helpers⟩

theorem helper? (h : s.Extends t) {name : String} {f : HelperFunction} (hf : s.helper? name = some f) :
    t.helper? name = some f := by
  exact find?_of_prefix h.helpers hf

theorem within (h : s.Extends t) : (s.scope accepts).Within (t.scope accepts) where
  texture key name := by
    rintro ⟨⟨b, hb, hname⟩, hflip⟩
    exact ⟨⟨b, find?_of_prefix h.bindings hb, hname⟩, h.helper? hflip⟩
  function name ts r := by
    rintro ⟨hresult, f, hf, hrest⟩
    exact ⟨hresult, f, h.helper? hf, hrest⟩

end Extends

end Session

/-! ## Typed expressions -/

namespace ShaderExpr

/-- The expression is a texture, or its code has its type. -/
def Typed (accepts : String → Bool) (s : Session) (x : ShaderExpr) : Prop :=
  x.type ≠ .texture → x.code.HasType true (s.scope accepts) x.type

/-- The expression has a type. -/
structure Has (accepts : String → Bool) (s : Session) (x : ShaderExpr) (t : ValueType) : Prop where
  type : x.type = t
  code : x.code.HasType true (s.scope accepts) t

variable {accepts : String → Bool} {s u : Session} {x : ShaderExpr} {t : ValueType}

theorem Typed.mono (h : x.Typed accepts s) (hext : s.Extends u) : x.Typed accepts u :=
  fun hx => (h hx).mono hext.within

theorem Typed.has (h : x.Typed accepts s) (htype : x.type = t) (ht : t ≠ .texture) : x.Has accepts s t := by
  subst htype
  exact ⟨rfl, h ht⟩

theorem Has.mono (h : x.Has accepts s t) (hext : s.Extends u) : x.Has accepts u t := ⟨h.type, h.code.mono hext.within⟩

theorem Has.typed (h : x.Has accepts s t) : x.Typed accepts s := by
  intro _
  rw [h.type]
  exact h.code

@[simp]
theorem derive_code (code : Code) (type : ValueType) (inputs : List ShaderExpr) :
    (derive code type inputs).code = code := by
  have hfold : ∀ e : ShaderExpr, (inputs.foldl inherit e).code = e.code := by
    induction inputs with
    | nil => exact fun e => rfl
    | cons i rest ih => exact fun e => ih (e.inherit i)
  exact hfold _

theorem Has.derive {code : Code} (h : code.HasType true (s.scope accepts) t) (inputs : List ShaderExpr) :
    (ShaderExpr.derive code t inputs).Has accepts s t :=
  ⟨derive_type _ _ _, by rw [derive_code]; exact h⟩

theorem Typed.derive {code : Code} (h : code.HasType true (s.scope accepts) t) (inputs : List ShaderExpr) :
    (ShaderExpr.derive code t inputs).Typed accepts s :=
  (Has.derive h inputs).typed

end ShaderExpr

/-! ## Known helper functions -/

theorem SessionM.pure_injective {α : Type} {a b : α} (h : (pure a : SessionM α) = pure b) : a = b := by
  have hrun := congrArg (fun x : SessionM α => (x.run.run {}).1) h
  cases hrun
  rfl

/-- The snippet that a node holds. -/
structure Snippet.Of (p : Prepared) (n : Node) (f : Snippet) : Prop where
  name : f.name = "expr_" ++ p.nameOf n.id
  args : List.Forall₂ (fun q a => CompileNode.snippetArg n q = pure a) n.inputs f.args
  result : CompileNode.snippetType n = pure f.result
  body : ∃ text, CompileNode.snippetText n = pure text ∧ f.body = Snippet.bodyOf text

theorem Snippet.Of.unique {p : Prepared} {n : Node} {f g : Snippet} (hf : f.Of p n) (hg : g.Of p n) : f = g := by
  obtain ⟨text, htext, hbody⟩ := hf.body
  obtain ⟨text', htext', hbody'⟩ := hg.body
  have hname : f.name = g.name := hf.name.trans hg.name.symm
  have hargs : f.args = g.args := by
    refine List.right_unique_forall₂' (fun q a b ha hb => ?_) hf.args hg.args
    exact SessionM.pure_injective (ha.symm.trans hb)
  have hresult : f.result = g.result := SessionM.pure_injective (hf.result.symm.trans hg.result)
  have hbodies : f.body = g.body := by rw [hbody, hbody', SessionM.pure_injective (htext.symm.trans htext')]
  cases f
  cases g
  rw [Snippet.mk.injEq]
  exact ⟨hname, hargs, hresult, hbodies⟩

/-- The helper function turns coordinates upside down or is the snippet of a node. -/
def HelperFunction.Known (p : Prepared) (h : HelperFunction) : Prop :=
  h = CompileNode.flipHelper ∨ ∃ n f, p.node? n.id = some n ∧ Snippet.Of p n f ∧ h = f.toHelper

theorem Snippet.Of.name_ne_flip {p : Prepared} {n : Node} {f : Snippet} (hf : f.Of p n) : f.name ≠ Code.flipName := by
  intro h
  rw [hf.name] at h
  have hchars := congrArg String.toList h
  rw [String.toList_append] at hchars
  cases hchars

theorem HelperFunction.Known.unique {p : Prepared} (hp : p.Valid) {f g : HelperFunction} (hf : f.Known p)
    (hg : g.Known p) (h : f.name = g.name) : f = g := by
  rcases hf with rfl | ⟨n, f, hn, hf, rfl⟩
  · rcases hg with rfl | ⟨m, g, hm, hg, rfl⟩
    · rfl
    · exact absurd h.symm hg.name_ne_flip
  · rcases hg with rfl | ⟨m, g, hm, hg, rfl⟩
    · exact absurd h hf.name_ne_flip
    · have hnames : "expr_" ++ p.nameOf n.id = "expr_" ++ p.nameOf m.id := hf.name.symm.trans (h.trans hg.name)
      have hname : p.nameOf n.id = p.nameOf m.id := by
        have hchars := congrArg String.toList hnames
        rw [String.toList_append, String.toList_append] at hchars
        exact String.toList_inj.1 (List.append_cancel_left hchars)
      have hid := hp.nameOf_injective hn hm hname
      rw [hid, hm] at hn
      cases hn
      rw [hf.unique hg]

/-! ## Typed sessions -/

namespace Session

/-- Every remembered expression has its type, and every helper function is known. -/
structure Typed (accepts : String → Bool) (p : Prepared) (s : Session) : Prop where
  memo : ∀ m ∈ s.memo, m.2.Typed accepts s
  helpers : ∀ h ∈ s.helpers, h.Known p

theorem Typed.empty (accepts : String → Bool) (p : Prepared) : Typed accepts p {} := ⟨by simp, by simp⟩

variable {accepts : String → Bool} {p : Prepared} {s t : Session}

/-- Known helper functions and bindings may be added. -/
theorem Typed.extend (h : s.Typed accepts p) (hext : s.Extends t) (hmemo : t.memo = s.memo)
    (hhelpers : ∀ f ∈ t.helpers, f.Known p) : t.Typed accepts p where
  memo m hm := (h.memo m (hmemo ▸ hm)).mono hext
  helpers := hhelpers

theorem Typed.remember (h : s.Typed accepts p) (e : Endpoint) {x : ShaderExpr} (hx : x.Typed accepts s) :
    (s.remember e x).Typed accepts p where
  memo m hm := by
    rcases List.mem_cons.1 hm with rfl | hm
    · exact hx
    · exact h.memo m hm
  helpers := h.helpers

@[simp]
theorem store_helpers (s : Session) (key : SlotKey) (values : List Float) :
    (s.store key values).2.helpers = s.helpers := by
  unfold store
  split <;> rfl

theorem store_extends (s : Session) (key : SlotKey) (values : List Float) : s.Extends (s.store key values).2 where
  bindings := by simp only [store_bindings, List.prefix_rfl]
  helpers := by simp only [store_helpers, List.prefix_rfl]

theorem Typed.store (h : s.Typed accepts p) (key : SlotKey) (values : List Float) :
    (s.store key values).2.Typed accepts p :=
  h.extend (s.store_extends key values) (s.store_memo key values) (by rw [store_helpers]; exact h.helpers)

theorem addBinding_binding? (s : Session) (b : Binding) :
    (s.addBinding b).2.binding? b.key = some (s.addBinding b).1 := by
  rcases s.addBinding_cases b with ⟨old, hold, heq⟩ | ⟨hnone, heq⟩
  · rw [heq]
    exact hold
  · rw [heq]
    unfold binding? at hnone ⊢
    simp [List.find?_append, hnone]

theorem addHelper_extends (s : Session) (f : HelperFunction) : s.Extends (s.addHelper f) := by
  unfold addHelper
  split
  · exact .refl s
  · exact ⟨List.prefix_rfl, List.prefix_append _ _⟩

theorem Typed.addHelper (h : s.Typed accepts p) {f : HelperFunction} (hf : f.Known p) :
    (s.addHelper f).Typed accepts p := by
  refine h.extend (s.addHelper_extends f) (s.addHelper_memo f) fun g hg => ?_
  unfold Session.addHelper at hg
  split at hg
  · exact h.helpers g hg
  · rcases List.mem_append.1 hg with hg | hg
    · exact h.helpers g hg
    · obtain rfl := List.mem_singleton.1 hg
      exact hf

/-- A known function that is registered stands for its name, whether the name was taken or not. -/
theorem Typed.addHelper_helper? (hp : p.Valid) (h : s.Typed accepts p) {f : HelperFunction} (hf : f.Known p) :
    (s.addHelper f).helper? f.name = some f := by
  unfold Session.addHelper
  split
  · rename_i g hg
    have hname : g.name = f.name := by simpa using List.find?_some hg
    have hknown := h.helpers g (List.mem_of_find?_eq_some hg)
    rw [hg, hknown.unique hp hf hname]
  · rename_i hnone
    unfold helper? at hnone ⊢
    simp [List.find?_append, hnone]

end Session

/-! ## Computations that keep sessions typed -/

namespace SessionM

/-- From a typed session the computation leads to a typed one that extends it, whether it succeeds or fails,
and a result is as described. -/
def Keeps (accepts : String → Bool) (p : Prepared) {α : Type} (x : SessionM α) (s : Session)
    (Q : α → Session → Prop) : Prop :=
  s.Typed accepts p → (x.run.run s).2.Typed accepts p ∧ s.Extends (x.run.run s).2 ∧
    ∀ a, (x.run.run s).1 = .ok a → Q a (x.run.run s).2

namespace Keeps

variable {accepts : String → Bool} {p : Prepared} {α β : Type} {s : Session} {x : SessionM α} {Q R : α → Session → Prop}

theorem mono (h : Keeps accepts p x s R) (hQ : ∀ a t, R a t → Q a t) : Keeps accepts p x s Q := by
  intro hs
  obtain ⟨ht, hext, hresult⟩ := h hs
  exact ⟨ht, hext, fun a ha => hQ a _ (hresult a ha)⟩

theorem of_typed (h : s.Typed accepts p → Keeps accepts p x s Q) : Keeps accepts p x s Q := fun hs => h hs hs

theorem pure {a : α} (h : Q a s) : Keeps accepts p (Pure.pure a) s Q := by
  intro hs
  refine ⟨hs, .refl s, fun b hb => ?_⟩
  cases hb
  exact h

theorem throw {e : ExprError} : Keeps accepts p (throw e) s Q := by
  intro hs
  refine ⟨hs, .refl s, fun b hb => ?_⟩
  cases hb

theorem result {r : Except ExprError α} :
    Keeps accepts p (ExceptT.mk (Pure.pure r)) s fun a t => t = s ∧ r = .ok a :=
  fun hs => ⟨hs, .refl s, fun _ h => ⟨rfl, h⟩⟩

theorem bind {Q : β → Session → Prop} {f : α → SessionM β} (hx : Keeps accepts p x s R)
    (hf : ∀ a t, s.Extends t → R a t → Keeps accepts p (f a) t Q) : Keeps accepts p (x >>= f) s Q := by
  intro hs
  obtain ⟨ht, hext, hresult⟩ := hx hs
  rw [run_bind]
  generalize x.run.run s = r at ht hext hresult
  rcases r with ⟨e | a, t⟩
  · refine ⟨ht, hext, fun b hb => ?_⟩
    cases hb
  · obtain ⟨hu, hext', hresult'⟩ := hf a t hext (hresult a rfl) ht
    exact ⟨hu, hext.trans hext', hresult'⟩

theorem ite {c : Prop} [Decidable c] {x y : SessionM α} (hx : c → Keeps accepts p x s Q)
    (hy : ¬ c → Keeps accepts p y s Q) : Keeps accepts p (if c then x else y) s Q := by
  split
  · rename_i hc
    exact hx hc
  · rename_i hc
    exact hy hc

/-- The computation goes on only where a condition does not hold. -/
theorem refuse {c : Prop} [Decidable c] {e : ExprError} {f : β → SessionM α} (h : ¬ c → Keeps accepts p x s Q) :
    Keeps accepts p (if c then MonadExcept.throw e >>= f else x) s Q :=
  .ite (fun _ => .bind (R := fun _ _ => False) .throw fun _ _ _ hfalse => hfalse.elim) h

theorem get : Keeps accepts p get s fun a t => a = s ∧ t = s := by
  intro hs
  refine ⟨hs, .refl s, fun a ha => ?_⟩
  cases ha
  exact ⟨rfl, rfl⟩

theorem modifyGet {f : Session → α × Session} (hext : s.Extends (f s).2)
    (htyped : s.Typed accepts p → (f s).2.Typed accepts p)
    (h : s.Typed accepts p → Q (f s).1 (f s).2) : Keeps accepts p (modifyGet f) s Q := by
  intro hs
  refine ⟨htyped hs, hext, fun a ha => ?_⟩
  cases ha
  exact h hs

theorem modify {f : Session → Session} (hext : s.Extends (f s))
    (htyped : s.Typed accepts p → (f s).Typed accepts p) : Keeps accepts p (modify f) s fun _ t => t = f s :=
  .modifyGet hext htyped fun _ => rfl

theorem attempt (h : Keeps accepts p x s Q) : Keeps accepts p (attempt x) s fun r t => ∀ a, r = .ok a → Q a t := by
  intro hs
  obtain ⟨ht, hext, hresult⟩ := h hs
  refine ⟨ht, hext, fun r hr => ?_⟩
  cases hr
  exact hresult

end Keeps

/-! ### Steps of sessions -/

variable {accepts : String → Bool} {p : Prepared} {s : Session}

theorem constant_keeps (node param : String) (values : List Float) {t : ValueType}
    (ht : t.isScalar = true ∨ t.isVector = true ∨ t = .mat4) :
    Keeps accepts p (constant node param values t) s fun x u => x.Has accepts u t := by
  refine Keeps.bind (R := fun _ _ => True) ?_ fun i u _ _ => .pure ⟨rfl, Session.slotCode_hasType i ht⟩
  exact .modifyGet (s.store_extends _ _) (fun hs => hs.store _ _) fun _ => trivial

theorem constant_typed (node param : String) (values : List Float) {t : ValueType}
    (ht : t.isScalar = true ∨ t.isVector = true ∨ t = .mat4) :
    Keeps accepts p (constant node param values t) s fun x u => x.Typed accepts u :=
  (constant_keeps node param values ht).mono fun _ _ hx => hx.typed

theorem bindTexture_keeps (key source : String) (sampler : SamplerKind) :
    Keeps accepts p (bindTexture p key source sampler) s fun b t => t.binding? key = some b := by
  generalize hb : (⟨key, p.nameOf key, source, sampler⟩ : Binding) = b
  have hext : s.Extends (s.addBinding b).2 := by
    rcases s.addBinding_cases b with ⟨old, _, heq⟩ | ⟨_, heq⟩
    · rw [heq]
      exact .refl s
    · rw [heq]
      exact ⟨List.prefix_append _ _, List.prefix_rfl⟩
  have hkeep : (s.addBinding b).2.memo = s.memo ∧ (s.addBinding b).2.helpers = s.helpers := by
    rcases s.addBinding_cases b with ⟨old, _, heq⟩ | ⟨_, heq⟩ <;> rw [heq] <;> exact ⟨rfl, rfl⟩
  unfold bindTexture
  rw [hb]
  refine .modifyGet hext (fun hs => hs.extend hext hkeep.1 (by rw [hkeep.2]; exact hs.helpers)) fun _ => ?_
  subst hb
  exact s.addBinding_binding? _

theorem helper_keeps (hp : p.Valid) {f : HelperFunction} (hf : f.Known p) :
    Keeps accepts p (helper f) s fun _ t => t.helper? f.name = some f :=
  .modifyGet (s.addHelper_extends f) (fun hs => hs.addHelper hf) fun hs => hs.addHelper_helper? hp hf

theorem debug_keeps (message : String) (fields : List (String × String)) :
    Keeps accepts p (debug message fields) s fun _ _ => True :=
  .modifyGet ⟨List.prefix_rfl, List.prefix_rfl⟩ (fun hs => ⟨hs.memo, hs.helpers⟩) fun _ => trivial

end SessionM

end SceneGraph
