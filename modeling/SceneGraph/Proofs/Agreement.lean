import SceneGraph.Proofs.Shaking
import SceneGraph.Proofs.Termination
import SceneGraph.Proofs.Wrapping

/-!
# The schema and the compilers

The schema says which ports a node has, and a compiler which outputs it gives: two tables that have to agree. They do,
port by port, so no output of a prepared scene that the schema takes for a value is unknown to the compilers, however
far its inputs go back. There are two exceptions. The schema takes the word of a snippet node for what it gives, but its
compiler has the result only; and a connection from a missing node is checked by nobody, not even when preparation puts
in a node of this name.

* `Schema.Agrees`: what the two tables say of a node type.
* `Scene.PreparedFrom.fits_or_strays`: connections of a prepared scene fit the schema.
* `typing`: the law of sessions that remember what compilers give.
* `ExprContext.compile_agrees`: failures and types of outputs that the schema takes for values.
-/
set_option autoImplicit false

namespace SceneGraph

/-! ## The tables -/

/-- Outputs of the port type are compiled: values, textures, and any of these. -/
def Schema.isShaderType (type : String) : Bool := type == "any" || (ValueType.ofName? type).isSome

namespace NodeCompiler

variable {k : NodeCompiler} {n m : Node} {port : String}

/-- The compiler has the output port, and gives its type there unless that is any. -/
def provides (k : NodeCompiler) (n : Node) (spec : PortSpec) : Bool :=
  (k.outputs n).any fun o => o.1 == spec.name && (spec.type == "any" || o.2.any fun t => t.name == spec.type)

theorem outputs_of_type (k : NodeCompiler) (h : n.type = m.type) : k.outputs n = k.outputs m := by
  cases k <;> simp [outputs, h]

theorem reads_of_ne (hk : k ≠ .snippet) (n m : Node) : k.reads n = k.reads m := by
  cases k <;> first | rfl | exact absurd rfl hk

theorem outputs_nodup (k : NodeCompiler) (n : Node) : ((k.outputs n).map Prod.fst).Nodup := by
  cases k with
  | split => exact (by decide : CompileNode.components.Nodup)
  | textureSource => exact (by decide : ["texture", "color"].Nodup)
  | _ => exact List.nodup_singleton _

end NodeCompiler

namespace Schema

/-- What a node type of the schema says of its ports agrees with what the compiler of the type has. -/
structure Agrees (type : String) (t : NodeType) : Prop where
  group : t.category = "group" → type = Groups.instanceType
  declares : t.declaredPorts = true ↔ type = "Expression"
  snippet : Registry.builtin.get? type = some .snippet ↔ type = "Expression"
  outputs : ∀ spec ∈ t.outputs, isShaderType spec.type = true → spec.isFamily = false ∧
    ∃ k, Registry.builtin.get? type = some k ∧ ∀ n : Node, n.type = type → k.provides n spec = true
  inputs : ∀ k, Registry.builtin.get? type = some k → k ≠ .snippet → ∀ (n : Node), ∀ port ∈ k.reads n, ∀ spec,
    t.input? port = some spec → isShaderType spec.type = true

/-- The comparison of the tables for a node type. -/
def agree (type : String) (t : NodeType) : Bool :=
  let k? := Registry.listed.get? type
  (t.category != "group" || type == Groups.instanceType) &&
    decide (t.declaredPorts = true ↔ type = "Expression") &&
    decide (k? = some .snippet ↔ type = "Expression") &&
    t.outputs.all (fun spec => !isShaderType spec.type ||
      !spec.isFamily && k?.any fun k => k.provides { id := "", type } spec) &&
    k?.all fun k => k == .snippet || (k.reads { id := "", type }).all fun port =>
      (t.input? port).all fun spec => isShaderType spec.type

theorem agrees_of_agree {type : String} {t : NodeType} (h : agree type t = true) : Agrees type t := by
  simp only [agree, ← Registry.builtin_eq, Bool.and_eq_true, Bool.or_eq_true, bne_iff_ne, beq_iff_eq, decide_eq_true_eq,
    List.all_eq_true, Bool.not_eq_true', Option.any_eq_true, Option.all_eq_true] at h
  obtain ⟨⟨⟨⟨hgroup, hdeclares⟩, hsnippet⟩, houtputs⟩, hinputs⟩ := h
  refine ⟨fun h => hgroup.resolve_left fun hne => hne h, hdeclares, hsnippet, ?_, ?_⟩
  · intro spec hspec hshader
    rcases houtputs spec hspec with hnot | ⟨hfamily, k, hk, hprovides⟩
    · cases hnot.symm.trans hshader
    · refine ⟨hfamily, k, hk, fun n hn => ?_⟩
      rw [NodeCompiler.provides, k.outputs_of_type (m := { id := "", type }) hn]
      exact hprovides
  · intro k hk hne n port hport spec hspec
    rw [NodeCompiler.reads_of_ne hne n { id := "", type }] at hport
    exact (hinputs k hk).resolve_left hne port hport spec hspec

theorem builtin_agrees {type : String} {t : NodeType} (h : builtin.nodeType? type = some t) : Agrees type t := by
  have hall : listed.types.all (fun e => agree e.1 e.2) = true := by decide +kernel
  rw [builtin_eq] at h
  obtain ⟨⟨_, _⟩, he, rfl⟩ := Option.map_eq_some_iff.1 h
  obtain rfl : _ = type := by simpa using List.find?_some he
  exact agrees_of_agree (List.all_eq_true.1 hall _ (List.mem_of_find?_eq_some he))

theorem feeds_shader {given wanted : String} (h : builtin.Feeds given wanted) (hwanted : isShaderType wanted = true) :
    isShaderType given = true := by
  have hall : listed.compat.all (fun e => !isShaderType e.1 || e.2.all isShaderType) = true := by decide +kernel
  rw [builtin_eq] at h
  rcases h with rfl | ⟨accepted, haccepted, hmem⟩
  · exact hwanted
  · obtain ⟨⟨_, _⟩, he, rfl⟩ := Option.map_eq_some_iff.1 haccepted
    obtain rfl : _ = wanted := by simpa using List.find?_some he
    have hentry := List.all_eq_true.1 hall _ (List.mem_of_find?_eq_some he)
    simp only [hwanted, Bool.not_true, Bool.false_or] at hentry
    exact List.all_eq_true.1 hentry given hmem

end Schema

theorem Registry.builtin_draw {type : String} (h : isDrawType type = true) : builtin.get? type = none := by
  have hall : ["RenderPass", "Blit", "Blur", "Bloom"].all (fun type => (listed.get? type).isNone) = true := by decide
  have hmem : type ∈ ["RenderPass", "Blit", "Blur", "Bloom"] := by simpa [isDrawType, or_assoc] using h
  rw [builtin_eq]
  exact Option.isNone_iff_eq_none.1 (List.all_eq_true.1 hall type hmem)

theorem Registry.builtin_snippet : builtin.get? "Expression" = some .snippet := by
  rw [builtin_eq]
  decide

/-! ## Inputs and outputs of nodes -/

section

variable {n : Node} {k : NodeCompiler} {port type : String}

/-- The first declaration of a port that a snippet reads has a type for arguments. -/
theorem Node.isArgument_of_mem {d : Port} (hport : port ∈ NodeCompiler.snippet.reads n)
    (hd : n.declaredInput? port = some d) : d.isArgument = true := by
  obtain ⟨q, hq, rfl⟩ := List.mem_map.1 hport
  have hfound : (n.inputs.takeWhile Port.isArgument).find? (fun r => r.id == q.id) = some d := by
    obtain ⟨e, he⟩ := Option.isSome_iff_exists.1 (List.find?_isSome.2 ⟨q, hq, beq_self_eq_true q.id⟩ :
      ((n.inputs.takeWhile Port.isArgument).find? fun r => r.id == q.id).isSome)
    unfold declaredInput? at hd
    rw [← List.takeWhile_append_dropWhile (p := Port.isArgument) (l := n.inputs), List.find?_append, he] at hd
    exact he.trans hd
  exact List.mem_takeWhile_imp (List.mem_of_find?_eq_some hfound)

/-- What a compiler compiles is wired into inputs for values. -/
theorem NodeCompiler.reads_shader (hk : Registry.builtin.get? n.type = some k) (hport : port ∈ k.reads n)
    (h : Schema.builtin.Takes n port type) : Schema.isShaderType type = true := by
  cases h with
  | @declared t d hknown hports hdeclared =>
    have hagrees := Schema.builtin_agrees hknown
    obtain rfl : k = .snippet := Option.some.inj (hk.symm.trans (hagrees.snippet.2 (hagrees.declares.1 hports)))
    have harg := Node.isArgument_of_mem hport (Schema.declaredInput?_iff.2 hdeclared)
    unfold Port.isArgument Snippet.typeOf? at harg
    unfold Schema.orAny
    split
    · rfl
    · cases hname : ValueType.ofName? d.type <;> simp_all [Schema.isShaderType]
  | @listed t spec hknown hundeclared hcovers =>
    have hagrees := Schema.builtin_agrees hknown
    refine hagrees.inputs k hk ?_ n port hport spec (Schema.input?_iff.2 hcovers)
    rintro rfl
    obtain ⟨q, hq, hid⟩ := List.mem_map.1 hport
    exact hundeclared (hagrees.declares.2 (hagrees.snippet.1 hk)) q (List.takeWhile_subset _ hq) hid
  | unlisted => rfl

/-- The port of a snippet node is none of its compiler. -/
def Node.LeavesSnippet (n : Node) (port : String) : Prop := n.type = "Expression" ∧ port ≠ "value"

theorem NodeCompiler.snippet_leaves : port ∉ (NodeCompiler.snippet.outputs n).map Prod.fst ↔ port ≠ "value" := by
  simp [NodeCompiler.outputs]

namespace Schema

variable {t : NodeType} {spec : PortSpec}

theorem Agrees.provides (h : Agrees n.type t) (hport : PortSpec.Covers t.outputs port spec)
    (hshader : isShaderType spec.type = true) :
    ∃ k, Registry.builtin.get? n.type = some k ∧ spec.name = port ∧ k.provides n spec = true := by
  have hmem : spec ∈ t.outputs := by
    cases hport with
    | named hfirst | family _ hfirst =>
      obtain ⟨-, before, after, houtputs, -⟩ := hfirst
      exact houtputs ▸ List.mem_append_right _ List.mem_cons_self
  obtain ⟨hfamily, k, hk, hprovides⟩ := h.outputs spec hmem hshader
  refine ⟨k, hk, ?_, hprovides n rfl⟩
  cases hport with
  | named hfirst => exact hfirst.1.2
  | family _ hfirst => exact absurd (hfamily.symm.trans hfirst.1.1) (by decide)

/-- An output for values has a compiler, which has its port, but for those that a snippet node declares itself. -/
theorem Gives.compiler (h : builtin.Gives n port type) (hshader : isShaderType type = true)
    (hplain : n.type ≠ Groups.instanceType) :
    ∃ k, Registry.builtin.get? n.type = some k ∧ (port ∈ (k.outputs n).map Prod.fst ∨ n.LeavesSnippet port) := by
  have hlisted : ∀ {t spec}, builtin.nodeType? n.type = some t → PortSpec.Covers t.outputs port spec →
      isShaderType spec.type = true →
      ∃ k, Registry.builtin.get? n.type = some k ∧ (port ∈ (k.outputs n).map Prod.fst ∨ n.LeavesSnippet port) := by
    intro t spec hknown hport hspec
    obtain ⟨k, hk, rfl, hprovides⟩ := (builtin_agrees hknown).provides hport hspec
    obtain ⟨o, ho, hname⟩ := List.any_eq_true.1 hprovides
    rw [Bool.and_eq_true, beq_iff_eq] at hname
    exact ⟨k, hk, .inl (hname.1 ▸ List.mem_map_of_mem ho)⟩
  cases h with
  | group hknown hgroup => exact absurd ((builtin_agrees hknown).group hgroup) hplain
  | refined hknown _ hport hany => exact hlisted hknown hport (by rw [hany]; rfl)
  | listed hknown _ hport => exact hlisted hknown hport hshader
  | declared hknown _ _ hports =>
    have hagrees := builtin_agrees hknown
    have htype := hagrees.declares.1 hports
    refine ⟨.snippet, hagrees.snippet.2 htype, ?_⟩
    by_cases hvalue : port = "value"
    · exact .inl (by simp [NodeCompiler.outputs, hvalue])
    · exact .inr ⟨htype, hvalue⟩

/-- Where the schema itself types an output, its compiler gives this type. -/
theorem Gives.typed {k : NodeCompiler} {u : ValueType} (h : builtin.Gives n port type)
    (hshader : isShaderType type = true) (hplain : n.type ≠ Groups.instanceType)
    (hknown : builtin.nodeType? n.type = some t) (hspec : t.output? port = some spec) (hne : spec.type ≠ "any")
    (hk : Registry.builtin.get? n.type = some k) (hgives : k.Gives n port u) : u.name = spec.type := by
  have hagrees := builtin_agrees hknown
  have hcovers := output?_iff.1 hspec
  have htype : spec.type = type := by
    have hgiven := h.outputType?
    have hgroup : t.category ≠ "group" := fun hgroup => hplain (hagrees.group hgroup)
    have hlisted : builtin.Gives n port spec.type := .listed hknown hgroup hcovers fun hany => absurd hany hne
    exact Option.some.inj (hlisted.outputType?.symm.trans hgiven)
  obtain ⟨k', hk', rfl, hprovides⟩ := hagrees.provides hcovers (htype ▸ hshader)
  obtain rfl := Option.some.inj (hk.symm.trans hk')
  obtain ⟨⟨_, fixed⟩, ho, hname⟩ := List.any_eq_true.1 hprovides
  simp only [Bool.and_eq_true, Bool.or_eq_true, beq_iff_eq, hne, false_or, Option.any_eq_true] at hname
  obtain ⟨rfl, v, rfl, hv⟩ := hname
  obtain ⟨fixed, hfixed, hu⟩ := hgives
  -- The compiler lists the port once, so this is the type that it gives.
  obtain rfl : fixed = some v :=
    (Prod.mk.inj (List.inj_on_of_nodup_map (k.outputs_nodup n) hfixed ho rfl)).2
  rw [hu v rfl, hv]

end Schema

end

/-! ## Connections of prepared scenes -/

/-- A connection from a node that the scene does not have when its groups are expanded. -/
def Scene.Strays (s : Scene) (options : PrepareOptions) (c : Connection) : Prop :=
  ∃ t, (Groups.expand options.maxGroupDepth s).result = .ok t ∧ c ∈ t.connections ∧ c.source.node ∉ t.nodeIds

theorem Groups.expand_leaves {maxDepth : Int} {s t : Scene} (h : (expand maxDepth s).result = .ok t) : t.Groupless :=
  (expandRounds_invariant (P := fun _ _ => True) (fun _ _ => trivial) trivial (expandRounds_of_expand h)).2

namespace Scene.PreparedFrom

variable {s : Scene} {schema : Schema} {options : PrepareOptions} {p : Prepared} {expanded inlined wrapped : Scene}

theorem groupless (h : s.PreparedFrom schema options p expanded inlined wrapped) {id : String} {n : Node}
    (hn : p.node? id = some n) : n.type ≠ Groups.instanceType := by
  have hinlined := (Groups.expand_leaves h.expand).of_bare (Images.inline_bare h.inline).2
  have hwrapped : wrapped.indexed? id = some n := Graph.indexed?_treeShake (h.scene ▸ hn)
  obtain ⟨conns, nodes, extra, hmade, rfl⟩ := Wrap.autoWrap_made h.wrap
  rcases Wrap.indexed?_wrapped hwrapped with hmem | ⟨-, hbefore⟩
  · intro htype
    have hdraw := (Wrap.wrapAll_settles hmade).wrappers n hmem
    rw [htype] at hdraw
    exact absurd hdraw (by decide)
  · exact hinlined n (Scene.indexed?_eq_some hbefore).2

/-- A wrapper that a connection comes from has an id of its own: a node of this id that was there before would stay. -/
theorem notMem_of_wrapper (h : s.PreparedFrom schema options p expanded inlined wrapped)
    (hnodup : p.scene.nodeIds.Nodup) {c : Connection} (hc : c ∈ p.scene.connections)
    (hwrapper : c.source.node ∈ (Wrap.bare schema inlined).map Wrap.wrapperId) : c.source.node ∉ expanded.nodeIds := by
  intro hmem
  rw [h.scene] at hc hnodup
  rw [Wrap.nodeIds_treeShake h.wrap] at hnodup
  rw [← (Images.inlineAll_keeps h.inline).1] at hmem
  exact (List.nodup_append.1 hnodup).2.2 _ (List.mem_filter.2 ⟨hmem, (Graph.isUsed_ends hc).1⟩) _ hwrapper rfl

/-- Where the schema takes no pass, a connection between nodes fits, but for one from a missing node that comes from a
wrapper now. -/
theorem fits_or_strays (h : s.PreparedFrom schema options p expanded inlined wrapped)
    (hs : schema.checkConnections s = .ok ()) (hnodup : p.scene.nodeIds.Nodup) {c : Connection}
    (hc : c ∈ p.scene.connections) {m n : Node} (hm : p.node? c.source.node = some m)
    (hn : p.node? c.target.node = some n) (hdraw : isDrawType n.type = false)
    (hpass : schema.inputType? n c.target.port ≠ some "pass") :
    (∃ given wanted, schema.Gives m c.source.port given ∧ schema.Takes n c.target.port wanted ∧
      schema.Feeds given wanted) ∨ isDrawType m.type = true ∧ s.Strays options c := by
  obtain ⟨hconns, hbare⟩ := Images.inline_bare h.inline
  have hids := (Images.inlineAll_keeps h.inline).1
  have hsource : wrapped.indexed? c.source.node = some m := Graph.indexed?_treeShake (h.scene ▸ hm)
  have htarget : wrapped.indexed? c.target.node = some n := Graph.indexed?_treeShake (h.scene ▸ hn)
  have hwrapped : c ∈ wrapped.connections := by
    rw [h.scene] at hc
    exact hc
  obtain ⟨conns, nodes, extra, hmade, rfl⟩ := Wrap.autoWrap_made h.wrap
  have hsettles := Wrap.wrapAll_settles hmade
  -- The target is no wrapper, so the connection was there before and led to this node.
  obtain ⟨hnew, hold⟩ := (Wrap.indexed?_wrapped htarget).resolve_left fun hmem => by
    simpa [hdraw] using hsettles.wrappers n hmem
  have hkept : c ∈ inlined.connections := by
    rcases List.mem_append.1 hwrapped with hwrapped | hwrapped
    · exact ((hsettles.kept c hwrapped).resolve_right fun ⟨w, hw, heq⟩ => hnew w hw heq.symm).1
    · obtain ⟨n', hn', hpass'⟩ := hsettles.landing c hwrapped
      obtain rfl := Option.some.inj (hold.symm.trans hn')
      exact absurd hpass' hpass
  have hbefore : c ∈ expanded.connections := by
    rw [hconns] at hkept
    exact hkept
  rcases Wrap.indexed?_wrapped hsource with hwrapper | ⟨-, hsource⟩
  · refine .inr ⟨hsettles.wrappers m hwrapper, expanded, h.expand, hbefore, h.notMem_of_wrapper hnodup hc ?_⟩
    rw [← (Prepared.node?_eq_some hm).1]
    exact (Wrap.wrapAll_eq_ok hmade).1 ▸ List.mem_map_of_mem hwrapper
  · have hfits := Scene.checkConnections_iff.1 (Prepare.checkConnections_of_recheck hs h.expand h.recheck)
    obtain ⟨given, wanted, hgiven, hwanted, hfeeds⟩ := hfits c hbefore
      (hids ▸ Scene.indexed?_isSome.1 ⟨m, hsource⟩) (hids ▸ Scene.indexed?_isSome.1 ⟨n, hold⟩)
    rw [← Scene.given?_of_bare hbare, Scene.given?, hsource] at hgiven
    rw [← Scene.taken?_of_bare hbare, Scene.taken?, hold] at hwanted
    exact .inl ⟨given, wanted, Schema.outputType?_iff.1 hgiven, Schema.inputType?_iff.1 hwanted, hfeeds⟩

end Scene.PreparedFrom

/-! ## What compilers give -/

namespace ExprContext

variable {p : Prepared} {registry : Registry} {accepts : String → Bool} {e : Endpoint} {n : Node} {k : NodeCompiler}

/-- Stated for the parts of a context: to compare a part of the built-in one, the checker would build the registry. -/
theorem compilerOf_found (h : compilerOf ⟨p, registry, accepts⟩ e = .ok (n, k)) :
    p.node? e.node = some n ∧ registry.get? n.type = some k := compilerOf_eq_ok h

theorem compilerOf_refused {err : ExprError} (h : compilerOf ⟨p, registry, accepts⟩ e = .error err) :
    err = .missingInput e.node e.port ∨ ∃ n, p.node? e.node = some n ∧ registry.get? n.type = none ∧
      err = .unsupportedParam e.node "node type" (.str n.type) := by
  unfold compilerOf at h
  split at h
  · cases h
    exact .inl rfl
  · rename_i n hn
    split at h
    · rename_i hnone
      cases h
      exact .inr ⟨n, hn, hnone, rfl⟩
    · cases h

theorem compilerOf_snippet (hn : p.node? e.node = some n) (htype : n.type = "Expression") :
    compilerOf ⟨p, Registry.builtin, accepts⟩ e = .ok (n, .snippet) := by
  unfold compilerOf
  simp only [hn, htype, Registry.builtin_snippet]

end ExprContext

/-- The law of sessions that remember what compilers give, for computations with failures of some kinds. -/
def typing (c : ExprContext) (F : ExprError → Prop) : Law where
  Inv s := ∀ m ∈ s.memo, ∃ n k, c.compilerOf m.1 = .ok (n, k) ∧ k.Gives n m.1.port m.2.type
  Rel _ _ := True
  Fine _ := True
  Fails := F
  refl _ := trivial
  trans _ _ := trivial
  fine _ _ := trivial
  quiet hs h := ⟨h.memo ▸ hs, trivial⟩

namespace ExprContext

variable {c : ExprContext} {F : ExprError → Prop} {D : Endpoint → Prop}

theorem typing_start : (typing c F).Inv {} := fun _ hm => absurd hm List.not_mem_nil

theorem typing_store {s : Session} (hs : (typing c F).Inv s) (key : SlotKey) (values : List Float) :
    (typing c F).Inv (s.store key values).2 := by
  change ∀ m ∈ (s.store key values).2.memo, _
  rw [Session.store_memo]
  exact hs

theorem typing_supports (hcycle : ∀ node, F (.cycle ⟨[node]⟩))
    (hupstream : ∀ {e n k}, D e → c.compilerOf e = .ok (n, k) → ∀ w ∈ c.prepared.scene.connections,
      w.target.node = n.id → w.target.port ∈ k.reads n → D w.source)
    (hmissing : ∀ {e err}, D e → c.compilerOf e = .error err → F err)
    (hrefuses : ∀ {e n k err}, D e → c.compilerOf e = .ok (n, k) → k.Refuses n e.port err → F err) :
    (typing c F).Supports c (fun _ => True) D where
  upstream he hk w hw htarget hport := hupstream he hk w hw htarget hport
  cycle := hcycle
  missing := hmissing
  refuses := hrefuses
  found _ _ _ := fun _ _ => trivial
  constant _ _ _ _ _ _ _ hs := ⟨typing_store hs _ _, trivial, fun _ => ⟨rfl, fun _ _ => trivial⟩⟩
  progress hs _ := ⟨hs, trivial⟩
  remember hs hk htype := ⟨List.forall_mem_cons.2 ⟨⟨_, _, hk, (htype trivial).1⟩, hs⟩, trivial⟩

theorem Later.typed {s t : Session} (h : c.Later s t) (hs : (typing c F).Inv s) : (typing c F).Inv t := by
  have hsupports : (typing c fun _ => True).Supports c (fun _ => True) fun _ => True :=
    typing_supports (fun _ => trivial) (fun _ _ _ _ _ _ => trivial) (fun _ _ => trivial) fun _ _ _ => trivial
  induction h with
  | refl => exact hs
  | tail _ hcall ih =>
    cases hcall with
    | compile e => exact (hsupports.compile (e := e) trivial _ ih).1
    | store key values => exact typing_store ih key values

/-- A snippet node refuses all output ports but the one of its result. -/
theorem compile_snippet_port {s : Session} (hactive : s.active = []) (hs : (typing c F).Inv s) {e : Endpoint} {n : Node}
    (hk : c.compilerOf e = .ok (n, .snippet)) (hport : e.port ≠ "value") :
    ((c.compile e).run.run s).1 = .error (.unsupportedParam e.node "output port" (.str e.port)) := by
  have hnone : s.compiled? e = none := by
    refine Option.eq_none_iff_forall_ne_some.2 fun x hx => ?_
    obtain ⟨m, k, hk', fixed, hfixed, -⟩ := hs _ (Session.mem_of_compiled? hx)
    cases hk.symm.trans hk'
    exact NodeCompiler.snippet_leaves.2 hport (List.mem_map_of_mem hfixed)
  have hrefuse : ∀ f, NodeCompiler.snippet.run ⟨c.prepared, f, c.accepts⟩ n e.port =
      throw (.unsupportedParam n.id "output port" (.str e.port)) := fun f => if_neg hport
  have hthrow : ∀ (err : ExprError) (t : Session), (throw err : SessionM ShaderExpr).run.run t = (.error err, t) :=
    fun _ _ => rfl
  unfold compile depthLimit
  rw [run_compileWithin, hnone]
  dsimp only
  rw [if_neg (by simp [hactive]), hk]
  dsimp only
  rw [hrefuse, hthrow, (Prepared.node?_eq_some (compilerOf_eq_ok hk).1).1]

end ExprContext

/-! ## Compiling outputs that the schema takes for values -/

/-- The failures by which the tables do not agree, and where they come from below a node: a node without a compiler is
a wrapper that a stray connection leads from, and an output port that a compiler does not have is one that a snippet
node declares. -/
structure Prepared.Explained (p : Prepared) (stray : Connection → Prop) (root : String) (err : ExprError) : Prop where
  nodeType : ∀ id type, err = .unsupportedParam id "node type" type →
    ∃ c ∈ p.scene.connections, c.source.node = id ∧ p.Reaches id root ∧ stray c
  outputPort : ∀ id port, err = .unsupportedParam id "output port" port →
    ∃ c ∈ p.scene.connections, c.source.node = id ∧ p.Reaches id root ∧ port = .str c.source.port ∧
      ∃ n, p.node? id = some n ∧ n.LeavesSnippet c.source.port

/-- An output that is compiled on behalf of a node: what is below the node, and the schema takes it for a value or the
connection is stray. -/
def Prepared.Wanted (p : Prepared) (stray : Connection → Prop) (root : String) (e : Endpoint) : Prop :=
  ∀ n, p.node? e.node = some n → p.Reaches e.node root ∧ ∃ c ∈ p.scene.connections, c.source = e ∧
    ((∃ type, Schema.builtin.Gives n e.port type ∧ Schema.isShaderType type = true) ∨
      isDrawType n.type = true ∧ stray c)

namespace ExprContext

variable {accepts : String → Bool} {s : Scene} {options : PrepareOptions} {p : Prepared}
  {expanded inlined wrapped : Scene}

theorem wanted_supports (h : s.PreparedFrom Schema.builtin options p expanded inlined wrapped)
    (hs : Schema.builtin.checkConnections s = .ok ()) (hnodup : p.scene.nodeIds.Nodup) (root : String) :
    (typing { prepared := p, accepts } (p.Explained (s.Strays options) root)).Supports { prepared := p, accepts }
      (fun _ => True) (p.Wanted (s.Strays options) root) := by
  refine typing_supports (fun _ => ⟨nofun, nofun⟩) ?_ ?_ ?_
  · intro e n k he hk c hc htarget hport m hm
    obtain ⟨hn, hget⟩ := compilerOf_found hk
    obtain ⟨hreaches, -⟩ := he n hn
    have hid : n.id = e.node := (Prepared.node?_eq_some hn).1
    have hn' : p.node? c.target.node = some n := by rw [htarget, hid]; exact hn
    refine ⟨.head ⟨c, hc, rfl, htarget.trans hid, ⟨m, hm⟩, n, hn⟩ hreaches, c, hc, rfl, ?_⟩
    have hdraw : isDrawType n.type = false := by
      by_contra hdraw
      cases hget.symm.trans (Registry.builtin_draw (Bool.eq_true_of_not_eq_false hdraw))
    have hpass : Schema.builtin.inputType? n c.target.port ≠ some "pass" := fun hpass =>
      absurd (NodeCompiler.reads_shader hget hport (Schema.inputType?_iff.1 hpass)) (by decide)
    refine (h.fits_or_strays hs hnodup hc hm hn' hdraw hpass).imp_left ?_
    rintro ⟨given, wanted, hgives, htakes, hfeeds⟩
    exact ⟨given, hgives, Schema.feeds_shader hfeeds (NodeCompiler.reads_shader hget hport htakes)⟩
  · intro e err he hk
    rcases compilerOf_refused hk with rfl | ⟨n, hn, hnone, rfl⟩
    · exact ⟨nofun, nofun⟩
    obtain ⟨hreaches, c, hc, rfl, hgives | ⟨-, hstray⟩⟩ := he n hn
    · obtain ⟨type, hgives, hshader⟩ := hgives
      obtain ⟨k, hk, -⟩ := hgives.compiler hshader (h.groupless hn)
      cases hk.symm.trans hnone
    · refine ⟨fun id type heq => ?_, fun id port heq => ?_⟩
      · cases heq
        exact ⟨c, hc, rfl, hreaches, hstray⟩
      · exact absurd (ExprError.unsupportedParam.inj heq).2.1 (by decide)
  · intro e n k err he hk herr
    obtain ⟨hn, hget⟩ := compilerOf_found hk
    have hid : n.id = e.node := (Prepared.node?_eq_some hn).1
    obtain ⟨hreaches, c, hc, rfl, hgives | ⟨hdraw, -⟩⟩ := he n hn
    · cases herr with
      | unsupportedParam value hnode hport =>
        exact ⟨fun _ _ heq => absurd (ExprError.unsupportedParam.inj heq).2.1 hnode,
          fun _ _ heq => absurd (ExprError.unsupportedParam.inj heq).2.1 hport⟩
      | unknownPort hport =>
        refine ⟨fun _ _ heq => absurd (ExprError.unsupportedParam.inj heq).2.1 (by decide), fun id port heq => ?_⟩
        cases heq
        obtain ⟨type, hgives, hshader⟩ := hgives
        obtain ⟨k', hk', hleaves⟩ := hgives.compiler hshader (h.groupless hn)
        obtain rfl := Option.some.inj (hget.symm.trans hk')
        rw [hid]
        exact ⟨c, hc, rfl, hreaches, rfl, n, hn, hleaves.resolve_left hport⟩
      | _ => exact ⟨nofun, nofun⟩
    · cases hget.symm.trans (Registry.builtin_draw hdraw)

/-- In a prepared scene the built-in schema and the built-in compilers agree. However a session went on before, where
the schema takes the source of a connection for a value, compiling it does not fail for want of a compiler or of an
output port, but for what is explained; and where the schema itself types the output, it gets this type. A port that a
snippet node declares is never compiled. -/
theorem compile_agrees {scene valid : Scene} {options : PrepareOptions} {p : Prepared}
    (hvalid : Schema.builtin.validate scene = .ok valid)
    (hp : (valid.prepare Schema.builtin options).outcome.1 = .ok p) (hnodup : p.scene.nodeIds.Nodup) {s : Session}
    (hs : ExprContext.Later { prepared := p, accepts } {} s) {c : Connection} (hc : c ∈ p.scene.connections) {n : Node}
    (hn : p.node? c.source.node = some n) {type : String}
    (htype : Schema.builtin.outputType? n c.source.port = some type) (hshader : Schema.isShaderType type = true) :
    (∀ err, ((ExprContext.compile { prepared := p, accepts } c.source).run.run s).1 = .error err →
      p.Explained (valid.Strays options) c.source.node err) ∧
    (∀ x, ((ExprContext.compile { prepared := p, accepts } c.source).run.run s).1 = .ok x →
      ∀ t spec, Schema.builtin.nodeType? n.type = some t → t.output? c.source.port = some spec → spec.type ≠ "any" →
        x.type.name = spec.type) ∧
    (n.LeavesSnippet c.source.port → ((ExprContext.compile { prepared := p, accepts } c.source).run.run s).1 =
      .error (.unsupportedParam c.source.node "output port" (.str c.source.port))) := by
  obtain ⟨expanded, inlined, wrapped, hfrom⟩ := Scene.prepare_eq_ok hp
  have hgives := Schema.outputType?_iff.1 htype
  have hplain := hfrom.groupless hn
  have hwanted : p.Wanted (valid.Strays options) c.source.node c.source := by
    intro m hm
    obtain rfl := Option.some.inj (hn.symm.trans hm)
    exact ⟨.refl, c, hc, rfl, .inl ⟨type, hgives, hshader⟩⟩
  have hsupports := @wanted_supports accepts _ _ _ _ _ _ hfrom (Schema.checkConnections_of_validate hvalid) hnodup
    c.source.node
  have hremembers := Later.typed (F := p.Explained (valid.Strays options) c.source.node) hs typing_start
  obtain ⟨hafter, -, hout⟩ := hsupports.compile hwanted s hremembers
  refine ⟨fun err herr => ?_, fun x hx t spec hknown hspec hne => ?_, fun hleaves => ?_⟩
  · rw [herr] at hout
    exact hout
  · obtain ⟨m, k, hk, hgives'⟩ := hafter _ (Session.mem_of_compiled? (compiled?_of_ok hx))
    obtain ⟨hm, hget⟩ := compilerOf_found hk
    obtain rfl := Option.some.inj (hn.symm.trans hm)
    exact hgives.typed hshader hplain hknown hspec hne hget hgives'
  · obtain ⟨hactive, -⟩ := hs.progresses (c := { prepared := p, accepts }) (Scene.prepare_valid hp).order rfl
    exact compile_snippet_port hactive hremembers (compilerOf_snippet hn hleaves.1) hleaves.2

end ExprContext

/-- A wire that waits for a node of the name of a wrapper: it comes from a pass then, and nothing compiles. -/
example : (Schema.builtin.validate
    { nodes := [{ id := "screen", type := "Screen" }, { id := "stack", type := "Composite" },
        { id := "tint", type := "Color" }, { id := "wave", type := "Sin" }]
      connections := [{ id := "c0", source := ⟨"tint", "color"⟩, target := ⟨"stack", "pass"⟩ },
        { id := "c1", source := ⟨"tint~wrap~stack.pass", "pass"⟩, target := ⟨"wave", "x"⟩ },
        { id := "c2", source := ⟨"wave", "value"⟩, target := ⟨"stack", "dynamic_0"⟩ },
        { id := "c3", source := ⟨"stack", "pass"⟩, target := ⟨"screen", "pass"⟩ }]
      outputs := [("main", "screen")] }).toOption.any (fun valid =>
    (valid.prepare Schema.builtin {}).outcome.1.toOption.any fun p =>
      match ((ExprContext.compile { prepared := p } ⟨"wave", "value"⟩).run.run {}).1 with
      | .error (.unsupportedParam id param _) => id == "tint~wrap~stack.pass" && param == "node type"
      | _ => false) = true := by
  rw [Schema.builtin_eq, Registry.builtin_eq]
  decide +kernel

/-- A pass in the color of a formula, by the name that the formula gives to its result itself. -/
def Scene.dimmed : Scene where
  nodes := [{ id := "screen", type := "Screen" }, { id := "shape", type := "RenderPass" },
    { id := "clock", type := "Time" },
    { id := "formula", type := "Expression", params := [("source", .str "return 0.5 * t;")],
      inputs := [{ id := "t", type := "float" }], outputs := [{ id := "half", type := "float" }] }]
  connections := [{ id := "c0", source := ⟨"clock", "time"⟩, target := ⟨"formula", "t"⟩ },
    { id := "c1", source := ⟨"formula", "half"⟩, target := ⟨"shape", "color"⟩ },
    { id := "c2", source := ⟨"shape", "pass"⟩, target := ⟨"screen", "pass"⟩ }]
  outputs := [("main", "screen")]

theorem Scene.dimmed_checks : (Schema.builtin.validate Scene.dimmed).toOption.any (fun valid =>
    (valid.prepare Schema.builtin {}).outcome.1.toOption.any fun p =>
      decide p.scene.nodeIds.Nodup && decide (p.scene.connections = Scene.dimmed.connections) &&
        (p.node? "shape").isSome && ((ExprContext.compile { prepared := p } ⟨"clock", "time"⟩).run.run {}).1.isOk &&
        (p.node? "clock").any (fun n => Schema.builtin.outputType? n "time" == some "float" &&
          (Schema.builtin.nodeType? n.type).any fun t => (t.output? "time").any fun spec => spec.type == "float") &&
        (p.node? "formula").any fun n =>
          n.type == "Expression" && Schema.builtin.outputType? n "half" == some "float") = true := by
  rw [Schema.builtin_eq, Registry.builtin_eq]
  decide +kernel

/-- The scene is valid and can be prepared, and the port that the formula declares gives a number. -/
theorem Scene.dimmed_prepared : ∃ valid p, Schema.builtin.validate Scene.dimmed = .ok valid ∧
    (valid.prepare Schema.builtin {}).outcome.1 = .ok p ∧ p.scene.nodeIds.Nodup ∧
    p.scene.connections = Scene.dimmed.connections ∧ (p.node? "shape").isSome = true ∧
    ((ExprContext.compile { prepared := p } ⟨"clock", "time"⟩).run.run {}).1.isOk = true ∧
    (∃ n t spec, p.node? "clock" = some n ∧ Schema.builtin.outputType? n "time" = some "float" ∧
      Schema.builtin.nodeType? n.type = some t ∧ t.output? "time" = some spec ∧ spec.type = "float") ∧
    ∃ n, p.node? "formula" = some n ∧ n.type = "Expression" ∧
      Schema.builtin.outputType? n "half" = some "float" := by
  obtain ⟨valid, hvalid, hchecks⟩ := (Option.any_eq_true _ _).1 Scene.dimmed_checks
  obtain ⟨p, hp, hchecks⟩ := (Option.any_eq_true _ _).1 hchecks
  simp only [Bool.and_eq_true, decide_eq_true_eq, Option.any_eq_true, beq_iff_eq] at hchecks
  obtain ⟨⟨⟨⟨⟨hnodup, hconns⟩, hshape⟩, hok⟩, n, hn, htime, t, ht, spec, hspec, hfloat⟩, hformula⟩ := hchecks
  exact ⟨valid, p, eq_ok_of_toOption hvalid, eq_ok_of_toOption hp, hnodup, hconns, hshape, hok,
    ⟨n, t, spec, hn, htime, ht, hspec, hfloat⟩, hformula⟩

/-- The clock gives a number, as the schema says, and the formula refuses the port that it declares. -/
theorem Scene.dimmed_agrees : ∃ valid p x, Schema.builtin.validate Scene.dimmed = .ok valid ∧
    (valid.prepare Schema.builtin {}).outcome.1 = .ok p ∧ p.scene.nodeIds.Nodup ∧
    ((ExprContext.compile { prepared := p } ⟨"clock", "time"⟩).run.run {}).1 = .ok x ∧ x.type.name = "float" ∧
    ((ExprContext.compile { prepared := p } ⟨"formula", "half"⟩).run.run {}).1 =
      .error (.unsupportedParam "formula" "output port" (.str "half")) := by
  obtain ⟨valid, p, hvalid, hp, hnodup, hconns, -, hok, hclock, m, hm, hexpr, hhalf⟩ := Scene.dimmed_prepared
  obtain ⟨n, t, spec, hn, htime, ht, hspec, hfloat⟩ := hclock
  obtain ⟨-, htyped, -⟩ := ExprContext.compile_agrees hvalid hp hnodup .refl
    (c := { id := "c0", source := ⟨"clock", "time"⟩, target := ⟨"formula", "t"⟩ }) (by rw [hconns]; decide) hn htime
    (by decide)
  obtain ⟨-, -, hleaves⟩ := ExprContext.compile_agrees hvalid hp hnodup .refl
    (c := { id := "c1", source := ⟨"formula", "half"⟩, target := ⟨"shape", "color"⟩ }) (by rw [hconns]; decide) hm hhalf
    (by decide)
  cases hx : ((ExprContext.compile { prepared := p } ⟨"clock", "time"⟩).run.run {}).1 with
  | error err =>
    rw [hx] at hok
    cases hok
  | ok x =>
    refine ⟨valid, p, x, hvalid, hp, hnodup, hx, ?_, hleaves ⟨hexpr, by decide⟩⟩
    exact (htyped x hx t spec ht hspec (by rw [hfloat]; decide)).trans hfloat

/-- Compilers do not have all the outputs that the schema takes for values. -/
theorem Scene.dimmed_refused : ¬∀ scene valid options p, Schema.builtin.validate scene = .ok valid →
    (valid.prepare Schema.builtin options).outcome.1 = .ok p → p.scene.nodeIds.Nodup →
    ∀ s, ExprContext.Later { prepared := p } {} s → ∀ c ∈ p.scene.connections, ∀ n m type,
      p.node? c.source.node = some n → p.node? c.target.node = some m →
      Schema.builtin.outputType? n c.source.port = some type → Schema.isShaderType type = true →
      ∀ id port, ((ExprContext.compile { prepared := p } c.source).run.run s).1 ≠
        .error (.unsupportedParam id "output port" port) := by
  intro hall
  obtain ⟨valid, p, hvalid, hp, hnodup, hconns, hshape, -, -, n, hn, hexpr, hhalf⟩ := Scene.dimmed_prepared
  obtain ⟨m, hm⟩ := Option.isSome_iff_exists.1 hshape
  refine hall _ valid {} p hvalid hp hnodup {} .refl
    { id := "c1", source := ⟨"formula", "half"⟩, target := ⟨"shape", "color"⟩ } (by rw [hconns]; decide) n m "float" hn
    hm hhalf (by decide) "formula" (.str "half") ?_
  exact ExprContext.compile_snippet_port (c := { prepared := p }) (F := fun _ => True) rfl ExprContext.typing_start
    (ExprContext.compilerOf_snippet hn hexpr) (by decide)

end SceneGraph
