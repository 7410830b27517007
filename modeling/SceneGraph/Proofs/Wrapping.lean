import SceneGraph.Proofs.DistinctIds
import SceneGraph.Proofs.Documents
import SceneGraph.Proofs.Layers
import SceneGraph.Proofs.PermutedRoutes

/-!
# Wrapping values into passes

Where an input for passes is given another value, wrapping puts a pass node in between. The wrappers take what the
inputs for passes accept besides passes, so a scene whose wires fit is wrapped into one whose wires fit, in which
passes alone lead to inputs for passes. Nothing is left to wrap then.

* `Scene.checkConnections_iff`: the check of wires in terms of the types at their ends.
* `Wrap.autoWrap_eq`: the wrapped scene, where wrappers have a normal form.
* `Wrap.Through`: a value reaches its port through one node put in between.
* `Wrap.Completes`: what wrapping makes of a scene, as a whole.
* `Wrap.autoWrap_final`: wrapping is complete, and a second time it does nothing.
-/
set_option autoImplicit false

namespace SceneGraph

/-! ## Types at the ends of wires -/

namespace Scene

variable {schema : Schema} {s : Scene}

theorem indexed?_of_filter {id : String} {n : Node} (h : (s.nodes.filter fun m => m.id == id) = [n]) :
    s.indexed? id = some n := by
  unfold indexed?
  rw [← List.head?_filter, List.filter_reverse, h]
  rfl

theorem mem_nodeIds_of_taken? {e : Endpoint} {type : String} (h : s.taken? schema e = some type) :
    e.node ∈ s.nodeIds := by
  obtain ⟨n, hn, -⟩ := Option.bind_eq_some_iff.1 h
  exact indexed?_isSome.1 ⟨n, hn⟩

/-- The check passes exactly if on every wire between nodes the type that is given may feed the one that is taken. -/
theorem checkConnections_iff : schema.checkConnections s = .ok () ↔
    ∀ c ∈ s.connections, c.source.node ∈ s.nodeIds → c.target.node ∈ s.nodeIds →
      ∃ given wanted, s.given? schema c.source = some given ∧ s.taken? schema c.target = some wanted ∧
        schema.Feeds given wanted := by
  unfold Schema.checkConnections
  rw [Schema.checkAll_iff]
  refine forall₂_congr fun c _ => ?_
  simp only [Schema.Fits, ← Schema.lastWithId?_iff, ← indexed?_isSome, given?, taken?]
  change (∀ a b, s.indexed? c.source.node = some a → s.indexed? c.target.node = some b → _) ↔ _
  constructor
  · rintro h ⟨a, ha⟩ ⟨b, hb⟩
    obtain ⟨given, wanted, hgiven, hwanted, hfeeds⟩ := h a b ha hb
    rw [ha, hb]
    exact ⟨given, wanted, Schema.outputType?_iff.2 hgiven, Schema.inputType?_iff.2 hwanted, hfeeds⟩
  · intro h a b ha hb
    obtain ⟨given, wanted, hgiven, hwanted, hfeeds⟩ := h ⟨a, ha⟩ ⟨b, hb⟩
    rw [ha] at hgiven
    rw [hb] at hwanted
    exact ⟨given, wanted, Schema.outputType?_iff.1 hgiven, Schema.inputType?_iff.1 hwanted, hfeeds⟩

/-- A name that occurs nowhere in a scene: no node has it as its id, and no wire ends there. A wire may end at a
missing node; were a node of that name put in, it would lead there. -/
@[mk_iff]
structure Fresh (s : Scene) (id : String) : Prop where
  nodes : ∀ n ∈ s.nodes, n.id ≠ id
  sources : ∀ c ∈ s.connections, c.source.node ≠ id
  targets : ∀ c ∈ s.connections, c.target.node ≠ id

instance (s : Scene) (id : String) : Decidable (s.Fresh id) := decidable_of_iff' _ (fresh_iff s id)

theorem Fresh.notMem {id : String} (h : s.Fresh id) : id ∉ s.nodeIds := fun hmem => by
  obtain ⟨n, hn, rfl⟩ := List.mem_map.1 hmem
  exact h.nodes n hn rfl

end Scene

/-! ## The built-in types of wrappers -/

namespace Schema

variable {s : Schema} {n : Node} {port : String}

theorem outputType?_of_listed {t : NodeType} {type : String} (ht : s.nodeType? n.type = some t)
    (hgroup : t.category ≠ "group") (hport : (PortSpec.find? t.outputs port).map PortSpec.type = some type)
    (hfixed : type ≠ "any") : s.outputType? n port = some type := by
  obtain ⟨spec, hspec, rfl⟩ := Option.map_eq_some_iff.1 hport
  cases hdeclared : n.declaredOutput? port <;>
    simp [outputType?, ht, hgroup, NodeType.output?, hspec, hdeclared, hfixed]

/-- The node types of wrappers, with their inputs for values: their outputs give passes, and no parameter is
required. -/
theorem builtin_wrappers {e : String × String × String}
    (h : e ∈ [("Blit", "texture", "texture"), ("RenderPass", "color", "vec4")]) :
    ∃ t, builtin.nodeType? e.1 = some t ∧ t.declaredPorts = false ∧ t.category ≠ "group" ∧
      (∀ p ∈ t.params, p.2.required = false) ∧ (PortSpec.find? t.inputs e.2.1).map PortSpec.type = some e.2.2 ∧
      (PortSpec.find? t.outputs "pass").map PortSpec.type = some "pass" := by
  have hall : ∀ e ∈ [("Blit", "texture", "texture"), ("RenderPass", "color", "vec4")],
      (listed.nodeType? e.1).any (fun t => !t.declaredPorts && t.category != "group" &&
        t.params.all (fun p => !p.2.required) && (PortSpec.find? t.inputs e.2.1).map PortSpec.type == some e.2.2 &&
        (PortSpec.find? t.outputs "pass").map PortSpec.type == some "pass") = true := by
    decide +kernel
  obtain ⟨t, ht, hfields⟩ := (Option.any_eq_true ..).1 (hall _ h)
  simp only [Bool.and_eq_true, Bool.not_eq_true', bne_iff_ne, beq_iff_eq, List.all_eq_true] at hfields
  obtain ⟨⟨⟨⟨hdeclared, hgroup⟩, hparams⟩, hinput⟩, houtput⟩ := hfields
  rw [builtin_eq]
  exact ⟨t, ht, hdeclared, hgroup, hparams, hinput, houtput⟩

theorem builtin_compat : builtin.compat.get? "pass" = some ["pass", "vec4", "vec3", "texture", "any"] ∧
    builtin.compat.get? "vec4" = some ["vec4", "vec3", "float", "any"] := by
  rw [builtin_eq]
  decide +kernel

end Schema

/-! ## The wrapped scene -/

namespace Wrap

variable {schema : Schema} {s : Scene} {c e : Connection}

/-- What wrapping puts between: the type of the wrapper of a value, its input for the value and the type of that. -/
def wrapperPorts (type : String) : String × String × String :=
  if type = "texture" then ("Blit", "texture", "texture") else ("RenderPass", "color", "vec4")

theorem wrapper_eq (c : Connection) (type : String) :
    wrapper c type = ({ id := wrapperId c, type := (wrapperPorts type).1 }, (wrapperPorts type).2.1) := by
  unfold wrapper wrapperPorts
  split <;> rfl

theorem wrapperPorts_mem (type : String) :
    wrapperPorts type ∈ [("Blit", "texture", "texture"), ("RenderPass", "color", "vec4")] := by
  unfold wrapperPorts
  split <;> simp

/-- The type of the value that a connection brings. -/
def valueType (schema : Schema) (s : Scene) (c : Connection) : String := (s.given? schema c.source).getD ""

/-- The connection after wrapping: a bare value is led to its wrapper. -/
def rewired (schema : Schema) (s : Scene) (c : Connection) : Connection :=
  if (bareType? schema s c).isSome then
    { c with target := ⟨wrapperId c, (wrapperPorts (valueType schema s c)).2.1⟩ }
  else c

/-- The wrapper of the value that a connection brings, in normal form. -/
def inserted (schema : Schema) (s : Scene) (c : Connection) : Node :=
  match schema.normalize (wrapper c (valueType schema s c)).1 with
  | .ok n => n
  | .error _ => (wrapper c (valueType schema s c)).1

/-- The connection from the wrapper to where the value was to go. -/
def onward (c : Connection) : Connection :=
  { id := c.id ++ "~wrap", source := ⟨wrapperId c, "pass"⟩, target := c.target }

/-- The scene after wrapping. -/
def wrapped (schema : Schema) (s : Scene) : Scene :=
  { s with
    nodes := s.nodes ++ (bare schema s).map (inserted schema s)
    connections := s.connections.map (rewired schema s) ++ (bare schema s).map onward }

theorem bareType?_eq_some {type : String} : bareType? schema s c = some type ↔ c.source.node ∈ s.nodeIds ∧
    s.taken? schema c.target = some "pass" ∧ valueType schema s c = type ∧ type ≠ "pass" := by
  unfold bareType? Scene.taken? valueType Scene.given?
  rw [← Scene.indexed?_isSome]
  cases s.indexed? c.source.node with
  | none => simp
  | some source =>
    cases s.indexed? c.target.node with
    | none => simp
    | some target =>
      simp only [Option.some.injEq, exists_eq', true_and, Option.bind_some]
      by_cases hpass : schema.inputType? target c.target.port = some "pass"
      · by_cases hgiven : (schema.outputType? source c.source.port).getD "" = "pass"
        · simpa [hpass, hgiven] using fun h : "pass" = type => h.symm
        · simp only [hpass, hgiven, if_true, if_false, Option.some.injEq, true_and]
          exact ⟨fun h => ⟨h, h ▸ hgiven⟩, And.left⟩
      · simp [hpass]

/-- A connection brings a bare value if its end takes passes and what is given at its other end is none. -/
theorem mem_bare : c ∈ bare schema s ↔ c ∈ s.connections ∧ c.source.node ∈ s.nodeIds ∧
    s.taken? schema c.target = some "pass" ∧ s.given? schema c.source ≠ some "pass" := by
  have hgiven : (s.given? schema c.source).getD "" ≠ "pass" ↔ s.given? schema c.source ≠ some "pass" := by
    cases s.given? schema c.source <;> simp
  unfold bare
  rw [List.mem_filter, Option.isSome_iff_exists]
  simp only [bareType?_eq_some, valueType, ← hgiven]
  constructor
  · rintro ⟨hc, type, hsource, htaken, rfl, hne⟩
    exact ⟨hc, hsource, htaken, hne⟩
  · rintro ⟨hc, hsource, htaken, hne⟩
    exact ⟨hc, _, hsource, htaken, rfl, hne⟩

theorem rewired_of_mem (h : c ∈ bare schema s) :
    rewired schema s c = { c with target := ⟨wrapperId c, (wrapperPorts (valueType schema s c)).2.1⟩ } :=
  if_pos (List.mem_filter.1 h).2

theorem rewired_of_notMem (hc : c ∈ s.connections) (h : c ∉ bare schema s) : rewired schema s c = c :=
  if_neg fun hsome => h (List.mem_filter.2 ⟨hc, hsome⟩)

theorem rewired_source (schema : Schema) (s : Scene) (c : Connection) : (rewired schema s c).source = c.source := by
  unfold rewired
  split <;> rfl

/-- Where there is no bare value, wrapping changes nothing. -/
theorem wrapped_of_none (h : bare schema s = []) : wrapped schema s = s := by
  have hkept : s.connections.map (rewired schema s) = s.connections := by
    refine (List.map_congr_left fun c hc => rewired_of_notMem hc ?_).trans (List.map_id _)
    rw [h]
    exact List.not_mem_nil
  unfold wrapped
  rw [hkept, h, List.map_nil, List.map_nil, List.append_nil, List.append_nil]

theorem inserted_keeps (schema : Schema) (s : Scene) (c : Connection) :
    (inserted schema s c).id = wrapperId c ∧ (inserted schema s c).type = (wrapperPorts (valueType schema s c)).1 := by
  unfold inserted
  rw [wrapper_eq]
  split
  · rename_i hnormal
    exact Schema.normalize_keeps hnormal
  · exact ⟨rfl, rfl⟩

theorem wrapAll_eq (hnormal : ∀ c type, ∃ w, schema.normalize (wrapper c type).1 = .ok w) (s : Scene)
    (conns : List Connection) (count : Nat) : wrapAll schema s conns count = .ok (conns.map (rewired schema s),
      (conns.filter fun c => (bareType? schema s c).isSome).map (inserted schema s),
      (conns.filter fun c => (bareType? schema s c).isSome).map onward) := by
  induction conns generalizing count with
  | nil => rfl
  | cons c rest ih =>
    unfold wrapAll
    cases hbare : bareType? schema s c with
    | none => simp [ih, rewired, hbare, bind, Except.bind, pure, Except.pure]
    | some type =>
      obtain ⟨-, -, htype, -⟩ := bareType?_eq_some.1 hbare
      obtain ⟨w, hw⟩ := hnormal c type
      rw [wrapper_eq] at hw
      simp [ih, rewired, inserted, onward, hbare, htype, wrapper_eq, hw, bind, Except.bind, pure, Except.pure]

theorem autoWrap_eq (hnormal : ∀ c type, ∃ w, schema.normalize (wrapper c type).1 = .ok w) (s : Scene) :
    autoWrap schema s = ⟨(bare schema s).length, .ok (wrapped schema s)⟩ := by
  unfold autoWrap
  rw [wrapAll_eq hnormal]
  simp [wrapped, bare]

theorem builtin_normalizes (c : Connection) (type : String) :
    ∃ w, Schema.builtin.normalize (wrapper c type).1 = .ok w := by
  obtain ⟨t, ht, -, -, hparams, -, -⟩ := Schema.builtin_wrappers (wrapperPorts_mem type)
  rw [wrapper_eq]
  unfold Schema.normalize
  rw [ht]
  exact (Schema.fillDefaults_isOk (Schema.builtin_sound _ _ ht).ascending).2 fun p hp hrequired => by
    rw [hparams p hp] at hrequired
    cases hrequired

/-! ## Wires of the wrapped scene -/

theorem filter_eq_singleton {α : Type} {f : α → String} {l : List α} (h : (l.map f).Nodup) {a : α} (ha : a ∈ l) :
    l.filter (fun b => f b == f a) = [a] := by
  induction l with
  | nil => cases ha
  | cons b rest ih =>
    obtain ⟨hb, hrest⟩ := List.nodup_cons.1 h
    rcases List.mem_cons.1 ha with rfl | ha
    · have hnone : rest.filter (fun b => f b == f a) = [] := List.filter_eq_nil_iff.2 fun b' hb' heq =>
        hb (List.mem_map.2 ⟨b', hb', beq_iff_eq.1 heq⟩)
      rw [List.filter_cons_of_pos (by simp), hnone]
    · have hne : f b ≠ f a := fun heq => hb (heq ▸ List.mem_map_of_mem ha)
      rw [List.filter_cons_of_neg (by simpa using hne), ih hrest ha]

section

variable (hdistinct : ((bare schema s).map wrapperId).Nodup) (hfresh : ∀ c ∈ bare schema s, s.Fresh (wrapperId c))

include hdistinct hfresh

theorem nodes_wrapper (hc : c ∈ bare schema s) :
    ((wrapped schema s).nodes.filter fun n => n.id == wrapperId c) = [inserted schema s c] := by
  have hold : (s.nodes.filter fun n => n.id == wrapperId c) = [] :=
    List.filter_eq_nil_iff.2 fun n hn heq => (hfresh c hc).nodes n hn (beq_iff_eq.1 heq)
  have hid : ((fun n : Node => n.id == wrapperId c) ∘ inserted schema s) = fun e => wrapperId e == wrapperId c :=
    funext fun e => by rw [Function.comp_apply, (inserted_keeps schema s e).1]
  change (s.nodes ++ (bare schema s).map (inserted schema s)).filter _ = _
  rw [List.filter_append, hold, List.filter_map, hid, filter_eq_singleton hdistinct hc]
  rfl

/-- One connection leads to a wrapper, from where its value came. -/
theorem incomingTo_wrapper (hc : c ∈ bare schema s) :
    (wrapped schema s).incomingTo (wrapperId c) = [rewired schema s c] := by
  have hold : (s.connections.filter fun e => (rewired schema s e).target.node == wrapperId c) =
      (bare schema s).filter fun e => wrapperId e == wrapperId c := by
    unfold bare
    rw [List.filter_filter]
    refine List.filter_congr fun e he => ?_
    unfold rewired
    cases hbare : (bareType? schema s e).isSome with
    | true => simp
    | false => simpa using (hfresh c hc).targets e he
  have hnew : ((bare schema s).map onward).filter (fun e => e.target.node == wrapperId c) = [] := by
    refine List.filter_eq_nil_iff.2 fun e he heq => ?_
    obtain ⟨d, hd, rfl⟩ := List.mem_map.1 he
    exact (hfresh c hc).targets d (mem_bare.1 hd).1 (beq_iff_eq.1 heq)
  change (s.connections.map (rewired schema s) ++ (bare schema s).map onward).filter _ = _
  rw [List.filter_append, hnew, List.append_nil, List.filter_map]
  change (s.connections.filter fun e => (rewired schema s e).target.node == wrapperId c).map _ = _
  rw [hold, filter_eq_singleton hdistinct hc]
  rfl

/-- One connection leads from a wrapper, to where its value was to go. -/
theorem outgoingFrom_wrapper (hc : c ∈ bare schema s) :
    (wrapped schema s).outgoingFrom (wrapperId c) = [onward c] := by
  have hold : (s.connections.map (rewired schema s)).filter (fun e => e.source.node == wrapperId c) = [] := by
    refine List.filter_eq_nil_iff.2 fun e he heq => ?_
    obtain ⟨d, hd, rfl⟩ := List.mem_map.1 he
    rw [rewired_source] at heq
    exact (hfresh c hc).sources d hd (beq_iff_eq.1 heq)
  change (s.connections.map (rewired schema s) ++ (bare schema s).map onward).filter _ = _
  rw [List.filter_append, hold, List.nil_append, List.filter_map]
  change ((bare schema s).filter fun e => wrapperId e == wrapperId c).map _ = _
  rw [filter_eq_singleton hdistinct hc]
  rfl

end

/-- Nodes that are no wrappers are the ones that were there before. -/
theorem indexed?_unwrapped {id : String} (h : ∀ c ∈ bare schema s, wrapperId c ≠ id) :
    (wrapped schema s).indexed? id = s.indexed? id := by
  have hnone : ((bare schema s).map (inserted schema s)).reverse.find? (fun n => n.id == id) = none := by
    refine List.find?_eq_none.2 fun n hn heq => ?_
    obtain ⟨c, hc, rfl⟩ := List.mem_map.1 (List.mem_reverse.1 hn)
    exact h c hc ((inserted_keeps schema s c).1.symm.trans (beq_iff_eq.1 heq))
  change (s.nodes ++ (bare schema s).map (inserted schema s)).reverse.find? _ = _
  rw [List.reverse_append, List.find?_append, hnone, Option.none_or]
  rfl

theorem given?_unwrapped {p : Endpoint} (h : ∀ c ∈ bare schema s, wrapperId c ≠ p.node) :
    (wrapped schema s).given? schema p = s.given? schema p := by
  unfold Scene.given?
  rw [indexed?_unwrapped h]

theorem taken?_unwrapped {p : Endpoint} (h : ∀ c ∈ bare schema s, wrapperId c ≠ p.node) :
    (wrapped schema s).taken? schema p = s.taken? schema p := by
  unfold Scene.taken?
  rw [indexed?_unwrapped h]

/-- The node at the id of a wrapper takes its value at one port and gives a pass at another. -/
theorem wrapper_types {t : Scene} {type : String} {w : Node} (hw : t.indexed? w.id = some w)
    (htype : w.type = (wrapperPorts type).1) :
    t.taken? Schema.builtin ⟨w.id, (wrapperPorts type).2.1⟩ = some (wrapperPorts type).2.2 ∧
      t.given? Schema.builtin ⟨w.id, "pass"⟩ = some "pass" := by
  obtain ⟨nt, ht, hdeclared, hgroup, -, hinput, houtput⟩ := Schema.builtin_wrappers (wrapperPorts_mem type)
  rw [← htype] at ht
  unfold Scene.taken? Scene.given?
  rw [hw]
  exact ⟨Schema.inputType?_of_listed ht hdeclared hinput, Schema.outputType?_of_listed ht hgroup houtput (by decide)⟩

/-- What an input for passes accepts besides passes, its wrapper accepts. -/
theorem feeds_wrapper {given : String} (h : Schema.builtin.Feeds given "pass") (hne : given ≠ "pass") :
    Schema.builtin.Feeds given (wrapperPorts given).2.2 := by
  obtain ⟨hpass, hvec4⟩ := Schema.builtin_compat
  rcases h with rfl | ⟨accepted, haccepted, hmem⟩
  · exact absurd rfl hne
  · obtain rfl := Option.some.inj (hpass.symm.trans haccepted)
    unfold wrapperPorts
    split
    · rename_i htexture
      exact .inl htexture
    · rename_i htexture
      have hrest : given = "vec4" ∨ given = "vec3" ∨ given = "any" := by simpa [hne, htexture] using hmem
      refine .inr ⟨_, hvec4, ?_⟩
      rcases hrest with rfl | rfl | rfl <;> decide

/-- In the wrapped scene every wire between nodes fits, and passes alone lead to inputs for passes. -/
theorem wrapped_fits (hcheck : Schema.builtin.checkConnections s = .ok ())
    (hdistinct : ((bare Schema.builtin s).map wrapperId).Nodup)
    (hfresh : ∀ c ∈ bare Schema.builtin s, s.Fresh (wrapperId c)) {e : Connection}
    (he : e ∈ (wrapped Schema.builtin s).connections) (hsource : e.source.node ∈ (wrapped Schema.builtin s).nodeIds)
    (htarget : e.target.node ∈ (wrapped Schema.builtin s).nodeIds) :
    ∃ given wanted, (wrapped Schema.builtin s).given? Schema.builtin e.source = some given ∧
      (wrapped Schema.builtin s).taken? Schema.builtin e.target = some wanted ∧
      Schema.builtin.Feeds given wanted ∧ (wanted = "pass" → given = "pass") := by
  have hfits := Scene.checkConnections_iff.1 hcheck
  have hsources : ∀ {c}, c ∈ s.connections → ∀ d ∈ bare Schema.builtin s, wrapperId d ≠ c.source.node :=
    fun hc d hd => ((hfresh d hd).sources _ hc).symm
  have htargets : ∀ {c}, c ∈ s.connections → ∀ d ∈ bare Schema.builtin s, wrapperId d ≠ c.target.node :=
    fun hc d hd => ((hfresh d hd).targets _ hc).symm
  have hwrapper : ∀ {c}, c ∈ bare Schema.builtin s →
      (wrapped Schema.builtin s).taken? Schema.builtin ⟨wrapperId c, (wrapperPorts (valueType .builtin s c)).2.1⟩ =
        some (wrapperPorts (valueType .builtin s c)).2.2 ∧
      (wrapped Schema.builtin s).given? Schema.builtin ⟨wrapperId c, "pass"⟩ = some "pass" := fun {c} hc => by
    obtain ⟨hid, htype⟩ := inserted_keeps Schema.builtin s c
    have hw := Scene.indexed?_of_filter (nodes_wrapper hdistinct hfresh hc)
    rw [← hid] at hw ⊢
    exact wrapper_types hw htype
  rcases List.mem_append.1 he with he | he
  · obtain ⟨c, hc, rfl⟩ := List.mem_map.1 he
    rw [rewired_source] at hsource ⊢
    rw [given?_unwrapped (hsources hc)]
    rw [← Scene.indexed?_isSome, indexed?_unwrapped (hsources hc), Scene.indexed?_isSome] at hsource
    by_cases hbare : c ∈ bare Schema.builtin s
    · -- The value goes to its wrapper.
      obtain ⟨-, -, htaken, hgiven⟩ := mem_bare.1 hbare
      obtain ⟨given, wanted, hsome, hwanted, hfeeds⟩ := hfits c hc hsource (Scene.mem_nodeIds_of_taken? htaken)
      obtain rfl := Option.some.inj (htaken.symm.trans hwanted)
      have hne : given ≠ "pass" := fun heq => hgiven (heq ▸ hsome)
      have htype : valueType .builtin s c = given := by rw [valueType, hsome, Option.getD_some]
      refine ⟨given, (wrapperPorts given).2.2, hsome, ?_, feeds_wrapper hfeeds hne, fun heq => ?_⟩
      · rw [rewired_of_mem hbare, ← htype]
        exact (hwrapper hbare).1
      · unfold wrapperPorts at heq
        split at heq <;> exact absurd heq (by decide)
    · rw [rewired_of_notMem hc hbare] at htarget ⊢
      rw [taken?_unwrapped (htargets hc)]
      rw [← Scene.indexed?_isSome, indexed?_unwrapped (htargets hc), Scene.indexed?_isSome] at htarget
      obtain ⟨given, wanted, hgiven, hwanted, hfeeds⟩ := hfits c hc hsource htarget
      refine ⟨given, wanted, hgiven, hwanted, hfeeds, fun heq => ?_⟩
      by_contra hne
      refine hbare (mem_bare.2 ⟨hc, hsource, heq ▸ hwanted, fun hpass => hne ?_⟩)
      exact Option.some.inj (hgiven.symm.trans hpass)
  · obtain ⟨c, hbare, rfl⟩ := List.mem_map.1 he
    obtain ⟨hc, -, htaken, -⟩ := mem_bare.1 hbare
    exact ⟨"pass", "pass", (hwrapper hbare).2, (taken?_unwrapped (htargets hc)).trans htaken, .inl rfl, fun _ => rfl⟩

/-! ## Wrapping -/

/-- The value of a connection reaches the port that it was to go to through one node that is put in between: a copy of
a texture, or a drawing of any other value. One connection leads to that node, and one leads on from it. -/
structure Through (s t : Scene) (c : Connection) : Prop where
  node : ∃ w, (t.nodes.filter fun n => n.id == wrapperId c) = [w] ∧
    w.type = if s.given? Schema.builtin c.source = some "texture" then "Blit" else "RenderPass"
  inserted : wrapperId c ∉ s.nodeIds
  entering : ∃ port, t.incomingTo (wrapperId c) = [{ c with target := ⟨wrapperId c, port⟩ }]
  leaving : ∃ id, t.outgoingFrom (wrapperId c) = [{ id, source := ⟨wrapperId c, "pass"⟩, target := c.target }]

/-- A scene after wrapping, with the wrappers that were appended. All wires fit, and what leads from a node to an input
for passes is a pass. Connections to other inputs are left in their places, every value that was given to an input for
passes goes there through its wrapper, and wrapping a second time changes nothing. -/
structure Completes (s t : Scene) (added : List Node) : Prop where
  run : autoWrap Schema.builtin s = ⟨added.length, .ok t⟩
  nodes : t.nodes = s.nodes ++ added
  wrappers : added.map Node.id = (bare Schema.builtin s).map wrapperId
  fits : Schema.builtin.checkConnections t = .ok ()
  passes : ∀ c ∈ t.connections, c.source.node ∈ t.nodeIds → t.taken? Schema.builtin c.target = some "pass" →
    t.given? Schema.builtin c.source = some "pass"
  others : ∀ (i : Nat) (c : Connection), s.connections[i]? = some c →
    s.taken? Schema.builtin c.target ≠ some "pass" → t.connections[i]? = some c
  values : ∀ c ∈ s.connections, c.source.node ∈ s.nodeIds → s.taken? Schema.builtin c.target = some "pass" →
    s.given? Schema.builtin c.source ≠ some "pass" → Through s t c
  again : autoWrap Schema.builtin t = ⟨0, .ok t⟩

/-- Where all wires of a scene fit and the ids of the wrappers are distinct names that occur nowhere in it, wrapping
succeeds and is complete. -/
theorem autoWrap_final (hcheck : Schema.builtin.checkConnections s = .ok ())
    (hdistinct : ((bare Schema.builtin s).map wrapperId).Nodup)
    (hfresh : ∀ c ∈ bare Schema.builtin s, s.Fresh (wrapperId c)) : ∃ t added, Completes s t added := by
  have hpasses : ∀ c ∈ (wrapped Schema.builtin s).connections, c.source.node ∈ (wrapped Schema.builtin s).nodeIds →
      (wrapped Schema.builtin s).taken? Schema.builtin c.target = some "pass" →
      (wrapped Schema.builtin s).given? Schema.builtin c.source = some "pass" := fun c hc hsource htaken => by
    obtain ⟨given, wanted, hgiven, hwanted, -, hpass⟩ :=
      wrapped_fits hcheck hdistinct hfresh hc hsource (Scene.mem_nodeIds_of_taken? htaken)
    rw [hgiven, hpass (Option.some.inj (hwanted.symm.trans htaken))]
  refine ⟨wrapped .builtin s, (bare .builtin s).map (inserted .builtin s), ?_, rfl, ?_, ?_, hpasses, ?_, ?_, ?_⟩
  · rw [autoWrap_eq builtin_normalizes, List.length_map]
  · rw [List.map_map]
    exact List.map_congr_left fun c _ => (inserted_keeps .builtin s c).1
  · refine Scene.checkConnections_iff.2 fun c hc hsource htarget => ?_
    obtain ⟨given, wanted, hgiven, hwanted, hfeeds, -⟩ := wrapped_fits hcheck hdistinct hfresh hc hsource htarget
    exact ⟨given, wanted, hgiven, hwanted, hfeeds⟩
  · intro i c hc htaken
    obtain ⟨hi, rfl⟩ := List.getElem?_eq_some_iff.1 hc
    have hnot : s.connections[i] ∉ bare .builtin s := fun hbare => htaken (mem_bare.1 hbare).2.2.1
    change (s.connections.map (rewired .builtin s) ++ (bare .builtin s).map onward)[i]? = _
    rw [List.getElem?_append_left (by simpa using hi), List.getElem?_map, hc, Option.map_some,
      rewired_of_notMem (List.getElem_mem hi) hnot]
  · intro c hc hsource htaken hgiven
    have hbare : c ∈ bare .builtin s := mem_bare.2 ⟨hc, hsource, htaken, hgiven⟩
    refine ⟨⟨_, nodes_wrapper hdistinct hfresh hbare, ?_⟩, (hfresh c hbare).notMem,
      ⟨(wrapperPorts (valueType .builtin s c)).2.1, ?_⟩, ⟨c.id ++ "~wrap", ?_⟩⟩
    · rw [(inserted_keeps .builtin s c).2]
      cases hvalue : s.given? Schema.builtin c.source <;> simp [valueType, wrapperPorts, hvalue, apply_ite Prod.fst]
    · rw [incomingTo_wrapper hdistinct hfresh hbare, rewired_of_mem hbare]
    · exact outgoingFrom_wrapper hdistinct hfresh hbare
  · have hnone : bare Schema.builtin (wrapped .builtin s) = [] := List.eq_nil_iff_forall_not_mem.2 fun c hc => by
      obtain ⟨hmem, hsource, htaken, hgiven⟩ := mem_bare.1 hc
      exact hgiven (hpasses c hmem hsource htaken)
    rw [autoWrap_eq builtin_normalizes, wrapped_of_none hnone, hnone]
    rfl

/-- A picture and a color among the layers of a composition, and a layer whose node is missing. -/
def collage : Scene where
  nodes := [{ id := "screen", type := "Screen" }, { id := "stack", type := "Composite" },
    { id := "photo", type := "ImageTexture" }, { id := "tint", type := "Color" }]
  connections := [{ id := "a", source := ⟨"photo", "texture"⟩, target := ⟨"stack", "dynamic_0"⟩ },
    { id := "b", source := ⟨"tint", "color"⟩, target := ⟨"stack", "dynamic_1"⟩ },
    { id := "c", source := ⟨"stack", "pass"⟩, target := ⟨"screen", "pass"⟩ },
    { id := "d", source := ⟨"gone", "pass"⟩, target := ⟨"stack", "pass"⟩ }]

theorem collage_checks : (Schema.builtin.checkConnections collage).toBool = true ∧
    (bare Schema.builtin collage).map wrapperId = ["photo~wrap~stack.dynamic_0", "tint~wrap~stack.dynamic_1"] ∧
    ∀ c ∈ bare Schema.builtin collage, collage.Fresh (wrapperId c) := by
  rw [Schema.builtin_eq]
  decide +kernel

theorem collage_completes : Schema.builtin.checkConnections collage = .ok () ∧
    ((bare Schema.builtin collage).map wrapperId).Nodup ∧
    (∀ c ∈ bare Schema.builtin collage, collage.Fresh (wrapperId c)) ∧ ∃ t added, Completes collage t added := by
  obtain ⟨hcheck, hids, hfresh⟩ := collage_checks
  have hcheck : Schema.builtin.checkConnections collage = .ok () := by
    cases h : Schema.builtin.checkConnections collage with
    | error e =>
      rw [h] at hcheck
      cases hcheck
    | ok u => rfl
  have hdistinct : ((bare Schema.builtin collage).map wrapperId).Nodup := by
    rw [hids]
    decide
  exact ⟨hcheck, hdistinct, hfresh, autoWrap_final hcheck hdistinct hfresh⟩

/-- A wire that waits for a node of the name of a wrapper is wrapped in turn. -/
example : (autoWrap Schema.builtin { collage with connections := collage.connections ++
    [{ source := ⟨"photo~wrap~stack.dynamic_0", "image"⟩, target := ⟨"screen", "pass"⟩ }] }).result.toOption.map
      (fun t => (autoWrap Schema.builtin t).count) = some 1 := by
  rw [Schema.builtin_eq]
  decide +kernel

end Wrap

end SceneGraph
