import SceneGraph.Proofs.Lockstep
import SceneGraph.Proofs.Prepared

/-!
# Edits of constants

An edit changes numbers and truth values that nodes hold as constants, and keeps their kinds and
lengths. Validation and the steps of preparation before baking keep two scenes one edit apart, and
what they read off the graph (the order, the names and the output) is the same for both.

* `Node.constantKeys`: the parameters that hold constants.
* `Value.Alike`: values of one kind and length.
* `Scene.Edited`: two scenes one edit apart.
* `Schema.validate_edited`, `Groups.expand_edited`, `Images.inline_edited`, `Wrap.autoWrap_edited`,
  `Graph.treeShake_edited`: the steps keep scenes one edit apart.
-/
set_option autoImplicit false

namespace SceneGraph

/-- Values of one kind: two numbers, two truth values, or two lists of numbers of one length. -/
inductive Value.Alike : Value → Value → Prop where
  | num (x y : Float) : Alike (.num x) (.num y)
  | bool (a b : Bool) : Alike (.bool a) (.bool b)
  | list (xs ys : List Float) (h : xs.length = ys.length) : Alike (.list (xs.map .num)) (.list (ys.map .num))

namespace Node

/-- The parameters of a type of node that hold its constants. -/
def constantKeys (type : String) : List String :=
  match type with
  | "Float" | "Int" | "Bool" | "Vec2" | "Vec3" | "Vec4" | "Color" | "Mat4" => ["value"]
  | "Time" => ["speed"]
  | "Clamp" => ["min", "max"]
  | "Blur" => ["radius"]
  | "Bloom" => ["threshold", "intensity"]
  | "RenderPass" => ["transform"]
  | _ => []

/-- The values of a parameter before and after an edit. -/
def ValueEdit (type key : String) (v w : Value) : Prop := v = w ∨ key ∈ constantKeys type ∧ v.Alike w

/-- Two nodes that differ in constants only. -/
structure Edited (n m : Node) : Prop where
  id : n.id = m.id
  type : n.type = m.type
  params : TableRel (ValueEdit n.type) n.params m.params
  inputs : n.inputs = m.inputs
  outputs : n.outputs = m.outputs

end Node

/-- Two groups that differ in constants of their nodes only. -/
structure Group.Edited (g h : Group) : Prop where
  id : g.id = h.id
  nodes : List.Forall₂ Node.Edited g.nodes h.nodes
  connections : g.connections = h.connections
  inputs : g.inputs = h.inputs
  outputs : g.outputs = h.outputs

/-- Two scenes that differ in constants of nodes only. -/
structure Scene.Edited (s t : Scene) : Prop where
  nodes : List.Forall₂ Node.Edited s.nodes t.nodes
  connections : s.connections = t.connections
  outputs : s.outputs = t.outputs
  groups : List.Forall₂ Group.Edited s.groups t.groups

/-! ## Values -/

namespace Value.Alike

variable {v w : Value}

theorem isNull (h : v.Alike w) : v.isNull = false ∧ w.isNull = false := by
  cases h <;> exact ⟨rfl, rfl⟩

theorem mapM_toFloat? (xs : List Float) : (xs.map Value.num).mapM toFloat? = some xs := by
  induction xs with
  | nil => rfl
  | cons x xs ih =>
    rw [List.map_cons, List.mapM_cons, ih]
    rfl

theorem toFloats? (h : v.Alike w) :
    Option.Rel (fun xs ys => xs.length = ys.length) v.toFloats? w.toFloats? := by
  cases h with
  | num x y => exact .some rfl
  | bool a b => exact .some rfl
  | list xs ys h =>
    simp only [Value.toFloats?, mapM_toFloat?]
    exact .some h

end Value.Alike

/-! ## Parameters -/

namespace Node

/-- Every parameter that holds constants of some type of node. -/
def constantNames : List String :=
  ["value", "speed", "min", "max", "radius", "threshold", "intensity", "transform"]

theorem constantKeys_subset (type : String) : constantKeys type ⊆ constantNames := by
  unfold constantKeys
  split <;> decide

theorem notMem_constantKeys {key : String} (h : key ∉ constantNames) (type : String) : key ∉ constantKeys type :=
  fun hmem => h (constantKeys_subset type hmem)

namespace ValueEdit

variable {type key : String} {v w : Value}

theorem refl (type key : String) (v : Value) : ValueEdit type key v v := .inl rfl

theorem isNull (h : ValueEdit type key v w) : v.isNull = w.isNull := by
  rcases h with rfl | ⟨_, h⟩
  · rfl
  · rw [h.isNull.1, h.isNull.2]

theorem toFloats? (h : ValueEdit type key v w) :
    Option.Rel (fun xs ys => xs.length = ys.length) v.toFloats? w.toFloats? := by
  rcases h with rfl | ⟨_, h⟩
  · cases v.toFloats? with
    | none => exact .none
    | some xs => exact .some rfl
  · exact h.toFloats?

end ValueEdit

namespace Edited

variable {n m : Node}

theorem refl (n : Node) : n.Edited n :=
  ⟨rfl, rfl, List.forall₂_same.2 fun _ _ => ⟨rfl, .refl _ _ _⟩, rfl, rfl⟩

theorem param (h : n.Edited m) (key : String) : ValueEdit n.type key (n.param key) (m.param key) := by
  unfold Node.param
  have hget := h.params.get? key
  generalize n.params.get? key = v? at hget
  generalize m.params.get? key = w? at hget
  cases hget with
  | none => exact .refl _ _ _
  | some hvw => exact hvw

theorem hasParam (h : n.Edited m) (key : String) : n.hasParam key = m.hasParam key := by
  unfold Node.hasParam
  have hget := h.params.get? key
  generalize n.params.get? key = v? at hget
  generalize m.params.get? key = w? at hget
  cases hget with
  | none => rfl
  | some hvw => simp only [hvw.isNull]

theorem param_eq (h : n.Edited m) {key : String} (hkey : key ∉ constantKeys n.type) : n.param key = m.param key := by
  rcases h.param key with heq | ⟨hmem, _⟩
  · exact heq
  · exact absurd hmem hkey

theorem string? (h : n.Edited m) (key : String) : n.string? key = m.string? key := by
  unfold Node.string?
  rcases h.param key with heq | ⟨_, halike⟩
  · rw [heq]
  · generalize n.param key = v at halike
    generalize m.param key = w at halike
    cases halike <;> rfl

theorem stringOr (h : n.Edited m) (key default : String) : n.stringOr key default = m.stringOr key default := by
  unfold Node.stringOr
  rw [h.string?]

theorem float? (h : n.Edited m) {key : String} (hkey : key ∉ constantKeys n.type) : n.float? key = m.float? key := by
  unfold Node.float?
  rw [h.param_eq hkey]

theorem intOr (h : n.Edited m) {key : String} (hkey : key ∉ constantKeys n.type) (default : Int) :
    n.intOr key default = m.intOr key default := by
  unfold Node.intOr
  rw [h.float? hkey]

theorem floats? (h : n.Edited m) (key : String) :
    Option.Rel (fun xs ys => xs.length = ys.length) (n.floats? key) (m.floats? key) :=
  (h.param key).toFloats?

theorem setParam (h : n.Edited m) (key : String) (v : Value) : (n.setParam key v).Edited (m.setParam key v) :=
  ⟨h.id, h.type, h.params.insert (.refl _ _ _), h.inputs, h.outputs⟩

theorem withId (h : n.Edited m) (id : String) : ({ n with id } : Node).Edited { m with id } :=
  ⟨rfl, h.type, h.params, h.inputs, h.outputs⟩

end Edited

end Node

/-! ## Validation -/

theorem ParamSpec.checkRange_eq_ok {p : ParamSpec} {node : String} {x : Float} {v : Value}
    (h : p.checkRange node x = .ok v) : v = .num x := by
  have hupper : ∀ outside : String → Except ValidationError Value, (∀ e, outside e ≠ .ok v) →
      ParamSpec.checkRange.upper p x outside = .ok v → v = .num x := by
    intro outside hout hrun
    unfold ParamSpec.checkRange.upper at hrun
    split at hrun
    · split at hrun
      · exact absurd hrun (hout _)
      · cases hrun
        rfl
    · cases hrun
      rfl
  unfold ParamSpec.checkRange at h
  split at h
  · cases h
  · split at h
    · split at h
      · cases h
      · exact hupper _ (by simp) h
    · exact hupper _ (by simp) h

theorem ParamSpec.checkNumber_eq_ok {p : ParamSpec} {node : String} {v w : Value}
    (h : p.checkNumber node v = .ok w) : ∃ x, v = .num x ∧ w = .num x := by
  unfold ParamSpec.checkNumber at h
  split at h
  · rename_i x
    split at h
    · cases h
    · exact ⟨x, rfl, checkRange_eq_ok h⟩
  · cases h

namespace Value.Alike

variable {v w v' w' : Value} {p : ParamSpec} {node : String}

theorem checkColor (h : v.Alike w) : Agree Alike (p.checkColor node v) (p.checkColor node w) := by
  cases h with
  | num => exact .error_left
  | bool => exact .error_left
  | list xs ys h =>
    unfold ParamSpec.checkColor
    simp only [List.length_map, h]
    split
    · refine Agree.bind (Q := fun _ _ => True) (fun _ _ _ _ => trivial) fun _ _ _ => .ok ?_
      split
      · have hx : xs.map Value.num ++ [.num 1] = (xs ++ [1]).map .num := by simp
        have hy : ys.map Value.num ++ [.num 1] = (ys ++ [1]).map .num := by simp
        rw [hx, hy]
        exact .list _ _ (by simp [h])
      · exact .list _ _ h
    · exact .error_left

theorem checkVector (h : v.Alike w) : Agree Alike (p.checkVector node v) (p.checkVector node w) := by
  cases h with
  | num => exact .error_left
  | bool => exact .error_left
  | list xs ys h =>
    unfold ParamSpec.checkVector
    simp only [List.length_map, h]
    split
    · exact .error_left
    · exact Agree.bind (Q := fun _ _ => True) (fun _ _ _ _ => trivial) fun _ _ _ => .ok (.list _ _ h)

theorem checkNumber : Agree Alike (p.checkNumber node v) (p.checkNumber node w) := by
  intro v' w' hv hw
  obtain ⟨x, _, rfl⟩ := ParamSpec.checkNumber_eq_ok hv
  obtain ⟨y, _, rfl⟩ := ParamSpec.checkNumber_eq_ok hw
  exact .num x y

theorem check (h : v.Alike w) : Agree Alike (p.check node v) (p.check node w) := by
  unfold ParamSpec.check
  split
  · exact checkNumber
  · exact checkNumber
  · exact checkNumber
  · cases h with
    | num => exact .error_left
    | bool a b => exact .ok (.bool a b)
    | list => exact .error_left
  · cases h <;> exact .error_left
  · cases h <;> exact .error_left
  · exact h.checkColor
  · exact h.checkVector
  · exact h.checkVector
  · exact h.checkVector
  · exact h.checkVector
  · exact .ok h

end Value.Alike

namespace Schema

variable {s : Schema} {n m : Node}

theorem checkParams_edited {type : String} {t : NodeType} {node : String} {ps qs : Table Value}
    (h : TableRel (Node.ValueEdit type) ps qs) :
    Agree (TableRel (Node.ValueEdit type)) (s.checkParams t node ps) (s.checkParams t node qs) := by
  induction h with
  | nil => exact .ok .nil
  | @cons p q ps qs hpq _ ih =>
    obtain ⟨key, v⟩ := p
    obtain ⟨key', w⟩ := q
    obtain rfl : key = key' := hpq.1
    have hvalue : Node.ValueEdit type key v w := hpq.2
    unfold checkParams
    split
    · split
      · exact ih.bind fun _ _ hrest => .ok (.cons hpq hrest)
      · exact .error_left
    · rename_i spec _
      rw [hvalue.isNull]
      split
      · exact ih
      · have hcheck : Agree (Node.ValueEdit type key) (spec.check node v) (spec.check node w) := by
          rcases hvalue with rfl | ⟨hkey, halike⟩
          · exact (Agree.of_eq rfl).mono fun _ _ heq => .inl heq
          · exact halike.check.mono fun _ _ halike => .inr ⟨hkey, halike⟩
        exact hcheck.bind fun _ _ hvw => ih.bind fun _ _ hrest => .ok (.cons ⟨rfl, hvw⟩ hrest)

theorem fillDefaults_edited {params : Table ParamSpec} (h : n.Edited m) :
    Agree Node.Edited (fillDefaults params n) (fillDefaults params m) := by
  induction params generalizing n m with
  | nil => exact .ok h
  | cons spec rest ih =>
    obtain ⟨name, p⟩ := spec
    unfold fillDefaults
    rw [h.hasParam]
    split
    · exact ih h
    · split
      · exact .error_left
      · split
        · exact ih (h.setParam name _)
        · exact ih h

theorem normalize_edited (h : n.Edited m) : Agree Node.Edited (s.normalize n) (s.normalize m) := by
  unfold normalize
  rw [← h.type, ← h.id]
  split
  · exact .error_left
  · refine (checkParams_edited h.params).bind fun ps qs hparams => fillDefaults_edited ?_
    exact ⟨rfl, rfl, hparams, h.inputs, h.outputs⟩

theorem normalizeGroup_edited {g g' : Group} (h : g.Edited g') :
    Agree Group.Edited (s.normalizeGroup g) (s.normalizeGroup g') := by
  refine (Agree.mapM h.nodes fun _ _ => normalize_edited).bind fun nodes nodes' hnodes => ?_
  refine Agree.bind (Q := fun _ _ => True) (fun _ _ _ _ => trivial) fun _ _ _ => .ok ?_
  exact ⟨h.id, hnodes, h.connections, h.inputs, h.outputs⟩

/-- Validation keeps scenes one edit apart. -/
theorem validate_edited {sc sc' : Scene} (h : sc.Edited sc') :
    Agree Scene.Edited (s.validate sc) (s.validate sc') := by
  refine (Agree.mapM h.nodes fun _ _ => normalize_edited).bind fun nodes nodes' hnodes => ?_
  refine (Agree.mapM h.groups fun _ _ => normalizeGroup_edited).bind fun groups groups' hgroups => ?_
  refine Agree.bind (Q := fun _ _ => True) (fun _ _ _ _ => trivial) fun _ _ _ => .ok ?_
  exact ⟨hnodes, h.connections, h.outputs, hgroups⟩

end Schema

/-! ## Lookup -/

namespace Scene.Edited

variable {s t : Scene}

theorem indexed? (h : s.Edited t) (id : String) : Option.Rel Node.Edited (s.indexed? id) (t.indexed? id) :=
  find?_rel (List.forall₂_reverse_iff.2 h.nodes) fun n m hnm => by rw [hnm.id]

theorem nodeIds (h : s.Edited t) : s.nodeIds = t.nodeIds :=
  map_eq_of_forall₂ h.nodes fun _ _ hnm => hnm.id

theorem inputAt? (h : s.Edited t) (id : String) (ports : List String) : s.inputAt? id ports = t.inputAt? id ports := by
  unfold Scene.inputAt? Scene.inputConnection?
  rw [h.connections]

theorem outgoingFrom (h : s.Edited t) (id : String) : s.outgoingFrom id = t.outgoingFrom id := by
  unfold Scene.outgoingFrom
  rw [h.connections]

end Scene.Edited

/-! ## Expanding groups -/

namespace Groups

variable {s t : Scene} {g g' : Group} {inst : String}

theorem rewireAll_edited (h : g.Edited g') (conns : List Connection) :
    rewireAll inst g conns = rewireAll inst g' conns := by
  have hone : ∀ c, rewire inst g c = rewire inst g' c := by
    intro c
    unfold rewire
    rw [h.inputs, h.outputs, h.id]
  induction conns with
  | nil => rfl
  | cons c rest ih =>
    unfold rewireAll
    rw [hone, ih]

theorem rewireOutputs_edited (h : g.Edited g') (outputs : Table String) :
    rewireOutputs inst g outputs = rewireOutputs inst g' outputs := by
  induction outputs with
  | nil => rfl
  | cons o rest ih =>
    obtain ⟨name, id⟩ := o
    unfold rewireOutputs
    rw [h.outputs, h.id, ih]

theorem instantiate_edited (h : s.Edited t) (hg : g.Edited g') :
    Agree Scene.Edited (instantiate s inst g) (instantiate t inst g') := by
  unfold instantiate
  rw [h.connections, h.outputs, rewireAll_edited hg, rewireOutputs_edited hg]
  refine (Agree.of_eq rfl).bind fun conns _ hconns => (Agree.of_eq rfl).bind fun outputs _ houtputs => .ok ?_
  subst hconns houtputs
  exact ⟨h.nodes, by rw [hg.connections], rfl, h.groups⟩

theorem find?_edited {groups groups' : List Group} (h : List.Forall₂ Group.Edited groups groups') (id : String) :
    Option.Rel Group.Edited (find? groups id) (find? groups' id) :=
  find?_rel (List.forall₂_reverse_iff.2 h) fun g g' hg => by rw [hg.id]

theorem innerNodes_edited (h : g.Edited g') :
    List.Forall₂ Node.Edited (innerNodes inst g) (innerNodes inst g') :=
  forall₂_map h.nodes fun n m hnm => by
    rw [hnm.id]
    exact hnm.withId _

theorem expandNodes_edited {groups groups' : List Group} (hgroups : List.Forall₂ Group.Edited groups groups')
    {ns ms : List Node} (hns : List.Forall₂ Node.Edited ns ms) (h : s.Edited t) :
    Agree (fun r r' => r.1.Edited r'.1 ∧ List.Forall₂ Node.Edited r.2.1 r'.2.1)
      (expandNodes groups s ns) (expandNodes groups' t ms) := by
  induction hns generalizing s t with
  | nil => exact .ok ⟨h, .nil⟩
  | @cons n m ns ms hnm _ ih =>
    unfold expandNodes
    rw [← hnm.type]
    split
    · simp only [← hnm.stringOr, ← hnm.id]
      have hfound := find?_edited hgroups (n.stringOr "groupId" "")
      generalize find? groups (n.stringOr "groupId" "") = g? at hfound
      generalize find? groups' (n.stringOr "groupId" "") = g?' at hfound
      cases hfound with
      | none => exact .error_left
      | some hg =>
        refine (instantiate_edited h hg).bind fun s' t' h' => (ih h').bind ?_
        rintro ⟨s'', ns', _⟩ ⟨t'', ms', _⟩ ⟨h'', hnodes⟩
        exact .ok ⟨h'', forall₂_append (innerNodes_edited hg) hnodes⟩
    · refine (ih h).bind ?_
      rintro ⟨s', ns', _⟩ ⟨t', ms', _⟩ ⟨h', hnodes⟩
      exact .ok ⟨h', .cons hnm hnodes⟩

theorem find?_instance (h : s.Edited t) :
    Option.Rel Node.Edited (s.nodes.find? fun n => n.type == instanceType)
      (t.nodes.find? fun n => n.type == instanceType) :=
  find?_rel h.nodes fun n m hnm => by rw [hnm.type]

theorem expandRounds_edited (limit : Int) (rounds total total' : Nat) (h : s.Edited t) :
    Agree Scene.Edited (expandRounds limit rounds total s).result (expandRounds limit rounds total' t).result := by
  induction rounds generalizing s t total total' with
  | zero =>
    unfold expandRounds
    have hfound := find?_instance h
    generalize (s.nodes.find? fun n => n.type == instanceType) = n? at hfound
    generalize (t.nodes.find? fun n => n.type == instanceType) = m? at hfound
    cases hfound with
    | none => exact .ok h
    | some => exact .error_left
  | succ rounds ih =>
    unfold expandRounds
    have hfound := find?_instance h
    generalize (s.nodes.find? fun n => n.type == instanceType) = n? at hfound
    generalize (t.nodes.find? fun n => n.type == instanceType) = m? at hfound
    cases hfound with
    | none => exact .ok h
    | some =>
      have hnodes := expandNodes_edited h.groups h.nodes h
      simp only
      cases hs : expandNodes s.groups s s.nodes with
      | error e => exact .error_left
      | ok r =>
        cases ht : expandNodes t.groups t t.nodes with
        | error e => exact .error_right
        | ok r' =>
          obtain ⟨h', hns⟩ := hnodes r r' hs ht
          exact ih _ _ ⟨hns, h'.connections, h'.outputs, h'.groups⟩

/-- Expanding groups keeps scenes one edit apart. -/
theorem expand_edited (maxDepth : Int) (h : s.Edited t) :
    Agree Scene.Edited (expand maxDepth s).result (expand maxDepth t).result := by
  unfold expand
  rw [forall₂_isEmpty h.groups]
  split
  · have hfound := find?_instance h
    generalize (s.nodes.find? fun n => n.type == instanceType) = n? at hfound
    generalize (t.nodes.find? fun n => n.type == instanceType) = m? at hfound
    cases hfound with
    | none => exact .ok h
    | some => exact .error_left
  · exact expandRounds_edited _ _ _ _ h

end Groups

/-! ## Inlining images -/

namespace Images

variable {s t : Scene} {n m : Node}

theorem nonEmpty?_edited (h : n.Edited m) (key : String) : nonEmpty? n key = nonEmpty? m key := by
  unfold nonEmpty?
  rw [h.string?]

theorem copyKeys_edited {source source' : Node} (hsource : source.Edited source') (keys : List String)
    (h : n.Edited m) : (copyKeys source keys n).1.Edited (copyKeys source' keys m).1 := by
  induction keys generalizing n m with
  | nil => exact h
  | cons key rest ih =>
    unfold copyKeys
    rw [nonEmpty?_edited hsource, nonEmpty?_edited h]
    split
    · exact ih (h.setParam key _)
    · exact ih h

theorem replaceLast_edited (h : n.Edited m) {ns ms : List Node} (hns : List.Forall₂ Node.Edited ns ms) :
    List.Forall₂ Node.Edited (replaceLast n ns) (replaceLast m ms) := by
  have hgo : ∀ {ns ms : List Node}, List.Forall₂ Node.Edited ns ms →
      List.Forall₂ Node.Edited (replaceLast.go n ns) (replaceLast.go m ms) := by
    intro ns ms hns
    induction hns with
    | nil => exact .nil
    | cons hnm hrest ih =>
      unfold replaceLast.go
      rw [hnm.id, h.id]
      split
      · exact .cons h hrest
      · exact .cons hnm ih
  exact List.forall₂_reverse_iff.2 (hgo (List.forall₂_reverse_iff.2 hns))

theorem inlineAll_edited {schema : Schema} (conns : List Connection) (count count' : Nat) (h : s.Edited t) :
    Agree Scene.Edited (inlineAll schema conns count s).result (inlineAll schema conns count' t).result := by
  induction conns generalizing s t count count' with
  | nil => exact .ok h
  | cons c rest ih =>
    unfold inlineAll
    split
    · exact ih _ _ h
    · have htarget := h.indexed? c.target.node
      generalize s.indexed? c.target.node = n? at htarget
      generalize t.indexed? c.target.node = m? at htarget
      cases htarget with
      | none => exact ih _ _ h
      | some hnm =>
        have hsource := h.indexed? c.source.node
        generalize s.indexed? c.source.node = n? at hsource
        generalize t.indexed? c.source.node = m? at hsource
        cases hsource with
        | none => exact .error_left
        | some hsource =>
          simp only [hsource.type]
          split
          · exact .error_left
          · refine ih _ _ ⟨?_, h.connections, h.outputs, h.groups⟩
            exact replaceLast_edited (copyKeys_edited hsource sourceKeys hnm) h.nodes

/-- Inlining images keeps scenes one edit apart. -/
theorem inline_edited (schema : Schema) (h : s.Edited t) :
    Agree Scene.Edited (inline schema s).result (inline schema t).result := by
  unfold inline
  rw [h.connections]
  exact inlineAll_edited _ _ _ h

end Images

/-! ## Wrapping bare values -/

theorem Schema.outputType?_edited (schema : Schema) {n m : Node} (h : n.Edited m) (port : String) :
    schema.outputType? n port = schema.outputType? m port := by
  unfold outputType? Node.declaredOutput?
  rw [h.type, h.outputs]

theorem Schema.inputType?_edited (schema : Schema) {n m : Node} (h : n.Edited m) (port : String) :
    schema.inputType? n port = schema.inputType? m port := by
  unfold inputType? Node.declaredInput?
  rw [h.type, h.inputs]

namespace Wrap

variable {s t : Scene}

theorem bareType?_edited (schema : Schema) (h : s.Edited t) (c : Connection) :
    bareType? schema s c = bareType? schema t c := by
  unfold bareType?
  have hsource := h.indexed? c.source.node
  have htarget := h.indexed? c.target.node
  generalize s.indexed? c.source.node = n? at hsource
  generalize t.indexed? c.source.node = n?' at hsource
  generalize s.indexed? c.target.node = m? at htarget
  generalize t.indexed? c.target.node = m?' at htarget
  cases hsource with
  | none => rfl
  | some hn =>
    cases htarget with
    | none => rfl
    | some hm => simp only [schema.outputType?_edited hn, schema.inputType?_edited hm]

theorem wrapAll_edited (schema : Schema) (h : s.Edited t) (conns : List Connection) (made : Nat) :
    wrapAll schema s conns made = wrapAll schema t conns made := by
  induction conns generalizing made with
  | nil => rfl
  | cons c rest ih =>
    unfold wrapAll
    simp only [bareType?_edited schema h, ih]

/-- Wrapping bare values keeps scenes one edit apart. -/
theorem autoWrap_edited (schema : Schema) (h : s.Edited t) :
    Agree Scene.Edited (autoWrap schema s).result (autoWrap schema t).result := by
  unfold autoWrap
  rw [h.connections, wrapAll_edited schema h]
  split
  · exact .error_left
  · refine .ok ⟨?_, rfl, h.outputs, h.groups⟩
    exact forall₂_append h.nodes (List.forall₂_same.2 fun n _ => .refl n)

end Wrap

/-! ## What is read off the graph -/

namespace Graph

variable {s t : Scene}

/-- Dropping unused nodes keeps scenes one edit apart. -/
theorem treeShake_edited (h : s.Edited t) : (treeShake s).Edited (treeShake t) := by
  refine ⟨forall₂_filter h.nodes fun n m hnm => ?_, h.connections, h.outputs, h.groups⟩
  unfold isUsed
  rw [h.connections, h.outputs, hnm.id]

theorem topologicalOrder_edited (h : s.Edited t) : topologicalOrder s = topologicalOrder t := by
  have hids : idsAt s = idsAt t := by
    funext positions
    unfold idsAt
    rw [h.nodeIds]
  unfold topologicalOrder edges
  rw [h.nodes.length_eq, h.nodeIds, h.connections, hids]

end Graph

namespace Names

theorem assign_edited (output : String) (used : List String) (names : Table String) {ns ms : List Node}
    (h : List.Forall₂ Node.Edited ns ms) : assign output used ns names = assign output used ms names := by
  induction h generalizing used names with
  | nil => rfl
  | cons hnm _ ih =>
    unfold assign
    rw [hnm.id]
    simp only [ih]

theorem ofScene_edited {s t : Scene} (h : s.Edited t) (output : String) : ofScene s output = ofScene t output :=
  assign_edited output _ _ h.nodes

end Names

namespace Output

variable {s t : Scene}

theorem firstScreen?_edited (h : s.Edited t) (outputs : Table String) :
    firstScreen? s outputs = firstScreen? t outputs := by
  induction outputs with
  | nil => rfl
  | cons o rest ih =>
    obtain ⟨name, id⟩ := o
    unfold firstScreen?
    have hrel := h.indexed? id
    generalize s.indexed? id = n? at hrel
    generalize t.indexed? id = m? at hrel
    cases hrel with
    | none => exact ih
    | some hnm => simp only [hnm.type, ih]

theorem find_edited (h : s.Edited t) : find s = find t := by
  have hnamed : named s = named t := by
    unfold named
    rw [h.outputs, firstScreen?_edited h]
  have hscreen := find?_rel (p := fun n => n.type == screenType) (q := fun n => n.type == screenType) h.nodes
    fun n m hnm => by rw [hnm.type]
  unfold find
  rw [hnamed]
  generalize (s.nodes.find? fun n => n.type == screenType) = n? at hscreen
  generalize (t.nodes.find? fun n => n.type == screenType) = m? at hscreen
  cases hscreen with
  | none => rfl
  | some hnm => simp only [Option.map_some, hnm.id]

/-- A screen has no constants, so the outputs of both scenes are the same. -/
theorem resolve_edited (h : s.Edited t) (fallback : Size) : resolve s fallback = resolve t fallback := by
  unfold resolve
  rw [find_edited h]
  have hrel := h.indexed? (find t)
  generalize s.indexed? (find t) = n? at hrel
  generalize t.indexed? (find t) = m? at hrel
  cases hrel with
  | none => rfl
  | @some n m hnm =>
    by_cases htype : n.type = screenType
    · have hfree : Node.constantKeys n.type = [] := by
        rw [htype]
        rfl
      have hfloat : ∀ key, n.float? key = m.float? key := fun key => hnm.float? (by simp [hfree])
      have hint : ∀ key d, n.intOr key d = m.intOr key d := fun key => hnm.intOr (by simp [hfree])
      have hcheck : ∀ fields, checkSize n fallback fields = checkSize m fallback fields := by
        intro fields
        induction fields with
        | nil => rfl
        | cons field rest ih =>
          unfold checkSize
          rw [hfloat, ih, hnm.id]
      simp only [← hnm.type, htype, hcheck, hnm.id, hint, hnm.stringOr]
    · simp only [← hnm.type, htype, ne_eq, not_false_eq_true, if_true]

end Output

end SceneGraph
