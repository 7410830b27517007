import SceneGraph.Proofs.Landing

/-!
# Types of ports

Which type an output gives and which an input takes: by the declaration of the node where its type asks for that, else
by the listed port of the name, else by the first family of ports that covers it. A wire fits if both ends have a type
and the one may feed the other.

* `Schema.Gives`, `Schema.Takes`: the types of ports.
* `Schema.Fits`: a wire between nodes of a list.
* `Schema.checkAll_iff`: wires pass the check exactly if they fit.
-/
set_option autoImplicit false

namespace SceneGraph

/-- The first element with a property. -/
def IsFirst {α : Type} (P : α → Prop) (xs : List α) (x : α) : Prop :=
  P x ∧ ∃ before after, xs = before ++ x :: after ∧ ∀ y ∈ before, ¬P y

theorem find?_iff {α : Type} {p : α → Bool} {P : α → Prop} (hp : ∀ x, p x = true ↔ P x) {xs : List α} {x : α} :
    xs.find? p = some x ↔ IsFirst P xs x := by
  rw [List.find?_eq_some_iff_append, hp]
  simp [IsFirst, ← hp]

/-- The listed port that an id belongs to. -/
inductive PortSpec.Covers (ports : List PortSpec) (id : String) : PortSpec → Prop
  | named {p : PortSpec} (hfirst : IsFirst (fun q : PortSpec => q.isFamily = false ∧ q.name = id) ports p) :
      Covers ports id p
  | family {p : PortSpec} (hunnamed : ∀ q ∈ ports, ¬(q.isFamily = false ∧ q.name = id))
      (hfirst : IsFirst (fun q : PortSpec => q.isFamily = true ∧ q.name.toList <+: id.toList) ports p) :
      Covers ports id p

theorem PortSpec.find?_iff_covers {ports : List PortSpec} {id : String} {p : PortSpec} :
    PortSpec.find? ports id = some p ↔ Covers ports id p := by
  have hname : ∀ q : PortSpec, (!q.isFamily && q.name == id) = true ↔ q.isFamily = false ∧ q.name = id := by simp
  have hfamily : ∀ q : PortSpec, (q.isFamily && q.name.toList.isPrefixOf id.toList) = true ↔
      q.isFamily = true ∧ q.name.toList <+: id.toList := by simp
  unfold PortSpec.find?
  cases hfound : ports.find? fun p => !p.isFamily && p.name == id with
  | some q =>
    have hfirst := (find?_iff hname).1 hfound
    constructor
    · intro h
      exact .named (Option.some.inj h ▸ hfirst)
    · intro h
      cases h with
      | named h => exact hfound.symm.trans ((find?_iff hname).2 h)
      | family hunnamed => exact absurd hfirst.1 (hunnamed q (List.mem_of_find?_eq_some hfound))
  | none =>
    have hunnamed : ∀ q ∈ ports, ¬(q.isFamily = false ∧ q.name = id) := fun q hq h =>
      List.find?_eq_none.1 hfound q hq ((hname q).2 h)
    dsimp only
    rw [find?_iff hfamily]
    constructor
    · exact .family hunnamed
    · intro h
      cases h with
      | named h =>
        cases hfound.symm.trans ((find?_iff hname).2 h)
      | family _ h => exact h

namespace Schema

/-- The output port of a node gives values of a type. -/
inductive Gives (s : Schema) (n : Node) (port : String) : String → Prop
  | group {t : NodeType} (hknown : s.nodeType? n.type = some t) (hgroup : t.category = "group") : Gives s n port "any"
  | refined {t : NodeType} {spec : PortSpec} {d : Port} (hknown : s.nodeType? n.type = some t)
      (hgroup : t.category ≠ "group") (hport : PortSpec.Covers t.outputs port spec) (hany : spec.type = "any")
      (hdeclared : IsFirst (fun q : Port => q.id = port) n.outputs d) (htype : d.type ≠ "") : Gives s n port d.type
  | listed {t : NodeType} {spec : PortSpec} (hknown : s.nodeType? n.type = some t)
      (hgroup : t.category ≠ "group") (hport : PortSpec.Covers t.outputs port spec)
      (hfixed : spec.type = "any" → ∀ d, IsFirst (fun q : Port => q.id = port) n.outputs d → d.type = "") :
      Gives s n port spec.type
  | declared {t : NodeType} {d : Port} (hknown : s.nodeType? n.type = some t) (hgroup : t.category ≠ "group")
      (hport : ∀ spec, ¬PortSpec.Covers t.outputs port spec) (hports : t.declaredPorts = true)
      (hdeclared : IsFirst (fun q : Port => q.id = port) n.outputs d) : Gives s n port (orAny d.type)

/-- The input port of a node takes values of a type. -/
inductive Takes (s : Schema) (n : Node) (port : String) : String → Prop
  | declared {t : NodeType} {d : Port} (hknown : s.nodeType? n.type = some t) (hports : t.declaredPorts = true)
      (hdeclared : IsFirst (fun q : Port => q.id = port) n.inputs d) : Takes s n port (orAny d.type)
  | listed {t : NodeType} {spec : PortSpec} (hknown : s.nodeType? n.type = some t)
      (hundeclared : t.declaredPorts = true → ∀ d ∈ n.inputs, d.id ≠ port)
      (hport : PortSpec.Covers t.inputs port spec) : Takes s n port spec.type
  | unlisted {t : NodeType} (hknown : s.nodeType? n.type = some t)
      (hundeclared : t.declaredPorts = true → ∀ d ∈ n.inputs, d.id ≠ port)
      (hport : ∀ spec, ¬PortSpec.Covers t.inputs port spec) (hopen : t.openInputs = true) : Takes s n port "any"

/-- Values of one type may go where the other is wanted. -/
def Feeds (s : Schema) (given wanted : String) : Prop :=
  given = wanted ∨ ∃ accepted, s.compat.get? wanted = some accepted ∧ given ∈ accepted

/-- Where both ends of a wire are nodes of the list, the ends have types and the one may feed the other. Of several
nodes with an id the last is meant. -/
def Fits (s : Schema) (nodes : List Node) (c : Connection) : Prop :=
  ∀ a b, IsFirst (fun n : Node => n.id = c.source.node) nodes.reverse a →
    IsFirst (fun n : Node => n.id = c.target.node) nodes.reverse b →
      ∃ given wanted, s.Gives a c.source.port given ∧ s.Takes b c.target.port wanted ∧ s.Feeds given wanted

variable {s : Schema} {n : Node} {port type : String} {c : Connection}

theorem declaredOutput?_iff {d : Port} :
    n.declaredOutput? port = some d ↔ IsFirst (fun q : Port => q.id = port) n.outputs d :=
  find?_iff (by simp)

theorem declaredInput?_iff {d : Port} :
    n.declaredInput? port = some d ↔ IsFirst (fun q : Port => q.id = port) n.inputs d :=
  find?_iff (by simp)

theorem declaredInput?_none : n.declaredInput? port = none ↔ ∀ d ∈ n.inputs, d.id ≠ port := by
  simp [Node.declaredInput?]

theorem input?_iff {t : NodeType} {spec : PortSpec} : t.input? port = some spec ↔ PortSpec.Covers t.inputs port spec :=
  PortSpec.find?_iff_covers

theorem output?_iff {t : NodeType} {spec : PortSpec} :
    t.output? port = some spec ↔ PortSpec.Covers t.outputs port spec :=
  PortSpec.find?_iff_covers

theorem declaredOutput?_none :
    n.declaredOutput? port = none ↔ ∀ d, ¬IsFirst (fun q : Port => q.id = port) n.outputs d := by
  simp only [← declaredOutput?_iff]
  exact Option.eq_none_iff_forall_ne_some

theorem output?_none {t : NodeType} : t.output? port = none ↔ ∀ spec, ¬PortSpec.Covers t.outputs port spec := by
  simp only [← output?_iff]
  exact Option.eq_none_iff_forall_ne_some

theorem input?_none {t : NodeType} : t.input? port = none ↔ ∀ spec, ¬PortSpec.Covers t.inputs port spec := by
  simp only [← input?_iff]
  exact Option.eq_none_iff_forall_ne_some

theorem gives_of_outputType? (h : s.outputType? n port = some type) : s.Gives n port type := by
  unfold outputType? at h
  split at h
  · cases h
  · rename_i t hknown
    split at h
    · rename_i hgroup
      cases h
      exact .group hknown hgroup
    · rename_i hgroup
      dsimp only at h
      split at h
      · rename_i spec hport
        have hcovers := output?_iff.1 hport
        split at h
        · rename_i d hdeclared
          split at h
          · rename_i hrefined
            cases h
            exact .refined hknown hgroup hcovers hrefined.1 (declaredOutput?_iff.1 hdeclared) hrefined.2
          · rename_i hrefined
            cases h
            refine .listed hknown hgroup hcovers fun hany d' hd' => ?_
            cases hdeclared.symm.trans (declaredOutput?_iff.2 hd')
            by_contra htype
            exact hrefined ⟨hany, htype⟩
        · rename_i hundeclared
          cases h
          exact .listed hknown hgroup hcovers fun _ d' hd' => absurd hd' (declaredOutput?_none.1 hundeclared d')
      · rename_i hport
        split at h
        · rename_i hports
          obtain ⟨d, hdeclared, rfl⟩ := Option.map_eq_some_iff.1 h
          exact .declared hknown hgroup (output?_none.1 hport) hports (declaredOutput?_iff.1 hdeclared)
        · cases h

theorem Gives.outputType? (h : s.Gives n port type) : s.outputType? n port = some type := by
  unfold Schema.outputType?
  cases h with
  | group hknown hgroup =>
    rw [hknown]
    exact if_pos hgroup
  | refined hknown hgroup hport hany hdeclared htype =>
    simp [hknown, hgroup, output?_iff.2 hport, declaredOutput?_iff.2 hdeclared, hany, htype]
  | @listed t spec hknown hgroup hport hfixed =>
    rw [hknown]
    dsimp only
    rw [if_neg hgroup, output?_iff.2 hport]
    cases hdeclared : n.declaredOutput? port with
    | none => rfl
    | some d =>
      have hd : ¬(spec.type = "any" ∧ d.type ≠ "") := fun h => h.2 (hfixed h.1 d (declaredOutput?_iff.1 hdeclared))
      simp only [if_neg hd]
  | declared hknown hgroup hport hports hdeclared =>
    simp [hknown, hgroup, output?_none.2 hport, declaredOutput?_iff.2 hdeclared, hports]

theorem outputType?_iff : s.outputType? n port = some type ↔ s.Gives n port type :=
  ⟨gives_of_outputType?, Gives.outputType?⟩

theorem takes_of_inputType? (h : s.inputType? n port = some type) : s.Takes n port type := by
  unfold inputType? at h
  split at h
  · cases h
  · rename_i t hknown
    split at h
    · rename_i d hd
      cases h
      split at hd
      · rename_i hports
        exact .declared hknown hports (declaredInput?_iff.1 hd)
      · cases hd
    · rename_i hd
      have hundeclared : t.declaredPorts = true → ∀ d ∈ n.inputs, d.id ≠ port := by
        intro hports
        rw [if_pos hports] at hd
        exact declaredInput?_none.1 hd
      split at h
      · rename_i spec hport
        cases h
        exact .listed hknown hundeclared (input?_iff.1 hport)
      · rename_i hport
        split at h
        · rename_i hopen
          cases h
          exact .unlisted hknown hundeclared (input?_none.1 hport) hopen
        · cases h

theorem Takes.inputType? (h : s.Takes n port type) : s.inputType? n port = some type := by
  unfold Schema.inputType?
  have hskipped {t : NodeType} (hundeclared : t.declaredPorts = true → ∀ d ∈ n.inputs, d.id ≠ port) :
      (if t.declaredPorts = true then n.declaredInput? port else none) = none := by
    split
    · rename_i hports
      exact declaredInput?_none.2 (hundeclared hports)
    · rfl
  cases h with
  | declared hknown hports hdeclared => simp [hknown, hports, declaredInput?_iff.2 hdeclared]
  | listed hknown hundeclared hport => simp [hknown, hskipped hundeclared, input?_iff.2 hport]
  | unlisted hknown hundeclared hport hopen =>
    simp [hknown, hskipped hundeclared, input?_none.2 hport, hopen]

theorem inputType?_iff : s.inputType? n port = some type ↔ s.Takes n port type :=
  ⟨takes_of_inputType?, Takes.inputType?⟩

theorem compatible_iff {given wanted : String} : s.compatible given wanted = true ↔ s.Feeds given wanted := by
  unfold compatible Feeds
  cases s.compat.get? wanted <;> simp

theorem checkConnection_iff {a b : Node} : s.checkConnection a b c = .ok () ↔
    ∃ given wanted, s.Gives a c.source.port given ∧ s.Takes b c.target.port wanted ∧ s.Feeds given wanted := by
  simp only [← outputType?_iff, ← inputType?_iff, ← compatible_iff]
  unfold checkConnection
  cases s.outputType? a c.source.port with
  | none => simp
  | some given =>
    cases s.inputType? b c.target.port with
    | none => simp
    | some wanted => by_cases h : s.compatible given wanted = true <;> simp [h]

theorem lastWithId?_iff {nodes : List Node} {id : String} {a : Node} :
    lastWithId? nodes id = some a ↔ IsFirst (fun n : Node => n.id = id) nodes.reverse a :=
  find?_iff (by simp)

/-- The check of wires passes exactly if every one of them fits. -/
theorem checkAll_iff {nodes : List Node} {conns : List Connection} :
    s.checkAll nodes conns = .ok () ↔ ∀ c ∈ conns, s.Fits nodes c := by
  constructor
  · intro h c hc a b ha hb
    exact checkConnection_iff.1 (checkAll_ok h hc (lastWithId?_iff.2 ha) (lastWithId?_iff.2 hb))
  · intro h
    induction conns with
    | nil => rfl
    | cons c rest ih =>
      obtain ⟨hfirst, hrest⟩ := List.forall_mem_cons.1 h
      unfold checkAll
      split
      · rename_i a b ha hb
        rw [checkConnection_iff.2 (hfirst a b (lastWithId?_iff.1 ha) (lastWithId?_iff.1 hb))]
        exact ih hrest
      · exact ih hrest

end Schema

end SceneGraph
