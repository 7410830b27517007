import SceneGraph.Proofs.Documents
import SceneGraph.Proofs.PortTypes
import SceneGraph.Proofs.Run
import SceneGraph.Proofs.Settled

/-!
# Accepted scenes

Validation accepts a scene exactly if it is in the language of the schema: every node is described, every wire between
nodes fits. What it returns is the scene with settled parameters.

Given values are stored in normal form, but defaults come in as the schema writes them. So a valid scene is valid again
and stays as it is exactly if every default that came in is a normal form of its parameter.

* `Schema.Accepts`: the scene is in the language.
* `Schema.NormalizedScene`: the scene with settled parameters.
* `Schema.validate_language`: what validation accepts and returns.
* `Schema.Merges`: a default comes in at a node.
* `Schema.settled_again_iff`: one node.
* `Schema.validate_again_iff`: a whole scene.
-/
set_option autoImplicit false

namespace SceneGraph

/-! ## Lists -/

theorem mapM_iff {ε α β : Type} {f : α → Except ε β} {xs : List α} {ys : List β} :
    xs.mapM f = .ok ys ↔ List.Forall₂ (fun x y => f x = .ok y) xs ys := by
  refine ⟨mapM_eq_ok, fun h => ?_⟩
  induction h with
  | nil => rfl
  | cons hx _ ih =>
    rw [List.mapM_cons, hx, ih]
    rfl

theorem exists_of_mapM {ε α β : Type} {f : α → Except ε β} {xs : List α} {ys : List β} (h : xs.mapM f = .ok ys) {x : α}
    (hx : x ∈ xs) : ∃ y ∈ ys, f x = .ok y := by
  have hall := mapM_eq_ok h
  obtain ⟨i, hi, rfl⟩ := List.getElem_of_mem hx
  exact ⟨_, List.get_mem ys ⟨i, hall.length_eq ▸ hi⟩, hall.get hi (hall.length_eq ▸ hi)⟩

theorem mapM_iff_of {ε α β : Type} {f : α → Except ε β} {P : α → Prop} {R : α → β → Prop} {xs : List α} {ys : List β}
    (hf : ∀ x ∈ xs, ∀ y, f x = .ok y ↔ P x ∧ R x y) :
    xs.mapM f = .ok ys ↔ (∀ x ∈ xs, P x) ∧ List.Forall₂ R xs ys := by
  rw [mapM_iff, ← List.forall₂_and_left]
  induction xs generalizing ys with
  | nil => simp
  | cons x rest ih =>
    obtain ⟨hx, hrest⟩ := List.forall_mem_cons.1 hf
    cases ys with
    | nil => simp
    | cons y ys => rw [List.forall₂_cons, List.forall₂_cons, hx, ih hrest]

theorem exists_forall₂ {α β : Type} {R : α → β → Prop} {xs : List α} (h : ∀ x ∈ xs, ∃ y, R x y) :
    ∃ ys, List.Forall₂ R xs ys := by
  induction xs with
  | nil => exact ⟨[], .nil⟩
  | cons x rest ih =>
    obtain ⟨⟨y, hy⟩, hrest⟩ := List.forall_mem_cons.1 h
    obtain ⟨ys, hys⟩ := ih hrest
    exact ⟨y :: ys, .cons hy hys⟩

/-! ## Scenes -/

namespace Schema

variable {s : Schema} {sc t : Scene} {n m : Node} {nodes made : List Node} {conns : List Connection} {g h : Group}

/-- The node is the other one with its parameters settled by its type. -/
def Normalized (s : Schema) (n m : Node) : Prop := ∃ t, s.nodeType? n.type = some t ∧ t.Settled n m

/-- The scene is in the language of the schema: it describes every node, and every wire fits, in groups too. -/
structure Accepts (s : Schema) (sc : Scene) : Prop where
  nodes : ∀ n ∈ sc.nodes, ∃ t, s.Admits n t
  wires : ∀ c ∈ sc.connections, s.Fits sc.nodes c
  innerNodes : ∀ g ∈ sc.groups, ∀ n ∈ g.nodes, ∃ t, s.Admits n t
  innerWires : ∀ g ∈ sc.groups, ∀ c ∈ g.connections, s.Fits g.nodes c

/-- The group is the other one with the parameters of its nodes settled. -/
structure NormalizedGroup (s : Schema) (g h : Group) : Prop where
  rest : h = { g with nodes := h.nodes }
  nodes : List.Forall₂ s.Normalized g.nodes h.nodes

/-- The scene is the other one with the parameters of all nodes settled. -/
structure NormalizedScene (s : Schema) (sc t : Scene) : Prop where
  rest : t = { sc with nodes := t.nodes, groups := t.groups }
  nodes : List.Forall₂ s.Normalized sc.nodes t.nodes
  groups : List.Forall₂ s.NormalizedGroup sc.groups t.groups

theorem normalize_iff (hs : s.Sound) (hn : n.params.Ascending) :
    s.normalize n = .ok m ↔ (∃ t, s.Admits n t) ∧ s.Normalized n m := by
  cases hknown : s.nodeType? n.type with
  | none =>
    constructor
    · intro h
      simp [normalize, hknown] at h
    · rintro ⟨-, t, ht, -⟩
      cases hknown.symm.trans ht
  | some t =>
    have hparams := (hs _ t hknown).ascending
    constructor
    · intro h
      exact ⟨⟨t, (normalize_isOk hknown hparams hn).1 ⟨m, h⟩⟩, t, hknown, normalize_settled hknown hparams hn h⟩
    · rintro ⟨⟨t', hadmits⟩, t'', ht'', hsettled⟩
      cases hknown.symm.trans hadmits.known
      cases hknown.symm.trans ht''
      obtain ⟨m', hm'⟩ := (normalize_isOk hknown hparams hn).2 hadmits
      rw [hm', (normalize_settled hknown hparams hn hm').unique hsettled]

theorem mapM_normalize_iff (hs : s.Sound) (hnodes : ∀ n ∈ nodes, n.params.Ascending) :
    nodes.mapM s.normalize = .ok made ↔
      (∀ n ∈ nodes, ∃ t, s.Admits n t) ∧ List.Forall₂ s.Normalized nodes made :=
  mapM_iff_of fun n hn _ => normalize_iff hs (hnodes n hn)

theorem exists_normalized (hs : s.Sound) (hnodes : ∀ n ∈ nodes, n.params.Ascending)
    (hadmits : ∀ n ∈ nodes, ∃ t, s.Admits n t) : ∃ made, List.Forall₂ s.Normalized nodes made := by
  refine exists_forall₂ fun n hn => ?_
  obtain ⟨t, ht⟩ := hadmits n hn
  obtain ⟨m, hm⟩ := (normalize_isOk ht.known (hs _ t ht.known).ascending (hnodes n hn)).2 ht
  exact ⟨m, ((normalize_iff hs (hnodes n hn)).1 hm).2⟩

theorem lastWithId?_bare (nodes : List Node) (id : String) :
    lastWithId? (nodes.map bare) id = (lastWithId? nodes id).map bare := by
  unfold lastWithId?
  rw [← List.map_reverse, List.find?_map]
  rfl

theorem checkAll_bare : s.checkAll (nodes.map bare) conns = s.checkAll nodes conns := by
  induction conns with
  | nil => rfl
  | cons c rest ih =>
    unfold checkAll
    rw [lastWithId?_bare, lastWithId?_bare, ih]
    cases lastWithId? nodes c.source.node <;> cases lastWithId? nodes c.target.node <;> rfl

theorem checkAll_normalized (hmade : List.Forall₂ s.Normalized nodes made) :
    s.checkAll made conns = s.checkAll nodes conns := by
  have hbare : made.map bare = nodes.map bare := by
    induction hmade with
    | nil => rfl
    | cons hnm _ ih =>
      obtain ⟨t, -, hsettled⟩ := hnm
      rw [List.map_cons, List.map_cons, ih, hsettled.rest]
      rfl
  rw [← checkAll_bare, hbare, checkAll_bare]

theorem normalizeGroup_iff (hs : s.Sound) (hg : ∀ n ∈ g.nodes, n.params.Ascending) :
    s.normalizeGroup g = .ok h ↔ ((∀ n ∈ g.nodes, ∃ t, s.Admits n t) ∧ ∀ c ∈ g.connections, s.Fits g.nodes c) ∧
      s.NormalizedGroup g h := by
  unfold normalizeGroup
  simp only [bind, Except.bind, pure, Except.pure]
  constructor
  · intro hrun
    split at hrun
    · cases hrun
    · rename_i made hmade
      split at hrun
      · cases hrun
      · rename_i hcheck
        cases hrun
        obtain ⟨hadmits, hnormal⟩ := (mapM_normalize_iff hs hg).1 hmade
        rw [checkAll_normalized hnormal] at hcheck
        exact ⟨⟨hadmits, checkAll_iff.1 hcheck⟩, rfl, hnormal⟩
  · rintro ⟨⟨hadmits, hwires⟩, hrest, hnormal⟩
    rw [(mapM_normalize_iff hs hg).2 ⟨hadmits, hnormal⟩]
    dsimp only
    rw [checkAll_normalized hnormal, checkAll_iff.2 hwires]
    exact congrArg Except.ok hrest.symm

theorem validate_iff (hs : s.Sound) (hsc : sc.Ordered) :
    s.validate sc = .ok t ↔ s.Accepts sc ∧ s.NormalizedScene sc t := by
  have hgroups {groups : List Group} : sc.groups.mapM s.normalizeGroup = .ok groups ↔ _ :=
    mapM_iff_of fun g hg _ => normalizeGroup_iff hs (hsc.inner g hg)
  unfold validate
  simp only [bind, Except.bind, pure, Except.pure]
  constructor
  · intro hrun
    split at hrun
    · cases hrun
    · rename_i made hmade
      obtain ⟨hadmits, hnormal⟩ := (mapM_normalize_iff hs hsc.nodes).1 hmade
      split at hrun
      · cases hrun
      · rename_i groups hinner
        obtain ⟨haccepts, hinner⟩ := hgroups.1 hinner
        split at hrun
        · cases hrun
        · rename_i hcheck
          cases hrun
          rw [checkAll_normalized hnormal] at hcheck
          exact ⟨⟨hadmits, checkAll_iff.1 hcheck, fun g hg => (haccepts g hg).1, fun g hg => (haccepts g hg).2⟩,
            rfl, hnormal, hinner⟩
  · rintro ⟨haccepts, hrest, hnormal, hinner⟩
    rw [(mapM_normalize_iff hs hsc.nodes).2 ⟨haccepts.nodes, hnormal⟩]
    dsimp only
    rw [hgroups.2 ⟨fun g hg => ⟨haccepts.innerNodes g hg, haccepts.innerWires g hg⟩, hinner⟩]
    dsimp only
    rw [checkAll_normalized hnormal, checkAll_iff.2 haccepts.wires]
    exact congrArg Except.ok hrest.symm

/-- Validation succeeds exactly on the scenes in the language of the schema. All it does is to settle the parameters of
their nodes: null disappears where a parameter is declared, given values take their normal form, colors as four numbers,
and defaults come in where nothing is given. -/
theorem validate_language (hs : s.Sound) (hsc : sc.Ordered) : ((∃ t, s.validate sc = .ok t) ↔ s.Accepts sc) ∧
    ∀ t, s.validate sc = .ok t ↔ s.Accepts sc ∧ s.NormalizedScene sc t := by
  refine ⟨⟨fun ⟨t, ht⟩ => ((validate_iff hs hsc).1 ht).1, fun haccepts => ?_⟩, fun t => validate_iff hs hsc⟩
  obtain ⟨nodes, hnodes⟩ := exists_normalized hs hsc.nodes haccepts.nodes
  obtain ⟨groups, hgroups⟩ : ∃ groups, List.Forall₂ s.NormalizedGroup sc.groups groups := by
    refine exists_forall₂ fun g hg => ?_
    obtain ⟨inner, hinner⟩ := exists_normalized hs (hsc.inner g hg) (haccepts.innerNodes g hg)
    exact ⟨{ g with nodes := inner }, rfl, hinner⟩
  exact ⟨{ sc with nodes, groups }, (validate_iff hs hsc).2 ⟨haccepts, rfl, hnodes, hgroups⟩⟩

end Schema

/-- A color as digits, a null parameter and a wire on a listed port. -/
def Scene.tinted : Scene :=
  { nodes := [{ id := "tint", type := "Color", params := [("value", .str "#ff8000")] },
      { id := "draw", type := "RenderPass", params := [("blend", .null)] }, { id := "screen", type := "Screen" }]
    connections := [{ id := "ink", source := ⟨"tint", "color"⟩, target := ⟨"draw", "color"⟩ },
      { id := "show", source := ⟨"draw", "pass"⟩, target := ⟨"screen", "pass"⟩ }] }

theorem Scene.tinted_ordered : Scene.tinted.Ordered := by
  refine ⟨fun n hn => ?_, fun g hg => by cases hg⟩
  simp only [tinted, List.mem_cons, List.not_mem_nil, or_false] at hn
  rcases hn with rfl | rfl | rfl
  · exact List.pairwise_singleton _ _
  · exact List.pairwise_singleton _ _
  · exact .nil

theorem Scene.tinted_checks : (Schema.builtin.validate Scene.tinted).toOption.isSome = true := by
  rw [Schema.builtin_eq]
  decide +kernel

theorem Scene.tinted_accepted : (Schema.builtin.Sound ∧ Scene.tinted.Ordered) ∧ Schema.builtin.Accepts Scene.tinted ∧
    ∃ t, Schema.builtin.validate Scene.tinted = .ok t ∧ Schema.builtin.NormalizedScene Scene.tinted t := by
  have hlanguage := Schema.validate_language Schema.builtin_sound Scene.tinted_ordered
  obtain ⟨t, ht⟩ := Option.isSome_iff_exists.1 Scene.tinted_checks
  obtain ⟨haccepts, hnormal⟩ := (hlanguage.2 t).1 (eq_ok_of_toOption ht)
  exact ⟨⟨Schema.builtin_sound, Scene.tinted_ordered⟩, haccepts, t, eq_ok_of_toOption ht, hnormal⟩

/-! ## Validating again -/

namespace Schema

variable {s : Schema} {sc t : Scene} {type : NodeType} {n m : Node}

/-- Validation gives the node the default of a parameter. -/
structure Merges (s : Schema) (n : Node) (key : String) (p : ParamSpec) (v : Value) : Prop where
  declared : ∃ t, s.nodeType? n.type = some t ∧ t.params.get? key = some p
  absent : ∀ w, n.params.get? key = some w → w = .null
  default : p.default = some v

/-- Every default that validation gives the node is a normal form of its parameter. -/
def MergesNormal (s : Schema) (n : Node) : Prop := ∀ key p v, s.Merges n key p v → p.Normal v v

/-- The node is valid and in normal form. -/
def Stable (s : Schema) (m : Node) : Prop := (∃ t, s.Admits m t) ∧ s.Normalized m m

theorem admits_settled (hadmits : s.Admits n type) (hsettled : type.Settled n m) (hmerges : s.MergesNormal n) :
    s.Admits m type := by
  have htype : m.type = n.type := by rw [hsettled.rest]
  refine ⟨htype ▸ hadmits.known, fun key v hv hundeclared => ?_, fun key v p hv hdeclared _ => ?_,
    fun key p hdeclared hrequired => ?_⟩
  · rw [hsettled.undeclared hundeclared] at hv
    exact hadmits.declared key v hv hundeclared
  · rcases hsettled.declared hdeclared with ⟨_, w, _, _, hnormal, hw⟩ | ⟨habsent, hdefault⟩
    · cases hv.symm.trans hw
      exact ⟨v, hnormal.settled⟩
    · exact ⟨v, hmerges key p v ⟨⟨type, hadmits.known, hdeclared⟩, habsent, hdefault.symm.trans hv⟩⟩
  · obtain ⟨v, hv, hnull⟩ := hadmits.complete key p hdeclared hrequired
    rcases hsettled.declared hdeclared with ⟨v', w, hv', hnull', hnormal, hw⟩ | ⟨habsent, -⟩
    · exact ⟨w, hw, hnormal.ne_null hnull'⟩
    · exact absurd (habsent v hv) hnull

/-- A settled node is settled for good exactly if the defaults that came in are normal forms. -/
theorem settled_again_iff (htype : type.Sound) (hadmits : s.Admits n type) (hsettled : type.Settled n m) :
    s.Stable m ↔ s.MergesNormal n := by
  have hsame : m.type = n.type := by rw [hsettled.rest]
  constructor
  · rintro ⟨-, type', hknown, hagain⟩ key p v ⟨⟨type'', hknown', hdeclared⟩, habsent, hdefault⟩
    cases (hsame ▸ hknown).symm.trans hadmits.known
    cases hknown'.symm.trans hadmits.known
    have hnull : v ≠ .null := fun hnull => htype.default (key, p) (Table.mem_of_get? hdeclared) (hnull ▸ hdefault)
    have hv : m.params.get? key = some v := by
      rcases hsettled.declared hdeclared with ⟨w, _, hw, hnull', -⟩ | ⟨-, hkey⟩
      · exact absurd (habsent w hw) hnull'
      · exact hkey.trans hdefault
    rcases hagain.declared hdeclared with ⟨v', w, hv', -, hnormal, hw⟩ | ⟨hgone, -⟩
    · cases hv.symm.trans hv'
      cases hv.symm.trans hw
      exact hnormal
    · exact absurd (hgone v hv) hnull
  · intro hmerges
    refine ⟨⟨type, admits_settled hadmits hsettled hmerges⟩, type, hsame ▸ hadmits.known, rfl, hsettled.ascending,
      fun key => ?_⟩
    cases hdeclared : type.params.get? key with
    | none => exact .undeclared hdeclared
    | some p =>
      rcases hsettled.declared hdeclared with ⟨_, w, _, hnull, hnormal, hw⟩ | ⟨habsent, hkey⟩
      · rw [hw]
        exact .normal hdeclared (hnormal.ne_null hnull) hnormal.settled
      · rw [hkey]
        cases hdefault : p.default with
        | none =>
          have hfilled : type.Settles key none p.default := .filled hdeclared (by simp)
          rwa [hdefault] at hfilled
        | some v =>
          have hnull : v ≠ .null := fun hnull =>
            htype.default (key, p) (Table.mem_of_get? hdeclared) (hnull ▸ hdefault)
          exact .normal hdeclared hnull (hmerges key p v ⟨⟨type, hadmits.known, hdeclared⟩, habsent, hdefault⟩)

theorem forall_mem_iff_of_forall₂ {α β : Type} {P : α → Prop} {Q : β → Prop} {xs : List α} {ys : List β}
    (h : List.Forall₂ (fun x y => Q y ↔ P x) xs ys) : (∀ y ∈ ys, Q y) ↔ ∀ x ∈ xs, P x := by
  induction h with
  | nil => simp
  | cons hxy _ ih => rw [List.forall_mem_cons, List.forall_mem_cons, hxy, ih]

theorem stable_iff {nodes made : List Node} (hs : s.Sound) (hadmits : ∀ n ∈ nodes, ∃ t, s.Admits n t)
    (hmade : List.Forall₂ s.Normalized nodes made) : (∀ m ∈ made, s.Stable m) ↔ ∀ n ∈ nodes, s.MergesNormal n := by
  refine forall_mem_iff_of_forall₂ ((List.forall₂_and_left _ _ |>.2 ⟨hadmits, hmade⟩).imp fun n m h => ?_)
  obtain ⟨⟨type, hadmits⟩, type', hknown, hsettled⟩ := h
  cases hknown.symm.trans hadmits.known
  exact settled_again_iff (hs _ type hknown) hadmits hsettled

theorem normalized_ascending {nodes made : List Node} (h : List.Forall₂ s.Normalized nodes made) :
    ∀ m ∈ made, m.params.Ascending := by
  induction h with
  | nil => simp
  | cons hnm _ ih => exact List.forall_mem_cons.2 ⟨hnm.choose_spec.2.ascending, ih⟩

theorem NormalizedScene.ordered (h : s.NormalizedScene sc t) : t.Ordered := by
  refine ⟨normalized_ascending h.nodes, ?_⟩
  have hgroups := h.groups
  generalize sc.groups = groups, t.groups = made at hgroups
  induction hgroups with
  | nil => simp
  | cons hgh _ ih => exact List.forall_mem_cons.2 ⟨normalized_ascending hgh.nodes, ih⟩

theorem fits_normalized {nodes made : List Node} {conns : List Connection}
    (h : List.Forall₂ s.Normalized nodes made) : (∀ c ∈ conns, s.Fits made c) ↔ ∀ c ∈ conns, s.Fits nodes c := by
  rw [← checkAll_iff, checkAll_normalized h, checkAll_iff]

/-- A settled scene is valid and unchanged exactly if all its nodes are. -/
theorem validate_settled_iff (hs : s.Sound) (haccepts : s.Accepts sc) (h : s.NormalizedScene sc t) :
    s.validate t = .ok t ↔ (∀ m ∈ t.nodes, s.Stable m) ∧ ∀ g ∈ t.groups, ∀ m ∈ g.nodes, s.Stable m := by
  have hconns : t.connections = sc.connections := by rw [h.rest]
  have hinner : ∀ g ∈ t.groups, ∀ c ∈ g.connections, s.Fits g.nodes c := by
    have hwires := haccepts.innerWires
    have hgroups := h.groups
    generalize sc.groups = groups, t.groups = made at hgroups hwires
    induction hgroups with
    | nil => simp
    | cons hgh _ ih =>
      obtain ⟨hfirst, hrest⟩ := List.forall_mem_cons.1 hwires
      refine List.forall_mem_cons.2 ⟨(fits_normalized hgh.nodes).2 fun c hc => hfirst c ?_, ih hrest⟩
      rwa [hgh.rest] at hc
  rw [validate_iff hs h.ordered]
  constructor
  · rintro ⟨haccepts', hnormal⟩
    refine ⟨fun m hm => ⟨haccepts'.nodes m hm, List.forall₂_same.1 hnormal.nodes m hm⟩, fun g hg m hm => ?_⟩
    exact ⟨haccepts'.innerNodes g hg m hm, List.forall₂_same.1 (List.forall₂_same.1 hnormal.groups g hg).nodes m hm⟩
  · rintro ⟨houter, hgroups⟩
    refine ⟨⟨fun m hm => (houter m hm).1, ?_, fun g hg m hm => (hgroups g hg m hm).1, hinner⟩,
      rfl, List.forall₂_same.2 fun m hm => (houter m hm).2, List.forall₂_same.2 fun g hg => ?_⟩
    · rw [hconns]
      exact (fits_normalized h.nodes).2 haccepts.wires
    · exact ⟨rfl, List.forall₂_same.2 fun m hm => (hgroups g hg m hm).2⟩

/-- A valid scene stays as it is when it is validated again exactly if every default that came in, at a node of the
scene or of a group, is a normal form of its parameter. -/
theorem validate_again_iff {reader : Hcl.Reader} {text : String} (hparse : Schema.parse reader text = .ok s)
    (hsc : sc.Ordered)
    (h : s.validate sc = .ok t) :
    s.validate t = .ok t ↔ (∀ n ∈ sc.nodes, s.MergesNormal n) ∧ ∀ g ∈ sc.groups, ∀ n ∈ g.nodes, s.MergesNormal n := by
  have hs := sound_of_parse hparse
  obtain ⟨haccepts, hnormal⟩ := (validate_iff hs hsc).1 h
  rw [validate_settled_iff hs haccepts hnormal, stable_iff hs haccepts.nodes hnormal.nodes]
  refine and_congr_right fun _ => forall_mem_iff_of_forall₂ ?_
  exact (List.forall₂_and_left _ _ |>.2 ⟨haccepts.innerNodes, hnormal.groups⟩).imp fun g h hgh =>
    stable_iff hs hgh.1 hgh.2.nodes

end Schema

/-- A document whose only parameter is a color with digits for a default. -/
def Schema.inkText : String :=
  "node \"Ink\" \x7b\n  param \"tone\" \x7b\n    type = \"color\"\n    default = \"#ff0000\"\n  \x7d\n\x7d\n"

/-- A node without parameters. -/
def Scene.inked : Scene := { nodes := [{ id := "ink", type := "Ink" }] }

/-- The default comes in as digits, and validating again makes channels of them. -/
theorem Scene.inked_checks : (Schema.parse {} Schema.inkText).toOption.any (fun schema =>
    (schema.validate Scene.inked).toOption.any fun t => (schema.validate t).toOption.any fun again =>
      t.nodes.all (fun n => (n.string? "tone").isSome) &&
        again.nodes.any fun n => (n.string? "tone").isNone) = true := by
  decide +kernel

theorem Scene.inked_changes {schema : Schema} {t : Scene} (hparse : Schema.parse {} Schema.inkText = .ok schema)
    (ht : schema.validate Scene.inked = .ok t) : schema.validate t ≠ .ok t := by
  have hchecks := Scene.inked_checks
  simp only [hparse, ht, Except.toOption, Option.any_some] at hchecks
  intro hagain
  simp only [hagain, Option.any_some, Bool.and_eq_true, List.all_eq_true, List.any_eq_true] at hchecks
  obtain ⟨hall, n, hn, hnone⟩ := hchecks
  have hsome := hall n hn
  rw [Option.isNone_iff_eq_none.1 hnone] at hsome
  cases hsome

theorem Scene.inked_parses : ∃ schema t, Schema.parse {} Schema.inkText = .ok schema ∧
    schema.validate Scene.inked = .ok t := by
  obtain ⟨schema, hparse, hvalid⟩ := (Option.any_eq_true _ _).1 Scene.inked_checks
  obtain ⟨t, ht, -⟩ := (Option.any_eq_true _ _).1 hvalid
  exact ⟨schema, t, eq_ok_of_toOption hparse, eq_ok_of_toOption ht⟩

theorem Scene.inked_ordered : Scene.inked.Ordered := by
  refine ⟨fun n hn => ?_, fun g hg => by cases hg⟩
  cases List.mem_singleton.1 hn
  exact .nil

/-- The default of the document is no normal form. -/
theorem Scene.inked_unsettled : ∃ schema t, (Schema.parse {} Schema.inkText = .ok schema ∧ Scene.inked.Ordered ∧
    schema.validate Scene.inked = .ok t) ∧ ¬∀ n ∈ Scene.inked.nodes, schema.MergesNormal n := by
  obtain ⟨schema, t, hparse, ht⟩ := Scene.inked_parses
  refine ⟨schema, t, ⟨hparse, Scene.inked_ordered, ht⟩, fun hmerges => Scene.inked_changes hparse ht ?_⟩
  exact (Schema.validate_again_iff hparse Scene.inked_ordered ht).2 ⟨hmerges, fun g hg => by cases hg⟩

theorem Schema.validate_not_idempotent : ∃ schema t, Schema.parse {} Schema.inkText = .ok schema ∧
    schema.validate Scene.inked = .ok t ∧ schema.validate t ≠ .ok t := by
  obtain ⟨schema, t, hparse, ht⟩ := Scene.inked_parses
  exact ⟨schema, t, hparse, ht, Scene.inked_changes hparse ht⟩

end SceneGraph
