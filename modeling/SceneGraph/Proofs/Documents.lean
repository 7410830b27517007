import SceneGraph.Proofs.DistinctIds
import SceneGraph.Proofs.Tables
import SceneGraph.Scene.Document
import SceneGraph.Schema.Document

/-!
# What documents give

The tables of a schema and of a scene that were read from documents are in order, whatever the documents say, and a
null default is no default.

* `Schema.sound_of_parse`, `Schema.builtin_sound`: the tables of schemas.
* `Scene.ordered_of_parseUnchecked`: the tables of scenes.
-/
set_option autoImplicit false

namespace SceneGraph

/-! ## Schemas -/

/-- The parameters of a node type ascend, and no default is null. -/
structure NodeType.Sound (t : NodeType) : Prop where
  ascending : t.params.Ascending
  default : ∀ e ∈ t.params, e.2.default ≠ some .null

def Schema.Sound (s : Schema) : Prop := ∀ name t, s.nodeType? name = some t → t.Sound

namespace Schema.Document

variable {reader : Hcl.Reader} {p q : ParamSpec}

theorem withDefault_default {node : String} {e : Option Hcl.Expr} (h : withDefault reader node (p, e) = .ok q)
    (hp : p.default = none) : q.default ≠ some .null := by
  unfold withDefault at h
  dsimp only at h
  split at h
  · cases h
    simp [hp]
  · split at h
    · cases h
    · cases h
      simp [hp]
    · rename_i v hnull _
      cases h
      exact fun hv => hnull (Option.some.inj hv)

theorem readParam_default {name : String} {body : Hcl.Body} {e : Option Hcl.Expr}
    (h : readParam reader name body = .ok (p, e)) : p.default = none := by
  unfold readParam at h
  simp only [bind, Except.bind, pure, Except.pure] at h
  repeat' split at h
  all_goals cases h
  rfl

theorem readNodeType_default {name : String} {body : Hcl.Body} {d : Declaration}
    (h : readNodeType reader name body = .ok d) : ∀ e ∈ d.params, e.1.default = none := by
  unfold readNodeType at h
  simp only [bind, Except.bind, pure, Except.pure] at h
  iterate 6
    split at h
    · cases h
  rename_i hparams
  iterate 4
    split at h
    · cases h
  cases h
  intro e he
  obtain ⟨_, _, hread⟩ := exists_mem_of_mapM hparams he
  exact readParam_default hread

theorem addTypes_sound {types types' : Table NodeType} {ds : List Declaration}
    (h : addTypes reader types ds = .ok types')
    (hds : ∀ d ∈ ds, ∀ e ∈ d.params, e.1.default = none) (htypes : ∀ name t, types.get? name = some t → t.Sound) :
    ∀ name t, types'.get? name = some t → t.Sound := by
  induction ds generalizing types with
  | nil =>
    cases h
    exact htypes
  | cons d rest ih =>
    obtain ⟨hd, hrest⟩ := List.forall_mem_cons.1 hds
    unfold addTypes at h
    simp only [bind, Except.bind] at h
    split at h
    · cases h
    · split at h
      · cases h
      · rename_i params hparams
        refine ih h hrest fun name t hname => ?_
        rw [Table.get?_insert] at hname
        split at hname
        · cases hname
          refine ⟨Table.ascending_ofList _, fun e he => ?_⟩
          have hentry : e ∈ params.map fun p => (p.name, p) := Table.mem_of_mem_ofList he
          obtain ⟨p, hp, rfl⟩ := List.mem_map.1 hentry
          obtain ⟨x, hx, hdefault⟩ := exists_mem_of_mapM hparams hp
          exact withDefault_default hdefault (hd x hx)
        · exact htypes name t hname

end Schema.Document

theorem Schema.sound_of_parse {reader : Hcl.Reader} {text : String} {schema : Schema}
    (h : Schema.parse reader text = .ok schema) : schema.Sound := by
  unfold Schema.parse at h
  split at h
  · cases h
  · unfold Document.readSchema at h
    simp only [bind, Except.bind, pure, Except.pure] at h
    iterate 6
      split at h
      · cases h
    rename_i declarations hdeclarations
    split at h
    · cases h
    · rename_i types htypes
      cases h
      refine Document.addTypes_sound htypes (fun d hd => ?_) (by simp)
      obtain ⟨_, _, hread⟩ := exists_mem_of_mapM hdeclarations hd
      exact Document.readNodeType_default hread

theorem Schema.builtin_sound : Schema.builtin.Sound := by
  have hall : ∀ e ∈ listed.types, (e.2.params.map Prod.fst).IsChain (· < ·) ∧
      ∀ q ∈ e.2.params, q.2.default.any Value.isNull = false := by
    decide +kernel
  intro name t ht
  rw [builtin_eq] at ht
  obtain ⟨hchain, hdefaults⟩ := hall (name, t) (Table.mem_of_get? ht)
  refine ⟨List.pairwise_map.1 (List.isChain_iff_pairwise.1 hchain), fun e he hnull => ?_⟩
  have hdefault := hdefaults e he
  rw [hnull] at hdefault
  cases hdefault

/-! ## Scenes -/

/-- The parameters of every node, in groups too, ascend. -/
structure Scene.Ordered (sc : Scene) : Prop where
  nodes : ∀ n ∈ sc.nodes, n.params.Ascending
  inner : ∀ g ∈ sc.groups, ∀ n ∈ g.nodes, n.params.Ascending

namespace Document

theorem foldlM_invariant {ε α β : Type} {f : α → β → Except ε α} {P : α → Prop} {xs : List β} {a b : α}
    (hstep : ∀ a x b, P a → f a x = .ok b → P b) (ha : P a) (h : xs.foldlM f a = .ok b) : P b := by
  induction xs generalizing a with
  | nil =>
    cases h
    exact ha
  | cons x rest ih =>
    rw [List.foldlM_cons] at h
    cases hx : f a x with
    | error e => simp [hx, bind, Except.bind] at h
    | ok c =>
      rw [hx] at h
      exact ih (hstep a x c ha hx) h

variable {α : Type} {js : Occurrences}

theorem readTable_ascending {read : Json → Read α} {t : Table α} (h : readTable read js = .ok t) : t.Ascending := by
  refine foldlM_invariant (fun old j new hold hnew => ?_) .nil h
  split at hnew
  · cases hnew
    exact .nil
  · refine foldlM_invariant (fun old m new hold hnew => ?_) hold hnew
    cases hread : read m.2 with
    | error e => simp [hread, bind, Except.bind] at hnew
    | ok v =>
      simp only [hread, bind, Except.bind, pure, Except.pure, Except.ok.injEq] at hnew
      exact hnew ▸ hold.insert m.1 v
  · cases hnew

theorem readList_forall {read : Occurrences → Read α} {P : α → Prop} (hread : ∀ js a, read js = .ok a → P a)
    {xs : List α} (h : readList read js = .ok xs) : ∀ x ∈ xs, P x := by
  unfold readList at h
  simp only [bind, Except.bind, pure, Except.pure] at h
  split at h
  · cases h
  · split at h
    · cases h
    · rename_i lists hlists
      cases h
      intro x hx
      cases lists with
      | nil => cases hx
      | cons run rest =>
        obtain ⟨items, -, hrun⟩ := exists_mem_of_mapM hlists List.mem_cons_self
        unfold readRun at hrun
        simp only [bind, Except.bind, pure, Except.pure] at hrun
        split at hrun
        · cases hrun
        · rename_i hitems
          cases hrun
          obtain ⟨_, -, ha⟩ := exists_mem_of_mapM hitems (List.mem_of_mem_take hx)
          exact hread _ x ha

theorem readRecord_eq_ok {read : (String → Occurrences) → Read α} {a : α} (h : readRecord read js = .ok a) :
    ∃ member, read member = .ok a := by
  unfold readRecord at h
  cases hmembers : members js with
  | error e => simp [hmembers, bind, Except.bind] at h
  | ok ms =>
    rw [hmembers] at h
    exact ⟨_, h⟩

theorem readNode_ascending {n : Node} (h : readNode js = .ok n) : n.params.Ascending := by
  obtain ⟨member, h⟩ := readRecord_eq_ok h
  simp only [bind, Except.bind, pure, Except.pure] at h
  iterate 2
    split at h
    · cases h
  split at h
  · cases h
  · rename_i hparams
    iterate 2
      split at h
      · cases h
    cases h
    exact readTable_ascending hparams

theorem readGroup_ascending {g : Group} (h : readGroup js = .ok g) : ∀ n ∈ g.nodes, n.params.Ascending := by
  obtain ⟨member, h⟩ := readRecord_eq_ok h
  simp only [bind, Except.bind, pure, Except.pure] at h
  iterate 2
    split at h
    · cases h
  split at h
  · cases h
  · rename_i hnodes
    iterate 3
      split at h
      · cases h
    cases h
    exact readList_forall (fun _ _ => readNode_ascending) hnodes

theorem readScene_ordered {sc : Scene} (h : readScene js = .ok sc) : sc.Ordered := by
  obtain ⟨member, h⟩ := readRecord_eq_ok h
  simp only [bind, Except.bind, pure, Except.pure] at h
  iterate 2
    split at h
    · cases h
  split at h
  · cases h
  · rename_i hnodes
    iterate 2
      split at h
      · cases h
    split at h
    · cases h
    · rename_i hgroups
      split at h
      · cases h
      · cases h
        exact ⟨readList_forall (fun _ _ => readNode_ascending) hnodes,
          readList_forall (fun _ _ => readGroup_ascending) hgroups⟩

theorem readScene_assets {sc : Scene} (h : readScene js = .ok sc) : sc.assets.Ascending := by
  obtain ⟨member, h⟩ := readRecord_eq_ok h
  simp only [bind, Except.bind, pure, Except.pure] at h
  iterate 6
    split at h
    · cases h
  split at h
  · cases h
  · rename_i hassets
    cases h
    exact readTable_ascending hassets

end Document

namespace Scene

variable {text : String} {sc : Scene}

theorem exists_readScene (h : parseUnchecked text = .ok sc) : ∃ js, Document.readScene js = .ok sc := by
  unfold parseUnchecked at h
  split at h
  · cases h
  · split at h
    · cases h
    · rename_i hread
      split at h
      · cases h
        exact ⟨_, hread⟩
      · cases h

theorem ordered_of_parseUnchecked (h : parseUnchecked text = .ok sc) : sc.Ordered := by
  obtain ⟨_, hread⟩ := exists_readScene h
  exact Document.readScene_ordered hread

/-- The assets of a scene that was read are in order. -/
theorem assets_ascending (h : parseUnchecked text = .ok sc) : sc.assets.Ascending := by
  obtain ⟨_, hread⟩ := exists_readScene h
  exact Document.readScene_assets hread

end Scene

end SceneGraph
