import SceneGraph.Proofs.Names
import SceneGraph.Proofs.NormalForms
import SceneGraph.Proofs.Tables

/-!
# Settled nodes

A node passes the check of its parameters exactly if the schema describes it, and then its parameters are settled:
null disappears where a parameter is declared, given values take their normal form, and defaults fill the gaps.

* `Schema.Admits`: the schema describes a node.
* `NodeType.Settled`: a node with its parameters settled.
* `Schema.normalize_isOk`, `Schema.normalize_settled`: which nodes pass, and what becomes of them.
* `NodeType.Settled.unique`: a node can be settled in one way.
-/
set_option autoImplicit false

namespace SceneGraph

theorem Value.isNull_iff {v : Value} : v.isNull = true ↔ v = .null := by
  cases v <;> simp [isNull]

theorem Node.hasParam_iff {n : Node} {key : String} :
    n.hasParam key = true ↔ ∃ v, n.params.get? key = some v ∧ v ≠ .null := by
  unfold hasParam
  cases n.params.get? key with
  | none => simp
  | some v => simp [← Value.isNull_iff]

/-! ## Nodes -/

/-- A node may carry the value under the key, and validation keeps that much of it. -/
inductive Schema.Keeps (s : Schema) (t : NodeType) (key : String) : Value → Option Value → Prop
  | ignored {v : Value} (hundeclared : t.params.get? key = none) (hignored : key ∈ s.ignoredParams) :
      Keeps s t key v (some v)
  | null {p : ParamSpec} (hdeclared : t.params.get? key = some p) : Keeps s t key .null none
  | normal {p : ParamSpec} {v w : Value} (hdeclared : t.params.get? key = some p) (hv : v ≠ .null)
      (hnormal : p.Normal v w) : Keeps s t key v (some w)

namespace Schema

variable {s : Schema} {t : NodeType} {node key : String} {ps qs : Table Value} {params : Table ParamSpec} {n m : Node}

theorem keeps_iff_of_undeclared {v : Value} {r : Option Value} (hundeclared : t.params.get? key = none) :
    s.Keeps t key v r ↔ key ∈ s.ignoredParams ∧ r = some v := by
  constructor
  · intro h
    cases h with
    | ignored _ hignored => exact ⟨hignored, rfl⟩
    | null hdeclared | normal hdeclared => cases hundeclared.symm.trans hdeclared
  · rintro ⟨hignored, rfl⟩
    exact .ignored hundeclared hignored

theorem keeps_iff_of_declared {v : Value} {r : Option Value} {p : ParamSpec} (hdeclared : t.params.get? key = some p) :
    s.Keeps t key v r ↔ v = .null ∧ r = none ∨ v ≠ .null ∧ ∃ w, p.Normal v w ∧ r = some w := by
  constructor
  · intro h
    cases h with
    | ignored hundeclared => cases hdeclared.symm.trans hundeclared
    | null => exact .inl ⟨rfl, rfl⟩
    | normal hdeclared' hv hnormal =>
      cases hdeclared.symm.trans hdeclared'
      exact .inr ⟨hv, _, hnormal, rfl⟩
  · rintro (⟨rfl, rfl⟩ | ⟨hv, w, hnormal, rfl⟩)
    · exact .null hdeclared
    · exact .normal hdeclared hv hnormal

theorem checkParams_cons {v : Value} {rest : Table Value} : s.checkParams t node ((key, v) :: rest) = .ok qs ↔
    ∃ kept ps, s.Keeps t key v kept ∧ s.checkParams t node rest = .ok ps ∧
      qs = (kept.map fun w => (key, w)).toList ++ ps := by
  rw [checkParams]
  cases hdeclared : t.params.get? key with
  | none =>
    simp only [keeps_iff_of_undeclared hdeclared]
    by_cases hignored : key ∈ s.ignoredParams
    · cases s.checkParams t node rest <;> simp [hignored, bind, Except.bind, pure, Except.pure, eq_comm]
    · simp [hignored]
  | some p =>
    have hnormal (w : Value) : p.Normal v w ↔ p.check node v = .ok w := ParamSpec.check_iff.symm
    simp only [keeps_iff_of_declared hdeclared, hnormal]
    by_cases hv : v = .null
    · simp [hv, Value.isNull]
    · have hnull : ¬v.isNull = true := fun hnull => hv (Value.isNull_iff.1 hnull)
      cases p.check node v <;> cases s.checkParams t node rest <;>
        simp [hv, hnull, bind, Except.bind, pure, Except.pure, eq_comm]

theorem checkParams_isOk : (∃ qs, s.checkParams t node ps = .ok qs) ↔ ∀ e ∈ ps, ∃ kept, s.Keeps t e.1 e.2 kept := by
  induction ps with
  | nil => simp [checkParams]
  | cons e rest ih =>
    rw [List.forall_mem_cons, ← ih]
    constructor
    · rintro ⟨qs, h⟩
      obtain ⟨kept, ps, hkept, hrest, -⟩ := checkParams_cons.1 h
      exact ⟨⟨kept, hkept⟩, ps, hrest⟩
    · rintro ⟨⟨kept, hkept⟩, ps, hrest⟩
      exact ⟨_, checkParams_cons.2 ⟨kept, ps, hkept, hrest, rfl⟩⟩

theorem checkParams_keeps (hps : ps.Ascending) (h : s.checkParams t node ps = .ok qs) :
    qs.Ascending ∧ (∀ e ∈ qs, ∃ d ∈ ps, d.1 = e.1) ∧
      ∀ key v, ps.get? key = some v → s.Keeps t key v (qs.get? key) := by
  induction ps generalizing qs with
  | nil =>
    cases h
    exact ⟨.nil, by simp, by simp⟩
  | cons e rest ih =>
    obtain ⟨kept, ps, hkept, hrest, rfl⟩ := checkParams_cons.1 h
    obtain ⟨hascending, hkeys, hall⟩ := ih hps.tail hrest
    have hfirst : ∀ d ∈ ps, e.1 < d.1 := by
      intro d hd
      obtain ⟨c, hc, hname⟩ := hkeys d hd
      exact hname ▸ (List.pairwise_cons.1 hps).1 c hc
    have hgone : Table.get? ps e.1 = none :=
      Table.get?_eq_none_iff.2 fun d hd => (String.ne_of_lt (hfirst d hd)).symm
    refine ⟨?_, ?_, fun key v hkey => ?_⟩
    · cases kept with
      | none => exact hascending
      | some w => exact List.pairwise_cons.2 ⟨hfirst, hascending⟩
    · intro d hd
      rcases List.mem_append.1 hd with hd | hd
      · refine ⟨e, List.mem_cons_self, ?_⟩
        cases kept with
        | none => cases hd
        | some w => rw [List.mem_singleton.1 hd]
      · obtain ⟨c, hc, hname⟩ := hkeys d hd
        exact ⟨c, List.mem_cons_of_mem _ hc, hname⟩
    · rw [show e = (e.1, e.2) from rfl, Table.get?_cons] at hkey
      split at hkey
      · rename_i hname
        cases hkey
        subst hname
        cases kept with
        | none => simpa [hgone] using hkept
        | some w => simpa [Table.get?_cons] using hkept
      · rename_i hname
        have hrest := hall key v hkey
        cases kept with
        | none => exact hrest
        | some w => simpa [Table.get?_cons, hname] using hrest

theorem hasParam_setParam_ne {name : String} (hne : key ≠ name) (v : Value) :
    (n.setParam name v).hasParam key = n.hasParam key := by
  unfold Node.hasParam Node.setParam
  rw [Table.get?_insert_ne _ _ _ _ hne]

theorem fillDefaults_isOk (hparams : params.Ascending) : (∃ m, fillDefaults params n = .ok m) ↔
    ∀ e ∈ params, e.2.required = true → n.hasParam e.1 = true := by
  induction params generalizing n with
  | nil => simp [fillDefaults]
  | cons e rest ih =>
    obtain ⟨name, p⟩ := e
    have hlater : ∀ v, (∀ e ∈ rest, e.2.required = true → (n.setParam name v).hasParam e.1 = true) ↔
        ∀ e ∈ rest, e.2.required = true → n.hasParam e.1 = true := fun v =>
      forall₂_congr fun e he => by
        rw [hasParam_setParam_ne (String.ne_of_lt ((List.pairwise_cons.1 hparams).1 e he)).symm]
    rw [List.forall_mem_cons]
    unfold fillDefaults
    cases hgiven : n.hasParam name with
    | true => simp [ih hparams.tail]
    | false =>
      cases hrequired : p.required with
      | true => simp
      | false =>
        cases p.default with
        | none => simp [ih hparams.tail]
        | some v => simpa [ih hparams.tail] using hlater v

/-- Filling in defaults puts them where nothing is given, and nowhere else. -/
theorem fillDefaults_params (hparams : params.Ascending) (hn : n.params.Ascending) (h : fillDefaults params n = .ok m) :
    m = { n with params := m.params } ∧ m.params.Ascending ∧ ∀ key, m.params.get? key =
      (if n.hasParam key then none else (params.get? key).bind ParamSpec.default).or (n.params.get? key) := by
  induction params generalizing n with
  | nil =>
    cases h
    exact ⟨rfl, hn, fun key => by simp⟩
  | cons e rest ih =>
    obtain ⟨name, p⟩ := e
    have hgone : Table.get? rest name = none := hparams.get?_tail
    unfold fillDefaults at h
    cases hgiven : n.hasParam name with
    | true =>
      rw [hgiven, if_pos rfl] at h
      obtain ⟨hrest, hascending, hkeys⟩ := ih hparams.tail hn h
      refine ⟨hrest, hascending, fun key => ?_⟩
      rw [hkeys key, Table.get?_cons]
      by_cases hname : name = key
      · simp [← hname, hgiven]
      · simp [hname]
    | false =>
      rw [hgiven, if_neg (by simp)] at h
      split at h
      · cases h
      · cases hdefault : p.default with
        | none =>
          rw [hdefault] at h
          obtain ⟨hrest, hascending, hkeys⟩ := ih hparams.tail hn h
          refine ⟨hrest, hascending, fun key => ?_⟩
          rw [hkeys key, Table.get?_cons]
          by_cases hname : name = key
          · simp [← hname, hgone, hdefault]
          · simp [hname]
        | some v =>
          rw [hdefault] at h
          obtain ⟨hrest, hascending, hkeys⟩ := ih hparams.tail (hn.insert name v) h
          refine ⟨hrest.trans (by simp [Node.setParam]), hascending, fun key => ?_⟩
          rw [hkeys key, Table.get?_cons]
          by_cases hname : name = key
          · subst hname
            simp [hgone, hgiven, hdefault, Node.setParam, Table.get?_insert_self]
          · rw [hasParam_setParam_ne (Ne.symm hname), if_neg hname]
            simp only [Node.setParam, Table.get?_insert_ne _ _ _ _ (Ne.symm hname)]

end Schema

/-- What a node has under a key after validation: what it had where nothing is declared, the normal form of what it
had where a parameter is, and the default of the parameter where it had nothing or null. -/
inductive NodeType.Settles (t : NodeType) (key : String) : Option Value → Option Value → Prop
  | undeclared {given : Option Value} (hundeclared : t.params.get? key = none) : Settles t key given given
  | normal {p : ParamSpec} {v w : Value} (hdeclared : t.params.get? key = some p) (hv : v ≠ .null)
      (hnormal : p.Normal v w) : Settles t key (some v) (some w)
  | filled {p : ParamSpec} {given : Option Value} (hdeclared : t.params.get? key = some p)
      (hgiven : ∀ v, given = some v → v = .null) : Settles t key given p.default

/-- The node is the other one with its parameters settled. -/
structure NodeType.Settled (t : NodeType) (n m : Node) : Prop where
  rest : m = { n with params := m.params }
  ascending : m.params.Ascending
  params : ∀ key, t.Settles key (n.params.get? key) (m.params.get? key)

/-- A node is one that the schema describes: its type is known, its keys are declared or ignorable, the values under
declared keys are null or meet their declarations, and required parameters are there. -/
structure Schema.Admits (s : Schema) (n : Node) (t : NodeType) : Prop where
  known : s.nodeType? n.type = some t
  declared : ∀ key v, n.params.get? key = some v → t.params.get? key = none → key ∈ s.ignoredParams
  valid : ∀ key v p, n.params.get? key = some v → t.params.get? key = some p → v ≠ .null → ∃ w, p.Normal v w
  complete : ∀ key p, t.params.get? key = some p → p.required = true → ∃ v, n.params.get? key = some v ∧ v ≠ .null

theorem NodeType.Settles.functional {t : NodeType} {key : String} {given r r' : Option Value}
    (h : t.Settles key given r) (h' : t.Settles key given r') : r = r' := by
  cases h with
  | undeclared hundeclared =>
    cases h' with
    | undeclared => rfl
    | normal hdeclared | filled hdeclared => cases hundeclared.symm.trans hdeclared
  | normal hdeclared hv hnormal =>
    cases h' with
    | undeclared hundeclared => cases hdeclared.symm.trans hundeclared
    | filled _ hgiven => exact absurd (hgiven _ rfl) hv
    | normal hdeclared' _ hnormal' =>
      cases hdeclared.symm.trans hdeclared'
      rw [hnormal.functional hnormal']
  | filled hdeclared hgiven =>
    cases h' with
    | undeclared hundeclared => cases hdeclared.symm.trans hundeclared
    | normal _ hv => exact absurd (hgiven _ rfl) hv
    | filled hdeclared' =>
      cases hdeclared.symm.trans hdeclared'
      rfl

theorem NodeType.Settled.unique {t : NodeType} {n m m' : Node} (h : t.Settled n m) (h' : t.Settled n m') : m = m' := by
  have hparams : m.params = m'.params :=
    h.ascending.ext h'.ascending fun key => (h.params key).functional (h'.params key)
  rw [h.rest, h'.rest, hparams]

theorem NodeType.Settled.undeclared {t : NodeType} {n m : Node} {key : String} (h : t.Settled n m)
    (hundeclared : t.params.get? key = none) : m.params.get? key = n.params.get? key := by
  have hkey := h.params key
  generalize n.params.get? key = given, m.params.get? key = kept at hkey ⊢
  cases hkey with
  | undeclared => rfl
  | normal hdeclared | filled hdeclared => cases hundeclared.symm.trans hdeclared

theorem NodeType.Settled.declared {t : NodeType} {n m : Node} {key : String} {p : ParamSpec} (h : t.Settled n m)
    (hdeclared : t.params.get? key = some p) :
    (∃ v w, n.params.get? key = some v ∧ v ≠ .null ∧ p.Normal v w ∧ m.params.get? key = some w) ∨
      (∀ v, n.params.get? key = some v → v = .null) ∧ m.params.get? key = p.default := by
  have hkey := h.params key
  generalize n.params.get? key = given, m.params.get? key = kept at hkey ⊢
  cases hkey with
  | undeclared hundeclared => cases hdeclared.symm.trans hundeclared
  | normal hdeclared' hv hnormal =>
    cases hdeclared.symm.trans hdeclared'
    exact .inl ⟨_, _, rfl, hv, hnormal, rfl⟩
  | filled hdeclared' hgiven =>
    cases hdeclared.symm.trans hdeclared'
    exact .inr ⟨hgiven, rfl⟩

namespace Schema

variable {s : Schema} {t : NodeType} {n m : Node}

theorem admits_iff (ht : s.nodeType? n.type = some t) : s.Admits n t ↔
    (∀ key v, n.params.get? key = some v → ∃ kept, s.Keeps t key v kept) ∧
      ∀ key p, t.params.get? key = some p → p.required = true → ∃ v, n.params.get? key = some v ∧ v ≠ .null := by
  constructor
  · refine fun h => ⟨fun key v hv => ?_, h.complete⟩
    cases hdeclared : t.params.get? key with
    | none => exact ⟨_, .ignored hdeclared (h.declared key v hv hdeclared)⟩
    | some p =>
      by_cases hnull : v = .null
      · exact ⟨none, hnull ▸ .null hdeclared⟩
      · obtain ⟨w, hnormal⟩ := h.valid key v p hv hdeclared hnull
        exact ⟨some w, .normal hdeclared hnull hnormal⟩
  · rintro ⟨hkeeps, hcomplete⟩
    refine ⟨ht, fun key v hv hundeclared => ?_, fun key v p hv hdeclared hnull => ?_, hcomplete⟩
    · obtain ⟨kept, hkept⟩ := hkeeps key v hv
      exact ((keeps_iff_of_undeclared hundeclared).1 hkept).1
    · obtain ⟨kept, hkept⟩ := hkeeps key v hv
      obtain ⟨rfl, -⟩ | ⟨-, w, hnormal, -⟩ := (keeps_iff_of_declared hdeclared).1 hkept
      · exact absurd rfl hnull
      · exact ⟨w, hnormal⟩

section

variable {ps : Table Value} (hn : n.params.Ascending) (h : s.checkParams t n.id n.params = .ok ps)
include hn h

theorem get?_checked_of_absent {key : String} (habsent : n.params.get? key = none) : ps.get? key = none := by
  refine Table.get?_eq_none_iff.2 fun e he hname => ?_
  obtain ⟨d, hd, hsame⟩ := (checkParams_keeps hn h).2.1 e he
  exact Table.get?_eq_none_iff.1 habsent d hd (hsame.trans hname)

theorem get?_checked_of_undeclared {key : String} (hundeclared : t.params.get? key = none) :
    ps.get? key = n.params.get? key := by
  cases hv : n.params.get? key with
  | none => exact get?_checked_of_absent hn h hv
  | some v => exact ((keeps_iff_of_undeclared hundeclared).1 ((checkParams_keeps hn h).2.2 key v hv)).2

/-- Under a declared key the check leaves the normal form of what was given, and nothing where that was null. -/
theorem get?_checked_of_declared {key : String} {p : ParamSpec} (hdeclared : t.params.get? key = some p) :
    (∀ v, n.params.get? key = some v → v = .null) ∧ ps.get? key = none ∨
      ∃ v w, n.params.get? key = some v ∧ v ≠ .null ∧ p.Normal v w ∧ ps.get? key = some w := by
  cases hv : n.params.get? key with
  | none => exact .inl ⟨nofun, get?_checked_of_absent hn h hv⟩
  | some v =>
    obtain ⟨rfl, hgone⟩ | ⟨hnull, w, hnormal, hkept⟩ :=
      (keeps_iff_of_declared hdeclared).1 ((checkParams_keeps hn h).2.2 key v hv)
    · exact .inl ⟨fun v hv => (Option.some.inj hv).symm, hgone⟩
    · exact .inr ⟨v, w, rfl, hnull, hnormal, hkept⟩

/-- A declared parameter is given after the check exactly if it was before. -/
theorem hasParam_checked {key : String} {p : ParamSpec} (hdeclared : t.params.get? key = some p) :
    ({ n with params := ps } : Node).hasParam key = true ↔ ∃ v, n.params.get? key = some v ∧ v ≠ .null := by
  rw [Node.hasParam_iff]
  obtain ⟨hnull, hgone⟩ | ⟨v, w, hv, hnull, hnormal, hkept⟩ := get?_checked_of_declared hn h hdeclared
  · rw [hgone]
    exact ⟨nofun, fun ⟨v, hv, hne⟩ => absurd (hnull v hv) hne⟩
  · exact ⟨fun _ => ⟨v, hv, hnull⟩, fun _ => ⟨w, hkept, hnormal.ne_null hnull⟩⟩

/-- Filling in defaults after the check settles the parameters of a node. -/
theorem settled_of_fillDefaults (hparams : t.params.Ascending)
    (hfill : fillDefaults t.params { n with params := ps } = .ok m) : t.Settled n m := by
  obtain ⟨hrest, hsettled, hfilled⟩ := fillDefaults_params hparams (checkParams_keeps hn h).1 hfill
  refine ⟨hrest, hsettled, fun key => ?_⟩
  rw [hfilled key]
  cases hdeclared : t.params.get? key with
  | none =>
    simp only [Option.bind_none, ite_self, Option.none_or, get?_checked_of_undeclared hn h hdeclared]
    exact .undeclared hdeclared
  | some p =>
    have hhas := hasParam_checked hn h hdeclared
    obtain ⟨hnull, hgone⟩ | ⟨v, w, hv, hnull, hnormal, hkept⟩ := get?_checked_of_declared hn h hdeclared
    · have habsent : ¬({ n with params := ps } : Node).hasParam key = true := fun hgiven => by
        obtain ⟨v, hv, hne⟩ := hhas.1 hgiven
        exact hne (hnull v hv)
      simp only [habsent, hgone, Option.or_none, Option.bind_some]
      exact .filled hdeclared hnull
    · simp only [hhas.2 ⟨v, hv, hnull⟩, if_true, Option.none_or, hv, hkept]
      exact .normal hdeclared hnull hnormal

end

theorem normalize_isOk (ht : s.nodeType? n.type = some t) (hparams : t.params.Ascending) (hn : n.params.Ascending) :
    (∃ m, s.normalize n = .ok m) ↔ s.Admits n t := by
  have hall : (∀ key v, n.params.get? key = some v → ∃ kept, s.Keeps t key v kept) ↔
      ∃ ps, s.checkParams t n.id n.params = .ok ps := by
    rw [checkParams_isOk]
    exact ⟨fun h e he => h e.1 e.2 (hn.get?_eq_some_iff.2 he), fun h key v hv => h (key, v) (Table.mem_of_get? hv)⟩
  rw [admits_iff ht, hall]
  unfold normalize
  simp only [ht, bind, Except.bind]
  cases hcheck : s.checkParams t n.id n.params with
  | error e => simp
  | ok ps =>
    simp only [Except.ok.injEq, exists_eq', true_and]
    rw [fillDefaults_isOk hparams]
    constructor
    · exact fun h key p hdeclared hrequired =>
        (hasParam_checked hn hcheck hdeclared).1 (h (key, p) (Table.mem_of_get? hdeclared) hrequired)
    · exact fun h e he hrequired =>
        (hasParam_checked hn hcheck (hparams.get?_eq_some_iff.2 he)).2
          (h e.1 e.2 (hparams.get?_eq_some_iff.2 he) hrequired)

theorem normalize_settled (ht : s.nodeType? n.type = some t) (hparams : t.params.Ascending) (hn : n.params.Ascending)
    (h : s.normalize n = .ok m) : t.Settled n m := by
  unfold normalize at h
  simp only [ht, bind, Except.bind] at h
  cases hcheck : s.checkParams t n.id n.params with
  | error e => simp [hcheck] at h
  | ok ps =>
    rw [hcheck] at h
    exact settled_of_fillDefaults hn hcheck hparams h

end Schema

end SceneGraph
