import SceneGraph.Proofs.PassObjects
import SceneGraph.Proofs.Reads

/-!
# Ids of passes

The id of a pass is spelled from its kind and the ids of its nodes, and the emitters do not quote what they put
together. Kinds and the labels of stages have no colon, so almost all ids can be read back. Only a copy has two ids of
nodes with an arrow in between, and ids of nodes may have arrows of their own.

* `Text.eq_of_first`, `Text.eq_of_last`, `Text.eq_of_arrow`: texts that can be read back.
* `Sketch.Names`: how the pass of a draw node is spelled.
* `Event.cleared?`, `PlanContext.nodes_clear`: no target is cleared twice.
* `Pass.Confused`: copies of different layers whose ids are spelled alike.
* `Compiler.pass_ids`: two passes of one id are confused copies, and where no node has an arrow there are none.
* `Scene.arrows`: a scene with two confused copies.
-/
set_option autoImplicit false

namespace SceneGraph

open PlanState PlanContext

/-! ## Reading back -/

namespace Text

variable {x x' z z' : List Char}

/-- What stands before the first of a character and what stands behind. -/
theorem eq_of_first {a : Char} (hx : a ∉ x) (hx' : a ∉ x') (h : x ++ a :: z = x' ++ a :: z') : x = x' ∧ z = z' := by
  induction x generalizing x' with
  | nil =>
    cases x' with
    | nil => exact ⟨rfl, (List.cons.inj h).2⟩
    | cons b rest =>
      have hhead : a = b := (List.cons.inj h).1
      exact absurd (hhead ▸ List.mem_cons_self) hx'
  | cons b rest ih =>
    cases x' with
    | nil =>
      have hhead : b = a := (List.cons.inj h).1
      exact absurd (hhead ▸ List.mem_cons_self) hx
    | cons b' rest' =>
      obtain ⟨rfl, htail⟩ := List.cons.inj h
      obtain ⟨rfl, hz⟩ := ih (fun hmem => hx (List.mem_cons_of_mem b hmem))
        (fun hmem => hx' (List.mem_cons_of_mem b hmem)) htail
      exact ⟨rfl, hz⟩

/-- What stands before the last of a character and what stands behind. -/
theorem eq_of_last {a : Char} (hz : a ∉ z) (hz' : a ∉ z') (h : x ++ a :: z = x' ++ a :: z') : x = x' ∧ z = z' := by
  have hreverse : z.reverse ++ a :: x.reverse = z'.reverse ++ a :: x'.reverse := by
    simpa using congrArg List.reverse h
  obtain ⟨hback, hfront⟩ := eq_of_first (by simpa using hz) (by simpa using hz') hreverse
  exact ⟨List.reverse_injective hfront, List.reverse_injective hback⟩

/-- What stands before the first arrow and what stands behind. -/
theorem eq_of_arrow (hx : ¬['-', '>'] <:+: x) (hx' : ¬['-', '>'] <:+: x')
    (h : x ++ '-' :: '>' :: z = x' ++ '-' :: '>' :: z') : x = x' ∧ z = z' := by
  -- A text that goes on where the other one has its arrow begins with a dash, and then with the arrow.
  have hshort : ∀ {y w w' : List Char}, ¬['-', '>'] <:+: y → '-' :: '>' :: w = y ++ '-' :: '>' :: w' → y = [] := by
    intro y w w' hy heq
    match y with
    | [] => rfl
    | [b] =>
      obtain ⟨-, htail⟩ := List.cons.inj heq
      exact absurd (List.cons.inj htail).1 (by decide)
    | b :: b' :: rest =>
      obtain ⟨rfl, htail⟩ := List.cons.inj heq
      obtain ⟨rfl, -⟩ := List.cons.inj htail
      exact absurd ⟨[], rest, rfl⟩ hy
  induction x generalizing x' with
  | nil =>
    obtain rfl := hshort hx' h
    simpa using h
  | cons b rest ih =>
    cases x' with
    | nil => exact absurd (hshort hx h.symm) (List.cons_ne_nil _ _)
    | cons b' rest' =>
      obtain ⟨rfl, htail⟩ := List.cons.inj h
      obtain ⟨rfl, hz⟩ := ih (fun hin => hx (hin.trans (List.suffix_cons b rest).isInfix))
        (fun hin => hx' (hin.trans (List.suffix_cons b rest').isInfix)) htail
      exact ⟨rfl, hz⟩

theorem notMem_repr {a : Char} (ha : a.isDigit = false) (i : Nat) : a ∉ (toString i).toList := by
  intro h
  have hdigit : a.isDigit = true := by
    refine Nat.isDigit_of_mem_toDigits (b := 10) (n := i) (by decide) (by decide) ?_
    rwa [← Nat.toList_repr]
  rw [ha] at hdigit
  cases hdigit

end Text

/-! ## Kinds -/

namespace PassKind

/-- The kinds of the passes that are planned. -/
def planned : List PassKind := [.draw, .blit, .blur, .bloom, .compose, .clear, .present]

/-- The kind can be read off an id, since its name has no colon. -/
theorem eq_of_id {k k' : PassKind} (hk : k ∈ planned) (hk' : k' ∈ planned) {rest rest' : String}
    (h : k.name ++ ":" ++ rest = k'.name ++ ":" ++ rest') : k = k' ∧ rest = rest' := by
  have hcolon : ∀ k ∈ planned, ':' ∉ k.name.toList := by decide
  have hname : ∀ k ∈ planned, ∀ k' ∈ planned, k.name = k'.name → k = k' := by decide
  have hchars : k.name.toList ++ ':' :: rest.toList = k'.name.toList ++ ':' :: rest'.toList := by
    simpa using congrArg String.toList h
  obtain ⟨hfront, hback⟩ := Text.eq_of_first (hcolon k hk) (hcolon k' hk') hchars
  exact ⟨hname k hk k' hk' (String.toList_inj.1 hfront), String.toList_inj.1 hback⟩

end PassKind

/-- Draw nodes of the kind are planned in stages. -/
def PassKind.isStaged (k : PassKind) : Bool := k == .blur || k == .bloom

/-! ## Passes of draw nodes -/

/-- How the pass of a draw node is spelled: by the node, and by a label if it is one stage among others. -/
structure Sketch.Names (s : Sketch) (id : String) : Prop where
  kind : s.kind ∈ [PassKind.draw, .blit, .blur, .bloom]
  spelled : ∃ label : String, ':' ∉ label.toList ∧
    s.id = s.kind.name ++ ":" ++ if s.kind.isStaged then id ++ ":" ++ label else id

namespace Sketch.Names

variable {s s' : Sketch} {id id' : String}

theorem planned (h : s.Names id) : s.kind ∈ PassKind.planned := by
  have hkind := h.kind
  simp only [List.mem_cons, List.not_mem_nil, or_false] at hkind
  rcases hkind with hkind | hkind | hkind | hkind <;> rw [hkind] <;> decide

/-- The node can be read off the id. -/
theorem unique (h : s.Names id) (h' : s'.Names id') (hid : s.id = s'.id) : id = id' := by
  obtain ⟨label, hlabel, hs⟩ := h.spelled
  obtain ⟨label', hlabel', hs'⟩ := h'.spelled
  rw [hs, hs'] at hid
  obtain ⟨hkind, hrest⟩ := PassKind.eq_of_id h.planned h'.planned hid
  rw [hkind] at hrest
  split at hrest
  · have hchars : id.toList ++ ':' :: label.toList = id'.toList ++ ':' :: label'.toList := by
      simpa using congrArg String.toList hrest
    exact String.toList_inj.1 (Text.eq_of_last hlabel hlabel' hchars).1
  · exact hrest

end Sketch.Names

/-! ## Labels -/

namespace StageLabel

/-- A label with a number. -/
def numbered (word : String) (i : Nat) : String := word ++ toString i

theorem numbered_injective (word : String) {i j : Nat} (h : numbered word i = numbered word j) : i = j :=
  Names.repr_injective i j ((String.append_right_inj word).1 h)

theorem ne_of_letter {a b : Char} (hab : a ≠ b) {l l' : String} (h : l.toList.head? = some a)
    (h' : l'.toList.head? = some b) : l ≠ l' := by
  rintro rfl
  exact hab (Option.some.inj (h.symm.trans h'))

theorem numbered_letter {word : String} {a : Char} (h : word.toList.head? = some a) (i : Nat) :
    (numbered word i).toList.head? = some a := by
  rw [numbered, String.toList_append, List.head?_append, h]
  rfl

theorem colon_notMem_numbered {word : String} (h : ':' ∉ word.toList) (i : Nat) : ':' ∉ (numbered word i).toList := by
  rw [numbered, String.toList_append, List.mem_append]
  exact fun hmem => hmem.elim h (Text.notMem_repr (by decide) i)

/-- The labels of a blur: two for each round, and the last one. -/
def blur : Nat → Nat → List String
  | 0, _ => ["out"]
  | rounds + 1, i => numbered "h" i :: numbered "v" i :: blur rounds (i + 1)

theorem mem_blur {rounds i : Nat} {l : String} (h : l ∈ blur rounds i) :
    l = "out" ∨ ∃ k, i ≤ k ∧ (l = numbered "h" k ∨ l = numbered "v" k) := by
  induction rounds generalizing i with
  | zero => exact .inl (List.mem_singleton.1 h)
  | succ rounds ih =>
    rcases List.mem_cons.1 h with rfl | h
    · exact .inr ⟨i, le_rfl, .inl rfl⟩
    · rcases List.mem_cons.1 h with rfl | h
      · exact .inr ⟨i, le_rfl, .inr rfl⟩
      · obtain hout | ⟨k, hk, hl⟩ := ih h
        · exact .inl hout
        · exact .inr ⟨k, by omega, hl⟩

theorem blur_nodup (rounds i : Nat) : (blur rounds i).Nodup := by
  have hh : ∀ k, (numbered "h" k).toList.head? = some 'h' := numbered_letter rfl
  have hv : ∀ k, (numbered "v" k).toList.head? = some 'v' := numbered_letter rfl
  induction rounds generalizing i with
  | zero => exact List.nodup_singleton _
  | succ rounds ih =>
    have hrow : numbered "h" i ∉ numbered "v" i :: blur rounds (i + 1) := by
      intro hmem
      rcases List.mem_cons.1 hmem with heq | hmem
      · exact ne_of_letter (by decide) (hh i) (hv i) heq
      · obtain heq | ⟨k, hk, heq | heq⟩ := mem_blur hmem
        · exact ne_of_letter (by decide) (hh i) rfl heq
        · have := numbered_injective "h" heq
          omega
        · exact ne_of_letter (by decide) (hh i) (hv k) heq
    have hcolumn : numbered "v" i ∉ blur rounds (i + 1) := by
      intro hmem
      obtain heq | ⟨k, hk, heq | heq⟩ := mem_blur hmem
      · exact ne_of_letter (by decide) (hv i) rfl heq
      · exact ne_of_letter (by decide) (hv i) (hh k) heq
      · have := numbered_injective "v" heq
        omega
    exact List.nodup_cons.2 ⟨hrow, List.nodup_cons.2 ⟨hcolumn, ih (i + 1)⟩⟩

/-- The labels of a bloom: down to the last level and up again. -/
def bloom (levels : Nat) : List String :=
  "extract" :: (((List.range (levels - 1)).map fun i => numbered "down" (i + 1)) ++
    ((List.range (levels - 1)).reverse.map fun i => numbered "up" (i + 1)) ++ ["combine"])

theorem mem_bloom {levels : Nat} {l : String} (h : l ∈ bloom levels) :
    l = "extract" ∨ l = "combine" ∨ ∃ k, l = numbered "down" k ∨ l = numbered "up" k := by
  simp only [bloom, List.mem_cons, List.mem_append, List.mem_map, List.not_mem_nil, or_false] at h
  rcases h with rfl | (⟨i, -, rfl⟩ | ⟨i, -, rfl⟩) | rfl
  · exact .inl rfl
  · exact .inr (.inr ⟨i + 1, .inl rfl⟩)
  · exact .inr (.inr ⟨i + 1, .inr rfl⟩)
  · exact .inr (.inl rfl)

theorem bloom_nodup (levels : Nat) : (bloom levels).Nodup := by
  have hdown : ∀ k, (numbered "down" k).toList.head? = some 'd' := numbered_letter rfl
  have hup : ∀ k, (numbered "up" k).toList.head? = some 'u' := numbered_letter rfl
  have hnumbers : ∀ word, Function.Injective fun i => numbered word (i + 1) := by
    intro word i j hij
    have := numbered_injective word hij
    omega
  unfold bloom
  rw [List.nodup_cons, List.nodup_append, List.nodup_append]
  refine ⟨?_, ⟨List.nodup_range.map (hnumbers _), (List.nodup_reverse.2 List.nodup_range).map (hnumbers _), ?_⟩,
    List.nodup_singleton _, ?_⟩
  · simp only [List.mem_append, List.mem_map, List.mem_singleton, not_or, not_exists, not_and]
    refine ⟨⟨fun i _ => ?_, fun i _ => ?_⟩, by decide⟩
    · exact ne_of_letter (by decide) (hdown _) rfl
    · exact ne_of_letter (by decide) (hup _) rfl
  · rintro _ ha _ hb
    obtain ⟨i, -, rfl⟩ := List.mem_map.1 ha
    obtain ⟨j, -, rfl⟩ := List.mem_map.1 hb
    exact ne_of_letter (by decide) (hdown _) (hup _)
  · rintro _ ha _ hb
    obtain rfl := List.mem_singleton.1 hb
    rcases List.mem_append.1 ha with ha | ha
    · obtain ⟨i, -, rfl⟩ := List.mem_map.1 ha
      exact ne_of_letter (by decide) (hdown _) rfl
    · obtain ⟨i, -, rfl⟩ := List.mem_map.1 ha
      exact ne_of_letter (by decide) (hup _) rfl

theorem colon_notMem {l : String} (h : (∃ rounds i, l ∈ blur rounds i) ∨ ∃ levels, l ∈ bloom levels) :
    ':' ∉ l.toList := by
  obtain ⟨rounds, i, h⟩ | ⟨levels, h⟩ := h
  · obtain rfl | ⟨k, -, rfl | rfl⟩ := mem_blur h
    · decide
    · exact colon_notMem_numbered (by decide) k
    · exact colon_notMem_numbered (by decide) k
  · obtain rfl | rfl | ⟨k, rfl | rfl⟩ := mem_bloom h
    · decide
    · decide
    · exact colon_notMem_numbered (by decide) k
    · exact colon_notMem_numbered (by decide) k

end StageLabel

/-! ## Passes of draw nodes, together -/

namespace PlanContext

variable {c : PlanContext} {n : Node}

/-- The passes are the stages of an effect, one for each label. -/
def Staged (n : Node) (kind : PassKind) (labels : List String) (sketches : List Sketch) : Prop :=
  sketches.map (fun s => (s.kind, s.id)) = labels.map fun l => (kind, kind.name ++ ":" ++ n.id ++ ":" ++ l)

namespace Staged

variable {kind : PassKind} {labels : List String} {sketches : List Sketch}

theorem nodup (h : Staged n kind labels sketches) (hlabels : labels.Nodup) : (sketches.map Sketch.id).Nodup := by
  have hids : sketches.map Sketch.id = labels.map fun l => kind.name ++ ":" ++ n.id ++ ":" ++ l := by
    simpa [Function.comp_def] using congrArg (List.map Prod.snd) h
  rw [hids]
  exact hlabels.map fun a b hab => (String.append_right_inj _).1 hab

theorem names (h : Staged n kind labels sketches) (hkind : kind ∈ [PassKind.blur, .bloom])
    (hlabels : ∀ l ∈ labels, ':' ∉ l.toList) {s : Sketch} (hs : s ∈ sketches) : s.Names n.id := by
  have hmem := List.mem_map_of_mem (f := fun s : Sketch => (s.kind, s.id)) hs
  rw [h] at hmem
  obtain ⟨label, hlabel, heq⟩ := List.mem_map.1 hmem
  obtain ⟨hsame, hid⟩ := Prod.mk.inj heq
  have hstaged : kind.isStaged = true := by simpa [PassKind.isStaged] using hkind
  refine ⟨?_, label, hlabels label hlabel, ?_⟩
  · rw [← hsame]
    exact List.mem_append_right [.draw, .blit] hkind
  · rw [← hid, ← hsame, hstaged]
    simp [String.append_assoc]

end Staged

theorem blurSketches_staged (sources : List String) (target : String) :
    Staged n .blur (StageLabel.blur (blurCount n) 0) (c.blurSketches n sources target) := by
  have hrounds : ∀ rounds i reads, Staged n .blur (StageLabel.blur rounds i)
      (blurRoundSketches n (c.blurFirst n) (c.blurSecond n) rounds i reads ++
        [stageSketch n .blur "out" [c.blurSecond n] target]) := by
    intro rounds
    induction rounds with
    | zero => exact fun _ _ => rfl
    | succ rounds ih => exact fun i reads => congrArg _ (congrArg _ (ih (i + 1) [c.blurSecond n]))
  exact hrounds (blurCount n) 0 sources

theorem bloomSketches_staged (sources : List String) (target : String) :
    Staged n .bloom (StageLabel.bloom (bloomCount n)) (c.bloomSketches n sources target) := by
  unfold Staged bloomSketches bloomDown bloomUp StageLabel.bloom
  simp only [List.map_cons, List.map_append, List.map_map, List.map_nil, stageSketch]
  rfl

/-- The passes of a draw node are spelled by the node, each of them in its own way. -/
theorem drawSketches_ids (target : String) (sources : List String) :
    ((c.drawSketches n target sources).map Sketch.id).Nodup ∧ ∀ s ∈ c.drawSketches n target sources, s.Names n.id := by
  unfold drawSketches
  split
  · simpa using ⟨by simp, "", by decide, by rfl⟩
  · simpa using ⟨by simp, "", by decide, by rfl⟩
  · have h := c.blurSketches_staged (n := n) sources target
    exact ⟨h.nodup (StageLabel.blur_nodup _ _), fun s hs =>
      h.names (by decide) (fun l hl => StageLabel.colon_notMem (.inl ⟨_, _, hl⟩)) hs⟩
  · have h := c.bloomSketches_staged (n := n) sources target
    exact ⟨h.nodup (StageLabel.bloom_nodup _), fun s hs =>
      h.names (by decide) (fun l hl => StageLabel.colon_notMem (.inr ⟨_, hl⟩)) hs⟩
  · exact ⟨List.nodup_nil, by simp⟩

end PlanContext

/-! ## Clearing once -/

/-- The target that an event clears. -/
def Event.cleared? : Event → Option String
  | .clear n _ => some n.id
  | _ => none

theorem Event.eq_clear {e : Event} {id : String} (h : e.cleared? = some id) : ∃ n q, e = .clear n q ∧ n.id = id := by
  cases e with
  | clear n q => exact ⟨n, q, rfl, Option.some.inj h⟩
  | _ => cases h

namespace PlanContext

variable {c : PlanContext} {st st' : PlanState} {n : Node}

/-- A run from the state clears targets that have not been written, each of them once. -/
structure Clears (c : PlanContext) (st : PlanState) (es : List Event) : Prop where
  unwritten : ∀ id ∈ es.filterMap Event.cleared?, (Route.domainAt c.routes.textures id).texture ∉ st.written
  once : (es.filterMap Event.cleared?).Nodup

theorem Clears.of_none {es : List Event} (h : ∀ e ∈ es, e.cleared? = none) : c.Clears st es := by
  have hnone : es.filterMap Event.cleared? = [] := List.filterMap_eq_nil_iff.2 h
  constructor <;> simp [hnone]

/-- What has been cleared is written, so it is not cleared later. -/
theorem Clears.trans {es es' : List Event} (h : c.Clears st es) (hemits : Emits c st st' es) (h' : c.Clears st' es') :
    c.Clears st (es ++ es') where
  unwritten id hid := by
    rw [List.filterMap_append, List.mem_append] at hid
    rcases hid with hid | hid
    · exact h.unwritten id hid
    · exact fun hold => h'.unwritten id hid ((hemits.written _).2 (.inl hold))
  once := by
    rw [List.filterMap_append, List.nodup_append]
    refine ⟨h.once, h'.once, ?_⟩
    rintro id hid _ hid' rfl
    obtain ⟨e, he, hcleared⟩ := List.mem_filterMap.1 hid
    obtain ⟨m, q, rfl, rfl⟩ := Event.eq_clear hcleared
    obtain ⟨-, -, hsketch⟩ := hemits.formed _ he
    have hq : q ∈ es.flatMap Event.passes := List.mem_flatMap.2 ⟨_, he, List.mem_singleton_self q⟩
    exact h'.unwritten m.id hid' ((hemits.written _).2 (.inr ⟨q, hq, congrArg Sketch.target hsketch⟩))

theorem node_clears (hc : c.Valid) (hn : c.prepared.node? n.id = some n) (hst : Ready c st) {u : Unit}
    (h : Yields (c.node n) st u st') : ∃ es, Emits c st st' es ∧ c.Clears st es := by
  by_cases htarget : isTargetType n.type = true
  · rcases node_cases h with ⟨rfl, -⟩ | ⟨-, ⟨htype, -⟩ | ⟨hdraw, -⟩ | ⟨-, h⟩⟩
    · exact ⟨[], .refl hst, .of_none (by simp)⟩
    · rw [htype] at htarget
      exact absurd htarget (by decide)
    · rw [isTargetType_of_draw hdraw] at htarget
      cases htarget
    · obtain ⟨es, hemits, -, -, -, rfl | ⟨hnew, q, rfl⟩⟩ := clearUnwritten_emits hc hn htarget hst h
      · exact ⟨[], hemits, .of_none (by simp)⟩
      · exact ⟨[.clear n q], hemits, by simpa [Event.cleared?] using hnew, List.nodup_singleton _⟩
  · obtain ⟨es, hemits, hes⟩ := node_emits hc hn hst h
    refine ⟨es, hemits, .of_none fun e he => ?_⟩
    by_contra hsome
    obtain ⟨id, hid⟩ := Option.ne_none_iff_exists'.1 hsome
    obtain ⟨m, q, rfl, -⟩ := Event.eq_clear hid
    obtain ⟨hm, hmtype, -⟩ := hemits.formed _ he
    have hself : m.id = n.id := (hes _ he).2.1.target hm hmtype
    rw [hself, hn] at hm
    cases hm
    exact htarget hmtype

theorem nodes_clear (hc : c.Valid) {ids : List String} (hst : Ready c st) {u : Unit}
    (h : Yields (c.nodes ids) st u st') : ∃ es, Emits c st st' es ∧ c.Clears st es := by
  induction ids generalizing st with
  | nil =>
    obtain ⟨_, rfl⟩ := (yields_pure _ _ _ _).1 h
    exact ⟨[], .refl hst, .of_none (by simp)⟩
  | cons id rest ih =>
    unfold nodes at h
    split at h
    · rename_i n hn
      obtain ⟨_, st₁, hfirst, hrest⟩ := (yields_bind _ _ _ _ _).1 h
      obtain ⟨es, h₁, hclears⟩ := node_clears hc (Prepared.node?_self hn) hst hfirst
      obtain ⟨es', h₂, hclears'⟩ := ih h₁.ready hrest
      exact ⟨es ++ es', h₁.trans h₂, hclears.trans h₁ hclears'⟩
    · exact ih hst h

end PlanContext

/-! ## Confused copies -/

/-- Two copies of different layers or into different compositions whose ids are spelled alike. -/
structure Pass.Confused (q w : Pass) : Prop where
  kinds : q.kind = .compose ∧ w.kind = .compose
  nodes : ∃ layer n layer' n', q.nodes = [layer, n] ∧ w.nodes = [layer', n'] ∧ (layer, n) ≠ (layer', n') ∧
    layer ++ "->" ++ n = layer' ++ "->" ++ n'

namespace PlanContext

variable {c : PlanContext} {plan : Plan}

/-- Events that mark different nodes as drawn, make different copies and clear different targets. -/
structure Apart (e e' : Event) : Prop where
  drawn : ∀ id, e.mark? = some id → e'.mark? ≠ some id
  copied : ∀ k, e.copied? = some k → e'.copied? ≠ some k
  cleared : ∀ id, e.cleared? = some id → e'.cleared? ≠ some id

theorem pairwise_of_nodup {α β : Type} {f : α → Option β} {l : List α} (h : (l.filterMap f).Nodup) :
    l.Pairwise fun a b => ∀ x, f a = some x → f b ≠ some x := by
  rw [List.Nodup, List.pairwise_filterMap] at h
  refine h.imp fun hne x ha hb => hne x ha x hb rfl

theorem draw_names {n : Node} {qs : List Pass} (h : (Event.draw n qs).Formed c plan) :
    (qs.map Pass.id).Nodup ∧ ∀ q ∈ qs, q.sketch.Names n.id := by
  obtain ⟨-, -, r, sources, -, -, hsketch⟩ := h
  obtain ⟨hnodup, hnames⟩ := c.drawSketches_ids (n := n) r.domain.texture sources
  constructor
  · rwa [← hsketch, List.map_map] at hnodup
  · exact fun q hq => hnames _ (hsketch ▸ List.mem_map_of_mem hq)

/-- The pass is spelled from its kind and something else. -/
structure Spelled (q : Pass) (rest : String) : Prop where
  kind : q.kind ∈ PassKind.planned
  id : q.id = q.kind.name ++ ":" ++ rest

theorem Spelled.unique {q w : Pass} {rest rest' : String} (hq : Spelled q rest) (hw : Spelled w rest')
    (hid : q.id = w.id) : q.kind = w.kind ∧ rest = rest' := by
  rw [hq.id, hw.id] at hid
  exact PassKind.eq_of_id hq.kind hw.kind hid

theorem spelled_of_names {q : Pass} {id : String} (h : q.sketch.Names id) : ∃ rest, Spelled q rest := by
  obtain ⟨label, -, hid⟩ := h.spelled
  exact ⟨_, h.planned, hid⟩

theorem copy_spelled {layer n : Node} {target : String} {q : Pass} (h : (Event.copy layer n target q).Formed c plan) :
    q.kind = .compose ∧ q.nodes = [layer.id, n.id] ∧ Spelled q (layer.id ++ "->" ++ n.id) := by
  obtain ⟨-, -, -, _, _, -, -, -, -, -, hsketch⟩ := h
  have hkind : q.kind = .compose := congrArg Sketch.kind hsketch
  have hid : q.id = "compose:" ++ layer.id ++ "->" ++ n.id := congrArg Sketch.id hsketch
  refine ⟨hkind, congrArg Sketch.nodes hsketch, by simp [hkind, PassKind.planned], ?_⟩
  rw [hid, hkind]
  simp only [PassKind.name, ← String.append_assoc]
  rfl

theorem clear_spelled {n : Node} {q : Pass} (h : (Event.clear n q).Formed c plan) :
    q.kind = .clear ∧ Spelled q n.id := by
  obtain ⟨-, -, hsketch⟩ := h
  have hkind : q.kind = .clear := congrArg Sketch.kind hsketch
  have hid : q.id = "clear:" ++ n.id := congrArg Sketch.id hsketch
  refine ⟨hkind, by simp [hkind, PassKind.planned], ?_⟩
  rw [hid, hkind]
  rfl

theorem present_spelled {q : Pass} (h : q.sketch = c.presentSketch) :
    q.kind = .present ∧ Spelled q c.prepared.output.node := by
  have hkind : q.kind = .present := congrArg Sketch.kind h
  have hid : q.id = "present:" ++ c.prepared.output.node := congrArg Sketch.id h
  refine ⟨hkind, by simp [hkind, PassKind.planned], ?_⟩
  rw [hid, hkind]
  rfl

/-- The kinds of passes that an event can have. -/
def kindsOf : Event → List PassKind
  | .enter _ => []
  | .draw _ _ => [.draw, .blit, .blur, .bloom]
  | .copy _ _ _ _ => [.compose]
  | .clear _ _ => [.clear]

theorem event_spelled {e : Event} (he : e.Formed c plan) {q : Pass} (hq : q ∈ e.passes) :
    q.kind ∈ kindsOf e ∧ ∃ rest, Spelled q rest := by
  cases e with
  | enter n => cases hq
  | draw n qs => exact ⟨((draw_names he).2 q hq).kind, spelled_of_names ((draw_names he).2 q hq)⟩
  | copy layer n target w =>
    obtain rfl := List.mem_singleton.1 hq
    obtain ⟨hkind, -, hspelled⟩ := copy_spelled he
    exact ⟨by simp [kindsOf, hkind], _, hspelled⟩
  | clear n w =>
    obtain rfl := List.mem_singleton.1 hq
    obtain ⟨hkind, hspelled⟩ := clear_spelled he
    exact ⟨by simp [kindsOf, hkind], _, hspelled⟩

/-- Passes of one id that belong to events apart are confused copies. -/
theorem Apart.confused {e e' : Event} (h : Apart e e') (he : e.Formed c plan) (he' : e'.Formed c plan) {q w : Pass}
    (hq : q ∈ e.passes) (hw : w ∈ e'.passes) (hid : q.id = w.id) : q.Confused w := by
  obtain ⟨hqkind, _, hqspelled⟩ := event_spelled he hq
  obtain ⟨hwkind, _, hwspelled⟩ := event_spelled he' hw
  rw [(hqspelled.unique hwspelled hid).1] at hqkind
  generalize hk : w.kind = k at hqkind hwkind
  -- A kind belongs to one sort of event, so both are draws, both copies or both clearings.
  cases e <;> cases e' <;> simp only [kindsOf, List.mem_cons, List.not_mem_nil, or_false] at hqkind hwkind
  case draw.draw n qs n' ws =>
    have hsame : n.id = n'.id := ((draw_names he).2 q hq).unique ((draw_names he').2 w hw) hid
    exact absurd (congrArg some hsame.symm) (h.drawn n.id rfl)
  case copy.copy layer n target q' layer' n' target' w' =>
    obtain rfl := List.mem_singleton.1 hq
    obtain rfl := List.mem_singleton.1 hw
    obtain ⟨hkind, hnodes, hspelled⟩ := copy_spelled he
    obtain ⟨hkind', hnodes', hspelled'⟩ := copy_spelled he'
    refine ⟨⟨hkind, hkind'⟩, _, _, _, _, hnodes, hnodes', fun heq => ?_, (hspelled.unique hspelled' hid).2⟩
    obtain ⟨hlayer, hn⟩ := Prod.mk.inj heq
    -- The composition has one route, so equal nodes are copied to one target.
    obtain ⟨-, -, -, _, r, -, hr, -, -, htarget, -⟩ := he
    obtain ⟨-, -, -, _, r', -, hr', -, -, htarget', -⟩ := he'
    rw [hn, hr'] at hr
    cases hr
    refine h.copied (layer.id, target) rfl ?_
    simp [Event.copied?, hlayer, ← htarget, ← htarget']
  case clear.clear n q' n' w' =>
    obtain rfl := List.mem_singleton.1 hq
    obtain rfl := List.mem_singleton.1 hw
    have hsame : n.id = n'.id := ((clear_spelled he).2.unique (clear_spelled he').2 hid).2
    exact absurd (congrArg some hsame.symm) (h.cleared n.id rfl)
  all_goals
    exfalso
    rcases hqkind with rfl | rfl | rfl | rfl <;> simp at hwkind

/-! ## All passes -/

theorem event_nodup {e : Event} (he : e.Formed c plan) : (e.passes.map Pass.id).Nodup := by
  cases e with
  | enter n => exact List.nodup_nil
  | draw n qs => exact (draw_names he).1
  | copy layer n target q => exact List.nodup_singleton _
  | clear n q => exact List.nodup_singleton _

variable {st₀ st₁ : PlanState} {ps : List Pass}

/-- Two passes of a plan that have one id are confused copies. -/
theorem BuiltFrom.confused (hc : c.Valid) (h : c.BuiltFrom plan st₀ st₁ ps) :
    plan.passes.Pairwise fun q w => q.id = w.id → q.Confused w := by
  obtain ⟨es, hemits, hclears⟩ := nodes_clear hc h.ready h.nodes
  have hformed : ∀ e ∈ es, e.Formed c plan := fun e he => (hemits.formed e he).mono h.grows
  have hpasses : plan.passes = es.flatMap Event.passes ++ ps := by
    rw [h.passes, hemits.passes, h.fresh.passes, List.nil_append]
  have hdrawn : (es.filterMap Event.mark?).Nodup := by
    have honce := hemits.drawnOnce (by rw [h.fresh.drawn]; exact List.nodup_nil)
    rwa [hemits.drawn, h.fresh.drawn, List.append_nil, List.nodup_reverse] at honce
  have hcopied : (es.filterMap Event.copied?).Nodup := by
    have honce := hemits.copiedOnce (by rw [h.fresh.copied]; exact List.nodup_nil)
    rwa [hemits.copied, h.fresh.copied, List.append_nil, List.nodup_reverse] at honce
  have hapart : es.Pairwise Apart :=
    ((pairwise_of_nodup hdrawn).and ((pairwise_of_nodup hcopied).and (pairwise_of_nodup hclears.once))).imp
      fun hall => ⟨hall.1, hall.2.1, hall.2.2⟩
  rw [hpasses]
  refine List.pairwise_append.2 ⟨List.pairwise_flatMap.2 ⟨fun e he => ?_, ?_⟩, ?_, fun q hq w hw hid => ?_⟩
  · have hnodup := event_nodup (hformed e he)
    rw [List.Nodup, List.pairwise_map] at hnodup
    exact hnodup.imp fun hne hid => absurd hid hne
  · exact hapart.imp_of_mem fun he he' hapart q hq w hw hid =>
      hapart.confused (hformed _ he) (hformed _ he') hq hw hid
  · have honce := h.once
    rcases ps with _ | ⟨q, _ | ⟨w, rest⟩⟩
    · exact List.Pairwise.nil
    · exact List.pairwise_singleton _ q
    · simp at honce
  · obtain ⟨e, he, hq⟩ := List.mem_flatMap.1 hq
    obtain ⟨hkind, _, hspelled⟩ := event_spelled (hformed e he) hq
    obtain ⟨hshown, hspelled'⟩ := present_spelled (h.shown w hw)
    rw [(hspelled.unique hspelled' hid).1, hshown] at hkind
    cases e <;> simp [kindsOf] at hkind

/-- Every pass of a plan belongs to an event, or it is the one for the display. -/
theorem BuiltFrom.pass_cases (hc : c.Valid) (h : c.BuiltFrom plan st₀ st₁ ps) {q : Pass} (hq : q ∈ plan.passes) :
    (∃ e : Event, e.Formed c plan ∧ q ∈ e.passes) ∨ q.sketch = c.presentSketch := by
  obtain ⟨es, hemits⟩ := nodes_emits hc h.ready h.nodes
  rw [h.passes, hemits.passes, h.fresh.passes, List.nil_append, List.mem_append] at hq
  rcases hq with hq | hq
  · obtain ⟨e, he, hq⟩ := List.mem_flatMap.1 hq
    exact .inl ⟨e, (hemits.formed e he).mono h.grows, hq⟩
  · exact .inr (h.shown q hq)

/-- A copy belongs to two nodes of the scene. -/
theorem BuiltFrom.copy_nodes (hc : c.Valid) (h : c.BuiltFrom plan st₀ st₁ ps) {q : Pass} (hq : q ∈ plan.passes)
    (hkind : q.kind = .compose) : ∀ id ∈ q.nodes, ∃ n, c.prepared.node? id = some n := by
  rcases h.pass_cases hc hq with ⟨e, hformed, hq⟩ | hshown
  · obtain ⟨hkinds, -⟩ := event_spelled hformed hq
    rw [hkind] at hkinds
    cases e with
    | copy layer n target w =>
      obtain rfl := List.mem_singleton.1 hq
      obtain ⟨-, hnodes, -⟩ := copy_spelled hformed
      obtain ⟨hlayer, hn, -⟩ := hformed
      rw [hnodes]
      simpa using ⟨⟨layer, hlayer⟩, n, hn⟩
    | _ => simp [kindsOf] at hkinds
  · rw [(present_spelled hshown).1] at hkind
    cases hkind

end PlanContext

/-- Two passes of a compiled scene have one id only as copies of different layers whose ids have arrows. So where no
node has an arrow in its id, the passes have different ids, and tables by these have one entry for each pass that
draws. -/
theorem Compiler.pass_ids {c : Compiler} (hc : c.registry = Registry.builtin) {s : Scene} {r : Compiled}
    (h : (c.compile s).outcome.1 = .ok r) :
    (r.plan.passes.Pairwise fun q w => q.id = w.id → q.Confused w) ∧
    ((∀ n ∈ r.prepared.scene.nodes, ¬"->".toList <:+: n.id.toList) →
      (r.plan.passes.map Pass.id).Nodup ∧ r.space.KeyedByPass) := by
  obtain ⟨routes, hfrom⟩ := Compiler.compile_eq_ok h
  have hplanned := hfrom.planned hc
  obtain ⟨st₀, st₁, ps, hbuilt⟩ := PlanContext.build_stages hplanned.valid hplanned.build
  have hconfused := hbuilt.confused hplanned.valid
  refine ⟨hconfused, fun hplain => ?_⟩
  have hspace : r.space.passes.map PassSpec.id = r.plan.passes.map Pass.id := by
    rw [hfrom.space]
    simp [Space.assemble, Space.passSpec, Function.comp_def]
  suffices hnodup : (r.plan.passes.map Pass.id).Nodup from ⟨hnodup, .of_nodup (hspace ▸ hnodup)⟩
  rw [List.Nodup, List.pairwise_map]
  refine hconfused.imp_of_mem fun hq hw hpair hid => ?_
  obtain ⟨⟨hqkind, hwkind⟩, layer, n, layer', n', hqnodes, hwnodes, hne, hspelled⟩ := hpair hid
  have hnode : ∀ {q}, q ∈ r.plan.passes → q.kind = .compose → ∀ id ∈ q.nodes, ¬['-', '>'] <:+: id.toList := by
    intro q hq hkind id hid
    obtain ⟨m, hm⟩ := hbuilt.copy_nodes hplanned.valid hq hkind id hid
    obtain ⟨rfl, hmem⟩ := Prepared.node?_eq_some hm
    exact hplain m hmem
  have hlayer := hnode hq hqkind layer (by simp [hqnodes])
  have hlayer' := hnode hw hwkind layer' (by simp [hwnodes])
  have hchars : layer.toList ++ '-' :: '>' :: n.toList = layer'.toList ++ '-' :: '>' :: n'.toList := by
    simpa using congrArg String.toList hspelled
  obtain ⟨hfront, hback⟩ := Text.eq_of_arrow hlayer hlayer' hchars
  exact hne (Prod.ext (String.toList_inj.1 hfront) (String.toList_inj.1 hback))

/-- Two passes that are drawn on paper, and copied from there: one into a composition, one into another inside. -/
def Scene.pasted (outer inner near far : String) : Scene where
  nodes := [{ id := "screen", type := "Screen" }, { id := outer, type := "Composite" },
    { id := inner, type := "Composite" }, { id := "paper", type := "RenderTexture" },
    { id := near, type := "RenderPass" }, { id := far, type := "RenderPass" }]
  connections := [{ id := "c0", source := ⟨near, "pass"⟩, target := ⟨"paper", "pass"⟩ },
    { id := "c1", source := ⟨far, "pass"⟩, target := ⟨"paper", "pass"⟩ },
    { id := "c2", source := ⟨near, "pass"⟩, target := ⟨outer, "pass"⟩ },
    { id := "c3", source := ⟨inner, "pass"⟩, target := ⟨outer, "dynamic_0"⟩ },
    { id := "c4", source := ⟨far, "pass"⟩, target := ⟨inner, "pass"⟩ },
    { id := "c5", source := ⟨outer, "pass"⟩, target := ⟨"screen", "pass"⟩ }]
  outputs := [("main", "screen")]

/-- The scene in plain words. -/
def Scene.plain : Scene := .pasted "outer" "inner" "near" "far"

theorem Scene.plain_checks : (({} : Compiler).compile Scene.plain).outcome.1.toOption.any (fun r =>
    decide ((r.plan.passes.map Pass.nodes) = [["near"], ["far"], ["near", "outer"], ["far", "inner"]] ∧
      ∀ n ∈ r.prepared.scene.nodes, ¬"->".toList <:+: n.id.toList)) = true := by
  rw [Schema.builtin_eq, Registry.builtin_eq]
  decide +kernel

theorem Scene.plain_ids : ∃ r, (({} : Compiler).compile Scene.plain).outcome.1 = .ok r ∧ r.plan.passes.length = 4 ∧
    (r.plan.passes.map Pass.id).Nodup ∧ r.space.KeyedByPass := by
  obtain ⟨r, hr, hchecks⟩ := (Option.any_eq_true _ _).1 Scene.plain_checks
  obtain ⟨hnodes, hplain⟩ := of_decide_eq_true hchecks
  have hr := eq_ok_of_toOption hr
  exact ⟨r, hr, by simpa using congrArg List.length hnodes, (Compiler.pass_ids (c := {}) rfl hr).2 hplain⟩

/-- The scene with arrows in its ids, where both copies are spelled alike. -/
def Scene.arrows : Scene := .pasted "c" "b->c" "a->b" "a"

theorem Scene.arrows_checks : (({} : Compiler).compile Scene.arrows).outcome.1.toOption.any (fun r =>
    decide (r.plan.passes.map Pass.id = ["draw:a->b", "draw:a", "compose:a->b->c", "compose:a->b->c"])) = true := by
  rw [Schema.builtin_eq, Registry.builtin_eq]
  decide +kernel

theorem Scene.arrows_clash : ∃ r, (({} : Compiler).compile Scene.arrows).outcome.1 = .ok r ∧
    ¬(r.plan.passes.map Pass.id).Nodup := by
  obtain ⟨r, hr, hchecks⟩ := (Option.any_eq_true _ _).1 Scene.arrows_checks
  refine ⟨r, eq_ok_of_toOption hr, ?_⟩
  rw [of_decide_eq_true hchecks]
  decide

end SceneGraph
