import Mathlib.Data.List.Induction
import Mathlib.Data.List.Nodup
import SceneGraph.Live.Cache

/-!
# Runs of caches

The lists of a cache hold every id once. An item that is put into such a list takes the place of the one with
its id, or goes to the end. So items that are put one after another end up with every id where it first
appeared, and with the item that came last.

A cache is asked to take in scenes and deltas, to prune and to show its scene, in any order. Whatever it is
asked, its lists hold every id once. From this follow what a delta does to the scene that is shown, and that
the scene is all there is to know about a cache.

* `Live.once`: every id once, in its first place and with its last item.
* `Live.putAll_eq_once`: what putting items makes of a list.
* `Live.once_eq_self_iff`: nothing is lost exactly where the ids are distinct.
* `Live.settled`: what edits make of a list, part by part.
* `Live.applyEdits_eq_settled`: edits are carried out in that way.
* `Live.mem_applyEdits`: an item of the result was given last for its id, or it is an old one that nothing touched.
* `Cache.Keyed`: every id stands once in the lists of a cache.
* `Cache.keyed_after`: so it is after any calls.
* `Cache.materialize_applyDelta`: the scene after a delta, in terms of the one before.
* `Cache.Alike.answers`: caches that hold the same scene answer alike.
* `Cache.snapshot_restores`: a cache that starts from the scene of another answers like it.
-/
set_option autoImplicit false

namespace SceneGraph.Live

/-! ## First appearances -/

section

variable (ids : List String) (key : String)

theorem eraseDups_concat : (ids ++ [key]).eraseDups = if key ∈ ids then ids.eraseDups else ids.eraseDups ++ [key] := by
  rw [List.eraseDups_append]
  split
  · rename_i hmem
    simp [List.removeAll, hmem]
  · rename_i hmem
    simp [List.removeAll, hmem, List.eraseDups_cons]

theorem nodup_eraseDups : ids.eraseDups.Nodup := by
  induction ids using List.reverseRecOn with
  | nil => simp
  | append_singleton ids key ih =>
    rw [eraseDups_concat]
    split
    · exact ih
    · rename_i hmem
      exact ih.append (List.nodup_singleton key) (by simpa using hmem)

theorem eraseDups_eq_self_iff : ids.eraseDups = ids ↔ ids.Nodup := by
  constructor
  · intro h
    rw [← h]
    exact nodup_eraseDups ids
  · intro h
    induction ids using List.reverseRecOn with
    | nil => rfl
    | append_singleton ids key ih =>
      obtain ⟨hids, -, hapart⟩ := List.nodup_append.1 h
      have hmem : key ∉ ids := fun hmem => hapart key hmem key (List.mem_singleton_self key) rfl
      rw [eraseDups_concat, if_neg hmem, ih hids]

end

variable {α : Type} (id : α → String)

/-! ## Last items -/

/-- The last of the items with an id. -/
def latest? (items : List α) (key : String) : Option α := items.reverse.find? fun x => id x == key

theorem latest?_append (as bs : List α) (key : String) :
    latest? id (as ++ bs) key = (latest? id bs key).or (latest? id as key) := by
  simp [latest?]

theorem latest?_concat (items : List α) (x : α) (key : String) :
    latest? id (items ++ [x]) key = if id x = key then some x else latest? id items key := by
  rw [latest?_append]
  by_cases h : id x = key <;> simp [latest?, h]

variable {id}

theorem id_latest? {items : List α} {key : String} {x : α} (h : latest? id items key = some x) : id x = key := by
  simpa using List.find?_some h

theorem mem_of_latest? {items : List α} {key : String} {x : α} (h : latest? id items key = some x) : x ∈ items :=
  List.mem_reverse.1 (List.mem_of_find?_eq_some h)

theorem latest?_eq_none_iff {items : List α} {key : String} : latest? id items key = none ↔ key ∉ items.map id := by
  simp [latest?]

theorem exists_latest? {items : List α} {key : String} (h : key ∈ items.map id) : ∃ x, latest? id items key = some x :=
  Option.ne_none_iff_exists'.1 fun hnone => latest?_eq_none_iff.1 hnone h

theorem latest?_self {items : List α} (h : (items.map id).Nodup) {x : α} (hx : x ∈ items) :
    latest? id items (id x) = some x := by
  obtain ⟨y, hy⟩ := exists_latest? (List.mem_map_of_mem hx)
  rw [hy, List.inj_on_of_nodup_map h (mem_of_latest? hy) hx (id_latest? hy)]

/-! ## Putting items -/

theorem put_of_mem {x : α} {list : List α} (hdistinct : (list.map id).Nodup) (hx : id x ∈ list.map id) :
    put id x list = list.map fun y => if id y = id x then x else y := by
  induction list with
  | nil => simp at hx
  | cons y rest ih =>
    rw [List.map_cons, List.nodup_cons] at hdistinct
    rw [put, List.map_cons]
    split
    · rename_i heq
      -- The item stood here, so it stands nowhere in the rest.
      have hrest : rest.map (fun z => if id z = id x then x else z) = rest := by
        refine (List.map_congr_left fun z hz => if_neg ?_).trans (List.map_id' rest)
        exact fun hzx => hdistinct.1 (heq ▸ hzx ▸ List.mem_map_of_mem hz)
      rw [hrest]
    · rename_i hne
      rw [ih hdistinct.2 ((List.mem_cons.1 hx).resolve_left (Ne.symm hne))]

theorem put_of_not_mem {x : α} {list : List α} (hx : id x ∉ list.map id) : put id x list = list ++ [x] := by
  induction list with
  | nil => rfl
  | cons y rest ih =>
    rw [List.map_cons, List.mem_cons, not_or] at hx
    rw [put, if_neg (Ne.symm hx.1), ih hx.2, List.cons_append]

variable (id)

theorem putAll_append (as bs list : List α) : putAll id (as ++ bs) list = putAll id bs (putAll id as list) :=
  List.foldl_append

/-! ## Every id once -/

/-- Every id once, in the place where it first appears and with its last item. -/
def once (items : List α) : List α := (items.map id).eraseDups.filterMap (latest? id items)

@[simp]
theorem map_once (items : List α) : (once id items).map id = (items.map id).eraseDups := by
  rw [once, List.map_filterMap]
  conv_rhs => rw [← List.filterMap_some (l := (items.map id).eraseDups)]
  refine List.filterMap_congr fun key hkey => ?_
  obtain ⟨x, hx⟩ := exists_latest? (List.mem_eraseDups.1 hkey)
  rw [hx, Option.map_some, id_latest? hx]

theorem nodup_once (items : List α) : ((once id items).map id).Nodup := map_once id items ▸ nodup_eraseDups _

variable {id} in
theorem mem_of_mem_once {items : List α} {x : α} (h : x ∈ once id items) : x ∈ items := by
  obtain ⟨key, -, hlatest⟩ := List.mem_filterMap.1 h
  exact mem_of_latest? hlatest

/-- One more item takes the place that its id has, or is put at the end. -/
theorem once_concat (items : List α) (x : α) : once id (items ++ [x]) = put id x (once id items) := by
  have hids : (items ++ [x]).map id = items.map id ++ [id x] := by simp
  have hmem : id x ∈ (once id items).map id ↔ id x ∈ items.map id := by rw [map_once, List.mem_eraseDups]
  rw [once, hids, eraseDups_concat]
  split
  · -- The id has its place, and only the item that stands there is another.
    rename_i hx
    rw [put_of_mem (nodup_once id items) (hmem.2 hx), once, List.map_filterMap]
    refine List.filterMap_congr fun key hkey => ?_
    obtain ⟨y, hy⟩ := exists_latest? (List.mem_eraseDups.1 hkey)
    rw [latest?_concat, hy, Option.map_some, id_latest? hy]
    by_cases h : id x = key
    · rw [if_pos h, if_pos h.symm]
    · rw [if_neg h, if_neg (Ne.symm h)]
  · -- The id is new, so the items before it are those they were.
    rename_i hx
    rw [put_of_not_mem (mt hmem.1 hx), once, List.filterMap_append]
    congr 1
    · refine List.filterMap_congr fun key hkey => ?_
      rw [latest?_concat, if_neg]
      rintro rfl
      exact hx (List.mem_eraseDups.1 hkey)
    · simp [latest?_concat]

theorem putAll_nil (items : List α) : putAll id items [] = once id items := by
  induction items using List.reverseRecOn with
  | nil => rfl
  | append_singleton items x ih =>
    rw [putAll_append, ih, once_concat]
    rfl

theorem once_eq_self_iff (items : List α) : once id items = items ↔ (items.map id).Nodup := by
  constructor
  · intro h
    rw [← h]
    exact nodup_once id items
  · intro h
    rw [once, (eraseDups_eq_self_iff _).2 h, List.filterMap_map]
    conv_rhs => rw [← List.filterMap_some (l := items)]
    exact List.filterMap_congr fun x hx => latest?_self h hx

variable {id}

/-- Items that are put into a list of distinct ids count as if they stood behind it. -/
theorem putAll_eq_once {list : List α} (h : (list.map id).Nodup) (items : List α) :
    putAll id items list = once id (list ++ items) := by
  rw [← putAll_nil, putAll_append, putAll_nil, (once_eq_self_iff id list).2 h]

/-- The items that stand there keep their places and take their last values; new ids follow. -/
theorem once_append {list : List α} (h : (list.map id).Nodup) (items : List α) :
    once id (list ++ items) = list.map (fun x => (latest? id items (id x)).getD x) ++
      ((items.map id).filter fun k => k ∉ list.map id).eraseDups.filterMap (latest? id items) := by
  have hnew : (items.map id).removeAll (list.map id) = (items.map id).filter fun k => k ∉ list.map id :=
    List.filter_congr fun k _ => by rw [decide_not, List.elem_eq_mem]
  rw [once, List.map_append, List.eraseDups_append, List.filterMap_append, (eraseDups_eq_self_iff _).2 h, hnew]
  congr 1
  · rw [List.filterMap_map, ← List.filterMap_eq_map]
    refine List.filterMap_congr fun x hx => ?_
    rw [Function.comp_apply, latest?_append, latest?_self h hx]
    cases hlatest : latest? id items (id x) <;> simp [hlatest]
  · refine List.filterMap_congr fun key hkey => ?_
    obtain ⟨hkey, -⟩ := List.mem_filter.1 (List.mem_eraseDups.1 hkey)
    obtain ⟨x, hx⟩ := exists_latest? hkey
    rw [latest?_append, hx, Option.some_or]

/-! ## Edits -/

variable (id)

/-- What edits make of a list: the items that are not removed, in their order, each with the last value that was
given for its id; behind them the ids that were given and are new or were removed, in the order of their first
appearance, each with its last value. -/
def settled (e : Edits α) (old : List α) : List α :=
  (old.filter fun x => id x ∉ e.removed).map (fun x => (latest? id (e.added ++ e.updated) (id x)).getD x) ++
    (((e.added ++ e.updated).map id).filter fun k => k ∉ old.map id ∨ k ∈ e.removed).eraseDups.filterMap
      (latest? id (e.added ++ e.updated))

variable {id}

theorem nodup_removeAll {list : List α} (h : (list.map id).Nodup) (removed : List String) :
    ((removeAll id removed list).map id).Nodup :=
  h.sublist (List.filter_sublist.map id)

theorem mem_map_removeAll {list : List α} {removed : List String} {key : String} :
    key ∈ (removeAll id removed list).map id ↔ key ∈ list.map id ∧ key ∉ removed := by
  simp only [removeAll, List.mem_map, List.mem_filter]
  constructor
  · rintro ⟨x, ⟨hx, hkept⟩, rfl⟩
    exact ⟨⟨x, hx, rfl⟩, by simpa using hkept⟩
  · rintro ⟨⟨x, hx, rfl⟩, hkept⟩
    exact ⟨x, ⟨hx, by simpa using hkept⟩, rfl⟩

theorem nodup_applyEdits {list : List α} (h : (list.map id).Nodup) (e : Edits α) :
    ((applyEdits id e list).map id).Nodup := by
  rw [applyEdits, putAll_eq_once (nodup_removeAll h e.removed)]
  exact nodup_once id _

theorem applyEdits_eq_settled {list : List α} (h : (list.map id).Nodup) (e : Edits α) :
    applyEdits id e list = settled id e list := by
  have hkept := nodup_removeAll h e.removed
  rw [applyEdits, putAll_eq_once hkept, once_append hkept, settled]
  congr 1
  · simp [removeAll]
  · congr 2
    refine List.filter_congr fun key _ => decide_eq_decide.2 ?_
    rw [mem_map_removeAll]
    tauto

/-! ## Membership -/

variable (id) in
/-- The ids that edits remove or give. -/
def touched (e : Edits α) : List String := e.removed ++ (e.added ++ e.updated).map id

theorem mem_touched_of_latest? {e : Edits α} {key : String} {x : α}
    (h : latest? id (e.added ++ e.updated) key = some x) : key ∈ touched id e :=
  List.mem_append_right _ (id_latest? h ▸ List.mem_map_of_mem (mem_of_latest? h))

theorem mem_once {items : List α} {x : α} : x ∈ once id items ↔ latest? id items (id x) = some x := by
  constructor
  · intro h
    obtain ⟨key, -, hlatest⟩ := List.mem_filterMap.1 h
    rwa [id_latest? hlatest]
  · intro h
    exact List.mem_filterMap.2 ⟨id x, List.mem_eraseDups.2 (List.mem_map_of_mem (mem_of_latest? h)), h⟩

theorem mem_putAll {list : List α} (h : (list.map id).Nodup) {items : List α} {x : α} :
    x ∈ putAll id items list ↔ latest? id items (id x) = some x ∨ id x ∉ items.map id ∧ x ∈ list := by
  rw [putAll_eq_once h, mem_once, latest?_append, ← latest?_eq_none_iff]
  cases hlatest : latest? id items (id x) with
  | some y => simp
  | none =>
    rw [Option.none_or]
    constructor
    · intro hx
      exact .inr ⟨rfl, mem_of_latest? hx⟩
    · rintro (hx | ⟨-, hx⟩)
      · cases hx
      · exact latest?_self h hx

theorem mem_applyEdits {list : List α} (h : (list.map id).Nodup) {e : Edits α} {x : α} :
    x ∈ applyEdits id e list ↔
      latest? id (e.added ++ e.updated) (id x) = some x ∨ id x ∉ touched id e ∧ x ∈ list := by
  rw [applyEdits, mem_putAll (nodup_removeAll h e.removed)]
  simp only [removeAll, List.mem_filter, touched, List.mem_append, not_or, Bool.not_eq_true', List.contains_eq_mem,
    decide_eq_false_iff_not]
  tauto

theorem mem_map_applyEdits {list : List α} (h : (list.map id).Nodup) {e : Edits α} {key : String} :
    key ∈ (applyEdits id e list).map id ↔
      key ∈ (e.added ++ e.updated).map id ∨ key ∉ touched id e ∧ key ∈ list.map id := by
  constructor
  · intro hkey
    obtain ⟨x, hx, rfl⟩ := List.mem_map.1 hkey
    rcases (mem_applyEdits h).1 hx with hlatest | ⟨hfree, hold⟩
    · exact .inl (List.mem_map_of_mem (mem_of_latest? hlatest))
    · exact .inr ⟨hfree, List.mem_map_of_mem hold⟩
  · rintro (hkey | ⟨hfree, hkey⟩)
    · obtain ⟨x, hx⟩ := exists_latest? hkey
      obtain rfl := id_latest? hx
      exact List.mem_map_of_mem ((mem_applyEdits h).2 (.inl hx))
    · obtain ⟨x, hx, rfl⟩ := List.mem_map.1 hkey
      exact List.mem_map_of_mem ((mem_applyEdits h).2 (.inr ⟨hfree, hx⟩))

end SceneGraph.Live

namespace SceneGraph.Cache

/-! ## Calls -/

/-- What a cache can be asked for. -/
inductive Call where
  | replace (s : Scene)
  | delta (d : Delta)
  | prune
  | materialize
  | state

/-- What a cache answers. -/
inductive Answer where
  | done
  | pruned (count : Nat)
  | scene (s : Scene)
  | state (name : String)

/-- The call takes in a scene or a delta. -/
def Call.isMessage : Call → Bool
  | .replace _ | .delta _ => true
  | .prune | .materialize | .state => false

/-- The answer to a call, and the cache after it. -/
def call (c : Cache) : Call → Answer × Cache
  | .replace s => (.done, c.replace s)
  | .delta d => (.done, c.applyDelta d)
  | .prune => (.pruned c.dangling.length, c.prune)
  | .materialize => (.scene c.materialize, c)
  | .state => (.state c.stateName, c)

/-- The cache after calls. -/
def after : Cache → List Call → Cache
  | c, [] => c
  | c, x :: rest => (c.call x).2.after rest

/-- The answers to calls. -/
def answers : Cache → List Call → List Answer
  | _, [] => []
  | c, x :: rest => (c.call x).1 :: (c.call x).2.answers rest

/-! ## Every id once -/

/-- Every id stands once in the lists of a cache. -/
structure Keyed (c : Cache) : Prop where
  nodes : (c.contents.nodes.map Node.id).Nodup
  connections : (c.contents.connections.map Connection.id).Nodup

theorem keyed_empty : ({} : Cache).Keyed := ⟨List.nodup_nil, List.nodup_nil⟩

theorem contentsOf_eq (s : Scene) : contentsOf s =
    { s with nodes := Live.once Node.id s.nodes, connections := Live.once Connection.id s.connections } := by
  rw [contentsOf, Live.putAll_nil, Live.putAll_nil]

theorem keyed_replace (c : Cache) (s : Scene) : (c.replace s).Keyed := by
  have hcontents : (c.replace s).contents = contentsOf s := rfl
  constructor
  · rw [hcontents, contentsOf_eq]
    exact Live.nodup_once _ _
  · rw [hcontents, contentsOf_eq]
    exact Live.nodup_once _ _

namespace Keyed

variable {c : Cache}

theorem applyDelta (h : c.Keyed) (d : Delta) : (c.applyDelta d).Keyed :=
  ⟨Live.nodup_applyEdits h.nodes d.nodes, Live.nodup_applyEdits h.connections d.connections⟩

theorem prune (h : c.Keyed) : c.prune.Keyed :=
  ⟨h.nodes, h.connections.sublist (List.filter_sublist.map _)⟩

theorem call (h : c.Keyed) (x : Call) : (c.call x).2.Keyed := by
  cases x with
  | replace s => exact keyed_replace c s
  | delta d => exact h.applyDelta d
  | prune => exact h.prune
  | materialize => exact h
  | state => exact h

theorem after (h : c.Keyed) (calls : List Call) : (c.after calls).Keyed := by
  induction calls generalizing c with
  | nil => exact h
  | cons x rest ih => exact ih (h.call x)

end Keyed

theorem keyed_after (calls : List Call) : (({} : Cache).after calls).Keyed := keyed_empty.after calls

/-! ## Deltas -/

/-- The scene after a delta, whatever was called before: nodes and connections are settled by their edits, the
outputs and the version are replaced where the delta holds some, and everything else stays. -/
theorem materialize_applyDelta (calls : List Call) (d : Delta) :
    let old := (({} : Cache).after calls).materialize
    let new := ((({} : Cache).after calls).applyDelta d).materialize
    new.nodes = Live.settled Node.id d.nodes old.nodes ∧
      new.connections = Live.settled Connection.id d.connections old.connections ∧
      new.outputs = d.outputs.getD old.outputs ∧
      new.version = (if d.version = "" then old.version else d.version) ∧
      new.metadata = old.metadata ∧ new.groups = old.groups ∧ new.assets = old.assets := by
  have hkeyed := keyed_after calls
  exact ⟨Live.applyEdits_eq_settled hkeyed.nodes d.nodes, Live.applyEdits_eq_settled hkeyed.connections d.connections,
    rfl, rfl, rfl, rfl, rfl⟩

/-- A list of three that loses its first item, gets it back with a new type, and gets another twice. -/
example : ((Live.settled Node.id
      { added := [{ id := "a", type := "Float" }, { id := "d", type := "Bool" }], removed := ["a", "x"],
        updated := [{ id := "d", type := "Int" }, { id := "b", type := "Uint" }] }
      [{ id := "a", type := "Color" }, { id := "b", type := "Color" }, { id := "c", type := "Color" }]).map
        fun n => (n.id, n.type)) = [("b", "Uint"), ("c", "Color"), ("a", "Float"), ("d", "Int")] := by
  decide +kernel

/-! ## Snapshots -/

/-- Two caches that hold the same scene in the same state; what they have counted may differ. -/
structure Alike (c c' : Cache) : Prop where
  isCached : c.isCached = c'.isCached
  contents : c.contents = c'.contents

namespace Alike

variable {c c' : Cache}

theorem dangling (h : Alike c c') : c.dangling = c'.dangling := by
  unfold Cache.dangling
  rw [h.contents]

theorem call (h : Alike c c') (x : Call) : (c.call x).1 = (c'.call x).1 ∧ Alike (c.call x).2 (c'.call x).2 := by
  cases x with
  | replace s => exact ⟨rfl, rfl, rfl⟩
  | delta d => exact ⟨rfl, rfl, congrArg (edited · d) h.contents⟩
  | prune =>
    refine ⟨?_, h.isCached, ?_⟩
    · simp only [Cache.call, h.dangling]
    · simp only [Cache.call, Cache.prune, h.contents]
  | materialize => exact ⟨congrArg Answer.scene h.contents, h⟩
  | state => exact ⟨by simp only [Cache.call, stateName, h.isCached], h⟩

/-- The answers of two such caches stay the same, since they stay alike. -/
theorem answers (h : Alike c c') (calls : List Call) : c.answers calls = c'.answers calls := by
  induction calls generalizing c c' with
  | nil => rfl
  | cons x rest ih =>
    obtain ⟨hanswer, hnext⟩ := h.call x
    simp only [Cache.answers, hanswer, ih hnext]

end Alike

theorem Keyed.contentsOf_contents {c : Cache} (h : c.Keyed) : contentsOf c.contents = c.contents := by
  rw [contentsOf_eq, (Live.once_eq_self_iff _ _).2 h.nodes, (Live.once_eq_self_iff _ _).2 h.connections]

theorem isCached_call {c : Cache} {x : Call} (h : c.isCached ∨ x.isMessage) : (c.call x).2.isCached := by
  cases x with
  | replace s => rfl
  | delta d => rfl
  | prune => exact h.resolve_right Bool.false_ne_true
  | materialize => exact h.resolve_right Bool.false_ne_true
  | state => exact h.resolve_right Bool.false_ne_true

/-- A cache that has taken in a message stays in that state. -/
theorem isCached_after {c : Cache} {calls : List Call} (h : c.isCached ∨ ∃ x ∈ calls, x.isMessage) :
    (c.after calls).isCached := by
  induction calls generalizing c with
  | nil => exact h.resolve_right (by simp)
  | cons x rest ih =>
    apply ih
    rcases h with h | ⟨y, hy, hmessage⟩
    · exact .inl (isCached_call (.inl h))
    · rcases List.mem_cons.1 hy with rfl | hy
      · exact .inl (isCached_call (.inr hmessage))
      · exact .inr ⟨y, hy, hmessage⟩

/-- A new cache that takes in the scene of a cache that has received something answers all further calls as that
one does, further scenes and questions for the state included. -/
theorem snapshot_restores {history : List Call} (h : ∃ x ∈ history, x.isMessage) (more : List Call) :
    (({} : Cache).replace (({} : Cache).after history).materialize).answers more =
      (({} : Cache).after history).answers more := by
  refine Alike.answers ⟨?_, ?_⟩ more
  · exact (isCached_after (.inr h)).symm
  · exact (keyed_after history).contentsOf_contents

/-- Two nodes and a wire, then the first node goes away and comes back behind the second. -/
def swapped : List Call :=
  [.replace
      { nodes := [{ id := "a", type := "Color" }, { id := "b", type := "Color" }, { id := "a", type := "Float" }]
        connections := [{ id := "ab", source := ⟨"a", "out"⟩, target := ⟨"b", "in"⟩ }] },
    .delta { nodes := { removed := ["a"], added := [{ id := "a", type := "Bool" }] } }]

/-- The second node is removed, and what hung on it is pruned. -/
def cleanup : List Call := [.delta { nodes := { removed := ["b"] } }, .prune, .materialize]

theorem swapped_restored : (∃ x ∈ swapped, x.isMessage) ∧
    (({} : Cache).after swapped).contents.nodes.map Node.id = ["b", "a"] ∧
    (({} : Cache).after (swapped ++ cleanup)).stats.pruned = 1 ∧
    (({} : Cache).replace (({} : Cache).after swapped).materialize).answers cleanup =
      (({} : Cache).after swapped).answers cleanup :=
  ⟨⟨_, List.mem_cons_self, rfl⟩, by decide +kernel, by decide +kernel,
    snapshot_restores ⟨_, List.mem_cons_self, rfl⟩ cleanup⟩

end SceneGraph.Cache
