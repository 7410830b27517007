import SceneGraph.Live.Engine
import SceneGraph.Proofs.Caches
import SceneGraph.Proofs.Tables

/-!
# Queued scenes

Messages may hold anything: ids that stand twice, connections to nodes that are not there or are about to go.
An engine queues none of it. Its cache holds every id once, and what a message leaves without an end is pruned
before the scene is queued, so little is left for the structural check to find.

* `Scene.Unfinished`: what the structural check can still find.
* `Scene.unfinished_of_checkStructure`: in a scene of distinct ids whose connections join nodes, it finds that.
* `Cache.prune_prune`: pruning leaves nothing to prune.
* `Engine.cache_run`: what the messages leave true of a cache is true of it in every session.
* `Engine.keyed_run`: the cache of an engine holds every id once, whatever happened.
* `Engine.queued_sound`: the scenes that an engine queues.
-/
set_option autoImplicit false

namespace SceneGraph

/-! ## What the structural check can still find -/

namespace Scene

/-- A node without an id, a node without a type or an output that shows no node, as the structural check reports
it. -/
inductive Unfinished (s : Scene) : DocumentError → Prop where
  | emptyId {i : Nat} {n : Node} (hn : s.nodes[i]? = some n) (hid : n.id = "") :
    Unfinished s { field := s!"nodes[{i}].id", fault := .emptyNodeId }
  | untyped {i : Nat} {n : Node} (hn : s.nodes[i]? = some n) (htype : n.type = "") :
    Unfinished s { field := s!"nodes[{i}].type", fault := .untypedNode n.id }
  | output {name id : String} (ho : (name, id) ∈ s.outputs) (hid : id ∉ s.nodeIds) :
    Unfinished s { field := "outputs." ++ name, fault := .danglingOutput id }

/-- Among distinct ids that were not seen before, only an empty id or a missing type is refused. -/
theorem checkNodes_eq_error {nodes : List Node} {i : Nat} {seen : List String} {err : DocumentError}
    (hdistinct : (nodes.map Node.id).Nodup) (hseen : ∀ n ∈ nodes, n.id ∉ seen)
    (h : checkNodes i seen nodes = .error err) : ∃ k n, nodes[k]? = some n ∧
      (n.id = "" ∧ err = { field := s!"nodes[{i + k}].id", fault := .emptyNodeId } ∨
        n.type = "" ∧ err = { field := s!"nodes[{i + k}].type", fault := .untypedNode n.id }) := by
  induction nodes generalizing i seen with
  | nil => cases h
  | cons n rest ih =>
    rw [List.map_cons, List.nodup_cons] at hdistinct
    rw [List.forall_mem_cons] at hseen
    unfold checkNodes at h
    split at h
    · rename_i hid
      cases h
      exact ⟨0, n, rfl, .inl ⟨hid, rfl⟩⟩
    · split at h
      · rename_i htype
        cases h
        exact ⟨0, n, rfl, .inr ⟨htype, rfl⟩⟩
      · -- The id is new, so the check goes on; distinct ids stay unseen behind it.
        rw [if_neg (by simpa using hseen.1)] at h
        have hrest : ∀ m ∈ rest, m.id ∉ n.id :: seen := by
          intro m hm hmem
          rcases List.mem_cons.1 hmem with heq | hmem
          · exact hdistinct.1 (heq ▸ List.mem_map_of_mem hm)
          · exact hseen.2 m hm hmem
        obtain ⟨k, m, hm, herr⟩ := ih hdistinct.2 hrest h
        exact ⟨k + 1, m, hm, by rwa [Nat.add_right_comm] at herr⟩

theorem checkEndpoints_of_joined {ids : List String} {conns : List Connection} {i : Nat}
    (h : ∀ c ∈ conns, c.source.node ∈ ids ∧ c.target.node ∈ ids) : checkEndpoints ids i conns = .ok () := by
  induction conns generalizing i with
  | nil => rfl
  | cons c rest ih =>
    rw [List.forall_mem_cons] at h
    unfold checkEndpoints
    rw [if_neg (by simpa using h.1.1), if_neg (by simpa using h.1.2)]
    exact ih h.2

theorem checkOutputs_eq_error {ids : List String} {outputs : Table String} {err : DocumentError}
    (h : checkOutputs ids outputs = .error err) : ∃ name id, (name, id) ∈ outputs ∧ id ∉ ids ∧
      err = { field := "outputs." ++ name, fault := .danglingOutput id } := by
  induction outputs with
  | nil => cases h
  | cons o rest ih =>
    unfold checkOutputs at h
    split at h
    · obtain ⟨name, id, hmem, hid⟩ := ih h
      exact ⟨name, id, List.mem_cons_of_mem _ hmem, hid⟩
    · rename_i hid
      cases h
      exact ⟨o.1, o.2, List.mem_cons_self, by simpa using hid, rfl⟩

/-- Where the ids are distinct and the connections join nodes, the structural check reports only what is
unfinished. -/
theorem unfinished_of_checkStructure {s : Scene} {err : DocumentError} (hdistinct : s.nodeIds.Nodup)
    (hjoined : ∀ c ∈ s.connections, c.source.node ∈ s.nodeIds ∧ c.target.node ∈ s.nodeIds)
    (h : s.checkStructure = .error err) : s.Unfinished err := by
  unfold checkStructure at h
  simp only [bind, Except.bind, checkEndpoints_of_joined hjoined] at h
  split at h
  · rename_i e hnodes
    cases h
    obtain ⟨k, n, hn, ⟨hid, rfl⟩ | ⟨htype, rfl⟩⟩ := checkNodes_eq_error hdistinct (by simp) hnodes
    · rw [Nat.zero_add]
      exact .emptyId hn hid
    · rw [Nat.zero_add]
      exact .untyped hn htype
  · obtain ⟨name, id, hmem, hid, rfl⟩ := checkOutputs_eq_error h
    exact .output hmem hid

end Scene

/-! ## Pruning -/

namespace Cache

theorem isAttached_iff (s : Scene) (x : Connection) :
    isAttached s x = true ↔ x.source.node ∈ s.nodeIds ∧ x.target.node ∈ s.nodeIds := by
  simp [isAttached, Scene.hasNode, Scene.nodeIds]

theorem dangling_eq_nil_iff (c : Cache) :
    c.dangling = [] ↔ ∀ x ∈ c.contents.connections, isAttached c.contents x = true := by
  simp [dangling]

/-- A cache in which nothing dangles is not changed by pruning. -/
theorem prune_of_dangling_eq_nil {c : Cache} (h : c.dangling = []) : c.prune = c := by
  have hconns : c.contents.connections.filter (isAttached c.contents) = c.contents.connections :=
    List.filter_eq_self.2 ((dangling_eq_nil_iff c).1 h)
  simp only [prune, hconns, h, List.length_nil, Nat.add_zero]

theorem dangling_prune (c : Cache) : c.prune.dangling = [] :=
  (dangling_eq_nil_iff _).2 fun _ hx => (List.mem_filter.1 hx).2

theorem prune_prune (c : Cache) : c.prune.prune = c.prune := prune_of_dangling_eq_nil c.dangling_prune

end Cache

/-! ## Sessions -/

namespace Engine

variable {ε ρ : Type}

/-- What happens in a session. -/
inductive Event where
  | submit (m : Message)
  | step
  | receive

/-- The engine after an event. A message that is of no use changes nothing. -/
def next (b : Backend ε ρ) (e : Engine ρ) : Event → Engine ρ
  | .submit m => ((e.submit? m).map Prod.fst).getD e
  | .step => (e.step b).2.1
  | .receive => e.receive.2

/-- The engine after events. -/
def run (b : Backend ε ρ) : Engine ρ → List Event → Engine ρ
  | e, [] => e
  | e, x :: rest => run b (e.next b x) rest

/-- A message that is taken in replaces the scene of a cache or changes it by a delta. -/
theorem absorb?_cases {c c' : Cache} {m : Message} {entry : LogEntry} (h : absorb? c m = some (c', entry)) :
    (∃ s, m.type = "scene" ∧ m.scene = some s ∧ c' = c.replace s ∧ entry = c'.replacedEntry) ∨
      ∃ d, m.type = "delta" ∧ m.delta = some d ∧ c' = c.applyDelta d ∧ entry = c'.deltaEntry d := by
  unfold absorb? at h
  split at h
  · rename_i s htype hscene
    cases h
    exact .inl ⟨s, htype, hscene, rfl, rfl⟩
  · rename_i d htype hdelta
    cases h
    exact .inr ⟨d, htype, hdelta, rfl, rfl⟩
  · cases h

theorem submit?_eq_some {e e' : Engine ρ} {m : Message} {log : List LogEntry} (h : e.submit? m = some (e', log)) :
    ∃ c entry, absorb? e.cache m = some (c, entry) ∧
      e' = { e with cache := c.prune, queue := e.queue.offer c.prune.materialize } := by
  obtain ⟨⟨c, entry⟩, habsorbed, heq⟩ := Option.map_eq_some_iff.1 h
  exact ⟨c, entry, habsorbed, (Prod.mk.inj heq).1.symm⟩

theorem keyed_absorb? {c c' : Cache} {m : Message} {entry : LogEntry} (hc : c.Keyed)
    (h : absorb? c m = some (c', entry)) : c'.Keyed := by
  obtain ⟨s, -, -, rfl, -⟩ | ⟨d, -, -, rfl, -⟩ := absorb?_cases h
  · exact Cache.keyed_replace c s
  · exact hc.applyDelta d

@[simp]
theorem cache_step (b : Backend ε ρ) (e : Engine ρ) : (e.step b).2.1.cache = e.cache := by
  unfold step
  split
  · rfl
  · -- Adopting and rejecting settle what is drawn; neither touches the cache.
    simp only [compile]
    split
    · rfl
    · unfold reject
      split <;> rfl

/-- Only a message that is taken in changes the cache, and what it leaves is pruned. -/
theorem cache_next (b : Backend ε ρ) (e : Engine ρ) (x : Event) : (e.next b x).cache = e.cache ∨
    ∃ m c entry, absorb? e.cache m = some (c, entry) ∧ (e.next b x).cache = c.prune := by
  cases x with
  | submit m =>
    simp only [next]
    cases hm : e.submit? m with
    | none => exact .inl rfl
    | some r =>
      obtain ⟨c, entry, habsorbed, heq⟩ := submit?_eq_some hm
      rw [Option.map_some, Option.getD_some, heq]
      exact .inr ⟨m, c, entry, habsorbed, rfl⟩
  | step => exact .inl (cache_step b e)
  | receive => exact .inl rfl

/-- What every message leaves true of a cache, once it is pruned, is true of it after every run. -/
theorem cache_run {P : Cache → Prop} (b : Backend ε ρ)
    (hmessage : ∀ c m c' entry, P c → absorb? c m = some (c', entry) → P c'.prune) {e : Engine ρ} (h : P e.cache)
    (events : List Event) : P (e.run b events).cache := by
  induction events generalizing e with
  | nil => exact h
  | cons x rest ih =>
    refine ih ?_
    obtain heq | ⟨m, c, entry, habsorbed, heq⟩ := cache_next b e x
    · rw [heq]
      exact h
    · rw [heq]
      exact hmessage e.cache m c entry h habsorbed

theorem keyed_run (b : Backend ε ρ) {e : Engine ρ} (h : e.cache.Keyed) (events : List Event) :
    (e.run b events).cache.Keyed :=
  cache_run b (fun _ _ _ _ hc habsorbed => (keyed_absorb? hc habsorbed).prune) h events

theorem dangling_run (b : Backend ε ρ) {e : Engine ρ} (h : e.cache.dangling = []) (events : List Event) :
    (e.run b events).cache.dangling = [] :=
  cache_run (P := fun c => c.dangling = []) b (fun _ _ c _ _ _ => c.dangling_prune) h events

/-- Whatever happened in a session, with steps in between, every message that is taken in queues a scene whose node
ids are distinct, whose connection ids are distinct and whose connections join nodes. Pruning would take away
nothing more, and the structural check refuses the scene only for what is unfinished. -/
theorem queued_sound (b : Backend ε ρ) (events : List Event) {m : Message} {e : Engine ρ} {log : List LogEntry}
    (h : (({} : Engine ρ).run b events).submit? m = some (e, log)) :
    ∃ q, e.queue.pending = some q ∧ q.nodeIds.Nodup ∧ (q.connections.map Connection.id).Nodup ∧
      (∀ x ∈ q.connections, x.source.node ∈ q.nodeIds ∧ x.target.node ∈ q.nodeIds) ∧
      e.cache.dangling = [] ∧ e.cache.prune = e.cache ∧
      ∀ err, q.checkStructure = .error err → q.Unfinished err := by
  obtain ⟨c, entry, habsorbed, rfl⟩ := submit?_eq_some h
  have hkeyed : c.prune.Keyed := (keyed_absorb? (keyed_run b Cache.keyed_empty events) habsorbed).prune
  have hjoined : ∀ x ∈ c.prune.contents.connections,
      x.source.node ∈ c.prune.contents.nodeIds ∧ x.target.node ∈ c.prune.contents.nodeIds := fun x hx =>
    (Cache.isAttached_iff _ x).1 ((Cache.dangling_eq_nil_iff _).1 c.dangling_prune x hx)
  exact ⟨c.prune.contents, rfl, hkeyed.nodes, hkeyed.connections, hjoined, c.dangling_prune, c.prune_prune,
    fun err herr => Scene.unfinished_of_checkStructure hkeyed.nodes hjoined herr⟩

/-- A scene with an id that stands twice, and one connection that leads nowhere. -/
def careless : Message where
  type := "scene"
  scene := some
    { nodes := [{ id := "a", type := "Color" }, { id := "b", type := "Float" }, { id := "a", type := "Float" }]
      connections := [{ id := "ab", source := ⟨"a", "value"⟩, target := ⟨"b", "in"⟩ },
        { id := "ax", source := ⟨"a", "value"⟩, target := ⟨"x", "in"⟩ }] }

/-- Takes a node away under its connection, wires an untyped node twice under one id and shows the lost node. -/
def hasty : Message where
  type := "delta"
  delta := some
    { nodes := { removed := ["a"], added := [{ id := "c" }] }
      connections := { added := [{ id := "cb", source := ⟨"c", "value"⟩, target := ⟨"b", "in"⟩ },
        { id := "cb", source := ⟨"c", "value"⟩, target := ⟨"c", "in"⟩ }] }
      outputs := some [("main", "a")] }

theorem hasty_checks : ((({} : Engine Picture).run ({} : Compiler).backend [.submit careless, .step]).submit? hasty).any
    (fun r => r.1.queue.pending.any fun q => decide (q.nodeIds = ["b", "c"]) &&
      decide (q.connections.map Connection.id = ["cb"]) &&
      q.checkStructure.toOption.isNone) = true := by
  rw [Schema.builtin_eq, Registry.builtin_eq]
  decide +kernel

theorem hasty_sound : ∃ e log q err,
    (({} : Engine Picture).run ({} : Compiler).backend [.submit careless, .step]).submit? hasty = some (e, log) ∧
    e.queue.pending = some q ∧ q.nodeIds = ["b", "c"] ∧ q.connections.map Connection.id = ["cb"] ∧
    (∀ x ∈ q.connections, x.source.node ∈ q.nodeIds ∧ x.target.node ∈ q.nodeIds) ∧
    e.cache.prune = e.cache ∧ q.checkStructure = .error err ∧ q.Unfinished err := by
  obtain ⟨⟨e, log⟩, hsubmit, hchecks⟩ := Option.any_eq_true _ _ |>.1 hasty_checks
  obtain ⟨q, hq, hchecks⟩ := Option.any_eq_true _ _ |>.1 hchecks
  simp only [Bool.and_eq_true, decide_eq_true_eq] at hchecks
  obtain ⟨⟨hnodes, hconns⟩, hrefused⟩ := hchecks
  obtain ⟨q', hq', -, -, hjoined, -, hprune, hunfinished⟩ := queued_sound _ _ hsubmit
  obtain rfl : q = q' := Option.some.inj (hq.symm.trans hq')
  cases hcheck : q.checkStructure with
  | ok => simp [hcheck, Except.toOption] at hrefused
  | error err => exact ⟨e, log, q, err, hsubmit, hq, hnodes, hconns, hjoined, hprune, hcheck, hunfinished err hcheck⟩

end Engine

end SceneGraph
