import Mathlib.Data.List.Nodup
import Mathlib.Logic.Function.Iterate
import Mathlib.Logic.Relation
import SceneGraph.Graph.Reach

/-!
# Reachable ids

A search takes ids from a queue that grows meanwhile and may hold an id many times, on a cycle too. It comes to an
end because an edge is followed once only: what is queued and the edges that are not followed yet become one fewer
with each step. What has been seen by then is what chains of edges lead to. Nothing is missing because every step
keeps that what is one edge away from the start, or from an id that is seen, is seen or queued.

* `Graph.Search.iterate_step`: the number of steps that a search takes.
* `Graph.Search.Tracks`: what every step of a search keeps.
* `Graph.mem_reachable`: what is reachable is what a chain of at least one edge leads to.
* `Graph.reachable_exact`: ancestors and descendants by the connections of a scene.
-/
set_option autoImplicit false

namespace SceneGraph.Graph

variable {edges : List (String × String)} {start y : String}

theorem mem_successors {a b : String} : b ∈ successors edges a ↔ (a, b) ∈ edges := by
  simp only [successors, List.mem_map, List.mem_filter, beq_iff_eq]
  constructor
  · rintro ⟨⟨_, _⟩, ⟨hedge, rfl⟩, rfl⟩
    exact hedge
  · intro hedge
    exact ⟨(a, b), ⟨hedge, rfl⟩, rfl⟩

namespace Search

variable {x : Search}

/-! ## The end of a search -/

theorem step_of_nil (h : x.queue = []) : x.step edges = x := by
  obtain ⟨seen, queue⟩ := x
  obtain rfl : queue = [] := h
  rfl

theorem run_of_nil (h : x.queue = []) : x.run edges = x := by
  rw [run, dif_pos h]

theorem run_step (h : x.queue ≠ []) : (x.step edges).run edges = x.run edges := by
  rw [run.eq_def edges x, dif_neg h]

theorem queue_run : (x.run edges).queue = [] := by
  fun_induction run edges x with
  | case1 x hqueue => exact hqueue
  | case2 x hqueue ih => exact ih

theorem iterate_step {n : Nat} (h : x.work edges ≤ n) : (step edges)^[n] x = x.run edges := by
  induction n generalizing x with
  | zero =>
    have hqueue : x.queue = [] := by
      unfold work at h
      exact List.length_eq_zero_iff.1 (by omega)
    rw [run_of_nil hqueue]
    rfl
  | succ n ih =>
    by_cases hqueue : x.queue = []
    · rw [run_of_nil hqueue]
      exact Function.iterate_fixed (step_of_nil hqueue) (n + 1)
    · have hwork := work_step edges hqueue
      rw [Function.iterate_succ_apply, ← run_step hqueue]
      exact ih (by omega)

theorem work_start : (Search.start edges start).work edges ≤ 2 * edges.length := by
  have hqueue : (successors edges start).length ≤ edges.length := by
    rw [successors, List.length_map]
    exact List.length_filter_le _ _
  have hedges : (unfollowed edges []).length ≤ edges.length := List.length_filter_le _ _
  have hwork : (Search.start edges start).work edges = (successors edges start).length + (unfollowed edges []).length :=
    rfl
  omega

theorem iterate_start : (step edges)^[2 * edges.length] (.start edges start) = ⟨reachable edges start, []⟩ :=
  calc (step edges)^[2 * edges.length] (.start edges start)
    _ = (Search.start edges start).run edges := iterate_step work_start
    _ = ⟨reachable edges start, []⟩ := congrArg (mk _) queue_run

/-! ## What is found -/

/-- An id is seen or will be looked at. -/
def Found (x : Search) (id : String) : Prop := id ∈ x.seen ∨ id ∈ x.queue

theorem found_of_seen {seen queue : List String} {id : String} (h : id ∈ seen) :
    Found ⟨seen, queue⟩ y ↔ Found ⟨seen, id :: queue⟩ y := by
  simp only [Found, List.mem_cons]
  constructor
  · rintro (hy | hy)
    · exact .inl hy
    · exact .inr (.inr hy)
  · rintro (hy | rfl | hy)
    · exact .inl hy
    · exact .inl h
    · exact .inr hy

theorem found_of_new {seen queue : List String} {id : String} :
    Found ⟨seen ++ [id], queue ++ successors edges id⟩ y ↔ Found ⟨seen, id :: queue⟩ y ∨ (id, y) ∈ edges := by
  simp only [Found, List.mem_append, List.mem_cons, List.not_mem_nil, or_false, mem_successors]
  tauto

/-- A search from an id: what is found has a chain of edges that leads to it, and what is one edge behind the start
or behind what is seen is found. -/
structure Tracks (edges : List (String × String)) (start : String) (x : Search) : Prop where
  distinct : x.seen.Nodup
  led : ∀ y, x.Found y → Relation.TransGen (fun a b => (a, b) ∈ edges) start y
  first : ∀ y, (start, y) ∈ edges → x.Found y
  next : ∀ a ∈ x.seen, ∀ y, (a, y) ∈ edges → x.Found y

theorem tracks_start : Tracks edges start (.start edges start) where
  distinct := List.nodup_nil
  led := by
    rintro y (hy | hy)
    · exact absurd hy List.not_mem_nil
    · exact .single (mem_successors.1 hy)
  first := fun y hedge => .inr (mem_successors.2 hedge)
  next := fun a ha => absurd ha List.not_mem_nil

theorem Tracks.step (h : Tracks edges start x) : Tracks edges start (x.step edges) := by
  obtain ⟨seen, queue⟩ := x
  cases queue with
  | nil => exact h
  | cons id queue =>
    by_cases hid : id ∈ seen
    · rw [step_of_seen hid]
      exact {
        distinct := h.distinct
        led := fun y hy => h.led y ((found_of_seen hid).1 hy)
        first := fun y hedge => (found_of_seen hid).2 (h.first y hedge)
        next := fun a ha y hedge => (found_of_seen hid).2 (h.next a ha y hedge) }
    · rw [step_of_new hid]
      refine ⟨?_, fun y hy => ?_, fun y hedge => found_of_new.2 (.inl (h.first y hedge)), fun a ha y hedge => ?_⟩
      · rw [← List.concat_eq_append]
        exact h.distinct.concat hid
      · rcases found_of_new.1 hy with hy | hedge
        · exact h.led y hy
        · exact (h.led id (.inr List.mem_cons_self)).tail hedge
      · rcases List.mem_append.1 ha with ha | ha
        · exact found_of_new.2 (.inl (h.next a ha y hedge))
        · obtain rfl := List.mem_singleton.1 ha
          exact found_of_new.2 (.inr hedge)

theorem Tracks.run (h : Tracks edges start x) : Tracks edges start (x.run edges) := by
  fun_induction Search.run edges x with
  | case1 x hqueue => exact h
  | case2 x hqueue ih => exact ih h.step

end Search

/-! ## Chains -/

theorem nodup_reachable : (reachable edges start).Nodup := Search.tracks_start.run.distinct

theorem mem_reachable : y ∈ reachable edges start ↔ Relation.TransGen (fun a b => (a, b) ∈ edges) start y := by
  have htracks : Search.Tracks edges start ((Search.start edges start).run edges) := Search.tracks_start.run
  have hfound : ∀ id, ((Search.start edges start).run edges).Found id → id ∈ reachable edges start := by
    intro id hid
    refine hid.resolve_right fun hqueued => ?_
    rw [Search.queue_run] at hqueued
    exact absurd hqueued List.not_mem_nil
  constructor
  · intro hy
    exact htracks.led y (.inl hy)
  · intro hchain
    induction hchain with
    | single hedge => exact hfound _ (htracks.first _ hedge)
    | tail _ hedge ih => exact hfound _ (htracks.next _ ih _ hedge)

/-- A cycle whose edge out of the start is there twice, with an id behind it. -/
example : reachable [("a", "b"), ("b", "a"), ("a", "b"), ("b", "c")] "a" = ["b", "a", "c"] := by decide +kernel

/-! ## Connections -/

/-- A connection leads from one id to another. -/
def Wired (s : Scene) (a b : String) : Prop := ∃ c ∈ s.connections, c.source.node = a ∧ c.target.node = b

variable {s : Scene}

theorem mem_ancestors : y ∈ ancestors s start ↔ Relation.TransGen (Wired s) y start := by
  rw [ancestors, mem_reachable, ← Relation.transGen_swap]
  refine iff_of_eq (congrArg (fun r => Relation.TransGen r y start) ?_)
  funext a b
  simp [Function.swap, backward, Wired, and_comm]

theorem mem_descendants : y ∈ descendants s start ↔ Relation.TransGen (Wired s) start y := by
  rw [descendants, mem_reachable]
  refine iff_of_eq (congrArg (fun r => Relation.TransGen r start y) ?_)
  funext a b
  simp [forward, Wired]

/-- In every scene, with whatever cycles and ends of connections that are no nodes, the searches from an id against
the connections and along them have nothing more to look at after at most twice as many steps as there are
connections. What they have seen then, each id once, are the ids from which a chain of at least one connection leads
to that id, and the ids to which one leads from it. -/
theorem reachable_exact (s : Scene) (x : String) :
    (Search.step (backward s))^[2 * s.connections.length] (.start (backward s) x) = ⟨ancestors s x, []⟩ ∧
      (Search.step (forward s))^[2 * s.connections.length] (.start (forward s) x) = ⟨descendants s x, []⟩ ∧
      (ancestors s x).Nodup ∧ (descendants s x).Nodup ∧
      ∀ y, (y ∈ ancestors s x ↔ Relation.TransGen (Wired s) y x) ∧
        (y ∈ descendants s x ↔ Relation.TransGen (Wired s) x y) ∧ (y ∈ ancestors s x ↔ x ∈ descendants s y) := by
  have hbackward : (backward s).length = s.connections.length := List.length_map ..
  have hforward : (forward s).length = s.connections.length := List.length_map ..
  refine ⟨?_, ?_, nodup_reachable, nodup_reachable, fun y => ⟨mem_ancestors, mem_descendants, ?_⟩⟩
  · rw [← hbackward]
    exact Search.iterate_start
  · rw [← hforward]
    exact Search.iterate_start
  · exact mem_ancestors.trans mem_descendants.symm

end SceneGraph.Graph
