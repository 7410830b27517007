import SceneGraph.Proofs.Queued
import SceneGraph.Proofs.Wakeups

/-!
# Runs of sessions

Messages and steps come in any order, scenes compile or do not, and newer messages supersede older ones. All that
an engine holds can be told from what its events have come to so far: which scenes were queued, and which steps found
one and with what outcome. From that it follows what the last good result is, what is drawn, and when a step finds
work.

* `Engine.Reaction`: what an event has come to.
* `Engine.Tracks`: what an engine holds, told from the reactions so far.
* `Engine.Tracks.next`, `Engine.tracks_run`: so it is after every event of every run.
* `Engine.Settles`: the outcome of a step, told from the compilation of its scene.
* `Engine.run_filter`: messages of no use change nothing.
* `Engine.run_safe`: what a session can rely on.
-/
set_option autoImplicit false

namespace SceneGraph

/-- The message holds what its type says. -/
def Message.isUseful (m : Message) : Bool :=
  m.type == "scene" && m.scene.isSome || m.type == "delta" && m.delta.isSome

namespace Engine

/-- What an event has come to. -/
inductive Reaction (ε ρ : Type) where
  /-- A message was taken in, and the scene was queued. -/
  | queued (s : Scene)
  /-- A message was of no use. -/
  | refused
  /-- A step found a scene. -/
  | worked (out : Outcome ε ρ)
  /-- A step found nothing. -/
  | idle
  | received (signal : Bool)

variable {ε ρ : Type}

namespace Reaction

def isQueued : Reaction ε ρ → Bool
  | .queued _ => true
  | _ => false

def isWorked : Reaction ε ρ → Bool
  | .worked _ => true
  | _ => false

def isRefused : Reaction ε ρ → Bool
  | .refused => true
  | _ => false

/-- The result of a step whose scene compiled. -/
def adopted? : Reaction ε ρ → Option ρ
  | .worked out => if out.failure.isNone then some out.active else none
  | _ => none

/-- The result that a step shows. -/
def shown? : Reaction ε ρ → Option ρ
  | .worked out => some out.active
  | _ => none

/-- The scene that waits, given the one that waited before. -/
def wait (waiting : Option Scene) : Reaction ε ρ → Option Scene
  | .queued s => some s
  | .worked _ => none
  | _ => waiting

/-- The result whose pipelines an executor holds that makes them anew exactly when it is told to. -/
def build (held : Option ρ) : Reaction ε ρ → Option ρ
  | .worked out => if out.rebuild then some out.active else held
  | _ => held

end Reaction

/-- What an event comes to. -/
def reaction (b : Backend ε ρ) (e : Engine ρ) : Event → Reaction ε ρ
  | .submit m =>
    match e.submit? m with
    | some (e', _) => .queued e'.cache.materialize
    | none => .refused
  | .step =>
    match (e.step b).1 with
    | some out => .worked out
    | none => .idle
  | .receive => .received e.receive.1

/-- What events come to, one after another. -/
def reactions (b : Backend ε ρ) : Engine ρ → List Event → List (Reaction ε ρ)
  | _, [] => []
  | e, x :: rest => e.reaction b x :: reactions b (e.next b x) rest

section

variable (past : List (Reaction ε ρ))

/-- The result of the latest step whose scene compiled. -/
def lastGood : Option ρ := (past.filterMap Reaction.adopted?).getLast?

/-- The result that the latest step has shown. -/
def lastShown : Option ρ := (past.filterMap Reaction.shown?).getLast?

/-- The scene that was queued last and that no step has found since. -/
def waiting : Option Scene := past.foldl Reaction.wait none

/-- The result whose pipelines an executor holds. -/
def held : Option ρ := past.foldl Reaction.build none

end

theorem lastGood_concat (past : List (Reaction ε ρ)) (r : Reaction ε ρ) :
    lastGood (past ++ [r]) = r.adopted?.or (lastGood past) := by
  unfold lastGood
  rw [List.filterMap_append, List.filterMap_cons, List.filterMap_nil]
  cases r.adopted? with
  | none => rw [List.append_nil, Option.none_or]
  | some good => rw [List.getLast?_concat, Option.some_or]

theorem lastShown_concat (past : List (Reaction ε ρ)) (r : Reaction ε ρ) :
    lastShown (past ++ [r]) = r.shown?.or (lastShown past) := by
  unfold lastShown
  rw [List.filterMap_append, List.filterMap_cons, List.filterMap_nil]
  cases r.shown? with
  | none => rw [List.append_nil, Option.none_or]
  | some active => rw [List.getLast?_concat, Option.some_or]

theorem waiting_concat (past : List (Reaction ε ρ)) (r : Reaction ε ρ) :
    waiting (past ++ [r]) = r.wait (waiting past) := by
  unfold waiting
  rw [List.foldl_append, List.foldl_cons, List.foldl_nil]

theorem held_concat (past : List (Reaction ε ρ)) (r : Reaction ε ρ) : held (past ++ [r]) = r.build (held past) := by
  unfold held
  rw [List.foldl_append, List.foldl_cons, List.foldl_nil]

/-! ## The scene that waits -/

/-- The scene that waits was queued last, and no step has found one since. -/
theorem exists_queued_of_waiting {past : List (Reaction ε ρ)} {s : Scene} (h : waiting past = some s) :
    ∃ before after, past = before ++ .queued s :: after ∧
      ∀ r ∈ after, r.isQueued = false ∧ r.isWorked = false := by
  induction past using List.reverseRecOn with
  | nil => cases h
  | append_singleton past r ih =>
    have hkept : waiting past = some s → r.isQueued = false ∧ r.isWorked = false →
        ∃ before after, past ++ [r] = before ++ .queued s :: after ∧
          ∀ r ∈ after, r.isQueued = false ∧ r.isWorked = false := by
      intro hpast hr
      obtain ⟨before, after, rfl, hafter⟩ := ih hpast
      refine ⟨before, after ++ [r], by simp, ?_⟩
      intro r' hr'
      rcases List.mem_append.1 hr' with hr' | hr'
      · exact hafter r' hr'
      · exact List.mem_singleton.1 hr' ▸ hr
    rw [waiting_concat] at h
    cases r with
    | queued t =>
      obtain rfl : t = s := Option.some.inj h
      exact ⟨past, [], rfl, by simp⟩
    | refused => exact hkept h ⟨rfl, rfl⟩
    | worked out => cases h
    | idle => exact hkept h ⟨rfl, rfl⟩
    | received signal => exact hkept h ⟨rfl, rfl⟩

/-- While no step finds work, a scene that waits is only followed by another one. -/
theorem isSome_foldl_wait {after : List (Reaction ε ρ)} (h : ∀ r ∈ after, r.isWorked = false) {s : Option Scene}
    (hs : s.isSome) : (after.foldl Reaction.wait s).isSome := by
  induction after generalizing s with
  | nil => exact hs
  | cons r rest ih =>
    rw [List.forall_mem_cons] at h
    refine ih h.2 ?_
    cases r with
    | queued t => rfl
    | refused => exact hs
    | worked out => cases h.1
    | idle => exact hs
    | received signal => exact hs

/-- A scene waits exactly where one was queued after the last step that found one. -/
theorem isSome_waiting_iff {past : List (Reaction ε ρ)} : (waiting past).isSome ↔
    ∃ before s after, past = before ++ .queued s :: after ∧ ∀ r ∈ after, r.isWorked = false := by
  constructor
  · intro h
    obtain ⟨s, hs⟩ := Option.isSome_iff_exists.1 h
    obtain ⟨before, after, hpast, hafter⟩ := exists_queued_of_waiting hs
    exact ⟨before, s, after, hpast, fun r hr => (hafter r hr).2⟩
  · rintro ⟨before, s, after, rfl, hafter⟩
    rw [waiting, List.foldl_append, List.foldl_cons]
    exact isSome_foldl_wait hafter rfl

/-! ## One event -/

/-- What the outcome of a step that finds a scene says, told from the last good result before it. -/
structure Settles (b : Backend ε ρ) (good : Option ρ) (s : Scene) (out : Outcome ε ρ) : Prop where
  fresh : ∀ r, (b.compile s).1 = .ok r → out.active = r ∧ out.source = .fresh ∧ out.failure = none
  kept : ∀ x r, (b.compile s).1 = .error x → good = some r →
    out.active = r ∧ out.source = .lastGood ∧ out.failure = some x
  failed : ∀ x, (b.compile s).1 = .error x → good = none →
    out.active = (b.errorResult x).1 ∧ out.source = .errorPipeline ∧ out.failure = some x

namespace Settles

variable {b : Backend ε ρ} {s : Scene} {x : ε} {r : ρ} {good : Option ρ} {rebuild : Bool}

theorem of_ok (h : (b.compile s).1 = .ok r) : Settles b good s { active := r, source := .fresh, rebuild } where
  fresh r' hr' := by
    cases h.symm.trans hr'
    exact ⟨rfl, rfl, rfl⟩
  kept x r' hx := by cases h.symm.trans hx
  failed x hx := by cases h.symm.trans hx

theorem of_kept (h : (b.compile s).1 = .error x) :
    Settles b (some r) s { active := r, source := .lastGood, failure := some x, rebuild } where
  fresh r' hr' := by cases h.symm.trans hr'
  kept x' r' hx' hr' := by
    cases h.symm.trans hx'
    cases hr'
    exact ⟨rfl, rfl, rfl⟩
  failed x' _ hnone := by cases hnone

theorem of_failed (h : (b.compile s).1 = .error x) : Settles b none s
    { active := (b.errorResult x).1, source := .errorPipeline, failure := some x, rebuild } where
  fresh r' hr' := by cases h.symm.trans hr'
  kept x' r' _ hr' := by cases hr'
  failed x' hx' _ := by
    cases h.symm.trans hx'
    exact ⟨rfl, rfl, rfl⟩

/-- The source tells whether the scene compiled, and if not, whether another one has before. -/
theorem source_iff {out : Outcome ε ρ} (h : Settles b good s out) :
    (out.source = .fresh ↔ out.failure = none) ∧
      (out.source = .lastGood ↔ out.failure.isSome ∧ good.isSome) ∧
      (out.source = .errorPipeline ↔ out.failure.isSome ∧ good = none) := by
  cases hcompiled : (b.compile s).1 with
  | ok r =>
    obtain ⟨-, hsource, hfailure⟩ := h.fresh r hcompiled
    simp [hsource, hfailure]
  | error x =>
    cases good with
    | some r =>
      obtain ⟨-, hsource, hfailure⟩ := h.kept x r hcompiled rfl
      simp [hsource, hfailure]
    | none =>
      obtain ⟨-, hsource, hfailure⟩ := h.failed x hcompiled rfl
      simp [hsource, hfailure]

end Settles

theorem step_idle (b : Backend ε ρ) {e : Engine ρ} (h : e.queue.pending = none) : e.step b = (none, e, []) := by
  simp only [step, Slot.poll, h]

/-- A step that finds a scene takes it out of the queue, keeps its result as the last good one if it compiled, and
shows what the outcome says. -/
theorem step_works (b : Backend ε ρ) {e : Engine ρ} {s : Scene} (h : e.queue.pending = some s) :
    ∃ out, (e.step b).1 = some out ∧ Settles b e.good s out ∧ out.rebuild = e.needsRebuild b out.active ∧
      (e.step b).2.1 = { e with
        queue := { e.queue with pending := none }
        good := (Reaction.worked out).adopted?.or e.good
        active := some out.active } := by
  simp only [step, Slot.poll, h, compile]
  cases hcompiled : (b.compile s).1 with
  | ok r => exact ⟨_, rfl, .of_ok hcompiled, rfl, rfl⟩
  | error x =>
    unfold reject
    cases hgood : e.good with
    | some r => exact ⟨_, rfl, .of_kept hcompiled, rfl, rfl⟩
    | none => exact ⟨_, rfl, .of_failed hcompiled, rfl, rfl⟩

/-- What an event that comes to `r` makes of an engine. -/
structure Follows (b : Backend ε ρ) (e : Engine ρ) (r : Reaction ε ρ) (e' : Engine ρ) : Prop where
  good : e'.good = r.adopted?.or e.good
  active : e'.active = r.shown?.or e.active
  pending : e'.queue.pending = r.wait e.queue.pending
  counted : e'.queue.dropped + e'.queue.pending.toList.length + r.isWorked.toNat =
    e.queue.dropped + e.queue.pending.toList.length + r.isQueued.toNat
  rebuild : ∀ out, r = .worked out → out.rebuild = e.needsRebuild b out.active

theorem follows_next (b : Backend ε ρ) (e : Engine ρ) (x : Event) : Follows b e (e.reaction b x) (e.next b x) := by
  cases x with
  | submit m =>
    simp only [reaction, next]
    cases hm : e.submit? m with
    | none => exact ⟨rfl, rfl, rfl, rfl, fun out hout => by cases hout⟩
    | some sent =>
      obtain ⟨c, entry, -, heq⟩ := submit?_eq_some hm
      simp only [Option.map_some, Option.getD_some, heq]
      refine ⟨rfl, rfl, rfl, ?_, fun out hout => by cases hout⟩
      have hdropped := e.queue.dropped_store c.prune.materialize
      simp only [Slot.offer, Slot.notify, hdropped]
      rfl
  | step =>
    simp only [reaction, next]
    cases hpending : e.queue.pending with
    | none =>
      rw [step_idle b hpending]
      exact ⟨rfl, rfl, rfl, rfl, fun out hout => by cases hout⟩
    | some s =>
      obtain ⟨out, hout, -, hrebuild, hafter⟩ := step_works b hpending
      rw [hout, hafter]
      refine ⟨rfl, rfl, rfl, ?_, fun out' hout' => by cases hout'; exact hrebuild⟩
      rw [hpending]
      rfl
  | receive => exact ⟨rfl, rfl, rfl, rfl, fun out hout => by cases hout⟩

/-! ## Whole runs -/

/-- What an engine holds, told from what its events have come to. -/
structure Tracks (b : Backend ε ρ) (e : Engine ρ) (past : List (Reaction ε ρ)) : Prop where
  good : e.good = lastGood past
  active : e.active = lastShown past
  pending : e.queue.pending = waiting past
  counted : past.countP Reaction.isQueued =
    past.countP Reaction.isWorked + e.queue.dropped + e.queue.pending.toList.length
  held : (held past).map b.signature = e.active.map b.signature

theorem tracks_empty (b : Backend ε ρ) : Tracks b {} [] := ⟨rfl, rfl, rfl, rfl, rfl⟩

namespace Tracks

variable {b : Backend ε ρ} {e e' : Engine ρ} {past : List (Reaction ε ρ)} {r : Reaction ε ρ}

/-- The executor keeps its pipelines only where those of the result that is shown next are the same. -/
theorem held_follows (h : Tracks b e past) (hr : Follows b e r e') :
    (Engine.held (past ++ [r])).map b.signature = e'.active.map b.signature := by
  have hkept : r.shown? = none → r.build (Engine.held past) = Engine.held past →
      (Engine.held (past ++ [r])).map b.signature = e'.active.map b.signature := by
    intro hshown hbuild
    rw [held_concat, hbuild, hr.active, hshown, Option.none_or, h.held]
  cases r with
  | queued s => exact hkept rfl rfl
  | refused => exact hkept rfl rfl
  | idle => exact hkept rfl rfl
  | received signal => exact hkept rfl rfl
  | worked out =>
    have hactive : e'.active = some out.active := hr.active
    have hrebuild := hr.rebuild out rfl
    rw [held_concat, hactive, Reaction.build]
    split
    · rfl
    · rename_i hsame
      rw [h.held]
      rw [hrebuild] at hsame
      unfold needsRebuild at hsame
      cases hprevious : e.active with
      | none => simp [hprevious] at hsame
      | some a => simpa [hprevious] using hsame

theorem follow (h : Tracks b e past) (hr : Follows b e r e') : Tracks b e' (past ++ [r]) where
  good := by rw [hr.good, lastGood_concat, h.good]
  active := by rw [hr.active, lastShown_concat, h.active]
  pending := by rw [hr.pending, waiting_concat, h.pending]
  counted := by
    have hcounted := h.counted
    have hnext := hr.counted
    have hbit : ∀ a : Bool, a.toNat = if a = true then 1 else 0 := by decide
    rw [hbit, hbit] at hnext
    rw [List.countP_append, List.countP_append, List.countP_singleton, List.countP_singleton]
    omega
  held := h.held_follows hr

theorem run (h : Tracks b e past) (events : List Event) :
    Tracks b (e.run b events) (past ++ reactions b e events) := by
  induction events generalizing e past with
  | nil =>
    rw [reactions, List.append_nil]
    exact h
  | cons x rest ih =>
    have hnext := ih (h.follow (follows_next b e x))
    rwa [List.append_assoc] at hnext

end Tracks

theorem tracks_run (b : Backend ε ρ) (events : List Event) :
    Tracks b (({} : Engine ρ).run b events) (reactions b {} events) := (tracks_empty b).run events

theorem lastGood_eq_none_iff {past : List (Reaction ε ρ)} :
    lastGood past = none ↔ ∀ r ∈ past, r.adopted? = none := by
  rw [lastGood, List.getLast?_eq_none_iff, List.filterMap_eq_nil_iff]

theorem pending_of_step {b : Backend ε ρ} {e : Engine ρ} {out : Outcome ε ρ} (h : (e.step b).1 = some out) :
    ∃ s, e.queue.pending = some s := by
  cases hpending : e.queue.pending with
  | none =>
    rw [step_idle b hpending] at h
    cases h
  | some s => exact ⟨s, rfl⟩

/-- A step finds work exactly where a message was taken in after the last step that did. -/
theorem isSome_step_iff (b : Backend ε ρ) (events : List Event) : ((({} : Engine ρ).run b events).step b).1.isSome ↔
    ∃ before s after, reactions b {} events = before ++ .queued s :: after ∧ ∀ r ∈ after, r.isWorked = false := by
  rw [← isSome_waiting_iff, ← (tracks_run b events).pending]
  constructor
  · intro h
    obtain ⟨out, hout⟩ := Option.isSome_iff_exists.1 h
    obtain ⟨s, hpending⟩ := pending_of_step hout
    rw [hpending]
    rfl
  · intro h
    obtain ⟨s, hpending⟩ := Option.isSome_iff_exists.1 h
    obtain ⟨out, hout, -⟩ := step_works b hpending
    rw [hout]
    rfl

/-- A step that finds work compiles the scene that was queued last. -/
theorem step_settles (b : Backend ε ρ) (events : List Event) {out : Outcome ε ρ}
    (h : ((({} : Engine ρ).run b events).step b).1 = some out) : ∃ before s after,
      reactions b {} events = before ++ .queued s :: after ∧ (∀ r ∈ after, r.isQueued = false) ∧
      Settles b (({} : Engine ρ).run b events).good s out ∧
      ((({} : Engine ρ).run b events).step b).2.1.active = some out.active := by
  obtain ⟨s, hpending⟩ := pending_of_step h
  obtain ⟨out', hout', hsettles, -, hafter⟩ := step_works b hpending
  obtain rfl : out' = out := Option.some.inj (hout'.symm.trans h)
  rw [(tracks_run b events).pending] at hpending
  obtain ⟨before, after, hpast, hlatest⟩ := exists_queued_of_waiting hpending
  exact ⟨before, s, after, hpast, fun r hr => (hlatest r hr).1, hsettles, by rw [hafter]⟩

/-- A last good result never disappears. -/
theorem isSome_good_run (b : Backend ε ρ) {e : Engine ρ} (h : e.good.isSome) (events : List Event) :
    (e.run b events).good.isSome := by
  induction events generalizing e with
  | nil => exact h
  | cons x rest ih =>
    refine ih ?_
    rw [(follows_next b e x).good, Option.isSome_or, h, Bool.or_true]

/-! ## Messages of no use -/

theorem submit?_eq_none_iff {e : Engine ρ} {m : Message} : e.submit? m = none ↔ m.isUseful = false := by
  unfold submit?
  rw [Option.map_eq_none_iff]
  unfold absorb? Message.isUseful
  split
  · rename_i htype hscene
    simp [htype, hscene]
  · rename_i htype hdelta
    simp [htype, hdelta]
  · rename_i hscene hdelta
    have hscene : m.type = "scene" → m.scene = none := fun h => Option.eq_none_iff_forall_ne_some.2 (hscene · h)
    have hdelta : m.type = "delta" → m.delta = none := fun h => Option.eq_none_iff_forall_ne_some.2 (hdelta · h)
    simpa using ⟨hscene, hdelta⟩

/-- The event is not a message of no use. -/
def Event.isUseful : Event → Bool
  | .submit m => m.isUseful
  | .step => true
  | .receive => true

theorem isRefused_reaction (b : Backend ε ρ) (e : Engine ρ) (x : Event) :
    (e.reaction b x).isRefused = !x.isUseful := by
  cases x with
  | submit m =>
    simp only [reaction, Event.isUseful]
    cases hm : e.submit? m with
    | none =>
      rw [submit?_eq_none_iff.1 hm]
      rfl
    | some sent =>
      cases huseful : m.isUseful with
      | true => rfl
      | false => cases (submit?_eq_none_iff.2 huseful).symm.trans hm
  | step =>
    simp only [reaction]
    split <;> rfl
  | receive => rfl

theorem next_of_useless (b : Backend ε ρ) (e : Engine ρ) {x : Event} (h : x.isUseful = false) : e.next b x = e := by
  cases x with
  | submit m =>
    simp only [next, submit?_eq_none_iff.2 h]
    rfl
  | step => cases h
  | receive => cases h

/-- Without the messages of no use a run ends in the same engine, and all its other events come to the same. -/
theorem run_filter (b : Backend ε ρ) (e : Engine ρ) (events : List Event) :
    e.run b (events.filter Event.isUseful) = e.run b events ∧
      reactions b e (events.filter Event.isUseful) = (reactions b e events).filter fun r => !r.isRefused := by
  induction events generalizing e with
  | nil => exact ⟨rfl, rfl⟩
  | cons x rest ih =>
    have hrefused := isRefused_reaction b e x
    cases hx : x.isUseful with
    | true =>
      obtain ⟨hrun, hreactions⟩ := ih (e.next b x)
      rw [hx] at hrefused
      simp only [List.filter_cons, hx, if_true, run, reactions, hrun, hreactions, hrefused, Bool.not_true,
        Bool.not_false]
      exact ⟨trivial, trivial⟩
    | false =>
      obtain ⟨hrun, hreactions⟩ := ih e
      rw [hx] at hrefused
      simp only [List.filter_cons, hx, run, reactions, next_of_useless b e hx, hrun, hreactions, hrefused,
        Bool.not_false, Bool.not_true, Bool.false_eq_true, if_false]
      exact ⟨trivial, trivial⟩

/-! ## What a session can rely on -/

theorem Settles.failure_active {c : Compiler} {compile : Scene → Except Failure Picture × List LogEntry}
    {good : Option Picture} {s : Scene} {out : Outcome Failure Picture}
    (h : Settles { c.backend with compile } good s out) (hsource : out.source = .errorPipeline) :
    out.active.failure = out.failure := by
  obtain ⟨hfailed, rfl⟩ := h.source_iff.2.2.1 hsource
  cases hcompiled : (compile s).1 with
  | ok p =>
    obtain ⟨-, -, hfailure⟩ := h.fresh p hcompiled
    rw [hfailure] at hfailed
    cases hfailed
  | error x =>
    obtain ⟨hactive, -, hfailure⟩ := h.failed x hcompiled rfl
    rw [hactive, hfailure]
    rfl

/-- Whatever compiling makes of scenes, and in whatever order messages and steps come:
the last good result is that of the latest step whose scene compiled, and never disappears;
what is drawn is what the latest step that found work has shown, which is the fresh result, the last good one or, only
where nothing has ever compiled, the picture of the failure, and the source says which;
an executor that makes its pipelines anew exactly when it is told to holds those of what is drawn;
a step finds work exactly where a message was taken in since the last step that did, it compiles the scene of the
latest message, and every message that was taken in was worked on, dropped or waits;
and a message of no use changes nothing, neither at once nor later. -/
theorem run_safe (c : Compiler) (compile : Scene → Except Failure Picture × List LogEntry) (events : List Event) :
    let b : Backend Failure Picture := { c.backend with compile }
    let e := ({} : Engine Picture).run b events
    let past := reactions b {} events
    (e.good = lastGood past ∧ ∀ more, e.good.isSome → (e.run b more).good.isSome) ∧
    (e.active = lastShown past ∧ ∀ out, (e.step b).1 = some out → ∃ before s after,
      past = before ++ .queued s :: after ∧ (∀ r ∈ after, r.isQueued = false) ∧
      Settles b e.good s out ∧ (e.step b).2.1.active = some out.active ∧
      (out.source = .fresh ↔ out.failure = none) ∧
      (out.source = .lastGood ↔ out.failure.isSome ∧ ∃ r ∈ past, r.adopted?.isSome) ∧
      (out.source = .errorPipeline ↔ out.failure.isSome ∧ ∀ r ∈ past, r.adopted? = none) ∧
      (out.source = .errorPipeline → out.active.failure = out.failure)) ∧
    (held past).map b.signature = e.active.map b.signature ∧
    (((e.step b).1.isSome ↔ ∃ before s after, past = before ++ .queued s :: after ∧ ∀ r ∈ after, r.isWorked = false) ∧
      past.countP Reaction.isQueued =
        past.countP Reaction.isWorked + e.queue.dropped + (if e.queue.pending.isSome then 1 else 0)) ∧
    (∀ m, (e.submit? m = none ↔ m.isUseful = false) ∧ (m.isUseful = false → e.next b (.submit m) = e)) ∧
    ({} : Engine Picture).run b (events.filter Event.isUseful) = e ∧
    reactions b {} (events.filter Event.isUseful) = past.filter fun r => !r.isRefused := by
  intro b e past
  have htracks : Tracks b e past := tracks_run b events
  have hwaiting : e.queue.pending.toList.length = if e.queue.pending.isSome then 1 else 0 := by
    cases e.queue.pending <;> rfl
  have hnever : e.good = none ↔ ∀ r ∈ past, r.adopted? = none := by
    rw [htracks.good]
    exact lastGood_eq_none_iff
  have honce : e.good.isSome ↔ ∃ r ∈ past, r.adopted?.isSome := by
    rw [← Option.ne_none_iff_isSome, ne_eq, hnever]
    simp [Option.ne_none_iff_isSome]
  refine ⟨⟨htracks.good, fun more h => isSome_good_run b h more⟩, ⟨htracks.active, ?_⟩, htracks.held,
    ⟨isSome_step_iff b events, hwaiting ▸ htracks.counted⟩,
    fun m => ⟨submit?_eq_none_iff, fun h => next_of_useless b e (x := .submit m) h⟩, run_filter b {} events⟩
  intro out hout
  obtain ⟨before, s, after, hpast, hlatest, hsettles, hactive⟩ := step_settles b events hout
  obtain ⟨hfresh, hkept, hfailed⟩ := hsettles.source_iff
  exact ⟨before, s, after, hpast, hlatest, hsettles, hactive, hfresh, hkept.trans (and_congr_right fun _ => honce),
    hfailed.trans (and_congr_right fun _ => hnever), hsettles.failure_active⟩

/-- A compilation that refuses scenes without nodes and gives one picture for all others. -/
def strict (s : Scene) : Except Failure Picture × List LogEntry :=
  (if s.nodes.isEmpty then .error (.other "no nodes")
    else .ok { ({} : Compiler).errorPicture (.other "") with failure := none }, [])

/-- A session that steps in vain, fails, hears nonsense, supersedes a scene, compiles the newer one, and receives
another one that will fail. -/
def flickering : List Event :=
  [.step, .submit { type := "scene", scene := some {} }, .step, .submit { type := "delta", scene := some {} },
    .submit { type := "scene", scene := some { nodes := [{ id := "a", type := "Color" }] } },
    .submit { type := "delta", delta := some { nodes := { added := [{ id := "b", type := "Color" }] } } },
    .receive, .step,
    .submit { type := "scene", scene := some {} }]

theorem flickering_checks :
    let b : Backend Failure Picture := { ({} : Compiler).backend with compile := strict }
    let e := ({} : Engine Picture).run b flickering
    ((e.step b).1.any fun out => decide (out.source = .lastGood)) && decide (e.queue.dropped = 1) &&
      decide ((reactions b {} flickering).countP Reaction.isWorked = 2) && e.queue.pending.isSome = true := by
  decide +kernel

theorem flickering_safe :
    let b : Backend Failure Picture := { ({} : Compiler).backend with compile := strict }
    let e := ({} : Engine Picture).run b flickering
    let past := reactions b {} flickering
    ∃ out, (e.step b).1 = some out ∧ out.source = .lastGood ∧ out.failure.isSome ∧
      (∃ r ∈ past, r.adopted?.isSome) ∧ past.countP Reaction.isQueued = 4 := by
  intro b e past
  have hchecks := flickering_checks
  simp only [Bool.and_eq_true, decide_eq_true_eq] at hchecks
  obtain ⟨⟨⟨hstep, hdropped⟩, hworked⟩, hpending⟩ := hchecks
  obtain ⟨out, hout, hsource⟩ := Option.any_eq_true _ _ |>.1 hstep
  have hsource := of_decide_eq_true hsource
  obtain ⟨-, ⟨-, hsteps⟩, -, ⟨-, hcounted⟩, -⟩ := run_safe {} strict flickering
  obtain ⟨-, -, -, -, -, -, -, -, hkept, -⟩ := hsteps out hout
  obtain ⟨hfailed, honce⟩ := hkept.1 hsource
  refine ⟨out, hout, hsource, hfailed, honce, ?_⟩
  rw [hworked, hdropped, if_pos hpending] at hcounted
  exact hcounted

end Engine

end SceneGraph
