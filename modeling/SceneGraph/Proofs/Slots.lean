import SceneGraph.Proofs.Clock
import SceneGraph.Proofs.SameCode
import SceneGraph.Proofs.Scripts

/-!
# Slots of constants

Constants are put into a growing buffer at the first call that asks for them, and shader code names their slots while
the buffer still grows. A session holds exactly the constants of a list, one after the other; calls only put constants
at its end. So what a constant has in the buffer stays there, constants do not overlap, and code that stays below the
end of the buffer when it is generated stays below it in the finished plan.

* `Session.Stores`: the constants of a session.
* `Session.Stores.stored`: what one call for a constant does.
* `storing`: the law of computations that store constants of a kind.
* `ExprContext.KeepsConstants`: what holds of the constants after any calls.
* `PlanContext.Bounded`: what the steps of planning keep.
* `Prepared.slots_sound`: constants are kept, and plans hold all numbers that their passes read.
-/
set_option autoImplicit false

namespace SceneGraph

open SessionM

/-! ## The constants of a session -/

namespace Session

variable {s : Session} {cs more : List (SlotKey × List Float)} {key : SlotKey} {values : List Float} {i : Nat}

/-- The numbers of constants, one after the other. -/
def numbers (cs : List (SlotKey × List Float)) : List Float32 := cs.flatMap fun d => padded d.2

/-- The session holds these constants, each under a key of its own, and nothing else. -/
structure Stores (s : Session) (cs : List (SlotKey × List Float)) : Prop where
  params : s.params = numbers cs
  once : (cs.map Prod.fst).Nodup
  slots : ∀ key i, s.slot? key = some i ↔
    ∃ before values after, cs = before ++ (key, values) :: after ∧ 4 * i = (numbers before).length

theorem numbers_cons (d : SlotKey × List Float) (cs : List (SlotKey × List Float)) :
    numbers (d :: cs) = padded d.2 ++ numbers cs := List.flatMap_cons

theorem numbers_append (cs more : List (SlotKey × List Float)) : numbers (cs ++ more) = numbers cs ++ numbers more :=
  List.flatMap_append

theorem four_dvd_numbers (cs : List (SlotKey × List Float)) : 4 ∣ (numbers cs).length := by
  induction cs with
  | nil => exact Nat.dvd_zero 4
  | cons d rest ih =>
    rw [numbers_cons, List.length_append, length_padded]
    exact Nat.dvd_add (Nat.dvd_mul_right 4 _) ih

theorem slot?_store (s : Session) (key key' : SlotKey) (values : List Float) :
    (s.store key values).2.slot? key' =
      (s.slot? key').or (if s.slot? key = none ∧ key = key' then some (s.params.length / 4) else none) := by
  unfold store
  cases hkey : s.slot? key with
  | some i => simp
  | none =>
    simp only [slot?, List.find?_append, Option.map_or]
    by_cases h : key = key' <;> simp [h]

/-- A call for a constant gives its slot. -/
theorem slot?_store_self (s : Session) (key : SlotKey) (values : List Float) :
    (s.store key values).2.slot? key = some (s.store key values).1 := by
  rw [slot?_store]
  unfold store
  cases hkey : s.slot? key <;> simp

namespace Stores

theorem empty : ({} : Session).Stores [] := by
  refine ⟨rfl, List.nodup_nil, fun key i => ?_⟩
  simp [slot?]

theorem keep (h : s.Stores cs) {t : Session} (hparams : t.params = s.params) (hslots : t.slots = s.slots) :
    t.Stores cs := by
  have hsame : ∀ key, t.slot? key = s.slot? key := fun key => by rw [slot?, hslots, slot?]
  exact ⟨hparams.trans h.params, h.once, fun key i => (hsame key).symm ▸ h.slots key i⟩

theorem isSome_slot? (h : s.Stores cs) : (s.slot? key).isSome ↔ key ∈ cs.map Prod.fst := by
  rw [Option.isSome_iff_exists]
  constructor
  · rintro ⟨i, hi⟩
    obtain ⟨before, values, after, rfl, -⟩ := (h.slots key i).1 hi
    simp
  · intro hmem
    obtain ⟨⟨_, values⟩, hd, rfl⟩ := List.mem_map.1 hmem
    obtain ⟨before, after, rfl⟩ := List.append_of_mem hd
    have hwhole := four_dvd_numbers before
    exact ⟨_, (h.slots _ _).2 ⟨before, values, after, rfl, Nat.mul_div_cancel' hwhole⟩⟩

/-- The constant is put to the end, unless the session has one under its key. -/
theorem stored (h : s.Stores cs) (key : SlotKey) (values : List Float) :
    ∃ more, (s.store key values).2.Stores (cs ++ more) ∧ ∀ d ∈ more, d = (key, values) := by
  cases hkey : s.slot? key with
  | some i => exact ⟨[], by simpa [store, hkey] using h, by simp⟩
  | none =>
    have hnew : key ∉ cs.map Prod.fst := by
      rw [← h.isSome_slot?, hkey]
      exact Bool.false_ne_true
    refine ⟨[(key, values)], ⟨?_, ?_, fun key' i => ?_⟩, by simp⟩
    · rw [numbers_append, ← h.params]
      simp [store, hkey, numbers]
    · rw [List.map_append, List.nodup_append]
      refine ⟨h.once, List.nodup_singleton _, fun a ha b hb heq => hnew ?_⟩
      obtain rfl := List.mem_singleton.1 hb
      exact heq ▸ ha
    rw [slot?_store, hkey, Option.or_eq_some_iff]
    constructor
    · rintro (hi | ⟨-, hi⟩)
      · obtain ⟨before, v, after, rfl, hlength⟩ := (h.slots key' i).1 hi
        exact ⟨before, v, after ++ [(key, values)], by simp, hlength⟩
      · obtain ⟨⟨-, rfl⟩, hend⟩ := Option.ite_none_right_eq_some.1 hi
        obtain rfl := Option.some.inj hend
        refine ⟨cs, values, [], rfl, ?_⟩
        rw [h.params]
        exact Nat.mul_div_cancel' (four_dvd_numbers cs)
    · rintro ⟨before, v, after, heq, hlength⟩
      rcases List.eq_nil_or_concat after with rfl | ⟨after, d, rfl⟩
      · obtain ⟨rfl, hlast⟩ := List.append_inj' heq rfl
        obtain ⟨rfl, rfl⟩ := Prod.mk.inj (List.singleton_inj.1 hlast)
        refine .inr ⟨hkey, ?_⟩
        rw [if_pos ⟨rfl, rfl⟩, h.params, ← hlength, Nat.mul_div_cancel_left _ (by decide)]
      · rw [List.concat_eq_append, ← List.cons_append, ← List.append_assoc] at heq
        obtain ⟨rfl, -⟩ := List.append_inj' heq rfl
        exact .inl ((h.slots key' i).2 ⟨before, v, after, rfl, hlength⟩)

/-- The buffer before a constant, its numbers, and what comes after them. -/
theorem split (h : s.Stores cs) (hd : (key, values) ∈ cs) (hi : s.slot? key = some i) :
    ∃ before after, cs = before ++ (key, values) :: after ∧ 4 * i = (numbers before).length := by
  obtain ⟨before, v, after, rfl, hlength⟩ := (h.slots key i).1 hi
  have hpairs : ∀ d ∈ before ++ (key, v) :: after, d.1 = key → d = (key, v) := by
    have honce := h.once
    rw [List.map_append, List.map_cons, List.nodup_middle, List.nodup_cons] at honce
    intro d hd hkey
    rcases List.mem_append.1 hd with hd | hd
    · exact absurd (List.mem_append_left _ (List.mem_map.2 ⟨d, hd, hkey⟩)) honce.1
    · rcases List.mem_cons.1 hd with rfl | hd
      · rfl
      · exact absurd (List.mem_append_right _ (List.mem_map.2 ⟨d, hd, hkey⟩)) honce.1
  obtain rfl := (Prod.mk.inj (hpairs _ hd rfl)).2
  exact ⟨before, after, rfl, hlength⟩

/-- The buffer holds the numbers of a constant from its slot on. -/
theorem holds (h : s.Stores cs) (hd : (key, values) ∈ cs) (hi : s.slot? key = some i) :
    (s.params.drop (4 * i)).take (padded values).length = padded values := by
  obtain ⟨before, after, rfl, hlength⟩ := h.split hd hi
  rw [h.params, numbers_append, hlength, List.drop_left, numbers_cons, List.take_left]

theorem inside (h : s.Stores cs) (hd : (key, values) ∈ cs) (hi : s.slot? key = some i) :
    4 * i + (padded values).length ≤ s.params.length := by
  have hlength := congrArg List.length (h.holds hd hi)
  rw [List.length_take, List.length_drop, length_padded] at hlength
  rw [length_padded]
  omega

theorem disjoint (h : s.Stores cs) {key' : SlotKey} {values' : List Float} {j : Nat} (hd : (key, values) ∈ cs)
    (hi : s.slot? key = some i) (hd' : (key', values') ∈ cs) (hj : s.slot? key' = some j) (hne : key ≠ key') :
    4 * i + (padded values).length ≤ 4 * j ∨ 4 * j + (padded values').length ≤ 4 * i := by
  have hends : ∀ (before mid : List (SlotKey × List Float)) (d : SlotKey × List Float),
      (numbers before).length + (padded d.2).length ≤ (numbers (before ++ d :: mid)).length := by
    intro before mid d
    rw [numbers_append, List.length_append, numbers_cons, List.length_append]
    omega
  obtain ⟨before, after, hsplit, hlength⟩ := h.split hd hi
  obtain ⟨before', after', hsplit', hlength'⟩ := h.split hd' hj
  rw [hlength, hlength']
  rcases List.append_eq_append_iff.1 (hsplit.symm.trans hsplit') with ⟨mid, rfl, hmid⟩ | ⟨mid, rfl, hmid⟩
  · rcases mid with _ | ⟨d, mid⟩
    · exact absurd (congrArg Prod.fst (List.cons.inj hmid).1) hne
    · obtain rfl := (List.cons.inj hmid).1
      exact .inl (hends before mid (key, values))
  · rcases mid with _ | ⟨d, mid⟩
    · exact absurd (congrArg Prod.fst (List.cons.inj hmid).1).symm hne
    · obtain rfl := (List.cons.inj hmid).1
      exact .inr (hends before' mid (key', values'))

/-- What is put to the end moves no constant. -/
theorem slot?_append (h : s.Stores cs) {t : Session} (ht : t.Stores (cs ++ more)) (hi : s.slot? key = some i) :
    t.slot? key = some i := by
  obtain ⟨before, v, after, rfl, hlength⟩ := (h.slots key i).1 hi
  exact (ht.slots key i).2 ⟨before, v, after ++ more, by simp, hlength⟩

end Stores

end Session

/-! ## Computations that store constants -/

/-- A compiler of the scene stores the constant under the key, as one of the type. -/
def ExprContext.Stores (c : ExprContext) (key : SlotKey) (values : List Float) (t : ValueType) : Prop :=
  ∃ n k, c.prepared.node? key.node = some n ∧ c.registry.get? n.type = some k ∧ k.Constant n key.param values t

theorem ExprContext.Stores.unique {c : ExprContext} {key : SlotKey} {xs ys : List Float} {t u : ValueType}
    (h : c.Stores key xs t) (h' : c.Stores key ys u) : xs = ys ∧ t = u := by
  obtain ⟨n, k, hn, hk, hconstant⟩ := h
  obtain ⟨n', k', hn', hk', hconstant'⟩ := h'
  obtain rfl := Option.some.inj (hn.symm.trans hn')
  obtain rfl := Option.some.inj (hk.symm.trans hk')
  exact hconstant.unique hconstant'

section

variable {cs : List (SlotKey × List Float)} {D : SlotKey → List Float → Prop} {N : Nat} {S : Nat → Prop}

/-- The constants of the session are given ones and some of a kind after them. As long as they are at most `N` numbers,
the remembered expressions read slots of a set only. -/
def storing (cs : List (SlotKey × List Float)) (D : SlotKey → List Float → Prop) (N : Nat) (S : Nat → Prop) : Law where
  Inv s := (∃ more, s.Stores (cs ++ more) ∧ ∀ d ∈ more, D d.1 d.2) ∧
    (s.params.length ≤ N → ∀ m ∈ s.memo, m.2.code.ReadsIn S)
  Rel s t := s.params.length ≤ t.params.length
  Fine s := s.params.length ≤ N
  Fails _ := True
  refl _ := Nat.le_refl _
  trans := Nat.le_trans
  fine := Nat.le_trans
  quiet {s t} hs h := by
    obtain ⟨⟨more, hmore, hkind⟩, hmemo⟩ := hs
    refine ⟨⟨⟨more, hmore.keep h.params h.slots, hkind⟩, ?_⟩, h.params ▸ Nat.le_refl _⟩
    rw [h.params, h.memo]
    exact hmemo

/-- Wherever a constant is below the bound, reading one of the type from its slot reads slots of the set. -/
def Readable (cs : List (SlotKey × List Float)) (D : SlotKey → List Float → Prop) (N : Nat) (S : Nat → Prop)
    (key : SlotKey) (t : ValueType) : Prop :=
  ∀ v i, (key, v) ∈ cs ∨ D key v → 4 * i + (Session.padded v).length ≤ N → (Session.slotCode i t).ReadsIn S

theorem constant_obeys {node param : String} {values : List Float} {t : ValueType} (hkind : D ⟨node, param⟩ values)
    (hread : Readable cs D N S ⟨node, param⟩ t) :
    Obeys (storing cs D N S) (SessionM.constant node param values t) fun x => x.type = t ∧ x.code.ReadsIn S := by
  rintro s ⟨⟨more, hmore, hold⟩, hmemo⟩
  obtain ⟨new, hnew, hadded⟩ := hmore.stored ⟨node, param⟩ values
  set r := s.store ⟨node, param⟩ values with hr
  have hslot : r.2.slot? ⟨node, param⟩ = some r.1 := s.slot?_store_self _ _
  have hgrows : s.params.length ≤ r.2.params.length := by
    rw [hmore.params, hnew.params, Session.numbers_append _ new, List.length_append]
    omega
  rw [List.append_assoc] at hnew
  have hall : ∀ d ∈ more ++ new, D d.1 d.2 := by
    intro d hd
    rcases List.mem_append.1 hd with hd | hd
    · exact hold d hd
    · rw [hadded d hd]
      exact hkind
  refine ⟨⟨⟨_, hnew, hall⟩, fun hfine => ?_⟩, hgrows, fun hfine => ⟨rfl, ?_⟩⟩
  · change r.2.params.length ≤ N at hfine
    change ∀ m ∈ r.2.memo, m.2.code.ReadsIn S
    rw [hr, Session.store_memo]
    exact hmemo (hgrows.trans hfine)
  · obtain ⟨⟨_, v⟩, hv, rfl⟩ := List.mem_map.1 (hnew.isSome_slot?.1 (Option.isSome_iff_exists.2 ⟨_, hslot⟩))
    refine hread v _ ?_ ((hnew.inside hv hslot).trans hfine)
    rcases List.mem_append.1 hv with hv | hv
    · exact .inl hv
    · exact .inr (hall _ hv)

/-- Compiling obeys the law if its constants are of the kind and can be read. -/
theorem storing_supports {c : ExprContext} (h : ∀ key values t, c.Stores key values t →
    D key values ∧ Readable cs D N S key t) : (storing cs D N S).Supports c S fun _ => True where
  upstream _ _ _ _ _ _ := trivial
  cycle _ := trivial
  missing _ _ := trivial
  refuses _ _ _ := trivial
  found hs hx hfine := hs.2 hfine _ (Session.mem_of_compiled? hx)
  constant {e n k} _ hk param values t hconstant := by
    obtain ⟨hn, hget⟩ := ExprContext.compilerOf_eq_ok hk
    obtain ⟨hkind, hread⟩ := h ⟨n.id, param⟩ values t ⟨n, k, Prepared.node?_self hn, hget, hconstant⟩
    exact constant_obeys hkind hread
  progress hs active := by
    obtain ⟨⟨more, hmore, hkind⟩, hmemo⟩ := hs
    exact ⟨⟨⟨more, hmore.keep rfl rfl, hkind⟩, hmemo⟩, Nat.le_refl _⟩
  remember hs _ hout := by
    obtain ⟨⟨more, hmore, hkind⟩, hmemo⟩ := hs
    exact ⟨⟨⟨more, hmore.keep rfl rfl, hkind⟩, fun hfine => List.forall_mem_cons.2 ⟨(hout hfine).2, hmemo hfine⟩⟩,
      Nat.le_refl _⟩

end

/-! ## Calls -/

/-- A call on a session: a constant is stored, with or without code that reads it, or an output is compiled. -/
inductive SessionCall where
  | slot (key : SlotKey) (values : List Float)
  | param (key : SlotKey) (values : List Float) (type : ValueType)
  | compile (e : Endpoint)

namespace SessionCall

/-- The session after the call, which may have failed. -/
def perform (c : ExprContext) (s : Session) : SessionCall → Session
  | slot key values => (s.store key values).2
  | param key values type => ((SessionM.constant key.node key.param values type).run.run s).2
  | compile e => ((c.compile e).run.run s).2

/-- The constants that a call may ask for: the given one, or those of compilers. -/
inductive Asks (c : ExprContext) : SessionCall → SlotKey → List Float → Prop where
  | slot {key : SlotKey} {values : List Float} : Asks c (.slot key values) key values
  | param {key : SlotKey} {values : List Float} {type : ValueType} : Asks c (.param key values type) key values
  | compile {e : Endpoint} {key : SlotKey} {values : List Float} {t : ValueType} (h : c.Stores key values t) :
      Asks c (.compile e) key values

variable {c : ExprContext} {call : SessionCall} {key : SlotKey}

theorem Asks.unique {xs ys : List Float} (h : call.Asks c key xs) (h' : call.Asks c key ys) : xs = ys := by
  cases h with
  | slot | param =>
    cases h'
    rfl
  | compile h =>
    cases h' with
    | compile h' => exact (h.unique h').1

/-- A call puts constants that it asks for to the end. -/
theorem perform_stores (call : SessionCall) {s : Session} {cs : List (SlotKey × List Float)} (h : s.Stores cs) :
    ∃ more, (call.perform c s).Stores (cs ++ more) ∧ ∀ d ∈ more, call.Asks c d.1 d.2 := by
  cases call with
  | slot key values =>
    obtain ⟨more, hmore, hall⟩ := h.stored key values
    exact ⟨more, hmore, fun d hd => hall d hd ▸ .slot⟩
  | param key values type =>
    obtain ⟨more, hmore, hall⟩ := h.stored key values
    exact ⟨more, hmore, fun d hd => hall d hd ▸ .param⟩
  | compile e =>
    have hlaw : (storing cs (fun key values => ∃ t, c.Stores key values t) 0 fun _ => True).Supports c _
      fun _ => True :=
      storing_supports fun key values t hstores => ⟨⟨t, hstores⟩, fun _ _ _ _ _ _ => trivial⟩
    have hstart : s.Stores (cs ++ []) := (List.append_nil cs).symm ▸ h
    obtain ⟨⟨⟨more, hmore, hall⟩, -⟩, -⟩ := hlaw.compile (e := e) trivial s
      ⟨⟨[], hstart, nofun⟩, fun _ _ _ _ _ => trivial⟩
    refine ⟨more, hmore, fun d hd => ?_⟩
    obtain ⟨t, ht⟩ := hall d hd
    exact .compile ht

end SessionCall

namespace ExprContext

variable {c : ExprContext} {calls : List SessionCall} {key : SlotKey} {values : List Float}

/-- The session after some calls. -/
def after (c : ExprContext) (calls : List SessionCall) : Session := calls.foldl (SessionCall.perform c) {}

/-- The first of the calls that comes to the constant asks for these numbers. -/
def FirstCall (c : ExprContext) (calls : List SessionCall) (key : SlotKey) (values : List Float) : Prop :=
  ∃ before call later, calls = before ++ call :: later ∧ (c.after before).slot? key = none ∧
    ((c.after (before ++ [call])).slot? key).isSome ∧ call.Asks c key values

theorem after_append (calls later : List SessionCall) :
    c.after (calls ++ later) = later.foldl (SessionCall.perform c) (c.after calls) := List.foldl_append

/-- Later calls put constants to the end. -/
theorem later_stores {cs : List (SlotKey × List Float)} (h : (c.after calls).Stores cs) (later : List SessionCall) :
    ∃ more, (c.after (calls ++ later)).Stores (cs ++ more) := by
  induction later using List.reverseRecOn with
  | nil => exact ⟨[], by simpa using h⟩
  | append_singleton later call ih =>
    obtain ⟨more, hmore⟩ := ih
    obtain ⟨new, hnew, -⟩ := call.perform_stores (c := c) hmore
    refine ⟨more ++ new, ?_⟩
    rw [← List.append_assoc, after_append (calls ++ later), ← List.append_assoc]
    exact hnew

/-- The constants of a session are those that the calls came to, with the numbers of the first call. -/
theorem after_stores (c : ExprContext) (calls : List SessionCall) :
    ∃ cs, (c.after calls).Stores cs ∧ ∀ key values, (key, values) ∈ cs ↔ c.FirstCall calls key values := by
  induction calls using List.reverseRecOn with
  | nil => exact ⟨[], .empty, by simp [FirstCall]⟩
  | append_singleton calls call ih =>
    obtain ⟨cs, hcs, hfirst⟩ := ih
    obtain ⟨more, hmore, hasks⟩ := call.perform_stores (c := c) hcs
    have hafter : c.after (calls ++ [call]) = call.perform c (c.after calls) := after_append _ _
    rw [← hafter] at hmore
    refine ⟨cs ++ more, hmore, fun key values => ?_⟩
    have hslot : ((c.after (calls ++ [call])).slot? key).isSome ↔ key ∈ (cs ++ more).map Prod.fst := hmore.isSome_slot?
    constructor
    · intro hmem
      rcases List.mem_append.1 hmem with hold | hnew
      · obtain ⟨before, first, later, rfl, hrest⟩ := (hfirst key values).1 hold
        exact ⟨before, first, later ++ [call], by simp, hrest⟩
      · refine ⟨calls, call, [], rfl, ?_, hslot.2 (List.mem_map.2 ⟨_, hmem, rfl⟩), hasks _ hnew⟩
        -- The keys of the constants are distinct.
        have honce := hmore.once
        rw [List.map_append, List.nodup_append] at honce
        rw [Option.eq_none_iff_forall_ne_some]
        intro i hi
        have hkey := hcs.isSome_slot?.1 (Option.isSome_iff_exists.2 ⟨i, hi⟩)
        exact honce.2.2 key hkey key (List.mem_map.2 ⟨_, hnew, rfl⟩) rfl
    · rintro ⟨before, first, later, heq, hnone, hsome, hfirstAsks⟩
      rcases List.eq_nil_or_concat later with rfl | ⟨later, last, rfl⟩
      · obtain ⟨rfl, hlast⟩ := List.append_inj' heq rfl
        obtain rfl := List.singleton_inj.1 hlast
        obtain ⟨⟨_, v⟩, hmem, rfl⟩ := List.mem_map.1 (hslot.1 hsome)
        rcases List.mem_append.1 hmem with hold | hnew
        · have hkey := hcs.isSome_slot?.2 (List.mem_map.2 ⟨_, hold, rfl⟩)
          rw [hnone] at hkey
          cases hkey
        · obtain rfl := (hasks _ hnew).unique hfirstAsks
          exact hmem
      · rw [List.concat_eq_append, ← List.cons_append, ← List.append_assoc] at heq
        obtain ⟨rfl, -⟩ := List.append_inj' heq rfl
        exact List.mem_append_left _ ((hfirst key values).2 ⟨before, first, later, rfl, hnone, hsome, hfirstAsks⟩)

/-- The buffer consists of whole slots. It holds the constants that the calls came to, those of different keys apart
from each other, and in its place each one has the numbers of its first call, filled up with zeros, also after any
later calls. -/
structure KeepsConstants (c : ExprContext) (calls : List SessionCall) : Prop where
  whole : 4 ∣ (c.after calls).params.length
  stored : ∀ key, ((c.after calls).slot? key).isSome ↔ ∃ values, c.FirstCall calls key values
  kept : ∀ key values i, c.FirstCall calls key values → (c.after calls).slot? key = some i → ∀ later,
    (c.after (calls ++ later)).slot? key = some i ∧
      ((c.after (calls ++ later)).params.drop (4 * i)).take (Session.padded values).length = Session.padded values
  disjoint : ∀ key values i key' values' i', c.FirstCall calls key values → (c.after calls).slot? key = some i →
    c.FirstCall calls key' values' → (c.after calls).slot? key' = some i' → key ≠ key' →
    4 * i + (Session.padded values).length ≤ 4 * i' ∨ 4 * i' + (Session.padded values').length ≤ 4 * i

theorem keepsConstants (c : ExprContext) (calls : List SessionCall) : c.KeepsConstants calls := by
  obtain ⟨cs, hcs, hfirst⟩ := c.after_stores calls
  constructor
  case whole => exact hcs.params ▸ Session.four_dvd_numbers cs
  case stored => exact fun key => hcs.isSome_slot?.trans (by simp [hfirst])
  case kept =>
    intro key values i hvalues hi later
    obtain ⟨more, hmore⟩ := later_stores hcs later
    have hlater := hcs.slot?_append hmore hi
    exact ⟨hlater, hmore.holds (List.mem_append_left _ ((hfirst _ _).2 hvalues)) hlater⟩
  case disjoint =>
    intro key values i key' values' i' hvalues hi hvalues' hi' hne
    exact hcs.disjoint ((hfirst _ _).2 hvalues) hi ((hfirst _ _).2 hvalues') hi' hne

end ExprContext

/-! ## Passes -/

/-- The numbers of the slot are among the first `N` ones. -/
def Filled (N i : Nat) : Prop := 4 * i + 3 < N

theorem readsIn_slotCode {N : Nat} {t : ValueType} {v : List Float} {i : Nat} (hv : t = .mat4 → v.length = 16)
    (hfine : 4 * i + (Session.padded v).length ≤ N) : (Session.slotCode i t).ReadsIn (Filled N) := by
  rw [Session.length_padded] at hfine
  have hfirst : Filled N i := by
    unfold Filled
    omega
  cases t with
  | mat4 =>
    have hall : ∀ j, j ≤ i + 3 → Filled N j := by
      intro j hj
      unfold Filled
      rw [hv rfl] at hfine
      omega
    simp [Session.slotCode, hall]
  | _ => simp [Session.slotCode, hfirst]

/-- A compiler that stores as many numbers as its code reads. -/
def NodeCompiler.fillsSlots : NodeCompiler → Bool
  | .scalar t | .vector t => t ≠ .mat4
  | _ => true

theorem Registry.builtin_fillsSlots {type : String} {k : NodeCompiler} (h : Registry.builtin.get? type = some k) :
    k.fillsSlots = true := by
  have hall : Registry.builtin.all (fun e => e.2.fillsSlots) = true := by
    rw [Registry.builtin_eq]
    decide
  obtain ⟨e, he, rfl⟩ := Option.map_eq_some_iff.1 h
  exact List.all_eq_true.1 hall e (List.mem_of_find?_eq_some he)

theorem NodeCompiler.Constant.matrix_length {n : Node} {k : NodeCompiler} {param : String} {values : List Float}
    (h : k.Constant n param values .mat4) (hk : k.fillsSlots = true) : param = "value" ∧ values.length = 16 := by
  cases h with
  | scalar | vector => simp [fillsSlots] at hk
  | matrix h => exact ⟨rfl, h⟩

theorem NodeCompiler.Constant.param_mem {n : Node} {k : NodeCompiler} {param : String} {values : List Float}
    {t : ValueType} (h : k.Constant n param values t) : param ∈ ["value", "speed", "min", "max"] := by
  cases h with
  | bound hname => rcases hname with rfl | rfl <;> simp
  | _ => simp

/-- The bodies of effects read what their numbers read. -/
theorem Effect.Body.readsIn {compiled : List (SessionM ShaderExpr × ShaderExpr)}
    {body : List ShaderStatement} (hbody : Effect.Body compiled body) {S : Nat → Prop}
    (h : ∀ x ∈ compiled, x.2.code.ReadsIn S) : ∀ s ∈ body, s.code.ReadsIn S := by
  cases hbody with
  | copy => simp [copyBody, sampleHere, sampleAt, ShaderStatement.code]
  | display => simp [displayBody, sampleHere, sampleAt, ShaderStatement.code, Code.construct]
  | down => simp [downBody, sampleAt, ShaderStatement.code, Code.construct]
  | blur hdirection hradius =>
    have hradius := h _ hradius
    rcases hdirection with rfl | rfl <;>
      simp [blurBody, blurPair, sideWeights, sampleHere, sampleAt, ShaderStatement.code, Code.construct, horizontal,
        vertical, hradius]
  | extract hthreshold =>
    have hthreshold := h _ hthreshold
    simp [extractBody, luma, sampleHere, sampleAt, ShaderStatement.code, Code.construct, hthreshold]
  | combine hintensity =>
    have hintensity := h _ hintensity
    simp [combineBody, sampleHere, sampleAt, ShaderStatement.code, hintensity]

namespace PlanContext

/-- The constants that planning stores. -/
inductive Stores (c : PlanContext) : SlotKey → List Float → Prop where
  | compiler {key : SlotKey} {values : List Float} {t : ValueType} (h : c.exprs.Stores key values t) :
      Stores c key values
  | transform (node : String) {values : List Float} (h : values.length = 16) : Stores c ⟨node, "transform"⟩ values
  | effect (node : String) {param : String} (hparam : param ∈ ["radius", "threshold", "intensity"])
      (values : List Float) : Stores c ⟨node, param⟩ values

variable {p : Prepared} {r : Routes} {env : Environment} {N : Nat}

theorem Stores.matrix_length {key : SlotKey} {v : List Float}
    (h : key.param = "transform" ∨ ∃ values, (p.context r env).exprs.Stores key values .mat4)
    (hv : (p.context r env).Stores key v) : v.length = 16 := by
  cases hv with
  | transform _ hlength => exact hlength
  | compiler hstores =>
    rcases h with h | ⟨_, h⟩
    · obtain ⟨_, _, _, _, hconstant⟩ := hstores
      exact absurd hconstant.param_mem (by simp [h])
    · obtain ⟨rfl, rfl⟩ := hstores.unique h
      obtain ⟨_, _, _, hk, hconstant⟩ := h
      exact (hconstant.matrix_length (Registry.builtin_fillsSlots hk)).2
  | effect _ hparam =>
    rcases h with rfl | ⟨_, _, _, _, hk, hconstant⟩
    · simp at hparam
    · obtain ⟨hvalue, -⟩ := hconstant.matrix_length (Registry.builtin_fillsSlots hk)
      dsimp only at hvalue
      simp [hvalue] at hparam

/-- Planning stores its constants and has them read below a bound. -/
def bounded (p : Prepared) (r : Routes) (env : Environment) (N : Nat) : Law :=
  storing [] (p.context r env).Stores N (Filled N)

theorem bounded_readable {key : SlotKey} {t : ValueType}
    (h : t = .mat4 → key.param = "transform" ∨ ∃ values, (p.context r env).exprs.Stores key values t) :
    Readable [] (p.context r env).Stores N (Filled N) key t := by
  intro v i hv hfine
  refine readsIn_slotCode (fun ht => ?_) hfine
  subst ht
  exact Stores.matrix_length (h rfl) (hv.resolve_left List.not_mem_nil)

theorem bounded_supports : (bounded p r env N).Supports (p.context r env).exprs (Filled N) fun _ => True :=
  storing_supports fun _ values _ h => ⟨.compiler h, bounded_readable fun _ => .inr ⟨values, h⟩⟩

/-! ### Compiling -/

theorem input?_obeys (n : Node) (ports : List String) :
    Obeys (bounded p r env N) ((p.context r env).exprs.inputs.input? n ports) fun x? =>
      ∀ x ∈ x?, x.code.ReadsIn (Filled N) := by
  unfold NodeContext.input?
  split
  · exact .pure nofun
  · exact (bounded_supports.compile trivial).bind fun x => .pure fun hx y hy => Option.some.inj hy ▸ hx

theorem convert_obeys (e : ShaderExpr) (n : Node) (port : String) (want : ValueType) :
    Obeys (bounded p r env N) (e.convert n port want) fun x =>
      e.code.ReadsIn (Filled N) → x.code.ReadsIn (Filled N) := by
  unfold ShaderExpr.convert
  split
  · exact .pure id
  · split
    · rename_i code hcode
      refine .pure fun he => ?_
      rw [ShaderExpr.derive_code]
      exact he.convert? hcode
    · exact .throw trivial

theorem readsIn_identity {S : Nat → Prop} : Code.identity.ReadsIn S := .of_no_slots (by decide)

theorem Compiles.obeys {x : SessionM ShaderExpr} (hx : (p.context r env).Compiles x) :
    Obeys (bounded p r env N) x fun e => e.code.ReadsIn (Filled N) := by
  cases hx with
  | texture n =>
    refine (input?_obeys n _).bind fun x? => ?_
    cases x? with
    | none => exact .throw trivial
    | some x => exact .pure fun hx => hx x rfl
  | color n =>
    refine (input?_obeys n _).bind fun x? => ?_
    cases x? with
    | none => exact .pure fun _ => by simp [Code.construct]
    | some x => exact (convert_obeys x n _ _).mono fun y hy hx => hy (hx x rfl)
  | transform n =>
    refine (input?_obeys n _).bind fun x? => ?_
    cases x? with
    | none =>
      dsimp only
      split
      · exact .pure fun _ => readsIn_identity
      · split
        · rename_i hlength
          refine (constant_obeys (.transform n.id hlength) (bounded_readable fun _ => .inl rfl)).mono ?_
          exact fun y hy _ => hy.2
        · exact .throw trivial
    | some x =>
      refine (convert_obeys x n _ _).bind fun y => ?_
      split
      · exact .bind (R := fun _ => False) (.throw trivial) fun _ => .pure fun h => h.elim
      · exact .pure fun hy hx => hy (hx x rfl)
  | constant node hparam values =>
    refine (constant_obeys (.effect node hparam values) (bounded_readable ?_)).mono fun y hy => hy.2
    exact fun hmat => absurd hmat (by decide)

/-! ### Steps -/

/-- The session obeys the law, and as long as its constants are at most `N` numbers, all code that was compiled or put
into passes reads the numbers below. -/
structure Bounded (p : Prepared) (r : Routes) (env : Environment) (N : Nat) (g : PlanStage) : Prop where
  session : (bounded p r env N).Inv g.state.session
  compiled : g.state.session.params.length ≤ N → ∀ x ∈ g.compiled, x.2.code.ReadsIn (Filled N)
  passes : g.state.session.params.length ≤ N → ∀ q ∈ g.state.plan.passes, ∀ m, q.shader = .generated m →
    ∀ e ∈ m.codes, e.ReadsIn (Filled N)

theorem Plans.readsIn {c : PlanContext} {session : Session} {compiled : List (SessionM ShaderExpr × ShaderExpr)}
    {q : Pass}
    (hq : c.Plans session compiled q) {S : Nat → Prop} (h : ∀ x ∈ compiled, x.2.code.ReadsIn S) {m : ShaderModule}
    (hm : q.shader = .generated m) : ∀ e ∈ m.codes, e.ReadsIn S := by
  cases hq with
  | clear hshader => cases hshader.symm.trans hm
  | effect hbody =>
    cases hm
    intro e he
    rcases List.mem_cons.1 he with rfl | he
    · exact readsIn_identity
    · obtain ⟨s, hs, rfl⟩ := List.mem_map.1 he
      exact hbody.readsIn h s hs
  | draw _ hcolor htransform _ hshader =>
    cases hshader.symm.trans hm
    simp only [ShaderModule.codes, vertexProgram_transform, List.map_cons, List.map_nil, ShaderStatement.code,
      List.forall_mem_cons]
    exact ⟨h _ htransform, h _ hcolor, List.forall_mem_nil _⟩

theorem Step.stays_bounded {g g' : PlanStage} (h : (p.context r env).Step g g') (hg : Bounded p r env N g) :
    Bounded p r env N g' := by
  -- Steps that leave the session and the passes alone.
  have hkeep : ∀ {st : PlanState}, st.session = g.state.session → st.plan.passes = g.state.plan.passes →
      Bounded p r env N { g with state := st } := by
    intro st hsession hpasses
    exact ⟨hsession ▸ hg.session, hsession ▸ hg.compiled, hsession ▸ hpasses ▸ hg.passes⟩
  cases h with
  | compile hx hrun =>
    obtain ⟨hinv, hrel, hout⟩ := hx.obeys (N := N) _ hg.session
    unfold Yields at hrun
    rw [hrun] at hinv hrel hout
    exact ⟨hinv, fun hfine => List.forall_mem_cons.2 ⟨hout hfine, hg.compiled (hrel.trans hfine)⟩,
      fun hfine => hg.passes (hrel.trans hfine)⟩
  | report =>
    have hquiet : ∀ entry, g.state.session.Quiet (g.state.session.report entry) := fun _ => ⟨rfl, rfl, rfl, rfl⟩
    exact ⟨((bounded p r env N).quiet hg.session (hquiet _)).1, hg.compiled, hg.passes⟩
  | texture _ hplan =>
    rcases Plan.declareTexture_eq_ok hplan with ⟨_, _, _, rfl⟩ | ⟨_, rfl⟩ <;> exact hkeep rfl rfl
  | upload _ _ hbuffer htexture =>
    rcases Plan.declareBuffer_eq_ok hbuffer with ⟨_, _, _, rfl⟩ | ⟨_, rfl⟩ <;>
      rcases Plan.declareTexture_eq_ok htexture with ⟨_, _, _, rfl⟩ | ⟨_, rfl⟩ <;> exact hkeep rfl rfl
  | buffer hplan => rcases Plan.declareBuffer_eq_ok hplan with ⟨_, _, _, rfl⟩ | ⟨_, rfl⟩ <;> exact hkeep rfl rfl
  | sampler hplan => rcases Plan.declareSampler_eq_ok hplan with ⟨_, rfl⟩ | ⟨_, rfl⟩ <;> exact hkeep rfl rfl
  | mark | shown | params => exact hkeep rfl rfl
  | pass hq =>
    refine ⟨hg.session, hg.compiled, fun hfine q hmem m hm => ?_⟩
    rcases List.mem_append.1 hmem with hmem | hmem
    · exact hg.passes hfine q hmem m hm
    · obtain rfl := List.mem_singleton.1 hmem
      exact hq.readsIn (hg.compiled hfine) hm

/-- All slots that the passes of a plan read are in its buffer. -/
theorem build_bounded {plan : Plan} (h : (p.context r env).build.outcome.1 = .ok plan) :
    ∀ q ∈ plan.passes, ∀ m, q.shader = .generated m → ∀ e ∈ m.codes, e.ReadsIn (Filled plan.params.length) := by
  obtain ⟨g, rfl, hsteps, hparams⟩ := stages_of_build h
  -- The bound is the number of constants in the end.
  have hstart : Bounded p r env g.state.session.params.length ⟨{ plan := (p.context r env).emptyPlan }, []⟩ :=
    ⟨⟨⟨[], .empty, by simp⟩, by simp⟩, by simp, by simp [emptyPlan]⟩
  have hend := hsteps.preserves (I := Bounded p r env g.state.session.params.length)
    (fun _ _ hstep hg => hstep.stays_bounded hg) hstart
  intro q hq m hm e he i hi
  have hfilled := hend.passes (Nat.le_refl _) q hq m hm e he i hi
  unfold Filled at hfilled ⊢
  rw [hparams, paramsOf, List.length_append]
  omega

end PlanContext

/-! ## Sessions and plans -/

/-- The text of the function has the name of the constants somewhere. The text is searched, not read, so the name counts
in a comment and as a part of a longer name. -/
def HelperFunction.namesParams (f : HelperFunction) : Bool := Text.contains f.source "params"

theorem CompileNode.flipHelper_namesParams : flipHelper.namesParams = false := by decide +kernel

/-- Constants are kept whatever is called on a session: the buffer consists of whole slots, different keys have ranges
apart from each other, and the range of a key holds the numbers of its first call, filled up with zeros, ever after. In
every plan the programs of the passes read slots of the buffer only, and no function but those of snippets names it. -/
theorem Prepared.slots_sound (p : Prepared) :
    (∀ (registry : Registry) (accepts : String → Bool) (calls : List SessionCall),
      ExprContext.KeepsConstants ⟨p, registry, accepts⟩ calls) ∧
    ∀ (r : Routes) (env : Environment) (plan : Plan), (p.context r env).build.outcome.1 = .ok plan →
      ∀ q ∈ plan.passes, ∀ m, q.shader = .generated m →
        (∀ e ∈ m.codes, ∀ k ∈ e.slots, 4 * k + 3 < plan.params.length) ∧
        ∀ f ∈ m.helpers, f.namesParams = true → p.IsSnippet f := by
  refine ⟨fun registry accepts calls => ExprContext.keepsConstants _ calls, fun r env plan h q hq m hm => ⟨?_, ?_⟩⟩
  · exact PlanContext.build_bounded h q hq m hm
  · intro f hf hnames
    refine (((PlanContext.build_timed h).passes q hq).helpers m hm f hf).isSnippet_of_ne ?_
    rintro rfl
    exact absurd hnames (Bool.eq_false_iff.1 CompileNode.flipHelper_namesParams)

/-- A pass under a transform, in the brightness of the clock. -/
def Scene.turned : Scene where
  nodes := [{ id := "screen", type := "Screen" }, { id := "clock", type := "Time" },
    { id := "shape", type := "RenderPass", params := [("transform", .list (List.replicate 16 (.num 1)))] }]
  connections := [{ id := "a", source := ⟨"clock", "time"⟩, target := ⟨"shape", "color"⟩ },
    { id := "b", source := ⟨"shape", "pass"⟩, target := ⟨"screen", "pass"⟩ }]
  outputs := [("main", "screen")]

theorem Scene.turned_checks : (Scene.turned.planned? Schema.builtin {} {}).any (fun (_, _, plan) =>
    plan.passes.any fun q => match q.shader with
      | .generated m => decide (m.codes.map Code.slots = [[1, 2, 3, 4], [0]])
      | _ => false) = true := by
  rw [Scene.planned?_builtin]
  decide +kernel

/-- The pass reads the speed of the clock and the four slots of the matrix; and a constant keeps its first number in a
session where an output is missing and the constant is stored again. -/
theorem Scene.turned_slots : ∃ p r plan q m, (p.context r {}).build.outcome.1 = .ok plan ∧ q ∈ plan.passes ∧
    q.shader = .generated m ∧ (∃ e ∈ m.codes, e.slots = [1, 2, 3, 4]) ∧
    (∀ e ∈ m.codes, ∀ k ∈ e.slots, 4 * k + 3 < plan.params.length) ∧
    ∀ later, ((ExprContext.after ⟨p, Registry.builtin, Wgsl.accepts⟩
      ([.slot ⟨"a", "x"⟩ [1], .compile ⟨"ghost", "value"⟩,
      .slot ⟨"a", "x"⟩ [2]] ++ later)).params.drop 0).take 4 = Session.padded [1] := by
  obtain ⟨⟨p, r, plan⟩, hplanned, hchecks⟩ := (Option.any_eq_true _ _).1 Scene.turned_checks
  have hbuild := ((Scene.planned?_eq_some _ _ _ _ _ _ _).1 hplanned).build
  obtain ⟨q, hq, hcodes⟩ := List.any_eq_true.1 hchecks
  obtain ⟨hkeeps, hbounds⟩ := Prepared.slots_sound p
  split at hcodes
  · rename_i m hm
    have hcodes := of_decide_eq_true hcodes
    obtain ⟨e, he, hslots⟩ := List.mem_map.1 (hcodes ▸ List.mem_cons_self : [1, 2, 3, 4] ∈ m.codes.map Code.slots)
    refine ⟨p, r, plan, q, m, hbuild, hq, hm, ⟨e, he, hslots⟩, (hbounds r {} plan hbuild q hq m hm).1, fun later => ?_⟩
    have hfirst : ∀ calls, ExprContext.FirstCall ⟨p, Registry.builtin, Wgsl.accepts⟩
        (.slot ⟨"a", "x"⟩ [1] :: calls) ⟨"a", "x"⟩ [1] := fun calls => ⟨[], _, calls, rfl, rfl, rfl, .slot⟩
    -- The constant comes first, so its slot is known after its call.
    obtain ⟨hslot, -⟩ := (hkeeps Registry.builtin Wgsl.accepts [.slot ⟨"a", "x"⟩ [1]]).kept _ _ 0 (hfirst []) rfl
      [.compile ⟨"ghost", "value"⟩, .slot ⟨"a", "x"⟩ [2]]
    exact ((hkeeps Registry.builtin Wgsl.accepts _).kept _ _ 0 (hfirst _) hslot later).2
  · cases hcodes

end SceneGraph
