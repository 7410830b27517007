import SceneGraph.Proofs.Edits

/-!
# Baking edited scenes

Baking two scenes that are one edit apart gives results of the same forms and sizes. The number of
instances of a grid is a value, so the nodes upstream of grids have to be the same in both scenes; the
values of these nodes are the same too.

* `Baked.Alike`: baked results of one form and size.
* `Scene.Frozen`: an edit that leaves the nodes upstream of grids alone.
* `Bake.constants_alike`: the results of both scenes are alike.
-/
set_option autoImplicit false

namespace SceneGraph

/-- Baked results of one form and size. -/
inductive Baked.Alike : Baked → Baked → Prop where
  | value (xs ys : List Float) (h : xs.length = ys.length) : Alike (.value xs) (.value ys)
  | mesh (g g' : Mesh) (h : g.vertices.length = g'.vertices.length) : Alike (.mesh g) (.mesh g')
  | instances (os os' : List Offset) (h : os.length = os'.length) : Alike (.instances os) (.instances os')
  | pixels (i : Image) : Alike (.pixels i) (.pixels i)

theorem Baked.Alike.kind {b b' : Baked} (h : b.Alike b') : b.kind = b'.kind := by
  cases h <;> rfl

/-- Two scenes one edit apart. A set of nodes that no edit touches holds all grids and everything upstream of
its nodes. -/
structure Scene.Frozen (s t : Scene) (frozen : String → Prop) : Prop where
  edited : s.Edited t
  same : ∀ id, frozen id → s.indexed? id = t.indexed? id
  grids : ∀ id n, s.indexed? id = some n → n.type = "Instances" → frozen id
  upstream : ∀ c ∈ s.connections, frozen c.target.node → (∃ n, s.indexed? c.source.node = some n) →
    frozen c.source.node

namespace Bake

/-- Entries under one key of a node: they are alike, and for the frozen nodes their values are the same. -/
structure EntryAlike (s : Scene) (frozen : String → Prop) (e e' : BakeKey × Baked) : Prop where
  key : e.1 = e'.1
  alike : e.2.Alike e'.2
  node : ∃ n, s.indexed? e.1.node = some n
  same : frozen e.1.node → e.1.kind = .value → e.2 = e'.2

/-- Maps with alike entries under the same keys. -/
def MapAlike (s : Scene) (frozen : String → Prop) (m m' : BakedMap) : Prop :=
  List.Forall₂ (EntryAlike s frozen) m m'

variable {s t : Scene} {frozen : String → Prop} {m m' : BakedMap} {n n' : Node}

/-! ## Reading and writing baked results -/

theorem MapAlike.put {node port : String} {b b' : Baked} (h : MapAlike s frozen m m') (hb : b.Alike b')
    (hnode : ∃ n, s.indexed? node = some n) (hsame : frozen node → b.kind = .value → b = b') :
    MapAlike s frozen (m.put node port b) (m'.put node port b') := by
  have hkey : (⟨node, port, b'.kind⟩ : BakeKey) = ⟨node, port, b.kind⟩ := by rw [hb.kind]
  have hentry : EntryAlike s frozen (⟨node, port, b.kind⟩, b) (⟨node, port, b.kind⟩, b') := ⟨rfl, hb, hnode, hsame⟩
  have hany : (m.any fun e => e.1 = ⟨node, port, b.kind⟩) = m'.any fun e => e.1 = ⟨node, port, b.kind⟩ := by
    clear hentry hb hsame hkey
    induction h with
    | nil => rfl
    | cons he _ ih => rw [List.any_cons, List.any_cons, ih, he.key]
  simp only [BakedMap.put, hkey, hany]
  split
  · refine forall₂_map h fun e e' he => ?_
    simp only [he.key]
    split
    · exact hentry
    · exact he
  · exact forall₂_append h (.cons hentry .nil)

theorem MapAlike.get? (h : MapAlike s frozen m m') (key : BakeKey) :
    Option.Rel (fun b b' => b.Alike b' ∧ (∃ n, s.indexed? key.node = some n) ∧
      (frozen key.node → key.kind = .value → b = b')) (m.get? key) (m'.get? key) := by
  have hfind := find?_rel (p := fun e => e.1 = key) (q := fun e => e.1 = key) h fun e e' he => by rw [he.key]
  unfold BakedMap.get?
  cases hm : m.find? fun e => e.1 = key with
  | none =>
    rw [hm] at hfind
    generalize hm' : (m'.find? fun e => e.1 = key) = found at hfind
    cases hfind
    exact .none
  | some e =>
    have hkey : e.1 = key := by simpa using List.find?_some hm
    rw [hm] at hfind
    generalize hm' : (m'.find? fun e => e.1 = key) = found at hfind
    cases hfind with
    | some he =>
      subst hkey
      exact .some ⟨he.alike, he.node, he.same⟩

theorem MapAlike.value? (h : MapAlike s frozen m m') (e : Endpoint) :
    Option.Rel (fun xs ys => xs.length = ys.length ∧ (∃ n, s.indexed? e.node = some n) ∧ (frozen e.node → xs = ys))
      (m.value? e) (m'.value? e) := by
  have hget := h.get? ⟨e.node, e.port, .value⟩
  unfold BakedMap.value?
  generalize m.get? ⟨e.node, e.port, .value⟩ = b? at hget
  generalize m'.get? ⟨e.node, e.port, .value⟩ = b?' at hget
  cases hget with
  | none => exact .none
  | some hb =>
    obtain ⟨halike, hnode, hsame⟩ := hb
    cases halike with
    | value xs ys hlen => exact .some ⟨hlen, hnode, fun hf => Baked.value.inj (hsame hf rfl)⟩
    | mesh => exact .none
    | instances => exact .none
    | pixels => exact .none

theorem MapAlike.mesh? (h : MapAlike s frozen m m') (e : Endpoint) :
    Option.Rel (fun g g' => g.vertices.length = g'.vertices.length) (m.mesh? e) (m'.mesh? e) := by
  have hget := h.get? ⟨e.node, e.port, .vertices⟩
  unfold BakedMap.mesh?
  generalize m.get? ⟨e.node, e.port, .vertices⟩ = b? at hget
  generalize m'.get? ⟨e.node, e.port, .vertices⟩ = b?' at hget
  cases hget with
  | none => exact .none
  | some hb =>
    cases hb.1 with
    | value => exact .none
    | mesh g g' hlen => exact .some hlen
    | instances => exact .none
    | pixels => exact .none

theorem MapAlike.instances? (h : MapAlike s frozen m m') (e : Endpoint) :
    Option.Rel (fun os os' => os.length = os'.length) (m.instances? e) (m'.instances? e) := by
  have hget := h.get? ⟨e.node, e.port, .instances⟩
  unfold BakedMap.instances?
  generalize m.get? ⟨e.node, e.port, .instances⟩ = b? at hget
  generalize m'.get? ⟨e.node, e.port, .instances⟩ = b?' at hget
  cases hget with
  | none => exact .none
  | some hb =>
    cases hb.1 with
    | value => exact .none
    | mesh => exact .none
    | instances os os' hlen => exact .some hlen
    | pixels => exact .none

theorem MapAlike.pixels? (h : MapAlike s frozen m m') (e : Endpoint) : m.pixels? e = m'.pixels? e := by
  have hget := h.get? ⟨e.node, e.port, .pixels⟩
  unfold BakedMap.pixels?
  generalize m.get? ⟨e.node, e.port, .pixels⟩ = b? at hget
  generalize m'.get? ⟨e.node, e.port, .pixels⟩ = b?' at hget
  cases hget with
  | none => rfl
  | some hb => cases hb.1 <;> rfl

/-! ## Inputs -/

theorem wired_alike (h : s.Edited t) (hm : MapAlike s frozen m m') (id : String) (ports : List String) :
    Option.Rel (Option.Rel fun xs ys => xs.length = ys.length) (wired s m id ports) (wired t m' id ports) := by
  unfold wired
  rw [h.inputAt?]
  cases t.inputAt? id ports with
  | none => exact .none
  | some c =>
    refine .some ?_
    have hvalue := hm.value? c.source
    simp only
    generalize m.value? c.source = xs? at hvalue
    generalize m'.value? c.source = ys? at hvalue
    cases hvalue with
    | none => exact .none
    | some hxy => exact .some hxy.1

theorem wired_eq (h : s.Frozen t frozen) (hm : MapAlike s frozen m m') {id : String} (hid : frozen id)
    (ports : List String) : wired s m id ports = wired t m' id ports := by
  unfold wired
  rw [← h.edited.inputAt?]
  cases hc : s.inputAt? id ports with
  | none => rfl
  | some c =>
    obtain ⟨port, _, hport⟩ := List.exists_of_findSome?_eq_some hc
    have hmem : c ∈ s.connections := List.mem_of_find?_eq_some hport
    have htarget : c.target.node = id := by
      have hfound := List.find?_some hport
      simp only [Bool.and_eq_true, beq_iff_eq] at hfound
      exact hfound.1
    have hvalue := hm.value? c.source
    simp only [Option.map_some, Option.some.injEq]
    generalize m.value? c.source = xs? at hvalue
    generalize m'.value? c.source = ys? at hvalue
    cases hvalue with
    | none => rfl
    | some hxy =>
      obtain ⟨_, hnode, hsame⟩ := hxy
      rw [hsame (h.upstream c hmem (by rwa [htarget]) hnode)]

theorem input_eq (h : s.Frozen t frozen) (hm : MapAlike s frozen m m') (hn : frozen n.id) (port : String)
    (default : List Float) : input s m n port default = input t m' n port default := by
  unfold input
  rw [wired_eq h hm hn]

theorem scalar_eq (h : s.Frozen t frozen) (hm : MapAlike s frozen m m') (hn : frozen n.id) (port : String)
    (default : Float) : scalar s m n port default = scalar t m' n port default := by
  unfold scalar
  rw [input_eq h hm hn]

/-- Both runs go on, whatever number they read. -/
theorem anyway {α β : Type} {x : Result α} {y : Result β} : Agree (fun _ _ => True) x y :=
  fun _ _ _ _ => trivial

/-! ## Shapes -/

theorem length_rectMesh (w h : Float) (center : Float × Float) : (rectMesh w h center).vertices.length = 6 := rfl

theorem length_discMesh (r : Float) (center : Float × Float) (segments : Nat) :
    (discMesh r center segments).vertices.length = segments * 3 := by
  unfold discMesh
  simp [List.length_flatMap]

theorem geometry_alike (h : s.Edited t) (hm : MapAlike s frozen m m') (hn : n.Edited n') :
    Agree (Option.Rel fun g g' => g.1 = g'.1 ∧ g.2.vertices.length = g'.2.vertices.length)
      (geometry s m n) (geometry t m' n') := by
  unfold geometry
  rw [h.inputAt?, hn.id]
  cases t.inputAt? n'.id ["geometry"] with
  | none => exact .ok .none
  | some c =>
    have hmesh := hm.mesh? c.source
    simp only
    generalize m.mesh? c.source = g? at hmesh
    generalize m'.mesh? c.source = g?' at hmesh
    cases hmesh with
    | none => exact .error_left
    | some hlen => exact .ok (.some ⟨rfl, hlen⟩)

theorem put_mesh (hm : MapAlike s frozen m m') (hn : n.Edited n') (hnode : ∃ k, s.indexed? n.id = some k)
    {g g' : Mesh} (hlen : g.vertices.length = g'.vertices.length) :
    MapAlike s frozen (m.put n.id "geometry" (.mesh g)) (m'.put n'.id "geometry" (.mesh g')) := by
  rw [← hn.id]
  exact hm.put (.mesh _ _ hlen) hnode (fun _ hkind => by cases hkind)

theorem put_instances (hm : MapAlike s frozen m m') (hn : n.Edited n') (hnode : ∃ k, s.indexed? n.id = some k)
    {os os' : List Offset} (hlen : os.length = os'.length) :
    MapAlike s frozen (m.put n.id "geometry" (.instances os)) (m'.put n'.id "geometry" (.instances os')) := by
  rw [← hn.id]
  exact hm.put (.instances _ _ hlen) hnode (fun _ hkind => by cases hkind)

theorem rect_alike (hm : MapAlike s frozen m m') (hn : n.Edited n') (hnode : ∃ k, s.indexed? n.id = some k) :
    Agree (MapAlike s frozen) (rect s m n) (rect t m' n') := by
  unfold rect
  refine anyway.bind fun w w' _ => anyway.bind fun h h' _ => anyway.bind fun c c' _ => .ok (put_mesh hm hn hnode ?_)
  rw [length_rectMesh, length_rectMesh]

theorem disc_alike (hm : MapAlike s frozen m m') (hn : n.Edited n') (hnode : ∃ k, s.indexed? n.id = some k)
    (htype : n.type = "Circle") : Agree (MapAlike s frozen) (disc s m n) (disc t m' n') := by
  have hfree : Node.constantKeys n.type = [] := by
    rw [htype]
    rfl
  have hkey : "segments" ∉ Node.constantKeys n.type := by simp [hfree]
  unfold disc
  rw [hn.intOr hkey]
  refine anyway.bind fun r r' _ => anyway.bind fun c c' _ => ?_
  generalize max (n'.intOr "segments" 32) 3 = segments
  by_cases hlarge : isUnstorable 12 segments = true
  · simp only [if_pos hlarge]
    exact .error_left
  · simp only [if_neg hlarge]
    refine .ok (put_mesh hm hn hnode ?_)
    rw [length_discMesh, length_discMesh]

theorem transform_alike (h : s.Edited t) (hm : MapAlike s frozen m m') (hn : n.Edited n')
    (hnode : ∃ k, s.indexed? n.id = some k) : Agree (MapAlike s frozen) (transform s m n) (transform t m' n') := by
  unfold transform
  refine (geometry_alike h hm hn).bind fun g? g?' hg => ?_
  cases hg with
  | none => exact .error_left
  | @some g g' hg =>
    obtain ⟨source, g⟩ := g
    obtain ⟨source', g'⟩ := g'
    obtain ⟨rfl, hlen⟩ := hg
    refine anyway.bind fun shift shift' _ => anyway.bind fun scale scale' _ => anyway.bind fun a a' _ => ?_
    generalize Elementary.sineCosine a = turn
    generalize Elementary.sineCosine a' = turn'
    obtain ⟨sin, cos⟩ := turn
    obtain ⟨sin', cos'⟩ := turn'
    have hlen' : (Movement.mesh ⟨shift, scale, sin, cos⟩ g).vertices.length =
        (Movement.mesh ⟨shift', scale', sin', cos'⟩ g').vertices.length := by simpa [Movement.mesh] using hlen
    have hout := put_mesh hm hn hnode hlen'
    have hinst := hout.instances? source
    simp only
    generalize BakedMap.instances? _ source = os? at hinst ⊢
    generalize BakedMap.instances? _ source = os?' at hinst ⊢
    cases hinst with
    | none => exact .ok hout
    | some hos => exact .ok (put_instances hout hn hnode (by simpa using hos))

theorem length_gridOffsets (count columns : Int) (spacing : Float × Float) :
    (gridOffsets count columns spacing).length = count.toNat := by
  unfold gridOffsets gridPlaces
  simp

theorem instances_alike (h : s.Frozen t frozen) (hm : MapAlike s frozen m m') (hnode : ∃ k, s.indexed? n.id = some k)
    (hfrozen : frozen n.id) : Agree (MapAlike s frozen) (instances s m n) (instances t m' n) := by
  unfold instances
  rw [← scalar_eq h hm hfrozen "count" 1]
  refine (geometry_alike h.edited hm (.refl n)).bind fun g? g?' hg => ?_
  refine (Agree.of_eq rfl).bind fun count _ hcount => ?_
  subst hcount
  refine anyway.bind fun columns columns' _ => anyway.bind fun spacing spacing' _ => ?_
  have hlen : (gridOffsets (toInt64 count) (toInt64 columns) spacing).length =
      (gridOffsets (toInt64 count) (toInt64 columns') spacing').length := by
    rw [length_gridOffsets, length_gridOffsets]
  by_cases hempty : (count < 1 || columns < 1) = true
  · rw [if_pos hempty]
    exact .error_left
  by_cases hempty' : (count < 1 || columns' < 1) = true
  · rw [if_pos hempty']
    exact .error_right
  by_cases hlarge : isUnstorable 2 (toInt64 count) = true
  · rw [if_neg hempty, if_pos hlarge]
    exact .error_left
  rw [if_neg hempty, if_neg hempty', if_neg hlarge, if_neg hlarge]
  refine .ok (put_instances (put_mesh hm (.refl n) hnode ?_) (.refl n) hnode hlen)
  cases hg with
  | none => rfl
  | some hg => exact hg.2

/-! ## Folded values -/

theorem broadcast_length (f : Float → Float → Float) (a b : List Float) :
    (Fold.broadcast f a b).map List.length =
      if a.length = 1 then if b.length = 0 then none else some b.length
      else if b.length = 1 then if a.length = 0 then none else some a.length
      else if a.length = b.length then some a.length else none := by
  have hone : ∀ {xs : List Float}, (∀ x, xs = [x] → False) → xs.length ≠ 1 := by
    intro xs hsingle hlen
    obtain ⟨x, hx⟩ := List.length_eq_one_iff.1 hlen
    exact hsingle x hx
  unfold Fold.broadcast
  split
  · cases b <;> simp
  · rename_i hleft
    rw [if_neg (hone hleft)]
    cases a <;> simp
  · rename_i hleft hright
    rw [if_neg (hone hleft), if_neg (hone hright)]
    split <;> simp_all

theorem broadcast_alike (f : Float → Float → Float) {a a' b b' : List Float} (ha : a.length = a'.length)
    (hb : b.length = b'.length) :
    Option.Rel (fun xs ys => xs.length = ys.length) (Fold.broadcast f a b) (Fold.broadcast f a' b') :=
  rel_of_map_eq (by rw [broadcast_length, broadcast_length, ha, hb])

theorem length_single (x y : Float) : [x].length = [y].length := rfl

theorem unary?_alike {type : String} {f : List Float → List Float} (h : Fold.unary? type = some f)
    {xs ys : List Float} (hlen : xs.length = ys.length) : (f xs).length = (f ys).length := by
  unfold Fold.unary? at h
  split at h <;> cases h <;> simp [hlen]

theorem binary?_alike {type : String} {f : List Float → List Float → Option (List Float)}
    (h : Fold.binary? type = some f) {a a' b b' : List Float} (ha : a.length = a'.length) (hb : b.length = b'.length) :
    Option.Rel (fun xs ys => xs.length = ys.length) (f a b) (f a' b') := by
  have hstretch := fun g => broadcast_alike g ha hb
  unfold Fold.binary? at h
  split at h
  case h_11 =>
    cases h
    simp only [ha, hb]
    split
    · exact .some (length_single _ _)
    · exact .none
  case h_12 =>
    cases h
    exact rel_map (hstretch _) fun _ _ _ => length_single _ _
  all_goals cases h <;> exact hstretch _

theorem replaceComponents_alike (h : s.Edited t) (hm : MapAlike s frozen m m') (id : String) (names : List String)
    {xs ys : List Float} (hlen : xs.length = ys.length) :
    Option.Rel (fun xs ys => xs.length = ys.length) (replaceComponents s m id names xs)
      (replaceComponents t m' id names ys) := by
  induction names generalizing xs ys with
  | nil => exact .some hlen
  | cons name names ih =>
    cases xs with
    | nil =>
      obtain rfl := List.length_eq_zero_iff.1 hlen.symm
      exact .some rfl
    | cons x xs =>
      obtain ⟨y, ys, rfl⟩ := List.exists_cons_of_length_eq_add_one hlen.symm
      have hrest : xs.length = ys.length := by simpa using hlen
      have hput : ∀ a b : Float, Option.Rel (fun xs ys => xs.length = ys.length)
          (do let zs ← replaceComponents s m id names xs; return a :: zs)
          (do let zs ← replaceComponents t m' id names ys; return b :: zs) :=
        fun a b => rel_bind (ih hrest) fun _ _ hzs => .some (by simpa using hzs)
      unfold replaceComponents
      have hwired := wired_alike h hm id [name]
      generalize wired s m id [name] = a? at hwired
      generalize wired t m' id [name] = b? at hwired
      cases hwired with
      | none => exact hput x y
      | some hinner =>
        cases hinner with
        | none => exact .none
        | @some as bs hab =>
          cases as with
          | nil =>
            obtain rfl := List.length_eq_zero_iff.1 hab.symm
            exact .none
          | cons a as =>
            obtain ⟨b, bs, rfl⟩ := List.exists_cons_of_length_eq_add_one hab.symm
            exact hput a b

theorem replaceComponents_eq (h : s.Frozen t frozen) (hm : MapAlike s frozen m m') {id : String} (hid : frozen id)
    (names : List String) (xs : List Float) :
    replaceComponents s m id names xs = replaceComponents t m' id names xs := by
  induction names generalizing xs with
  | nil => rfl
  | cons name names ih =>
    cases xs with
    | nil => rfl
    | cons x xs =>
      unfold replaceComponents
      rw [wired_eq h hm hid, ih]

theorem fold_eq (h : s.Frozen t frozen) (hm : MapAlike s frozen m m') (hn : frozen n.id) :
    fold s m n = fold t m' n := by
  unfold fold
  simp only [wired_eq h hm hn, replaceComponents_eq h hm hn]

theorem bool?_alike (hn : n.Edited n') (key : String) :
    Option.Rel (fun _ _ => True) (n.bool? key) (n'.bool? key) := by
  unfold Node.bool?
  rcases hn.param key with heq | ⟨_, halike⟩
  · rw [heq]
    split
    · exact .some trivial
    · exact .some trivial
    · exact .none
  · generalize n.param key = v at halike
    generalize n'.param key = w at halike
    cases halike with
    | num => exact .some trivial
    | bool => exact .some trivial
    | list => exact .none

/-- A folded value: the port that carries it, and its numbers. -/
def FoldAlike (r r' : String × List Float) : Prop := r.1 = r'.1 ∧ r.2.length = r'.2.length

theorem wired_bind (h : s.Edited t) (hm : MapAlike s frozen m m') (id : String) (ports : List String)
    {f g : List Float → Option (String × List Float)}
    (hfg : ∀ xs ys, xs.length = ys.length → Option.Rel FoldAlike (f xs) (g ys)) :
    Option.Rel FoldAlike (do let xs ← (← wired s m id ports); f xs) (do let xs ← (← wired t m' id ports); g xs) :=
  rel_bind (wired_alike h hm id ports) fun _ _ hinner => rel_bind hinner hfg

theorem fold_alike (h : s.Edited t) (hm : MapAlike s frozen m m') (hn : n.Edited n') :
    Option.Rel FoldAlike (fold s m n) (fold t m' n') := by
  have hpair : ∀ (port : String) (xs ys : List Float), xs.length = ys.length → FoldAlike (port, xs) (port, ys) :=
    fun _ _ _ hlen => ⟨rfl, hlen⟩
  have hvalue := fun port => rel_map (hn.floats? "value") (hpair port)
  have hvector : Option.Rel FoldAlike
      (do let xs ← n.floats? "value"; let ys ← replaceComponents s m n.id componentNames xs; return ("value", ys))
      (do let xs ← n'.floats? "value"; let ys ← replaceComponents t m' n.id componentNames xs; return ("value", ys)) :=
    rel_bind (hn.floats? "value") fun _ _ hxs =>
      rel_bind (replaceComponents_alike h hm n.id componentNames hxs) fun _ _ hys => .some (hpair _ _ _ hys)
  unfold fold
  rw [← hn.type, ← hn.id]
  split
  · exact hvalue _
  · exact hvalue _
  · exact hvalue _
  · exact rel_map (bool?_alike hn "value") fun _ _ _ => ⟨rfl, length_single _ _⟩
  · exact hvalue _
  · exact hvector
  · exact hvector
  · exact hvector
  · exact wired_bind h hm n.id _ fun _ _ hlen => .some (hpair _ _ _ hlen)
  · rename_i htype
    have hkey : "size" ∉ Node.constantKeys n.type := by
      rw [htype]
      decide
    rw [hn.intOr hkey]
    exact rel_bind (replaceComponents_alike h hm n.id _ rfl) fun _ _ hys => .some (hpair _ _ _ hys)
  · split
    · rename_i f hf
      exact wired_bind h hm n.id _ fun _ _ hlen => .some (hpair _ _ _ (unary?_alike hf hlen))
    · split
      · rename_i f hf
        refine wired_bind h hm n.id _ fun _ _ ha => wired_bind h hm n.id _ fun _ _ hb => ?_
        exact rel_bind (binary?_alike hf ha hb) fun _ _ hlen => .some (hpair _ _ _ hlen)
      · exact .none

/-! ## Nodes -/

theorem put_value (hm : MapAlike s frozen m m') (hn : n.Edited n') (hnode : ∃ k, s.indexed? n.id = some k)
    (port : String) {xs ys : List Float} (hlen : xs.length = ys.length) (hsame : frozen n.id → xs = ys) :
    MapAlike s frozen (m.put n.id port (.value xs)) (m'.put n'.id port (.value ys)) := by
  rw [← hn.id]
  exact hm.put (.value _ _ hlen) hnode fun hf _ => by rw [hsame hf]

theorem put_components (hm : MapAlike s frozen m m') (hn : n.Edited n') (hnode : ∃ k, s.indexed? n.id = some k)
    (names : List String) {xs ys : List Float} (hlen : xs.length = ys.length) (hsame : frozen n.id → xs = ys) :
    MapAlike s frozen ((names.zip xs).foldl (fun m c => m.put n.id c.1 (.value [c.2])) m)
      ((names.zip ys).foldl (fun m c => m.put n'.id c.1 (.value [c.2])) m') := by
  induction names generalizing m m' xs ys with
  | nil => exact hm
  | cons name names ih =>
    cases xs with
    | nil =>
      obtain rfl := List.length_eq_zero_iff.1 hlen.symm
      exact hm
    | cons x xs =>
      obtain ⟨y, ys, rfl⟩ := List.exists_cons_of_length_eq_add_one hlen.symm
      rw [List.zip_cons_cons, List.zip_cons_cons, List.foldl_cons, List.foldl_cons]
      have hone : [x].length = [y].length := rfl
      have hput := put_value hm hn hnode name hone fun hf => by
        rw [(List.cons.inj (hsame hf)).1]
      exact ih hput (by simpa using hlen) fun hf => (List.cons.inj (hsame hf)).2

theorem value_alike (h : s.Frozen t frozen) (hm : MapAlike s frozen m m') (hn : n.Edited n')
    (hnode : ∃ k, s.indexed? n.id = some k) (hsame : frozen n.id → n = n') :
    MapAlike s frozen (value s m n) (value t m' n') := by
  have hfold := fold_alike h.edited hm hn
  have heq : frozen n.id → fold s m n = fold t m' n' := fun hf => hsame hf ▸ fold_eq h hm hf
  unfold value
  generalize fold s m n = r? at hfold heq
  generalize fold t m' n' = r?' at hfold heq
  cases hfold with
  | none => exact hm
  | @some r r' hr =>
    obtain ⟨port, xs⟩ := r
    obtain ⟨port', ys⟩ := r'
    obtain ⟨rfl, hlen⟩ := hr
    have hvalues : frozen n.id → xs = ys := fun hf => (Prod.mk.inj (Option.some.inj (heq hf))).2
    have hput := put_value hm hn hnode port hlen hvalues
    simp only [← hn.type]
    split
    · exact put_components hput hn hnode componentNames hlen hvalues
    · exact hput

theorem text_alike (face : Text.Face) (hm : MapAlike s frozen m m') (hn : n.Edited n')
    (hnode : ∃ k, s.indexed? n.id = some k) (htype : n.type = "Text") :
    Agree (MapAlike s frozen) (text face m n) (text face m' n') := by
  have hfree : Node.constantKeys n.type = [] := by
    rw [htype]
    rfl
  have hcolor : n.floats? "color" = n'.floats? "color" := by
    unfold Node.floats?
    rw [hn.param_eq (by simp [hfree])]
  unfold text colorParam
  rw [hn.stringOr, hcolor, hn.intOr (by simp [hfree]), ← hn.id]
  split
  · exact .ok (hm.put (.pixels _) hnode fun _ hkind => by cases hkind)
  · exact .error_left

theorem node_alike (face : Text.Face) (h : s.Frozen t frozen) (hm : MapAlike s frozen m m') (hn : n.Edited n')
    (hnode : s.indexed? n.id = some n) (hnode' : t.indexed? n.id = some n') :
    Agree (MapAlike s frozen) (node face s m n) (node face t m' n') := by
  have hsame : frozen n.id → n = n' := by
    intro hf
    have heq := h.same n.id hf
    rw [hnode, hnode'] at heq
    exact Option.some.inj heq
  unfold node
  rw [← hn.type]
  split
  · exact rect_alike hm hn ⟨n, hnode⟩
  · rename_i htype
    exact disc_alike hm hn ⟨n, hnode⟩ htype
  · exact transform_alike h.edited hm hn ⟨n, hnode⟩
  · rename_i htype
    have hf := h.grids n.id n hnode htype
    rw [← hsame hf]
    exact instances_alike h hm ⟨n, hnode⟩ hf
  · rename_i htype
    exact text_alike face hm hn ⟨n, hnode⟩ htype
  · exact .ok (value_alike h hm hn ⟨n, hnode⟩ hsame)

theorem nodes_alike (face : Text.Face) (h : s.Frozen t frozen) (order : List String)
    (hm : MapAlike s frozen m m') : Agree (MapAlike s frozen) (nodes face s order m) (nodes face t order m') := by
  induction order generalizing m m' with
  | nil => exact .ok hm
  | cons id rest ih =>
    unfold nodes
    have hfound := h.edited.indexed? id
    cases hs : s.indexed? id with
    | none =>
      rw [hs] at hfound
      generalize t.indexed? id = n? at hfound
      cases hfound
      exact ih hm
    | some n =>
      cases ht : t.indexed? id with
      | none =>
        rw [hs, ht] at hfound
        cases hfound
      | some n' =>
        rw [hs, ht] at hfound
        cases hfound with
        | some hn =>
          obtain ⟨rfl, _⟩ := Scene.indexed?_eq_some hs
          exact (node_alike face h hm hn hs ht).bind fun _ _ hm => ih hm

/-- Both scenes bake to results of the same forms and sizes. -/
theorem constants_alike (face : Text.Face) (h : s.Frozen t frozen) (order : List String) :
    Agree (MapAlike s frozen) (constants face s order) (constants face t order) :=
  nodes_alike face h order .nil

end Bake

end SceneGraph
