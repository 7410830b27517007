import SceneGraph.Proofs.Buffers
import SceneGraph.Proofs.Built
import SceneGraph.Proofs.Stream

/-!
# Lengths of buffers

The stream of a space holds neither the lengths of its buffers nor how much its passes draw. Where two
compiled scenes have one stream, their buffers have the same names, kinds and strides, and those that fill
textures have the same lengths. The others have the same lengths exactly if both scenes have equally many
constants and their passes draw equally many vertices and instances.

* `PassSpec.DrawsAlike`: two passes draw equally much from their buffers.
* `Compiler.same_lengths_iff`: the statement above.
* `Scene.gray_outgrown`: two scenes with one stream whose constants differ in number.
-/
set_option autoImplicit false

namespace SceneGraph

/-- Lengths that fit words are equal if the numbers of their items are equal as words. -/
theorem length_eq_iff_words {width m n length length' : Nat} (hwidth : 0 < width) (hm : length = width * m)
    (hn : length' = width * n) (hlt : length < 2 ^ 32) (hlt' : length' < 2 ^ 32) :
    length = length' ↔ m.toUInt32 = n.toUInt32 := by
  have hm_lt : m < 2 ^ 32 := (Nat.le_mul_of_pos_left m hwidth).trans_lt (hm ▸ hlt)
  have hn_lt : n < 2 ^ 32 := (Nat.le_mul_of_pos_left n hwidth).trans_lt (hn ▸ hlt')
  rw [hm, hn, Nat.mul_right_inj hwidth.ne', ← UInt32.toNat_inj, Nat.toUInt32_eq, Nat.toUInt32_eq,
    UInt32.toNat_ofNat_of_lt' hm_lt, UInt32.toNat_ofNat_of_lt' hn_lt]

/-- Lists with the same names in the same order are related item by item if items of one name are. -/
theorem forall₂_iff_of_nodup {α : Type} {R S : α → α → Prop} (name : α → String) {xs ys : List α}
    (h : List.Forall₂ R xs ys) (hname : ∀ x y, R x y → name x = name y) (hnodup : (xs.map name).Nodup) :
    List.Forall₂ S xs ys ↔ ∀ x ∈ xs, ∀ y ∈ ys, name x = name y → S x y := by
  induction h with
  | nil => simp
  | @cons x y xs ys hxy hrest ih =>
    obtain ⟨hfresh, hnodup⟩ := List.nodup_cons.1 hnodup
    have hnames : ys.map name = xs.map name := PlanContext.Forall₂_map_eq hrest fun a b hab => (hname a b hab).symm
    have hfresh' : name y ∉ ys.map name := by rwa [← hname x y hxy, hnames]
    rw [List.forall₂_cons, ih hnodup]
    constructor
    · rintro ⟨hS, hall⟩ a ha b hb hab
      rcases List.mem_cons.1 ha with rfl | ha <;> rcases List.mem_cons.1 hb with rfl | hb
      · exact hS
      · exact absurd (List.mem_map_of_mem hb) (hnames ▸ hab ▸ hfresh)
      · exact absurd (List.mem_map_of_mem ha) (hnames ▸ hab ▸ hfresh')
      · exact hall a ha b hb hab
    · intro hall
      exact ⟨hall x (by simp) y (by simp) (hname x y hxy),
        fun a ha b hb => hall a (List.mem_cons_of_mem x ha) b (List.mem_cons_of_mem y hb)⟩

/-! ## Lengths in one plan -/

namespace Plan

variable {p : Plan} {b : BufferDecl}

theorem Consistent.eq_of_buffer? (hp : p.Consistent) {b' : BufferDecl} (hb : b ∈ p.buffers)
    (hfind : p.buffer? b.name = some b') : b' = b := by
  have hname : b'.name = b.name := by simpa using List.find?_some hfind
  exact List.inj_on_of_nodup_map hp.buffers (List.mem_of_find?_eq_some hfind) hb hname

theorem Consistent.size_pixels (hp : p.Consistent) (hb : b ∈ p.buffers) (hne : b.name ≠ "") {t : TextureDecl}
    (ht : t ∈ p.textures) (hname : t.upload = b.name) : (b.data.size : Int) = 4 * t.size.width * t.size.height := by
  obtain ⟨b', hfind, _, hsize⟩ := hp.uploads t ht (hname ▸ hne)
  rw [hname] at hfind
  rw [← hp.eq_of_buffer? hb hfind, hsize]

theorem Consistent.size_vertices (hp : p.Consistent) (hb : b ∈ p.buffers) (hne : b.name ≠ "") {ps : Pass}
    (hps : ps ∈ p.passes) (hname : ps.vertexBuffer = b.name) :
    ∃ n, b.data.size = 16 * n ∧ ps.vertices = n.toUInt32 := by
  obtain ⟨b', n, hfind, _, hsize⟩ := (hp.passes ps hps).vertices (hname ▸ hne)
  rw [hname] at hfind
  exact ⟨n, hp.eq_of_buffer? hb hfind ▸ hsize⟩

theorem Consistent.size_instances (hp : p.Consistent) (hb : b ∈ p.buffers) (hne : b.name ≠ "") {ps : Pass}
    (hps : ps ∈ p.passes) (hname : ps.instanceBuffer = b.name) :
    ∃ n, b.data.size = 8 * n ∧ ps.instances = n.toUInt32 := by
  obtain ⟨b', n, hfind, _, hsize⟩ := (hp.passes ps hps).instances (hname ▸ hne)
  rw [hname] at hfind
  exact ⟨n, hp.eq_of_buffer? hb hfind ▸ hsize⟩

theorem Accounted.size_params (hp : p.Accounted) (hb : b ∈ p.buffers) (hkind : b.kind = .params) :
    b.data.size = 4 * p.params.length := by
  rcases hp.uses b hb with ⟨_, huses⟩ | ⟨_, hdata⟩
  · cases huses with
    | pixels _ _ _ hpixels => rw [hkind] at hpixels; cases hpixels
    | vertices _ _ _ hvertex => rw [hkind] at hvertex; cases hvertex
    | instances _ _ _ hinstances => rw [hkind] at hinstances; cases hinstances
  · rw [hdata, PlanContext.ofFloats_size]

theorem Accounted.isWord (hp : p.Accounted) (hb : b ∈ p.buffers) : b.kind.IsWord := by
  have hcases : b.kind = .pixels ∨ b.kind = .vertex ∨ b.kind = .instances ∨ b.kind = .params := by
    rcases hp.uses b hb with ⟨_, huses⟩ | ⟨hkind, _⟩
    · cases huses with
      | pixels _ _ _ hkind => exact .inl hkind
      | vertices _ _ _ hkind => exact .inr (.inl hkind)
      | instances _ _ _ hkind => exact .inr (.inr (.inl hkind))
    · exact .inr (.inr (.inr hkind))
  rcases hcases with h | h | h | h <;> rw [h] <;> unfold BufferKind.IsWord <;> decide

end Plan

/-! ## Lengths in two plans -/

/-- Two passes draw equally many vertices and instances from their buffers. -/
structure PassSpec.DrawsAlike (p q : PassSpec) : Prop where
  vertices : p.vertexBuffer ≠ "" → p.vertices = q.vertices
  instances : p.instanceBuffer ≠ "" → p.instances = q.instances

/-- Two buffers have the same name, kind and stride. -/
structure BufferSpec.Matches (b c : BufferSpec) : Prop where
  name : b.name = c.name
  kind : b.kind = c.kind
  stride : b.stride = c.stride

/-- What is known of a plan: it is consistent, its buffers are accounted for, and their lengths fit words. -/
structure Plan.Measured (p : Plan) : Prop extends p.Consistent where
  accounted : p.Accounted
  fitting : ∀ b ∈ p.buffers, b.data.size < 2 ^ 32

namespace Plan.Measured

variable {p q : Plan}

/-- The product of two numbers modulo a word depends on the numbers modulo a word only. -/
theorem emod_mul {a b c d : Int} (hac : Bytes.wordOf a = Bytes.wordOf c) (hbd : Bytes.wordOf b = Bytes.wordOf d) :
    (a * b) % 2 ^ 32 = (c * d) % 2 ^ 32 := by
  have hword : ∀ {x y : Int}, Bytes.wordOf x = Bytes.wordOf y → x % 2 ^ 32 = y % 2 ^ 32 := by
    intro x y hxy
    have hnat := congrArg UInt32.toNat hxy
    simp only [Bytes.wordOf, Nat.toUInt32_eq, UInt32.toNat_ofNat'] at hnat
    omega
  rw [Int.mul_emod, hword hac, hword hbd, ← Int.mul_emod]

theorem size_pixels_eq (hp : p.Measured) (hq : q.Measured) (h : (Space.assemble p).Agrees (Space.assemble q))
    {b b' : BufferDecl} (hb : b ∈ p.buffers) (hb' : b' ∈ q.buffers) (hname : b.name = b'.name) (hne : b.name ≠ "")
    {t : TextureDecl} (ht : t ∈ p.textures) (hupload : t.upload = b.name) : b.data.size = b'.data.size := by
  obtain ⟨_, hspec, hagrees⟩ := PlanContext.Forall₂_exists_of_mem h.textures (List.mem_map_of_mem ht)
  obtain ⟨u, hu, rfl⟩ := List.mem_map.1 hspec
  have hupload' : u.upload = b'.name := hagrees.upload.symm.trans (hupload.trans hname)
  have hsize := hp.size_pixels hb hne ht hupload
  have hsize' := hq.size_pixels hb' (hname ▸ hne) hu hupload'
  have hmod := emod_mul hagrees.width hagrees.height
  have hlt := hp.fitting b hb
  have hlt' := hq.fitting b' hb'
  rw [mul_assoc] at hsize hsize'
  omega

theorem pixels_eq (hp : p.Measured) (hq : q.Measured) (h : (Space.assemble p).Agrees (Space.assemble q)) :
    ∀ x ∈ (Space.assemble p).buffers, ∀ y ∈ (Space.assemble q).buffers, x.name = y.name → x.kind = .pixels →
      x.data.size = y.data.size := by
  intro x hx y hy hname hkind
  obtain ⟨b, hb, rfl⟩ := List.mem_map.1 hx
  obtain ⟨b', hb', rfl⟩ := List.mem_map.1 hy
  have hpixels : b.kind = .pixels := hkind
  rcases hp.accounted.uses b hb with ⟨hne, huses⟩ | ⟨hparam, _⟩
  · cases huses with
    | pixels t ht hupload _ => exact hp.size_pixels_eq hq h hb hb' hname hne ht hupload
    | vertices _ _ _ hvertex => rw [hpixels] at hvertex; cases hvertex
    | instances _ _ _ hinstances => rw [hpixels] at hinstances; cases hinstances
  · rw [hpixels] at hparam
    cases hparam

/-- Where the passes of two plans draw equally much and there are equally many constants, buffers of one name have
the same length. -/
theorem size_eq (hp : p.Measured) (hq : q.Measured) (h : (Space.assemble p).Agrees (Space.assemble q))
    (hparams : p.params.length = q.params.length)
    (hdraws : List.Forall₂ (fun ps qs => PassSpec.Agrees ps qs ∧ PassSpec.DrawsAlike ps qs) (Space.assemble p).passes
      (Space.assemble q).passes)
    {b b' : BufferDecl} (hb : b ∈ p.buffers) (hb' : b' ∈ q.buffers) (hname : b.name = b'.name)
    (hkind : b.kind = b'.kind) : b.data.size = b'.data.size := by
  have hlt := hp.fitting b hb
  have hlt' := hq.fitting b' hb'
  rcases hp.accounted.uses b hb with ⟨hne, huses⟩ | ⟨hparam, _⟩
  · cases huses with
    | pixels t ht hupload _ => exact hp.size_pixels_eq hq h hb hb' hname hne ht hupload
    | vertices ps hps hbuffer _ =>
      obtain ⟨_, hspec, hagrees, hdraws⟩ := PlanContext.Forall₂_exists_of_mem hdraws (List.mem_map_of_mem hps)
      obtain ⟨qs, hqs, rfl⟩ := List.mem_map.1 hspec
      obtain ⟨m, hsize, hcount⟩ := hp.size_vertices hb hne hps hbuffer
      obtain ⟨n, hsize', hcount'⟩ :=
        hq.size_vertices hb' (hname ▸ hne) hqs (hagrees.vertexBuffer.symm.trans (hbuffer.trans hname))
      rw [← hbuffer] at hne
      have hwords : m.toUInt32 = n.toUInt32 := hcount.symm.trans ((hdraws.vertices hne).trans hcount')
      exact (length_eq_iff_words (by decide) hsize hsize' hlt hlt').2 hwords
    | instances ps hps hbuffer _ =>
      obtain ⟨_, hspec, hagrees, hdraws⟩ := PlanContext.Forall₂_exists_of_mem hdraws (List.mem_map_of_mem hps)
      obtain ⟨qs, hqs, rfl⟩ := List.mem_map.1 hspec
      obtain ⟨m, hsize, hcount⟩ := hp.size_instances hb hne hps hbuffer
      obtain ⟨n, hsize', hcount'⟩ :=
        hq.size_instances hb' (hname ▸ hne) hqs (hagrees.instanceBuffer.symm.trans (hbuffer.trans hname))
      rw [← hbuffer] at hne
      have hwords : m.toUInt32 = n.toUInt32 := hcount.symm.trans ((hdraws.instances hne).trans hcount')
      exact (length_eq_iff_words (by decide) hsize hsize' hlt hlt').2 hwords
  · rw [hp.accounted.size_params hb hparam, hq.accounted.size_params hb' (hkind ▸ hparam), hparams]

/-- Where buffers of one name have the same length, there are equally many constants. -/
theorem params_eq (hp : p.Measured) (hq : q.Measured)
    (hsizes : ∀ b ∈ p.buffers, ∀ b' ∈ q.buffers, b.name = b'.name → b.data.size = b'.data.size) :
    p.params.length = q.params.length := by
  obtain ⟨b, hb, hname, hkind, _⟩ := hp.accounted.params
  obtain ⟨b', hb', hname', hkind', _⟩ := hq.accounted.params
  have hsize := hsizes b hb b' hb' (hname.trans hname'.symm)
  rw [hp.accounted.size_params hb hkind, hq.accounted.size_params hb' hkind'] at hsize
  omega

/-- Where buffers of one name have the same length, passes that draw from the same buffers draw equally much. -/
theorem drawsAlike (hp : p.Measured) (hq : q.Measured) {ps qs : Pass} (hps : ps ∈ p.passes) (hqs : qs ∈ q.passes)
    (hagrees : (Space.passSpec ps).Agrees (Space.passSpec qs))
    (hsizes : ∀ b ∈ p.buffers, ∀ b' ∈ q.buffers, b.name = b'.name → b.data.size = b'.data.size) :
    (Space.passSpec ps).DrawsAlike (Space.passSpec qs) := by
  -- Both passes draw from buffers of one name, whose lengths are multiples of what is drawn.
  have hwords : ∀ {name : String} {b b' : BufferDecl} {width m n : Nat}, p.buffer? name = some b →
      q.buffer? name = some b' → 0 < width → b.data.size = width * m → b'.data.size = width * n →
      m.toUInt32 = n.toUInt32 := by
    intro name b b' width m n hfind hfind' hwidth hm hn
    have hb := List.mem_of_find?_eq_some hfind
    have hb' := List.mem_of_find?_eq_some hfind'
    have hname : b.name = name := by simpa using List.find?_some hfind
    have hname' : b'.name = name := by simpa using List.find?_some hfind'
    exact (length_eq_iff_words hwidth hm hn (hp.fitting b hb) (hq.fitting b' hb')).1
      (hsizes b hb b' hb' (hname.trans hname'.symm))
  constructor
  · intro hne
    obtain ⟨b, m, hb, _, hsize, hcount⟩ := (hp.passes ps hps).vertices hne
    obtain ⟨b', n, hb', _, hsize', hcount'⟩ :=
      (hq.passes qs hqs).vertices (fun heq => hne (hagrees.vertexBuffer.trans heq))
    rw [show qs.vertexBuffer = ps.vertexBuffer from hagrees.vertexBuffer.symm] at hb'
    exact hcount.trans ((hwords hb hb' (by decide) hsize hsize').trans hcount'.symm)
  · intro hne
    obtain ⟨b, m, hb, _, hsize, hcount⟩ := (hp.passes ps hps).instances hne
    obtain ⟨b', n, hb', _, hsize', hcount'⟩ :=
      (hq.passes qs hqs).instances (fun heq => hne (hagrees.instanceBuffer.trans heq))
    rw [show qs.instanceBuffer = ps.instanceBuffer from hagrees.instanceBuffer.symm] at hb'
    exact hcount.trans ((hwords hb hb' (by decide) hsize hsize').trans hcount'.symm)

theorem buffers_match (hp : p.Measured) (hq : q.Measured) (h : (Space.assemble p).Agrees (Space.assemble q)) :
    List.Forall₂ BufferSpec.Matches (Space.assemble p).buffers (Space.assemble q).buffers := by
  have hword : ∀ {r : Plan}, r.Measured → ∀ x ∈ (Space.assemble r).buffers, x.kind.IsWord := by
    intro r hr x hx
    obtain ⟨b, hb, rfl⟩ := List.mem_map.1 hx
    exact hr.accounted.isWord hb
  refine List.forall₂_iff_get.2 ⟨h.buffers.length_eq, fun i hi hi' => ?_⟩
  have hagrees := h.buffers.get hi hi'
  exact ⟨hagrees.name, BufferKind.eq_of_wordOf (hword hp _ (List.get_mem _ _)) (hword hq _ (List.get_mem _ _))
    hagrees.number, hagrees.stride⟩

/-- Buffers that match have the same lengths exactly if there are equally many constants and the passes draw equally
much. -/
theorem lengths_iff (hp : p.Measured) (hq : q.Measured) (h : (Space.assemble p).Agrees (Space.assemble q)) :
    List.Forall₂ (fun x y => x.data.size = y.data.size) (Space.assemble p).buffers (Space.assemble q).buffers ↔
      p.params.length = q.params.length ∧
        List.Forall₂ PassSpec.DrawsAlike (Space.assemble p).passes (Space.assemble q).passes := by
  have hmatch := hp.buffers_match hq h
  have hnodup : ((Space.assemble p).buffers.map BufferSpec.name).Nodup := by
    simpa [Space.assemble, Function.comp_def, Space.bufferSpec] using hp.buffers
  have hkind := (forall₂_iff_of_nodup BufferSpec.name hmatch (fun _ _ hxy => hxy.name) hnodup).1
    (hmatch.imp fun _ _ hxy => hxy.kind)
  rw [forall₂_iff_of_nodup BufferSpec.name hmatch (fun _ _ hxy => hxy.name) hnodup]
  constructor
  · intro hsizes
    have hlengths : ∀ b ∈ p.buffers, ∀ b' ∈ q.buffers, b.name = b'.name → b.data.size = b'.data.size :=
      fun b hb b' hb' => hsizes _ (List.mem_map_of_mem hb) _ (List.mem_map_of_mem hb')
    refine ⟨hp.params_eq hq hlengths, List.forall₂_iff_get.2 ⟨h.passes.length_eq, fun i hi hi' => ?_⟩⟩
    have hagrees := h.passes.get hi hi'
    obtain ⟨ps, hps, heq⟩ := List.mem_map.1 (List.get_mem (Space.assemble p).passes ⟨i, hi⟩)
    obtain ⟨qs, hqs, heq'⟩ := List.mem_map.1 (List.get_mem (Space.assemble q).passes ⟨i, hi'⟩)
    rw [← heq, ← heq'] at hagrees ⊢
    exact hp.drawsAlike hq hps hqs hagrees hlengths
  · rintro ⟨hparams, hdraws⟩ x hx y hy hname
    have hboth : List.Forall₂ (fun ps qs => PassSpec.Agrees ps qs ∧ PassSpec.DrawsAlike ps qs)
        (Space.assemble p).passes (Space.assemble q).passes :=
      List.forall₂_iff_get.2 ⟨h.passes.length_eq, fun i hi hi' => ⟨h.passes.get hi hi', hdraws.get hi hi'⟩⟩
    have hxy := hkind x hx y hy hname
    obtain ⟨b, hb, rfl⟩ := List.mem_map.1 hx
    obtain ⟨b', hb', rfl⟩ := List.mem_map.1 hy
    exact hp.size_eq hq h hparams hboth hb hb' hname hxy

end Plan.Measured

/-! ## Compiled scenes -/

theorem Compiler.CompiledFrom.measured {c : Compiler} {s : Scene} {r : Compiled} {routes : Routes}
    (h : c.CompiledFrom s r routes) (hc : c.registry = Registry.builtin)
    (hfitting : ∀ x ∈ r.space.buffers, x.data.size < 2 ^ 32) : r.plan.Measured := by
  have hplanned := h.planned hc
  obtain ⟨_, _, _, hbuilt⟩ := PlanContext.build_stages hplanned.valid hplanned.build
  refine ⟨hbuilt.complete.toConsistent, PlanContext.build_accounted _ hplanned.build, fun b hb => ?_⟩
  rw [h.space] at hfitting
  exact hfitting _ (List.mem_map_of_mem hb)

/-- Two compiled scenes with one stream have buffers of the same names, kinds and strides. They have the same lengths
exactly if both scenes have equally many constants and their passes draw equally much; the buffers of pixels always
do. -/
theorem Compiler.same_lengths_iff {c : Compiler} (hc : c.registry = Registry.builtin) {s t : Scene} {a b : Compiled}
    (hs : (c.compile s).outcome.1 = .ok a) (ht : (c.compile t).outcome.1 = .ok b) (ha : a.space.Short)
    (hb : b.space.Short) (hfa : ∀ x ∈ a.space.buffers, x.data.size < 2 ^ 32)
    (hfb : ∀ y ∈ b.space.buffers, y.data.size < 2 ^ 32) (h : Signature.ofSpace a.space = Signature.ofSpace b.space) :
    List.Forall₂ BufferSpec.Matches a.space.buffers b.space.buffers ∧
      (∀ x ∈ a.space.buffers, ∀ y ∈ b.space.buffers, x.name = y.name → x.kind = .pixels → x.data.size = y.data.size) ∧
      (List.Forall₂ (fun x y => x.data.size = y.data.size) a.space.buffers b.space.buffers ↔
        a.space.params.length = b.space.params.length ∧
          List.Forall₂ PassSpec.DrawsAlike a.space.passes b.space.passes) := by
  obtain ⟨_, hfrom⟩ := compile_eq_ok hs
  obtain ⟨_, hfrom'⟩ := compile_eq_ok ht
  have hp := hfrom.measured hc hfa
  have hq := hfrom'.measured hc hfb
  have hagrees := (Signature.ofSpace_delimits a.space b.space [] [] ha hb (by rw [h])).1
  rw [hfrom.space, hfrom'.space] at hagrees ⊢
  exact ⟨hp.buffers_match hq hagrees, hp.pixels_eq hq hagrees, hp.lengths_iff hq hagrees⟩

/-- A cleared screen. -/
def Scene.cleared (color : List Float) : Scene where
  nodes := [{ id := "screen", type := "Screen", params := [("clearColor", .list (color.map .num))] }]
  outputs := [("main", "screen")]

theorem Scene.cleared_checks : (({} : Compiler).compile (.cleared [1, 0, 0, 1])).outcome.1.toOption.any (fun a =>
    (({} : Compiler).compile (.cleared [0, 0, 1, 1])).outcome.1.toOption.any fun b =>
      decide a.space.Short && decide b.space.Short && a.space.buffers.all (fun x => x.data.size < 2 ^ 32) &&
        b.space.buffers.all (fun y => y.data.size < 2 ^ 32) &&
        decide (Signature.ofSpace a.space = Signature.ofSpace b.space)) = true := by
  rw [Schema.builtin_eq, Registry.builtin_eq]
  decide +kernel

theorem Scene.cleared_match : ∃ a b, (({} : Compiler).compile (.cleared [1, 0, 0, 1])).outcome.1 = .ok a ∧
    (({} : Compiler).compile (.cleared [0, 0, 1, 1])).outcome.1 = .ok b ∧ a.space.Short ∧ b.space.Short ∧
    Signature.ofSpace a.space = Signature.ofSpace b.space ∧
    List.Forall₂ BufferSpec.Matches a.space.buffers b.space.buffers := by
  obtain ⟨a, ha, hchecks⟩ := Option.any_eq_true _ _ |>.1 Scene.cleared_checks
  obtain ⟨b, hb, hchecks⟩ := Option.any_eq_true _ _ |>.1 hchecks
  simp only [Bool.and_eq_true, decide_eq_true_eq, List.all_eq_true] at hchecks
  obtain ⟨⟨⟨⟨hshort, hshort'⟩, hfitting⟩, hfitting'⟩, hstream⟩ := hchecks
  have hmatch := Compiler.same_lengths_iff rfl (eq_ok_of_toOption ha) (eq_ok_of_toOption hb) hshort hshort' hfitting
    hfitting' hstream
  exact ⟨a, b, eq_ok_of_toOption ha, eq_ok_of_toOption hb, hshort, hshort', hstream, hmatch.1⟩

/-! ## Equality of shaders -/

namespace Code

mutual

/-- Two expressions are the same tree. -/
def same : Code → Code → Bool
  | .zero t, .zero u => t == u
  | .one t, .one u => t == u
  | .decimal x, .decimal y => x == y
  | .slot i, .slot j => i == j
  | .time, .time => true
  | .resolution, .resolution => true
  | .uv, .uv => true
  | .instanceIndex, .instanceIndex => true
  | .bound x, .bound y => x == y
  | .verbatim x, .verbatim y => x == y
  | .part a x, .part b y => same a b && x == y
  | .firstThree a, .firstThree b => same a b
  | .binary x a c, .binary y b d => x == y && same a b && same c d
  | .bare x a c, .bare y b d => x == y && same a b && same c d
  | .signed x a, .signed y b => x == y && same a b
  | .minus a, .minus b => same a b
  | .call x as, .call y bs => x == y && sameAll as bs
  | .helper x as, .helper y bs => x == y && sameAll as bs
  | .sample k x a, .sample l y b => k == l && x == y && same a b
  | .dimensions x, .dimensions y => x == y
  | _, _ => false

/-- Two lists of expressions are the same. -/
def sameAll : List Code → List Code → Bool
  | [], [] => true
  | a :: as, b :: bs => same a b && sameAll as bs
  | _, _ => false

end

theorem eq_of_same_and : (∀ a b : Code, same a b = true → a = b) ∧ ∀ as bs, sameAll as bs = true → as = bs := by
  apply same.mutual_induct
  case case21 =>
    -- The expressions differ at their roots.
    intros
    rename_i h
    rw [same] at h
    · cases h
    all_goals assumption
  all_goals
    intros
    simp_all [same, sameAll]

theorem same_self_and : (∀ a : Code, same a a = true) ∧ ∀ as, sameAll as as = true := by
  apply render.mutual_induct <;> intros <;> simp_all [same, sameAll]

instance : DecidableEq Code := fun a b =>
  decidable_of_iff (same a b = true) ⟨eq_of_same_and.1 a b, fun h => h ▸ same_self_and.1 a⟩

end Code

deriving instance DecidableEq for ShaderStatement, VertexProgram, ShaderModule, Shader

/-- The part of a pass that the stream holds. -/
structure PassOutline where
  id : String
  kind : PassKind
  shader : Shader
  vertexEntry : String
  fragmentEntry : String
  target : String
  format : TextureFormat
  writeMask : UInt32
  blend : Option BlendState
  load : LoadOp
  bindings : List TextureBinding
  vertexBuffer : String
  instanceBuffer : String
  isDrawn : Bool
  isAnimated : Bool
deriving DecidableEq

/-- What the stream holds of a pass. -/
def PassSpec.outline (p : PassSpec) : PassOutline :=
  ⟨p.id, p.kind, p.shader, p.vertexEntry, p.fragmentEntry, p.target, p.format, p.writeMask, p.blend, p.load, p.bindings,
    p.vertexBuffer, p.instanceBuffer, decide (p.vertices > 0), p.isAnimated⟩

theorem Signature.map_pass_eq {ps qs : List PassSpec} (h : ps.map PassSpec.outline = qs.map PassSpec.outline) :
    ps.map pass = qs.map pass := by
  have hpass : pass = (fun o : PassOutline => text o.id ++ text o.kind.name ++ text o.shader.text ++ text o.vertexEntry
      ++ text o.fragmentEntry ++ text o.target ++ word o.format.number ++ word o.writeMask ++ blend o.blend
      ++ word o.load.number ++ list binding o.bindings ++ text o.vertexBuffer ++ text o.instanceBuffer ++ flag o.isDrawn
      ++ flag o.isAnimated) ∘ PassSpec.outline := rfl
  rw [hpass, ← List.map_map, h, List.map_map]

/-- Two passes in one gray, whose second color is joined from a number or, with the other type, held by itself. -/
def Scene.gray (type : String) : Scene where
  nodes := [{ id := "screen", type := "Screen" }, { id := "stack", type := "Composite" },
    { id := "rp1", type := "RenderPass" }, { id := "rp2", type := "RenderPass" }, { id := "f", type := "Float" },
    { id := "m", type := "Mat4" }, { id := "v", type }]
  connections := [{ id := "c0", source := ⟨"f", "value"⟩, target := ⟨"rp1", "color"⟩ },
    { id := "c1", source := ⟨"m", "value"⟩, target := ⟨"rp1", "transform"⟩ },
    { id := "c2", source := ⟨"m", "value"⟩, target := ⟨"rp2", "transform"⟩ },
    { id := "c3", source := ⟨"f", "value"⟩, target := ⟨"v", "x"⟩ },
    { id := "c4", source := ⟨"f", "value"⟩, target := ⟨"v", "y"⟩ },
    { id := "c5", source := ⟨"f", "value"⟩, target := ⟨"v", "z"⟩ },
    { id := "c6", source := ⟨"f", "value"⟩, target := ⟨"v", "w"⟩ },
    { id := "c7", source := ⟨"v", "value"⟩, target := ⟨"rp2", "color"⟩ },
    { id := "c8", source := ⟨"rp1", "pass"⟩, target := ⟨"stack", "pass"⟩ },
    { id := "c9", source := ⟨"rp2", "pass"⟩, target := ⟨"stack", "dynamic_0"⟩ },
    { id := "c10", source := ⟨"stack", "pass"⟩, target := ⟨"screen", "pass"⟩ }]
  outputs := [("main", "screen")]

theorem Scene.gray_checks : (({} : Compiler).compile (.gray "Combine")).outcome.1.toOption.any (fun a =>
    (({} : Compiler).compile (.gray "Vec4")).outcome.1.toOption.any fun b =>
      decide (a.space.textures = b.space.textures) && decide (a.space.samplers = b.space.samplers) &&
        decide (a.space.buffers.map (fun x => (x.name, x.kind, x.stride)) = [("params", .params, 16)]) &&
        decide (b.space.buffers.map (fun y => (y.name, y.kind, y.stride)) = [("params", .params, 16)]) &&
        decide (a.space.passes.map PassSpec.outline = b.space.passes.map PassSpec.outline) &&
        decide (a.space.sceneTexture = b.space.sceneTexture) &&
        decide (a.space.presentTexture = b.space.presentTexture) &&
        decide (a.space.buffers.map (fun x => x.data.size) = [80]) &&
        decide (b.space.buffers.map (fun y => y.data.size) = [96])) = true := by
  rw [Schema.builtin_eq, Registry.builtin_eq]
  decide +kernel

/-- One stream, but the constants of the second scene do not fit the buffer of the first. -/
theorem Scene.gray_outgrown : ∃ a b, (({} : Compiler).compile (.gray "Combine")).outcome.1 = .ok a ∧
    (({} : Compiler).compile (.gray "Vec4")).outcome.1 = .ok b ∧
    Signature.ofSpace a.space = Signature.ofSpace b.space ∧
    a.space.buffers.map (fun x => x.data.size) = [80] ∧ b.space.buffers.map (fun y => y.data.size) = [96] ∧
    ¬ List.Forall₂ (fun x y => x.name = y.name ∧ x.kind = y.kind ∧ x.stride = y.stride ∧ x.data.size = y.data.size)
      a.space.buffers b.space.buffers := by
  obtain ⟨a, ha, hchecks⟩ := Option.any_eq_true _ _ |>.1 Scene.gray_checks
  obtain ⟨b, hb, hchecks⟩ := Option.any_eq_true _ _ |>.1 hchecks
  simp only [Bool.and_eq_true, decide_eq_true_eq] at hchecks
  obtain ⟨⟨⟨⟨⟨⟨⟨⟨htextures, hsamplers⟩, hbuffers⟩, hbuffers'⟩, hpasses⟩, hscene⟩, hpresent⟩, hsizes⟩, hsizes'⟩ :=
    hchecks
  have hparts : a.space.buffers.map Signature.buffer = b.space.buffers.map Signature.buffer := by
    have hbuffer : Signature.buffer = (fun k : String × BufferKind × UInt32 => Signature.text k.1 ++
        Signature.word (Bytes.wordOf k.2.1.code) ++ Signature.word k.2.2) ∘ fun x => (x.name, x.kind, x.stride) := rfl
    rw [hbuffer, ← List.map_map, ← List.map_map, hbuffers, hbuffers']
  refine ⟨a, b, eq_ok_of_toOption ha, eq_ok_of_toOption hb, Signature.ofSpace_eq htextures hparts hsamplers
    (Signature.map_pass_eq hpasses) hscene hpresent, hsizes, hsizes', fun hall => ?_⟩
  have heq := PlanContext.Forall₂_map_eq (f := fun y : BufferSpec => y.data.size)
    (g := fun x : BufferSpec => x.data.size)
    hall fun x y hxy => hxy.2.2.2.symm
  rw [hsizes, hsizes'] at heq
  cases heq

end SceneGraph
