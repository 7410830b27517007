import SceneGraph.Proofs.Parameters
import SceneGraph.Proofs.Planning

/-!
# Sizes of textures

The output has the size that its node declares, or the default. That a declared length is positive is checked before
its integer part is taken, which only a number below 2 ^ 63 has, and a device takes what is left in 32 bits. Textures
of other sizes are at least one pixel wide and high by their making, except for uploads of empty pictures.

* `toInt64_pos_iff`: the positive whole numbers with a positive integer part.
* `Bytes.toNat_wordOf_eq_iff`: the numbers that 32 bits hold.
* `PlanContext.Declared`: what the textures of a plan are declared from.
* `Compiler.sizes_positive_iff`: which sizes of a compiled scene are positive, and which a device takes as they are.
-/
set_option autoImplicit false

namespace SceneGraph

open Double Float.Model

/-! ## Lengths -/

/-- The size covers at least one pixel. -/
def Size.Positive (s : Size) : Prop := 1 ≤ s.width ∧ 1 ≤ s.height
deriving Decidable

/-- Both lengths are numbers of 32 bits. -/
def Size.FitsWords (s : Size) : Prop := (0 ≤ s.width ∧ s.width < 4294967296) ∧ 0 ≤ s.height ∧ s.height < 4294967296

theorem Compiler.withResolution_positive {c : Compiler} (h : c.resolution.Positive) (size : Size) :
    (c.withResolution size).resolution.Positive := by
  unfold withResolution
  split
  · rename_i hsize
    simp only [Bool.and_eq_true, decide_eq_true_eq] at hsize
    exact hsize
  · exact h

theorem Bytes.toNat_wordOf_eq_iff (i : Int) : ((wordOf i).toNat : Int) = i ↔ 0 ≤ i ∧ i < 4294967296 := by
  have hrest : ((wordOf i).toNat : Int) = i % 4294967296 := by
    unfold wordOf
    rw [Nat.toUInt32, UInt32.toNat_ofNat']
    omega
  rw [hrest]
  omega

theorem truncated_limit : truncated 9223372036854775808 = 9223372036854775808 := rfl

theorem toInt64_eq_truncated {x : Float} (hx : x.isFinite = true) (hleast : leastInt64 ≤ truncated x)
    (hmost : truncated x ≤ 9223372036854775807) : toInt64 x = truncated x := by
  have hrange : ¬(truncated x < leastInt64 ∨ truncated x > 9223372036854775807) := by omega
  unfold toInt64
  rw [if_neg ((isFinite_iff x).1 hx), if_neg (by simpa using hrange)]

/-- Nothing but a finite double is above zero and below a finite double. -/
theorem Double.isFinite_of_lt {x y : Float} (hy : y.isFinite = true) (hpos : ¬x ≤ 0) (h : x < y) :
    x.isFinite = true := by
  have hzero : (0 : Float).toModel.unpack = .zero .positive := rfl
  have hfinite : y.toModel.unpack.isFinite = true := hy
  have hlt : (x.toModel.unpack.compare y.toModel.unpack == some .lt) = true := of_decide_eq_true h
  have hle : ¬(x.toModel.unpack.compare (0 : Float).toModel.unpack).any (·.isLE) = true := fun hle =>
    hpos (decide_eq_true hle)
  change x.toModel.unpack.isFinite = true
  rw [hzero] at hle
  cases hx : x.toModel.unpack with
  | notANumber => simp [hx, UnpackedFloat.compare] at hlt
  | infinity s =>
    cases s with
    | negative => simp [hx, UnpackedFloat.compare] at hle
    | positive => cases hunpack : y.toModel.unpack <;> simp_all [UnpackedFloat.compare, UnpackedFloat.isFinite]
  | zero s => rfl
  | finite s m e hm => rfl

/-- A positive whole number has a positive integer part of 64 bits exactly below 2 ^ 63. -/
theorem toInt64_pos_iff {x : Float} (hwhole : lacksFraction x = true) (hpos : ¬x ≤ 0) :
    1 ≤ toInt64 x ↔ x < 9223372036854775808 := by
  have hlimit : (9223372036854775808 : Float).isFinite = true := rfl
  constructor
  · intro h
    rcases toInt64_cases x with hleast | ⟨hx, heq, -, hmost⟩
    · rw [hleast] at h
      exact absurd h (by decide)
    · by_contra hnot
      have hle := truncated_le hlimit hx hnot
      rw [truncated_limit] at hle
      omega
  · intro h
    have hx := isFinite_of_lt hlimit hpos h
    have hpositive := truncated_pos hx hwhole hpos
    have hbelow : truncated x < 9223372036854775808 := by
      have hlimitWhole : lacksFraction 9223372036854775808 = true := rfl
      rw [lt_iff hx hlimit, units_of_lacksFraction hwhole, units_of_lacksFraction hlimitWhole, truncated_limit] at h
      exact Int.lt_of_mul_lt_mul_right h (Int.natCast_nonneg unit)
    have hleast : leastInt64 ≤ truncated x := Int.le_trans (by decide) (Int.le_of_lt hpositive)
    rw [toInt64_eq_truncated hx hleast (by omega)]
    exact hpositive

/-! ## The size of the output -/

/-- Every length that the node declares is below 2 ^ 63. -/
def Node.LengthsFit (n : Node) : Prop :=
  ∀ key ∈ ["width", "height"], ∀ x, n.float? key = some x → x < 9223372036854775808

namespace Output

theorem checkSize_eq_ok {n : Node} {fallback : Size} {keys : List String} (h : checkSize n fallback keys = .ok ()) :
    ∀ key ∈ keys, ∀ x, n.float? key = some x → ¬x ≤ 0 := by
  induction keys with
  | nil => simp
  | cons key rest ih =>
    unfold checkSize at h
    intro key' hkey' x hx
    split at h
    · rename_i y hy
      split at h
      · cases h
      · rename_i hpos
        rcases List.mem_cons.1 hkey' with rfl | hrest
        · cases hy.symm.trans hx
          exact hpos
        · exact ih h key' hrest x hx
    · rename_i hnone
      rcases List.mem_cons.1 hkey' with rfl | hrest
      · cases hnone.symm.trans hx
      · exact ih h key' hrest x hx

/-- The output has the lengths that its node declares, which are positive, and the default ones. -/
theorem resolve_size {s : Scene} {fallback : Size} {o : SceneOutput} (h : resolve s fallback = .ok o) :
    ∃ n, s.indexed? o.node = some n ∧ n.type = screenType ∧
      (∀ key ∈ ["width", "height"], ∀ x, n.float? key = some x → ¬x ≤ 0) ∧
      o.size = ⟨n.intOr "width" fallback.width, n.intOr "height" fallback.height⟩ := by
  unfold resolve at h
  split at h
  · cases h
  · rename_i n hn
    split at h
    · cases h
    · rename_i htype
      simp only [bind, Except.bind] at h
      split at h
      · cases h
      · rename_i hsize
        cases h
        obtain ⟨hid, -⟩ := Scene.indexed?_eq_some hn
        exact ⟨n, by rw [hid]; exact hn, not_not.1 htype, checkSize_eq_ok hsize, rfl⟩

end Output

theorem Schema.builtin_lengths : ["width", "height"].all (fun key =>
    ((Schema.builtin.nodeType? screenType).bind fun t => t.params.get? key).any fun p =>
      p.type == .int && p.default.isNone) = true := by
  rw [Schema.builtin_eq]
  rfl

/-- The schema takes only whole numbers as lengths of a screen. -/
theorem Node.isWhole_of_conforms {n : Node} (htype : n.type = screenType) (hn : Schema.builtin.Conforms n)
    {key : String} (hkey : key ∈ ["width", "height"]) {x : Float} (hx : n.float? key = some x) :
    isWhole x = true := by
  obtain ⟨p, hp, hfields⟩ := (Option.any_eq_true _ _).1 (List.all_eq_true.1 Schema.builtin_lengths key hkey)
  obtain ⟨t, ht, hdeclared⟩ := Option.bind_eq_some_iff.1 hp
  simp only [Bool.and_eq_true, beq_iff_eq, Option.isNone_iff_eq_none] at hfields
  obtain ⟨hint, hdefault⟩ := hfields
  have hsource : key ∉ Images.sourceKeys := by
    rcases List.mem_cons.1 hkey with rfl | hkey
    · decide
    · obtain rfl := List.mem_singleton.1 hkey
      decide
  unfold Node.float? Node.param at hx
  cases hv : n.params.get? key with
  | none =>
    rw [hv] at hx
    cases hx
  | some v =>
    rw [hv] at hx
    rcases hn t (htype ▸ ht) _ (Table.mem_of_get? hv) hsource p hdeclared with hnormal | hsame
    · cases hnormal with
      | number hwhole =>
        cases hx
        exact (hwhole.resolve_left (by simp [hint])).2
      | bool h | text h | choice h | color h | other h => cases hint.symm.trans h
      | vector h => simp [hint] at h
    · cases hdefault.symm.trans hsame

/-- The size of the output is positive exactly if the lengths that its node declares fit into 64 bits. -/
theorem Output.size_positive_iff {s : Scene} {fallback : Size} {o : SceneOutput} (h : resolve s fallback = .ok o)
    (hfallback : fallback.Positive) (hconforms : ∀ n ∈ s.nodes, Schema.builtin.Conforms n) :
    ∃ n, s.indexed? o.node = some n ∧ (o.size.Positive ↔ n.LengthsFit) := by
  obtain ⟨n, hn, htype, hpos, hsize⟩ := resolve_size h
  have hconf := hconforms n (Scene.indexed?_eq_some hn).2
  have hlength : ∀ key ∈ ["width", "height"], ∀ default : Int, 1 ≤ default →
      (1 ≤ n.intOr key default ↔ ∀ x, n.float? key = some x → x < 9223372036854775808) := by
    intro key hkey default hdefault
    unfold Node.intOr
    cases hx : n.float? key with
    | none => simp [hdefault]
    | some x =>
      have hwhole := lacksFraction_of_isWhole (Node.isWhole_of_conforms htype hconf hkey hx)
      simp [toInt64_pos_iff hwhole (hpos key hkey x hx)]
  refine ⟨n, hn, ?_⟩
  rw [hsize, Size.Positive, Node.LengthsFit, hlength "width" (by simp) _ hfallback.1,
    hlength "height" (by simp) _ hfallback.2]
  simp

/-! ## Textures of plans -/

namespace PlanContext

variable {c : PlanContext}

/-- The texture is filled with the pixels of a picture. -/
def ShowsPicture (c : PlanContext) (plan : Plan) (t : TextureDecl) : Prop :=
  t.upload ≠ "" ∧
    ∃ i b, c.Pictures i ∧ t.size = ⟨i.width, i.height⟩ ∧ plan.buffer? t.upload = some b ∧ b.data = i.pixels

/-- Every texture of the plan is there for passes to draw into, or filled with the pixels of a picture. -/
def Declared (c : PlanContext) (plan : Plan) : Prop := ∀ t ∈ plan.textures, c.Canvas t ∨ c.ShowsPicture plan t

theorem Declared.grow {p q : Plan} (h : c.Declared p) (hgrows : p.Grows q)
    (hnew : ∀ t ∈ q.textures, t ∈ p.textures ∨ c.Canvas t ∨ c.ShowsPicture q t) : c.Declared q := by
  intro t ht
  rcases hnew t ht with hold | hnew
  · rcases h t hold with hcanvas | ⟨hupload, i, b, hi, hsize, hb, hdata⟩
    · exact .inl hcanvas
    · exact .inr ⟨hupload, i, b, hi, hsize, hgrows.buffer? hb, hdata⟩
  · exact hnew

theorem Declared.texture {p q : Plan} (h : c.Declared p) {t : TextureDecl} (hq : p.declareTexture t = .ok q)
    (ht : c.Canvas t ∨ c.ShowsPicture q t) : c.Declared q := by
  refine h.grow (Plan.declareTexture_texture? hq).1 fun u hu => ?_
  rcases Plan.declareTexture_eq_ok hq with ⟨_, _, _, rfl⟩ | ⟨_, rfl⟩
  · exact .inl hu
  · rcases List.mem_append.1 hu with hu | hu
    · exact .inl hu
    · exact .inr (List.mem_singleton.1 hu ▸ ht)

theorem Declared.of_textures {p q : Plan} (h : c.Declared p) (hgrows : p.Grows q) (hsame : q.textures = p.textures) :
    c.Declared q :=
  h.grow hgrows fun _ ht => .inl (hsame ▸ ht)

theorem Declared.buffer {p q : Plan} (h : c.Declared p) {b : BufferDecl} (hq : p.declareBuffer b = .ok q) :
    c.Declared q := by
  refine h.of_textures (Plan.declareBuffer_buffer? hq).1 ?_
  rcases Plan.declareBuffer_eq_ok hq with ⟨_, _, _, rfl⟩ | ⟨_, rfl⟩ <;> rfl

theorem Step.declared {g g' : PlanStage} (h : c.Step g g') (hg : c.Declared g.state.plan) :
    c.Declared g'.state.plan := by
  cases h with
  | compile | report | mark => exact hg
  | texture ht hplan => exact hg.texture hplan (.inl ht)
  | upload _ hi hbuffer htexture =>
    refine (hg.buffer hbuffer).texture htexture (.inr ⟨append_ne_empty _ _ (by decide), ?_⟩)
    obtain ⟨-, -, b, hb, -, hdata⟩ := Plan.declareBuffer_buffer? hbuffer
    exact ⟨_, b, hi, rfl, (Plan.declareTexture_texture? htexture).1.buffer? hb, hdata⟩
  | buffer hplan => exact hg.buffer hplan
  | sampler hplan =>
    refine hg.of_textures (Plan.declareSampler_sampler? hplan).1 ?_
    rcases Plan.declareSampler_eq_ok hplan with ⟨_, rfl⟩ | ⟨_, rfl⟩ <;> rfl
  | shown | params | pass => exact hg.of_textures ⟨List.prefix_rfl, List.prefix_rfl, List.prefix_rfl⟩ rfl

theorem build_declared {plan : Plan} (h : c.build.outcome.1 = .ok plan) : c.Declared plan := by
  obtain ⟨g, rfl, hsteps⟩ := steps_of_build h
  have hempty : c.Declared c.emptyPlan := by simp [Declared, emptyPlan]
  exact hsteps.preserves (I := fun g => c.Declared g.state.plan) (fun _ _ => Step.declared) hempty

/-! ### Their sizes -/

theorem Canvas.upload {t : TextureDecl} (h : c.Canvas t) : t.upload = "" := by
  cases h <;> rfl

/-- A texture to draw into has the size of the output, or it is at least one pixel wide and high. -/
theorem Canvas.size (hroutes : c.routes.Valid c.prepared) {t : TextureDecl} (h : c.Canvas t) :
    t.size.Positive ∨ t.size = c.prepared.output.size := by
  cases h with
  | target hd =>
    obtain ⟨n, -, -, rfl⟩ := (hroutes.get?_textures _ _).1 hd
    unfold Route.targetDomain
    split
    · exact .inr rfl
    · refine .inl ⟨?_, ?_⟩ <;> dsimp only <;> split
      all_goals first | exact le_max_right _ _ | omega
  | scratch => exact .inl ⟨le_max_right _ _, le_max_right _ _⟩
  | present => exact .inr rfl

theorem Pictures.filled (hp : c.prepared.Valid) {i : Image} (h : c.Pictures i) : i.Filled := by
  cases h with
  | baked h => exact hp.pixels?_filled h
  | text h => exact Text.rasterize_filled h
  | placeholder => exact placeholder_filled
  | decoded h => exact decodeImage_filled h

/-- An uploaded texture is at least one pixel wide and high if there are any pixels. -/
theorem ShowsPicture.size (hp : c.prepared.Valid) {plan : Plan} {t : TextureDecl} (h : c.ShowsPicture plan t) :
    ∃ b, plan.buffer? t.upload = some b ∧ (t.size.Positive ↔ b.data.size ≠ 0) := by
  obtain ⟨-, i, b, hi, hsize, hb, hdata⟩ := h
  refine ⟨b, hb, ?_⟩
  have hfilled : i.pixels.size = 4 * i.width * i.height := hi.filled hp
  rw [hsize, hdata, hfilled, Size.Positive]
  simp only [ne_eq, Nat.mul_eq_zero]
  omega

end PlanContext

/-! ## Compiled scenes -/

/-- Of a compiled scene, the output and the textures of its size are at least one pixel wide and high exactly if the
lengths that the output declares fit into 64 bits, uploaded textures if their pictures are not empty, and all others
always. A device gets a texture in its size exactly if both lengths fit into 32 bits. -/
theorem Compiler.sizes_positive_iff {c : Compiler} (hschema : c.schema = Schema.builtin)
    (hresolution : c.resolution.Positive) {s : Scene} {r : Compiled} (h : (c.compile s).outcome.1 = .ok r) :
    ∃ n, r.prepared.node? r.prepared.output.node = some n ∧
      (r.prepared.output.size.Positive ↔ n.LengthsFit) ∧
      (∀ t ∈ r.plan.textures, t.upload = "" →
        (t.size.Positive ↔ t.size = r.prepared.output.size → n.LengthsFit)) ∧
      (∀ t ∈ r.plan.textures, t.upload ≠ "" →
        ∃ b, r.plan.buffer? t.upload = some b ∧ (t.size.Positive ↔ b.data.size ≠ 0)) ∧
      ∀ (i : Nat) (t : TextureDecl), r.plan.textures[i]? = some t → ∃ spec, r.space.textures[i]? = some spec ∧
        spec.name = t.name ∧
        ((spec.width.toNat : Int) = t.size.width ∧ (spec.height.toNat : Int) = t.size.height ↔ t.size.FitsWords) := by
  obtain ⟨routes, hfrom⟩ := Compiler.compile_eq_ok h
  obtain ⟨_, _, _, hprepared⟩ := Scene.prepare_eq_ok hfrom.prepare
  have hvalid := Scene.prepare_valid hfrom.prepare
  have hconforms := hprepared.readied.conforms (hschema ▸ Schema.builtin_sound) hfrom.validate
  rw [hschema] at hconforms
  obtain ⟨n, hn, houtput⟩ := Output.size_positive_iff hprepared.output hresolution hconforms
  have hdeclared := PlanContext.build_declared hfrom.build
  have hroutes := Prepared.resolve_valid hvalid hfrom.resolve
  refine ⟨n, hn, houtput, fun t ht hupload => ?_, fun t ht hupload => ?_, fun i t ht => ?_⟩
  · have hcanvas := (hdeclared t ht).resolve_right fun hshows => hshows.1 hupload
    rcases hcanvas.size hroutes with hpositive | hsame
    · exact iff_of_true hpositive fun hsame => houtput.1 (hsame ▸ hpositive)
    · rw [hsame, houtput]
      simp
  · exact ((hdeclared t ht).resolve_left fun hcanvas => hupload hcanvas.upload).size hvalid
  · refine ⟨Space.textureSpec r.plan t, ?_, rfl, ?_⟩
    · rw [hfrom.space, Space.assemble, List.getElem?_map, ht, Option.map_some]
    · unfold Space.textureSpec Size.FitsWords
      rw [Bytes.toNat_wordOf_eq_iff, Bytes.toNat_wordOf_eq_iff]

/-- A texture of half the size of the screen, blurred in eighths onto it. -/
def Scene.halved : Scene where
  nodes := [{ id := "screen", type := "Screen", params := [("height", .num 481), ("width", .num 640)] },
    { id := "half", type := "RenderTexture", params := [("scale", .num 0.5)] }, { id := "shape", type := "RenderPass" },
    { id := "soft", type := "Blur", params := [("downscale", .num 8)] }]
  connections := [{ id := "a", source := ⟨"shape", "pass"⟩, target := ⟨"half", "pass"⟩ },
    { id := "b", source := ⟨"half", "texture"⟩, target := ⟨"soft", "texture"⟩ },
    { id := "c", source := ⟨"soft", "pass"⟩, target := ⟨"screen", "pass"⟩ }]
  outputs := [("main", "screen")]

theorem Scene.halved_checks : (({} : Compiler).compile Scene.halved).outcome.1.toOption.any (fun r =>
    ((r.prepared.node? r.prepared.output.node).all fun n => ["width", "height"].all fun key =>
      (n.float? key).all fun x => decide (x < 9223372036854775808)) &&
    decide (r.plan.textures.map TextureDecl.size = [⟨320, 241⟩, ⟨640, 481⟩, ⟨80, 61⟩, ⟨80, 61⟩]) &&
    r.plan.textures.all fun t => t.upload == "") = true := by
  rw [Schema.builtin_eq, Registry.builtin_eq]
  decide +kernel

theorem Scene.halved_positive : ({} : Compiler).resolution.Positive ∧ ∃ r n,
    (({} : Compiler).compile Scene.halved).outcome.1 = .ok r ∧ r.prepared.node? r.prepared.output.node = some n ∧
      n.LengthsFit ∧ r.plan.textures.length = 4 ∧ ∀ t ∈ r.plan.textures, t.size.Positive := by
  have hresolution : ({} : Compiler).resolution.Positive := by decide
  obtain ⟨r, hr, hchecks⟩ := (Option.any_eq_true _ _).1 Scene.halved_checks
  simp only [Bool.and_eq_true, decide_eq_true_eq, List.all_eq_true, Option.all_eq_true, beq_iff_eq] at hchecks
  obtain ⟨⟨hfits, hsizes⟩, hplain⟩ := hchecks
  have hr := eq_ok_of_toOption hr
  obtain ⟨n, hn, -, htextures, -⟩ := Compiler.sizes_positive_iff (c := {}) rfl hresolution hr
  have hlengths : n.LengthsFit := hfits n hn
  refine ⟨hresolution, r, n, hr, hn, hlengths, ?_, fun t ht => (htextures t ht (hplain t ht)).2 fun _ => hlengths⟩
  simpa using congrArg List.length hsizes

/-- A screen whose width fits into 64 bits but not into 32, and whose height does not fit into 64. -/
def Scene.oversized : Scene where
  nodes := [{ id := "screen", type := "Screen",
              params := [("height", .num 10000000000000000000), ("width", .num 4294967296)] }]
  connections := []
  outputs := [("main", "screen")]

theorem Scene.oversized_checks : (({} : Compiler).compile Scene.oversized).outcome.1.toOption.any (fun r =>
    decide (r.prepared.output.size = ⟨4294967296, leastInt64⟩) &&
      r.plan.textures.any fun t => decide (t.size = ⟨4294967296, leastInt64⟩) &&
        r.space.textures.any fun spec => decide (spec.name = t.name) && decide (spec.width = 0)) = true := by
  rw [Schema.builtin_eq, Registry.builtin_eq]
  decide +kernel

/-- The screen gets a negative height, and a device takes its width for nothing. -/
theorem Scene.oversized_sizes : ∃ r, (({} : Compiler).compile Scene.oversized).outcome.1 = .ok r ∧
    ¬r.prepared.output.size.Positive ∧ ∃ t ∈ r.plan.textures, ¬t.size.Positive ∧
      ∃ spec ∈ r.space.textures, spec.name = t.name ∧ (spec.width.toNat : Int) ≠ t.size.width := by
  have hnot : ¬Size.Positive ⟨4294967296, leastInt64⟩ := by decide
  obtain ⟨r, hr, hchecks⟩ := (Option.any_eq_true _ _).1 Scene.oversized_checks
  simp only [Bool.and_eq_true, decide_eq_true_eq, List.any_eq_true] at hchecks
  obtain ⟨houtput, t, ht, hsize, spec, hspec, hname, hwidth⟩ := hchecks
  refine ⟨r, eq_ok_of_toOption hr, houtput ▸ hnot, t, ht, hsize ▸ hnot, spec, hspec, hname, ?_⟩
  rw [hwidth, hsize]
  decide

end SceneGraph
