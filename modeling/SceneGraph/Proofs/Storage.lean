import SceneGraph.Proofs.Built
import SceneGraph.Proofs.Parameters

/-!
# What no memory holds

A compilation can fail internally at three places. The offsets of a grid take two words for each instance, and the
schema bounds the number that a grid states itself, but not the number that is wired into it. The pixels of a text take
four bytes each, and nothing bounds the length of a text. The pixels of an image are asked for by the head of its file,
before anything is known of the rest.

* `Bake.Overgrown`: baking comes to a grid with too many wired instances, or to a text with too many pixels.
* `PlanContext.EndsAt`: planning comes to an image with too many pixels.
* `PlanContext.decodeImage_eq_overflow`: the files with too many pixels.
* `Compiler.fails_internally_iff`: these are the scenes whose compilation fails internally.
-/
set_option autoImplicit false

namespace SceneGraph

/-! ## Kinds of failures -/

theorem Image.reserve_eq_ok {bytes : Nat} : Image.reserve bytes = .ok () ↔ bytes ≤ largestPiece := by
  have hpiece : largestPiece < Nat.pow 2 63 := by decide
  unfold reserve
  split
  · exact iff_of_false (by simp) (by omega)
  · split
    · exact iff_of_false (by simp) (by omega)
    · exact iff_of_true rfl (by omega)

theorem Image.reserve_eq_error {bytes : Nat} :
    (∃ words, Image.reserve bytes = .error words) ↔ largestPiece < bytes := by
  rw [← Nat.not_le, ← Image.reserve_eq_ok]
  cases Image.reserve bytes <;> simp

namespace Text

/-- The bytes that the pixels of a text take. -/
def Face.bytes (face : Face) (s : String) (scale : Int) : Nat :=
  let ls := lines (face.normalize s)
  let k := max scale.toNat 1
  4 * (face.width ls * k) * (face.lineHeight * ls.length * k)

end Text

/-- A file breaks off for lack of memory exactly if its head asks for more than a piece of it. -/
theorem Png.decode_eq_overflow {file : ByteArray} :
    (∃ words, Png.decode file = .error (.overflow words)) ↔
      ∃ bytes, Png.reservation? file = some bytes ∧ largestPiece < bytes := by
  have hread : ∀ words, ¬(Png.decode? file).elim (Except.error ImageFault.unreadable) Except.ok =
      .error (.overflow words) := by
    intro words
    cases Png.decode? file <;> simp
  unfold Png.decode
  cases hreservation : Png.reservation? file with
  | none => simpa [Image.reserve_eq_ok.2 (Nat.zero_le _)] using hread
  | some bytes =>
    simp only [Option.getD_some, Option.some.injEq, exists_eq_left']
    rw [← Image.reserve_eq_error]
    cases Image.reserve bytes with
    | error words => simp
    | ok _ => simpa using hread

/-! ## Baking -/

namespace Bake

variable {face : Text.Face} {s t : Scene} {m : BakedMap} {n : Node} {order : List String}

/-- A result that is no internal failure. -/
def Ordinary {α : Type} (r : Result α) : Prop := ∀ text, r ≠ .error (.internal text)

namespace Ordinary

variable {α β : Type}

theorem ok (a : α) : Ordinary (.ok a) := fun _ h => by cases h

theorem refuse (n : Node) (cause : StepCause) : Ordinary (refuse n cause : Result α) := fun _ h => by cases h

/-- An internal failure after an ordinary result comes from what follows it. -/
theorem of_bind {x : Result α} {f : α → Result β} {text : String} (hx : Ordinary x)
    (h : (x >>= f) = .error (.internal text)) : ∃ a, x = .ok a ∧ f a = .error (.internal text) := by
  cases x with
  | error e => exact absurd (by simpa [Bind.bind, Except.bind] using h) (hx text)
  | ok a => exact ⟨a, rfl, h⟩

theorem bind {x : Result α} {f : α → Result β} (hx : Ordinary x) (hf : ∀ a, Ordinary (f a)) : Ordinary (x >>= f) := by
  intro text h
  obtain ⟨a, -, ha⟩ := hx.of_bind h
  exact hf a text ha

theorem input (s : Scene) (m : BakedMap) (n : Node) (port : String) (default : List Float) :
    Ordinary (input s m n port default) := by
  unfold Bake.input
  split
  · exact ok _
  · exact refuse n _
  · exact ok _

theorem scalar (s : Scene) (m : BakedMap) (n : Node) (port : String) (default : Float) :
    Ordinary (scalar s m n port default) :=
  (input s m n port [default]).bind fun _ => ok _

theorem pair (s : Scene) (m : BakedMap) (n : Node) (port : String) (default : Float × Float) :
    Ordinary (pair s m n port default) := by
  refine (input s m n port _).bind fun xs => ?_
  split <;> exact ok _

theorem geometry (s : Scene) (m : BakedMap) (n : Node) : Ordinary (geometry s m n) := by
  unfold Bake.geometry
  split
  · exact ok _
  · split
    · exact ok _
    · exact refuse n _

theorem transform (s : Scene) (m : BakedMap) (n : Node) : Ordinary (transform s m n) := by
  refine (geometry s m n).bind fun g => ?_
  split
  · exact refuse n _
  · refine (pair s m n _ _).bind fun _ => (pair s m n _ _).bind fun _ => (scalar s m n _ _).bind fun _ => ?_
    dsimp only
    split <;> exact ok _

end Ordinary

/-! ## Single grids -/

/-- The built-in schema bounds the parameter by a number, and its default keeps to the bound. -/
def Bounds (type key : String) (limit : Float) : Prop :=
  ((Schema.builtin.nodeType? type).bind fun t => t.params.get? key).any (fun p =>
    decide (p.type = .int ∧ p.max = some limit) && (p.default.bind Value.toFloats?).any fun xs =>
      match xs with
      | [x] => decide (¬limit < x)
      | _ => false) = true

/-- A parameter that a node states itself keeps to the bound of the schema. -/
theorem Bounds.floats? {type key : String} {limit : Float} (hbounds : Bounds type key limit)
    (hkey : key ∉ Images.sourceKeys) (htype : n.type = type) (hn : Schema.builtin.Conforms n) {xs : List Float}
    (hxs : n.floats? key = some xs) : ∃ x, xs = [x] ∧ ¬limit < x := by
  obtain ⟨p, hp, hfields⟩ := (Option.any_eq_true _ _).1 hbounds
  obtain ⟨t, ht, hdeclared⟩ := Option.bind_eq_some_iff.1 hp
  obtain ⟨hspec, hdefault⟩ := Bool.and_eq_true_iff.1 hfields
  obtain ⟨hint, hmax⟩ := of_decide_eq_true hspec
  obtain ⟨ys, hys, hsingle⟩ := (Option.any_eq_true _ _).1 hdefault
  obtain ⟨w, hw, hfloats⟩ := Option.bind_eq_some_iff.1 hys
  unfold Node.floats? Node.param at hxs
  cases hv : n.params.get? key with
  | none =>
    rw [hv] at hxs
    cases hxs
  | some v =>
    rw [hv] at hxs
    rcases hn t (htype ▸ ht) _ (Table.mem_of_get? hv) hkey p hdeclared with hnormal | hsame
    · cases hnormal with
      | number _ hwithin =>
        cases hxs
        exact ⟨_, rfl, hwithin.upper _ hmax⟩
      | bool h | text h | choice h | color h | other h => cases hint.symm.trans h
      | vector h => simp [hint] at h
    · cases hw.symm.trans hsame
      cases hfloats.symm.trans hxs
      split at hsingle
      · exact ⟨_, rfl, of_decide_eq_true hsingle⟩
      · cases hsingle

end Bake

/-! ## Planning -/

namespace PlanContext

variable {c : PlanContext} {n : Node}

/-- The node is an image, and its pixels, by the head of its file, take more than a piece of memory. -/
structure OverflowsAt (c : PlanContext) (n : Node) : Prop where
  node : c.prepared.node? n.id = some n
  image : n.type = "ImageTexture"
  file : ∃ bytes words, c.imageBytes? (Images.source? n) = some bytes ∧ c.decodeImage bytes = .error (.overflow words)

/-- Planning comes to an image that is too large. -/
def EndsAt (c : PlanContext) : Prop :=
  ∃ n st, Reaches (c.imageTexture n) st c.buildAll { plan := c.emptyPlan } ∧ c.OverflowsAt n

/-- The image in a file, before it is drawn in four bytes per pixel. -/
def readImage (c : PlanContext) (bytes : ByteArray) : Except ImageFault Image :=
  if Png.isPng bytes then Png.decode bytes else (c.environment.further bytes).map Subtype.val

theorem decodeImage_eq (bytes : ByteArray) : c.decodeImage bytes = c.readImage bytes >>= fun i =>
    ((Image.reserve (4 * i.width * i.height)).mapError .overflow).map fun _ => i := by
  unfold decodeImage readImage
  split
  all_goals
    refine bind_congr fun i => ?_
    dsimp only
    cases Image.reserve (4 * i.width * i.height) <;> rfl

/-- A file is too large if reading it asks for more than a piece of memory, or drawing what was read. -/
theorem decodeImage_eq_overflow {bytes : ByteArray} :
    (∃ words, c.decodeImage bytes = .error (.overflow words)) ↔
      (∃ words, c.readImage bytes = .error (.overflow words)) ∨
        ∃ i, c.readImage bytes = .ok i ∧ largestPiece < 4 * i.width * i.height := by
  rw [decodeImage_eq]
  cases c.readImage bytes with
  | error fault => simp [bind, Except.bind]
  | ok i =>
    simp only [bind, Except.bind, Except.ok.injEq, exists_eq_left', ← Image.reserve_eq_error]
    cases Image.reserve (4 * i.width * i.height) <;> simp [Except.mapError, Except.map]

/-- Reading a file in the built-in format asks for what its head says. -/
theorem readImage_eq_overflow {bytes : ByteArray} (hpng : Png.isPng bytes = true) :
    (∃ words, c.readImage bytes = .error (.overflow words)) ↔
      ∃ size, Png.reservation? bytes = some size ∧ largestPiece < size := by
  rw [readImage, if_pos hpng, Png.decode_eq_overflow]

/-- An internal failure of the computation comes from an image that is too large. -/
def Blames (c : PlanContext) {α : Type} (x : PlanM α) : Prop :=
  ∀ st words st', Raises x st (.internal words) st' → ∃ n mid, Reaches (c.imageTexture n) mid x st ∧ c.OverflowsAt n

theorem upload_raises {i : Image} {st st' : PlanState} {e : PlanError} (h : Raises (c.upload n i) st e st') :
    ∃ cause, e = .conflict cause := by
  unfold upload at h
  simp only [raises_bind, raises_pure, or_false, and_false, exists_false] at h
  rcases h with h | ⟨_, _, -, h⟩ <;> exact PlanM.raises_declare h

namespace Blames

variable {α β : Type} {x y : PlanM α}

theorem pure (a : α) : c.Blames (Pure.pure a : PlanM α) := fun _ _ _ h => absurd h (raises_pure _ _ _ _)

theorem throw {e : PlanError} (he : ∀ words, e ≠ .internal words) : c.Blames (throw e : PlanM α) :=
  fun _ words _ h => absurd ((raises_throw _ _ _ _).1 h).1.symm (he words)

theorem get : c.Blames get := fun _ _ _ h => by cases h

theorem set (st : PlanState) : c.Blames (set st : PlanM PUnit) := fun _ _ _ h => by cases h

theorem modify (f : PlanState → PlanState) : c.Blames (modify f : PlanM PUnit) := fun _ _ _ h => by cases h

theorem bind {f : α → PlanM β} (hx : c.Blames x) (hf : ∀ a, c.Blames (f a)) : c.Blames (x >>= f) := by
  intro st words st' h
  obtain h | ⟨a, mid, ha, h⟩ := (raises_bind _ _ _ _ _).1 h
  · obtain ⟨n, at', hreach, hn⟩ := hx st words st' h
    exact ⟨n, at', .first hreach, hn⟩
  · obtain ⟨n, at', hreach, hn⟩ := hf a mid words st' h
    exact ⟨n, at', .later ha hreach, hn⟩

theorem ite {p : Prop} [Decidable p] (hx : c.Blames x) (hy : c.Blames y) : c.Blames (if p then x else y) := by
  split
  · exact hx
  · exact hy

theorem ofSession (x : SessionM α) : c.Blames (PlanM.ofSession x) := by
  intro st words st' h
  obtain ⟨_, h⟩ := PlanM.raises_ofSession h
  cases h

theorem ofExpr (r : Except ExprError α) : c.Blames (PlanM.ofExpr r) := by
  intro st words st' h
  obtain ⟨_, h⟩ := PlanM.raises_ofExpr h
  cases h

theorem declare (f : Plan → Except ResourceConflict Plan) : c.Blames (PlanM.declare f) := by
  intro st words st' h
  obtain ⟨_, h⟩ := PlanM.raises_declare h
  cases h

theorem addPass (q : Pass) : c.Blames (PlanM.addPass q) := by
  refine .bind .get fun st => ?_
  split
  · exact .throw (by simp)
  · dsimp only
    split
    · exact .bind (.throw (by simp)) fun _ => .bind (.set _) fun _ => .modify _
    · exact .bind (.set _) fun _ => .modify _

theorem upload (n : Node) (i : Image) : c.Blames (c.upload n i) := by
  intro st words st' h
  obtain ⟨_, h⟩ := upload_raises h
  cases h

end Blames

/-! ### Textures -/

/-- Planning the texture of an image fails internally exactly if the image is too large. -/
theorem imageTexture_internal_iff (hn : c.prepared.node? n.id = some n) (himage : n.type = "ImageTexture")
    {st : PlanState} : (∃ words st', Raises (c.imageTexture n) st (.internal words) st') ↔ c.OverflowsAt n := by
  unfold imageTexture
  dsimp only
  constructor
  · rintro ⟨words, st', h⟩
    split at h
    · obtain h | ⟨_, _, -, h⟩ := (raises_bind _ _ _ _ _).1 h
      · cases h
      · obtain ⟨_, h⟩ := upload_raises h
        cases h
    · rename_i bytes hbytes
      split at h
      · obtain ⟨_, h⟩ := upload_raises h
        cases h
      · cases h
      · rename_i words hfile
        exact ⟨hn, himage, bytes, words, hbytes, hfile⟩
  · rintro ⟨-, -, bytes, words, hbytes, hfile⟩
    exact ⟨words, st, by rw [hbytes]; dsimp only; rw [hfile]; rfl⟩

theorem imageTexture_blames (hn : c.prepared.node? n.id = some n) (himage : n.type = "ImageTexture") :
    c.Blames (c.imageTexture n) :=
  fun st words st' h => ⟨n, st, .here, (imageTexture_internal_iff hn himage).1 ⟨words, st', h⟩⟩

variable (hp : c.prepared.Valid)
include hp

/-- Baking has drawn the texts, so planning does not. -/
theorem textTexture_blames (hn : c.prepared.node? n.id = some n) (htext : n.type = "Text") :
    c.Blames (c.textTexture n) := by
  obtain ⟨i, hi⟩ := hp.pixels?_text hn htext
  unfold textTexture
  rw [hi]
  exact .upload n i

theorem sourceTexture_blames (id : String) : c.Blames (c.sourceTexture id) := by
  unfold sourceTexture
  split
  · exact .pure _
  · split
    · exact .throw (by simp)
    · rename_i m hm
      have hself := Prepared.node?_self hm
      split
      · exact imageTexture_blames hself ‹_›
      · exact textTexture_blames hp hself ‹_›
      · exact .throw (by simp)

theorem wiredTexture_blames : c.Blames (c.wiredTexture n) := by
  refine .bind (.ofSession _) fun e => .ite ?_ (sourceTexture_blames hp _)
  exact .bind (.throw (by simp)) fun _ => sourceTexture_blames hp _

theorem bindingsFrom_blames (keys : List String) (i : Nat) : c.Blames (c.bindingsFrom i keys) := by
  induction keys generalizing i with
  | nil => exact .pure _
  | cons key rest ih =>
    unfold bindingsFrom
    refine .bind .get fun st => ?_
    split
    · exact ih _
    · exact .bind (sourceTexture_blames hp _) fun _ => .bind (.declare _) fun _ => .bind (ih _) fun _ => .pure _

/-! ### Passes -/

omit hp in
theorem withGeometry_blames (geometry : Geometry) (q : Pass) : c.Blames (c.withGeometry geometry q) := by
  refine .ite (.pure _) (.bind (.declare _) fun _ => ?_)
  exact .ite (.pure _) (.bind (.declare _) fun _ => .pure _)

theorem renderPass_blames (n : Node) (r : Route) : c.Blames (c.renderPass n r) :=
  .bind (.ofSession _) fun _ => .bind (.ofSession _) fun _ => .bind (.ofExpr _) fun _ =>
    .bind (bindingsFrom_blames hp _ _) fun _ => .bind (withGeometry_blames _ _) fun _ => .bind .get fun _ => .addPass _

omit hp in
theorem effect_blames (e : Effect) : c.Blames e.plan := by
  have hsamplers : ∀ inputs, c.Blames (Effect.declareSamplers inputs) := by
    intro inputs
    induction inputs with
    | nil => exact .pure _
    | cons i rest ih => exact .bind (.declare _) fun _ => ih
  exact .bind (hsamplers _) fun _ => .addPass _

omit hp in
theorem scratch_blames (n : Node) (name : String) (r : Route) (divisor : Int) :
    c.Blames (scratch n name r divisor) := by
  unfold scratch
  split
  · exact .throw (by simp)
  · exact .declare _

theorem blit_blames (n : Node) (r : Route) : c.Blames (c.blit n r) :=
  .bind (wiredTexture_blames hp) fun _ => .bind (.ofExpr _) fun _ => effect_blames _

omit hp in
theorem blurRounds_blames (n : Node) (first second : String) (radius : Code) (rounds i : Nat) (source : String) :
    c.Blames (blurRounds n first second radius rounds i source) := by
  induction rounds generalizing i source with
  | zero => exact .pure _
  | succ rounds ih => exact .bind (effect_blames _) fun _ => .bind (effect_blames _) fun _ => ih _ _

theorem blur_blames (n : Node) (r : Route) : c.Blames (c.blur n r) :=
  .bind (wiredTexture_blames hp) fun _ => .bind (.ofExpr _) fun _ => .bind (.ofSession _) fun _ =>
    .bind (scratch_blames _ _ _ _) fun _ => .bind (scratch_blames _ _ _ _) fun _ =>
      .bind (blurRounds_blames _ _ _ _ _ _ _) fun _ => effect_blames _

omit hp in
theorem planAll_blames (es : List Effect) : c.Blames (planAll es) := by
  induction es with
  | nil => exact .pure _
  | cons e rest ih => exact .bind (effect_blames e) fun _ => ih

omit hp in
theorem bloomLevels_blames (n : Node) (name : String) (r : Route) (levels : List Nat) :
    c.Blames (bloomLevels n name r levels) := by
  induction levels with
  | nil => exact .pure _
  | cons i rest ih => exact .bind (scratch_blames _ _ _ _) fun _ => ih

theorem bloom_blames (n : Node) (r : Route) : c.Blames (c.bloom n r) :=
  .bind (wiredTexture_blames hp) fun _ => .bind (.ofExpr _) fun _ => .bind (.ofSession _) fun _ =>
    .bind (.ofSession _) fun _ => .bind (bloomLevels_blames _ _ _ _) fun _ => .bind (effect_blames _) fun _ =>
      .bind (planAll_blames _) fun _ => .bind (planAll_blames _) fun _ => effect_blames _

/-! ### Turns of nodes -/

omit hp in
theorem markDrawn_blames (id : String) : c.Blames (markDrawn id) :=
  .bind .get fun _ => .ite (.pure _) (.bind (.set _) fun _ => .pure _)

omit hp in
theorem routeOf_blames (id : String) : c.Blames (c.routeOf id) := by
  unfold routeOf
  split
  · exact .pure _
  · exact .throw (by simp)

theorem draw_blames (n : Node) : c.Blames (c.draw n) := by
  refine .bind (markDrawn_blames _) fun _ => .ite (.pure _) (.bind (routeOf_blames _) fun r => ?_)
  split
  · exact renderPass_blames hp n r
  · exact blit_blames hp n r
  · exact blur_blames hp n r
  · exact bloom_blames hp n r
  · exact .throw (by simp)

omit hp in
theorem compose_blames (layer : String) (source target : Domain) : c.Blames (compose layer source n target) := by
  refine .bind .get fun st => .ite (.modify _) ?_
  exact .bind (.set _) fun _ => .bind (.ofExpr _) fun _ => effect_blames _

theorem layers_blames {inner : Node → PlanM Unit} (hinner : ∀ n, c.Blames (inner n)) (n : Node) (r : Route)
    (ls : List Layer) : c.Blames (c.layers inner n r ls) := by
  induction ls with
  | nil => exact .pure _
  | cons l rest ih =>
    refine .bind ?_ fun _ => ih
    unfold layer
    split
    · exact .ite (.ite (hinner _) (.ite (draw_blames hp _) (.pure _))) (compose_blames _ _ _)
    · exact .pure _

theorem compositeWithin_blames (depth : Nat) (n : Node) : c.Blames (c.compositeWithin depth n) := by
  induction depth generalizing n with
  | zero => exact .pure _
  | succ depth ih =>
    refine .bind (markDrawn_blames _) fun _ => .ite (.pure _) (.bind (routeOf_blames _) fun r => ?_)
    exact layers_blames hp ih n r r.layers

theorem node_blames (n : Node) : c.Blames (c.node n) := by
  unfold node
  refine .ite (.ite (.pure _) (compositeWithin_blames hp _ n)) (.ite ?_ (.ite ?_ (.pure _)))
  · split
    · exact .ite (draw_blames hp n) (.pure _)
    · exact .pure _
  · exact .bind .get fun _ => .ite (.pure _) (.addPass _)

theorem nodes_blames (ids : List String) : c.Blames (c.nodes ids) := by
  induction ids with
  | nil => exact .pure _
  | cons id rest ih =>
    unfold nodes
    split
    · exact .bind (node_blames hp _) fun _ => ih
    · exact ih

/-! ### Whole plans -/

omit hp in
theorem declareTargets_blames (ids : List String) : c.Blames (c.declareTargets ids) := by
  induction ids with
  | nil => exact .pure _
  | cons id rest ih =>
    unfold declareTargets
    split
    · refine .bind ?_ fun _ => ih
      unfold declareTarget
      split
      · exact .throw (by simp)
      · exact .declare _
    · exact ih

theorem buildAll_blames : c.Blames c.buildAll := by
  have hpresent : c.Blames c.present :=
    .ite (.pure _) (.bind (.declare _) fun _ => .bind (.modify _) fun _ => effect_blames _)
  have hparams : c.Blames declareParams := .bind .get fun _ => .bind (.set _) fun _ => .declare _
  exact .bind (declareTargets_blames _) fun _ => .bind (nodes_blames hp _) fun _ => .bind hpresent fun _ =>
    .bind hparams fun _ => .bind .get fun _ => .modify _

omit hp in
/-- Building a plan fails with what its stages fail with. -/
theorem raises_build {log : List LogEntry} {e : PlanError} :
    (∃ log', Raises c.build log e log') ↔ ∃ st, Raises c.buildAll { plan := c.emptyPlan } e st := by
  unfold build Raises
  rcases c.buildAll.run.run { plan := c.emptyPlan } with ⟨e' | a, st⟩
  · constructor
    · rintro ⟨_, h⟩
      cases h
      exact ⟨st, rfl⟩
    · rintro ⟨_, h⟩
      cases h
      exact ⟨_, rfl⟩
  · constructor
    · rintro ⟨_, h⟩
      cases h
    · rintro ⟨_, h⟩
      cases h

/-- Planning fails internally exactly if it comes to an image that is too large. -/
theorem build_internal_iff {log : List LogEntry} :
    (∃ words log', Raises c.build log (.internal words) log') ↔ c.EndsAt := by
  simp only [raises_build]
  constructor
  · rintro ⟨words, st, h⟩
    exact buildAll_blames hp _ words st h
  · rintro ⟨n, mid, hreach, hn⟩
    obtain ⟨words, st, h⟩ := (imageTexture_internal_iff hn.node hn.image).2 hn
    exact ⟨words, st, hreach.raises h⟩

end PlanContext

/-! ## Preparation and compilation -/

/-- What planning works on in a compilation. -/
def Compiler.context (c : Compiler) (p : Prepared) (r : Routes) : PlanContext :=
  { prepared := p, routes := r, registry := c.registry, environment := c.environment }

/-- An image whose file ends after a head that asks for 2⁶⁰ bytes. -/
def Scene.towering : Scene where
  nodes := [{ id := "screen", type := "Screen" },
    { id := "image", type := "ImageTexture", params := [("dataUrl", .str ("data:image/png;base64," ++
      "iVBORw0KGgoAAAANSUhEUiAAAAAgAAAACAYAAAAKBLVEAAAAAklEQVR4nGKkkSsAAAAASUVORK5CYII="))] },
    { id := "show", type := "Blit" }]
  connections := [{ id := "c0", source := ⟨"image", "texture"⟩, target := ⟨"show", "texture"⟩ },
    { id := "c1", source := ⟨"show", "pass"⟩, target := ⟨"screen", "pass"⟩ }]
  outputs := [("main", "screen")]

theorem Scene.towering_checks : ((Schema.builtin.validate Scene.towering).toOption.any fun valid =>
    (valid.prepare Schema.builtin {}).outcome.1.toOption.any fun p => p.resolve.outcome.1.toOption.any fun r =>
      match (({} : Compiler).context p r).build.outcome.1 with
      | .error (.internal _) => true
      | _ => false) = true := by
  rw [Schema.builtin_eq]
  decide +kernel

/-- A valid scene whose planning comes to an image that is too large. -/
theorem Scene.towering_ends : ∃ valid p r, Schema.builtin.validate Scene.towering = .ok valid ∧
    (valid.prepare Schema.builtin {}).outcome.1 = .ok p ∧ p.resolve.outcome.1 = .ok r ∧
    (({} : Compiler).context p r).EndsAt := by
  obtain ⟨valid, hvalid, hchecks⟩ := (Option.any_eq_true _ _).1 Scene.towering_checks
  obtain ⟨p, hprepare, hchecks⟩ := (Option.any_eq_true _ _).1 hchecks
  obtain ⟨r, hresolve, hfails⟩ := (Option.any_eq_true _ _).1 hchecks
  have hprepare := eq_ok_of_toOption hprepare
  refine ⟨valid, p, r, eq_ok_of_toOption hvalid, hprepare, eq_ok_of_toOption hresolve, ?_⟩
  split at hfails
  · rename_i words he
    obtain ⟨log, h⟩ := (outcome_eq_error _ _).1 he
    exact (PlanContext.build_internal_iff (Scene.prepare_valid hprepare)).1 ⟨words, log, h⟩
  · cases hfails

end SceneGraph
