import Mathlib.Tactic.Ring
import SceneGraph.Plan.Builder
import SceneGraph.Proofs.Prepared

/-!
# Images are filled

Every image that planning uploads holds four bytes for each of its pixels: decoded files, rasterized
texts, the placeholder, and the texts that preparation has baked.

* `PlanContext.decodeImage_filled`, `Text.rasterize_filled`: images from files and texts.
* `Bake.nodes_keeps`: what every result that is put keeps, baking keeps.
* `Bake.constants_filled`, `Prepared.Valid.pixels?_text`: baked images.
-/
set_option autoImplicit false

namespace SceneGraph

/-! ## Files -/

theorem Rgba.bytes_size (pixels : List Rgba) : (Rgba.bytes pixels).size = 4 * pixels.length := by
  have hfold : ∀ out : ByteArray,
      (pixels.foldl (fun out p => (((out.push p.r).push p.g).push p.b).push p.a) out).size
        = out.size + 4 * pixels.length := by
    induction pixels with
    | nil => simp
    | cons p rest ih =>
      intro out
      rw [List.foldl_cons, ih]
      simp only [ByteArray.size_push, List.length_cons]
      omega
  simpa [Rgba.bytes] using hfold .empty

theorem length_flatMap_of_forall {α β : Type} (xs : List α) (f : α → List β) (k : Nat)
    (h : ∀ x ∈ xs, (f x).length = k) : (xs.flatMap f).length = k * xs.length := by
  induction xs with
  | nil => rfl
  | cons x rest ih =>
    rw [List.flatMap_cons, List.length_append, h x List.mem_cons_self,
      ih fun y hy => h y (List.mem_cons_of_mem x hy), List.length_cons]
    ring

theorem Png.draw_size {s : Png.Setup} {h : Png.Header} {passes : List Png.Pass} {data : List UInt8}
    {image result : Array Rgba} (hdraw : s.draw h passes data image = some result) : result.size = image.size := by
  induction passes generalizing data image with
  | nil =>
    simp only [Png.Setup.draw] at hdraw
    split at hdraw
    · cases hdraw
      rfl
    · cases hdraw
  | cons p rest ih =>
    simp only [Png.Setup.draw] at hdraw
    split at hdraw
    · exact ih hdraw
    · simp only [bind, Option.bind_eq_some_iff] at hdraw
      obtain ⟨⟨rows, more⟩, _, hdraw⟩ := hdraw
      rw [ih hdraw]
      refine List.foldlRecOn (motive := fun im : Array Rgba => im.size = image.size) _ _ rfl ?_
      intro drawn hdrawn row _
      refine List.foldlRecOn (motive := fun im : Array Rgba => im.size = image.size) _ _ hdrawn ?_
      intro drawn' hdrawn' x _
      rw [Array.size_setIfInBounds, hdrawn']

theorem Png.decode?_filled {file : ByteArray} {i : Image} (h : Png.decode? file = some i) : i.Filled := by
  unfold Png.decode? at h
  simp only [bind, Option.bind_eq_some_iff, Option.bind_none, Option.ite_none_left_eq_some] at h
  obtain ⟨_, _, _, setup, _, header, _, _, _, _, _, _, _, pixels, hpixels, h⟩ := h
  cases h
  have hsize := Png.draw_size hpixels
  rw [Array.size_replicate] at hsize
  simp only [Image.Filled, Rgba.bytes_size, Array.length_toList, hsize]
  ring

theorem Png.decode_filled {file : ByteArray} {i : Image} (h : Png.decode file = .ok i) : i.Filled := by
  unfold Png.decode at h
  split at h
  · cases h
  · cases hi : Png.decode? file with
    | none => simp [hi] at h
    | some j =>
      simp only [hi, Option.elim_some, Except.ok.injEq] at h
      exact h ▸ Png.decode?_filled hi

namespace PlanContext

variable {c c' : PlanContext}

theorem imageBytes?_congr (h : c.environment = c'.environment) : c.imageBytes? = c'.imageBytes? := by
  funext source
  unfold imageBytes?
  rw [h]

theorem decodeImage_congr (h : c.environment = c'.environment) : c.decodeImage = c'.decodeImage := by
  funext bytes
  unfold decodeImage
  rw [h]

theorem decodeImage_filled {bytes : ByteArray} {i : Image} (h : c.decodeImage bytes = .ok i) : i.Filled := by
  unfold decodeImage at h
  split at h
  · simp only [bind, Except.bind] at h
    split at h
    · cases h
    · rename_i j hj
      split at h
      · cases h
        exact Png.decode_filled hj
      · cases h
  · cases hread : c.environment.further bytes with
    | error e => simp [hread, Except.map, bind, Except.bind] at h
    | ok j =>
      simp only [hread, Except.map, bind, Except.bind] at h
      split at h
      · cases h
        exact j.property
      · cases h

theorem placeholder_filled : placeholder.Filled := rfl

end PlanContext

/-! ## Texts -/

namespace Text

theorem pushPixel_size (c : Rgba) (n : Nat) (out : ByteArray) :
    (pushPixel c n out).size = out.size + 4 * n := by
  induction n generalizing out with
  | zero => simp [pushPixel]
  | succ n ih =>
    rw [pushPixel, ih]
    simp only [ByteArray.size_push]
    omega

theorem rowBytes_size (color : Rgba) (scale : Nat) (row : List Bool) :
    (rowBytes color scale row).size = 4 * scale * row.length := by
  have hfold : ∀ out : ByteArray,
      (row.foldl (fun out set => pushPixel (if set then color else ⟨0, 0, 0, 0⟩) scale out) out).size
        = out.size + 4 * scale * row.length := by
    induction row with
    | nil => simp
    | cons set rest ih =>
      intro out
      rw [List.foldl_cons, ih, pushPixel_size, List.length_cons]
      ring
  simpa [rowBytes] using hfold .empty

theorem pushRepeated_size (bytes : ByteArray) (n : Nat) (out : ByteArray) :
    (pushRepeated bytes n out).size = out.size + n * bytes.size := by
  induction n generalizing out with
  | zero => simp [pushRepeated]
  | succ n ih =>
    rw [pushRepeated, ih, ByteArray.size_append]
    ring

theorem length_rowOf (face : Face) (width row : Nat) (line : List Char) :
    (face.rowOf width row line).length = width := by
  simp only [Face.rowOf, List.length_append, List.length_replicate, List.length_take]
  omega

/-- A fold that adds the same number of bytes at every step. -/
theorem foldl_size {α : Type} (xs : List α) (f : ByteArray → α → ByteArray) (k : Nat) (out : ByteArray)
    (h : ∀ out, ∀ x ∈ xs, (f out x).size = out.size + k) : (xs.foldl f out).size = out.size + k * xs.length := by
  induction xs generalizing out with
  | nil => simp
  | cons x rest ih =>
    rw [List.foldl_cons, ih _ fun out' y hy => h out' y (List.mem_cons_of_mem x hy), h out x List.mem_cons_self,
      List.length_cons]
    ring

theorem rasterize_filled {face : Face} {s : String} {color : Rgba} {scale : Int} {i : Image}
    (h : rasterize face s color scale = .ok i) : i.Filled := by
  unfold rasterize at h
  simp only [bind, Except.bind, pure, Except.pure] at h
  generalize lines (face.normalize s) = ls at h
  generalize face.width ls = width at h
  generalize max scale.toNat 1 = k at h
  split at h
  · cases h
    rfl
  · split at h
    · cases h
    · split at h
      · cases h
      · cases h
        have hsize := foldl_size ls (fun out line =>
          (List.range face.lineHeight).foldl (fun out row =>
            pushRepeated (rowBytes color k (face.rowOf width row line)) k out) out)
          (k * (4 * k * width) * face.lineHeight) .empty (by
            intro out line _
            rw [foldl_size _ _ (k * (4 * k * width)), List.length_range]
            intro out' row _
            rw [pushRepeated_size, rowBytes_size, length_rowOf])
        simp only [Image.Filled, hsize, ByteArray.size_empty]
        ring

end Text

/-! ## Baked images -/

/-- A baked image is filled. -/
def Baked.Filled : Baked → Prop
  | .pixels i => i.Filled
  | _ => True

namespace BakedMap

theorem get?_put (m : BakedMap) (node port : String) (b : Baked) (key : BakeKey) :
    (m.put node port b).get? key = if key = ⟨node, port, b.kind⟩ then some b else m.get? key := by
  unfold put get?
  generalize (⟨node, port, b.kind⟩ : BakeKey) = own
  dsimp only
  split
  · rename_i hany
    -- Replacing an entry leaves the keys of all entries as they are.
    have hkeys : ((fun e : BakeKey × Baked => decide (e.1 = key)) ∘ fun e => if e.1 = own then (own, b) else e) =
        fun e => decide (e.1 = key) := by
      funext e
      by_cases he : e.1 = own <;> simp [he]
    rw [List.find?_map, hkeys]
    cases hfind : m.find? fun e => e.1 = key with
    | none =>
      have hne : key ≠ own := by
        rintro rfl
        obtain ⟨e, he, hkey⟩ := List.any_eq_true.1 hany
        exact List.find?_eq_none.1 hfind e he hkey
      simp [hne]
    | some e =>
      have hkey : e.1 = key := by simpa using List.find?_some hfind
      by_cases hown : key = own <;> simp [hkey, hown]
  · rename_i hany
    rw [List.find?_append]
    by_cases hown : key = own
    · subst hown
      have hnone : m.find? (fun e => e.1 = key) = none :=
        List.find?_eq_none.2 fun e he hkey => hany (List.any_eq_true.2 ⟨e, he, hkey⟩)
      simp [hnone]
    · simp [hown, Ne.symm hown]

theorem pixels?_put_isSome {m : BakedMap} {e : Endpoint} (node port : String) (b : Baked)
    (h : (m.pixels? e).isSome = true) : ((m.put node port b).pixels? e).isSome = true := by
  unfold pixels? at h ⊢
  rw [get?_put]
  by_cases hkey : (⟨e.node, e.port, .pixels⟩ : BakeKey) = ⟨node, port, b.kind⟩
  · rw [if_pos hkey]
    have hkind := congrArg BakeKey.kind hkey
    cases b <;> first | rfl | cases hkind
  · rw [if_neg hkey]
    exact h

end BakedMap

namespace Bake

variable {face : Text.Face} {t : Scene} {m : BakedMap} {n : Node}

/-- What every result that is put keeps, as long as it is a filled image if it is one, baking a node keeps. -/
theorem value_keeps {P : BakedMap → Prop} {s : Scene} {m : BakedMap} {n : Node}
    (hput : ∀ m node port b, Baked.Filled b → P m → P (m.put node port b)) (h : P m) : P (value s m n) := by
  unfold value
  split
  · exact h
  · rename_i port xs _
    have hvalue : P (m.put n.id port (.value xs)) := hput _ _ _ _ trivial h
    simp only
    split
    · exact List.foldlRecOn _ _ hvalue fun m' hm' c _ => hput _ _ _ _ trivial hm'
    · exact hvalue

theorem node_keeps {P : BakedMap → Prop} {face : Text.Face} {s : Scene} {m m' : BakedMap} {n : Node}
    (hput : ∀ m node port b, Baked.Filled b → P m → P (m.put node port b)) (h : P m)
    (hrun : node face s m n = .ok m') : P m' := by
  unfold node at hrun
  split at hrun
  · simp only [rect, bind, Except.bind] at hrun
    repeat' split at hrun
    all_goals cases hrun
    exact hput _ _ _ _ trivial h
  · simp only [disc, outOfRange, bind, Except.bind] at hrun
    repeat' split at hrun
    all_goals cases hrun
    exact hput _ _ _ _ trivial h
  · simp only [transform, refuse, bind, Except.bind] at hrun
    repeat' split at hrun
    all_goals cases hrun
    · exact hput _ _ _ _ trivial (hput _ _ _ _ trivial h)
    · exact hput _ _ _ _ trivial h
  · simp only [instances, refuse, outOfRange, bind, Except.bind] at hrun
    repeat' split at hrun
    all_goals cases hrun
    all_goals exact hput _ _ _ _ trivial (hput _ _ _ _ trivial h)
  · unfold text at hrun
    split at hrun
    · rename_i i hi
      cases hrun
      exact hput _ _ _ (.pixels i) (Text.rasterize_filled hi) h
    · cases hrun
  · cases hrun
    exact value_keeps hput h

theorem nodes_missing {id : String} {rest : List String} {start : BakedMap} (h : t.indexed? id = none) :
    nodes face t (id :: rest) start = nodes face t rest start := by
  rw [nodes, h]

theorem nodes_found {id : String} {rest : List String} {start : BakedMap} (h : t.indexed? id = some n) :
    nodes face t (id :: rest) start = (node face t start n >>= nodes face t rest) := by
  rw [nodes, h]

theorem nodes_found_ok {id : String} {rest : List String} {start : BakedMap} (h : t.indexed? id = some n) :
    nodes face t (id :: rest) start = .ok m ↔
      ∃ next, node face t start n = .ok next ∧ nodes face t rest next = .ok m := by
  rw [nodes_found h]
  cases node face t start n <;> simp [bind, Except.bind]

theorem nodes_keeps {P : BakedMap → Prop} {ids : List String} {start : BakedMap}
    (hput : ∀ m node port b, Baked.Filled b → P m → P (m.put node port b)) (h : P start)
    (hrun : nodes face t ids start = .ok m) : P m := by
  induction ids generalizing start with
  | nil =>
    cases hrun
    exact h
  | cons id rest ih =>
    cases hn : t.indexed? id with
    | none => exact ih h (nodes_missing hn ▸ hrun)
    | some n =>
      obtain ⟨next, hnode, hrest⟩ := (nodes_found_ok hn).1 hrun
      exact ih (node_keeps hput h hnode) hrest

/-- All baked images are filled. -/
def AllFilled (m : BakedMap) : Prop := ∀ e ∈ m, e.2.Filled

theorem AllFilled.put {m : BakedMap} (h : AllFilled m) (node port : String) {b : Baked} (hb : b.Filled) :
    AllFilled (m.put node port b) := by
  simp only [BakedMap.put]
  split
  · intro e he
    obtain ⟨e', he', rfl⟩ := List.mem_map.1 he
    split
    · exact hb
    · exact h e' he'
  · intro e he
    rcases List.mem_append.1 he with he | he
    · exact h e he
    · obtain rfl := List.mem_singleton.1 he
      exact hb

theorem constants_filled {order : List String} (h : constants face t order = .ok m) : AllFilled m :=
  nodes_keeps (fun _ node port _ hb hm => hm.put node port hb) (by intro e he; cases he) h

/-- Baking a text leaves an image for it. -/
theorem pixels?_of_nodes {order : List String} {start : BakedMap} (hrun : nodes face t order start = .ok m)
    (hid : n.id ∈ order) (hn : t.indexed? n.id = some n) (htext : n.type = "Text") :
    (m.pixels? ⟨n.id, "texture"⟩).isSome = true := by
  have hput : ∀ m node port b, Baked.Filled b → (BakedMap.pixels? m ⟨n.id, "texture"⟩).isSome = true →
      ((m.put node port b).pixels? ⟨n.id, "texture"⟩).isSome = true := fun m node port b _ h =>
    BakedMap.pixels?_put_isSome node port b h
  induction order generalizing start with
  | nil => cases hid
  | cons id rest ih =>
    cases hfound : t.indexed? id with
    | none =>
      refine ih (nodes_missing hfound ▸ hrun) ((List.mem_cons.1 hid).resolve_left ?_)
      rintro rfl
      cases hn.symm.trans hfound
    | some k =>
      obtain ⟨next, hnode, hrest⟩ := (nodes_found_ok hfound).1 hrun
      rcases List.mem_cons.1 hid with rfl | hid
      · cases hn.symm.trans hfound
        refine nodes_keeps hput ?_ hrest
        unfold node at hnode
        rw [htext] at hnode
        simp only [text] at hnode
        split at hnode
        · cases hnode
          simp [BakedMap.pixels?, BakedMap.get?_put, Baked.kind]
        · cases hnode
      · exact ih hrest hid

end Bake

theorem Prepared.Valid.pixels?_filled {p : Prepared} (hp : p.Valid) {e : Endpoint} {i : Image}
    (h : p.baked.pixels? e = some i) : i.Filled := by
  unfold BakedMap.pixels? at h
  split at h
  · rename_i j hj
    cases h
    obtain ⟨entry, hentry, hvalue⟩ := Option.map_eq_some_iff.1 hj
    obtain ⟨face, hbaked⟩ := hp.baked
    have hfilled := Bake.constants_filled hbaked entry (List.mem_of_find?_eq_some hentry)
    rw [hvalue] at hfilled
    exact hfilled
  · cases h

/-- The texts of a prepared scene are baked. -/
theorem Prepared.Valid.pixels?_text {p : Prepared} (hp : p.Valid) {n : Node} (hn : p.node? n.id = some n)
    (htext : n.type = "Text") : ∃ i, p.baked.pixels? ⟨n.id, "texture"⟩ = some i := by
  obtain ⟨face, hbaked⟩ := hp.baked
  exact Option.isSome_iff_exists.1 (Bake.pixels?_of_nodes hbaked ((hp.mem_order n.id).2 ⟨n, hn⟩) hn htext)

end SceneGraph
