import Mathlib.Data.List.Forall2
import Mathlib.Tactic.Ring
import SceneGraph.Plan.Blend
import SceneGraph.Space.Signature

/-!
# The signature stream can be read back

Every text and every list in the stream of a space comes after its length, and everything else has a
fixed number of bytes, so the stream says where each part of it ends. Two spaces with one stream agree
on everything that the stream holds.

* `Signature.Delimits`: a part determines its item and the place where it ends.
* `Space.Short`: the lengths of all texts and lists fit their words.
* `Space.Agrees`: two spaces agree on everything that the stream holds. Of the kind of a buffer, that is a word.
* `Signature.ofSpace_delimits`: the stream of a space determines it up to agreement.
* `Space.kinds_collide`: it does not determine the kinds of buffers.
-/
set_option autoImplicit false

namespace SceneGraph

/-! ## Bytes of texts -/

namespace Text

theorem toList_loop (bytes : ByteArray) (i : Nat) (acc : List UInt8) :
    ByteArray.toList.loop bytes i acc = acc.reverse ++ bytes.data.toList.drop i := by
  have hsize : bytes.data.toList.length = bytes.size := rfl
  induction hk : bytes.size - i generalizing i acc with
  | zero =>
    rw [ByteArray.toList.loop.eq_def, if_neg (by omega), List.drop_eq_nil_of_le (by omega), List.append_nil]
  | succ k ih =>
    have hi : i < bytes.data.toList.length := by omega
    have hget : bytes.get! i = bytes.data.toList[i] := getElem!_pos bytes.data i hi
    rw [ByteArray.toList.loop.eq_def, if_pos (by omega), ih (i + 1) _ (by omega), List.drop_eq_getElem_cons hi,
      List.reverse_cons, List.append_assoc, hget]
    rfl

theorem toList_eq_data (bytes : ByteArray) : bytes.toList = bytes.data.toList := by
  have h := toList_loop bytes 0 []
  simpa [ByteArray.toList] using h

theorem length_toList (bytes : ByteArray) : bytes.toList.length = bytes.size := by
  rw [toList_eq_data]
  rfl

theorem toBytes_injective {s t : String} (h : (toBytes s).toList = (toBytes t).toList) : s = t := by
  rw [toList_eq_data, toList_eq_data] at h
  exact String.toByteArray_inj.1 (ByteArray.ext (Array.toList_inj.1 h))

end Text

namespace Signature

/-! ## Parts that say where they end -/

/-- Where the parts of two items begin one stream, the items are related, and what follows them is one
stream again. -/
def Delimits {α : Type} (P : α → Prop) (R : α → α → Prop) (part : α → List UInt8) : Prop :=
  ∀ a b r r', P a → P b → part a ++ r = part b ++ r' → R a b ∧ r = r'

theorem word_inj {m n : UInt32} {r r' : List UInt8} (h : word m ++ r = word n ++ r') : m = n ∧ r = r' := by
  simp only [word, Bytes.ofUInt32, List.cons_append, List.nil_append, List.cons.injEq] at h
  obtain ⟨h0, h1, h2, h3, hr⟩ := h
  refine ⟨UInt32.toNat_inj.1 ?_, hr⟩
  have b0 := congrArg UInt8.toNat h0
  have b1 := congrArg UInt8.toNat h1
  have b2 := congrArg UInt8.toNat h2
  have b3 := congrArg UInt8.toNat h3
  have hm := m.toNat_lt
  have hn := n.toNat_lt
  simp only [UInt32.toNat_toUInt8, UInt32.toNat_shiftRight, UInt32.toNat_ofNat, Nat.shiftRight_eq_div_pow,
    Nat.reduceMod, Nat.reducePow] at b0 b1 b2 b3 hm hn
  omega

theorem flag_inj {a b : Bool} {r r' : List UInt8} (h : flag a ++ r = flag b ++ r') : a = b ∧ r = r' := by
  cases a <;> cases b <;> simp_all [flag]

theorem length_inj {m n : Nat} {r r' : List UInt8} (hm : m < 2 ^ 32) (hn : n < 2 ^ 32)
    (h : word m.toUInt32 ++ r = word n.toUInt32 ++ r') : m = n ∧ r = r' := by
  obtain ⟨hword, hr⟩ := word_inj h
  have hnat := congrArg UInt32.toNat hword
  rw [Nat.toUInt32_eq, Nat.toUInt32_eq, UInt32.toNat_ofNat_of_lt' hm, UInt32.toNat_ofNat_of_lt' hn] at hnat
  exact ⟨hnat, hr⟩

/-- The number of bytes of a text fits a word. -/
def ShortText (s : String) : Prop := (Text.toBytes s).size < 2 ^ 32

theorem text_inj {s t : String} {r r' : List UInt8} (hs : ShortText s) (ht : ShortText t)
    (h : text s ++ r = text t ++ r') : s = t ∧ r = r' := by
  unfold text at h
  rw [List.append_assoc, List.append_assoc] at h
  obtain ⟨hlen, h⟩ := length_inj (by rwa [Text.length_toList]) (by rwa [Text.length_toList]) h
  obtain ⟨hbytes, hr⟩ := List.append_inj h hlen
  exact ⟨Text.toBytes_injective hbytes, hr⟩

theorem list_inj {α : Type} {P : α → Prop} {R : α → α → Prop} {part : α → List UInt8} (hpart : Delimits P R part)
    {xs ys : List α} {r r' : List UInt8} (hx : xs.length < 2 ^ 32) (hy : ys.length < 2 ^ 32)
    (hxs : ∀ x ∈ xs, P x) (hys : ∀ y ∈ ys, P y) (h : list part xs ++ r = list part ys ++ r') :
    List.Forall₂ R xs ys ∧ r = r' := by
  unfold list at h
  rw [List.append_assoc, List.append_assoc] at h
  obtain ⟨hlen, hitems⟩ := length_inj hx hy h
  clear hx hy h
  induction xs generalizing ys with
  | nil =>
    obtain rfl := List.length_eq_zero_iff.1 hlen.symm
    exact ⟨.nil, hitems⟩
  | cons x xs ih =>
    obtain ⟨y, ys, rfl⟩ := List.exists_cons_of_length_eq_add_one hlen.symm
    rw [List.flatMap_cons, List.flatMap_cons, List.append_assoc, List.append_assoc] at hitems
    obtain ⟨hxy, hmore⟩ := hpart x y _ _ (hxs x (by simp)) (hys y (by simp)) hitems
    have hlen' : xs.length = ys.length := by simpa using hlen
    obtain ⟨hrest, hr⟩ := ih (fun z hz => hxs z (List.mem_cons_of_mem x hz))
      (fun z hz => hys z (List.mem_cons_of_mem y hz)) hlen' hmore
    exact ⟨.cons hxy hrest, hr⟩

/-! ## Numbers of states -/

theorem format_inj {a b : TextureFormat} (h : a.number = b.number) : a = b := by
  cases a <;> cases b <;> first | rfl | exact absurd h (by decide)

theorem load_inj {a b : LoadOp} (h : a.number = b.number) : a = b := by
  cases a <;> cases b <;> first | rfl | exact absurd h (by decide)

theorem address_inj {a b : AddressMode} (h : a.number = b.number) : a = b := by
  cases a <;> cases b <;> first | rfl | exact absurd h (by decide)

theorem filter_inj {a b : FilterMode} (h : a.number = b.number) : a = b := by
  cases a <;> cases b <;> first | rfl | exact absurd h (by decide)

theorem factor_inj {a b : BlendFactor} (h : a.number = b.number) : a = b := by
  cases a <;> cases b <;> first | rfl | exact absurd h (by decide)

theorem operation_inj {a b : BlendOperation} (h : a.number = b.number) : a = b := by
  cases a <;> cases b <;> first | rfl | exact absurd h (by decide)

theorem component_inj {a b : BlendComponent} {r r' : List UInt8} (h : component a ++ r = component b ++ r') :
    a = b ∧ r = r' := by
  simp only [component, List.append_assoc] at h
  obtain ⟨hsrc, h⟩ := word_inj h
  obtain ⟨hdst, h⟩ := word_inj h
  obtain ⟨hop, h⟩ := word_inj h
  refine ⟨?_, h⟩
  rw [BlendComponent.mk.injEq]
  exact ⟨factor_inj hsrc, factor_inj hdst, operation_inj hop⟩

theorem blend_inj {a b : Option BlendState} {r r' : List UInt8} (h : blend a ++ r = blend b ++ r') :
    a = b ∧ r = r' := by
  cases a with
  | none =>
    cases b with
    | none => exact ⟨rfl, (flag_inj h).2⟩
    | some b =>
      simp only [blend, List.append_assoc] at h
      exact absurd (flag_inj h).1 (by simp)
  | some a =>
    cases b with
    | none =>
      simp only [blend, List.append_assoc] at h
      exact absurd (flag_inj h).1 (by simp)
    | some b =>
      simp only [blend, List.append_assoc] at h
      obtain ⟨hcolor, h⟩ := component_inj (flag_inj h).2
      obtain ⟨halpha, h⟩ := component_inj h
      refine ⟨congrArg some ?_, h⟩
      rw [BlendState.mk.injEq]
      exact ⟨hcolor, halpha⟩

end Signature

open Signature

/-! ## Agreement -/

/-- The kind is the one that its number stands for, and the number fits a word. -/
def BufferKind.IsWord (k : BufferKind) : Prop := BufferKind.ofCode k.code = k ∧ 0 ≤ k.code ∧ k.code < 2 ^ 32

theorem BufferKind.eq_of_wordOf {k l : BufferKind} (hk : k.IsWord) (hl : l.IsWord)
    (h : Bytes.wordOf k.code = Bytes.wordOf l.code) : k = l := by
  obtain ⟨hk, hk0, hk1⟩ := hk
  obtain ⟨hl, hl0, hl1⟩ := hl
  have hnat := congrArg UInt32.toNat h
  simp only [Bytes.wordOf, Nat.toUInt32_eq, UInt32.toNat_ofNat'] at hnat
  have hcode : k.code = l.code := by omega
  rw [← hk, ← hl, hcode]

/-- Two textures agree on everything that the stream holds. -/
structure TextureSpec.Agrees (t u : TextureSpec) : Prop where
  name : t.name = u.name
  width : t.width = u.width
  height : t.height = u.height
  format : t.format = u.format
  usage : t.usage = u.usage
  upload : t.upload = u.upload

/-- Two buffers agree: of the number of the kind the stream only holds the lowest 32 bits. -/
structure BufferSpec.Agrees (b c : BufferSpec) : Prop where
  name : b.name = c.name
  number : Bytes.wordOf b.kind.code = Bytes.wordOf c.kind.code
  stride : b.stride = c.stride

/-- Two passes agree: of the number of vertices the stream only holds whether there are any. -/
structure PassSpec.Agrees (p q : PassSpec) : Prop where
  id : p.id = q.id
  kind : p.kind.name = q.kind.name
  shader : p.shader.text = q.shader.text
  vertexEntry : p.vertexEntry = q.vertexEntry
  fragmentEntry : p.fragmentEntry = q.fragmentEntry
  target : p.target = q.target
  format : p.format = q.format
  writeMask : p.writeMask = q.writeMask
  blend : p.blend = q.blend
  load : p.load = q.load
  bindings : p.bindings = q.bindings
  vertexBuffer : p.vertexBuffer = q.vertexBuffer
  instanceBuffer : p.instanceBuffer = q.instanceBuffer
  drawn : p.vertices > 0 ↔ q.vertices > 0
  isAnimated : p.isAnimated = q.isAnimated

/-- Two spaces agree on everything that the stream holds. -/
structure Space.Agrees (s t : Space) : Prop where
  textures : List.Forall₂ TextureSpec.Agrees s.textures t.textures
  buffers : List.Forall₂ BufferSpec.Agrees s.buffers t.buffers
  samplers : s.samplers = t.samplers
  passes : List.Forall₂ PassSpec.Agrees s.passes t.passes
  sceneTexture : s.sceneTexture = t.sceneTexture
  presentTexture : s.presentTexture = t.presentTexture

/-! ## Short spaces -/

/-- The texts of a binding fit their words. -/
def TextureBinding.Short (b : TextureBinding) : Prop :=
  ShortText b.textureVar ∧ ShortText b.samplerVar ∧ ShortText b.texture ∧ ShortText b.sampler

/-- The texts and the list of a pass fit their words. -/
structure PassSpec.Short (p : PassSpec) : Prop where
  id : ShortText p.id
  kind : ShortText p.kind.name
  shader : ShortText p.shader.text
  vertexEntry : ShortText p.vertexEntry
  fragmentEntry : ShortText p.fragmentEntry
  target : ShortText p.target
  bindings : p.bindings.length < 2 ^ 32 ∧ ∀ b ∈ p.bindings, b.Short
  vertexBuffer : ShortText p.vertexBuffer
  instanceBuffer : ShortText p.instanceBuffer

/-- The texts and lists of a space fit their words. -/
structure Space.Short (s : Space) : Prop where
  textures : s.textures.length < 2 ^ 32 ∧ ∀ t ∈ s.textures, ShortText t.name ∧ ShortText t.upload
  buffers : s.buffers.length < 2 ^ 32 ∧ ∀ b ∈ s.buffers, ShortText b.name
  samplers : s.samplers.length < 2 ^ 32 ∧ ∀ d ∈ s.samplers, ShortText d.name
  passes : s.passes.length < 2 ^ 32 ∧ ∀ p ∈ s.passes, p.Short
  sceneTexture : ShortText s.sceneTexture
  presentTexture : ShortText s.presentTexture

instance : DecidablePred ShortText := fun s => inferInstanceAs (Decidable ((Text.toBytes s).size < 2 ^ 32))

instance : DecidablePred TextureBinding.Short := fun b =>
  inferInstanceAs (Decidable (ShortText b.textureVar ∧ ShortText b.samplerVar ∧ ShortText b.texture ∧
    ShortText b.sampler))

instance : DecidablePred PassSpec.Short := fun p =>
  decidable_of_iff (ShortText p.id ∧ ShortText p.kind.name ∧ ShortText p.shader.text ∧ ShortText p.vertexEntry ∧
      ShortText p.fragmentEntry ∧ ShortText p.target ∧ (p.bindings.length < 2 ^ 32 ∧ ∀ b ∈ p.bindings, b.Short) ∧
      ShortText p.vertexBuffer ∧ ShortText p.instanceBuffer)
    ⟨fun ⟨hid, hkind, hshader, hvertex, hfragment, htarget, hbindings, hvertices, hinstances⟩ =>
      ⟨hid, hkind, hshader, hvertex, hfragment, htarget, hbindings, hvertices, hinstances⟩,
    fun h => ⟨h.id, h.kind, h.shader, h.vertexEntry, h.fragmentEntry, h.target, h.bindings, h.vertexBuffer,
      h.instanceBuffer⟩⟩

instance : DecidablePred Space.Short := fun s =>
  decidable_of_iff ((s.textures.length < 2 ^ 32 ∧ ∀ t ∈ s.textures, ShortText t.name ∧ ShortText t.upload) ∧
      (s.buffers.length < 2 ^ 32 ∧ ∀ b ∈ s.buffers, ShortText b.name) ∧
      (s.samplers.length < 2 ^ 32 ∧ ∀ d ∈ s.samplers, ShortText d.name) ∧
      (s.passes.length < 2 ^ 32 ∧ ∀ p ∈ s.passes, p.Short) ∧ ShortText s.sceneTexture ∧ ShortText s.presentTexture)
    ⟨fun ⟨htextures, hbuffers, hsamplers, hpasses, hscene, hpresent⟩ =>
      ⟨htextures, hbuffers, hsamplers, hpasses, hscene, hpresent⟩,
    fun h => ⟨h.textures, h.buffers, h.samplers, h.passes, h.sceneTexture, h.presentTexture⟩⟩

namespace Signature

/-! ## Parts of a space -/

theorem texture_delimits :
    Delimits (fun t => ShortText t.name ∧ ShortText t.upload) TextureSpec.Agrees texture := by
  intro t u r r' ht hu h
  simp only [texture, List.append_assoc] at h
  obtain ⟨hname, h⟩ := text_inj ht.1 hu.1 h
  obtain ⟨hwidth, h⟩ := word_inj h
  obtain ⟨hheight, h⟩ := word_inj h
  obtain ⟨hformat, h⟩ := word_inj h
  obtain ⟨husage, h⟩ := word_inj h
  obtain ⟨hupload, h⟩ := text_inj ht.2 hu.2 h
  exact ⟨⟨hname, hwidth, hheight, format_inj hformat, husage, hupload⟩, h⟩

theorem buffer_delimits : Delimits (fun b => ShortText b.name) BufferSpec.Agrees buffer := by
  intro b c r r' hb hc h
  simp only [buffer, List.append_assoc] at h
  obtain ⟨hname, h⟩ := text_inj hb hc h
  obtain ⟨hkind, h⟩ := word_inj h
  obtain ⟨hstride, h⟩ := word_inj h
  exact ⟨⟨hname, hkind, hstride⟩, h⟩

theorem sampler_delimits : Delimits (fun d => ShortText d.name) Eq sampler := by
  intro d e r r' hd he h
  simp only [sampler, List.append_assoc] at h
  obtain ⟨hname, h⟩ := text_inj hd he h
  obtain ⟨hu, h⟩ := word_inj h
  obtain ⟨hv, h⟩ := word_inj h
  obtain ⟨hmag, h⟩ := word_inj h
  obtain ⟨hmin, h⟩ := word_inj h
  refine ⟨?_, h⟩
  rw [SamplerSpec.mk.injEq]
  exact ⟨hname, address_inj hu, address_inj hv, filter_inj hmag, filter_inj hmin⟩

theorem binding_delimits : Delimits TextureBinding.Short Eq binding := by
  intro b c r r' hb hc h
  simp only [binding, List.append_assoc] at h
  obtain ⟨hnumber, h⟩ := word_inj h
  obtain ⟨htextureVar, h⟩ := text_inj hb.1 hc.1 h
  obtain ⟨hsamplerVar, h⟩ := text_inj hb.2.1 hc.2.1 h
  obtain ⟨htexture, h⟩ := text_inj hb.2.2.1 hc.2.2.1 h
  obtain ⟨hsampler, h⟩ := text_inj hb.2.2.2 hc.2.2.2 h
  refine ⟨?_, h⟩
  rw [TextureBinding.mk.injEq]
  exact ⟨hnumber, htextureVar, hsamplerVar, htexture, hsampler⟩

theorem pass_delimits : Delimits PassSpec.Short PassSpec.Agrees pass := by
  intro p q r r' hp hq h
  simp only [pass, List.append_assoc] at h
  obtain ⟨hid, h⟩ := text_inj hp.id hq.id h
  obtain ⟨hkind, h⟩ := text_inj hp.kind hq.kind h
  obtain ⟨hshader, h⟩ := text_inj hp.shader hq.shader h
  obtain ⟨hvertex, h⟩ := text_inj hp.vertexEntry hq.vertexEntry h
  obtain ⟨hfragment, h⟩ := text_inj hp.fragmentEntry hq.fragmentEntry h
  obtain ⟨htarget, h⟩ := text_inj hp.target hq.target h
  obtain ⟨hformat, h⟩ := word_inj h
  obtain ⟨hmask, h⟩ := word_inj h
  obtain ⟨hblend, h⟩ := blend_inj h
  obtain ⟨hload, h⟩ := word_inj h
  obtain ⟨hbindings, h⟩ := list_inj binding_delimits hp.bindings.1 hq.bindings.1 hp.bindings.2 hq.bindings.2 h
  obtain ⟨hvertices, h⟩ := text_inj hp.vertexBuffer hq.vertexBuffer h
  obtain ⟨hinstances, h⟩ := text_inj hp.instanceBuffer hq.instanceBuffer h
  obtain ⟨hdrawn, h⟩ := flag_inj h
  obtain ⟨hanimated, h⟩ := flag_inj h
  exact ⟨⟨hid, hkind, hshader, hvertex, hfragment, htarget, format_inj hformat, hmask, hblend, load_inj hload,
    List.forall₂_eq_eq_eq ▸ hbindings, hvertices, hinstances, by simpa using hdrawn, hanimated⟩, h⟩

/-- The stream depends on the parts of textures, buffers, samplers and passes. -/
theorem ofSpace_eq {s t : Space} (htextures : s.textures = t.textures)
    (hbuffers : s.buffers.map buffer = t.buffers.map buffer) (hsamplers : s.samplers = t.samplers)
    (hpasses : s.passes.map pass = t.passes.map pass) (hscene : s.sceneTexture = t.sceneTexture)
    (hpresent : s.presentTexture = t.presentTexture) : ofSpace s = ofSpace t := by
  have hlist : ∀ {α : Type} {part : α → List UInt8} {xs ys : List α}, xs.map part = ys.map part →
      list part xs = list part ys := by
    intro α part xs ys h
    have hlength : xs.length = ys.length := by simpa using congrArg List.length h
    unfold list
    rw [hlength, List.flatMap_def, List.flatMap_def, h]
  unfold ofSpace
  rw [htextures, hlist hbuffers, hsamplers, hlist hpasses, hscene, hpresent]

theorem ofSpace_delimits : Delimits Space.Short Space.Agrees ofSpace := by
  intro s t r r' hs ht h
  simp only [ofSpace, List.append_assoc] at h
  obtain ⟨htextures, h⟩ := list_inj texture_delimits hs.textures.1 ht.textures.1 hs.textures.2 ht.textures.2 h
  obtain ⟨hbuffers, h⟩ := list_inj buffer_delimits hs.buffers.1 ht.buffers.1 hs.buffers.2 ht.buffers.2 h
  obtain ⟨hsamplers, h⟩ := list_inj sampler_delimits hs.samplers.1 ht.samplers.1 hs.samplers.2 ht.samplers.2 h
  obtain ⟨hpasses, h⟩ := list_inj pass_delimits hs.passes.1 ht.passes.1 hs.passes.2 ht.passes.2 h
  obtain ⟨hscene, h⟩ := text_inj hs.sceneTexture ht.sceneTexture h
  obtain ⟨hpresent, h⟩ := text_inj hs.presentTexture ht.presentTexture h
  exact ⟨⟨htextures, hbuffers, List.forall₂_eq_eq_eq ▸ hsamplers, hpasses, hscene, hpresent⟩, h⟩

end Signature

namespace Space

/-- The stream is uniquely decodable: short spaces with one stream agree on everything that it holds. -/
theorem agrees_of_stream {s t : Space} (hs : s.Short) (ht : t.Short) (h : ofSpace s = ofSpace t) :
    s.Agrees t :=
  (ofSpace_delimits s t [] [] hs ht (by rw [h])).1

/-- A space of one pass that blends a texture over the scene, with the parts that the stream leaves out. -/
def overlay (data : ByteArray) (clear : Color) (vertices : UInt32) (params : List Float32) : Space where
  textures := [⟨"scene", 4, 4, .rgba8Unorm, 21, "", 16⟩, ⟨"logo", 1, 1, .rgba8Unorm, 7, "logo_pixels", 4⟩]
  buffers := [⟨"logo_pixels", .pixels, 12, data, 4⟩]
  samplers := [⟨"smooth", .clampToEdge, .tile, .linear, .linear⟩]
  passes := [{
    id := "draw:logo", kind := .draw, shader := .verbatim "return vec4<f32>(1.0);", target := "scene", size := ⟨4, 4⟩
    format := .rgba8Unorm, blend := some Blend.alpha, load := .clear, clear
    bindings := [⟨2, "t_logo", "s_logo", "logo", "smooth"⟩], vertexBuffer := "", instanceBuffer := "", layouts := []
    vertices, instances := 1, isAnimated := false }]
  params
  sceneTexture := "scene"
  presentTexture := "scene"

theorem overlay_short (data : ByteArray) (clear : Color) (vertices : UInt32) (params : List Float32) :
    (overlay data clear vertices params).Short where
  textures := by simp only [overlay, ShortText]; decide
  buffers := ⟨by simp [overlay], by simp only [overlay, List.mem_singleton, forall_eq, ShortText]; decide⟩
  samplers := by simp only [overlay, ShortText]; decide
  passes := by
    refine ⟨by simp [overlay], ?_⟩
    simp only [overlay, List.mem_singleton, forall_eq]
    constructor <;> simp only [ShortText, TextureBinding.Short] <;> decide
  sceneTexture := by simp only [overlay, ShortText]; decide
  presentTexture := by simp only [overlay, ShortText]; decide

theorem overlay_agrees :
    let s := overlay ⟨#[255, 0, 0, 255]⟩ {} 3 []
    let t := overlay ⟨#[0, 255, 0, 255]⟩ ⟨1, 1, 1, 1⟩ 6 [0]
    s.Short ∧ t.Short ∧ ofSpace s = ofSpace t ∧ s.Agrees t :=
  ⟨overlay_short _ _ _ _, overlay_short _ _ _ _, by decide +kernel,
    agrees_of_stream (overlay_short _ _ _ _) (overlay_short _ _ _ _) (by decide +kernel)⟩

/-- A space of one empty buffer. -/
def lone (kind : BufferKind) : Space where
  buffers := [⟨"data", kind, 0, .empty, 16⟩]

/-- A kind beyond all words has the stream of another one. -/
theorem kinds_collide :
    let s := lone .vertex
    let t := lone (.ofCode (2 ^ 32 + 1))
    s.Short ∧ t.Short ∧ ofSpace s = ofSpace t ∧ s.buffers.map BufferSpec.kind ≠ t.buffers.map BufferSpec.kind := by
  decide +kernel

end Space

end SceneGraph
