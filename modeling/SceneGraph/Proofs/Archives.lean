import SceneGraph.Proofs.Accepted
import SceneGraph.Proofs.Restored
import SceneGraph.Proofs.Stream
import SceneGraph.Scene.Archive

/-!
# Archives are restored

An archive holds the document of a scene and the payloads of its assets, each under a name. Writing and reading meet
through these names only: a cleaned name is clean, no directory has it, and the last entry with a name is the one that
is read. Two assets may go by one name, and an asset may go by the name of the document, so that what is read depends
on the order in which the assets were written, or is no scene at all.

* `Text.ofBytes_toBytes`: texts are restored from their bytes.
* `Archive.cleanEntry_cleanEntry`, `Archive.endsWith_cleanEntry`: the names of entries.
* `Archive.ofEntries_eq_ok`: what reading an archive takes.
* `Archive.entryNamed?_asset`, `Archive.entryNamed?_document`: what is found in an archive that was written.
* `Archive.Separate`: assets that do not get into the way of each other or of the document.
* `Archive.restores_iff`: an archive is read as what was packed exactly if its assets are separate.
* `Archive.shadow_lost`: a document that an asset is stored over.
-/
set_option autoImplicit false

namespace SceneGraph

/-! ## Bytes of texts -/

namespace Text

theorem toList_toBytes (s : String) : (toBytes s).toList = s.toList.flatMap String.utf8EncodeChar := by
  rw [toList_eq_data, toBytes, String.toUTF8_eq_toByteArray, ← String.utf8Encode_toList, List.utf8Encode,
    List.toList_data_toByteArray]

theorem toNat_ofNat {n : Nat} (h : n < 256) : (UInt8.ofNat n).toNat = n := by
  rw [UInt8.toNat_ofNat']
  exact Nat.mod_eq_of_lt h

theorem continuation?_ofNat {lo hi n : Nat} (hlo : lo ≤ n % 64 + 128) (hhi : n % 64 + 128 ≤ hi) :
    continuation? lo hi (some (UInt8.ofNat (n % 64 + 128))) = some (n % 64) := by
  unfold continuation?
  dsimp only
  rw [toNat_ofNat (by omega), if_pos ⟨hlo, hhi⟩]
  congr 1
  omega

/-- The bytes of a character are read as the character, one case for each number of bytes. -/
theorem decodeHead_encode (c : Char) {b : UInt8} {bs : List UInt8} (h : String.utf8EncodeChar c = b :: bs)
    (rest : List UInt8) : decodeHead b (bs ++ rest) = (c, bs.length) := by
  have hvalid : c.val.toNat < 0xD800 ∨ 0xDFFF < c.val.toNat ∧ c.val.toNat < 0x110000 := c.valid
  have hback : ∀ n, n = c.val.toNat → Char.ofNat n = c := fun n hn => hn ▸ Char.ofNat_toNat c
  unfold String.utf8EncodeChar at h
  dsimp only at h
  generalize c.val.toNat = n at h hvalid hback
  unfold decodeHead
  split at h
  · cases h
    rw [toNat_ofNat (by omega)]
    dsimp only
    rw [if_pos (by omega), hback n rfl]
    rfl
  · split at h
    · cases h
      rw [toNat_ofNat (by omega)]
      dsimp only [List.cons_append, List.nil_append, List.getElem?_cons_zero]
      rw [if_neg (by omega), if_neg (by omega), if_pos (by omega), continuation?_ofNat (by omega) (by omega)]
      dsimp only
      rw [hback _ (by omega)]
      rfl
    · split at h
      · cases h
        rw [toNat_ofNat (by omega)]
        dsimp only [List.cons_append, List.nil_append, List.getElem?_cons_zero, List.getElem?_cons_succ]
        rw [if_neg (by omega), if_neg (by omega), if_neg (by omega), if_pos (by omega)]
        -- Longer forms of short characters and surrogates are ruled out by the bounds of the second byte.
        have hone : continuation? (if n / 4096 % 0x10 + 0xe0 = 0xE0 then 0xA0 else 0x80)
            (if n / 4096 % 0x10 + 0xe0 = 0xED then 0x9F else 0xBF) (some (UInt8.ofNat (n / 64 % 0x40 + 0x80))) =
              some (n / 64 % 0x40) :=
          continuation?_ofNat (by split <;> omega) (by split <;> omega)
        rw [hone, continuation?_ofNat (by omega) (by omega)]
        dsimp only
        rw [hback _ (by omega)]
        rfl
      · cases h
        rw [toNat_ofNat (by omega)]
        dsimp only [List.cons_append, List.nil_append, List.getElem?_cons_zero, List.getElem?_cons_succ]
        rw [if_neg (by omega), if_neg (by omega), if_neg (by omega), if_neg (by omega), if_pos (by omega)]
        have hone : continuation? (if n / 262144 % 0x08 + 0xf0 = 0xF0 then 0x90 else 0x80)
            (if n / 262144 % 0x08 + 0xf0 = 0xF4 then 0x8F else 0xBF) (some (UInt8.ofNat (n / 4096 % 0x40 + 0x80))) =
              some (n / 4096 % 0x40) :=
          continuation?_ofNat (by split <;> omega) (by split <;> omega)
        rw [hone, continuation?_ofNat (by omega) (by omega), continuation?_ofNat (by omega) (by omega)]
        dsimp only
        rw [hback _ (by omega)]
        rfl

theorem decodeBytes_encode (cs : List Char) : decodeBytes (cs.flatMap String.utf8EncodeChar) = cs := by
  induction cs with
  | nil =>
    rw [List.flatMap_nil, decodeBytes]
  | cons c cs ih =>
    obtain ⟨b, bs, hbytes⟩ := List.exists_cons_of_ne_nil (String.utf8EncodeChar_ne_nil (c := c))
    rw [List.flatMap_cons, hbytes, List.cons_append, decodeBytes, decodeHead_encode c hbytes]
    dsimp only
    rw [List.drop_left, ih]

theorem ofBytes_toBytes (s : String) : ofBytes (toBytes s) = s := by
  rw [ofBytes, toList_toBytes, decodeBytes_encode, String.ofList_toList]

end Text

/-! ## Names of entries -/

namespace Path

/-- A component that stays as it is when a path is cleaned. -/
structure IsPlain (c : String) : Prop where
  ne_empty : c ≠ ""
  ne_here : c ≠ "."
  ne_up : c ≠ ".."
  slash : '/' ∉ c.toList
  backslash : '\\' ∉ c.toList

theorem mem_of_mem_splitOnP {α : Type} {p : α → Bool} {xs l : List α} (hl : l ∈ xs.splitOnP p) :
    ∀ x ∈ l, x ∈ xs ∧ p x = false := by
  induction xs generalizing l with
  | nil =>
    rw [List.splitOnP_nil, List.mem_singleton] at hl
    subst hl
    exact nofun
  | cons a xs ih =>
    rw [List.splitOnP_cons_eq_if_modifyHead] at hl
    obtain ⟨first, rest, hsplit⟩ := List.exists_cons_of_ne_nil (List.splitOnP_ne_nil p xs)
    rw [hsplit] at hl ih
    split at hl
    · rcases List.mem_cons.1 hl with rfl | hl
      · exact nofun
      · exact fun x hx => (ih hl x hx).imp (List.mem_cons_of_mem a) id
    · rename_i ha
      rcases List.mem_cons.1 hl with rfl | hl
      · intro x hx
        rcases List.mem_cons.1 hx with rfl | hx
        · exact ⟨List.mem_cons_self, by simpa using ha⟩
        · exact (ih List.mem_cons_self x hx).imp (List.mem_cons_of_mem a) id
      · exact fun x hx => (ih (List.mem_cons_of_mem _ hl) x hx).imp (List.mem_cons_of_mem a) id

theorem mem_of_mem_components {s c : String} (h : c ∈ components s) : ∀ x ∈ c.toList, x ∈ s.toList ∧ x ≠ '/' := by
  obtain ⟨l, hl, rfl⟩ := List.mem_map.1 h
  intro x hx
  rw [String.toList_ofList] at hx
  simpa using mem_of_mem_splitOnP hl x hx

theorem mem_of_mem_resolveRooted {cs : List String} {c : String} (h : c ∈ resolveRooted cs) :
    c ∈ cs ∧ c ≠ "" ∧ c ≠ "." ∧ c ≠ ".." := by
  have hfold : ∀ (cs stack : List String), c ∈ cs.foldl stepRooted stack →
      c ∈ stack ∨ c ∈ cs ∧ c ≠ "" ∧ c ≠ "." ∧ c ≠ ".." := by
    intro cs
    induction cs with
    | nil => exact fun stack h => .inl h
    | cons d cs ih =>
      intro stack h
      rcases ih _ h with h | ⟨h, hne⟩
      · unfold stepRooted at h
        split at h
        · exact .inl h
        · split at h
          · exact .inl (List.mem_of_mem_tail h)
          · rcases List.mem_cons.1 h with rfl | h
            · simp_all
            · exact .inl h
      · exact .inr ⟨List.mem_cons_of_mem d h, hne⟩
  exact (hfold cs [] (List.mem_reverse.1 h)).resolve_left List.not_mem_nil

theorem resolveRooted_plain {cs : List String} (h : ∀ c ∈ cs, IsPlain c) : resolveRooted cs = cs := by
  have hfold : ∀ stack, cs.foldl stepRooted stack = cs.reverse ++ stack := by
    induction cs with
    | nil => exact fun stack => rfl
    | cons c cs ih =>
      obtain ⟨hc, hcs⟩ := List.forall_mem_cons.1 h
      intro stack
      rw [List.foldl_cons, stepRooted, if_neg (by simp [hc.ne_empty, hc.ne_here]), if_neg hc.ne_up, ih hcs,
        List.reverse_cons, List.append_assoc, List.singleton_append]
  rw [resolveRooted, hfold, List.append_nil, List.reverse_reverse]

theorem components_intercalate {cs : List String} (h : ∀ c ∈ cs, IsPlain c) (hne : cs ≠ []) :
    components ("/".intercalate cs) = cs := by
  have hsplit : (['/'].intercalate (cs.map String.toList)).splitOn '/' = cs.map String.toList := by
    refine List.splitOn_intercalate '/' ?_ (by simpa using hne)
    exact List.forall_mem_map.2 fun c hc => (h c hc).slash
  rw [components, String.toList_intercalate]
  rw [List.splitOn_eq_splitOnP] at hsplit
  change List.map String.ofList (List.splitOnP _ (['/'].intercalate _)) = cs
  rw [hsplit, List.map_map]
  simp [Function.comp_def]

end Path

namespace Archive

/-- The components that a stored path is resolved to stay as they are. -/
theorem isPlain_of_mem_resolved {name c : String} (h : c ∈ Path.resolveRooted (Path.components
    (String.ofList (name.toList.map fun c => if c = '\\' then '/' else c)))) : Path.IsPlain c := by
  obtain ⟨hmem, hempty, hhere, hup⟩ := Path.mem_of_mem_resolveRooted h
  have hchars := Path.mem_of_mem_components hmem
  refine ⟨hempty, hhere, hup, fun h => (hchars _ h).2 rfl, fun h => ?_⟩
  have hmapped := (hchars _ h).1
  rw [String.toList_ofList] at hmapped
  obtain ⟨d, -, hd⟩ := List.mem_map.1 hmapped
  split at hd
  · cases hd
  · exact absurd hd ‹_›

/-- The components of the name under which a path is stored. -/
theorem cleanEntry_plain (name : String) :
    ∃ cs : List String, cleanEntry name = "/".intercalate cs ∧ ∀ c ∈ cs, Path.IsPlain c := by
  unfold cleanEntry
  exact ⟨_, rfl, fun _ => isPlain_of_mem_resolved⟩

theorem backslash_notMem_intercalate {cs : List String} (h : ∀ c ∈ cs, Path.IsPlain c) :
    '\\' ∉ ("/".intercalate cs).toList := by
  induction cs with
  | nil => simp
  | cons c cs ih =>
    obtain ⟨hc, hcs⟩ := List.forall_mem_cons.1 h
    cases cs with
    | nil => simpa using hc.backslash
    | cons d cs =>
      rw [String.intercalate_cons_cons, String.toList_append, String.toList_append]
      simpa [hc.backslash] using ih hcs

theorem cleanEntry_intercalate {cs : List String} (h : ∀ c ∈ cs, Path.IsPlain c) :
    cleanEntry ("/".intercalate cs) = "/".intercalate cs := by
  have hnone := backslash_notMem_intercalate h
  have hsame : String.ofList (("/".intercalate cs).toList.map fun c => if c = '\\' then '/' else c) =
      "/".intercalate cs := by
    have hid : ∀ x ∈ ("/".intercalate cs).toList, (if x = '\\' then '/' else x) = id x := fun x hx =>
      if_neg fun (heq : x = '\\') => hnone (heq ▸ hx)
    rw [List.map_congr_left hid, List.map_id, String.ofList_toList]
  rw [cleanEntry, hsame]
  cases cs with
  | nil => rfl
  | cons c cs => rw [Path.components_intercalate h (List.cons_ne_nil c cs), Path.resolveRooted_plain h]

theorem cleanEntry_cleanEntry (name : String) : cleanEntry (cleanEntry name) = cleanEntry name := by
  obtain ⟨cs, hname, hplain⟩ := cleanEntry_plain name
  rw [hname, cleanEntry_intercalate hplain]

theorem eq_append_of_endsWith {s pat : String} (h : s.endsWith pat = true) : ∃ front, s = front ++ pat := by
  have hsuffix : (String.Slice.Pattern.BackwardPattern.skipSuffix? pat s.toSlice).isSome = true :=
    (String.Slice.Pattern.LawfulBackwardPattern.endsWith_eq s.toSlice).symm.trans h
  obtain ⟨pos, hpos⟩ := Option.isSome_iff_exists.1 hsuffix
  rw [String.Slice.Pattern.Model.LawfulBackwardPatternModel.skipSuffix?_eq_some_iff,
    String.Slice.Pattern.Model.ForwardStringSearcher.isLongestRevMatch_iff] at hpos
  refine ⟨(s.toSlice.sliceTo pos).copy, ?_⟩
  rw [← hpos, String.Slice.sliceTo_append_sliceFrom, String.copy_toSlice]

theorem endsWith_cleanEntry (name : String) : (cleanEntry name).endsWith "/" = false := by
  obtain ⟨cs, hname, hplain⟩ := cleanEntry_plain name
  rw [hname]
  by_contra hends
  rw [Bool.not_eq_false] at hends
  obtain ⟨front, hfront⟩ := eq_append_of_endsWith hends
  have hlast : "" ∈ Path.components ("/".intercalate cs) := by
    have hsplit : List.splitOnP (· == '/') (front.toList ++ '/' :: []) =
        List.splitOnP (· == '/') front.toList ++ [[]] :=
      List.splitOnP_append_cons _ _ (by simp)
    rw [hfront, Path.components, String.toList_append]
    change "" ∈ List.map String.ofList (List.splitOnP (· == '/') (front.toList ++ '/' :: []))
    rw [hsplit, List.map_append]
    exact List.mem_append_right _ (List.mem_singleton.2 rfl)
  cases cs with
  | nil =>
    have hempty := congrArg String.toList hfront
    rw [String.toList_append] at hempty
    exact absurd hempty (by simp)
  | cons c cs =>
    rw [Path.components_intercalate hplain (List.cons_ne_nil c cs)] at hlast
    exact (hplain _ hlast).ne_empty rfl

/-! ## Entries -/

theorem unpack_storedEntry {name : String} (h : name.endsWith "/" = false) (field : String) (data : ByteArray) :
    unpack field (storedEntry name data) = .ok data := by
  have hdata : (storedEntry name data).unpack = .ok data := by
    unfold Zip.Entry.unpack storedEntry
    simp [h]
  rw [unpack, hdata]

/-- The last entry with a name is sought among the entries of the assets first. -/
theorem entryNamed?_cons (doc : Zip.Entry) (packed : List Zip.Entry) (name : String) :
    entryNamed? (doc :: packed) name = (entryNamed? packed name).or (entryNamed? [doc] name) := by
  rw [entryNamed?, List.reverse_cons, List.find?_append]
  rfl

theorem entryNamed?_concat {packed : List Zip.Entry} {e : Zip.Entry} {name : String} (h : cleanEntry e.name = name) :
    entryNamed? (packed ++ [e]) name = some e := by
  rw [entryNamed?, List.reverse_append, List.reverse_singleton, List.singleton_append, List.find?_cons_of_pos]
  simpa using h

theorem entryNamed?_eq_some {entries : List Zip.Entry} {name : String} {e : Zip.Entry}
    (h : entryNamed? entries name = some e) : e ∈ entries ∧ cleanEntry e.name = name :=
  ⟨List.mem_reverse.1 (List.mem_of_find?_eq_some h), by simpa using List.find?_some h⟩

theorem exists_entryNamed? {entries : List Zip.Entry} {e : Zip.Entry} (he : e ∈ entries) :
    ∃ e', entryNamed? entries (cleanEntry e.name) = some e' :=
  Option.isSome_iff_exists.1 (List.find?_isSome.2 ⟨e, List.mem_reverse.2 he, by simp⟩)

/-- The entry of an asset with a payload. -/
def assetEntry (e : String × Asset) (data : ByteArray) : Zip.Entry := storedEntry (cleanEntry e.2.path) data

theorem cleanEntry_assetEntry (e : String × Asset) (data : ByteArray) :
    cleanEntry (assetEntry e data).name = cleanEntry e.2.path := by
  rw [assetEntry, storedEntry, cleanEntry_cleanEntry]

theorem unpack_assetEntry (field : String) (e : String × Asset) (data : ByteArray) :
    unpack field (assetEntry e data) = .ok data := unpack_storedEntry (endsWith_cleanEntry e.2.path) field data

/-- Packs the payload of one asset. -/
def packAsset (files : Table ByteArray) (e : String × Asset) : Except String Zip.Entry :=
  match files.get? e.1 with
  | none => .error e.1
  | some data => .ok (assetEntry e data)

/-- Reads the payload of one asset. -/
def readAsset (entries : List Zip.Entry) (e : String × Asset) : Except DocumentError (String × ByteArray) :=
  match entryNamed? entries (cleanEntry e.2.path) with
  | none => .error { field := "assets." ++ e.1, fault := .missingEntry e.2.path }
  | some p => (unpack ("assets." ++ e.1) p).map fun data => (e.1, data)

theorem assetEntries_eq (files : Table ByteArray) (order : Table Asset) :
    assetEntries files order = order.mapM (packAsset files) := by
  induction order with
  | nil => rfl
  | cons e order ih =>
    rw [assetEntries, List.mapM_cons, packAsset, ih]
    cases files.get? e.1 <;> rfl

theorem readAssets_eq (entries : List Zip.Entry) (order : Table Asset) :
    readAssets entries order = order.mapM (readAsset entries) := by
  induction order with
  | nil => rfl
  | cons e order ih =>
    rw [readAssets, List.mapM_cons, readAsset, ih]
    cases entryNamed? entries (cleanEntry e.2.path) with
    | none => rfl
    | some p =>
      dsimp only
      cases unpack ("assets." ++ e.1) p <;> rfl

theorem packAsset_eq_ok {files : Table ByteArray} {e : String × Asset} {p : Zip.Entry} :
    packAsset files e = .ok p ↔ ∃ data, files.get? e.1 = some data ∧ assetEntry e data = p := by
  unfold packAsset
  cases files.get? e.1 <;> simp

theorem readAsset_eq_ok {entries : List Zip.Entry} {e : String × Asset} {f : String × ByteArray} :
    readAsset entries e = .ok f ↔ f.1 = e.1 ∧
      ∃ p, entryNamed? entries (cleanEntry e.2.path) = some p ∧ unpack ("assets." ++ e.1) p = .ok f.2 := by
  unfold readAsset
  cases entryNamed? entries (cleanEntry e.2.path) with
  | none => simp
  | some p =>
    dsimp only
    cases hdata : unpack ("assets." ++ e.1) p with
    | error err => simp [Except.map, hdata]
    | ok data => simp [Except.map, hdata, Prod.ext_iff, eq_comm]

/-- What reading an archive takes: the last entry with the name of the document is one, and each asset has a payload. -/
theorem ofEntries_eq_ok {entries : List Zip.Entry} {a : Archive} : ofEntries entries = .ok a ↔
    (∃ p data, entryNamed? entries sceneEntry = some p ∧ unpack sceneEntry p = .ok data ∧
      Scene.parse (Text.ofBytes data) = .ok a.scene) ∧ readAssets entries a.scene.assets = .ok a.files := by
  constructor
  · intro h
    unfold ofEntries at h
    cases hp : entryNamed? entries sceneEntry with
    | none => simp [hp] at h
    | some p =>
      cases hdata : unpack sceneEntry p with
      | error err => simp [hp, hdata, bind, Except.bind] at h
      | ok data =>
        cases hscene : Scene.parse (Text.ofBytes data) with
        | error err => simp [hp, hdata, hscene, bind, Except.bind] at h
        | ok s =>
          cases hfiles : readAssets entries s.assets with
          | error err => simp [hp, hdata, hscene, hfiles, bind, Except.bind] at h
          | ok files =>
            simp only [hp, hdata, hscene, hfiles, bind, Except.bind, pure, Except.pure, Except.ok.injEq] at h
            subst h
            exact ⟨⟨p, data, rfl, hdata, hscene⟩, hfiles⟩
  · rintro ⟨⟨p, data, hp, hdata, hscene⟩, hfiles⟩
    simp [ofEntries, hp, hdata, hscene, hfiles, bind, Except.bind, pure, Except.pure]

/-! ## Archives -/

variable {s : Scene} {files : Table ByteArray} {order : Table Asset} {packed : List Zip.Entry}

/-- The entries of an archive of a scene: its document, then the payloads of its assets in any order. -/
def Packs (s : Scene) (files : Table ByteArray) (entries : List Zip.Entry) : Prop :=
  ∃ order packed, order.Perm s.assets ∧ assetEntries files order = .ok packed ∧
    entries = storedEntry sceneEntry (Text.toBytes s.marshal) :: packed

/-- What was packed: the scene, and for each of its assets the payload. -/
structure Restores (s : Scene) (files : Table ByteArray) (a : Archive) : Prop where
  scene : a.scene = s
  assets : a.files.keys = s.assets.keys
  payload : ∀ id ∈ s.assets.keys, a.asset? id = files.get? id

/-- Assets with one name have one payload, and an asset with the name of the document is a document of the scene. -/
structure Separate (s : Scene) (files : Table ByteArray) : Prop where
  assets : ∀ d ∈ s.assets, ∀ e ∈ s.assets, cleanEntry d.2.path = cleanEntry e.2.path →
    files.get? d.1 = files.get? e.1
  document : ∀ e ∈ s.assets, cleanEntry e.2.path = sceneEntry →
    ∃ data, files.get? e.1 = some data ∧ Scene.parse (Text.ofBytes data) = .ok s

theorem toEntries_eq_ok {entries : List Zip.Entry} : toEntries s files = .ok entries ↔
    ∃ packed, assetEntries files s.assets = .ok packed ∧
      entries = storedEntry sceneEntry (Text.toBytes s.marshal) :: packed := by
  unfold toEntries
  cases assetEntries files s.assets with
  | error id => simp [bind, Except.bind]
  | ok packed => simp [bind, Except.bind, pure, Except.pure, eq_comm]

theorem packs_toEntries {entries : List Zip.Entry} (h : toEntries s files = .ok entries) : Packs s files entries := by
  obtain ⟨packed, hpacked, rfl⟩ := toEntries_eq_ok.1 h
  exact ⟨s.assets, packed, .refl _, hpacked, rfl⟩

theorem assetEntries_iff : assetEntries files order = .ok packed ↔
    List.Forall₂ (fun e p => ∃ data, files.get? e.1 = some data ∧ assetEntry e data = p) order packed := by
  simp only [assetEntries_eq, mapM_iff, packAsset_eq_ok]

/-- The order in which assets are packed does not matter for whether they can be. -/
theorem assetEntries_ok_iff : (∃ packed, assetEntries files order = .ok packed) ↔
    ∀ e ∈ order, ∃ data, files.get? e.1 = some data := by
  simp only [assetEntries_iff]
  constructor
  · rintro ⟨packed, hpacked⟩ e he
    induction hpacked with
    | nil => cases he
    | cons hp _ ih =>
      rcases List.mem_cons.1 he with rfl | he
      · exact hp.imp fun _ => And.left
      · exact ih he
  · intro h
    induction order with
    | nil => exact ⟨[], .nil⟩
    | cons e order ih =>
      obtain ⟨⟨data, hdata⟩, hrest⟩ := List.forall_mem_cons.1 h
      obtain ⟨packed, hpacked⟩ := ih hrest
      exact ⟨assetEntry e data :: packed, .cons ⟨data, hdata, rfl⟩ hpacked⟩

theorem assetEntries_concat {e : String × Asset} {data : ByteArray} (h : assetEntries files order = .ok packed)
    (hdata : files.get? e.1 = some data) :
    assetEntries files (order ++ [e]) = .ok (packed ++ [assetEntry e data]) := by
  rw [assetEntries_iff] at h ⊢
  exact List.rel_append h (.cons ⟨data, hdata, rfl⟩ .nil)

theorem mem_packed (h : assetEntries files order = .ok packed) {p : Zip.Entry} (hp : p ∈ packed) :
    ∃ e ∈ order, ∃ data, files.get? e.1 = some data ∧ assetEntry e data = p := by
  rw [assetEntries_eq] at h
  obtain ⟨e, he, hpack⟩ := exists_mem_of_mapM h hp
  exact ⟨e, he, packAsset_eq_ok.1 hpack⟩

theorem exists_packed (h : assetEntries files order = .ok packed) {e : String × Asset} (he : e ∈ order) :
    ∃ data, files.get? e.1 = some data ∧ assetEntry e data ∈ packed := by
  rw [assetEntries_eq] at h
  obtain ⟨p, hp, hpack⟩ := exists_of_mapM h he
  obtain ⟨data, hdata, rfl⟩ := packAsset_eq_ok.1 hpack
  exact ⟨data, hdata, hp⟩

/-- What is found under the name of an asset is the payload of an asset with this name. -/
theorem entryNamed?_asset (doc : Zip.Entry) (h : assetEntries files order = .ok packed) {e : String × Asset}
    (he : e ∈ order) : ∃ d ∈ order, ∃ data, files.get? d.1 = some data ∧
      cleanEntry d.2.path = cleanEntry e.2.path ∧
        entryNamed? (doc :: packed) (cleanEntry e.2.path) = some (assetEntry d data) := by
  obtain ⟨own, -, hown⟩ := exists_packed h he
  obtain ⟨p, hp⟩ := exists_entryNamed? hown
  rw [cleanEntry_assetEntry] at hp
  obtain ⟨hmem, hname⟩ := entryNamed?_eq_some hp
  obtain ⟨d, hd, data, hdata, rfl⟩ := mem_packed h hmem
  rw [cleanEntry_assetEntry] at hname
  refine ⟨d, hd, data, hdata, hname, ?_⟩
  rw [entryNamed?_cons, hp]
  rfl

theorem sceneEntry_clean : cleanEntry sceneEntry = sceneEntry := by decide +kernel

theorem endsWith_sceneEntry : sceneEntry.endsWith "/" = false := by
  rw [← sceneEntry_clean]
  exact endsWith_cleanEntry sceneEntry

/-- Where no asset has the name of the document, the document is found. -/
theorem entryNamed?_document (data : ByteArray) (h : assetEntries files order = .ok packed)
    (hnone : ∀ e ∈ order, cleanEntry e.2.path ≠ sceneEntry) :
    entryNamed? (storedEntry sceneEntry data :: packed) sceneEntry = some (storedEntry sceneEntry data) := by
  have hassets : entryNamed? packed sceneEntry = none := by
    refine Option.eq_none_iff_forall_ne_some.2 fun p hp => ?_
    obtain ⟨hmem, hname⟩ := entryNamed?_eq_some hp
    obtain ⟨e, he, _, -, rfl⟩ := mem_packed h hmem
    exact hnone e he (cleanEntry_assetEntry e _ ▸ hname)
  rw [entryNamed?_cons, hassets, Option.none_or]
  exact List.nil_append [storedEntry sceneEntry data] ▸ entryNamed?_concat sceneEntry_clean

/-- Where an asset has the name of the document, but none with this name holds one, no scene is read. -/
theorem not_read_of_asset (doc : Zip.Entry) (h : assetEntries files order = .ok packed) {e : String × Asset}
    (he : e ∈ order) (hname : cleanEntry e.2.path = sceneEntry)
    (hnone : ∀ d ∈ order, ∀ data, files.get? d.1 = some data → (Scene.parse (Text.ofBytes data)).toOption = none)
    (a : Archive) : ofEntries (doc :: packed) ≠ .ok a := by
  intro ha
  obtain ⟨⟨p, data, hfound, hunpack, hparse⟩, -⟩ := ofEntries_eq_ok.1 ha
  obtain ⟨d, hd, data', hdata', -, hasset⟩ := entryNamed?_asset doc h he
  rw [hname] at hasset
  obtain rfl := Option.some.inj (hasset.symm.trans hfound)
  obtain rfl := Except.ok.inj ((unpack_assetEntry sceneEntry d data').symm.trans hunpack)
  have hrefused := hnone d hd data' hdata'
  rw [hparse] at hrefused
  cases hrefused

theorem parse_of_parseUnchecked {text : String} (hdoc : Scene.parseUnchecked text = .ok s)
    (hs : s.checkStructure = .ok ()) : Scene.parse text = .ok s := by
  simp [Scene.parse, hdoc, hs, bind, Except.bind, pure, Except.pure]

theorem get?_map {α β : Type} (t : Table α) (value : String → β) {key : String} (h : key ∈ t.keys) :
    Table.get? (t.map fun e => (e.1, value e.1)) key = some (value key) := by
  induction t with
  | nil => cases h
  | cons e rest ih =>
    rw [List.map_cons, Table.get?_cons]
    split
    · rename_i heq
      rw [heq]
    · rename_i hne
      exact ih ((List.mem_cons.1 h).resolve_left fun heq => hne heq.symm)

/-- Assets whose payloads are found are read one by one. -/
theorem readAssets_found {entries : List Zip.Entry} {t : Table Asset}
    (h : ∀ e ∈ t, ∃ data, files.get? e.1 = some data ∧ readAsset entries e = .ok (e.1, data)) :
    readAssets entries t = .ok (t.map fun e => (e.1, (files.get? e.1).getD .empty)) := by
  rw [readAssets_eq]
  induction t with
  | nil => rfl
  | cons e rest ih =>
    obtain ⟨⟨data, hdata, hread⟩, hrest⟩ := List.forall_mem_cons.1 h
    rw [List.mapM_cons, hread, ih hrest, List.map_cons, hdata]
    rfl

/-- An archive whose assets are separate is read as what was packed. -/
theorem Separate.restores (h : Separate s files) (hs : s.checkStructure = .ok ())
    (hdoc : Scene.parseUnchecked s.marshal = .ok s) {entries : List Zip.Entry} (hentries : Packs s files entries) :
    ∃ a, ofEntries entries = .ok a ∧ Restores s files a := by
  obtain ⟨order, packed, hperm, hpacked, rfl⟩ := hentries
  generalize hfirst : storedEntry sceneEntry (Text.toBytes s.marshal) = doc
  have hscene : ∃ p data, entryNamed? (doc :: packed) sceneEntry = some p ∧ unpack sceneEntry p = .ok data ∧
      Scene.parse (Text.ofBytes data) = .ok s := by
    by_cases hshared : ∃ e ∈ order, cleanEntry e.2.path = sceneEntry
    · obtain ⟨e, he, hname⟩ := hshared
      obtain ⟨d, hd, data, hdata, hsame, hfound⟩ := entryNamed?_asset doc hpacked he
      obtain ⟨data', hdata', hparse⟩ := h.document d (hperm.mem_iff.1 hd) (hsame.trans hname)
      cases hdata.symm.trans hdata'
      exact ⟨_, data, hname ▸ hfound, unpack_assetEntry _ d data, hparse⟩
    · have hfound := entryNamed?_document (Text.toBytes s.marshal) hpacked fun e he hname => hshared ⟨e, he, hname⟩
      have hunpack := unpack_storedEntry endsWith_sceneEntry sceneEntry (Text.toBytes s.marshal)
      have hparse : Scene.parse (Text.ofBytes (Text.toBytes s.marshal)) = .ok s := by
        rw [Text.ofBytes_toBytes]
        exact parse_of_parseUnchecked hdoc hs
      rw [hfirst] at hfound hunpack
      exact ⟨doc, _, hfound, hunpack, hparse⟩
  have hassets : ∀ e ∈ s.assets,
      ∃ data, files.get? e.1 = some data ∧ readAsset (doc :: packed) e = .ok (e.1, data) := by
    intro e he
    obtain ⟨d, hd, data, hdata, hsame, hfound⟩ := entryNamed?_asset doc hpacked (hperm.mem_iff.2 he)
    refine ⟨data, ?_, readAsset_eq_ok.2 ⟨rfl, _, hfound, unpack_assetEntry _ d data⟩⟩
    rw [← h.assets d (hperm.mem_iff.1 hd) e he hsame, hdata]
  refine ⟨⟨s, _⟩, ofEntries_eq_ok.2 ⟨hscene, readAssets_found hassets⟩, rfl, ?_, fun id hid => ?_⟩
  · simp [Table.keys, Function.comp_def]
  · obtain ⟨e, he, rfl⟩ := List.mem_map.1 hid
    obtain ⟨data, hdata, -⟩ := hassets e he
    exact (get?_map s.assets (fun id => (files.get? id).getD .empty) hid).trans (by rw [hdata]; rfl)

theorem packs_last (hall : ∀ e ∈ s.assets, ∃ data, files.get? e.1 = some data) {e : String × Asset} (he : e ∈ s.assets)
    {data : ByteArray} (hdata : files.get? e.1 = some data) :
    ∃ front, Packs s files (front ++ [assetEntry e data]) := by
  obtain ⟨front, hfront⟩ := assetEntries_ok_iff.2 fun d (hd : d ∈ List.erase s.assets e) =>
    hall d (List.mem_of_mem_erase hd)
  have hperm : (List.erase s.assets e ++ [e]).Perm s.assets :=
    List.perm_append_comm.trans (List.perm_cons_erase he).symm
  exact ⟨storedEntry sceneEntry (Text.toBytes s.marshal) :: front, _, _, hperm, assetEntries_concat hfront hdata, rfl⟩

/-- Where the order of packing does not matter, the assets are separate. -/
theorem separate_of_restores (hassets : s.assets.Ascending)
    (hall : ∀ e ∈ s.assets, ∃ data, files.get? e.1 = some data)
    (h : ∀ entries, Packs s files entries → ∃ a, ofEntries entries = .ok a ∧ Restores s files a) :
    Separate s files := by
  have hlast : ∀ e ∈ s.assets, ∃ data front a, files.get? e.1 = some data ∧ Restores s files a ∧
      ofEntries (front ++ [assetEntry e data]) = .ok a := by
    intro e he
    obtain ⟨data, hdata⟩ := hall e he
    obtain ⟨front, hpacks⟩ := packs_last hall he hdata
    obtain ⟨a, hread, hrestores⟩ := h _ hpacks
    exact ⟨data, front, a, hdata, hrestores, hread⟩
  constructor
  · intro d hd e he hsame
    obtain ⟨data, front, a, hdata, hrestores, hread⟩ := hlast e he
    obtain ⟨-, hfiles⟩ := ofEntries_eq_ok.1 hread
    rw [hrestores.scene, readAssets_eq] at hfiles
    obtain ⟨f, hf, hreadAsset⟩ := exists_of_mapM hfiles hd
    obtain ⟨hid, p, hfound, hunpack⟩ := readAsset_eq_ok.1 hreadAsset
    rw [entryNamed?_concat ((cleanEntry_assetEntry e data).trans hsame.symm)] at hfound
    obtain rfl := Option.some.inj hfound
    have hvalue : data = f.2 := Except.ok.inj ((unpack_assetEntry _ e data).symm.trans hunpack)
    have hascending : a.files.Ascending := by
      have hkeys : a.files.keys.Pairwise (· < ·) := hrestores.assets ▸ List.pairwise_map.2 hassets
      exact List.pairwise_map.1 hkeys
    have hget : a.files.get? d.1 = some data := hascending.get?_eq_some_iff.2 (by rw [← hid, hvalue]; exact hf)
    rw [← hrestores.payload d.1 (List.mem_map_of_mem hd), hdata]
    exact hget
  · intro e he hname
    obtain ⟨data, front, a, hdata, hrestores, hread⟩ := hlast e he
    obtain ⟨⟨p, data', hfound, hunpack, hparse⟩, -⟩ := ofEntries_eq_ok.1 hread
    rw [entryNamed?_concat ((cleanEntry_assetEntry e data).trans hname)] at hfound
    obtain rfl := Option.some.inj hfound
    obtain rfl := Except.ok.inj ((unpack_assetEntry sceneEntry e data).symm.trans hunpack)
    exact ⟨data, hdata, hrestores.scene ▸ hparse⟩

/-- An archive is read as what was packed, in whatever order the assets were written, exactly if these are separate. -/
theorem restores_iff {entries : List Zip.Entry} (hs : s.checkStructure = .ok ())
    (hdoc : Scene.parseUnchecked s.marshal = .ok s) (hwritten : toEntries s files = .ok entries) :
    Packs s files entries ∧ ((∀ packed, Packs s files packed → ∃ a, ofEntries packed = .ok a ∧ Restores s files a) ↔
      Separate s files) := by
  obtain ⟨order, packed, hperm, hpacked, -⟩ := packs_toEntries hwritten
  have hall := assetEntries_ok_iff.1 ⟨packed, hpacked⟩
  exact ⟨packs_toEntries hwritten, separate_of_restores (Scene.assets_ascending hdoc)
    fun e he => hall e (hperm.mem_iff.2 he),
    fun h entries hentries => h.restores hs hdoc hentries⟩

/-- A scene with one node and a list of assets. -/
def holding (assets : Table Asset) : Scene where
  nodes := [{ id := "screen", type := "Screen" }]
  assets := assets

theorem holding_sound (assets : Table Asset) : (holding assets).checkStructure = .ok () := by
  simp [Scene.checkStructure, Scene.checkNodes, Scene.checkEndpoints, Scene.checkOutputs, holding, bind, Except.bind]

theorem holding_document {assets : Table Asset} (h : assets.Ascending) :
    Scene.parseUnchecked (holding assets).marshal = .ok (holding assets) := by
  have hstorable : (holding assets).Storable :=
    ⟨⟨nofun, nofun⟩, List.forall_mem_singleton.2 ⟨.nil, nofun⟩, nofun, .nil, h⟩
  exact Scene.parseUnchecked_pretty (Scene.fits_storable hstorable) (Scene.readScene_storable hstorable)

/-- Two assets whose paths lead out of the archive, and by way of another folder. -/
def album : Scene := holding [("logo", { path := "..\\pics\\logo.png" }), ("notes", { path := "pics/../notes.txt" })]

/-- The payloads of the album. -/
def albumFiles : Table ByteArray := [("logo", ⟨#[1, 2, 3]⟩), ("notes", Text.toBytes "two notes")]

theorem album_restores : ∃ entries, toEntries album albumFiles = .ok entries ∧
    ∃ a, ofEntries entries = .ok a ∧ Restores album albumFiles a := by
  have hlogo : cleanEntry "..\\pics\\logo.png" = "pics/logo.png" := by decide +kernel
  have hnotes : cleanEntry "pics/../notes.txt" = "notes.txt" := by decide +kernel
  have hseparate : Separate album albumFiles := by
    constructor
    · simp [album, holding, hlogo, hnotes]
    · simp [album, holding, hlogo, hnotes, sceneEntry]
  have hdoc : Scene.parseUnchecked album.marshal = .ok album := holding_document (by decide +kernel)
  have hall : ∀ e ∈ album.assets, ∃ data, albumFiles.get? e.1 = some data := by
    simp only [album, holding, List.forall_mem_cons]
    exact ⟨⟨_, rfl⟩, ⟨_, rfl⟩, nofun⟩
  obtain ⟨packed, hpacked⟩ := assetEntries_ok_iff.2 hall
  have hwritten := toEntries_eq_ok.2 ⟨packed, hpacked, rfl⟩
  obtain ⟨hpacks, hiff⟩ := restores_iff (holding_sound _) hdoc hwritten
  exact ⟨_, hwritten, hiff.2 hseparate _ hpacks⟩

/-- An asset that goes by the name of the document. -/
def shadow : String × Asset := ("doc", { path := "./scene.json", mimeType := "text/plain" })

/-- The payload of this asset, which is no document. -/
def shadowFiles : Table ByteArray := [("doc", Text.toBytes "hello")]

/-- The document of a scene is lost where an asset is stored over it. -/
theorem shadow_lost : (holding [shadow]).checkStructure = .ok () ∧
    Scene.parseUnchecked (holding [shadow]).marshal = .ok (holding [shadow]) ∧
      ∃ entries, toEntries (holding [shadow]) shadowFiles = .ok entries ∧ ∀ a, ofEntries entries ≠ .ok a := by
  have hname : cleanEntry shadow.2.path = sceneEntry := by decide +kernel
  have hdata : shadowFiles.get? shadow.1 = some (Text.toBytes "hello") := rfl
  have hrefused : (Scene.parse "hello").toOption.isNone = true := by decide +kernel
  have hnone : ∀ d ∈ [shadow], ∀ data, shadowFiles.get? d.1 = some data →
      (Scene.parse (Text.ofBytes data)).toOption = none := by
    refine List.forall_mem_singleton.2 fun data hdata' => ?_
    rw [← Option.some.inj (hdata.symm.trans hdata'), Text.ofBytes_toBytes]
    exact Option.isNone_iff_eq_none.1 hrefused
  obtain ⟨packed, hpacked⟩ := assetEntries_ok_iff.2 (List.forall_mem_singleton.2 ⟨_, hdata⟩)
  have hwritten := (toEntries_eq_ok (s := holding [shadow])).2 ⟨packed, hpacked, rfl⟩
  exact ⟨holding_sound _, holding_document (by decide +kernel), _, hwritten,
    not_read_of_asset _ hpacked (List.mem_singleton_self shadow) hname hnone⟩

end Archive

end SceneGraph
