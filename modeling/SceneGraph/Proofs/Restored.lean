import SceneGraph.Proofs.Documents
import SceneGraph.Proofs.WrittenTrees

/-!
# Scenes are restored from their documents

A scene is written as a record of records, lists and tables, some of which are left out when they are empty, and each
part is read from what its name finds in the record around it. So every reader restores what its writer wrote when
the readers of the parts do, and nothing but the nesting of parameters and the texts of their numbers is needed for it.

* `Value.Storable`, `Scene.Storable`: what a document can hold.
* `Value.ofJson?_toJson`: parameter values are restored.
* `Document.readScene_written`: scenes are restored from their trees.
* `Scene.parseUnchecked_marshal`: scenes are restored from their texts.
-/
set_option autoImplicit false

namespace SceneGraph

/-! ## Values -/

namespace Value

/-- A finite double whose shortest decimal, written out, is read as this double. -/
structure ReadsBack (x : Float) : Prop where
  finite : x.isFinite = true
  text : ∃ d, Json.parse (Json.writeNumber (Decimal.shortest x)) = some (.num d) ∧ d.toFloat = x

/-- What a number reads back as is the decimal that its text denotes. -/
theorem readsBack_iff {x : Float} : ReadsBack x ↔
    x.isFinite = true ∧ (NumberStyle.document.written (Decimal.shortest x)).toFloat = x := by
  have hparse := Json.parse_writeNumber (d := Decimal.shortest x) Decimal.shortest_exponent
  constructor
  · rintro ⟨hfinite, d, htext, hvalue⟩
    obtain rfl := Json.num.inj (Option.some.inj (htext.symm.trans hparse))
    exact ⟨hfinite, hvalue⟩
  · rintro ⟨hfinite, hvalue⟩
    exact ⟨hfinite, _, hparse, hvalue⟩

theorem isInf_of_isFinite {x : Float} (h : x.isFinite = true) : x.isInf = false := by
  unfold Float.isFinite Float.Model.isFinite at h
  unfold Float.isInf Float.Model.isInf
  cases hx : x.toModel.unpack with
  | infinity => rw [hx] at h; cases h
  | notANumber => rfl
  | zero => rfl
  | finite => rfl

/-- A value that nests no deeper than a number of levels, with records in order and numbers that read back. -/
inductive Storable : Nat → Value → Prop
  | null (depth : Nat) : Storable depth .null
  | bool (depth : Nat) (b : Bool) : Storable depth (.bool b)
  | num (depth : Nat) {x : Float} (h : ReadsBack x) : Storable depth (.num x)
  | str (depth : Nat) (s : String) : Storable depth (.str s)
  | list {depth : Nat} {items : List Value} (h : ∀ v ∈ items, Storable depth v) : Storable (depth + 1) (.list items)
  | record {depth : Nat} {fields : Table Value} (hnames : fields.Ascending) (h : ∀ e ∈ fields, Storable depth e.2) :
      Storable (depth + 1) (.record fields)

theorem listToJson_eq (items : List Value) : listToJson items = items.map toJson := by
  induction items with
  | nil => rfl
  | cons v items ih => rw [listToJson, ih, List.map_cons]

theorem recordToJson_eq (fields : Table Value) : recordToJson fields = fields.map fun e => (e.1, toJson e.2) := by
  induction fields with
  | nil => rfl
  | cons e fields ih => rw [recordToJson, ih, List.map_cons]

theorem fits_toJson {depth : Nat} {v : Value} (h : Storable depth v) : Json.Fits depth v.toJson := by
  induction h with
  | null depth => exact .null depth
  | bool depth b => exact .bool depth b
  | num depth _ => exact .num depth Decimal.shortest_exponent
  | str depth s => exact .str depth s
  | list _ ih =>
    rw [toJson, listToJson_eq]
    exact .arr (List.forall_mem_map.2 ih)
  | record _ _ ih =>
    rw [toJson, recordToJson_eq]
    exact .obj (List.forall_mem_map.2 ih)

end Value

/-! ## Tables -/

instance {α : Type} (t : Table α) : Decidable t.Ascending := inferInstanceAs (Decidable (t.Pairwise _))

/-- A name behind all others is put at the end. -/
theorem Table.insert_last {α : Type} {t : Table α} {name : String} (h : ∀ e ∈ t, e.1 < name) (value : α) :
    t.insert name value = t ++ [(name, value)] := by
  induction t with
  | nil => rfl
  | cons e rest ih =>
    obtain ⟨hfirst, hrest⟩ := List.forall_mem_cons.1 h
    rw [Table.insert, if_neg (String.ne_of_lt hfirst).symm, if_neg (String.lt_asymm hfirst), ih hrest, List.cons_append]

/-- A table followed by entries in order of their names. -/
theorem Table.Ascending.insert_next {α : Type} {t rest : Table α} {name : String} {value : α}
    (h : Ascending (t ++ (name, value) :: rest)) :
    t.insert name value = t ++ [(name, value)] ∧ Ascending (t.insert name value ++ rest) := by
  have hlast : t.insert name value = t ++ [(name, value)] :=
    insert_last (fun e he => (List.pairwise_append.1 h).2.2 e he _ List.mem_cons_self) value
  refine ⟨hlast, ?_⟩
  rwa [hlast, List.append_assoc]

namespace Value

/-- A parameter value is restored from its tree, one case for each kind of value. -/
theorem ofJson?_toJson {depth : Nat} {v : Value} (h : Storable depth v) : ofJson? v.toJson.written = some v := by
  induction h with
  | null => rfl
  | bool => rfl
  | num _ h =>
    obtain ⟨hfinite, hvalue⟩ := readsBack_iff.1 h
    rw [toJson, Json.float, Json.written, ofJson?, hvalue, if_neg (by simp [isInf_of_isFinite hfinite])]
  | str => rfl
  | @list _ items _ ih =>
    have hitems : listOfJson? (Json.writtenItems (listToJson items)) = some items := by
      rw [listToJson_eq, Json.writtenItems_eq]
      clear * - ih
      induction items with
      | nil => rfl
      | cons v items ihitems =>
        obtain ⟨hv, hrest⟩ := List.forall_mem_cons.1 ih
        rw [List.map_cons, List.map_cons, listOfJson?, hv, ihitems hrest]
        rfl
    rw [toJson, Json.written, ofJson?, hitems]
    rfl
  | @record _ fields hnames _ ih =>
    have hfields : ∀ t : Table Value, Table.Ascending (t ++ fields) →
        recordOfJson? (Json.writtenMembers (recordToJson fields)) t = some (t ++ fields) := by
      rw [recordToJson_eq, Json.writtenMembers_eq]
      clear * - ih
      induction fields with
      | nil => simp [recordOfJson?]
      | cons e fields ihfields =>
        intro t ht
        obtain ⟨hv, hrest⟩ := List.forall_mem_cons.1 ih
        obtain ⟨hlast, hnext⟩ := ht.insert_next
        have hfound := ihfields hrest (t.insert e.1 e.2) hnext
        rw [List.map_cons, List.map_cons, recordOfJson?, hv]
        dsimp only [bind, Option.bind]
        rw [hfound, hlast, List.append_assoc, List.singleton_append]
    rw [toJson, Json.written, ofJson?, hfields [] hnames]
    rfl

end Value

/-! ## Records -/

namespace Document

/-- The members of records that hold the names of the document's parts. -/
theorem foldName_members : foldName "id" = "ID" ∧ foldName "name" = "NAME" ∧ foldName "type" = "TYPE" ∧
    foldName "params" = "PARAMS" ∧ foldName "inputs" = "INPUTS" ∧ foldName "outputs" = "OUTPUTS" ∧
    foldName "nodeId" = "NODEID" ∧ foldName "portId" = "PORTID" ∧ foldName "from" = "FROM" ∧ foldName "to" = "TO" ∧
    foldName "path" = "PATH" ∧ foldName "mimeType" = "MIMETYPE" ∧ foldName "originalName" = "ORIGINALNAME" ∧
    foldName "nodes" = "NODES" ∧ foldName "connections" = "CONNECTIONS" ∧ foldName "version" = "VERSION" ∧
    foldName "metadata" = "METADATA" ∧ foldName "groups" = "GROUPS" ∧ foldName "assets" = "ASSETS" ∧
    foldName "created" = "CREATED" ∧ foldName "modified" = "MODIFIED" := by
  decide +kernel

/-- The occurrences of a member in a written record. -/
def shown (ms : List (String × Json)) (key : String) : Occurrences :=
  ms.filterMap fun m => if foldName m.1 = key then some m.2.written else none

/-- The occurrences of a member that is left out when it is empty. -/
def leftOut (empty : Bool) (j : Json) : Occurrences := if empty then [] else [j.written]

theorem readRecord_written {α : Type} (read : (String → Occurrences) → Read α) (ms : List (String × Json)) :
    readRecord read [(Json.obj ms).written] = read (shown ms) := by
  have hshown : occurrences ((Json.writtenMembers ms).map (fun m => (foldName m.1, m.2)) ++ []) = shown ms := by
    funext key
    rw [Json.writtenMembers_eq]
    simp [occurrences, shown, List.filterMap_map, Function.comp_def]
  rw [← hshown, Json.written]
  rfl

section

variable (name key : String)

@[simp]
theorem shown_nil : shown [] key = [] := rfl

@[simp]
theorem shown_cons (j : Json) (ms : List (String × Json)) :
    shown ((name, j) :: ms) key = if foldName name = key then j.written :: shown ms key else shown ms key := by
  unfold shown
  rw [List.filterMap_cons]
  split <;> simp_all

@[simp]
theorem shown_append (ms ms' : List (String × Json)) : shown (ms ++ ms') key = shown ms key ++ shown ms' key :=
  List.filterMap_append

@[simp]
theorem shown_optionalText (text : String) :
    shown (optionalText name text) key = if foldName name = key then leftOut (text = "") (.str text) else [] := by
  unfold optionalText leftOut
  by_cases htext : text = "" <;> simp [htext]

@[simp]
theorem shown_optionalList {α : Type} (write : α → Json) (xs : List α) : shown (optionalList name write xs) key =
    if foldName name = key then leftOut xs.isEmpty (.arr (xs.map write)) else [] := by
  unfold optionalList leftOut
  cases xs <;> simp

@[simp]
theorem shown_optionalTable {α : Type} (write : α → Json) (t : Table α) : shown (optionalTable name write t) key =
    if foldName name = key then leftOut t.isEmpty (.obj (t.map fun e => (e.1, write e.2))) else [] := by
  unfold optionalTable leftOut
  cases t <;> simp

end

/-! ## Texts, lists and tables -/

@[simp]
theorem readText_written (text : String) : readText [(Json.str text).written] = .ok text := rfl

@[simp]
theorem readText_leftOut (text : String) : readText (leftOut (text = "") (.str text)) = .ok text := by
  unfold leftOut
  by_cases htext : text = ""
  · rw [htext]
    rfl
  · rw [if_neg (by simpa using htext)]
    rfl

theorem itemOccurrences_single (items : List Json) :
    itemOccurrences items.length [items] = items.map fun item => [item] := by
  induction items with
  | nil => rfl
  | cons item items ih => simpa [itemOccurrences] using ih

variable {α : Type} {read : Occurrences → Read α} {write : α → Json}

/-- A written list occurs once, and its items are read one by one. -/
theorem readList_written {xs : List α} (h : ∀ x ∈ xs, read [(write x).written] = .ok x) :
    readList read [(Json.arr (xs.map write)).written] = .ok xs := by
  have hitems : ((xs.map write).map Json.written).mapM (fun item => read [item]) = .ok xs := by
    induction xs with
    | nil => rfl
    | cons x xs ih =>
      obtain ⟨hx, hrest⟩ := List.forall_mem_cons.1 h
      rw [List.map_cons, List.map_cons, List.mapM_cons, hx, ih hrest]
      rfl
  have hlength : ((xs.map write).map Json.written).length = xs.length := by rw [List.length_map, List.length_map]
  rw [Json.written, Json.writtenItems_eq]
  generalize (xs.map write).map Json.written = items at hitems hlength ⊢
  have hrun : readRun read [items] = .ok xs := by
    unfold readRun
    simp only [List.foldl_cons, List.foldl_nil, Nat.zero_max, itemOccurrences_single, List.mapM_map]
    rw [show (read ∘ fun item => [item]) = fun item => read [item] from rfl, hitems]
    exact congrArg Except.ok (List.take_of_length_le (Nat.le_of_eq hlength.symm))
  cases items with
  | nil =>
    cases List.length_eq_zero_iff.1 hlength.symm
    rfl
  | cons item items =>
    have hruns : listRuns [.arr (item :: items)] [] [] = .ok [[item :: items]] := rfl
    rw [readList, hruns]
    dsimp only [bind, Except.bind]
    rw [List.mapM_cons, hrun]
    rfl

theorem readList_leftOut {xs : List α} (h : ∀ x ∈ xs, read [(write x).written] = .ok x) :
    readList read (leftOut xs.isEmpty (.arr (xs.map write))) = .ok xs := by
  cases xs with
  | nil => rfl
  | cons x xs => exact readList_written h

theorem readList_spelledList (spelled : Bool) {xs : List α} (h : ∀ x ∈ xs, read [(write x).written] = .ok x) :
    readList read [(spelledList spelled write xs).written] = .ok xs := by
  unfold spelledList
  split
  · rename_i hempty
    simp only [Bool.and_eq_true, List.isEmpty_iff] at hempty
    rw [hempty.1]
    rfl
  · exact readList_written h

theorem isSpelled_spelledList {spelled : Bool} {xs : List α} (h : spelled = true → xs = []) :
    isSpelled [(spelledList spelled write xs).written] = spelled := by
  cases spelled with
  | true =>
    rw [h rfl]
    rfl
  | false => cases xs <;> rfl

theorem readTable_written {read : Json → Read α} {t : Table α} (ht : t.Ascending)
    (h : ∀ e ∈ t, read (write e.2).written = .ok e.2) :
    readTable read (leftOut t.isEmpty (.obj (t.map fun e => (e.1, write e.2)))) = .ok t := by
  have hentries : ∀ u : Table α, Table.Ascending (u ++ t) →
      (t.map fun e => (e.1, (write e.2).written)).foldlM (fun t m => return t.insert m.1 (← read m.2)) u =
        .ok (u ++ t) := by
    clear ht
    induction t with
    | nil => exact fun u _ => by rw [List.append_nil]; rfl
    | cons e rest ih =>
      intro u hu
      obtain ⟨he, hrest⟩ := List.forall_mem_cons.1 h
      obtain ⟨hlast, hnext⟩ := hu.insert_next
      have hfound := ih hrest (u.insert e.1 e.2) hnext
      rw [List.map_cons, List.foldlM_cons, he]
      dsimp only [bind, Except.bind, pure, Except.pure] at hfound ⊢
      rw [hfound, hlast, List.append_assoc, List.singleton_append]
  cases t with
  | nil => rfl
  | cons e rest =>
    rw [leftOut, List.isEmpty_cons, if_neg Bool.false_ne_true, Json.written, Json.writtenMembers_eq, List.map_map,
      readTable, List.foldlM_cons]
    dsimp only [Function.comp_def]
    rw [hentries [] ht]
    rfl

/-! ## Parts of scenes -/

theorem readPort_written (p : Port) : readPort [(writePort p).written] = .ok p := by
  rw [readPort, writePort, readRecord_written]
  simp [foldName_members, bind, Except.bind, pure, Except.pure]

theorem readNode_written {n : Node} (hparams : n.params.Ascending)
    (h : ∀ e ∈ n.params, readValue e.2.toJson.written = .ok e.2) : readNode [(writeNode n).written] = .ok n := by
  rw [readNode, writeNode, readRecord_written]
  have hinputs := readList_leftOut fun p (_ : p ∈ n.inputs) => readPort_written p
  have houtputs := readList_leftOut fun p (_ : p ∈ n.outputs) => readPort_written p
  simp [foldName_members, readTable_written hparams h, hinputs, houtputs, bind, Except.bind, pure, Except.pure]

theorem readEndpoint_written (e : Endpoint) : readEndpoint [(writeEndpoint e).written] = .ok e := by
  rw [readEndpoint, writeEndpoint, readRecord_written]
  simp [foldName_members, bind, Except.bind, pure, Except.pure]

theorem readConnection_written (c : Connection) : readConnection [(writeConnection c).written] = .ok c := by
  rw [readConnection, writeConnection, readRecord_written]
  simp [foldName_members, readEndpoint_written, bind, Except.bind, pure, Except.pure]

theorem readAsset_written (a : Asset) : readAsset [(writeAsset a).written] = .ok a := by
  rw [readAsset, writeAsset, readRecord_written]
  simp [foldName_members, bind, Except.bind, pure, Except.pure]

theorem readGroupPort_written (p : GroupPort) : readGroupPort [(writeGroupPort p).written] = .ok p := by
  rw [readGroupPort, writeGroupPort, readRecord_written]
  simp [foldName_members, bind, Except.bind, pure, Except.pure]

theorem readMetadata_written (m : Metadata) : readMetadata [(writeMetadata m).written] = .ok m := by
  rw [readMetadata, writeMetadata, readRecord_written]
  simp [foldName_members, bind, Except.bind, pure, Except.pure]

theorem readGroup_written {g : Group} (hnodes : ∀ n ∈ g.nodes, readNode [(writeNode n).written] = .ok n)
    (hspelled : g.spelled.nodes = true → g.nodes = [])
    (hspelled' : g.spelled.connections = true → g.connections = []) : readGroup [(writeGroup g).written] = .ok g := by
  rw [readGroup, writeGroup, readRecord_written]
  have hconnections := fun c (_ : c ∈ g.connections) => readConnection_written c
  have hinputs := readList_leftOut fun p (_ : p ∈ g.inputs) => readGroupPort_written p
  have houtputs := readList_leftOut fun p (_ : p ∈ g.outputs) => readGroupPort_written p
  simp [foldName_members, readSpelled, readList_spelledList _ hnodes, readList_spelledList _ hconnections, hinputs,
    houtputs, isSpelled_spelledList hspelled, isSpelled_spelledList hspelled', bind, Except.bind, pure, Except.pure]

theorem readScene_written {s : Scene} (hnodes : ∀ n ∈ s.nodes, readNode [(writeNode n).written] = .ok n)
    (hgroups : ∀ g ∈ s.groups, readGroup [(writeGroup g).written] = .ok g) (houtputs : s.outputs.Ascending)
    (hassets : s.assets.Ascending) (hspelled : s.spelled.nodes = true → s.nodes = [])
    (hspelled' : s.spelled.connections = true → s.connections = []) : readScene [(writeScene s).written] = .ok s := by
  rw [readScene, writeScene, readRecord_written]
  have hconnections := fun c (_ : c ∈ s.connections) => readConnection_written c
  have houtputs' : readTable (fun j => readText [j])
      (leftOut s.outputs.isEmpty (.obj (s.outputs.map fun e => (e.1, .str e.2)))) = .ok s.outputs :=
    readTable_written houtputs fun e _ => readText_written e.2
  have hassets' : readTable (fun j => readAsset [j])
      (leftOut s.assets.isEmpty (.obj (s.assets.map fun e => (e.1, writeAsset e.2)))) = .ok s.assets :=
    readTable_written hassets fun e _ => readAsset_written e.2
  simp [foldName_members, readSpelled, readMetadata_written, readList_spelledList _ hnodes,
    readList_spelledList _ hconnections, readList_leftOut hgroups, houtputs', hassets',
    isSpelled_spelledList hspelled, isSpelled_spelledList hspelled', bind, Except.bind, pure, Except.pure]

/-! ## Levels -/

section

open Json (Fits)

variable {depth : Nat} {name : String}

theorem fits_optionalText (text : String) : ∀ m ∈ optionalText name text, Fits depth m.2 := by
  unfold optionalText
  split
  · exact nofun
  · exact List.forall_mem_singleton.2 (.str depth text)

theorem fits_optionalList {α : Type} {write : α → Json} {xs : List α} (h : ∀ x ∈ xs, Fits depth (write x)) :
    ∀ m ∈ optionalList name write xs, Fits (depth + 1) m.2 := by
  unfold optionalList
  split
  · exact nofun
  · exact List.forall_mem_singleton.2 (.arr (List.forall_mem_map.2 h))

theorem fits_optionalTable {α : Type} {write : α → Json} {t : Table α} (h : ∀ e ∈ t, Fits depth (write e.2)) :
    ∀ m ∈ optionalTable name write t, Fits (depth + 1) m.2 := by
  unfold optionalTable
  split
  · exact nofun
  · exact List.forall_mem_singleton.2 (.obj (List.forall_mem_map.2 h))

theorem fits_spelledList {α : Type} {write : α → Json} {xs : List α} (spelled : Bool)
    (h : ∀ x ∈ xs, Fits depth (write x)) : Fits (depth + 1) (spelledList spelled write xs) := by
  unfold spelledList
  split
  · exact .null _
  · exact .arr (List.forall_mem_map.2 h)

theorem fits_writePort (p : Port) : Fits (depth + 1) (writePort p) := by
  refine .obj ?_
  simp only [List.cons_append, List.forall_mem_cons, List.forall_mem_append]
  exact ⟨.str _ _, fits_optionalText _, fits_optionalText _⟩

theorem fits_writeNode {n : Node} (h : ∀ e ∈ n.params, Fits (depth + 1) e.2.toJson) :
    Fits (depth + 3) (writeNode n) := by
  refine .obj ?_
  simp only [List.forall_mem_cons, List.forall_mem_append]
  exact ⟨⟨⟨⟨.str _ _, .str _ _, nofun⟩, fits_optionalTable h⟩,
    fits_optionalList fun p _ => fits_writePort p⟩, fits_optionalList fun p _ => fits_writePort p⟩

theorem fits_writeEndpoint (e : Endpoint) : Fits (depth + 1) (writeEndpoint e) := by
  refine .obj ?_
  simp only [List.forall_mem_cons]
  exact ⟨.str _ _, .str _ _, nofun⟩

theorem fits_writeConnection (c : Connection) : Fits (depth + 2) (writeConnection c) := by
  refine .obj ?_
  simp only [List.forall_mem_cons]
  exact ⟨.str _ _, fits_writeEndpoint _, fits_writeEndpoint _, nofun⟩

theorem fits_writeAsset (a : Asset) : Fits (depth + 1) (writeAsset a) := by
  refine .obj ?_
  simp only [List.forall_mem_cons, List.forall_mem_append]
  exact ⟨⟨.str _ _, .str _ _, nofun⟩, fits_optionalText _⟩

theorem fits_writeGroupPort (p : GroupPort) : Fits (depth + 1) (writeGroupPort p) := by
  refine .obj ?_
  simp only [List.forall_mem_cons]
  exact ⟨.str _ _, .str _ _, .str _ _, nofun⟩

theorem fits_writeMetadata (m : Metadata) : Fits (depth + 1) (writeMetadata m) := by
  refine .obj ?_
  simp only [List.cons_append, List.forall_mem_cons, List.forall_mem_append]
  exact ⟨.str _ _, fits_optionalText _, fits_optionalText _⟩

theorem fits_writeGroup {g : Group} (h : ∀ n ∈ g.nodes, ∀ e ∈ n.params, Fits (depth + 1) e.2.toJson) :
    Fits (depth + 5) (writeGroup g) := by
  refine .obj ?_
  simp only [List.cons_append, List.forall_mem_cons, List.forall_mem_append]
  exact ⟨.str _ _, ⟨⟨fits_optionalText _, fits_spelledList _ fun n hn => fits_writeNode (h n hn),
    fits_spelledList _ fun c _ => fits_writeConnection c, nofun⟩,
    fits_optionalList fun p _ => fits_writeGroupPort p⟩, fits_optionalList fun p _ => fits_writeGroupPort p⟩

theorem fits_writeScene {s : Scene} (h : ∀ n ∈ s.nodes, ∀ e ∈ n.params, Fits (depth + 3) e.2.toJson)
    (hgroups : ∀ g ∈ s.groups, ∀ n ∈ g.nodes, ∀ e ∈ n.params, Fits (depth + 1) e.2.toJson) :
    Fits (depth + 7) (writeScene s) := by
  refine .obj ?_
  simp only [List.forall_mem_cons, List.forall_mem_append]
  exact ⟨⟨⟨⟨.str _ _, fits_writeMetadata _, fits_spelledList _ fun n hn => fits_writeNode (h n hn),
    fits_spelledList _ fun c _ => fits_writeConnection c, nofun⟩,
    fits_optionalTable fun e _ => .str _ _⟩, fits_optionalList fun g hg => fits_writeGroup (hgroups g hg)⟩,
    fits_optionalTable fun e _ => fits_writeAsset e.2⟩

end

end Document

/-! ## Scenes -/

/-- Only empty lists are spelled out. -/
structure Spelled.Agrees (spelled : Spelled) (nodes : List Node) (connections : List Connection) : Prop where
  nodes : spelled.nodes = true → nodes = []
  connections : spelled.connections = true → connections = []

/-- The parameters of a node are in order, and their values nest no deeper than a number of levels. -/
structure Node.Storable (depth : Nat) (n : Node) : Prop where
  ordered : n.params.Ascending
  values : ∀ e ∈ n.params, e.2.Storable depth

structure Group.Storable (depth : Nat) (g : Group) : Prop where
  spelled : g.spelled.Agrees g.nodes g.connections
  nodes : ∀ n ∈ g.nodes, n.Storable depth

/-- What a document can hold: the scene, its nodes, a node and its parameters take four levels of a document, and groups
take two more. -/
structure Scene.Storable (s : Scene) : Prop where
  spelled : s.spelled.Agrees s.nodes s.connections
  nodes : ∀ n ∈ s.nodes, n.Storable (Json.maxDepth - 4)
  groups : ∀ g ∈ s.groups, g.Storable (Json.maxDepth - 6)
  outputs : s.outputs.Ascending
  assets : s.assets.Ascending

namespace Scene

open Document

theorem readNode_storable {depth : Nat} {n : Node} (h : n.Storable depth) :
    readNode [(writeNode n).written] = .ok n := by
  refine readNode_written h.ordered fun e he => ?_
  rw [readValue, Value.ofJson?_toJson (h.values e he)]

theorem readScene_storable {s : Scene} (h : s.Storable) : readScene [(writeScene s).written] = .ok s :=
  readScene_written (fun n hn => readNode_storable (h.nodes n hn))
    (fun g hg => readGroup_written (fun n hn => readNode_storable ((h.groups g hg).nodes n hn))
      (h.groups g hg).spelled.nodes (h.groups g hg).spelled.connections)
    h.outputs h.assets h.spelled.nodes h.spelled.connections

theorem fits_storable {s : Scene} (h : s.Storable) : Json.Fits Json.maxDepth (writeScene s) :=
  fits_writeScene (fun n hn e he => Value.fits_toJson ((h.nodes n hn).values e he))
    fun g hg n hn e he => Value.fits_toJson (((h.groups g hg).nodes n hn).values e he)

/-- A document is read as the scene that its tree is read as. -/
theorem parseUnchecked_pretty {m : String × Json} {ms : List (String × Json)} {s : Scene}
    (h : Json.Fits Json.maxDepth (.obj (m :: ms))) (hread : readScene [(Json.obj (m :: ms)).written] = .ok s) :
    parseUnchecked (Json.obj (m :: ms)).pretty = .ok s := by
  have hmark : dropByteOrderMark (Json.obj (m :: ms)).pretty.toList = (Json.obj (m :: ms)).pretty.toList := by
    rw [Json.pretty, Json.toList_prettyAt_obj]
    rfl
  rw [parseUnchecked, hmark, Json.readValue_pretty h]
  dsimp only
  rw [hread]
  rfl

/-- Whatever scene a document can hold, its text reads back as that scene. -/
theorem parseUnchecked_marshal {s : Scene} (h : s.Storable) : parseUnchecked s.marshal = .ok s :=
  parseUnchecked_pretty (fits_storable h) (readScene_storable h)

/-- A scene with escapes in its texts, numbers in all styles, nested parameters and empty lists of both spellings. -/
def keepsake : Scene where
  version := "1.0"
  metadata := { name := "a \"<\\b>\"\t\x01\u2028", modified := "today" }
  nodes := [{
    id := "n"
    type := "Color"
    params := [("r", .num 0.5), ("s", .list [.num 1e21, .record [("x", .bool true), ("y", .null), ("é", .list [])]]),
      ("t", .num (-0.0)), ("u", .str "/"), ("v", .num 1e-7), ("w", .num 1200)]
    inputs := [{ id := "i", name := "in" }]
    outputs := [{ id := "o", type := "vec4" }] }]
  outputs := [("main", "n"), ("other", "n")]
  groups := [{ id := "g", spelled := { nodes := true }, outputs := [{ id := "o", node := "n", port := "o" }] }]
  assets := [("doc", { path := "a/b.txt", mimeType := "text/plain", givenName := "B" })]
  spelled := { connections := true }

theorem keepsake_restored : keepsake.Storable ∧ parseUnchecked keepsake.marshal = .ok keepsake := by
  have hnumbers : ∀ x ∈ [0.5, 1e21, -0.0, 1e-7, 1200], Value.ReadsBack x := by
    simp only [Value.readsBack_iff]
    decide +kernel
  simp only [List.forall_mem_cons] at hnumbers
  obtain ⟨hhalf, hlarge, hzero, hsmall, hwhole, -⟩ := hnumbers
  have hrecord : ∀ n, Value.Storable (n + 2) (.record [("x", .bool true), ("y", .null), ("é", .list [])]) := by
    intro n
    refine .record (by decide +kernel) ?_
    simp only [List.forall_mem_cons]
    exact ⟨.bool _ _, .null _, .list nofun, nofun⟩
  have hstorable : keepsake.Storable := by
    refine ⟨⟨nofun, fun _ => rfl⟩, List.forall_mem_singleton.2 ⟨by decide +kernel, ?_⟩,
      List.forall_mem_singleton.2 ⟨⟨fun _ => rfl, nofun⟩, nofun⟩, by decide +kernel,
      by decide +kernel⟩
    simp only [List.forall_mem_cons]
    refine ⟨.num _ hhalf, .list ?_, .num _ hzero, .str _ _, .num _ hsmall, .num _ hwhole, nofun⟩
    simp only [List.forall_mem_cons]
    exact ⟨.num _ hlarge, hrecord _, nofun⟩
  exact ⟨hstorable, parseUnchecked_marshal hstorable⟩

end Scene

end SceneGraph
