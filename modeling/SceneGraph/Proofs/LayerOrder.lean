import Mathlib.Data.List.Perm.Basic
import Mathlib.Data.List.TakeWhile
import SceneGraph.Prepare.Layers

/-!
# The order of layers

The layers of a composition are its connections on the port `pass` and on dynamic ports, each once. Those on `pass`
come first, then those on ports that the composition declares, by the place of the port in the declaration, then the
others by the id of the port. Ports compare as a total order, so a sorted list of layers is determined up to the
layers on one port; these stand as their connections do, because sorting is stable. So the order of connections
matters exactly where one port takes different layers.

* `Layer.Before`: one layer stands before or beside another.
* `Layer.ordered_perm`, `Layer.ordered_sorted`: the layers are all there, and sorted.
* `Layer.ordered_onPort`: the layers on one port stand in the order of connections.
* `Layer.ordered_complete`: the three parts of the layers.
* `Layer.ordered_permuted_iff`: when the order of connections does not matter.
-/
set_option autoImplicit false

namespace SceneGraph.Layer

variable {n : Node}

/-! ## Ports -/

/-- The ids of the ports that a node declares, of which the first of several counts. -/
def declaredPorts (n : Node) : List String := n.inputs.map Port.id

section
variable {a b c : String}

theorem inputIndex?_eq : n.inputIndex? a = (declaredPorts n).idxOf? a := by
  rw [Node.inputIndex?, declaredPorts, List.idxOf?, List.findIdx?_map]
  rfl

theorem inputIndex?_of_mem (h : a ∈ declaredPorts n) : n.inputIndex? a = some ((declaredPorts n).idxOf a) := by
  rw [inputIndex?_eq]
  exact List.findIdx?_eq_some_of_exists ⟨a, h, beq_self_eq_true a⟩

theorem inputIndex?_of_not_mem (h : a ∉ declaredPorts n) : n.inputIndex? a = none := by
  rw [inputIndex?_eq]
  exact List.idxOf?_eq_none_iff.2 h

theorem portLe_total : (portLe n a b || portLe n b a) = true := by
  have hnames := String.le_total a b
  unfold portLe
  cases n.inputIndex? a <;> cases n.inputIndex? b <;> simp only [Bool.or_eq_true, Bool.and_eq_true, decide_eq_true_eq,
    beq_iff_eq, or_true, true_or]
  · exact hnames
  · grind

theorem portLe_trans (hab : portLe n a b = true) (hbc : portLe n b c = true) : portLe n a c = true := by
  have hnames : a ≤ b → b ≤ c → a ≤ c := String.le_trans
  unfold portLe at *
  generalize n.inputIndex? a = i at *
  generalize n.inputIndex? b = j at *
  generalize n.inputIndex? c = k at *
  cases i <;> cases j <;> cases k <;> simp only [Bool.or_eq_true, Bool.and_eq_true, decide_eq_true_eq,
    beq_iff_eq, Bool.false_eq_true] at * <;> grind

theorem portLe_antisymm (hab : portLe n a b = true) (hba : portLe n b a = true) : a = b := by
  have hnames : a ≤ b → b ≤ a → a = b := String.le_antisymm
  unfold portLe at *
  generalize n.inputIndex? a = i at *
  generalize n.inputIndex? b = j at *
  cases i <;> cases j <;> simp only [Bool.or_eq_true, Bool.and_eq_true, decide_eq_true_eq,
    beq_iff_eq, Bool.false_eq_true] at *
  · exact hnames hab hba
  · exact hnames (by grind) (by grind)

theorem portLe_refl : portLe n a a = true := by
  simpa using portLe_total (n := n) (a := a) (b := a)

end

/-! ## Sorting -/

theorem filter_mergeSort {α : Type} {le : α → α → Bool} {p : α → Bool}
    (htrans : ∀ a b c, le a b = true → le b c = true → le a c = true) (htotal : ∀ a b, (le a b || le b a) = true)
    (hbeside : ∀ a b, p a = true → p b = true → le a b = true) (xs : List α) :
    (xs.mergeSort le).filter p = xs.filter p := by
  have hpairwise : (xs.filter p).Pairwise fun a b => le a b = true :=
    List.pairwise_of_forall_mem_list fun a ha b hb =>
      hbeside a b (List.mem_filter.1 ha).2 (List.mem_filter.1 hb).2
  have hsublist : (xs.filter p).Sublist (xs.mergeSort le) :=
    List.sublist_mergeSort htrans htotal hpairwise List.filter_sublist
  have hkept : (xs.filter p).Sublist ((xs.mergeSort le).filter p) := by
    have hfilter := hsublist.filter p
    simpa only [List.filter_filter, Bool.and_self] using hfilter
  exact (hkept.eq_of_length ((List.mergeSort_perm xs le).filter p).symm.length_eq).symm

/-- Where nothing that fails a test stands before something that passes it, all that follows the first that fails
fails. -/
theorem not_of_mem_dropWhile {α : Type} {p : α → Bool} {l : List α} (h : l.Pairwise fun a b => p b = true → p a = true)
    {x : α} (hx : x ∈ l.dropWhile p) : p x = false := by
  induction l with
  | nil => exact absurd hx List.not_mem_nil
  | cons a rest ih =>
    obtain ⟨hhead, hrest⟩ := List.pairwise_cons.1 h
    cases ha : p a with
    | true =>
      rw [List.dropWhile_cons_of_pos ha] at hx
      exact ih hrest hx
    | false =>
      rw [List.dropWhile_cons_of_neg (by simp [ha])] at hx
      rcases List.mem_cons.1 hx with rfl | hx
      · exact ha
      · cases hp : p x with
        | false => rfl
        | true => exact absurd (hhead x hx hp) (by simp [ha])

/-! ## Layers -/

/-- A connection brings a layer to a composition: it lands on the port `pass` or on a dynamic one. -/
def Brings (n : Node) (c : Connection) : Prop :=
  c.target.node = n.id ∧ (c.target.port = "pass" ∨ dynamicStem.toList <+: c.target.port.toList)

instance (n : Node) (c : Connection) : Decidable (Brings n c) := instDecidableAnd

/-- The layers of a composition in the order of connections. -/
def arrivals (s : Scene) (n : Node) : List Layer := (s.connections.filter fun c => Brings n c).map ofConnection

/-- One layer stands before or beside another: those on `pass` before all others, which stand as their ports do. -/
def Before (n : Node) (a b : Layer) : Prop := a.port = "pass" ∨ b.port ≠ "pass" ∧ portLe n a.port b.port = true

variable {s t : Scene} {a b : Layer}

theorem Before.port_eq (hab : Before n a b) (hba : Before n b a) : a.port = b.port := by
  rcases hab with ha | ⟨hb, hab⟩
  · rcases hba with hb | ⟨ha', -⟩
    · exact ha.trans hb.symm
    · exact absurd ha ha'
  · rcases hba with hb' | ⟨-, hba⟩
    · exact absurd hb' hb
    · exact portLe_antisymm hab hba

theorem isDynamic_iff {port : String} : isDynamic port = true ↔ dynamicStem.toList <+: port.toList :=
  List.isPrefixOf_iff_prefix

theorem ne_pass_of_isDynamic {port : String} (h : isDynamic port = true) : port ≠ "pass" := by
  rintro rfl
  revert h
  decide

/-- The layers on all ports of a composition, of which those on other ports are dropped. -/
def landing (s : Scene) (n : Node) : List Layer :=
  (s.connections.filter fun c => c.target.node == n.id).map ofConnection

theorem arrivals_eq : arrivals s n = (landing s n).filter fun l => l.port == "pass" || isDynamic l.port := by
  rw [arrivals, landing, List.filter_map, List.filter_filter]
  refine congrArg (List.map ofConnection) (List.filter_congr fun c _ => ?_)
  rw [Bool.eq_iff_iff, decide_eq_true_iff]
  simp [Brings, ofConnection, isDynamic_iff, and_comm]

theorem filter_pass_arrivals :
    (arrivals s n).filter (fun l => l.port == "pass") = (landing s n).filter fun l => l.port == "pass" := by
  rw [arrivals_eq, List.filter_filter]
  refine List.filter_congr fun l _ => ?_
  cases l.port == "pass" <;> rfl

theorem filter_not_pass_arrivals :
    (arrivals s n).filter (fun l => !l.port == "pass") = (landing s n).filter fun l => isDynamic l.port := by
  rw [arrivals_eq, List.filter_filter]
  refine List.filter_congr fun l _ => ?_
  cases hdynamic : isDynamic l.port with
  | false => simp
  | true => simp [ne_pass_of_isDynamic hdynamic]

/-- The layers on dynamic ports, sorted. -/
def dynamics (s : Scene) (n : Node) : List Layer :=
  ((arrivals s n).filter fun l => !l.port == "pass").mergeSort fun a b => portLe n a.port b.port

theorem ordered_eq : ordered s n = (arrivals s n).filter (fun l => l.port == "pass") ++ dynamics s n := by
  rw [dynamics, filter_pass_arrivals, filter_not_pass_arrivals]
  rfl

theorem isDynamic_of_mem_dynamics (h : a ∈ dynamics s n) : isDynamic a.port = true := by
  have h := List.mem_mergeSort.1 h
  rw [filter_not_pass_arrivals] at h
  exact (List.mem_filter.1 h).2

theorem dynamics_sorted : (dynamics s n).Pairwise fun a b => portLe n a.port b.port = true :=
  @List.pairwise_mergeSort _ (fun a b : Layer => portLe n a.port b.port) (fun _ _ _ => portLe_trans)
    (fun _ _ => portLe_total) _

theorem ordered_perm : (ordered s n).Perm (arrivals s n) := by
  rw [ordered_eq]
  exact ((List.mergeSort_perm _ _).append_left _).trans (List.filter_append_perm _ _)

theorem mem_arrivals : a ∈ arrivals s n ↔ ∃ c ∈ s.connections, Brings n c ∧ ofConnection c = a := by
  simp [arrivals, and_assoc]

theorem ordered_sorted : (ordered s n).Pairwise (Before n) := by
  have hpass : ∀ l ∈ (arrivals s n).filter (fun l => l.port == "pass"), l.port = "pass" := fun l hl =>
    beq_iff_eq.1 (List.mem_filter.1 hl).2
  rw [ordered_eq]
  refine List.pairwise_append.2 ⟨?_, ?_, fun a ha b _ => .inl (hpass a ha)⟩
  · exact List.pairwise_of_forall_mem_list fun a ha b _ => .inl (hpass a ha)
  · exact dynamics_sorted.imp_of_mem fun _ hb hab => .inr ⟨ne_pass_of_isDynamic (isDynamic_of_mem_dynamics hb), hab⟩

/-- The layers on one port stand in the order of connections. -/
theorem ordered_onPort (port : String) :
    (ordered s n).filter (fun l => l.port == port) = (arrivals s n).filter fun l => l.port == port := by
  have hstable : ∀ xs : List Layer, (xs.mergeSort fun a b => portLe n a.port b.port).filter (fun l => l.port == port) =
      xs.filter fun l => l.port == port := by
    refine filter_mergeSort (fun _ _ _ => portLe_trans) (fun _ _ => portLe_total) fun a b ha hb => ?_
    obtain rfl := (beq_iff_eq.1 ha : a.port = port)
    rw [beq_iff_eq.1 hb]
    exact portLe_refl
  rw [ordered_eq, dynamics, List.filter_append, hstable, List.filter_filter, List.filter_filter]
  by_cases hport : port = "pass"
  · have hnone : (arrivals s n).filter (fun l => l.port == port && !l.port == "pass") = [] := by simp [hport]
    have hall : (arrivals s n).filter (fun l => l.port == port && l.port == "pass") =
        (arrivals s n).filter fun l => l.port == port := by simp [hport]
    rw [hnone, hall, List.append_nil]
  · have hnone : (arrivals s n).filter (fun l => l.port == port && l.port == "pass") = [] := by
      refine List.filter_eq_nil_iff.2 fun l _ => ?_
      simp only [Bool.and_eq_true, beq_iff_eq]
      rintro ⟨rfl, hpass⟩
      exact hport hpass
    have hall : (arrivals s n).filter (fun l => l.port == port && !l.port == "pass") =
        (arrivals s n).filter fun l => l.port == port := by
      refine List.filter_congr fun l _ => ?_
      by_cases hl : l.port = port
      · simp [hl, hport]
      · simp [hl]
    rw [hnone, hall, List.nil_append]

theorem ordered_of_onPort {port : String} (h : ∀ l ∈ arrivals s n, l.port = port) : ordered s n = arrivals s n := by
  have hkept : (arrivals s n).filter (fun l => l.port == port) = arrivals s n :=
    List.filter_eq_self.2 fun l hl => beq_iff_eq.2 (h l hl)
  have hall : (ordered s n).filter (fun l => l.port == port) = ordered s n :=
    List.filter_eq_self.2 fun l hl => beq_iff_eq.2 (h l (ordered_perm.mem_iff.1 hl))
  rw [← hall, ordered_onPort, hkept]

/-! ## The three parts -/

section
variable {p q : String}

theorem declared_of_portLe (h : portLe n p q = true) (hq : q ∈ declaredPorts n) : p ∈ declaredPorts n := by
  by_contra hp
  simp [portLe, inputIndex?_of_not_mem hp, inputIndex?_of_mem hq] at h

theorem idxOf_le_of_portLe (hp : p ∈ declaredPorts n) (hq : q ∈ declaredPorts n) (h : portLe n p q = true) :
    (declaredPorts n).idxOf p ≤ (declaredPorts n).idxOf q := by
  simp only [portLe, inputIndex?_of_mem hp, inputIndex?_of_mem hq, Bool.or_eq_true, Bool.and_eq_true, decide_eq_true_eq,
    beq_iff_eq] at h
  omega

theorem le_of_portLe (hp : p ∉ declaredPorts n) (hq : q ∉ declaredPorts n) (h : portLe n p q = true) : p ≤ q := by
  simpa [portLe, inputIndex?_of_not_mem hp, inputIndex?_of_not_mem hq] using h

end

def isDeclared (n : Node) (l : Layer) : Bool := decide (l.port ∈ declaredPorts n)

theorem port_mem_of_mem_takeWhile (h : a ∈ (dynamics s n).takeWhile (isDeclared n)) : a.port ∈ declaredPorts n := by
  have hdeclared : isDeclared n a = true := List.mem_takeWhile_imp h
  exact of_decide_eq_true hdeclared

theorem port_not_mem_of_mem_dropWhile (h : a ∈ (dynamics s n).dropWhile (isDeclared n)) : a.port ∉ declaredPorts n := by
  have hfirst : (dynamics s n).Pairwise fun a b => isDeclared n b = true → isDeclared n a = true := by
    refine dynamics_sorted.imp fun hab hb => ?_
    exact decide_eq_true (declared_of_portLe hab (of_decide_eq_true hb))
  exact of_decide_eq_false (not_of_mem_dropWhile hfirst h)

/-- For every scene and composition, the layers are those that its connections on `pass` and on dynamic ports bring,
each as often as a connection brings it. They are the layers on `pass`, then layers on declared ports, by the first
place where the port is declared, then layers on ports that are not declared, by their ids. -/
theorem ordered_complete (s : Scene) (n : Node) :
    (ordered s n).Perm ((s.connections.filter fun c => Brings n c).map ofConnection) ∧
      ∃ passes declared undeclared, ordered s n = passes ++ declared ++ undeclared ∧
        (∀ l ∈ passes, l.port = "pass") ∧
        (∀ l ∈ declared, isDynamic l.port = true ∧ l.port ∈ declaredPorts n) ∧
        (∀ l ∈ undeclared, isDynamic l.port = true ∧ l.port ∉ declaredPorts n) ∧
        declared.Pairwise (fun a b => (declaredPorts n).idxOf a.port ≤ (declaredPorts n).idxOf b.port) ∧
        undeclared.Pairwise fun a b => a.port ≤ b.port := by
  have htake : ((dynamics s n).takeWhile (isDeclared n)).Sublist (dynamics s n) := List.takeWhile_sublist _
  have hdrop : ((dynamics s n).dropWhile (isDeclared n)).Sublist (dynamics s n) := List.dropWhile_sublist _
  refine ⟨ordered_perm, (arrivals s n).filter (fun l => l.port == "pass"), (dynamics s n).takeWhile (isDeclared n),
    (dynamics s n).dropWhile (isDeclared n), ?_, ?_, ?_, ?_, ?_, ?_⟩
  · rw [List.append_assoc, List.takeWhile_append_dropWhile, ordered_eq]
  · exact fun l hl => beq_iff_eq.1 (List.mem_filter.1 hl).2
  · exact fun l hl => ⟨isDynamic_of_mem_dynamics (htake.subset hl), port_mem_of_mem_takeWhile hl⟩
  · exact fun l hl => ⟨isDynamic_of_mem_dynamics (hdrop.subset hl), port_not_mem_of_mem_dropWhile hl⟩
  · exact (dynamics_sorted.sublist htake).imp_of_mem fun ha hb hab =>
      idxOf_le_of_portLe (port_mem_of_mem_takeWhile ha) (port_mem_of_mem_takeWhile hb) hab
  · exact (dynamics_sorted.sublist hdrop).imp_of_mem fun ha hb hab =>
      le_of_portLe (port_not_mem_of_mem_dropWhile ha) (port_not_mem_of_mem_dropWhile hb) hab

/-! ## Connections in another order -/

/-- Where no port takes different layers, the order of connections does not matter. -/
theorem ordered_of_perm (hperm : s.connections.Perm t.connections)
    (hone : ∀ a ∈ ordered s n, ∀ b ∈ ordered s n, a.port = b.port → a = b) : ordered s n = ordered t n := by
  have harrivals : (arrivals s n).Perm (arrivals t n) := (hperm.filter _).map _
  have hordered : (ordered s n).Perm (ordered t n) := ordered_perm.trans (harrivals.trans ordered_perm.symm)
  exact hordered.eq_of_pairwise (fun a b ha hb hab hba => hone a ha b (hordered.mem_iff.2 hb) (hab.port_eq hba))
    ordered_sorted ordered_sorted

/-- The connection of a layer can be brought before all others, and the layer is the first on its port then. -/
theorem exists_foremost (ha : a ∈ ordered s n) : ∃ connections, connections.Perm s.connections ∧
    ((ordered { s with connections } n).filter fun l => l.port == a.port).head? = some a := by
  obtain ⟨c, hc, hbrings, rfl⟩ := mem_arrivals.1 (ordered_perm.mem_iff.1 ha)
  refine ⟨c :: s.connections.erase c, (List.perm_cons_erase hc).symm, ?_⟩
  rw [ordered_onPort, arrivals, List.filter_cons_of_pos (by simpa using hbrings), List.map_cons,
    List.filter_cons_of_pos (by simp)]
  rfl

/-- For every scene and composition, all orders of the connections give the same layers exactly if no port of the
composition takes different layers. -/
theorem ordered_permuted_iff (s : Scene) (n : Node) :
    (∀ connections, connections.Perm s.connections → ordered { s with connections } n = ordered s n) ↔
      ∀ a ∈ ordered s n, ∀ b ∈ ordered s n, a.port = b.port → a = b := by
  constructor
  · intro hsame a ha b hb hport
    obtain ⟨first, hfirst, hheada⟩ := exists_foremost ha
    obtain ⟨second, hsecond, hheadb⟩ := exists_foremost hb
    rw [hsame first hfirst, hport] at hheada
    rw [hsame second hsecond] at hheadb
    exact Option.some.inj (hheada.symm.trans hheadb)
  · intro hone connections hperm
    exact (ordered_of_perm hperm.symm hone).symm

/-- A composition with two passes on one dynamic port. -/
def doubled : Scene where
  nodes := [{ id := "screen", type := "Screen" }, { id := "stack", type := "Composite" },
    { id := "near", type := "RenderPass" }, { id := "far", type := "RenderPass" }]
  connections := [{ id := "c0", source := ⟨"near", "pass"⟩, target := ⟨"stack", "dynamic_0"⟩ },
    { id := "c1", source := ⟨"far", "pass"⟩, target := ⟨"stack", "dynamic_0"⟩ },
    { id := "c2", source := ⟨"stack", "pass"⟩, target := ⟨"screen", "pass"⟩ }]
  outputs := [("main", "screen")]

theorem doubled_reversed : doubled.connections.reverse.Perm doubled.connections ∧
    ordered doubled { id := "stack", type := "Composite" } =
      [⟨"near", "pass", "dynamic_0"⟩, ⟨"far", "pass", "dynamic_0"⟩] ∧
    ordered { doubled with connections := doubled.connections.reverse } { id := "stack", type := "Composite" } =
      [⟨"far", "pass", "dynamic_0"⟩, ⟨"near", "pass", "dynamic_0"⟩] := by
  have hport : ∀ l ∈ arrivals doubled { id := "stack", type := "Composite" }, l.port = "dynamic_0" := by decide
  have hport' : ∀ l ∈ arrivals { doubled with connections := doubled.connections.reverse }
      { id := "stack", type := "Composite" }, l.port = "dynamic_0" := by decide
  refine ⟨List.reverse_perm _, ?_, ?_⟩
  · rw [ordered_of_onPort hport]
    decide
  · rw [ordered_of_onPort hport']
    decide

end SceneGraph.Layer
