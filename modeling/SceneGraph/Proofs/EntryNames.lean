import SceneGraph.Proofs.Archives

/-!
# Names of entries are canonical

A path is a walk from the root of an archive: a name leads down, two points lead up as far as the root, and blanks and
single points lead nowhere. The name of an entry spells the place where the walk ends, so that no path leaves the
archive, and paths have the same name exactly if they lead to the same place.

* `Path.Leads`, `Path.Denotes`: walks, and the place that a path denotes.
* `Path.leads_iff`: a walk ends where resolving its components does.
* `Path.intercalate_inj`: places are told apart by how they are spelled.
* `Archive.clean_unified`: the name of an entry as the clean form of a rooted path.
* `Archive.cleanEntry_denotes`: the name of an entry spells the place that it denotes.
* `Archive.cleanEntry_canonical`: what names of entries look like, and what they stand for.
-/
set_option autoImplicit false

namespace SceneGraph

namespace Path

/-! ## Walks -/

/-- Walking along components leads from one place to another. A place is given by the names on the way to it from the
root. -/
inductive Leads : List String → List String → List String → Prop where
  | arrived {place : List String} : Leads place [] place
  | blank {place rest target : List String} (h : Leads place rest target) : Leads place ("" :: rest) target
  | here {place rest target : List String} (h : Leads place rest target) : Leads place ("." :: rest) target
  | up {place rest target : List String} {name : String} (h : Leads place rest target) :
      Leads (place ++ [name]) (".." :: rest) target
  | root {rest target : List String} (h : Leads [] rest target) : Leads [] (".." :: rest) target
  | down {place rest target : List String} {name : String} (hblank : name ≠ "") (hhere : name ≠ ".")
      (hup : name ≠ "..") (h : Leads (place ++ [name]) rest target) : Leads place (name :: rest) target

theorem stepRooted_name {name : String} (hblank : name ≠ "") (hhere : name ≠ ".") (hup : name ≠ "..")
    (stack : List String) : stepRooted stack name = name :: stack := by
  simp [stepRooted, hblank, hhere, hup]

/-- A walk ends where the components are resolved to. -/
theorem Leads.eq_foldl {place cs target : List String} (h : Leads place cs target) :
    target = (cs.foldl stepRooted place.reverse).reverse := by
  induction h with
  | arrived => rw [List.foldl_nil, List.reverse_reverse]
  | blank _ ih => exact ih
  | here _ ih => exact ih
  | up _ ih =>
    rw [List.reverse_append]
    exact ih
  | root _ ih => exact ih
  | down hblank hhere hup _ ih =>
    rw [List.foldl_cons, stepRooted_name hblank hhere hup]
    rwa [List.reverse_append] at ih

/-- Every walk ends. -/
theorem leads_foldl (cs stack : List String) : Leads stack.reverse cs (cs.foldl stepRooted stack).reverse := by
  induction cs generalizing stack with
  | nil => exact .arrived
  | cons c cs ih =>
    have hrest := ih (stepRooted stack c)
    rw [List.foldl_cons]
    by_cases hblank : c = ""
    · subst hblank
      exact .blank hrest
    by_cases hhere : c = "."
    · subst hhere
      exact .here hrest
    by_cases hup : c = ".."
    · subst hup
      cases stack with
      | nil => exact .root hrest
      | cons name stack =>
        rw [List.reverse_cons]
        exact .up hrest
    · rw [stepRooted_name hblank hhere hup] at hrest ⊢
      rw [List.reverse_cons] at hrest
      exact .down hblank hhere hup hrest

theorem leads_iff {cs target : List String} : Leads [] cs target ↔ target = resolveRooted cs := by
  constructor
  · exact Leads.eq_foldl
  · rintro rfl
    exact leads_foldl cs []

theorem clean_rooted (path : String) :
    clean ("/" ++ path) = "/" ++ "/".intercalate (resolveRooted (components path)) := by
  have hne : "/" ++ path ≠ "" := by
    rw [Ne, String.append_eq_empty_iff]
    exact fun h => absurd h.1 (by decide)
  have hstarts : ("/" ++ path).startsWith "/" = true := by simp
  have hcomponents : components ("/" ++ path) = "" :: components path := by
    rw [components, components, String.toList_append]
    change List.map String.ofList (List.splitOnP _ ('/' :: path.toList)) = _
    rw [List.splitOnP_cons_eq_if_modifyHead]
    rfl
  rw [clean, if_neg hne, if_pos hstarts, hcomponents]
  rfl

/-! ## Places -/

/-- Both kinds of slashes separate components. -/
def isSeparator (c : Char) : Bool := c == '/' || c == '\\'

/-- Walking along a path from the root leads to the place. -/
def Denotes (path : String) (place : List String) : Prop :=
  Leads [] ((path.toList.splitOnP isSeparator).map String.ofList) place

theorem splitOnP_map {α : Type} {f : α → α} {p q : α → Bool} (hp : ∀ x, p (f x) = q x)
    (hf : ∀ x, q x = false → f x = x) (xs : List α) : (xs.map f).splitOnP p = xs.splitOnP q := by
  induction xs with
  | nil => rfl
  | cons x xs ih =>
    rw [List.map_cons, List.splitOnP_cons_eq_if_modifyHead, List.splitOnP_cons_eq_if_modifyHead, ih, hp]
    split
    · rfl
    · rename_i hx
      rw [hf x (by simpa using hx)]

/-- Places are told apart by how they are spelled. -/
theorem intercalate_inj {cs ds : List String} (hcs : ∀ c ∈ cs, IsPlain c) (hds : ∀ d ∈ ds, IsPlain d)
    (h : "/".intercalate cs = "/".intercalate ds) : cs = ds := by
  -- The empty text has a single component, which is blank.
  have hne : ∀ {cs : List String}, (∀ c ∈ cs, IsPlain c) → cs ≠ [] → "/".intercalate cs ≠ "" := by
    intro cs hcs hne hempty
    have hcomponents := components_intercalate hcs hne
    rw [hempty] at hcomponents
    exact (hcs "" (hcomponents ▸ List.mem_singleton_self "")).ne_empty rfl
  by_cases hnil : cs = []
  · subst hnil
    by_contra hother
    exact hne hds (Ne.symm hother) h.symm
  · have hnil' : ds ≠ [] := by
      rintro rfl
      exact hne hcs hnil h
    rw [← components_intercalate hcs hnil, h, components_intercalate hds hnil']

end Path

namespace Archive

/-! ## Names -/

/-- Unifying the separators and splitting at one of them is splitting at both. -/
theorem components_unified (name : String) :
    Path.components (String.ofList (name.toList.map fun c => if c = '\\' then '/' else c)) =
      (name.toList.splitOnP Path.isSeparator).map String.ofList := by
  rw [Path.components, String.toList_ofList]
  congr 1
  refine Path.splitOnP_map (fun x => ?_) (fun x hx => ?_) _
  · by_cases hx : x = '\\' <;> simp [Path.isSeparator, hx]
  · rw [if_neg]
    rintro rfl
    cases hx

/-- The name of an entry follows the root in the clean form of the path. -/
theorem clean_unified (name : String) :
    Path.clean ("/" ++ String.ofList (name.toList.map fun c => if c = '\\' then '/' else c)) = "/" ++ cleanEntry name :=
  Path.clean_rooted _

theorem cleanEntry_denotes (name : String) : ∃ place, Path.Denotes name place ∧
    cleanEntry name = "/".intercalate place ∧ ∀ c ∈ place, Path.IsPlain c := by
  unfold cleanEntry
  refine ⟨_, ?_, rfl, fun _ => isPlain_of_mem_resolved⟩
  rw [Path.Denotes, ← components_unified]
  exact Path.leads_iff.2 rfl

/-- Paths go by one name exactly if they lead to one place. -/
theorem cleanEntry_eq_iff {name other : String} :
    cleanEntry name = cleanEntry other ↔ ∃ place, Path.Denotes name place ∧ Path.Denotes other place := by
  obtain ⟨place, hplace, hname, hplain⟩ := cleanEntry_denotes name
  obtain ⟨place', hplace', hother, hplain'⟩ := cleanEntry_denotes other
  constructor
  · intro heq
    have hboth : place = place' := Path.intercalate_inj hplain hplain' (hname.symm.trans (heq.trans hother))
    exact ⟨place, hplace, hboth ▸ hplace'⟩
  · rintro ⟨common, hleft, hright⟩
    rw [hname, hother, Path.leads_iff.1 hplace, Path.leads_iff.1 hplace', ← Path.leads_iff.1 hleft,
      ← Path.leads_iff.1 hright]

theorem components_cleanEntry {name : String} (h : cleanEntry name ≠ "") :
    ∀ c ∈ Path.components (cleanEntry name), c ≠ "" ∧ c ≠ "." ∧ c ≠ ".." := by
  obtain ⟨place, -, hname, hplain⟩ := cleanEntry_denotes name
  have hroot : place ≠ [] := by
    rintro rfl
    exact h hname
  rw [hname, Path.components_intercalate hplain hroot]
  exact fun c hc => ⟨(hplain c hc).ne_empty, (hplain c hc).ne_here, (hplain c hc).ne_up⟩

theorem head_cleanEntry (name : String) : (cleanEntry name).toList.head? ≠ some '/' := by
  intro hhead
  obtain ⟨rest, hrest⟩ := List.head?_eq_some_iff.1 hhead
  have hne : cleanEntry name ≠ "" := by
    intro hempty
    rw [hempty] at hrest
    cases hrest
  -- A slash in front would leave a blank component before it.
  have hblank : "" ∈ Path.components (cleanEntry name) := by
    rw [Path.components, hrest, List.splitOnP_cons_eq_if_modifyHead]
    exact List.mem_cons_self
  exact (components_cleanEntry hne "" hblank).1 rfl

theorem backslash_notMem_cleanEntry (name : String) : '\\' ∉ (cleanEntry name).toList := by
  obtain ⟨place, -, hname, hplain⟩ := cleanEntry_denotes name
  exact hname ▸ backslash_notMem_intercalate hplain

/-- Every name of an entry is confined to the archive: it has no slash in front and no backslash, and none of its
components is blank, a single point or two points, unless it is empty. Cleaning it again changes nothing. Paths go by
one name exactly if they lead to one place, and the name itself leads there. -/
theorem cleanEntry_canonical (name : String) :
    (cleanEntry name).toList.head? ≠ some '/' ∧ '\\' ∉ (cleanEntry name).toList ∧
      (cleanEntry name = "" ∨ ∀ c ∈ Path.components (cleanEntry name), c ≠ "" ∧ c ≠ "." ∧ c ≠ "..") ∧
      cleanEntry (cleanEntry name) = cleanEntry name ∧
      (∃ place, Path.Denotes name place ∧ Path.Denotes (cleanEntry name) place) ∧
      ∀ other, cleanEntry name = cleanEntry other ↔ ∃ place, Path.Denotes name place ∧ Path.Denotes other place := by
  have hagain := cleanEntry_cleanEntry name
  refine ⟨head_cleanEntry name, backslash_notMem_cleanEntry name, ?_, hagain, cleanEntry_eq_iff.1 hagain.symm,
    fun _ => cleanEntry_eq_iff⟩
  by_cases hempty : cleanEntry name = ""
  · exact .inl hempty
  · exact .inr (components_cleanEntry hempty)

example : cleanEntry "\\a/..//b\\" = "b" := by decide +kernel

end Archive

end SceneGraph
