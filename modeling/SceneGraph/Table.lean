/-!
# Tables

Finite maps from names to values as lists of entries in ascending order of the names. The order is
the one in which a table is shown and walked.
-/
set_option autoImplicit false

namespace SceneGraph

/-- A finite map from names to values, listed by ascending name. -/
abbrev Table (α : Type) := List (String × α)

namespace Table

variable {α : Type}

def empty : Table α := []

def get? (t : Table α) (name : String) : Option α := (t.find? fun e => e.1 == name).map Prod.snd

def has (t : Table α) (name : String) : Bool := t.any fun e => e.1 == name

/-- Puts a value under a name, in place of an earlier one. -/
def insert (name : String) (value : α) : Table α → Table α
  | [] => [(name, value)]
  | (k, v) :: rest =>
    if name = k then (name, value) :: rest
    else if name < k then (name, value) :: (k, v) :: rest
    else (k, v) :: insert name value rest

def erase (t : Table α) (name : String) : Table α := t.filter fun e => e.1 != name

def keys (t : Table α) : List String := t.map Prod.fst

/-- The table of a list of entries; later entries win. -/
def ofList (entries : List (String × α)) : Table α :=
  entries.foldl (fun t e => t.insert e.1 e.2) []

@[simp]
theorem get?_nil (name : String) : get? ([] : Table α) name = none := rfl

theorem get?_insert_self (t : Table α) (name : String) (value : α) :
    (t.insert name value).get? name = some value := by
  induction t with
  | nil => simp [insert, get?]
  | cons e rest ih =>
    obtain ⟨k, v⟩ := e
    simp only [insert]
    split
    · simp [get?]
    · rename_i hk
      split
      · simp [get?]
      · have hne : (k == name) = false := by simpa using fun h => hk h.symm
        simpa [get?, List.find?_cons, hne] using ih

end Table

end SceneGraph
