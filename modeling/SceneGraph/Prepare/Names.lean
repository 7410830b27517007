import SceneGraph.Scene.Basic

/-!
# Resource names

Every node gets a name of its own that is an identifier: runs of other characters become an
underscore, a leading digit is put behind a letter, and a name that is taken is numbered. The output
node has a reserved name.
-/
set_option autoImplicit false

namespace SceneGraph.Names

def sceneTexture : String := "scene"

def isIdentChar (c : Char) : Bool :=
  ('a' ≤ c && c ≤ 'z') || ('A' ≤ c && c ≤ 'Z') || ('0' ≤ c && c ≤ '9') || c == '_'

/-- Replaces every run of other characters by one underscore; `inRun` says that the characters before
are part of such a run. -/
def squeeze (inRun : Bool) : List Char → List Char
  | [] => []
  | c :: rest =>
    if isIdentChar c then c :: squeeze false rest
    else if inRun then squeeze true rest
    else '_' :: squeeze true rest

/-- Puts a letter before an empty name and before a leading digit. -/
def lead (cs : List Char) : List Char :=
  match cs with
  | [] => ['n']
  | c :: _ => if c.isDigit then 'n' :: cs else cs

def base (id : String) : String := String.ofList (lead (squeeze false id.toList))

def numbered (stem : String) (i : Nat) : String := s!"{stem}_{i}"

/-- The first numbered variant, from `i` on, that is not taken. -/
def searchFrom (used : List String) (stem : String) : Nat → Nat → String
  | 0, i => numbered stem i
  | fuel + 1, i =>
    if used.contains (numbered stem i) then searchFrom used stem fuel (i + 1) else numbered stem i

/-- A name that is not taken. There are no more taken variants than taken names, which bounds the
search. -/
def fresh (used : List String) (stem : String) : String :=
  if used.contains stem then searchFrom used stem used.length 2 else stem

/-- The names of a list of nodes, given the names taken before. -/
def assign (output : String) : List String → List Node → Table String → Table String
  | _, [], names => names
  | used, n :: rest, names =>
    if n.id = output then assign output used rest (names.insert n.id sceneTexture)
    else
      let name := fresh used (base n.id)
      assign output (name :: used) rest (names.insert n.id name)

def ofScene (s : Scene) (output : String) : Table String := assign output [sceneTexture] s.nodes []

end SceneGraph.Names
