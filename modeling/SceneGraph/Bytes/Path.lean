/-!
# Lexical paths

Paths as lists of components, cleaned without looking at any storage: `.` and empty components
vanish and `..` removes the component before it.
-/
set_option autoImplicit false

namespace SceneGraph.Path

def components (s : String) : List String :=
  (s.toList.splitOnP (· == '/')).map String.ofList

/-- One component more of a rooted path, given the components before it, last first. -/
def stepRooted (stack : List String) (c : String) : List String :=
  if c = "" || c = "." then stack
  else if c = ".." then stack.tail
  else c :: stack

def resolveRooted (cs : List String) : List String := (cs.foldl stepRooted []).reverse

/-- One component more of a relative path: steps above the start are kept. -/
def stepRelative (stack : List String) (c : String) : List String :=
  if c = "" || c = "." then stack
  else if c = ".." then
    match stack with
    | [] => [".."]
    | top :: rest => if top = ".." then ".." :: stack else rest
  else c :: stack

/-- The shortest path that denotes the same place. -/
def clean (s : String) : String :=
  if s = "" then "."
  else if s.startsWith "/" then "/" ++ "/".intercalate (resolveRooted (components s))
  else
    match ((components s).foldl stepRelative []).reverse with
    | [] => "."
    | cs => "/".intercalate cs

/-- Joins path parts that are not empty and cleans the result. -/
def join (parts : List String) : String :=
  match parts.filter (· ≠ "") with
  | [] => ""
  | ps => clean ("/".intercalate ps)

def base (s : String) : String :=
  if s = "" then "."
  else match ((components s).filter (· ≠ "")).getLast? with
    | some c => c
    | none => "/"

/-- The directory part of a path, cleaned. -/
def dir (s : String) : String :=
  let cs := components s
  match cs.dropLast with
  | [] => "."
  | [""] => "/"
  | front => clean ("/".intercalate front ++ "/")

/-- The suffix of the last component from its last point on. -/
def extension (s : String) : String :=
  let tail := ((components s).getLast?.getD "").toList
  match (tail.reverse.findIdx? (· == '.')) with
  | some i => String.ofList (tail.drop (tail.length - i - 1))
  | none => ""

def isAbsolute (s : String) : Bool := s.startsWith "/"

/-- The path stays below the directory that it starts from. -/
def isLocal (s : String) : Bool :=
  if isAbsolute s || s = "" then false
  else
    let parts := s.splitOn "/"
    let path := if parts.any fun p => p = "." || p = ".." then clean s else s
    path != ".." && !path.startsWith "../"

end SceneGraph.Path
