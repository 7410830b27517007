import SceneGraph.Number.Elementary
import SceneGraph.Prepare.Baked
import SceneGraph.Prepare.Error
import SceneGraph.Prepare.Layers

/-!
# Baking

The values of mathematical nodes on constants, and all that a scene has of constants.
-/
set_option autoImplicit false

/-!
## Folding constants

The values of mathematical nodes whose inputs are constant. Functions of one value work on every
component; functions of two values stretch a single component over the others.
-/

namespace SceneGraph.Fold

open Elementary

/-- Applies a function to two lists of equal length, or stretches a single component. -/
def broadcast (f : Float → Float → Float) (a b : List Float) : Option (List Float) :=
  -- Only the numbers of components count; the types that they make up are not known here.
  match a, b with
  | [x], ys => if ys.isEmpty then none else some (ys.map (f x))
  | xs, [y] => if xs.isEmpty then none else some (xs.map fun x => f x y)
  | xs, ys => if xs.length = ys.length then some (List.zipWith f xs ys) else none

/-- The sum of the products of the components. -/
def dot (a b : List Float) : Float := (List.zipWith (· * ·) a b).foldl (· + ·) 0

def length (xs : List Float) : Float := (dot xs xs).sqrt

def unary? (type : String) : Option (List Float → List Float) :=
  match type with
  | "Sin" => some (List.map sine)
  | "Cos" => some (List.map cosine)
  | "Tan" => some (List.map tangent)
  | "Abs" => some (List.map magnitude)
  | "Floor" => some (List.map floor)
  | "Ceil" => some (List.map ceil)
  | "Fract" => some (List.map fun x => x - floor x)
  | "Sqrt" => some (List.map Float.sqrt)
  | "Exp" => some (List.map exponential)
  | "Log" => some (List.map logarithm)
  | "Negate" => some (List.map fun x => -x)
  | "Saturate" => some (List.map saturate)
  | "OneMinus" => some (List.map fun x => 1 - x)
  | "Length" => some fun xs => [length xs]
  | "Normalize" => some fun xs => xs.map fun x => x / length xs
  | _ => none

def binary? (type : String) : Option (List Float → List Float → Option (List Float)) :=
  match type with
  | "Add" => some (broadcast (· + ·))
  | "Subtract" => some (broadcast (· - ·))
  | "Multiply" => some (broadcast (· * ·))
  | "Divide" => some (broadcast (· / ·))
  | "Min" => some (broadcast minimum)
  | "Max" => some (broadcast maximum)
  | "Pow" => some (broadcast power)
  | "Mod" => some (broadcast modulo)
  | "Atan2" => some (broadcast angle)
  | "Step" => some (broadcast fun edge x => if x ≥ edge then 1 else 0)
  | "Dot" => some fun a b => if a.length = b.length then some [dot a b] else none
  | "Distance" => some fun a b => (broadcast (· - ·) a b).map fun d => [length d]
  | _ => none

end SceneGraph.Fold

/-!
## Baking

Evaluates, in topological order, every node output that depends on constants alone: folded values,
the vertices of shapes, the layout of instances and the pixels of texts. Shapes must be constant.
-/

namespace SceneGraph.Bake

open Elementary

abbrev Result (α : Type) := Except PrepareError α

def refuse {α : Type} (n : Node) (cause : StepCause) : Result α :=
  .error (.step { step := .bake, node := n.id, cause })

/-- The constant value wired into one of the ports: nothing when none is wired, and a wired input
without a constant value is `some none`. -/
def wired (s : Scene) (m : BakedMap) (id : String) (ports : List String) :
    Option (Option (List Float)) :=
  (s.inputAt? id ports).map fun c => m.value? c.source

/-- The numbers of an input: the constant wired into it, else the parameter of its name. -/
def input (s : Scene) (m : BakedMap) (n : Node) (port : String) (default : List Float) :
    Result (List Float) :=
  match wired s m n.id [port] with
  | some (some xs) => .ok xs
  | some none => refuse n (.inputNotConstant port)
  | none => .ok ((n.floats? port).getD default)

def scalar (s : Scene) (m : BakedMap) (n : Node) (port : String) (default : Float) : Result Float := do
  return ((← input s m n port [default]).head?).getD default

/-- Two numbers; a single one counts for both. -/
def pair (s : Scene) (m : BakedMap) (n : Node) (port : String) (default : Float × Float) :
    Result (Float × Float) := do
  match ← input s m n port [default.1, default.2] with
  | [] => return default
  | [x] => return (x, x)
  | x :: y :: _ => return (x, y)

/-! ## Shapes -/

def rectMesh (w h : Float) (center : Float × Float) : Mesh :=
  let x0 := (center.1 - w / 2).toFloat32
  let y0 := (center.2 - h / 2).toFloat32
  let x1 := (center.1 + w / 2).toFloat32
  let y1 := (center.2 + h / 2).toFloat32
  { vertices := [⟨x0, y0, 0, 0⟩, ⟨x1, y0, 1, 0⟩, ⟨x1, y1, 1, 1⟩, ⟨x0, y0, 0, 0⟩, ⟨x1, y1, 1, 1⟩,
      ⟨x0, y1, 0, 1⟩]
    width := roundToInt64 w
    height := roundToInt64 h }

/-- The corner number `i` of a disc of `segments` triangles. -/
def discPoint (r : Float) (center : Float × Float) (segments i : Nat) : Vertex :=
  let a := 2 * pi * floatOfInt (i % segments : Nat) / floatOfInt segments
  let (sin, cos) := sineCosine a
  ⟨(center.1 + r * cos).toFloat32, (center.2 + r * sin).toFloat32, (0.5 + 0.5 * cos).toFloat32,
    (0.5 + 0.5 * sin).toFloat32⟩

def discMesh (r : Float) (center : Float × Float) (segments : Nat) : Mesh :=
  let middle : Vertex := ⟨center.1.toFloat32, center.2.toFloat32, 0.5, 0.5⟩
  let d := roundToInt64 (2 * r)
  { vertices := (List.range segments).flatMap fun i =>
      [middle, discPoint r center segments i, discPoint r center segments (i + 1)]
    width := d
    height := d }

/-- A movement of the plane: scaling, then turning, then shifting. -/
structure Movement where
  shift : Float × Float
  scale : Float × Float
  sin : Float
  cos : Float

def Movement.turn (t : Movement) (x y : Float32) : Float × Float :=
  let sx := x.toFloat * t.scale.1
  let sy := y.toFloat * t.scale.2
  (sx * t.cos - sy * t.sin, sx * t.sin + sy * t.cos)

def Movement.vertex (t : Movement) (p : Vertex) : Vertex :=
  let (x, y) := t.turn p.x p.y
  { p with x := (x + t.shift.1).toFloat32, y := (y + t.shift.2).toFloat32 }

/-- Moves the offset between instances, which no shift changes. -/
def Movement.offset (t : Movement) (o : Offset) : Offset :=
  let (x, y) := t.turn o.x o.y
  ⟨x.toFloat32, y.toFloat32⟩

def Movement.mesh (t : Movement) (g : Mesh) : Mesh :=
  let moved : Mesh := { vertices := g.vertices.map t.vertex }
  let b := moved.bounds
  { moved with
    width := roundToInt64 (b.maxX - b.minX).toFloat
    height := roundToInt64 (b.maxY - b.minY).toFloat }

def gridRows (count columns : Int) : Int := Int.tdiv (count + columns - 1) columns

/-- The place of item `i` on a grid centered around zero, the first row at the top. The grid is measured in
numbers of any kind. -/
def gridPlace {α : Type} [Sub α] [Mul α] [Div α] [OfNat α 2] (ofInt : Int → α) (columns rows : Int)
    (spacing : α × α) (i : Int) : α × α :=
  let column := Int.tmod i columns
  let row := Int.tdiv i columns
  ((ofInt column - ofInt (columns - 1) / 2) * spacing.1, (ofInt (rows - 1) / 2 - ofInt row) * spacing.2)

def gridPlaces {α : Type} [Sub α] [Mul α] [Div α] [OfNat α 2] (ofInt : Int → α) (count columns : Int)
    (spacing : α × α) : List (α × α) :=
  let columns := min columns count
  let rows := gridRows count columns
  (List.range count.toNat).map fun (i : Nat) => gridPlace ofInt columns rows spacing (i : Int)

/-- Lays out `count` items in rows, measured in doubles of 64-bit integers. -/
def gridOffsets (count columns : Int) (spacing : Float × Float) : List Offset :=
  (gridPlaces (fun i => floatOfInt (wrap64 i)) count columns spacing).map fun (x, y) => ⟨x.toFloat32, y.toFloat32⟩

/-- So many items fit in no memory, each of a number of words of four bytes. -/
def isUnstorable (words count : Int) : Bool :=
  let total := wrap64 (count * words)
  total < 0 || total * 4 > largestPiece

/-- How a program breaks off that asks for memory for so many items. -/
def outOfRange {α : Type} : Result α := .error (.internal "runtime error: makeslice: cap out of range")

/-! ## Nodes -/

/-- The mesh wired into the geometry input; none when nothing is wired. -/
def geometry (s : Scene) (m : BakedMap) (n : Node) : Result (Option (Endpoint × Mesh)) :=
  match s.inputAt? n.id ["geometry"] with
  | none => .ok none
  | some c =>
    match m.mesh? c.source with
    | some g => .ok (some (c.source, g))
    | none => refuse n (.geometryNotConstant c.source.node)

def rect (s : Scene) (m : BakedMap) (n : Node) : Result BakedMap := do
  let w ← scalar s m n "width" 100
  let h ← scalar s m n "height" 100
  let c ← pair s m n "center" (0, 0)
  return m.put n.id "geometry" (.mesh (rectMesh w h c))

def disc (s : Scene) (m : BakedMap) (n : Node) : Result BakedMap := do
  let r ← scalar s m n "radius" 50
  let c ← pair s m n "center" (0, 0)
  let segments := max (n.intOr "segments" 32) 3
  if isUnstorable 12 segments then outOfRange
  else return m.put n.id "geometry" (.mesh (discMesh r c segments.toNat))

/-- Bakes a moved shape and the offsets of its instances. -/
def transform (s : Scene) (m : BakedMap) (n : Node) : Result BakedMap := do
  match ← geometry s m n with
  | none => refuse n .geometryNotConnected
  | some (source, g) =>
    let shift ← pair s m n "translate" (0, 0)
    let scale ← pair s m n "scale" (1, 1)
    let (sin, cos) := sineCosine (← scalar s m n "rotate" 0)
    let t : Movement := ⟨shift, scale, sin, cos⟩
    let out := m.put n.id "geometry" (.mesh (t.mesh g))
    match out.instances? source with
    | some offsets => return out.put n.id "geometry" (.instances (offsets.map t.offset))
    | none => return out

def instances (s : Scene) (m : BakedMap) (n : Node) : Result BakedMap := do
  let g ← geometry s m n
  let count ← scalar s m n "count" 1
  let columns ← scalar s m n "columns" 1
  let spacing ← pair s m n "spacing" (0, 0)
  -- Bounds of the schema hold for parameters alone, so a wired number can be of any size.
  if count < 1 || columns < 1 then
    refuse n (.emptyGrid (NumberStyle.general.render count) (NumberStyle.general.render columns))
  else if isUnstorable 2 (toInt64 count) then outOfRange
  else
    let offsets := gridOffsets (toInt64 count) (toInt64 columns) spacing
    let mesh := match g with
      | some (_, g) => g
      | none => {}
    return (m.put n.id "geometry" (.mesh mesh)).put n.id "geometry" (.instances offsets)

def channelByte (x : Float) : UInt8 :=
  let y := saturate x * 255 + 0.5
  if y.isNaN then 0 else (truncated y).toNat.toUInt8

/-- The premultiplied color of a color parameter; white when it is none. -/
def colorParam (n : Node) (key : String) : Rgba :=
  match n.floats? key with
  | some (r :: g :: b :: rest) =>
    let a := rest.head?.getD 1
    ⟨channelByte (r * a), channelByte (g * a), channelByte (b * a), channelByte a⟩
  | _ => ⟨255, 255, 255, 255⟩

/-- Bakes the pixels of a text. -/
def text (face : Text.Face) (m : BakedMap) (n : Node) : Result BakedMap :=
  match Text.rasterize face (n.stringOr "text" "") (colorParam n "color") (n.intOr "scale" 1) with
  | .ok i => .ok (m.put n.id "texture" (.pixels i))
  | .error words => .error (.internal words)

def componentNames : List String := ["x", "y", "z", "w"]

/-- Components replaced by the constants wired into their ports; none when a wired one is not
constant. -/
def replaceComponents (s : Scene) (m : BakedMap) (id : String) :
    List String → List Float → Option (List Float)
  | name :: names, x :: xs => do
    let y ← match wired s m id [name] with
      | none => some x
      | some (some (y :: _)) => some y
      | some _ => none
    let ys ← replaceComponents s m id names xs
    return y :: ys
  | _, xs => some xs

/-- The constant value of a node and the port that carries it. -/
def fold (s : Scene) (m : BakedMap) (n : Node) : Option (String × List Float) :=
  match n.type with
  | "Float" | "Int" | "Mat4" => (n.floats? "value").map fun xs => ("value", xs)
  | "Bool" => (n.bool? "value").map fun b => ("value", [if b then 1 else 0])
  | "Color" => (n.floats? "value").map fun xs => ("color", xs)
  | "Vec2" | "Vec3" | "Vec4" => do
    let xs ← n.floats? "value"
    let ys ← replaceComponents s m n.id componentNames xs
    return ("value", ys)
  | "Split" => do
    let xs ← (← wired s m n.id ["value"])
    return ("value", xs)
  | "Combine" => do
    let size := (min (max (n.intOr "size" 4) 2) 4).toNat
    let ys ← replaceComponents s m n.id (componentNames.take size) (List.replicate size 0)
    return ("value", ys)
  | type =>
    match Fold.unary? type with
    | some f => do
      let xs ← (← wired s m n.id unaryPorts)
      return ("value", f xs)
    | none =>
      match Fold.binary? type with
      | some f => do
        let a ← (← wired s m n.id leftPorts)
        let b ← (← wired s m n.id rightPorts)
        let xs ← f a b
        return ("value", xs)
      | none => none

/-- Puts the constant value of a node, and of each component that it splits into. -/
def value (s : Scene) (m : BakedMap) (n : Node) : BakedMap :=
  match fold s m n with
  | none => m
  | some (port, xs) =>
    let m := m.put n.id port (.value xs)
    if n.type = "Split" then
      (componentNames.zip xs).foldl (fun m c => m.put n.id c.1 (.value [c.2])) m
    else m

def node (face : Text.Face) (s : Scene) (m : BakedMap) (n : Node) : Result BakedMap :=
  match n.type with
  | "Rect" => rect s m n
  | "Circle" => disc s m n
  | "Transform2D" => transform s m n
  | "Instances" => instances s m n
  | "Text" => text face m n
  | _ => .ok (value s m n)

/-- Bakes the nodes of an order, one after the other. -/
def nodes (face : Text.Face) (s : Scene) : List String → BakedMap → Result BakedMap
  | [], m => .ok m
  | id :: rest, m =>
    match s.indexed? id with
    | none => nodes face s rest m
    | some n => do
      let m ← node face s m n
      nodes face s rest m

def constants (face : Text.Face) (s : Scene) (order : List String) : Result BakedMap := nodes face s order []

end SceneGraph.Bake
