import SceneGraph.Prepare.Error
import SceneGraph.Schema.Validate

/-!
# Wrapping bare values

Where an input expects a pass and receives a bare value, a pass node is put in between: a texture is
copied, any other value becomes the color of a draw pass.
-/
set_option autoImplicit false

namespace SceneGraph.Wrap

/-- The id of the pass node inserted for a connection. -/
def wrapperId (c : Connection) : String :=
  -- The port of the source is no part of it.
  c.source.node ++ "~wrap~" ++ c.target.node ++ "." ++ c.target.port

/-- The outcome of wrapping that may stop early. -/
structure Wrapping where
  count : Nat
  result : Except StepError Scene

/-- The type of a bare value on a connection that expects a pass; none where nothing is to be done. -/
def bareType? (schema : Schema) (s : Scene) (c : Connection) : Option String :=
  match s.indexed? c.source.node, s.indexed? c.target.node with
  | some source, some target =>
    if schema.inputType? target c.target.port = some "pass" then
      let given := (schema.outputType? source c.source.port).getD ""
      if given = "pass" then none else some given
    else none
  | _, _ => none

/-- The wrapper for a value of a type, and the port that takes the value. -/
def wrapper (c : Connection) (type : String) : Node × String :=
  if type = "texture" then ({ id := wrapperId c, type := "Blit" }, "texture")
  else ({ id := wrapperId c, type := "RenderPass" }, "color")

/-- Wraps along the connections of a scene. Returns the rewired connections, the wrapper nodes and
the connections that leave them; the error comes with the number of wrappers made before it. -/
def wrapAll (schema : Schema) (s : Scene) :
    List Connection → Nat → Except (Nat × StepError) (List Connection × List Node × List Connection)
  | [], _ => .ok ([], [], [])
  | c :: rest, made =>
    match bareType? schema s c with
    | none => do
      let (conns, nodes, extra) ← wrapAll schema s rest made
      return (c :: conns, nodes, extra)
    | some type =>
      let (w, port) := wrapper c type
      match schema.normalize w with
      | .error e => .error (made, { step := .wrap, node := c.target.node, cause := .validation e })
      | .ok node => do
        let (conns, nodes, extra) ← wrapAll schema s rest (made + 1)
        return ({ c with target := ⟨w.id, port⟩ } :: conns, node :: nodes,
          { id := c.id ++ "~wrap", source := ⟨w.id, "pass"⟩, target := c.target } :: extra)

def autoWrap (schema : Schema) (s : Scene) : Wrapping :=
  match wrapAll schema s s.connections 0 with
  | .error (made, e) => ⟨made, .error e⟩
  | .ok (conns, nodes, extra) =>
    ⟨nodes.length, .ok { s with nodes := s.nodes ++ nodes, connections := conns ++ extra }⟩

end SceneGraph.Wrap
