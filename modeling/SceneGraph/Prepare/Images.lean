import SceneGraph.Prepare.Error
import SceneGraph.Schema.Basic

/-!
# Inlining image sources

An image source is a node of its own. The parameters that say where the image comes from are copied
into the nodes wired to it, where those have no value of their own.
-/
set_option autoImplicit false

namespace SceneGraph.Images

/-- The parameters that identify an image, in order of precedence. -/
def sourceKeys : List String := ["assetId", "dataUrl", "path"]

def nonEmpty? (n : Node) (key : String) : Option String :=
  match n.string? key with
  | some s => if s = "" then none else some s
  | none => none

def source? (n : Node) : Option (String × String) :=
  sourceKeys.findSome? fun key => (nonEmpty? n key).map fun v => (key, v)

/-- Copies the identifying parameters that the consumer lacks; tells whether any was copied. -/
def copyKeys (source : Node) : List String → Node → Node × Bool
  | [], n => (n, false)
  | key :: rest, n =>
    match nonEmpty? source key, nonEmpty? n key with
    | some v, none =>
      let (n, _) := copyKeys source rest (n.setParam key (.str v))
      (n, true)
    | _, _ => copyKeys source rest n

def replaceLast (n : Node) (nodes : List Node) : List Node :=
  (go nodes.reverse).reverse
where
  /-- Replaces the first node with the id. -/
  go : List Node → List Node
    | [] => []
    | m :: rest => if m.id = n.id then n :: rest else m :: go rest

/-- The outcome of inlining that may stop early. -/
structure Inlining where
  count : Nat
  result : Except StepError Scene

def inlineAll (schema : Schema) : List Connection → Nat → Scene → Inlining
  | [], count, s => ⟨count, .ok s⟩
  | c :: rest, count, s =>
    if c.target.port ≠ "image" then inlineAll schema rest count s
    else match s.indexed? c.target.node with
      | none => inlineAll schema rest count s
      | some consumer =>
        let refuse (cause : StepCause) : Inlining :=
          ⟨count, .error { step := .images, node := consumer.id, cause }⟩
        match s.indexed? c.source.node with
        | none => refuse (.missingImageSource c.source.node)
        | some source =>
          if schema.category source.type ≠ "image" then
            refuse (.notAnImageSource source.id source.type)
          else
            let (consumer, changed) := copyKeys source sourceKeys consumer
            inlineAll schema rest (if changed then count + 1 else count)
              { s with nodes := replaceLast consumer s.nodes }

def inline (schema : Schema) (s : Scene) : Inlining := inlineAll schema s.connections 0 s

end SceneGraph.Images
