import SceneGraph.Yaml.Token

/-!
# YAML documents as trees

`Node.parse` reads the first document of a text. An alias holds the node that it names; one within that
node itself holds none.
-/
set_option autoImplicit false

namespace SceneGraph.Yaml

/-- A node of a document. -/
inductive Node where
  /-- A scalar with its tag, which is empty if none is given. -/
  | scalar (tag text : String) (isPlain : Bool)
  | sequence (items : List Node)
  | mapping (entries : List (Node × Node))
  | alias (name : String) (target : Option Node)
deriving Inhabited

namespace Node

def missing : Node := .scalar "" "" true

/-- A named node; it is missing as long as the node is not complete. -/
structure Anchor where
  name : String
  id : Nat
  node : Option Node := none

/-- The state of reading: the tokens to come and the named nodes, the last first. -/
structure State where
  tokens : List Token
  anchors : List Anchor := []
  /-- How many nodes have been named. -/
  named : Nat := 0

namespace State

def peek (s : State) : Option Token := s.tokens.head?

def skip (s : State) : State := { s with tokens := s.tokens.drop 1 }

def isAt (s : State) (ts : List Token) : Bool := s.peek.any fun t => ts.contains t

/-- Names a node that is about to be read. -/
def enter (s : State) (name : Option String) : State :=
  match name with
  | some name => { s with anchors := { name, id := s.named } :: s.anchors, named := s.named + 1 }
  | none => s

def leave (s : State) (name : Option String) (id : Nat) (node : Node) : State :=
  if name.isNone then s
  else { s with anchors := s.anchors.map fun a => if a.id = id then { a with node := some node } else a }

end State

/-- Handles of tags and what they stand for. -/
abbrev Handles := List (String × String)

def defaultHandles : Handles := [("!", "!"), ("!!", "tag:yaml.org,2002:")]

/-- The full text of a tag; a lone mark stands for none. -/
def expandTag (handles : Handles) (handle suffix : String) : Option String :=
  if handle = "" then some (if suffix = "!" then "" else suffix)
  else (handles.find? fun h => h.1 = handle).map fun h => h.2 ++ suffix

/-- What may stand before a value. -/
structure Properties where
  anchor : Option String := none
  tag : Option (String × String) := none

/-- Reads an anchor and a tag, in any order. -/
def readProperties (s : State) : Properties × State :=
  match s.peek with
  | some (.anchor a) =>
    let s := s.skip
    match s.peek with
    | some (.tag h t) => ({ anchor := some a, tag := some (h, t) }, s.skip)
    | _ => ({ anchor := some a }, s)
  | some (.tag h t) =>
    let s := s.skip
    match s.peek with
    | some (.anchor a) => ({ anchor := some a, tag := some (h, t) }, s.skip)
    | _ => ({ tag := some (h, t) }, s)
  | _ => ({}, s)

mutual

/-- Reads a node. Collections by indentation are read only where `block` allows them, and sequences that
are not indented only where `flat` does. -/
def readNode (handles : Handles) : Nat → Bool → Bool → State → Option (Node × State)
  | 0, _, _, _ => none
  | fuel + 1, block, flat, s => do
    match s.peek with
    | some (.alias name) =>
      let a ← s.anchors.find? fun a => a.name = name
      return (.alias name a.node, s.skip)
    | _ =>
      let (props, s) := readProperties s
      let tag ← match props.tag with
        | some (h, t) => expandTag handles h t
        | none => pure ""
      let id := s.named
      let s := s.enter props.anchor
      let (node, s) ← match s.peek with
        | some .item => if flat then readFlat handles fuel [] s else readNothing props tag s
        | some (.scalar text isPlain) => pure (Node.scalar tag text isPlain, s.skip)
        | some .flowSequence => readFlowSequence handles fuel true [] s.skip
        | some .flowMapping => readFlowMapping handles fuel true [] s.skip
        | some .blockSequence =>
          if block then readBlockSequence handles fuel [] s.skip else readNothing props tag s
        | some .blockMapping =>
          if block then readBlockMapping handles fuel [] s.skip else readNothing props tag s
        | _ => readNothing props tag s
      return (node, s.leave props.anchor id node)

/-- A value that is not there, which is allowed after an anchor or a tag. -/
def readNothing (props : Properties) (tag : String) (s : State) : Option (Node × State) :=
  if props.anchor.isSome || props.tag.isSome then some (.scalar tag "" true, s) else none

def readBlockSequence (handles : Handles) : Nat → List Node → State → Option (Node × State)
  | 0, _, _ => none
  | fuel + 1, items, s =>
    match s.peek with
    | some .blockEnd => some (.sequence items.reverse, s.skip)
    | some .item =>
      let s := s.skip
      if s.isAt [.item, .blockEnd] then readBlockSequence handles fuel (missing :: items) s
      else do
        let (v, s) ← readNode handles fuel true false s
        readBlockSequence handles fuel (v :: items) s
    | _ => none

/-- Reads the items of a sequence that is indented no more than the mapping around it. -/
def readFlat (handles : Handles) : Nat → List Node → State → Option (Node × State)
  | 0, _, _ => none
  | fuel + 1, items, s =>
    match s.peek with
    | some .item =>
      let s := s.skip
      if s.isAt [.item, .key, .value, .blockEnd] then readFlat handles fuel (missing :: items) s
      else do
        let (v, s) ← readNode handles fuel true false s
        readFlat handles fuel (v :: items) s
    | some _ => some (.sequence items.reverse, s)
    | none => none

/-- Reads a key or a value of an indented mapping, which may be missing. -/
def readPart (handles : Handles) : Nat → State → Option (Node × State)
  | 0, _ => none
  | fuel + 1, s =>
    if s.isAt [.key, .value, .blockEnd] then some (missing, s) else readNode handles fuel true true s

def readBlockMapping (handles : Handles) : Nat → List (Node × Node) → State → Option (Node × State)
  | 0, _, _ => none
  | fuel + 1, entries, s =>
    match s.peek with
    | some .blockEnd => some (.mapping entries.reverse, s.skip)
    | some .key => do
      let (k, s) ← readPart handles fuel s.skip
      if s.isAt [.value] then
        let (v, s) ← readPart handles fuel s.skip
        readBlockMapping handles fuel ((k, v) :: entries) s
      else readBlockMapping handles fuel ((k, missing) :: entries) s
    | _ => none

def readFlowSequence (handles : Handles) : Nat → Bool → List Node → State → Option (Node × State)
  | 0, _, _, _ => none
  | fuel + 1, first, items, s => do
    if s.isAt [.flowSequenceEnd] then return (.sequence items.reverse, s.skip)
    let s ← if first then pure s else if s.isAt [.comma] then pure s.skip else none
    match s.peek with
    | some .flowSequenceEnd => return (.sequence items.reverse, s.skip)
    | some .key =>
      let s := s.skip
      let (k, s) ← if s.isAt [.value, .comma, .flowSequenceEnd] then pure (missing, s.skip)
        else readNode handles fuel false false s
      let (v, s) ← if s.isAt [.value] then
          if s.skip.isAt [.comma, .flowSequenceEnd] then pure (missing, s.skip)
          else readNode handles fuel false false s.skip
        else pure (missing, s)
      readFlowSequence handles fuel false (.mapping [(k, v)] :: items) s
    | _ =>
      let (v, s) ← readNode handles fuel false false s
      readFlowSequence handles fuel false (v :: items) s

def readFlowMapping (handles : Handles) : Nat → Bool → List (Node × Node) → State → Option (Node × State)
  | 0, _, _, _ => none
  | fuel + 1, first, entries, s => do
    if s.isAt [.flowMappingEnd] then return (.mapping entries.reverse, s.skip)
    let s ← if first then pure s else if s.isAt [.comma] then pure s.skip else none
    match s.peek with
    | some .flowMappingEnd => return (.mapping entries.reverse, s.skip)
    | some .key =>
      let s := s.skip
      let (k, s) ← if s.isAt [.value, .comma, .flowMappingEnd] then pure (missing, s)
        else readNode handles fuel false false s
      let (v, s) ← if s.isAt [.value] then
          if s.skip.isAt [.comma, .flowMappingEnd] then pure (missing, s.skip)
          else readNode handles fuel false false s.skip
        else pure (missing, s)
      readFlowMapping handles fuel false ((k, v) :: entries) s
    | _ =>
      let (k, s) ← readNode handles fuel false false s
      readFlowMapping handles fuel false ((k, missing) :: entries) s

end

/-! ## Documents -/

def isSupported (major minor : Nat) : Bool := major = 1 && minor = 1

/-- Reads the directives of a document: at most one version, and handles that differ. -/
def readDirectives : List Token → Bool → Handles → Option (Handles × List Token)
  | .version major minor :: ts, versioned, handles =>
    if versioned || !isSupported major minor then none else readDirectives ts true handles
  | .handle name expansion :: ts, versioned, handles =>
    if handles.any fun h => h.1 = name then none
    else readDirectives ts versioned (handles ++ [(name, expansion)])
  | ts, _, handles => some (handles ++ defaultHandles, ts)

/-- Reads the content of a document after its start; it may be empty. -/
def readContent (handles : Handles) (fuel : Nat) (s : State) : Option (Node × State) :=
  match s.peek with
  | some (.version _ _) | some (.handle _ _) | some .documentStart | some .documentEnd | some .streamEnd =>
    some (missing, s)
  | _ => readNode handles fuel true false s

/-- What a text holds. -/
inductive Reading where
  | malformed
  | empty
  | document (root : Node)

/-- Reads the first document of a text. A fault counts if it shows before the token after the document has
been looked at. Every reading of a node takes a token, or is followed by one that does. -/
def parse (text : String) : Reading :=
  let cs := match text.toList with
    | c :: rest => if c.toNat = byteOrderMark then rest else c :: rest
    | [] => []
  if cs.any isForbidden then .malformed
  else
    let scanned := scan cs
    let ts := scanned.tokens
    let fuel := 4 * ts.length + 16
    let finish (r : Option (Node × State)) : Reading :=
      match r with
      | some (root, s) =>
        if scanned.failsBy (ts.length - s.tokens.length) then .malformed else .document root
      | none => .malformed
    match ts with
    | [] => .malformed
    | .streamEnd :: _ => .empty
    | t :: _ =>
      match t with
      | .version _ _ | .handle _ _ | .documentStart =>
        match readDirectives ts false [] with
        | some (handles, .documentStart :: ts) => finish (readContent handles fuel { tokens := ts })
        | _ => .malformed
      | _ => finish (readNode defaultHandles fuel true false { tokens := ts })

end Node

end SceneGraph.Yaml
