import NovelScript.Yaml.Scalar
import NovelScript.Yaml.Token

/-!
# Nodes

The tree of a document. A node may have a name, its anchor, and an alias refers to the latest node
of that name. A node can be referred to while it is being read, so references go by number and the
nodes with names are kept beside the tree.
-/

namespace NovelScript.Yaml

/-- A node, with its line, counted from one, and its tag. -/
inductive Node where
  /-- A scalar. -/
  | scalar (line : Nat) (tag value : Text)
  /-- A sequence. -/
  | sequence (line : Nat) (tag : Text) (items : List Node)
  /-- A mapping. -/
  | mapping (line : Nat) (tag : Text) (entries : List (Node × Node))
  /-- A reference, told from others by its place, to the node with a number. -/
  | reference (line place : Nat) (name : Text) (target : Nat)

namespace Node

/-- The line of a node. -/
def line : Node → Nat
  | scalar l _ _ | sequence l _ _ | mapping l _ _ | reference l _ _ _ => l

/-- The tag of a node; a reference has none. -/
def tag : Node → Text
  | scalar _ t _ | sequence _ t _ | mapping _ t _ => t
  | reference _ _ _ _ => []

end Node

/-- A document: its tree and the nodes with names. -/
structure Document where
  /-- The tree. -/
  root : Node
  /-- The nodes that references mean, by number. -/
  named : List (Nat × Node)

/-- The state of reading nodes. -/
structure Reader where
  /-- The tokens. -/
  scanner : Scanner
  /-- What the handles of tags stand for. -/
  handles : List (Text × Text) := []
  /-- The numbers of names, the latest first. -/
  anchors : List (Text × Nat) := []
  /-- Nodes with names that are read. -/
  named : List (Nat × Node) := []

namespace Reader

/-- Reading that may fail. -/
abbrev Reading := StateT Reader (Except Error)

/-- The next token. -/
def peek : Reading Token := do
  let r ← get
  let (t, s) ← r.scanner.peek
  set { r with scanner := s }
  return t

/-- Takes the next token off. -/
def advance : Reading Unit :=
  modify fun r => { r with scanner := r.scanner.advance }

/-- Takes a token off and looks at the one after it. -/
def next : Reading Token := do
  advance
  peek

/-- The handles that every document has. -/
def standardHandles : List (Text × Text) :=
  [(Text.lit "!", Text.lit "!"), (Text.lit "!!", Text.lit "tag:yaml.org,2002:")]

/-- Reads directives. One version and one meaning for each handle may be given. -/
def directives : (fuel : Nat) → (versioned : Bool) → Reading Unit
  | 0, _ => return
  | fuel + 1, versioned => do
    let t ← peek
    match t.kind with
    | .directive (.version major minor) =>
      if versioned then throw (grammarError {} t.start .twoVersions)
      if major != 1 || minor != 1 then throw (grammarError {} t.start .version)
      advance
      directives fuel true
    | .directive (.handle name meaning) =>
      if (← get).handles.any (·.1 == name) then throw (grammarError {} t.start .twoHandles)
      modify fun r => { r with handles := r.handles ++ [(name, meaning)] }
      advance
      directives fuel versioned
    | _ => modify fun r => { r with handles := r.handles ++ standardHandles }

/-- A tag in its short form. -/
def shortTag (tag : Text) : Text :=
  let long := Text.lit "tag:yaml.org,2002:"
  if Text.startsWith long tag then Text.lit "!!" ++ tag.drop long.length else tag

/-- What stands in front of a node. -/
structure Properties where
  /-- Where the node starts. -/
  start : Mark
  /-- Its name. -/
  anchor : Option Text := none
  /-- Its tag, and where that stands. -/
  tag : Option ((Text × Text) × Mark) := none

/-- Reads a name and a tag in any order. -/
def properties : Reading Properties := do
  let t ← peek
  match t.kind with
  | .anchor name =>
    let u ← next
    match u.kind with
    | .tag h s =>
      advance
      return ⟨t.start, some name, some ((h, s), u.start)⟩
    | _ => return ⟨t.start, some name, none⟩
  | .tag h s =>
    let u ← next
    match u.kind with
    | .anchor name =>
      advance
      return ⟨t.start, some name, some ((h, s), t.start)⟩
    | _ => return ⟨t.start, none, some ((h, s), t.start)⟩
  | _ => return ⟨t.start, none, none⟩

/-- The whole tag of a node; empty when it has none. -/
def fullTag (p : Properties) : Reading Text := do
  match p.tag with
  | none => return []
  | some ((handle, suffix), place) =>
    if handle.isEmpty then return suffix
    else
      match (← get).handles.lookup handle with
      | some meaning =>
        let tag := meaning ++ suffix
        if tag.isEmpty then throw (grammarError p.start place .unknownHandle)
        return tag
      | none => throw (grammarError p.start place .unknownHandle)

/-- The tag that counts for a node: the one it has, else `usual`. -/
def effectiveTag (tag usual : Text) : Text :=
  if tag.isEmpty || tag == Text.lit "!" then usual else shortTag tag

/-- The tag of a scalar without one. -/
def usualTag (value : Text) (plain : Bool) : Text :=
  if !plain then Scalar.textTag
  else if value == Text.lit "<<" then Scalar.mergeTag
  else (Scalar.written true value).tag

/-- A number for a name, if there is one. -/
def name (anchor : Option Text) : Reading (Option Nat) := do
  match anchor with
  | none => return none
  | some a =>
    let r ← get
    let n := r.anchors.length
    set { r with anchors := (a, n) :: r.anchors }
    return some n

/-- Keeps a node that has a name. -/
def keep (number : Option Nat) (node : Node) : Reading Node := do
  match number with
  | some n => modify fun r => { r with named := (n, node) :: r.named }
  | none => pure ()
  return node

/-- A scalar that is not written down. -/
def emptyScalar (m : Mark) : Node :=
  .scalar (m.line + 1) Scalar.nullTag []

/-- A node of which only the properties are there. -/
def nothing (p : Properties) (tag : Text) (t : Token) : Reading Node := do
  if p.anchor.isNone && tag.isEmpty then throw (grammarError p.start t.start .noContent)
  let n ← name p.anchor
  keep n (.scalar (p.start.line + 1) (effectiveTag tag Scalar.nullTag) [])

mutual

/-- Reads a node. In a block it may be given by indentation, and where `indentless` allows it a
sequence needs no indentation. -/
def node : (fuel : Nat) → (block indentless : Bool) → Reading Node
  | 0, _, _ => do
    let t ← peek
    throw (grammarError t.start t.start .noContent)
  | fuel + 1, block, indentless => do
    let t ← peek
    match t.kind with
    | .reference name =>
      match (← get).anchors.lookup name with
      | none => throw (.unknownAnchor name)
      | some n =>
        advance
        return .reference (t.start.line + 1) t.start.index name n
    | _ =>
      let p ← properties
      let t ← peek
      let tag ← fullTag p
      let line := p.start.line + 1
      match t.kind with
      | .scalar value plain =>
        let n ← name p.anchor
        advance
        keep n (.scalar line (effectiveTag tag (usualTag value plain)) value)
      | .flowSequence =>
        let n ← name p.anchor
        advance
        keep n (.sequence line (effectiveTag tag (Text.lit "!!seq")) (← flowItems fuel t.start true))
      | .flowMapping =>
        let n ← name p.anchor
        advance
        keep n (.mapping line (effectiveTag tag (Text.lit "!!map")) (← flowEntries fuel t.start true))
      | .blockEntry =>
        if indentless then
          let n ← name p.anchor
          keep n (.sequence line (effectiveTag tag (Text.lit "!!seq")) (← looseItems fuel))
        else nothing p tag t
      | .blockSequence =>
        if block then
          let n ← name p.anchor
          advance
          keep n (.sequence line (effectiveTag tag (Text.lit "!!seq")) (← blockItems fuel t.start))
        else nothing p tag t
      | .blockMapping =>
        if block then
          let n ← name p.anchor
          advance
          keep n (.mapping line (effectiveTag tag (Text.lit "!!map")) (← blockEntries fuel t.start))
        else nothing p tag t
      | _ => nothing p tag t

/-- The items of a sequence by indentation, after its start. -/
def blockItems : (fuel : Nat) → (start : Mark) → Reading (List Node)
  | 0, _ => return []
  | fuel + 1, start => do
    let t ← peek
    match t.kind with
    | .blockEntry =>
      let u ← next
      let item ← match u.kind with
        | .blockEntry | .blockEnd => pure (emptyScalar t.start)
        | _ => node fuel true false
      return item :: (← blockItems fuel start)
    | .blockEnd =>
      advance
      return []
    | _ => throw (grammarError start t.start .noEntry)

/-- The items of a sequence that is not indented. -/
def looseItems : (fuel : Nat) → Reading (List Node)
  | 0 => return []
  | fuel + 1 => do
    let t ← peek
    match t.kind with
    | .blockEntry =>
      let u ← next
      let item ← match u.kind with
        | .blockEntry | .key | .value | .blockEnd => pure (emptyScalar t.start)
        | _ => node fuel true false
      return item :: (← looseItems fuel)
    | _ => return []

/-- The entries of a mapping by indentation, after its start. -/
def blockEntries : (fuel : Nat) → (start : Mark) → Reading (List (Node × Node))
  | 0, _ => return []
  | fuel + 1, start => do
    let t ← peek
    match t.kind with
    | .key =>
      let u ← next
      let key ← match u.kind with
        | .key | .value | .blockEnd => pure (emptyScalar t.start)
        | _ => node fuel true true
      let v ← peek
      let value ← match v.kind with
        | .value =>
          let w ← next
          match w.kind with
          | .key | .value | .blockEnd => pure (emptyScalar v.start)
          | _ => node fuel true true
        | _ => pure (emptyScalar v.start)
      return (key, value) :: (← blockEntries fuel start)
    | .blockEnd =>
      advance
      return []
    | _ => throw (grammarError start t.start .noKey)

/-- The items of a sequence in brackets, after the bracket or after an item. An item may be a
mapping of one entry without braces. -/
def flowItems : (fuel : Nat) → (start : Mark) → (first : Bool) → Reading (List Node)
  | 0, _, _ => return []
  | fuel + 1, start, first => do
    let t ← peek
    match t.kind with
    | .flowSequenceEnd =>
      advance
      return []
    | _ =>
      let t ← if first then pure t else
        match t.kind with
        | .flowEntry => next
        | _ => throw (grammarError start t.start .flowSequence)
      match t.kind with
      | .flowSequenceEnd =>
        advance
        return []
      | .key =>
        let u ← next
        let key ← match u.kind with
          | .value | .flowEntry | .flowSequenceEnd =>
            advance
            pure (emptyScalar u.start)
          | _ => node fuel false false
        let v ← peek
        let value ← match v.kind with
          | .value =>
            let w ← next
            match w.kind with
            | .flowEntry | .flowSequenceEnd => pure (emptyScalar w.start)
            | _ => node fuel false false
          | _ => pure (emptyScalar v.start)
        let item := Node.mapping (t.start.line + 1) (Text.lit "!!map") [(key, value)]
        return item :: (← flowItems fuel start false)
      | _ =>
        let item ← node fuel false false
        return item :: (← flowItems fuel start false)

/-- The entries of a mapping in braces, after the brace or after an entry. A key may stand alone. -/
def flowEntries : (fuel : Nat) → (start : Mark) → (first : Bool) → Reading (List (Node × Node))
  | 0, _, _ => return []
  | fuel + 1, start, first => do
    let t ← peek
    match t.kind with
    | .flowMappingEnd =>
      advance
      return []
    | _ =>
      let t ← if first then pure t else
        match t.kind with
        | .flowEntry => next
        | _ => throw (grammarError start t.start .flowMapping)
      match t.kind with
      | .flowMappingEnd =>
        advance
        return []
      | .key =>
        let u ← next
        let key ← match u.kind with
          | .value | .flowEntry | .flowMappingEnd => pure (emptyScalar u.start)
          | _ => node fuel false false
        let v ← peek
        let value ← match v.kind with
          | .value =>
            let w ← next
            match w.kind with
            | .flowEntry | .flowMappingEnd => pure (emptyScalar w.start)
            | _ => node fuel false false
          | _ => pure (emptyScalar v.start)
        return (key, value) :: (← flowEntries fuel start false)
      | _ =>
        let key ← node fuel false false
        let v ← peek
        return (key, emptyScalar v.start) :: (← flowEntries fuel start false)

end

/-- Reads the first document of a stream, if there is one. A document with directives needs its
mark; without them it may start at once. -/
def document (fuel : Nat) : Reading (Option Node) := do
  let _ ← peek
  let t ← next
  match t.kind with
  | .streamEnd => return none
  | .directive _ | .documentStart =>
    directives fuel false
    let t ← peek
    match t.kind with
    | .documentStart =>
      let t ← next
      let root ← match t.kind with
        | .directive _ | .documentStart | .documentEnd | .streamEnd => pure (emptyScalar t.start)
        | _ => node fuel true false
      let _ ← peek
      return some root
    | _ => throw (grammarError {} t.start .noDocumentStart)
  | _ =>
    directives fuel false
    let root ← node fuel true false
    let _ ← peek
    return some root

end Reader

/-- The first document of a text; `none` when there is nothing but comments. -/
def Document.read (s : Text) : Except Error (Option Document) := do
  let cs ← match charactersOf s with
    | .ok cs => pure cs
    | .error f => throw (.fault 0 f)
  let start : Reader := { scanner := { input := ⟨cs, {}⟩ } }
  let (root, r) ← (Reader.document (4 * cs.length + 16)).run start
  return root.map fun n => ⟨n, r.named⟩

end NovelScript.Yaml
