import NovelScript.Yaml.Node

/-!
# Values out of nodes

Decoding looks for values of wanted types in a tree. A value of another type is noted and decoding
goes on, so that all of them are reported together; a document that makes no sense stops it. Nothing
where a value is wanted leaves what was there. Mappings may be merged into one another: the keys of
the mapping itself win, then those of the mappings merged first.
-/

namespace NovelScript.Yaml

/-- What decoding knows and collects; `σ` is what it builds. -/
structure Draft (σ : Type) where
  /-- What was built so far. -/
  value : σ
  /-- Values of the wrong type, with their lines. -/
  mismatches : List (Nat × Mismatch) := []

/-- Decoding. -/
abbrev Decoding (σ : Type) := ReaderT (List (Nat × Node)) (StateT (Draft σ) (Except Error))

/-- A node and the references that were followed to it. -/
structure Reached where
  /-- The node, never a reference. -/
  node : Node
  /-- The places of the references that lead to it. -/
  through : List Nat

namespace Decoding

variable {σ : Type}

/-- Notes a value of the wrong type. -/
def mismatch (line : Nat) (m : Mismatch) : Decoding σ Unit :=
  modify fun d => { d with mismatches := d.mismatches ++ [(line, m)] }

/-- Changes what is built. -/
def update (f : σ → σ) : Decoding σ Unit :=
  modify fun d => { d with value := f d.value }

/-- Follows a reference; one that leads through itself is refused. -/
def follow (n : Node) (through : List Nat) : Decoding σ Reached := do
  match n with
  | .reference _ place name target =>
    if through.contains place then throw (.selfReference name)
    match (← read).lookup target with
    | some m => return ⟨m, place :: through⟩
    | none => throw (.unknownAnchor name)
  | _ => return ⟨n, through⟩

/-- Notes that a node is not of the wanted type. -/
def refuse (n : Node) (wanted : String) : Decoding σ Unit :=
  let shown := match n with
    | .scalar _ _ value => some value
    | _ => if n.tag == Text.lit "!!seq" || n.tag == Text.lit "!!map" then none else some []
  mismatch n.line (.type n.tag shown wanted)

/-- By what two keys of a mapping count as the same: the kind of node and its text. -/
def keyOf : Node → Nat × Text
  | .scalar _ _ value => (0, value)
  | .sequence _ _ _ => (1, [])
  | .mapping _ _ _ => (2, [])
  | .reference _ _ name _ => (3, name)

/-- Notes keys that are there twice, and says whether there are none. -/
def uniqueKeys : List (Node × Node) → Decoding σ Bool
  | [] => return true
  | (k, _) :: more => do
    let again := more.filter fun e => keyOf e.1 == keyOf k
    again.forM fun e => mismatch e.1.line (.key (keyOf e.1).2 k.line)
    return (← uniqueKeys more) && again.isEmpty

/-- Decodes a scalar with `f`; nothing, and what `f` refuses, gives `none`. -/
def scalar {α : Type} (wanted : String) (f : Scalar → Text → Option α) (n : Node)
    (through : List Nat) : Decoding σ (Option α) := do
  let r ← follow n through
  match r.node with
  | .scalar _ tag value =>
    let (_, meaning) ← Scalar.tagged tag value
    if meaning = .null then return none
    match f meaning value with
    | some a => return some a
    | none =>
      refuse r.node wanted
      return none
  | .mapping _ _ entries =>
    if ← uniqueKeys entries then refuse r.node wanted
    return none
  | m =>
    refuse m wanted
    return none

/-- Any scalar is text as it is written; binary data is decoded. -/
def textOf? : Scalar → Text → Option Text
  | .text t, _ => some t
  | _, value => some value

/-- A text. -/
def text (n : Node) (through : List Nat) : Decoding σ (Option Text) :=
  scalar "string" textOf? n through

/-- A number without its fraction, when it fits into 64 bits. Beyond the least number it is that. -/
def intOf? : Scalar → Text → Option Int
  | .int m, _ => if Text.fitsInt64 m then some m else none
  | .float (.infinite true), _ => some Text.minInt64
  | .float x, _ =>
    x.trunc?.bind fun m =>
      if Text.fitsInt64 m then some m
      else if m ≤ Text.maxInt64 + 1 then some Text.minInt64
      else none
  | _, _ => none

/-- A number. -/
def int (n : Node) (through : List Nat) : Decoding σ (Option Int) :=
  scalar "int" intOf? n through

/-- The words for truth values that count besides `true` and `false`. -/
def oldBool? (t : Text) : Option Bool :=
  if ["y", "Y", "yes", "Yes", "YES", "on", "On", "ON"].any (Text.lit · == t) then some true
  else if ["n", "N", "no", "No", "NO", "off", "Off", "OFF"].any (Text.lit · == t) then some false
  else none

/-- A truth value, perhaps as one of the other words. -/
def boolOf? : Scalar → Text → Option Bool
  | .bool b, _ => some b
  | .text t, _ => oldBool? t
  | _, _ => none

/-- A truth value. -/
def bool (n : Node) (through : List Nat) : Decoding σ (Option Bool) :=
  scalar "bool" boolOf? n through

/-- Is this the key whose value is merged? -/
def isMerge : Node → Bool
  | .scalar _ tag value => value == Text.lit "<<" && tag == Scalar.mergeTag
  | _ => false

/-- The keys of a mapping that are text. -/
def textKeys (through : List Nat) : List (Node × Node) → Decoding σ (List Text)
  | [] => return []
  | (k, _) :: more => do
    let r ← follow k through
    let here ← match r.node with
      | .scalar _ tag value => do
        match ← (Scalar.tagged tag value : Except Error (Text × Scalar)) with
        | (_, .text t) => pure [t]
        | _ => pure []
      | _ => pure []
    return here ++ (← textKeys through more)

/-- Goes through the entries of a mapping. `seen` are keys that are given already, `none` outside of
a merge; `visit` is called for the others. Gives the keys that are given now, and the value of the
last merge key. -/
def entries (visit : Node → Text → Node → List Nat → Decoding σ Unit) (through : List Nat) :
    (seen : Option (List Text)) → (merge : Option Node) → List (Node × Node) →
    Decoding σ (Option (List Text) × Option Node)
  | seen, merge, [] => return (seen, merge)
  | seen, merge, (k, v) :: more => do
    if isMerge k then entries visit through seen (some v) more
    else
      match ← text k through with
      | none => entries visit through seen merge more
      | some key =>
        match seen with
        | some keys =>
          if keys.contains key then entries visit through seen merge more
          else do
            visit k key v through
            entries visit through (some (key :: keys)) merge more
        | none =>
          visit k key v through
          entries visit through none merge more

/-- Is the node a mapping, perhaps by reference? -/
def isMapping (n : Node) : Decoding σ Bool := do
  match n with
  | .mapping _ _ _ => return true
  | .reference _ _ _ target =>
    match (← read).lookup target with
    | some (.mapping _ _ _) => return true
    | _ => return false
  | _ => return false

mutual

/-- Decodes the entries of a mapping and of those merged into it. `enter` gives the visitor of one
mapping's entries. -/
def mapping (enter : Decoding σ (Node → Text → Node → List Nat → Decoding σ Unit)) :
    (fuel : Nat) → (through : List Nat) → (seen : Option (List Text)) → List (Node × Node) →
    Decoding σ (Option (List Text))
  | 0, _, seen, _ => return seen
  | fuel + 1, through, seen, es => do
    if !(← uniqueKeys es) then return seen
    let (seen, merge) ← entries (← enter) through seen none es
    match merge with
    | none => return seen
    | some m =>
      let keys ← match seen with
        | some keys => pure keys
        | none => textKeys through es
      let merged ← match m with
        | .sequence _ _ items => mergeAll enter fuel through keys items
        | _ => mergeAll enter fuel through keys [m]
      return seen.map fun _ => merged

/-- Merges mappings one after the other. -/
def mergeAll (enter : Decoding σ (Node → Text → Node → List Nat → Decoding σ Unit)) :
    (fuel : Nat) → (through : List Nat) → (keys : List Text) → List Node →
    Decoding σ (List Text)
  | 0, _, keys, _ => return keys
  | _ + 1, _, keys, [] => return keys
  | fuel + 1, through, keys, m :: more => do
    if !(← isMapping m) then throw .mergeValue
    let r ← follow m through
    match r.node with
    | .mapping _ _ es =>
      let seen ← mapping enter fuel r.through (some keys) es
      mergeAll enter fuel through (seen.getD keys) more
    | _ => throw .mergeValue

end

/-- Decodes a mapping: `enter` gives the visitor of entries, and nothing and other nodes are dealt
with as for scalars. -/
def mappingOf (wanted : String) (fuel : Nat)
    (enter : Decoding σ (Node → Text → Node → List Nat → Decoding σ Unit)) (n : Node)
    (through : List Nat) : Decoding σ Unit := do
  let r ← follow n through
  match r.node with
  | .mapping _ _ es =>
    let _ ← mapping enter fuel r.through none es
  | _ =>
    let _ ← scalar wanted (fun _ _ => (none : Option Unit)) n through

/-- A record: the visitor gets the fields that are known, each once in a mapping. -/
def record (wanted : String) (fuel : Nat) (known : List String)
    (visit : Text → Node → List Nat → Decoding (σ × List Text) Unit) (n : Node)
    (through : List Nat) : Decoding (σ × List Text) Unit :=
  mappingOf wanted fuel
    (do
      update fun d => (d.1, [])
      return fun k key v through => do
        if known.any (Text.lit · == key) then
          if (← get).value.2.contains key then mismatch k.line (.field key wanted)
          else
            update fun d => (d.1, key :: d.2)
            let outer := (← get).value.2
            visit key v through
            update fun d => (d.1, outer)) n through

/-- Runs a decoding on a document. Values of the wrong type are an error in the end. -/
def run (d : Document) (start : σ) (f : Node → Decoding σ Unit) : Except Error σ := do
  let (_, draft) ← StateT.run (ReaderT.run (f d.root) d.named) ⟨start, []⟩
  if draft.mismatches.isEmpty then return draft.value
  else throw (.mismatches draft.mismatches)

end Decoding

end NovelScript.Yaml
