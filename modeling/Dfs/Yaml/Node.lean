import Dfs.Yaml.Token

/-!
Nodes: the scalars, sequences and mappings that the tokens of a YAML text make, and
the documents of a text.
-/

namespace Dfs.Yaml

inductive Node where
  | scalar (tag : Option String) (isPlain : Bool) (text : String)
  | sequence (items : List Node)
  | mapping (pairs : List (Node × Node))
  /-- An alias stands for an anchored node with its number. -/
  | reference (number : Nat)
  deriving Repr

/-- A node that is left out. -/
def Node.empty : Node := .scalar none true ""

/-- Anchored nodes with their numbers, those that begin last first. A node whose end
is not read yet is missing. -/
abbrev Anchored := List (Nat × Option Node)

/-- The root of a document, and what its aliases stand for. -/
structure Document where
  root : Node
  anchored : Anchored
  deriving Repr

/-- The node that an alias stands for: of several with its number, the last one. -/
def Document.follow (d : Document) : Node → Node
  | .reference number =>
    match d.anchored.find? (·.1 == number) with
    | some (_, some node) => node
    | _ => .reference number
  | node => node

/-! ### The state of reading -/

structure NodeReader where
  tokens : List Token
  /-- The numbers of the names that were anchored. -/
  names : List (String × Nat)
  anchored : Anchored
  handles : List (String × String)

/-- Reads from the tokens. -/
abbrev ReadNode := StateT NodeReader (Except YamlError)

namespace NodeReader

/-- The handles that need no directive. -/
def defaultHandles : List (String × String) := [("!", "!"), ("!!", "tag:yaml.org,2002:")]

def next? : ReadNode (Option Token) := do pure (← get).tokens.head?

def skip : ReadNode Unit := modify fun r => { r with tokens := r.tokens.tail }

/-- Skips the next token if it is `t`. -/
def skipIf (t : Token) : ReadNode Bool := do
  if (← next?) = some t then
    skip
    pure true
  else pure false

/-- The next token is one of `stops`, or there is none. -/
def stopsAt (stops : List Token) : ReadNode Bool := do
  match ← next? with
  | none => pure true
  | some t => pure (stops.contains t)

/-- Skips the comma between two items; there is none before the first. -/
def separated (first : Bool) : ReadNode Bool := if first then pure true else skipIf .comma

/-! ### Anchors and aliases -/

/-- Notes that a node with an anchor begins, and tells how many did before. The node
gets the number of names so far. A name that is anchored again is no further name, so
that its new number is also that of the next one. -/
def beginAnchored (name : String) : ReadNode Nat := do
  let r ← get
  set { r with
    names := (name, r.names.length) :: r.names.filter (·.1 != name)
    anchored := (r.names.length, none) :: r.anchored }
  pure r.anchored.length

def readAlias (name : String) : ReadNode Node := do
  match (← get).names.find? (·.1 == name) with
  | some (_, number) => pure (.reference number)
  | none => throw (.unknownAlias name)

/-! ### Nodes -/

/-- What may stand before a node. -/
structure Properties where
  /-- With an anchor, the number of anchored nodes before this one. -/
  anchor : Option Nat
  tag : Option String

def resolveTag (handle rest : String) : ReadNode String := do
  if handle = "" then pure rest
  else match (← get).handles.find? fun h => h.1 == handle with
    | some (_, start) => pure (start ++ rest)
    | none => throw .badTag

/-- Reads an anchor and a tag, in either order. -/
def properties : ReadNode Properties := do
  match ← next? with
  | some (.anchor name) =>
    skip
    let anchor ← beginAnchored name
    match ← next? with
    | some (.tag handle rest) =>
      skip
      pure ⟨some anchor, some (← resolveTag handle rest)⟩
    | _ => pure ⟨some anchor, none⟩
  | some (.tag handle rest) =>
    skip
    let tag ← resolveTag handle rest
    match ← next? with
    | some (.anchor name) =>
      skip
      pure ⟨some (← beginAnchored name), some tag⟩
    | _ => pure ⟨none, some tag⟩
  | _ => pure ⟨none, none⟩

/-- Keeps a node if it is anchored. -/
def remember (p : Properties) (node : Node) : ReadNode Node := do
  match p.anchor with
  | some before => modify fun r => { r with
      anchored := r.anchored.modify (r.anchored.length - 1 - before) fun a => (a.1, some node) }
  | none => pure ()
  pure node

/-- Where a node stands. -/
structure Place where
  /-- Block collections may be there. -/
  inBlock : Bool
  /-- A sequence may be there whose entries are not indented. -/
  inMapping : Bool

def Place.flow : Place := ⟨false, false⟩

def Place.entry : Place := ⟨true, false⟩

def Place.pair : Place := ⟨true, true⟩

mutual

/-- Reads a node. A scalar that is there does not count as tagged with an exclamation
mark alone. Every call takes from the fuel, of which three units for a token are
enough. -/
def node : Nat → Place → ReadNode Node
  | 0, _ => throw .unexpectedContent
  | fuel + 1, place => do
    match ← next? with
    | some (.alias name) =>
      skip
      readAlias name
    | _ =>
      let p ← properties
      match ← next? with
      | some (.scalar isPlain text) =>
        skip
        remember p (.scalar (p.tag.filter (· != "!")) isPlain text)
      | some .flowSequence =>
        skip
        remember p (.sequence (← flowItems fuel true []))
      | some .flowMapping =>
        skip
        remember p (.mapping (← flowPairs fuel true []))
      | some .blockSequence =>
        if place.inBlock then
          skip
          remember p (.sequence (← blockItems fuel []))
        else leftOut p
      | some .blockMapping =>
        if place.inBlock then
          skip
          remember p (.mapping (← blockPairs fuel []))
        else leftOut p
      | some .entry =>
        if place.inMapping then remember p (.sequence (← flatItems fuel [])) else leftOut p
      | _ => leftOut p

/-- A node may be left out after its properties. -/
def leftOut (p : Properties) : ReadNode Node :=
  if p.anchor.isSome || p.tag.isSome then remember p (.scalar p.tag true "")
  else throw .unexpectedContent

/-- Reads a node, unless one of `stops` is next. -/
def nodeUnless : Nat → List Token → Place → ReadNode Node
  | 0, _, _ => throw .unexpectedContent
  | fuel + 1, stops, place => do
    if ← stopsAt stops then pure .empty else node fuel place

/-- The entries of a block sequence. -/
def blockItems : Nat → List Node → ReadNode (List Node)
  | 0, _ => throw .unclosedCollection
  | fuel + 1, items => do
    if ← skipIf .entry then
      let item ← nodeUnless fuel [.entry, .blockEnd] .entry
      blockItems fuel (items ++ [item])
    else if ← skipIf .blockEnd then pure items
    else throw .unclosedCollection

/-- The entries of a sequence that is indented like the mapping around it. -/
def flatItems : Nat → List Node → ReadNode (List Node)
  | 0, _ => throw .unclosedCollection
  | fuel + 1, items => do
    if ← skipIf .entry then
      let item ← nodeUnless fuel [.entry, .key, .value, .blockEnd] .entry
      flatItems fuel (items ++ [item])
    else pure items

/-- The pairs of a block mapping. -/
def blockPairs : Nat → List (Node × Node) → ReadNode (List (Node × Node))
  | 0, _ => throw .unclosedCollection
  | fuel + 1, pairs => do
    if ← skipIf .key then
      let key ← nodeUnless fuel [.key, .value, .blockEnd] .pair
      let value ← if ← skipIf .value then nodeUnless fuel [.key, .value, .blockEnd] .pair
        else pure .empty
      blockPairs fuel (pairs ++ [(key, value)])
    else if ← skipIf .blockEnd then pure pairs
    else throw .unclosedCollection

/-- The items of a flow sequence. A pair there is a mapping of its own. -/
def flowItems : Nat → Bool → List Node → ReadNode (List Node)
  | 0, _, _ => throw .unclosedCollection
  | fuel + 1, first, items => do
    if ← skipIf .flowSequenceEnd then pure items
    else if !(← separated first) then throw .unclosedCollection
    else if ← skipIf .flowSequenceEnd then pure items
    else if ← skipIf .key then
      let key ← nodeUnless fuel [.value, .comma, .flowSequenceEnd] .flow
      let value ← if ← skipIf .value then nodeUnless fuel [.comma, .flowSequenceEnd] .flow
        else pure .empty
      flowItems fuel false (items ++ [.mapping [(key, value)]])
    else
      let item ← node fuel .flow
      flowItems fuel false (items ++ [item])

/-- The pairs of a flow mapping. A node alone is a key without a value. -/
def flowPairs : Nat → Bool → List (Node × Node) → ReadNode (List (Node × Node))
  | 0, _, _ => throw .unclosedCollection
  | fuel + 1, first, pairs => do
    if ← skipIf .flowMappingEnd then pure pairs
    else if !(← separated first) then throw .unclosedCollection
    else if ← skipIf .flowMappingEnd then pure pairs
    else if ← skipIf .key then
      let key ← nodeUnless fuel [.value, .comma, .flowMappingEnd] .flow
      let value ← if ← skipIf .value then nodeUnless fuel [.comma, .flowMappingEnd] .flow
        else pure .empty
      flowPairs fuel false (pairs ++ [(key, value)])
    else
      let key ← node fuel .flow
      flowPairs fuel false (pairs ++ [(key, .empty)])

end

/-! ### Documents -/

/-- Reads the directives before a document: at most one version, and handles, each
given once. -/
def directives : Nat → Bool → List (String × String) → ReadNode (List (String × String))
  | 0, _, handles => pure handles
  | fuel + 1, versioned, handles => do
    match ← next? with
    | some .version =>
      if versioned then throw .badDirective
      skip
      directives fuel true handles
    | some (.tagHandle handle start) =>
      if handles.any fun h => h.1 == handle then throw .badDirective
      skip
      directives fuel versioned ((handle, start) :: handles)
    | _ => pure handles

def isDirective : Option Token → Bool
  | some .version => true
  | some (.tagHandle ..) => true
  | _ => false

/-- Skips the marks at the end of documents. -/
def skipEnds : Nat → ReadNode Unit
  | 0 => pure ()
  | fuel + 1 => do if ← skipIf .documentEnd then skipEnds fuel

/-- Reads a document. The mark at its start may only be missing before the first
one. -/
def document (fuel : Nat) (first : Bool) : ReadNode Document := do
  let next ← next?
  modify fun r => { r with names := [], anchored := [], handles := defaultHandles }
  let root ←
    if first && !isDirective next && next != some .documentStart then node fuel .entry
    else do
      let handles ← directives fuel false []
      modify fun r => { r with handles := handles ++ defaultHandles }
      if !(← skipIf .documentStart) then throw .unexpectedContent
      if isDirective (← next?) then pure .empty
      else nodeUnless fuel [.documentStart, .documentEnd] .entry
  let _ ← skipIf .documentEnd
  pure ⟨root, (← get).anchored⟩

/-- Reads all documents. -/
def documents (fuel : Nat) : Nat → List Document → ReadNode (List Document)
  | 0, found => pure found
  | more + 1, found => do
    if !found.isEmpty then skipEnds fuel
    if (← next?).isNone then pure found
    else
      let next ← document fuel found.isEmpty
      documents fuel more (found ++ [next])

end NodeReader

/-- The documents of a text. -/
def documents (text : String) : Except YamlError (List Document) := do
  let tokens ← tokens text
  let fuel := 3 * tokens.length + 3
  let (found, _) ← (NodeReader.documents fuel (tokens.length + 1) []).run ⟨tokens, [], [], []⟩
  pure found

end Dfs.Yaml
