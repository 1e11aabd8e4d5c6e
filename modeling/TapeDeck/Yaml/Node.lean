import TapeDeck.Yaml.Scalar
import TapeDeck.Yaml.Token

/-!
# Nodes

The tokens of a document make up its nodes. Nodes are numbered, and an alias holds the number of
the node it stands for, so a node may contain an alias of itself.

`parse` reads the first document of a text; what follows it is only looked at as far as telling
the end of the document needs it.
-/

namespace TapeDeck.Yaml

/-- What a node is; nodes inside it are given by number. -/
inductive NodeKind where
  | scalar (text : List Char)
  | sequence (items : List Nat)
  | mapping (pairs : List (Nat × Nat))
  | alias (name : String) (target : Nat)
  deriving Repr

/-- A node, its tag, and the line it starts at, counted from one. -/
structure Node where
  kind : NodeKind
  tag : Tag
  line : Nat
  deriving Repr

/-- The text that a node holds by itself. -/
def Node.value (n : Node) : Bytes :=
  match n.kind with
  | .scalar text => Bytes.ofString (String.ofList text)
  | .alias name _ => Bytes.ofString name
  | _ => []

/-- The nodes of a document, and the number of the outermost. -/
structure Document where
  nodes : Array Node
  root : Nat

/-- The node of a number. -/
def Document.node (d : Document) (i : Nat) : Node :=
  d.nodes.getD i ⟨.scalar [], .null, 0⟩

/-! ## Building nodes -/

/-- The text as far as it is cut into tokens, and the nodes so far. -/
structure Builder where
  scan : Scan
  nodes : Array Node
  /-- The number of the last node with each anchor. -/
  anchors : Std.HashMap String Nat
  /-- What the handles of tags stand for. -/
  handles : List (String × Bytes)

/-- Steps that use up tokens and add nodes, or fail. -/
abbrev Build := StateT Builder (Except Error)

namespace Build

/-- The next token. -/
def peek : Build Token := do
  let b ← get
  let scan ← b.scan.ready
  set { b with scan }
  match scan.tokens[scan.taken]? with
  | some t => return t
  | none => throw (.plain .endOfText)

/-- Pass over a token. -/
def skip : Build Unit :=
  modify fun b => { b with scan := b.scan.take }

/-- Pass over a token and see the next. -/
def skipPeek : Build Token := do
  skip
  peek

/-- Fail if there was a problem with characters that were only looked at. This is asked whenever a
node starts or ends. -/
def settle : Build Unit := do
  match (← get).scan.cursor.pending with
  | some p => throw (.plain p)
  | none => return

/-- Add a node. -/
def add (n : Node) : Build Nat :=
  modifyGet fun b => (b.nodes.size, { b with nodes := b.nodes.push n })

/-- Complete a node. -/
def fill (i : Nat) (kind : NodeKind) : Build Unit :=
  modify fun b => { b with nodes := b.nodes.modify i fun n => { n with kind } }

/-- Name a node. -/
def name (anchor : Option String) (i : Nat) : Build Unit :=
  match anchor with
  | some a => modify fun b => { b with anchors := b.anchors.insert a i }
  | none => pure ()

/-- An empty scalar at a place. -/
def emptyScalar (mark : Mark) : Build Nat := do
  settle
  add ⟨.scalar [], .null, mark.line + 1⟩

/-- The anchor and the tag in front of a node. -/
structure Properties where
  anchor : Option String
  /-- The handle and the rest of a tag, and where it is. -/
  tag : Option (String × Bytes × Mark)
  start : Mark

/-- Read the anchor and the tag in front of a node, in either order. -/
def properties : Build Properties := do
  let t ← peek
  match t.kind with
  | .anchor a =>
    let u ← skipPeek
    match u.kind with
    | .tag handle suffix =>
      skip
      return ⟨some a, some (handle, suffix, u.start), t.start⟩
    | _ => return ⟨some a, none, t.start⟩
  | .tag handle suffix =>
    let u ← skipPeek
    match u.kind with
    | .anchor a =>
      skip
      return ⟨some a, some (handle, suffix, t.start), t.start⟩
    | _ => return ⟨none, some (handle, suffix, t.start), t.start⟩
  | _ => return ⟨none, none, t.start⟩

/-- The tag of a node in full, empty when there is none. -/
def fullTag (p : Properties) : Build Bytes := do
  match p.tag with
  | none => return []
  | some (handle, suffix, mark) =>
    if handle = "" then return suffix
    match (← get).handles.lookup handle with
    | some uri => return uri ++ suffix
    | none => throw (.ofNode p.start mark .undefinedHandle)

/-- The tag of a node: its own, or the given one when it has none. -/
def tagOr (full : Bytes) (standard : Tag) : Tag :=
  if full.isEmpty || full = Bytes.ofString "!" then standard else .ofFullName full

/-- The tag of a scalar without one. -/
def scalarTag (style : ScalarStyle) (text : List Char) : Tag :=
  match style with
  | .quoted => .str
  | .plain => if text = ['<', '<'] then .merge else (plainMeaning true text).tag

/-- Whether a token cannot start a value or key of a block mapping. -/
def endsBlockPair : TokenKind → Bool
  | .key | .value | .blockEnd => true
  | _ => false

/-- Start a node with an anchor and a tag; the problems of looking ahead come first. -/
def startNode (p : Properties) (kind : NodeKind) (tag : Tag) : Build Nat := do
  settle
  let i ← add ⟨kind, tag, p.start.line + 1⟩
  name p.anchor i
  return i

/-- End a collection. -/
def endNode (i : Nat) (kind : NodeKind) : Build Nat := do
  settle
  fill i kind
  return i

/-- A node that is only an anchor or a tag, which is an empty scalar. -/
def noContent (p : Properties) (full : Bytes) (t : Token) : Build Nat := do
  if p.anchor.isSome || !full.isEmpty then startNode p (.scalar []) (tagOr full .null)
  else throw (.ofNode p.start t.start .expectedContent)

/-- The first token of the next item of a flow collection, after its comma. -/
def flowNext (context : Mark) (first : Bool) (p : Problem) (ends : TokenKind → Bool) :
    Build Token := do
  let t ← peek
  if first || ends t.kind then return t
  match t.kind with
  | .flowEntry => skipPeek
  | _ => throw (.ofNode context t.start p)

mutual

/-- A node. Outside flow collections it may be a block; as the value of a block mapping it may be
a sequence without an indentation of its own. -/
def node : Nat → Bool → Bool → Build Nat
  | 0, _, _ => throw (.plain .endOfText)
  | depth + 1, block, indentless => do
    let t ← peek
    match t.kind with
    | .alias a =>
      settle
      match (← get).anchors[a]? with
      | some target =>
        skip
        add ⟨.alias a target, .other [], t.start.line + 1⟩
      | none => throw (.plain (.unknownAnchor (Bytes.ofString a)))
    | _ =>
      let p ← properties
      let t ← peek
      let full ← fullTag p
      match t.kind with
      | .blockEntry =>
        if indentless then
          let i ← startNode p (.sequence []) (tagOr full .seq)
          let items ← indentlessItems depth #[]
          endNode i (.sequence items)
        else noContent p full t
      | .scalar style text =>
        let i ← startNode p (.scalar text) (tagOr full (scalarTag style text))
        skip
        return i
      | .flowSequenceStart =>
        let i ← startNode p (.sequence []) (tagOr full .seq)
        skip
        let items ← flowItems depth t.start true #[]
        endNode i (.sequence items)
      | .flowMappingStart =>
        let i ← startNode p (.mapping []) (tagOr full .map)
        skip
        let pairs ← flowPairs depth t.start true #[]
        endNode i (.mapping pairs)
      | .blockSequenceStart =>
        if block then
          let i ← startNode p (.sequence []) (tagOr full .seq)
          skip
          let items ← blockItems depth t.start #[]
          endNode i (.sequence items)
        else noContent p full t
      | .blockMappingStart =>
        if block then
          let i ← startNode p (.mapping []) (tagOr full .map)
          skip
          let pairs ← blockPairs depth t.start #[]
          endNode i (.mapping pairs)
        else noContent p full t
      | _ => noContent p full t

/-- The items of a block sequence. -/
def blockItems : Nat → Mark → Array Nat → Build (List Nat)
  | 0, _, _ => throw (.plain .endOfText)
  | depth + 1, context, items => do
    let t ← peek
    match t.kind with
    | .blockEntry =>
      let u ← skipPeek
      let i ← match u.kind with
        | .blockEntry | .blockEnd => emptyScalar t.stop
        | _ => node depth true false
      blockItems depth context (items.push i)
    | .blockEnd =>
      skip
      return items.toList
    | _ => throw (.ofNode context t.start .expectedDash)

/-- The items of a sequence without an indentation of its own. -/
def indentlessItems : Nat → Array Nat → Build (List Nat)
  | 0, _ => throw (.plain .endOfText)
  | depth + 1, items => do
    let t ← peek
    match t.kind with
    | .blockEntry =>
      let u ← skipPeek
      let i ← match u.kind with
        | .blockEntry | .key | .value | .blockEnd => emptyScalar t.stop
        | _ => node depth true false
      indentlessItems depth (items.push i)
    | _ => return items.toList

/-- The pairs of a block mapping. -/
def blockPairs : Nat → Mark → Array (Nat × Nat) → Build (List (Nat × Nat))
  | 0, _, _ => throw (.plain .endOfText)
  | depth + 1, context, pairs => do
    let t ← peek
    match t.kind with
    | .key =>
      let u ← skipPeek
      let k ← if endsBlockPair u.kind then emptyScalar t.stop else node depth true true
      let v ← blockValue depth
      blockPairs depth context (pairs.push (k, v))
    | .blockEnd =>
      skip
      return pairs.toList
    | _ => throw (.ofNode context t.start .expectedKey)

/-- The value after a key of a block mapping. -/
def blockValue : Nat → Build Nat
  | 0 => throw (.plain .endOfText)
  | depth + 1 => do
    let t ← peek
    match t.kind with
    | .value =>
      let u ← skipPeek
      if endsBlockPair u.kind then emptyScalar t.stop else node depth true true
    | _ => emptyScalar t.start

/-- The items of a flow sequence; an item may be a single pair. -/
def flowItems : Nat → Mark → Bool → Array Nat → Build (List Nat)
  | 0, _, _, _ => throw (.plain .endOfText)
  | depth + 1, context, first, items => do
    let t ← flowNext context first .expectedCommaOrBracket fun k => k = .flowSequenceEnd
    match t.kind with
    | .flowSequenceEnd =>
      skip
      return items.toList
    | .key =>
      let i ← startNode ⟨none, none, t.start⟩ (.mapping []) .map
      let u ← skipPeek
      let k ← match u.kind with
        | .value | .flowEntry | .flowSequenceEnd =>
          skip
          emptyScalar u.stop
        | _ => node depth false false
      let v ← flowValue depth fun k => k = .flowEntry || k = .flowSequenceEnd
      let _ ← peek
      let i ← endNode i (.mapping [(k, v)])
      flowItems depth context false (items.push i)
    | _ =>
      let i ← node depth false false
      flowItems depth context false (items.push i)

/-- The pairs of a flow mapping; a key may stand alone. -/
def flowPairs : Nat → Mark → Bool → Array (Nat × Nat) → Build (List (Nat × Nat))
  | 0, _, _, _ => throw (.plain .endOfText)
  | depth + 1, context, first, pairs => do
    let t ← flowNext context first .expectedCommaOrBrace fun k => k = .flowMappingEnd
    match t.kind with
    | .flowMappingEnd =>
      skip
      return pairs.toList
    | .key =>
      let u ← skipPeek
      let k ← match u.kind with
        | .value | .flowEntry | .flowMappingEnd => emptyScalar u.start
        | _ => node depth false false
      let v ← flowValue depth fun k => k = .flowEntry || k = .flowMappingEnd
      flowPairs depth context false (pairs.push (k, v))
    | _ =>
      let k ← node depth false false
      let v ← emptyScalar (← peek).start
      flowPairs depth context false (pairs.push (k, v))

/-- The value after a key of a flow collection. -/
def flowValue : Nat → (TokenKind → Bool) → Build Nat
  | 0, _ => throw (.plain .endOfText)
  | depth + 1, ends => do
    let t ← peek
    match t.kind with
    | .value =>
      let u ← skipPeek
      if ends u.kind then emptyScalar u.start else node depth false false
    | _ => emptyScalar t.start

end

/-- What the handles stand for without a directive. -/
def standardHandles : List (String × Bytes) :=
  [("!", Bytes.ofString "!"), ("!!", Tag.address)]

/-- Read directives. -/
def directives : Nat → Bool → List (String × Bytes) → Build (List (String × Bytes))
  | 0, _, handles => return handles
  | rounds + 1, versioned, handles => do
    let t ← peek
    match t.kind with
    | .version major minor =>
      if versioned then throw (.ofNode .zero t.start .duplicateVersion)
      if major ≠ 1 ∨ minor ≠ 1 then throw (.ofNode .zero t.start .incompatibleVersion)
      skip
      directives rounds true handles
    | .tagDirective handle uri =>
      if (handles.lookup handle).isSome then
        throw (.ofNode .zero t.start .duplicateTagDirective)
      skip
      directives rounds versioned ((handle, uri) :: handles)
    | _ => return handles

/-- The first document, or nothing when there is none. -/
def document (rounds : Nat) : Build (Option Nat) := do
  let _ ← peek
  settle
  let t ← skipPeek
  match t.kind with
  | .streamEnd =>
    settle
    return none
  | .version .. | .tagDirective .. | .documentStart =>
    let handles ← directives rounds false []
    modify fun b => { b with handles := handles ++ standardHandles }
    let t ← peek
    if t.kind ≠ .documentStart then throw (.ofNode .zero t.start .expectedDocumentStart)
    settle
    let u ← skipPeek
    let root ← match u.kind with
      | .version .. | .tagDirective .. | .documentStart | .documentEnd | .streamEnd =>
        emptyScalar u.start
      | _ => node rounds true false
    ending root
  | _ =>
    settle
    let root ← node rounds true false
    ending root
where
  /-- The end of a document is known once the token after it is. -/
  ending (root : Nat) : Build (Option Nat) := do
    let _ ← peek
    settle
    return some root

end Build

/-- The first document of a text, or nothing when there is none. -/
def parse (text : Bytes) : Except Error (Option Document) := do
  let scan := Scan.start text
  let (root, b) ← (Build.document scan.cursor.rounds).run ⟨scan, #[], {}, Build.standardHandles⟩
  return root.map fun root => ⟨b.nodes, root⟩

end TapeDeck.Yaml
