import ImageRequest.Yaml.Token

/-!
# Documents

A document is a tree of scalars, sequences and mappings. A node may carry an anchor, and an alias
stands for the node with its anchor. Aliases are kept as they are, because an alias may stand inside
the node that it refers to.

`Document.ofTokens?` reads the tokens of a text that holds a single document.
-/

namespace ImageRequest.Yaml

/-- A node of a document. -/
inductive Node where
  | scalar (tag? : Option Tag) (style : ScalarStyle) (text : String)
  | sequence (items : List Node)
  | mapping (entries : List (Node × Node))
  /-- The node with the anchor of a given number. -/
  | alias (anchor : Nat)

/-- The node of a place with nothing in it. -/
def Node.empty : Node :=
  .scalar none .plain ""

/-- A tree with its anchors. -/
structure Document where
  root : Node
  /-- The nodes with anchors, by the numbers of these, latest first. -/
  anchored : List (Nat × Node) := []

/-- What is known while the nodes of a document are read. -/
structure Composer where
  tokens : List Token
  /-- The meanings of the handles of tags. -/
  handles : List (String × Tag)
  /-- The numbers of the anchors, latest first. -/
  anchors : List (String × Nat) := []
  /-- How many different names the anchors have. -/
  nameCount : Nat := 0
  /-- The nodes with anchors, by number. A node that is still being read is empty here. -/
  anchored : Array (Nat × Node) := #[]

/-- A reader of tokens. -/
abbrev Compose := StateT Composer Option

namespace Compose

/-- The next token. -/
def peek : Compose (Option Token) := do
  return (← get).tokens.head?

/-- Pass over a token. -/
def advance : Compose Unit :=
  modify fun s => { s with tokens := s.tokens.tail }

/-- Pass over a token that has to stand here. -/
def expect (token : Token) : Compose Unit := do
  if (← peek) = some token then advance else failure

/-- The node that a reader finds, or an empty one if one of some tokens stands here. -/
def orEmpty (stops : List Token) (read : Compose Node) : Compose Node := do
  match ← peek with
  | some token => if token ∈ stops then return .empty else read
  | none => read

/-- The number of the anchor with a name. -/
def anchorNumber (name : String) : Compose Nat := do
  match (← get).anchors.lookup name with
  | some number => return number
  | none => failure

/-- Place a new anchor. Its number is the count of the different names in front of it, and the
result is its place among all anchors. -/
def placeAnchor (name : String) : Compose Nat := do
  let s ← get
  let isNew := (s.anchors.lookup name).isNone
  set
    { s with
      anchors := (name, s.nameCount) :: s.anchors
      nameCount := if isNew then s.nameCount + 1 else s.nameCount
      anchored := s.anchored.push (s.nameCount, .empty) }
  return s.anchored.size

/-- Give the node to an anchor that was placed before it. -/
def fillAnchor (place : Nat) (node : Node) : Compose Unit :=
  modify fun s =>
    { s with anchored := s.anchored.modify place fun (number, _) => (number, node) }

/-- The meaning of a tag with a handle. -/
def tag (handle : String) (suffix : Tag) : Compose Tag := do
  if handle = "" then return suffix
  match (← get).handles.lookup handle with
  | some meaning => return meaning ++ suffix
  | none => failure

/-- Read an anchor, if one stands here. -/
def anchor? : Compose (Option Nat) := do
  match ← peek with
  | some (.anchor name) => do
    advance
    return some (← placeAnchor name)
  | _ => return none

/-- Read a tag, if one stands here. -/
def tag? : Compose (Option Tag) := do
  match ← peek with
  | some (.tag handle suffix) => do
    advance
    return some (← tag handle suffix)
  | _ => return none

/-- Read the anchor and the tag of a node, which may stand in either order. -/
def properties : Compose (Option Nat × Option Tag) := do
  match ← anchor? with
  | some place => return (some place, ← tag?)
  | none =>
    let tag? ← tag?
    return (← anchor?, tag?)

mutual

/-- Read a node. `block` allows blocks, and `flat` a sequence that is not indented. As in all these
readers the first number bounds the number of nested calls. -/
def node : Nat → Bool → Bool → Compose Node
  | 0, _, _ => failure
  | fuel + 1, block, flat => do
    match ← peek with
    | some (.alias name) =>
      advance
      return .alias (← anchorNumber name)
    | _ =>
      let (place?, tag?) ← properties
      let node ← content fuel block flat (place?.isSome || tag?.isSome) tag?
      match place? with
      | some place => fillAnchor place node
      | none => pure ()
      return node

/-- Read a node behind its anchor and its tag. -/
def content : Nat → Bool → Bool → Bool → Option Tag → Compose Node
  | 0, _, _, _, _ => failure
  | fuel + 1, block, flat, hasProperties, tag? => do
    match ← peek, block, flat with
    | some .dash, _, true => return .sequence (← flatItems fuel)
    | some (.scalar style text), _, _ =>
      advance
      return .scalar tag? style text
    | some .openSequence, _, _ =>
      advance
      return .sequence (← flowItems fuel)
    | some .openMapping, _, _ =>
      advance
      return .mapping (← flowEntries fuel)
    | some .blockSequence, true, _ =>
      advance
      return .sequence (← blockItems fuel)
    | some .blockMapping, true, _ =>
      advance
      return .mapping (← blockEntries fuel)
    | _, _, _ => if hasProperties then return .scalar tag? .plain "" else failure

/-- Read the items of a sequence up to the end of its block. -/
def blockItems : Nat → Compose (List Node)
  | 0 => failure
  | fuel + 1 => do
    match ← peek with
    | some .dash =>
      advance
      let item ← orEmpty [.dash, .blockEnd] (node fuel true false)
      return item :: (← blockItems fuel)
    | _ =>
      expect .blockEnd
      return []

/-- Read the items of a sequence that is not indented, as far as there are any. -/
def flatItems : Nat → Compose (List Node)
  | 0 => failure
  | fuel + 1 => do
    match ← peek with
    | some .dash =>
      advance
      let item ← orEmpty [.dash, .key, .value, .blockEnd] (node fuel true false)
      return item :: (← flatItems fuel)
    | _ => return []

/-- Read the entries of a mapping up to the end of its block. -/
def blockEntries : Nat → Compose (List (Node × Node))
  | 0 => failure
  | fuel + 1 => do
    match ← peek with
    | some .key =>
      advance
      let key ← orEmpty [.key, .value, .blockEnd] (node fuel true true)
      let value ←
        if (← peek) = some .value then do
          advance
          orEmpty [.key, .value, .blockEnd] (node fuel true true)
        else pure .empty
      return (key, value) :: (← blockEntries fuel)
    | _ =>
      expect .blockEnd
      return []

/-- Read the items of a sequence up to its closing bracket. -/
def flowItems : Nat → Compose (List Node)
  | 0 => failure
  | fuel + 1 => do
    match ← peek with
    | some .closeSequence =>
      advance
      return []
    | some .key =>
      advance
      let pair ← flowPair fuel
      return .mapping [pair] :: (← moreFlowItems fuel)
    | _ =>
      let item ← node fuel false false
      return item :: (← moreFlowItems fuel)

/-- Read the items of a sequence behind the first one. -/
def moreFlowItems : Nat → Compose (List Node)
  | 0 => failure
  | fuel + 1 => do
    if (← peek) = some .comma then advance; flowItems fuel
    else
      expect .closeSequence
      return []

/-- Read a key with a value as an item of a sequence. A mark in the place of the key is passed
over. -/
def flowPair : Nat → Compose (Node × Node)
  | 0 => failure
  | fuel + 1 => do
    let key ←
      match ← peek with
      | some .value | some .comma | some .closeSequence => do
        advance
        pure .empty
      | _ => node fuel false false
    return (key, ← flowValue fuel [.comma, .closeSequence])

/-- Read the value of a key between brackets, if there is one. -/
def flowValue : Nat → List Token → Compose Node
  | 0, _ => failure
  | fuel + 1, stops => do
    if (← peek) = some .value then
      advance
      orEmpty stops (node fuel false false)
    else return .empty

/-- Read the entries of a mapping up to its closing bracket. -/
def flowEntries : Nat → Compose (List (Node × Node))
  | 0 => failure
  | fuel + 1 => do
    match ← peek with
    | some .closeMapping =>
      advance
      return []
    | some .key =>
      advance
      let key ← orEmpty [.value, .comma, .closeMapping] (node fuel false false)
      let value ← flowValue fuel [.comma, .closeMapping]
      return (key, value) :: (← moreFlowEntries fuel)
    | _ =>
      let key ← node fuel false false
      return (key, .empty) :: (← moreFlowEntries fuel)

/-- Read the entries of a mapping behind the first one. -/
def moreFlowEntries : Nat → Compose (List (Node × Node))
  | 0 => failure
  | fuel + 1 => do
    if (← peek) = some .comma then advance; flowEntries fuel
    else
      expect .closeMapping
      return []

end

end Compose

namespace Document

/-- Whether a token is a directive for the reader. -/
def isDirective : Token → Bool
  | .version .. | .handle .. => true
  | _ => false

/-- Whether some directives can stand together: at most one version, which is 1.1 or 1.2, and no
handle twice. -/
def areValid (directives : List Token) : Bool :=
  let versions : List (Nat × Nat) := directives.filterMap fun
    | .version major minor => some (major, minor)
    | _ => none
  let handles : List String := directives.filterMap fun
    | .handle name _ => some name
    | _ => none
  versions.length ≤ 1 && (versions.all fun version => version ∈ [(1, 1), (1, 2)]) &&
    decide handles.Nodup

/-- The meanings of handles: those given, and otherwise those that handles always have. -/
def handles (directives : List Token) : List (String × Tag) :=
  (directives.filterMap fun
    | .handle name meaning => some (name, meaning)
    | _ => none) ++ [("!", Tag.bare), ("!!", Tag.standard "")]

/-- Whether a token that cannot begin a node stands first behind the beginning of a document. -/
def isBare : List Token → Bool
  | [] => true
  | token :: _ => isDirective token || token = .documentStart || token = .documentEnd

/-- The document whose nodes have some tokens, behind its directives. Nothing else may follow it. -/
def compose? (handles : List (String × Tag)) (isExplicit : Bool) (tokens : List Token) :
    Option Document := do
  let read := if isExplicit && isBare tokens then pure .empty
    else Compose.node (4 * tokens.length + 8) true false
  let (root, composer) ← read.run { tokens, handles }
  if (composer.tokens.dropWhile (· = .documentEnd)).isEmpty then
    return { root, anchored := composer.anchored.toList.reverse }
  else none

/-- The only document with some tokens. Without any token it is empty. -/
def ofTokens? (tokens : List Token) : Option Document :=
  let directives := tokens.takeWhile isDirective
  match directives, tokens.dropWhile isDirective with
  | [], [] => some { root := .empty }
  | directives, .documentStart :: rest =>
    if areValid directives then compose? (handles directives) true rest else none
  | [], rest => compose? (handles []) false rest
  | _, _ => none

/-- The only document of a text. -/
def ofText? (text : String) : Option Document :=
  (Token.ofText? text).bind ofTokens?

end Document

end ImageRequest.Yaml
