import ImageRequest.Codec.Hex
import ImageRequest.Numeral.Integer
import ImageRequest.Yaml.Document

/-!
# Values of nodes

How a node is taken as a value of the type that is wanted. Any scalar is a text. Only plain scalars
are truth values and numbers, so a number between quotation marks is none; a literal block is one if
its tag says so. An empty plain scalar is an empty list and an empty mapping.
-/

namespace ImageRequest.Yaml

/-- Whether a text is a word for nothing. -/
def isNull (text : String) : Bool :=
  text ∈ ["null", "Null", "NULL", "~"]

/-- The truth value of a word. -/
def boolOf? (text : String) : Option Bool :=
  if text ∈ ["true", "True", "TRUE"] then some true
  else if text ∈ ["false", "False", "FALSE"] then some false
  else none

/-- The value of at least one digit to a base of at most sixteen and nothing else. -/
def digits? (base : Nat) (digits : List Char) : Option Nat :=
  if digits.isEmpty then none
  else digits.foldlM (fun value c => do
    let digit ← Codec.Hex.digit? c
    if digit < base then return base * value + digit else none) 0

/-- The value of a natural number without a sign: hexadecimal, octal or binary behind `0x`, `0o` or
`0b`, and otherwise decimal without leading zeros. -/
def unsignedOf? : List Char → Option Nat
  | '0' :: 'x' :: digits => digits? 16 digits
  | '0' :: 'o' :: digits => digits? 8 digits
  | '0' :: 'b' :: digits => digits? 2 digits
  | ['0'] => some 0
  | '0' :: _ => none
  | digits => digits? 10 digits

/-- The value of a natural number, which may have a plus sign. -/
def naturalOf? (text : String) : Option Nat :=
  match text.toList with
  | '+' :: digits => unsignedOf? digits
  | digits => unsignedOf? digits

namespace Document

/-- The node itself, or the one that an alias stands for. -/
def resolve? (document : Document) : Node → Option Node
  | .alias anchor => document.anchored.lookup anchor
  | node => some node

/-- Any scalar as a text. -/
def text? (document : Document) (node : Node) : Option String :=
  match document.resolve? node with
  | some (.scalar _ _ text) => some text
  | _ => none

/-- The text of a scalar that is plain, or literal with a given tag. -/
def plain? (document : Document) (tag : Tag) (node : Node) : Option String :=
  match document.resolve? node with
  | some (.scalar _ .plain text) => some text
  | some (.scalar (some given) .literal text) => if given = tag then some text else none
  | _ => none

/-- A node as a truth value. -/
def bool? (document : Document) (node : Node) : Option Bool :=
  (document.plain? (Tag.standard "bool") node).bind boolOf?

/-- A node as a natural number of at most a given size. -/
def natural? (bound : Nat) (document : Document) (node : Node) : Option Nat :=
  ((document.plain? (Tag.standard "int") node).bind naturalOf?).filter (· ≤ bound)

/-- A node as the name of one of several choices: any text, or nothing behind a tag of its own,
which is the name. -/
def choice? (document : Document) (node : Node) : Option String :=
  match document.resolve? node with
  | some (.scalar tag? style text) =>
    match tag?.bind Tag.localName? with
    | some name => if style = .plain ∧ (text = "" ∨ isNull text) then some name else none
    | none => some text
  | _ => none

/-- A node as something that may be missing. -/
def optional? {α : Type} (read : Document → Node → Option α) (document : Document) (node : Node) :
    Option (Option α) :=
  let present := (read document node).map some
  match document.resolve? node with
  | some (.scalar none .plain text) => if text = "" ∨ isNull text then some none else present
  | some (.scalar (some tag) .plain text) =>
    if tag ≠ Tag.standard "null" then present
    else if isNull text then some none
    else none
  | _ => present

/-- A node as a list. -/
def list? {α : Type} (read : Document → Node → Option α) (document : Document) (node : Node) :
    Option (List α) :=
  match document.resolve? node with
  | some (.sequence items) => items.mapM (read document)
  | some (.scalar _ .plain "") => some []
  | _ => none

/-- A node as keys with nodes. -/
def entries? {κ : Type} (readKey : Document → Node → Option κ) (document : Document) (node : Node) :
    Option (List (κ × Node)) :=
  match document.resolve? node with
  | some (.mapping entries) =>
    entries.mapM fun (key, node) => do return (← readKey document key, node)
  | some (.scalar _ .plain "") => some []
  | _ => none

end Document

/-- The entries of a mapping whose keys are known. -/
structure Record where
  document : Document
  entries : List (String × Node)

namespace Record

/-- A node as a record with some known keys, none of which may be repeated. Entries with other keys
are passed over. -/
def ofNode? (keys : List String) (document : Document) (node : Node) : Option Record := do
  let entries ← document.entries? Document.text? node
  let entries := entries.filter fun (key, _) => key ∈ keys
  if (entries.map Prod.fst).Nodup then return { document, entries } else none

/-- The value of a key, or a given one if there is no entry. -/
def get? {α : Type} (record : Record) (key : String) (read : Document → Node → Option α)
    (default : α) : Option α :=
  match record.entries.lookup key with
  | some node => read record.document node
  | none => some default

end Record

end ImageRequest.Yaml
