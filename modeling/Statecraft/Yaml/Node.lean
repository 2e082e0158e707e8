import Statecraft.Yaml.Fault
import Statecraft.Yaml.Scalar
import Statecraft.Yaml.Token

/-!
# Nodes of a YAML document

The tree that tokens describe. An alias stands for the node of its anchor; the
numbers of nodes tell which of them are one. A node that is a part of itself is written
out to some depth.
-/

namespace Statecraft.Yaml

inductive Node where
  | scalar (number : Nat) (tag : Tag) (text : List Char)
  | list (number : Nat) (tag : Tag) (items : List Node)
  | map (number : Nat) (tag : Tag) (entries : List (Node × Node))
  /-- The collection around this place that has the number. -/
  | around (number : Nat)

namespace Node

/-- What stands for a collection around it has no tag of its own. -/
def tag : Node → Tag
  | .scalar _ t _ | .list _ t _ | .map _ t _ => t
  | .around _ => .null

def number : Node → Nat
  | .scalar n _ _ | .list n _ _ | .map n _ _ | .around n => n

/-! ## Nodes that are parts of themselves -/

mutual

/-- The node with another one wherever it stands for the collection of a number. -/
def fill (number : Nat) (filling : Node) : Node → Node
  | .around n => if n == number then filling else .around n
  | .list n t items => .list n t (fillItems number filling items)
  | .map n t entries => .map n t (fillEntries number filling entries)
  | n => n

def fillItems (number : Nat) (filling : Node) : List Node → List Node
  | [] => []
  | n :: r => fill number filling n :: fillItems number filling r

def fillEntries (number : Nat) (filling : Node) : List (Node × Node) → List (Node × Node)
  | [] => []
  | (k, v) :: r => (fill number filling k, fill number filling v) :: fillEntries number filling r

end

mutual

/-- Some part stands for the collection of a number. -/
def mentions (number : Nat) : Node → Bool
  | .around n => n == number
  | .list _ _ items => mentionsItems number items
  | .map _ _ entries => mentionsEntries number entries
  | .scalar .. => false

def mentionsItems (number : Nat) : List Node → Bool
  | [] => false
  | n :: r => n.mentions number || mentionsItems number r

def mentionsEntries (number : Nat) : List (Node × Node) → Bool
  | [] => false
  | (k, v) :: r => k.mentions number || v.mentions number || mentionsEntries number r

end

/-- How often a node that is a part of itself is written out within itself: more often than any
reader of values goes down. -/
def unrollings : Nat := 5

/-- A collection without its parts. -/
def emptied : Node → Node
  | .list n t _ => .list n t []
  | .map n t _ => .map n t []
  | n => n

/-- The node, written out wherever it is a part of itself; in the innermost place it is empty. -/
def unrolled (n : Node) : Node :=
  (List.range (unrollings + 1)).foldl (fun inner _ => fill n.number inner n) n.emptied

mutual

/-- The number of nodes on the longest way down. -/
def height : Node → Nat
  | .list _ _ items => heightItems items + 1
  | .map _ _ entries => heightEntries entries + 1
  | .scalar .. | .around _ => 1

def heightItems : List Node → Nat
  | [] => 0
  | n :: r => max n.height (heightItems r)

def heightEntries : List (Node × Node) → Nat
  | [] => 0
  | (k, v) :: r => max (max k.height v.height) (heightEntries r)

end

end Node

/-- The state of reading nodes: the tokens left, the anchors' nodes, the anchors'
names, what tag handles stand for, and the next number. -/
structure Build where
  tokens : List Token
  anchors : List (String × Node)
  names : List String
  handles : List (String × String)
  next : Nat

namespace Build

/-- What was read and the state after it. -/
abbrev Step (α : Type) := Result (α × Build)

def peek? (b : Build) : Option Token := b.tokens.head?

def drop (b : Build) : Build := { b with tokens := b.tokens.drop 1 }

/-- The next token is one of these. -/
def sees (b : Build) (ts : List Token) : Bool := b.peek?.any ts.contains

/-- Why there is nothing to read here: an escape without a character, or else a token that is
out of place. -/
def stuck (b : Build) : Result α :=
  match b.peek? with
  | some (.noCharacter number) => .error (.noCharacter number)
  | _ => .error .malformed

/-- An empty scalar, which is null. -/
def empty (b : Build) : Node × Build := (.scalar b.next .null [], { b with next := b.next + 1 })

/-- What a node has before its content. -/
structure Properties where
  anchor : Option String
  tag : Option (Option String × String)

def properties (b : Build) : Properties × Build :=
  match b.tokens with
  | .anchor a :: .tag h s :: _ => (⟨some a, some (h, s)⟩, b.drop.drop)
  | .anchor a :: _ => (⟨some a, none⟩, b.drop)
  | .tag h s :: .anchor a :: _ => (⟨some a, some (h, s)⟩, b.drop.drop)
  | .tag h s :: _ => (⟨none, some (h, s)⟩, b.drop)
  | _ => (⟨none, none⟩, b)

/-- The full name of a written tag; none if its handle is unknown. -/
def tagName? (b : Build) : Option (Option String × String) → Option (Option String)
  | none => some none
  | some (none, suffix) => some (some suffix)
  | some (some handle, suffix) => (b.handles.lookup handle).map fun m => some (m ++ suffix)

/-- The tag of a node with a written name; the mark alone leaves it to the default. -/
def tagOr (name : Option String) (default : Tag) : Tag :=
  match name with
  | none | some "!" => default
  | some n => Tag.ofName n

/-- A number for a new node. -/
def fresh (b : Build) : Nat × Build := (b.next, { b with next := b.next + 1 })

/-- The node is what its anchor names. -/
def bind (anchor : Option String) (n : Node) (b : Build) : Node × Build :=
  match anchor with
  | some a => (n, { b with anchors := (a, n) :: b.anchors })
  | none => (n, b)

/-- The node is complete, and is what its anchor names. Anchors within it may have nodes that it is
a part of. -/
def close (anchor : Option String) (n : Node) (b : Build) : Node × Build :=
  if n.mentions n.number then
    let whole := n.unrolled
    bind anchor whole
      { b with anchors := b.anchors.map fun e => (e.1, Node.fill n.number whole e.2) }
  else bind anchor n b

/-- A scalar. Without a tag the form of a plain one says what it is, a quoted one is
a text; the mark alone makes a quoted one as good as plain. -/
def scalar (b : Build) (name : Option String) (text : List Char) (isPlain : Bool) : Node × Build :=
  let resolved := isPlain && name.isNone || name == some "!"
  let (n, b) := b.fresh
  (.scalar n (tagOr name (if resolved then Tag.ofPlain text else .text)) text, b)

/-- A collection of what was read, with the state after it. -/
def collect (make : α → Node) (step : Step α) : Step Node :=
  step.map fun (parts, b) => (make parts, b)

/-- Without content a node needs an anchor or a tag. -/
def emptyContent (anchor name : Option String) (b : Build) : Step Node :=
  if anchor.isSome || name.isSome then .ok (scalar b name [] name.isNone) else b.stuck

/-- Past the comma before an item other than the first. -/
def separated (first : Bool) (b : Build) : Result Build :=
  if first then .ok b
  else if b.sees [.flowEntry] then .ok b.drop
  else b.stuck

mutual

/-- A node. In block context blocks may follow, and where `indentless` holds entries
of a list at the indentation of the map around it. -/
def node : Nat → Bool → Bool → Build → Step Node
  | 0, _, _, _ => .error .malformed
  | fuel + 1, inBlock, indentless, b =>
    match b.peek? with
    | some (.alias a) =>
      match b.anchors.lookup a with
      | some n => .ok (n, b.drop)
      | none => .error .malformed
    | _ =>
      let (p, b) := b.properties
      match b.tagName? p.tag with
      | none => .error .malformed
      | some name =>
        if p.anchor.any b.names.contains then .error .malformed
        else
          let b := { b with names := p.anchor.toList ++ b.names }
          (content fuel inBlock indentless p.anchor name b).map fun (n, b) => close p.anchor n b

/-- A node's content, after its properties. Within a collection its anchor names what is around. -/
def content : Nat → Bool → Bool → Option String → Option String → Build → Step Node
  | 0, _, _, _, _, _ => .error .malformed
  | fuel + 1, inBlock, indentless, anchor, name, b =>
    let list := Node.list b.next (tagOr name .list)
    let map := Node.map b.next (tagOr name .map)
    let b' := (bind anchor (.around b.next) b.fresh.2).2
    match b.peek? with
    | some .blockEntry =>
      if indentless then collect list (blockEntries fuel true b' [])
      else emptyContent anchor name b
    | some (.scalar text isPlain) => .ok (scalar b.drop name text isPlain)
    | some .flowSequenceStart => collect list (flowItems fuel true b'.drop [])
    | some .flowMappingStart => collect map (flowEntries fuel true b'.drop [])
    | some .blockSequenceStart =>
      if inBlock then collect list (blockEntries fuel false b'.drop [])
      else emptyContent anchor name b
    | some .blockMappingStart =>
      if inBlock then collect map (blockPairs fuel b'.drop []) else emptyContent anchor name b
    | some (.noCharacter _) => b.stuck
    | _ => emptyContent anchor name b

/-- The entries of a block list; one without indentation ends with its last entry. -/
def blockEntries : Nat → Bool → Build → List Node → Step (List Node)
  | 0, _, _, _ => .error .malformed
  | fuel + 1, indentless, b, done =>
    match b.peek? with
    | some .blockEntry =>
      let b := b.drop
      let ends := if indentless then [.blockEntry, .key, .value, .blockEnd]
        else [Token.blockEntry, .blockEnd]
      match (if b.sees ends then .ok b.empty else node fuel true false b) with
      | .ok (n, b) => blockEntries fuel indentless b (n :: done)
      | .error e => .error e
    | some .blockEnd => .ok (done.reverse, if indentless then b else b.drop)
    | _ => if indentless then .ok (done.reverse, b) else b.stuck

/-- The keys and values of a block map. -/
def blockPairs : Nat → Build → List (Node × Node) → Step (List (Node × Node))
  | 0, _, _ => .error .malformed
  | fuel + 1, b, done =>
    let part := fun (b : Build) =>
      if b.sees [.key, .value, .blockEnd] then .ok b.empty else node fuel true true b
    match b.peek? with
    | some .key =>
      match part b.drop with
      | .error e => .error e
      | .ok (k, b) =>
        match (if b.sees [.value] then part b.drop else .ok b.empty) with
        | .ok (v, b) => blockPairs fuel b ((k, v) :: done)
        | .error e => .error e
    | some .blockEnd => .ok (done.reverse, b.drop)
    | _ => b.stuck

/-- The items of a flow list. A key makes an item a map with one entry. -/
def flowItems : Nat → Bool → Build → List Node → Step (List Node)
  | 0, _, _, _ => .error .malformed
  | fuel + 1, first, b, done =>
    if b.sees [.flowSequenceEnd] then .ok (done.reverse, b.drop)
    else
      match b.separated first with
      | .error e => .error e
      | .ok b =>
        match b.peek? with
        | some .key =>
          let (n, b) := b.drop.fresh
          let part := fun (ends : List Token) (b : Build) =>
            if b.sees ends then .ok b.empty else node fuel false false b
          match part [.value, .flowEntry, .flowSequenceEnd] b with
          | .error e => .error e
          | .ok (k, b) =>
            match (if b.sees [.value] then part [.flowEntry, .flowSequenceEnd] b.drop
              else .ok b.empty) with
            | .ok (v, b) => flowItems fuel false b (.map n .map [(k, v)] :: done)
            | .error e => .error e
        | some .flowSequenceEnd => .ok (done.reverse, b.drop)
        | _ =>
          match node fuel false false b with
          | .ok (n, b) => flowItems fuel false b (n :: done)
          | .error e => .error e

/-- The keys and values of a flow map. -/
def flowEntries : Nat → Bool → Build → List (Node × Node) → Step (List (Node × Node))
  | 0, _, _, _ => .error .malformed
  | fuel + 1, first, b, done =>
    if b.sees [.flowMappingEnd] then .ok (done.reverse, b.drop)
    else
      match b.separated first with
      | .error e => .error e
      | .ok b =>
        let part := fun (ends : List Token) (b : Build) =>
          if b.sees ends then .ok b.empty else node fuel false false b
        match b.peek? with
        | some .key =>
          match part [.value, .flowEntry, .flowMappingEnd] b.drop with
          | .error e => .error e
          | .ok (k, b) =>
            match (if b.sees [.value] then part [.flowEntry, .flowMappingEnd] b.drop
              else .ok b.empty) with
            | .ok (v, b) => flowEntries fuel false b ((k, v) :: done)
            | .error e => .error e
        | some .flowMappingEnd => .ok (done.reverse, b.drop)
        | _ =>
          match node fuel false false b with
          | .ok (k, b) =>
            let (v, b) := b.empty
            flowEntries fuel false b ((k, v) :: done)
          | .error e => .error e

end

/-- The handles that always stand for something. -/
def standardHandles : List (String × String) := [("!", "!"), ("!!", Tag.standard)]

/-- The directives before a document, of which none may be given twice; the version
has to be one. -/
def directives : Nat → Bool → Build → Result Build
  | 0, _, _ => .error .malformed
  | fuel + 1, versioned, b =>
    match b.peek? with
    | some (.directive d) =>
      match d with
      | .version major =>
        if versioned || major != 1 then .error .malformed else directives fuel true b.drop
      | .handle name meaning =>
        if (b.handles.lookup name).isSome then .error .malformed
        else directives fuel versioned { b.drop with handles := (name, meaning) :: b.handles }
      | .other => directives fuel versioned b.drop
    | _ => .ok { b with handles := b.handles ++ standardHandles }

/-- The document after a mark that starts it. -/
def marked (fuel : Nat) (b : Build) : Step Node :=
  (directives fuel false b).bind fun b =>
    if b.sees [.documentStart] then
      let b := b.drop
      let ended := match b.peek? with
        | some (.directive _) | some .documentStart | some .documentEnd | some .streamEnd => true
        | _ => false
      if ended then .ok b.empty else node fuel true false b
    else b.stuck

/-- Past the marks that end documents. -/
def dropEnds : Nat → Build → Build
  | 0, b => b
  | fuel + 1, b => if b.sees [.documentEnd] then dropEnds fuel b.drop else b

/-- The one document of a stream, or none if there is no document. -/
def document (ts : List Token) : Result (Option Node) :=
  let fuel := 4 * ts.length + 8
  let b : Build := ⟨ts, [], [], [], 0⟩
  let read : Step (Option Node) :=
    match b.peek? with
    | some .streamEnd => .ok (none, b)
    | some (.directive _) | some .documentStart => (marked fuel b).map fun (n, b) => (some n, b)
    | _ => (node fuel true false { b with handles := standardHandles }).map fun (n, b) => (some n, b)
  read.bind fun (n, b) =>
    let b := dropEnds fuel b
    if b.sees [.streamEnd] then .ok n else b.stuck

end Build

/-- The node of a stream's one document. -/
def Node.ofStream (s : List Char) : Result (Option Node) :=
  match Token.ofStream s with
  | some ts => Build.document ts
  | none => .error .malformed

end Statecraft.Yaml
