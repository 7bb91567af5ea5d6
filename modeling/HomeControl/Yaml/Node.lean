import HomeControl.Yaml.Token

/-!
# Nodes of a document

A node is a scalar, a mapping of nodes to nodes, or another use of a node with an anchor.
Anchors are numbered: a number counts the different names in front of it, so a name that is
given anew shares its number with the next name that is new.
-/

namespace HomeControl.Yaml

/-- The number of the anchor in front of a node, and its tag. -/
structure Properties where
  anchor : Option Nat
  tag : Option (List UInt8)
  deriving DecidableEq, Repr

namespace Properties

def bare : Properties := ⟨none, none⟩

def kind (properties : Properties) : Kind := (properties.tag.map Kind.ofTag).getD .unsaid

end Properties

inductive Node where
  | scalar (properties : Properties) (scalar : Scalar)
  | mapping (properties : Properties) (entries : List (Node × Node))
  | reuse (anchor : Nat)
  deriving Repr

namespace Node

/-- The node that stands where nothing is written. -/
def empty : Node := .scalar .bare .empty

def listed (properties : Properties) (node : Node) : List (Nat × Node) :=
  (properties.anchor.map fun anchor => (anchor, node)).toList

mutual

def anchored : Node → List (Nat × Node)
  | .scalar properties content => listed properties (.scalar properties content)
  | .mapping properties entries =>
    listed properties (.mapping properties entries) ++ anchoredIn entries
  | .reuse _ => []

def anchoredIn : List (Node × Node) → List (Nat × Node)
  | [] => []
  | (key, value) :: rest => key.anchored ++ value.anchored ++ anchoredIn rest

end

mutual

/-- The number of marks that make up a node: one, or two around the marks of its entries. -/
def size : Node → Nat
  | .scalar _ _ => 1
  | .mapping _ entries => 2 + sizeIn entries
  | .reuse _ => 1

def sizeIn : List (Node × Node) → Nat
  | [] => 0
  | (key, value) :: rest => key.size + value.size + sizeIn rest

end

def isReuse : Node → Bool
  | .reuse _ => true
  | _ => false

end Node

/-- What handles stand for at the start of a tag. -/
abbrev Handles := List (List Char × List UInt8)

/-- What is left to read: tokens, and the names of anchors with their numbers. -/
structure Unread where
  tokens : List Token
  anchors : List (List Char × Nat)

namespace Unread

def skip (unread : Unread) : Unread := { unread with tokens := unread.tokens.drop 1 }

def next? (unread : Unread) : Option Token := unread.tokens.head?

def takeAnchor (unread : Unread) : Option Nat × Unread :=
  match unread.tokens with
  | .anchor name :: tokens =>
    let number := unread.anchors.length
    let others := unread.anchors.filter fun known => known.1 != name
    (some number, ⟨tokens, (name, number) :: others⟩)
  | _ => (none, unread)

/-- A tag, if one comes next; its handle must be known. -/
def takeTag? (handles : Handles) (unread : Unread) :
    Option (Option (List UInt8) × Unread) :=
  match unread.tokens with
  | .tag tag :: tokens =>
    if tag.handle.isEmpty then some (some tag.suffix, { unread with tokens })
    else
      (handles.lookup tag.handle).map fun expansion =>
        (some (expansion ++ tag.suffix), { unread with tokens })
  | _ => some (none, unread)

/-- An anchor and a tag, if they come next, in either order. -/
def takeProperties? (handles : Handles) (unread : Unread) : Option (Properties × Unread) :=
  let (anchor, rest) := unread.takeAnchor
  (rest.takeTag? handles).map fun (tag, rest) =>
    if anchor.isSome then (⟨anchor, tag⟩, rest)
    else
      let (anchor, rest) := rest.takeAnchor
      (⟨anchor, tag⟩, rest)

/-- The next token ends an entry of a mapping by indentation, or a part of one. -/
def endsBlockPart (unread : Unread) : Bool :=
  match unread.next? with
  | some .key | some .value | some .blockEnd => true
  | _ => false

def endsFlowPart (unread : Unread) : Bool :=
  match unread.next? with
  | some .value | some .comma | some .flowEnd => true
  | _ => false

end Unread

def withEntry (key value : Node) (read : Option (List (Node × Node) × Unread)) :
    Option (List (Node × Node) × Unread) :=
  read.map fun (entries, rest) => ((key, value) :: entries, rest)

mutual

/-- The node at the start of the tokens, of less than `fuel` depth and entries. -/
def node? (handles : Handles) : (fuel : Nat) → Unread → Option (Node × Unread)
  | 0, _ => none
  | fuel + 1, unread =>
    match unread.next? with
    | some (.reuse name) =>
      (unread.anchors.lookup name).map fun number => (.reuse number, unread.skip)
    | _ =>
      (unread.takeProperties? handles).bind fun (properties, unread) =>
        match unread.next? with
        | some (.scalar scalar) => some (.scalar properties scalar, unread.skip)
        | some .flowStart =>
          (flowEntries? handles fuel unread.skip).map fun (entries, rest) =>
            (.mapping properties entries, rest)
        | some .blockStart =>
          (blockEntries? handles fuel unread.skip).map fun (entries, rest) =>
            (.mapping properties entries, rest)
        | _ => if properties = .bare then none else some (.scalar properties .empty, unread)

/-- The part of an entry at the start of the tokens, where nothing is written if it ends there. -/
def part? (handles : Handles) (ends : Unread → Bool) :
    (fuel : Nat) → Unread → Option (Node × Unread)
  | 0, _ => none
  | fuel + 1, unread => if ends unread then some (.empty, unread) else node? handles fuel unread

/-- The value of an entry, where nothing is written if no token announces it. -/
def entryValue? (handles : Handles) (ends : Unread → Bool) :
    (fuel : Nat) → Unread → Option (Node × Unread)
  | 0, _ => none
  | fuel + 1, unread =>
    match unread.next? with
    | some .value => part? handles ends fuel unread.skip
    | _ => some (.empty, unread)

def blockEntries? (handles : Handles) :
    (fuel : Nat) → Unread → Option (List (Node × Node) × Unread)
  | 0, _ => none
  | fuel + 1, unread =>
    match unread.next? with
    | some .blockEnd => some ([], unread.skip)
    | some .key =>
      (part? handles Unread.endsBlockPart fuel unread.skip).bind fun (key, unread) =>
        (entryValue? handles Unread.endsBlockPart fuel unread).bind fun (value, unread) =>
          withEntry key value (blockEntries? handles fuel unread)
    | _ => none

def flowEntries? (handles : Handles) :
    (fuel : Nat) → Unread → Option (List (Node × Node) × Unread)
  | 0, _ => none
  | fuel + 1, unread =>
    match unread.next? with
    | some .flowEnd => some ([], unread.skip)
    | some .key =>
      (part? handles Unread.endsFlowPart fuel unread.skip).bind fun (key, unread) =>
        (entryValue? handles Unread.endsFlowPart fuel unread).bind fun (value, unread) =>
          withEntry key value (moreFlowEntries? handles fuel unread)
    | _ =>
      (node? handles fuel unread).bind fun (key, unread) =>
        withEntry key .empty (moreFlowEntries? handles fuel unread)

/-- The entries behind one of a mapping between braces: none, or those behind a comma. -/
def moreFlowEntries? (handles : Handles) :
    (fuel : Nat) → Unread → Option (List (Node × Node) × Unread)
  | 0, _ => none
  | fuel + 1, unread =>
    match unread.next? with
    | some .comma => flowEntries? handles fuel unread.skip
    | some .flowEnd => some ([], unread.skip)
    | _ => none

end

end HomeControl.Yaml
