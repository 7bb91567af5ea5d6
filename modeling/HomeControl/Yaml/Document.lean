import HomeControl.Yaml.Token.Lexer
import HomeControl.Yaml.Node

/-!
# Documents

A text is one document or none at all.  A document is one node, perhaps behind directives
that name the version and handles for tags.
-/

namespace HomeControl.Yaml

/-- What a text holds: a node, unless there is nothing but white space and comments. -/
structure Document where
  root : Option Node
  deriving Repr

structure Preamble where
  hasVersion : Bool
  handles : Handles

namespace Preamble

def empty : Preamble := ⟨false, []⟩

/-- The handles of the directives, and those that every document has. -/
def allHandles (preamble : Preamble) : Handles :=
  preamble.handles ++
    [(['!'], ownMark), (['!', '!'], Text.utf8 "tag:yaml.org,2002:".toList)]

/-- The directives at the start of the tokens; none may be given twice. -/
def take? : Preamble → List Token → Option (Preamble × List Token)
  | preamble, .version major minor :: rest =>
    if preamble.hasVersion || major != 1 || !(minor == 1 || minor == 2) then none
    else take? { preamble with hasVersion := true } rest
  | preamble, .tagHandle handle expansion :: rest =>
    if (preamble.handles.lookup handle).isSome then none
    else take? { preamble with handles := preamble.handles ++ [(handle, expansion)] } rest
  | preamble, tokens => some (preamble, tokens)

end Preamble

namespace Document

def root? (preamble : Preamble) (tokens : List Token) : Option (Node × List Token) :=
  (node? preamble.allHandles (4 * tokens.length + 4) ⟨tokens, []⟩).map fun (node, unread) =>
    (node, unread.tokens)

def endsDocument : List Token → Bool
  | [] => true
  | .documentEnd :: _ => true
  | token :: _ => token.opensDocument

/-- A document behind directives, where nothing may be written. -/
def explicit? (tokens : List Token) : Option (Node × List Token) :=
  (Preamble.empty.take? tokens).bind fun (preamble, rest) =>
    match rest with
    | .documentStart :: rest =>
      if endsDocument rest then some (.empty, rest) else root? preamble rest
    | _ => none

def ofTokens? (tokens : List Token) : Option Document :=
  match tokens with
  | [] => some ⟨none⟩
  | first :: _ =>
    let read := if first.opensDocument then explicit? tokens else root? .empty tokens
    read.bind fun (root, rest) =>
      if rest.all (· == .documentEnd) then some ⟨some root⟩ else none

def ofText? (text : List Char) : Option Document := (tokens? text).bind ofTokens?

def anchored (document : Document) : List (Nat × Node) :=
  match document.root with
  | some root => root.anchored
  | none => []

/-- The last node with the number of an anchor. -/
def anchored? (document : Document) (anchor : Nat) : Option Node :=
  document.anchored.reverse.lookup anchor

/-- The node that is meant: itself, or the one that is used again. -/
def meant? (document : Document) : Node → Option Node
  | .reuse anchor => document.anchored? anchor
  | node => some node

def size (document : Document) : Nat := (document.root.map Node.size).getD 0

/-- The entries of a mapping that a node of the document means, none if it means no mapping. -/
def entries (document : Document) (node : Node) : List (Node × Node) :=
  match document.meant? node with
  | some (.mapping _ entries) => entries
  | _ => []

/-- What a reader of a mapping of mappings comes to: its entries, and those of its values. -/
def visited (document : Document) (entries : List (Node × Node)) : List (Node × Node) :=
  entries ++ entries.flatMap fun entry => document.entries entry.2

def reuseCount (document : Document) (entries : List (Node × Node)) : Nat :=
  let visited := document.visited entries
  (visited.countP fun entry => entry.1.isReuse) + visited.countP fun entry => entry.2.isReuse

/-- Nodes are used again so often that the document is not read. -/
def reusesTooOften (document : Document) (entries : List (Node × Node)) : Bool :=
  100 * document.size < document.reuseCount entries

end Document

end HomeControl.Yaml
