import HomeControl.Json.Token

/-!
# Objects of JSON

The members of an object of which only texts matter: `membersOf?` gives every member its
text, or nothing if its value is another one.  Values that do not matter may be nested to
any depth, and need to follow the grammar only.
-/

namespace HomeControl.Json

/-- What a value that is being passed over may contain next. -/
inductive Expect where
  | value
  | valueOrClose
  | keyOrClose
  | key
  | colon
  /-- A comma, or the end of the container; without a container, the end of the value. -/
  | more
  deriving DecidableEq, Repr

inductive Container where
  | array
  | object
  deriving DecidableEq, Repr

/-- One token further into a value that may begin here. -/
def beginValue? (nesting : List Container) : Token → Option (Expect × List Container)
  | .string _ | .scalar => some (.more, nesting)
  | .openBrace => some (.keyOrClose, .object :: nesting)
  | .openBracket => some (.valueOrClose, .array :: nesting)
  | _ => none

def passToken? (expect : Expect) (nesting : List Container) (token : Token) :
    Option (Expect × List Container) :=
  match expect, nesting, token with
  | .value, _, token => beginValue? nesting token
  | .valueOrClose, .array :: outer, .closeBracket => some (.more, outer)
  | .valueOrClose, _, token => beginValue? nesting token
  | .keyOrClose, .object :: outer, .closeBrace => some (.more, outer)
  | .keyOrClose, _, .string _ => some (.colon, nesting)
  | .key, _, .string _ => some (.colon, nesting)
  | .colon, _, .colon => some (.value, nesting)
  | .more, .array :: _, .comma => some (.value, nesting)
  | .more, .array :: outer, .closeBracket => some (.more, outer)
  | .more, .object :: _, .comma => some (.key, nesting)
  | .more, .object :: outer, .closeBrace => some (.more, outer)
  | _, _, _ => none

def passValue? : Expect → List Container → List Token → Option (List Token)
  | .more, [], tokens => some tokens
  | _, _, [] => none
  | expect, nesting, token :: rest =>
    match passToken? expect nesting token with
    | some (next, nesting) => passValue? next nesting rest
    | none => none

theorem length_passValue? {expect : Expect} {nesting : List Container} {tokens rest : List Token}
    (h : passValue? expect nesting tokens = some rest) : rest.length ≤ tokens.length := by
  fun_induction passValue? expect nesting tokens with
  | case1 => simp_all
  | case2 => simp at h
  | case3 expect nesting token tail _ _ _ _ ih =>
    have := ih h
    simp only [List.length_cons]
    omega
  | case4 => simp at h

/-- The text of a value, if it is one, and what follows the value. -/
def value? : List Token → Option (Option String × List Token)
  | .string pieces :: rest => some ((piecesText? pieces).map String.ofList, rest)
  | tokens => (passValue? .value [] tokens).map fun rest => (none, rest)

theorem length_value? {tokens rest : List Token} {text : Option String}
    (h : value? tokens = some (text, rest)) : rest.length ≤ tokens.length := by
  unfold value? at h
  split at h
  · simp only [Option.some.injEq, Prod.mk.injEq] at h
    simp [← h.2]
  · obtain ⟨last, found, equal⟩ := Option.map_eq_some_iff.mp h
    simp only [Prod.mk.injEq] at equal
    exact length_passValue? (equal.2 ▸ found)

/-- The members of an object from a name on, up to its closing brace at the end. -/
def members? (tokens : List Token) : Option (List (String × Option String)) :=
  match tokens with
  | .string pieces :: .colon :: tail =>
    match piecesText? pieces with
    | none => none
    | some name =>
      match h : value? tail with
      | some (text, .comma :: rest) =>
        have := length_value? h
        (members? rest).map ((String.ofList name, text) :: ·)
      | some (text, [.closeBrace]) => some [(String.ofList name, text)]
      | _ => none
  | _ => none
termination_by tokens.length
decreasing_by
  simp only [List.length_cons] at *
  omega

def membersOf? (text : String) : Option (List (String × Option String)) :=
  match tokens? text.toList with
  | some [.openBrace, .closeBrace] => some []
  | some (.openBrace :: tokens) => members? tokens
  | _ => none

/-- The text of the one member of that name, if there is one and its value is a text. -/
def memberText? (name : String) (members : List (String × Option String)) : Option String :=
  match members.filter fun member => member.1 == name with
  | [(_, text)] => text
  | _ => none

end HomeControl.Json
