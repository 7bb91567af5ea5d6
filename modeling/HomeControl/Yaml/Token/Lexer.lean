import HomeControl.Yaml.BlockText
import HomeControl.Yaml.Directive
import HomeControl.Yaml.Plain
import HomeControl.Yaml.Quoted

/-!
# From characters to tokens

Whether a token is a key shows only with the colon behind it, so the place of the last token
that may be one is kept.  Mappings by indentation are kept by their columns: one begins with
a key to the right of the margin, and ends with a token to the left of its column.  Between
braces indentation means nothing.
-/

namespace HomeControl.Yaml

/-- A token that is a key if a colon follows it on its line. -/
structure Candidate where
  position : Nat
  place : Place
  /-- It stands in the column of a mapping, so it must be a key. -/
  isRequired : Bool
  deriving DecidableEq, Repr

/-- A colon at the place is too far from the candidate: on another line, or a kilobyte behind it. -/
def Candidate.isStale (candidate : Candidate) (place : Place) : Bool :=
  candidate.place.line < place.line || candidate.place.offset + 1024 < place.offset

/-- What the tokens so far mean for the next one. -/
structure Lexer where
  tokens : Array Token
  /-- The columns of the mappings by indentation, the innermost first. -/
  columns : List Nat
  /-- The last token that may be a key, between the innermost braces. -/
  candidate : Option Candidate
  /-- The same for the text around each open brace, the innermost first. -/
  outer : List (Option Candidate)
  /-- The next token may be a key. -/
  mayBeKey : Bool
  deriving DecidableEq, Repr

namespace Lexer

def start : Lexer := ⟨#[], [], none, [], true⟩

def inFlow (lexer : Lexer) : Bool := !lexer.outer.isEmpty

/-- The column right of the one of the innermost mapping by indentation. -/
def margin (lexer : Lexer) : Nat :=
  match lexer.columns with
  | [] => 0
  | column :: _ => column + 1

def push (lexer : Lexer) (token : Token) : Lexer :=
  { lexer with tokens := lexer.tokens.push token }

/-- The candidate is none after all, which is refused if it must be one. -/
def dropCandidate? (lexer : Lexer) : Option Lexer :=
  if (lexer.candidate.map Candidate.isRequired).getD false then none
  else some { lexer with candidate := none }

def expire? (lexer : Lexer) (place : Place) : Option Lexer :=
  match lexer.candidate with
  | some candidate =>
    if candidate.isStale place then lexer.dropCandidate? else some lexer
  | none => some lexer

def nominate? (lexer : Lexer) (place : Place) : Option Lexer :=
  if lexer.mayBeKey then
    let isRequired := !lexer.inFlow && lexer.columns.head? == some place.column
    lexer.dropCandidate?.map fun lexer =>
      { lexer with candidate := some ⟨lexer.tokens.size, place, isRequired⟩ }
  else some lexer

/-- Mappings by indentation end if their column is not left of the bound. -/
def closeFrom (lexer : Lexer) (bound : Nat) : Lexer :=
  if lexer.inFlow then lexer
  else
    let closed := lexer.columns.takeWhile (bound ≤ ·)
    { lexer with
      columns := lexer.columns.dropWhile (bound ≤ ·)
      tokens := lexer.tokens ++ Array.replicate closed.length .blockEnd }

/-- A mapping begins in a column at or right of the margin, in front of the token at a position. -/
def indent (lexer : Lexer) (column position : Nat) : Lexer :=
  if !lexer.inFlow && lexer.margin ≤ column then
    { lexer with
      columns := column :: lexer.columns
      tokens := lexer.tokens.insertIdxIfInBounds position .blockStart }
  else lexer

def openBrace? (lexer : Lexer) (place : Place) : Option Lexer :=
  (lexer.nominate? place).map fun lexer =>
    { lexer.push .flowStart with
      candidate := none
      outer := lexer.candidate :: lexer.outer
      mayBeKey := true }

def closeBrace? (lexer : Lexer) : Option Lexer :=
  lexer.dropCandidate?.bind fun lexer =>
    match lexer.outer with
    | [] => none
    | candidate :: outer =>
      some { lexer.push .flowEnd with candidate, outer, mayBeKey := false }

def comma? (lexer : Lexer) : Option Lexer :=
  lexer.dropCandidate?.map fun lexer => { lexer.push .comma with mayBeKey := true }

/-- A question mark, which announces a key. -/
def key? (lexer : Lexer) (place : Place) : Option Lexer :=
  if lexer.inFlow || lexer.mayBeKey then
    (lexer.indent place.column lexer.tokens.size).dropCandidate?.map fun lexer =>
      { lexer.push .key with mayBeKey := !lexer.inFlow }
  else none

/-- A colon, which makes a key of the candidate or follows an announced key. -/
def value? (lexer : Lexer) (place : Place) : Option Lexer :=
  match lexer.candidate with
  | some candidate =>
    let named :=
      { lexer with
        tokens := lexer.tokens.insertIdxIfInBounds candidate.position .key
        candidate := none
        mayBeKey := false }
    some ((named.indent candidate.place.column candidate.position).push .value)
  | none =>
    if lexer.inFlow || lexer.mayBeKey then
      let announced := lexer.indent place.column lexer.tokens.size
      some { announced.push .value with mayBeKey := !lexer.inFlow }
    else none

/-- A token that may be a key or a part of one, and behind which none begins on its line. -/
def unit? (lexer : Lexer) (place : Place) (token : Token) : Option Lexer :=
  (lexer.nominate? place).map fun lexer => { lexer.push token with mayBeKey := false }

/-- A token at the start of a line that ends all mappings by indentation. -/
def outermost? (lexer : Lexer) (token : Token) : Option Lexer :=
  (lexer.closeFrom 0).dropCandidate?.map fun lexer => { lexer.push token with mayBeKey := false }

def quoted? (lexer : Lexer) (place : Place) (read : Option (List Piece × List Glyph)) :
    Option (Lexer × List Glyph) :=
  (quotedText? read).bind fun (content, rest) =>
    (lexer.unit? place (.scalar ⟨content, false⟩)).map fun lexer => (lexer, rest)

def block? (lexer : Lexer) (isLiteral : Bool) (text : List Glyph) :
    Option (Lexer × List Glyph) :=
  (blockText? isLiteral lexer.margin text).bind fun (content, rest) =>
    lexer.dropCandidate?.map fun lexer =>
      ({ lexer.push (.scalar ⟨content, false⟩) with mayBeKey := true }, rest)

/-- A plain scalar; behind a line break, a key may follow. -/
def plainScalar? (lexer : Lexer) (place : Place) (text : List Glyph) :
    Option (Lexer × List Glyph) :=
  (plain? lexer.inFlow lexer.margin text).bind fun plain =>
    (lexer.unit? place (.scalar ⟨plain.content, true⟩)).map fun lexer =>
      ({ lexer with mayBeKey := plain.brokeLine }, plain.rest)

/-- A character with a meaning of its own, which begins no plain scalar. -/
def isIndicator (c : Char) : Bool := isFlowIndicator c || "#&*!|>'\"%@`".toList.contains c

def beginsPlain (lexer : Lexer) (c : Char) (rest : List Glyph) : Bool :=
  if c == '-' then !endsWord rest
  else if c == '?' || c == ':' then !lexer.inFlow && !endsWord rest
  else !isSpace c && !isIndicator c

def token? (lexer : Lexer) : List Glyph → Option (Lexer × List Glyph)
  | [] => none
  | glyph :: rest =>
    let isAlone := lexer.inFlow || endsWord rest
    let place := glyph.place
    match glyph.char with
    | '\x7b' => (lexer.openBrace? place).map fun lexer => (lexer, rest)
    | '\x7d' => lexer.closeBrace?.map fun lexer => (lexer, rest)
    | ',' => lexer.comma?.map fun lexer => (lexer, rest)
    | '*' =>
      (anchorName? rest).bind fun (name, rest) =>
        (lexer.unit? place (.reuse name)).map fun lexer => (lexer, rest)
    | '&' =>
      (anchorName? rest).bind fun (name, rest) =>
        (lexer.unit? place (.anchor name)).map fun lexer => (lexer, rest)
    | '!' =>
      (tag? lexer.inFlow rest).bind fun (tag, rest) =>
        (lexer.unit? place (.tag tag)).map fun lexer => (lexer, rest)
    | '\'' => lexer.quoted? place (singleQuoted? rest)
    | '"' => lexer.quoted? place (doubleQuoted? none rest)
    | '|' => if lexer.inFlow then none else lexer.block? true rest
    | '>' => if lexer.inFlow then none else lexer.block? false rest
    | c =>
      if c == '?' && isAlone then (lexer.key? place).map fun lexer => (lexer, rest)
      else if c == ':' && isAlone then (lexer.value? place).map fun lexer => (lexer, rest)
      else if lexer.beginsPlain c rest then lexer.plainScalar? place (glyph :: rest)
      else none

/-- The token at the start of a text, which may be one that stands only at the start of a line. -/
def lineToken? (lexer : Lexer) (text : List Glyph) : Option (Lexer × List Glyph) :=
  match text with
  | [] => none
  | glyph :: rest =>
    if glyph.place.column == 0 && glyph.char == '%' then
      (directive? rest).bind fun (token, rest) =>
        (lexer.outermost? token).map fun lexer => (lexer, rest)
    else if isDocumentMark text then
      let token := if glyph.char == '-' then Token.documentStart else Token.documentEnd
      (lexer.outermost? token).map fun lexer => (lexer, text.drop 3)
    else lexer.token? text

/--
The text without white space, comments and line breaks at its start, and whether a key may
stand there.  Outside braces a line break allows one, and where one may stand no tab does.
A mark of the byte order may begin a line.
-/
def skipSpace (inFlow : Bool) : (mayBeKey inComment : Bool) → List Glyph → Bool × List Glyph
  | mayBeKey, _, [] => (mayBeKey, [])
  | mayBeKey, inComment, glyph :: rest =>
    if isBreak glyph.char then skipSpace inFlow (mayBeKey || !inFlow) false rest
    else if inComment then skipSpace inFlow mayBeKey true rest
    else if glyph.char == '#' then skipSpace inFlow mayBeKey true rest
    else if glyph.char == ' ' || (glyph.char == '\t' && (inFlow || !mayBeKey)) ||
        (glyph.char == '\ufeff' && glyph.place.column == 0) then
      skipSpace inFlow mayBeKey false rest
    else (mayBeKey, glyph :: rest)

def tokensWithin? : (fuel : Nat) → Lexer → List Glyph → Option (List Token)
  | 0, _, _ => none
  | fuel + 1, lexer, text =>
    let (mayBeKey, text) := skipSpace lexer.inFlow lexer.mayBeKey false text
    let lexer := { lexer with mayBeKey }
    match text with
    | [] => (lexer.closeFrom 0).dropCandidate?.map fun lexer => lexer.tokens.toList
    | glyph :: rest =>
      (lexer.expire? glyph.place).bind fun lexer =>
        ((lexer.closeFrom (glyph.place.column + 1)).lineToken? (glyph :: rest)).bind
          fun (lexer, rest) => tokensWithin? fuel lexer rest

end Lexer

def tokens? (text : List Char) : Option (List Token) :=
  (glyphs? text).bind fun glyphs => Lexer.tokensWithin? (glyphs.length + 1) .start glyphs

end HomeControl.Yaml
