import HomeControl.Text.Blank
import HomeControl.Text.Decimal
import HomeControl.Text.Fields
import HomeControl.Text.Quoted

/-!
# Points

A point is one input or output of one board of the stack, written `(board,index)`.
Reading allows white space around the whole, and around either number.
-/

namespace HomeControl

structure Point where
  board : UInt8
  index : UInt8
  deriving DecidableEq, Repr

/-- Why a text is no address; each cause carries the whole text. -/
inductive AddressError where
  | unenclosed (text : String)
  | missingComma (text : String)
  | board (text : String)
  | index (text : String)
  deriving DecidableEq, Repr

namespace AddressError

def message : AddressError → String
  | unenclosed text => "address " ++ Text.quote text ++ " is not in (board,index) form"
  | missingComma text => "address " ++ Text.quote text ++ " is missing a comma"
  | board text => "board in " ++ Text.quote text ++ " is not a 0-255 number"
  | index text => "index in " ++ Text.quote text ++ " is not a 0-255 number"

end AddressError

namespace Point

/-- What stands between an opening and a closing bracket at the two ends. -/
def enclosed? : List Char → Option (List Char)
  | '(' :: rest => if rest.getLast? = some ')' then some rest.dropLast else none
  | _ => none

def coordinate? (digits : List Char) : Option UInt8 :=
  Text.readByte? (Text.trim (String.ofList digits))

def ofText (text : String) : Except AddressError Point :=
  match enclosed? (Text.trim text).toList with
  | none => .error (.unenclosed text)
  | some inner =>
    match Text.cutList? ',' inner with
    | none => .error (.missingComma text)
    | some (board, index) =>
      match coordinate? board with
      | none => .error (.board text)
      | some board =>
        match coordinate? index with
        | none => .error (.index text)
        | some index => .ok ⟨board, index⟩

def text (point : Point) : String :=
  "(" ++ toString point.board.toNat ++ "," ++ toString point.index.toNat ++ ")"

end Point

end HomeControl
