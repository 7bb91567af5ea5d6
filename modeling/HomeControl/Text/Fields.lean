/-!
# Fields of a line

Texts are built from fields with a separator between them.  `fields` gives the fields
of a text, `cut?` the parts before and after the first separator, and `padRight`
lays a field out in a column.
-/

namespace HomeControl.Text

/-- The fields of a text, one more than it has separators. -/
def fields (separator : Char) (text : String) : List String :=
  (text.toList.splitOn separator).map String.ofList

def join (separator : String) (parts : List String) : String :=
  String.intercalate separator parts

def cutList? (separator : Char) (text : List Char) : Option (List Char × List Char) :=
  match text.dropWhile (· != separator) with
  | [] => none
  | _ :: rest => some (text.takeWhile (· != separator), rest)

def cut? (separator : Char) (text : String) : Option (String × String) :=
  (cutList? separator text.toList).map fun (before, after) =>
    (String.ofList before, String.ofList after)

/-- The text in a column of the given width, counted in code points; a longer text is kept. -/
def padRight (width : Nat) (text : String) : String :=
  text ++ String.ofList (List.replicate (width - text.length) ' ')

end HomeControl.Text
