import HomeControl.Yaml.Token

/-!
# Directives

Lines in front of a document that begin with a percent sign.  One names the version, and
others give a handle for the first part of tags.
-/

namespace HomeControl.Yaml

/-- The number at the start of a text, of at most nine digits, and what follows it. -/
def versionNumber? (text : List Glyph) : Option (Nat × List Glyph) :=
  let digits := (text.takeWhile fun glyph => glyph.char.isDigit).map Glyph.char
  if digits.isEmpty || 9 < digits.length then none
  else some (Nat.ofDigitChars 10 digits 0, text.dropWhile fun glyph => glyph.char.isDigit)

/-- The version that a directive names: two numbers with a point between them. -/
def version? (text : List Glyph) : Option (Token × List Glyph) :=
  (versionNumber? (dropBlanks text)).bind fun (major, rest) =>
    match rest with
    | ⟨'.', _⟩ :: rest =>
      (versionNumber? rest).map fun (minor, rest) => (.version major minor, rest)
    | _ => none

def handle? (text : List Glyph) : Option (List Char × List Glyph) :=
  match text with
  | ⟨'!', _⟩ :: rest =>
    match splitName rest with
    | (name, ⟨'!', _⟩ :: rest) => some ('!' :: name ++ ['!'], rest)
    | (name, rest) => if name.isEmpty then some (['!'], rest) else none
  | _ => none

def tagHandle? (text : List Glyph) : Option (Token × List Glyph) :=
  (handle? (dropBlanks text)).bind fun (handle, rest) =>
    if (rest.head?.map fun glyph => isBlank glyph.char).getD false then
      (someTagBytes? true (dropBlanks rest)).bind fun (expansion, rest) =>
        if endsWord rest then some (.tagHandle handle expansion, rest) else none
    else none

def directive? (text : List Glyph) : Option (Token × List Glyph) :=
  let (name, rest) := splitName text
  let read :=
    if !endsWord rest then none
    else if name = "YAML".toList then version? rest
    else if name = "TAG".toList then tagHandle? rest
    else none
  read.bind fun (token, rest) => (nextLine? rest).map fun following => (token, following)

end HomeControl.Yaml
