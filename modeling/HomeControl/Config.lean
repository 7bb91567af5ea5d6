import HomeControl.Attributes
import HomeControl.Text.Uppercase
import HomeControl.Yaml.Document

/-!
# Configuration files

A configuration gives every controller of a house its attributes: a block of named texts
under the name of the controller in upper case.
-/

namespace HomeControl

abbrev Config := OrderedMap Attributes

namespace Config

/-- The kinds of scalars that are numbers, truth values or nothing. -/
def nonTextKinds : List (List UInt8) :=
  ["tag:yaml.org,2002:int", "tag:yaml.org,2002:float", "tag:yaml.org,2002:bool",
    "tag:yaml.org,2002:null"].map fun name => Text.utf8 name.toList

/-- The text that a scalar is; every kind but those of no texts makes a text of it. -/
def scalarText? (properties : Yaml.Properties) (scalar : Yaml.Scalar) : Option String :=
  match properties.kind with
  | .unsaid => scalar.text?
  | .own => none
  | .shared name =>
    if nonTextKinds.contains name then none else some (String.ofList scalar.content)

def text? (document : Yaml.Document) (node : Yaml.Node) : Option String :=
  match document.meant? node with
  | some (.scalar properties scalar) => scalarText? properties scalar
  | _ => none

/-- The name of a block, which is one as it is written. -/
def name? (document : Yaml.Document) (node : Yaml.Node) : Option String :=
  match document.meant? node with
  | some (.scalar _ scalar) => some (String.ofList scalar.content)
  | _ => none

def attribute? (document : Yaml.Document) (entry : Yaml.Node × Yaml.Node) :
    Option (String × String) :=
  match text? document entry.1, text? document entry.2 with
  | some key, some value => some (key, value)
  | _, _ => none

def attributes? (document : Yaml.Document) (node : Yaml.Node) : Option Attributes :=
  match document.meant? node with
  | some (.mapping properties entries) =>
    if properties.kind = .own then none
    else (entries.mapM (attribute? document)).map OrderedMap.ofList
  | _ => none

def namedBlock? (document : Yaml.Document) (entry : Yaml.Node × Yaml.Node) :
    Option (String × Attributes) :=
  match name? document entry.1, attributes? document entry.2 with
  | some name, some attributes => some (name, attributes)
  | _, _ => none

/-- The configuration that a document stands for; one in which nothing is written is empty. -/
def ofDocument? (document : Yaml.Document) : Option Config :=
  match document.root with
  | none => some OrderedMap.empty
  | some (.scalar _ scalar) => if scalar.isEmpty then some OrderedMap.empty else none
  | some (.mapping _ entries) =>
    if document.reusesTooOften entries then none
    else (entries.mapM (namedBlock? document)).map OrderedMap.ofList
  | some (.reuse _) => none

def ofText? (text : String) : Option Config :=
  (Yaml.Document.ofText? text.toList).bind ofDocument?

def block? (config : Config) (name : String) : Option Attributes := config.get? (Text.upper name)

/-- The attributes of a controller, none if it has no block. -/
def attributesOf (config : Config) (name : String) : Attributes :=
  (config.block? name).getD OrderedMap.empty

/-- What a configuration file gives a controller: nothing if it is missing or no configuration. -/
def source (file : Option String) (name : String) : Option Attributes :=
  (file.bind ofText?).map fun config => config.attributesOf name

end Config

end HomeControl
