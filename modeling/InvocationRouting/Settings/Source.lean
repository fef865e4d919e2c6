import InvocationRouting.Settings.Environment
import InvocationRouting.Settings.Ini
import InvocationRouting.Settings.Json5
import InvocationRouting.Settings.Ron
import InvocationRouting.Settings.Toml
import InvocationRouting.Settings.Yaml
import InvocationRouting.Value.Json.Reader

/-!
# Settings.Source — settings from a file under the environment

- `SourceFormat` : the formats of files, which their extensions tell;
- `SourceFile.find?` : the file that is meant by a name, which may lack its extension;
- `Settings.load` : the settings of a file, if there is one, with environment variables over them.
-/

namespace InvocationRouting

inductive SourceFormat where
  | toml
  | json
  | yaml
  | ini
  | ron
  | json5
  deriving DecidableEq

namespace SourceFormat

def extensions : List (String × SourceFormat) :=
  [("toml", toml), ("json", json), ("yaml", yaml), ("yml", yaml), ("ini", ini), ("ron", ron),
    ("json5", json5)]

/-- The extension of a file name: what follows its last point, unless the name starts with that
point. -/
def extension (name : String) : String :=
  match (name.splitOn ".").reverse with
  | last :: stem :: rest => if stem.isEmpty && rest.isEmpty then "" else last
  | _ => ""

def ofName? (name : String) : Option SourceFormat :=
  extensions.lookup (extension name)

end SourceFormat

/-- A file with its text. -/
structure SourceFile where
  name : String
  text : String

namespace SourceFile

def named? (files : List SourceFile) (name : String) : Option SourceFile :=
  files.find? fun file => file.name == name

/-- The file that is meant by a name, with its format: the file of that name if its format is known,
and if there is no such file, one whose name has a known extension more. -/
def find? (files : List SourceFile) (name : String) : Option (SourceFile × SourceFormat) :=
  match named? files name with
  | some file => (SourceFormat.ofName? name).map fun format => (file, format)
  | none =>
      SourceFormat.extensions.findSome? fun (extension, format) =>
        (named? files (name ++ "." ++ extension)).map fun file => (file, format)

end SourceFile

mutual

/-- A value as an item. An integer beyond a signed word is taken as a floating-point number. -/
def Item.ofValue : Value → Item
  | .null => .null
  | .bool b => .boolean b
  | .number (.int i) =>
      match i.signed? with
      | some i => .integer i
      | none => .real (.finite (Binary64.ofWordInt i))
  | .number (.float x) => .real (.finite x)
  | .string s => .text s
  | .array _ => .list
  | .object fields => .table (Item.ofFields fields)

def Item.ofFields : List (String × Value) → Entries Item
  | [] => []
  | (name, v) :: rest => (name, Item.ofValue v) :: Item.ofFields rest

end

namespace SourceFile

/-- How many containers of a JSON file may be open at once. -/
def jsonNesting : Nat := 127

def entries? (file : SourceFile) (format : SourceFormat) : Option (Entries Item) := do
  let item ← match format with
    | .toml => Item.ofToml? file.text
    | .json => (Value.ofJson? jsonNesting file.text).map Item.ofValue
    | .yaml => Item.ofYaml? file.text
    | .ini => Item.ofIni? file.text
    | .ron => Item.ofRon? file.text
    | .json5 => Item.ofJson5? file.text
  match item with
  | .table es => some es
  | _ => none

end SourceFile

inductive LoadError where
  /-- A source cannot be read, or an item does not fit its setting. -/
  | unreadable
  | invalid (invalid : InvalidSetting)

namespace Settings

/-- The settings of the entries of sources, each laid over those before it. -/
def ofEntries (entries : Entries Item) : Except LoadError Settings :=
  match ofItem? (entries.foldl Item.setNamed (.table [])) with
  | none => .error .unreadable
  | some settings => settings.validate.mapError .invalid

/-- The settings of a file under environment variables. A file that is not there, or whose format is
not known, is passed over. -/
def load (files : List SourceFile) (name : Option String) (environment : Environment) :
    Except LoadError Settings :=
  match name.bind (SourceFile.find? files) with
  | none => ofEntries environment.entries
  | some (file, format) =>
      match file.entries? format with
      | none => .error .unreadable
      -- Variables come last, and so they are laid over the file.
      | some entries => ofEntries (entries ++ environment.entries)

end Settings
end InvocationRouting
