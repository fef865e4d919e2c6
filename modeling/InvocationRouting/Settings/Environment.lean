import InvocationRouting.Settings.Item

/-!
# Settings.Environment — settings from environment variables

- `Environment` : variables with their values;
- `Environment.entries` : the variables that are meant as settings, as entries of a source. Their
  names start with the words of `Environment.settingMark` in any case, and two underscores in the
  rest of a name lead into a table.
-/

namespace InvocationRouting

/-- Variables in the order in which they were first set. -/
structure Environment where
  assignments : Entries String

namespace Environment

def set (environment : Environment) (name value : String) : Environment :=
  ⟨Entries.upsert name value environment.assignments⟩

def ofList (assignments : Entries String) : Environment :=
  assignments.foldl (fun environment entry => environment.set entry.1 entry.2) ⟨[]⟩

def get? (environment : Environment) (name : String) : Option String :=
  environment.assignments.lookup name

/-- What the names of variables that are meant as settings start with. -/
def settingMark : String := "ROUTE_RESOLVER_"

/-- The name of a setting with points for pairs of underscores. -/
def pathOf : List Char → List Char
  | '_' :: '_' :: rest => '.' :: pathOf rest
  | c :: rest => c :: pathOf rest
  | [] => []

def entry? (assigned : String × String) : Option (String × Item) :=
  let name := (Casing.lowercase assigned.1).toList
  let mark := (Casing.lowercase settingMark).toList
  if mark.isPrefixOf name then
    some (String.ofList (pathOf (name.drop mark.length)), .text assigned.2)
  else
    none

/-- The variables that are meant as settings. -/
def entries (environment : Environment) : Entries Item :=
  environment.assignments.filterMap entry?

end Environment
end InvocationRouting
