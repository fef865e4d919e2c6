import InvocationRouting.Settings.Basic
import InvocationRouting.Value.Basic

/-!
# Settings.Strict — settings from values

Settings may be given as an object of values, or as an array of them in the order of the settings.
Nothing is converted: a value of another kind than the setting is refused. Missing settings have
their defaults, and names that belong to no setting are passed over.

- `Settings.ofValue?` : the settings of a value.
-/

namespace InvocationRouting
namespace Settings

def textOfValue? : Value → Option String
  | .string s => some s
  | _ => none

def countOfValue? : Value → Option Nat
  | .number (.int i) => if 0 ≤ i.val then some i.val.toNat else none
  | _ => none

/-- A policy: its name, or an object with that name alone and null under it. -/
def policyOfValue? : Value → Option DefaultPolicy
  | .string s => DefaultPolicy.ofName? s
  | .object [(name, .null)] => DefaultPolicy.ofName? name
  | _ => none

def valueReader : SettingReader Value :=
  ⟨policyOfValue?, textOfValue?, countOfValue?⟩

/-- The settings of a value. An array must not have more elements than there are settings. -/
def ofValue? : Value → Option Settings
  | .object fields => read? valueReader fun setting => Fields.get? fields setting.text
  | .array elements =>
      if elements.length ≤ SettingName.values.length then
        read? valueReader fun setting => (SettingName.values.zip elements).lookup setting
      else
        none
  | _ => none

end Settings
end InvocationRouting
