import InvocationRouting.Route.Resolved
import InvocationRouting.Text.Blank

/-!
# Settings — how routes are resolved

- `DefaultPolicy` : which registered defaults a route takes over;
- `Settings` : the policy, the three reserved keys and the limit on the nesting of arguments;
- `Settings.read?` : the settings that a source gives, whatever its values are;
- `Settings.validate` : the first fault of the settings, if there is one.
-/

namespace InvocationRouting

/-- Which default route values are taken over where a route has none. -/
inductive DefaultPolicy where
  /-- All but those under the handler key and the action key. -/
  | all
  /-- Only the one under the area key. -/
  | areaOnly
  /-- None at all. -/
  | none
  deriving DecidableEq

namespace DefaultPolicy

/-- All policies. -/
def values : List DefaultPolicy := [all, areaOnly, none]

def name : DefaultPolicy → String
  | all => "all"
  | areaOnly => "area_only"
  | none => "none"

def ofName? (s : String) : Option DefaultPolicy :=
  values.find? fun policy => policy.name == s

end DefaultPolicy

structure Settings where
  policy : DefaultPolicy
  /-- The key of constraints that replace the handler name. -/
  handlerKey : String
  /-- The key of constraints that replace the action name. -/
  actionKey : String
  /-- The key of the default that is taken over even if others are not. -/
  areaKey : String
  /-- How deeply an argument may be nested. -/
  depthLimit : Nat
  deriving DecidableEq

inductive SettingName where
  | policy
  | handlerKey
  | actionKey
  | areaKey
  | depthLimit
  deriving DecidableEq

namespace SettingName

def values : List SettingName := [policy, handlerKey, actionKey, areaKey, depthLimit]

def text : SettingName → String
  | policy => "default_value_policy"
  | handlerKey => "handler_route_key"
  | actionKey => "action_route_key"
  | areaKey => "area_route_key"
  | depthLimit => "max_expression_depth"

end SettingName

inductive SettingFault where
  | emptyKey
  /-- Another setting has the same key. -/
  | collision (other : SettingName)
  | noDepth
  deriving DecidableEq

def SettingFault.reason : SettingFault → String
  | emptyKey => "route key must not be empty"
  | collision other => "route key collides with " ++ other.text
  | noDepth => "depth limit must be greater than 0"

structure InvalidSetting where
  setting : SettingName
  value : String
  fault : SettingFault
  deriving DecidableEq

def InvalidSetting.message (invalid : InvalidSetting) : String :=
  "Invalid value '" ++ invalid.value ++ "' for field '" ++ invalid.setting.text ++ "': " ++
    invalid.fault.reason

/-- How the values of a source are read; `none` refuses a value. -/
structure SettingReader (α : Type) where
  policy? : α → Option DefaultPolicy
  key? : α → Option String
  count? : α → Option Nat

namespace Settings

def default : Settings where
  policy := .all
  handlerKey := ReservedKeys.handler
  actionKey := ReservedKeys.action
  areaKey := ReservedKeys.area
  depthLimit := 64

instance : Inhabited Settings := ⟨default⟩

/-! ## Settings from a source -/

/-- A setting as a source gives it, or its default where the source gives none. -/
def orDefault {α β : Type} (read : α → Option β) (given : Option α) (default : β) : Option β :=
  match given with
  | some a => read a
  | none => some default

/-- The settings that a source gives, where `find` is the source and `reader` reads its values. -/
def read? {α : Type} (reader : SettingReader α) (find : SettingName → Option α) :
    Option Settings := do
  let policy ← orDefault reader.policy? (find .policy) default.policy
  let handlerKey ← orDefault reader.key? (find .handlerKey) default.handlerKey
  let actionKey ← orDefault reader.key? (find .actionKey) default.actionKey
  let areaKey ← orDefault reader.key? (find .areaKey) default.areaKey
  let depthLimit ← orDefault reader.count? (find .depthLimit) default.depthLimit
  return ⟨policy, handlerKey, actionKey, areaKey, depthLimit⟩

/-! ## Faults -/

/-- The three reserved keys with their settings. -/
def reservedKeys (settings : Settings) : List (SettingName × String) :=
  [(.handlerKey, settings.handlerKey), (.actionKey, settings.actionKey),
    (.areaKey, settings.areaKey)]

/-- The first key without a visible character. -/
def firstEmpty? (keys : List (SettingName × String)) : Option InvalidSetting :=
  (keys.find? fun key => Blank.isBlankText key.2).map fun key => ⟨key.1, key.2, .emptyKey⟩

/-- The first key that a later one repeats, where the lowercase forms of the texts are compared. -/
def firstCollision? : List (SettingName × String) → Option InvalidSetting
  | [] => none
  | key :: rest =>
      match rest.find? fun other => Casing.lowercase other.2 == Casing.lowercase key.2 with
      | some other => some ⟨key.1, key.2, .collision other.1⟩
      | none => firstCollision? rest

def depthFault? (settings : Settings) : Option InvalidSetting :=
  if settings.depthLimit = 0 then some ⟨.depthLimit, "0", .noDepth⟩ else none

/-- The first fault: a key without a visible character, two keys that collide, or a limit that
admits nothing. -/
def fault? (settings : Settings) : Option InvalidSetting :=
  firstEmpty? settings.reservedKeys |>.or (firstCollision? settings.reservedKeys)
    |>.or settings.depthFault?

def validate (settings : Settings) : Except InvalidSetting Settings :=
  match settings.fault? with
  | some invalid => .error invalid
  | none => .ok settings

end Settings
end InvocationRouting
