import InvocationRouting.Log.Event
import InvocationRouting.Settings.Environment

/-!
# Log.Setup — which events are written, and how

The environment variables decide how much is logged and in which format. Logging starts once; where
another logger is present, that one is used and receives everything.

- `LogSetup.ofEnvironment` : what the variables say;
- `LogSetup.events` : the events that a sequence of calls brings about;
- `LogSetup.writes` : is an event written?
-/

namespace InvocationRouting

structure LogSetup where
  environment : String
  level : LogLevel
  /-- Are lines written as records, with named fields, rather than as text? -/
  records : Bool
  /-- Was another logger present before? -/
  foreign : Bool

inductive LogCall where
  | start
  | report (event : Event)

namespace LogSetup

/-- The variables that name the environment, the more important one first. -/
def environmentVariables : List String :=
  ["ROUTE_RESOLVER_ENV", "APP_ENV"]

def formatVariable : String := "ROUTE_RESOLVER_LOG_FORMAT"

def recordFormat : String := "json"

def environmentName (environment : Environment) : String :=
  (environmentVariables.findSome? environment.get?).getD "development"

def levelOf (name : String) : LogLevel :=
  if name = "production" then .info else .debug

/-- Do the variables ask for records? The case of ASCII letters does not matter. -/
def wantsRecords (environment : Environment) : Bool :=
  match environment.get? formatVariable with
  | some format => format.toLower == recordFormat
  | none => false

def ofEnvironment (environment : Environment) (foreign : Bool) : LogSetup :=
  let name := environmentName environment
  ⟨name, levelOf name, wantsRecords environment, foreign⟩

def startEvents (setup : LogSetup) : List Event :=
  (if setup.foreign then [.loggingPresent] else []) ++
    [.loggingStarted setup.environment setup.level setup.records]

/-- The events that calls bring about, where `started` tells whether logging has started. Without
another logger, nothing is noted before the start. -/
def eventsFrom (setup : LogSetup) (started : Bool) : List LogCall → List Event
  | [] => []
  | .start :: rest =>
      (if started then [] else setup.startEvents) ++ setup.eventsFrom true rest
  | .report event :: rest =>
      (if started || setup.foreign then [event] else []) ++ setup.eventsFrom started rest

def events (setup : LogSetup) (calls : List LogCall) : List Event :=
  setup.eventsFrom false calls

/-- The level of a line. Spans are not written. -/
def lineLevel? : LogEntry → Option LogLevel
  | .event level _ _ => some level
  | .span _ _ => none

/-- Is an event written? Another logger takes every event, whatever its level. -/
def writes (setup : LogSetup) (event : Event) : Bool :=
  match lineLevel? event.entry with
  | some level => setup.foreign || setup.level.rank ≤ level.rank
  | none => false

end LogSetup
end InvocationRouting
