import InvocationRouting.Method
import InvocationRouting.Route.Resolved

/-!
# Log.Event — what is worth a line in the log

- `Event` : the things that happen;
- `LogEntry` : an event as it is logged, with a level, a message and named fields, or the opening of
  a span;
- `Event.entry` : the wording of each event.
-/

namespace InvocationRouting

inductive LogLevel where
  | trace
  | debug
  | info
  deriving DecidableEq

namespace LogLevel

/-- The rank of a level; more important levels rank higher. -/
def rank : LogLevel → Nat
  | trace => 0
  | debug => 1
  | info => 2

def name : LogLevel → String
  | trace => "trace"
  | debug => "debug"
  | info => "info"

end LogLevel

inductive LogSource where
  | logging
  | registry
  | resolution
  deriving DecidableEq

/-- Something that was done to the dispatch cache. Parts that are not known are left out. -/
structure CacheOperation where
  operation : String
  method : String
  handler : Option String
  action : Option String
  status : String
  details : Option String

inductive Event where
  /-- Logging starts in an environment, at a level, in the format of records or of text. -/
  | loggingStarted (environment : String) (level : LogLevel) (records : Bool)
  /-- Logging was started elsewhere before. -/
  | loggingPresent
  | actionRegistered (handler action : String) (method : Method)
  | endpointRegistered (name : String)
  | cacheHit (method : Method)
  /-- The descriptors, so many, are searched for a method. -/
  | cacheScan (method : Method) (descriptors : Nat)
  | cacheOperation (operation : CacheOperation)
  | argumentEvaluated (parameter kind : String)
  | handlerDiffers (method : Method) (invoked : HandlerType)
  /-- A resolution starts; what follows belongs to it. -/
  | resolutionStarted (handler : HandlerType)
  | resolved (method : Method) (route : Route)

inductive LogEntry where
  | event (level : LogLevel) (message : String) (fields : List (String × Value))
  | span (name : String) (fields : List (String × Value))

namespace Event

def textField (name text : String) : String × Value :=
  (name, .string text)

def optionalField (name : String) (text : Option String) : List (String × Value) :=
  (text.map (textField name)).toList

def countField (name : String) (count : Nat) : String × Value :=
  (name, (Value.ofInt? count).getD .null)

def entry : Event → LogEntry
  | loggingStarted environment level records =>
      .event .info "STRUCTURED LOGGING: Initialized"
        [textField "environment" environment, textField "log_level" level.name,
          ("json", .bool records)]
  | loggingPresent =>
      .event .debug
        "Global tracing subscriber already initialized - continuing with existing subscriber" []
  | actionRegistered handler action method =>
      .event .debug "Registering handler action"
        [textField "handler" handler, textField "action" action, textField "method" method.display]
  | endpointRegistered name =>
      .event .debug "Registering endpoint" [textField "endpoint" name]
  | cacheHit method =>
      .event .trace "Dispatch target cache hit" [textField "method" method.display]
  | cacheScan method descriptors =>
      .event .debug "Scanning descriptors for dispatch target"
        [textField "method" method.display, countField "descriptors" descriptors]
  | cacheOperation operation =>
      .event .info "DISPATCH_CACHE_OPERATION"
        ([textField "operation" operation.operation, textField "method" operation.method] ++
          optionalField "handler" operation.handler ++ optionalField "action" operation.action ++
          [textField "status" operation.status] ++ optionalField "details" operation.details)
  | argumentEvaluated parameter kind =>
      .event .trace "Evaluating non-constant argument"
        [textField "parameter" parameter, textField "node" kind]
  | handlerDiffers method invoked =>
      .event .debug "Invocation handler type differs from the method's declaring type"
        [textField "method" method.display, textField "invocation_handler" invoked.typeName,
          textField "declaring_handler" method.declaringType.typeName]
  | resolutionStarted handler =>
      .span "resolve" [textField "handler" handler.typeName]
  | resolved method route =>
      .event .debug "Resolved invocation"
        [textField "method" method.display, textField "route" route.display]

def source : Event → LogSource
  | loggingStarted .. | loggingPresent | cacheOperation _ => .logging
  | actionRegistered .. | endpointRegistered _ | cacheHit _ | cacheScan .. => .registry
  | argumentEvaluated .. | handlerDiffers .. | resolutionStarted _ | resolved .. => .resolution

end Event
end InvocationRouting
