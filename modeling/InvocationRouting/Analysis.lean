import InvocationRouting.Error
import InvocationRouting.Evaluation.Basic
import InvocationRouting.Log.Event

/-!
# Analysis — the method and the argument values of an invocation

The body of an invocation must be a method call with a receiver and with as many arguments as the
method has parameters. Arguments are evaluated in order, and those that are null are dropped; the
others keep their positions.

- `ArgumentValue` : an argument that is not null, `ArgumentValue.same` : equality of arguments;
- `Analysis` : a method and its argument values, `Analysis.parameterNames` : its declared names;
- `Expr.analyze` : the analysis of a body;
- `Invocation.analyze` : the same, which also notes a method of another type than the invocation's.
-/

namespace InvocationRouting

/-- What happens while an invocation is worked on. -/
inductive Occurrence where
  | ran (computation : Deferred)
  | logged (event : Event)

namespace Occurrence

def computation? : Occurrence → Option Deferred
  | ran computation => some computation
  | logged _ => none

def event? : Occurrence → Option Event
  | ran _ => none
  | logged event => some event

end Occurrence

/-- The value of an argument that is not null, at a position and for a declared parameter. -/
structure ArgumentValue where
  position : Nat
  parameter : String
  value : Value

def ArgumentValue.same (a b : ArgumentValue) : Bool :=
  a.position == b.position && a.parameter == b.parameter && a.value.same b.value

instance : BEq ArgumentValue := ⟨ArgumentValue.same⟩

/-- The invoked method and its argument values, in order of their positions. -/
structure Analysis where
  method : Method
  arguments : List ArgumentValue

/-- The declared names of all parameters, also of those whose arguments are null. -/
def Analysis.parameterNames (analysis : Analysis) : List String :=
  analysis.method.parameterNames

namespace Expr

/-- The value of one argument. A constant is taken as it is; all else is evaluated. -/
def argumentValue (limit : Nat) (declared : Parameter) (argument : Expr) :
    Traced Occurrence EvaluationError Value :=
  match argument with
  | constant value => .done value
  | other =>
      (Traced.note (.logged (.argumentEvaluated declared.name other.kind))).andThen fun _ =>
        (other.evaluate limit).mapTrace .ran

/-- The values of arguments from a position on, paired with their parameters. -/
def argumentValues (limit : Nat) (position : Nat) :
    List Parameter → List Expr → Traced Occurrence EvaluationError (List ArgumentValue)
  | declared :: parameters, argument :: arguments =>
      (argumentValue limit declared argument).andThen fun value =>
        (argumentValues limit (position + 1) parameters arguments).map fun values =>
          if value.isNull then values else ⟨position, declared.name, value⟩ :: values
  | _, _ => .done []

def noCallReason (body : Expr) : String :=
  "expected a method call on the handler, found " ++ body.kind

/-- Why a call with another number of arguments than parameters has no analysis. -/
def arityReason (method : Method) (arguments : List Expr) : String :=
  method.display ++ " declares " ++ toString method.arity ++
    " parameter(s) but the call passes " ++ toString arguments.length ++ " argument(s)"

def analyze (limit : Nat) (body : Expr) : Traced Occurrence ResolveError Analysis :=
  match body with
  | call none method _ => .fail (.staticInvocation method)
  | call (some _) method arguments =>
      if method.arity = arguments.length then
        ((argumentValues limit 0 method.parameters arguments).mapError .evaluation).map
          fun values => ⟨method, values⟩
      else
        .fail (.invalidShape (arityReason method arguments))
  | other => .fail (.invalidShape other.noCallReason)

end Expr

/-- The analysis of an invocation. The type of the invocation does not matter to the result; a
method of another type is only noted. -/
def Invocation.analyze (limit : Nat) (invocation : Invocation) :
    Traced Occurrence ResolveError Analysis :=
  (invocation.body.analyze limit).andThen fun analysis =>
    if analysis.method.declaringType == invocation.handler then
      .done analysis
    else
      (Traced.note (.logged (.handlerDiffers analysis.method invocation.handler))).map
        fun _ => analysis

end InvocationRouting
