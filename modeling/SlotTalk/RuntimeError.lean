import SlotTalk.Value

namespace SlotTalk

/-!
# Errors

* `RuntimeError` — the causes; `RuntimeError.message` words them.
* `ErrorReport` — an error with the activations it left, innermost first.
* `Unwind` — everything that can end an evaluation other than by a value.
-/

/-- Why a program cannot go on. -/
inductive RuntimeError where
  | undefinedName (name : String) (location : Option Location)
  | typeMismatch (expected : String) (got : TypeName)
  | outOfBounds (index : Int) (length : Nat)
  | notImplemented (feature : String)
  | tooManyArguments (name : String) (expected given : Nat)
  | divisionByZero
  | stackOverflow (limit : Nat)
  | signalOutsideLoop (signal : String)
  /-- Raised by the program itself. -/
  | exception (value : Value) (text : String)
  deriving Inhabited

namespace RuntimeError

/-- The value is not of the kind that was expected. -/
def mismatch (expected : String) (got : Value) : RuntimeError := .typeMismatch expected got.type

/-- Name of the cause, as handlers see it. -/
def kind : RuntimeError → String
  | .undefinedName .. => "UndefinedName"
  | .typeMismatch .. => "TypeError"
  | .outOfBounds .. => "OutOfBounds"
  | .notImplemented .. => "NotImplemented"
  | .tooManyArguments .. => "TooManyArguments"
  | .divisionByZero => "DivisionByZero"
  | .stackOverflow .. => "StackOverflow"
  | .signalOutsideLoop .. => "LoopSignalOutsideLoop"
  | .exception .. => "Exception"

/-- The wording of the cause. -/
def message : RuntimeError → String
  | .undefinedName name none => s!"undefined name `{name}`"
  | .undefinedName name (some location) => s!"undefined name `{name}` at {location.text}"
  | .typeMismatch expected got => s!"type error: expected {expected}, got {got.text}"
  | .outOfBounds index length => s!"index {index} out of bounds for length {length}"
  | .notImplemented feature => s!"not implemented: {feature}"
  | .tooManyArguments name expected given =>
    s!"`{name}` takes {expected} argument(s) but {given} were supplied"
  | .divisionByZero => "division by zero"
  | .stackOverflow limit => s!"stack depth limit of {limit} exceeded"
  | .signalOutsideLoop signal => s!"`{signal}` outside of a loop"
  | .exception _ text => text

end RuntimeError

/-- An error and the activations it left, innermost first. -/
structure ErrorReport where
  error : RuntimeError
  backtrace : List String := []
  deriving Inhabited

namespace ErrorReport

/-- The error left one more activation. -/
def push (report : ErrorReport) (entry : String) : ErrorReport :=
  { report with backtrace := report.backtrace ++ [entry] }

/-- The wording of the error, and a line for each activation. -/
def render (report : ErrorReport) : String :=
  report.error.message ++ String.join (report.backtrace.map fun entry => "\n    at " ++ entry)

end ErrorReport

/-- How an evaluation ends other than by a value.  Only `failed` is an error; the others carry
    control to the nearest loop or activation. -/
inductive Unwind where
  | failed (report : ErrorReport)
  | broke (value : Option Value)
  | continued
  | returned (value : Value)
  deriving Inhabited

/-- A fresh error, which has not left any activation. -/
def Unwind.ofError (error : RuntimeError) : Unwind := .failed { error }

end SlotTalk
