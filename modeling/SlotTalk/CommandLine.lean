import SlotTalk.Decimal.Reading
import SlotTalk.Demo
import SlotTalk.Host
import SlotTalk.LogFilter

namespace SlotTalk

/-!
# The command line

* `Options.ofArguments` — what the arguments ask for, or why they are refused.
* `CommandLine.run` — the whole command: exit code and both outputs.
-/

/-- What the arguments ask for. -/
structure Options where
  demo : Option Demo := none
  legacyNumbers : Bool := false
  maxDepth : Option Nat := none
  logLevel : Option String := none
  list : Bool := false

namespace Options

/-- Flags stand alone, the other options take a value. -/
inductive Key where
  | demo | legacyNumbers | maxDepth | logLevel | list
  deriving DecidableEq, Repr

/-- The option of a word without its dashes. -/
def Key.ofName? : String → Option Key
  | "demo" => some .demo
  | "legacy-numbers" => some .legacyNumbers
  | "max-depth" => some .maxDepth
  | "log-level" => some .logLevel
  | "list" => some .list
  | _ => none

def Key.isFlag : Key → Bool
  | .legacyNumbers | .list => true
  | _ => false

/-- A number of activations: digits, with or without a plus sign, in sixty-four bits. -/
def readDepth? (text : String) : Option Nat :=
  match text.toList with
  | '-' :: _ => none
  | digits =>
    match Numeral.readInt? digits with
    | some n => if n.toNat < twoTo 64 then some n.toNat else none
    | none => none

/-- Record a flag; no option is accepted twice. -/
def setFlag (options : Options) : Key → Except String Options
  | .legacyNumbers =>
    if options.legacyNumbers then .error "--legacy-numbers is given twice"
    else .ok { options with legacyNumbers := true }
  | .list =>
    if options.list then .error "--list is given twice" else .ok { options with list := true }
  | _ => .error "a value is missing"

/-- Record the value of an option; no option is accepted twice. -/
def setValue (options : Options) (key : Key) (value : String) : Except String Options :=
  match key with
  | .demo =>
    match Demo.ofName? value, options.demo with
    | some demo, none => .ok { options with demo := some demo }
    | some _, some _ => .error "--demo is given twice"
    | none, _ => .error s!"there is no demo named {value}"
  | .maxDepth =>
    match readDepth? value, options.maxDepth with
    | some depth, none => .ok { options with maxDepth := some depth }
    | some _, some _ => .error "--max-depth is given twice"
    | none, _ => .error s!"{value} is not a depth"
  | .logLevel =>
    match options.logLevel with
    | none => .ok { options with logLevel := some value }
    | some _ => .error "--log-level is given twice"
  | .legacyNumbers | .list => .error s!"unexpected value {value}"

/-- An argument split at its first equals sign. -/
def splitValue (argument : List Char) : String × Option String :=
  let name := String.ofList (argument.takeWhile (· ≠ '='))
  match argument.dropWhile (· ≠ '=') with
  | [] => (name, none)
  | _ :: value => (name, some (String.ofList value))

/-- The word can stand as the value of the option before it: it is no option itself. -/
def isOperand (argument : String) : Bool := argument == "-" || !argument.startsWith "-"

/-- Read the arguments from left to right. -/
def read (options : Options) : List String → Except String Options
  | [] => .ok options
  | argument :: rest =>
    match argument.toList with
    | ['-', '-'] => if rest.isEmpty then .ok options else .error "an argument is left over"
    | '-' :: '-' :: body =>
      let (name, value) := splitValue body
      match Key.ofName? name, value with
      | none, _ => .error s!"unknown option {argument}"
      | some key, some value => do
        let options ← options.setValue key value
        options.read rest
      | some key, none =>
        if key.isFlag then do
          let options ← options.setFlag key
          options.read rest
        else
          match rest with
          | value :: rest =>
            if isOperand value then do
              let options ← options.setValue key value
              options.read rest
            else .error "a value is missing"
          | [] => .error "a value is missing"
    | _ => .error s!"unexpected argument {argument}"

/-- What the arguments ask for, or why they are refused. -/
def ofArguments (arguments : List String) : Except String Options := ({} : Options).read arguments

/-- The settings of the engine that runs the demo. -/
def config (options : Options) : Config where
  numberFormat := if options.legacyNumbers then .legacy else .plain
  maxDepth := options.maxDepth.getD 256

end Options

/-- What a command leaves behind. -/
structure Outcome where
  code : Nat := 0
  stdout : String := ""
  stderr : String := ""

namespace CommandLine

/-- A line for each demo, the names filled up to ten characters. -/
def listing : String :=
  String.join <| Demo.all.map fun demo =>
    demo.name.pushn ' ' (10 - demo.name.length) ++ " " ++ demo.description ++ "\n"

/-- Run a demo in a new engine. -/
def runDemo (options : Options) (fuel : Nat) : Option Outcome :=
  let program := (options.demo.getD .counter).program
  ((Engine.new options.config).run fuel program).map fun (outcome, engine) =>
    match outcome with
    | .ok value => { stdout := engine.output ++ "=> " ++ engine.display value ++ "\n" }
    | .error report =>
      { code := 1, stdout := engine.output, stderr := "Error: " ++ report.render ++ "\n" }

/-- What is told about the log filter before anything else is done. -/
def filterWarnings (options : Options) : String :=
  match options.logLevel with
  | some filter => String.join ((LogFilter.read filter).2.map LogFilter.Fault.warning)
  | none => ""

/-- The whole command; `none` if the fuel is not enough. -/
def run (arguments : List String) (fuel : Nat) : Option Outcome :=
  match Options.ofArguments arguments with
  | .error reason => some { code := 2, stderr := "error: " ++ reason ++ "\n" }
  | .ok options =>
    (if options.list then some { stdout := listing } else runDemo options fuel).map fun outcome =>
      { outcome with stderr := filterWarnings options ++ outcome.stderr }

end CommandLine

end SlotTalk
