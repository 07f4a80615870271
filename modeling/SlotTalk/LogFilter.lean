import SlotTalk.Pattern
import SlotTalk.Text.Blank

namespace SlotTalk

/-!
# Log filters

A filter is written as directives between commas, each a level (`debug`), a module (`send`) or a
module with its level (`send=trace`), and after a slash there may be a pattern that the messages
must match.  What cannot be read is left out with a warning.

* `LogFilter.read` — the directives of a text, and what was left out.
* `LogFilter.Fault.warning` — how a fault is told.
-/

/-- How much is logged; each level takes in the ones before it. -/
inductive LogLevel where
  | off | error | warn | info | debug | trace
  deriving DecidableEq, Repr

/-- The level of a name, whatever the case of its letters. -/
def LogLevel.ofName? (name : List Char) : Option LogLevel :=
  match String.ofList (name.map Char.toLower) with
  | "off" => some .off
  | "error" => some .error
  | "warn" => some .warn
  | "info" => some .info
  | "debug" => some .debug
  | "trace" => some .trace
  | _ => none

/-- How much the modules below the target log, or all modules if there is none. -/
structure LogDirective where
  target : Option String
  level : LogLevel
  deriving DecidableEq, Repr

/-- The directives in the order they are written, and the pattern for messages. -/
structure LogFilter where
  directives : List LogDirective := []
  pattern : Option String := none
  deriving DecidableEq, Repr

namespace LogFilter

/-- Why something was left out of a filter. -/
inductive Fault where
  | tooManySlashes (filter : String)
  | unreadable (directive : String)
  | refused (pattern : String) (fault : Pattern.Fault)
  deriving DecidableEq, Repr

/-- The line that tells a fault. -/
def Fault.warning : Fault → String
  | .tooManySlashes filter =>
    s!"warning: invalid logging spec '{filter}' (too many '/'s), ignoring it\n"
  | .unreadable directive => s!"warning: invalid logging spec '{directive}', ignoring it\n"
  | .refused pattern fault =>
    "warning: invalid regex filter - " ++ fault.text pattern ++ ", ignoring it\n"

/-- The pieces between the separators; a text without one is a single piece. -/
def pieces (separator : Char) : List Char → List (List Char)
  | [] => [[]]
  | c :: rest =>
    if c = separator then [] :: pieces separator rest
    else
      match pieces separator rest with
      | [] => [[c]]
      | piece :: more => (c :: piece) :: more

/-- Read one directive.  A word that is no level names a module, which then logs all it can; an
    equals sign with nothing after it says the same. -/
def readDirective (text : List Char) : Except Fault LogDirective :=
  match pieces '=' text with
  | [word] =>
    match LogLevel.ofName? word with
    | some level => .ok { target := none, level }
    | none => .ok { target := some (String.ofList word), level := .trace }
  | [target, word] =>
    let target := some (String.ofList target)
    let word := Text.strip word
    if word.isEmpty then .ok { target, level := .trace }
    else
      match LogLevel.ofName? word with
      | some level => .ok { target, level }
      | none => .error (.unreadable (String.ofList word))
  | _ => .error (.unreadable (String.ofList text))

/-- Read the directives one after the other; empty ones say nothing. -/
def readDirectives (texts : List (List Char)) : List LogDirective × List Fault :=
  ((texts.map Text.strip).filter (!·.isEmpty)).foldr
    (fun text (directives, faults) =>
      match readDirective text with
      | .ok directive => (directive :: directives, faults)
      | .error fault => (directives, fault :: faults))
    ([], [])

/-- Read the pattern for messages. -/
def readPattern (pattern : String) : Option String × List Fault :=
  match Pattern.check pattern with
  | none => (some pattern, [])
  | some fault => (none, [.refused pattern fault])

/-- Read a filter.  One with more than a single slash says nothing at all. -/
def read (text : String) : LogFilter × List Fault :=
  match pieces '/' text.toList with
  | [directives] =>
    let (directives, faults) := readDirectives (pieces ',' directives)
    ({ directives }, faults)
  | [directives, pattern] =>
    let (directives, faults) := readDirectives (pieces ',' directives)
    let (pattern, patternFaults) := readPattern (String.ofList pattern)
    ({ directives, pattern }, faults ++ patternFaults)
  | _ => ({}, [.tooManySlashes text])

end LogFilter

end SlotTalk
