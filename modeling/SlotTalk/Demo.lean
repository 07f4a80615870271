import SlotTalk.Node

namespace SlotTalk

/-!
# Demonstration programs

* `Demo` — the programs that come with the engine; `Demo.program` is the tree of each.
-/

/-- The programs that come with the engine. -/
inductive Demo where
  | counter | closures | lookup | errors
  deriving DecidableEq, Repr

namespace Demo

def all : List Demo := [.counter, .closures, .lookup, .errors]

def name : Demo → String
  | .counter => "counter"
  | .closures => "closures"
  | .lookup => "lookup"
  | .errors => "errors"

def description : Demo → String
  | .counter => "for/while loops with break and continue"
  | .closures => "a counter block closing over a method's scope"
  | .lookup => "slot inheritance, shadowing and updates"
  | .errors => "a caught division by zero, then an uncaught error"

/-- The demo of a name. -/
def ofName? (name : String) : Option Demo := all.find? fun demo => demo.name == name

/-! ### Short forms -/

/-- Send a name to a receiver. -/
def send (receiver : Node) (name : String) (arguments : List Node) : Node :=
  .send (some receiver) name arguments none

/-- Send a name to nobody in particular. -/
def call (name : String) (arguments : List Node) : Node := .send none name arguments none

/-- A bare name. -/
def ident (name : String) : Node := call name []

def println (node : Node) : Node := send node "println" []

/-- Print a value behind a text. -/
def text (before : String) (node : Node) : Node := println (send (.string before) ".." [node])

/-! ### The programs -/

/-- Loops with break and continue. -/
def counterProgram : Node :=
  let isEven := send (send (ident "i") "%" [.integer 2]) "==" [.integer 0]
  .sequence
    [.define none "odds" (call "list" []),
     .forLoop "i" (.integer 1) (.integer 10) none
      (.sequence
        [.ifThenElse isEven .continueLoop none,
         send (ident "odds") "append" [ident "i"]]),
     text "odd numbers: " (ident "odds"),
     .define none "n" (.integer 1),
     .define none "found"
      (.whileLoop (.bool true)
        (.sequence
          [.update none "n" (send (ident "n") "*" [.integer 3]),
           .ifThenElse (send (ident "n") ">" [.integer 100]) (.breakLoop (some (ident "n")))
            none])),
     text "first power of 3 above 100: " (ident "found"),
     text "countdown: "
      (.sequence
        [.define none "down" (call "list" []),
         .forLoop "j" (.integer 3) (.integer 1) (some (.integer (-1)))
          (send (ident "down") "append" [ident "j"]),
         ident "down"]),
     text "halves: " (send (.integer 7) "/" [.integer 2])]

/-- A block that counts in the scope of the method that made it. -/
def closuresProgram : Node :=
  let makeCounter :=
    Node.methodOf []
      (.sequence
        [.define none "count" (.integer 0),
         Node.blockOf [] (.update none "count" (send (ident "count") "+" [.integer 1]))])
  let tick := send (send .thisLocals "getSlot" [.string "counter"]) "call" []
  .sequence
    [.define none "makeCounter" makeCounter,
     .define none "counter" (ident "makeCounter"),
     tick,
     tick,
     text "counter after three ticks: " tick]

/-- Inheritance, shadowing, and the two assignments. -/
def lookupProgram : Node :=
  let describe :=
    Node.methodOf []
      (send (send .self "name" []) ".."
        [send (.string " has legs: ") ".." [send .self "legs" []]])
  .sequence
    [.define none "Animal" (send (ident "Object") "clone" []),
     .define (some (ident "Animal")) "legs" (.integer 4),
     .define (some (ident "Animal")) "describe" describe,
     .define none "Bird" (send (ident "Animal") "clone" []),
     .define (some (ident "Animal")) "name" (.string "animal"),
     .define (some (ident "Bird")) "name" (.string "bird"),
     .define (some (ident "Bird")) "legs" (.integer 2),
     println (send (ident "Bird") "describe" []),
     println (send (ident "Animal") "describe" []),
     .update (some (ident "Bird")) "legs" (.integer 3),
     .define none "Cat" (send (ident "Animal") "clone" []),
     .update (some (ident "Cat")) "legs" (.integer 5),
     text "animal legs after cat update: " (send (ident "Animal") "legs" []),
     text "cat owns legs: " (send (ident "Cat") "hasLocalSlot" [.string "legs"]),
     text "1.5 * 2 = " (send (.float 1.5) "*" [.integer 2])]

/-- A caught error and an uncaught one. -/
def errorsProgram : Node :=
  .sequence
    [.define none "Calculator" (send (ident "Object") "clone" []),
     .define (some (ident "Calculator")) "divide"
      (Node.methodOf ["x"] (send (ident "x") "/" [.integer 0])),
     .tryCatch (send (ident "Calculator") "divide" [.integer 10]) "e"
      (text "caught: " (send (ident "e") "message" [])),
     send (ident "Calculator") "frobnicate" []]

/-- The tree of a demo. -/
def program : Demo → Node
  | .counter => counterProgram
  | .closures => closuresProgram
  | .lookup => lookupProgram
  | .errors => errorsProgram

end Demo

end SlotTalk
