import SlotTalk.Text

namespace SlotTalk

/-!
# Program trees

A program is one `Node`.  Names are looked up when a node is evaluated, never before, so that a tree
has no notion of scope; a code literal (`block`, `method`, `function`) only says how its body will
be activated.

* `Node.mentionsCallContext` — the body reads the call it runs in.
* `Node.number` — the same tree with an identity for each text that is written in it: the names of
  the sends, the string literals, the parameters and all names that the tree defines.
-/

/-- A place in the source text. -/
structure Location where
  line : Nat
  column : Nat
  deriving DecidableEq, Repr

/-- Written `line:column`. -/
def Location.text (location : Location) : String := s!"{location.line}:{location.column}"

/-- A program, or a part of one. -/
inductive Node where
  | nil
  | bool (value : Bool)
  | integer (value : Int64)
  | float (value : Float)
  | string (text : Text)
  /-- The object on which the running method was found, or the lobby. -/
  | self
  /-- The call that the running activation answers, or nil. -/
  | thisCall
  | thisLocals
  /-- Without a receiver the name is looked up among the variables first, then on `self`. -/
  | send (receiver : Option Node) (name : Text) (arguments : List Node)
      (location : Option Location)
  /-- Written `:=`: creates or overwrites on the target itself. -/
  | define (target : Option Node) (name : Text) (value : Node)
  /-- Written `=`: overwrites wherever the name is already defined. -/
  | update (target : Option Node) (name : String) (value : Node)
  | sequence (nodes : List Node)
  | block (parameters : List Text) (body : Node) (usesCallContext : Bool)
  | method (parameters : List Text) (body : Node) (usesCallContext : Bool)
  | function (parameters : List Text) (body : Node) (usesCallContext : Bool)
  | ifThenElse (condition thenBranch : Node) (elseBranch : Option Node)
  | whileLoop (condition body : Node)
  | forLoop (counter : Text) (start stop : Node) (step : Option Node) (body : Node)
  | forEach (source : Node) (index : Option Text) (element : Text) (body : Node)
  | breakLoop (value : Option Node)
  | continueLoop
  | returnFrom (value : Option Node)
  | tryCatch (body : Node) (errorName : Text) (handler : Node)
  deriving Inhabited

/-- The code of a block, method or function. -/
structure Code where
  parameters : List Text
  body : Node
  /-- The activation hands the body its call. -/
  usesCallContext : Bool
  deriving Inhabited

/-- Number of parameters. -/
def Code.arity (code : Code) : Nat := code.parameters.length

/-- The contents of the parameters. -/
def Code.parameterNames (code : Code) : List String := code.parameters.map Text.content

namespace Node

/-! ### Reading the call context -/

mutual

/-- The node itself, or a part of it that runs in the same activation, reads the call.  Nested code
    literals are not entered: their bodies have calls of their own. -/
def mentionsCallContext : Node → Bool
  | .thisCall => true
  | .nil | .bool _ | .integer _ | .float _ | .string _ | .self | .thisLocals => false
  | .block .. | .method .. | .function .. | .continueLoop => false
  | .send receiver _ arguments _ => optionMentions receiver || listMentions arguments
  | .define target _ value | .update target _ value =>
    optionMentions target || value.mentionsCallContext
  | .sequence nodes => listMentions nodes
  | .ifThenElse condition thenBranch elseBranch =>
    condition.mentionsCallContext || thenBranch.mentionsCallContext || optionMentions elseBranch
  | .whileLoop condition body => condition.mentionsCallContext || body.mentionsCallContext
  | .forLoop _ start stop step body =>
    start.mentionsCallContext || stop.mentionsCallContext || optionMentions step ||
      body.mentionsCallContext
  | .forEach source _ _ body => source.mentionsCallContext || body.mentionsCallContext
  | .breakLoop value | .returnFrom value => optionMentions value
  | .tryCatch body _ handler => body.mentionsCallContext || handler.mentionsCallContext

/-- The node that may be there reads the call. -/
def optionMentions : Option Node → Bool
  | none => false
  | some node => node.mentionsCallContext

/-- One of the nodes reads the call. -/
def listMentions : List Node → Bool
  | [] => false
  | node :: rest => node.mentionsCallContext || listMentions rest

end

/-! ### Code literals -/

/-- A block whose flag follows its body. -/
def blockOf (parameters : List Text) (body : Node) : Node :=
  .block parameters body body.mentionsCallContext

/-- A method whose flag follows its body. -/
def methodOf (parameters : List Text) (body : Node) : Node :=
  .method parameters body body.mentionsCallContext

/-- The code of a literal. -/
def literalCode? : Node → Option Code
  | .block parameters body uses | .method parameters body uses | .function parameters body uses =>
    some ⟨parameters, body, uses⟩
  | _ => none

/-! ### Numbering the texts -/

mutual

/-- Number every text of the tree, from `next` on; the number after the last comes back too. -/
def number (next : Nat) : Node → Node × Nat
  | .string text => (.string (text.withNumber next), next + 1)
  | .send receiver name arguments location =>
    let (receiver, after) := numberOption (next + 1) receiver
    let (arguments, after) := numberList after arguments
    (.send receiver (name.withNumber next) arguments location, after)
  | .define target name value =>
    let (target, after) := numberOption (next + 1) target
    let (value, after) := value.number after
    (.define target (name.withNumber next) value, after)
  | .update target name value =>
    let (target, after) := numberOption next target
    let (value, after) := value.number after
    (.update target name value, after)
  | .sequence nodes =>
    let (nodes, after) := numberList next nodes
    (.sequence nodes, after)
  | .block parameters body uses =>
    let (parameters, after) := Text.numberAll next parameters
    let (body, after) := body.number after
    (.block parameters body uses, after)
  | .method parameters body uses =>
    let (parameters, after) := Text.numberAll next parameters
    let (body, after) := body.number after
    (.method parameters body uses, after)
  | .function parameters body uses =>
    let (parameters, after) := Text.numberAll next parameters
    let (body, after) := body.number after
    (.function parameters body uses, after)
  | .ifThenElse condition thenBranch elseBranch =>
    let (condition, after) := condition.number next
    let (thenBranch, after) := thenBranch.number after
    let (elseBranch, after) := numberOption after elseBranch
    (.ifThenElse condition thenBranch elseBranch, after)
  | .whileLoop condition body =>
    let (condition, after) := condition.number next
    let (body, after) := body.number after
    (.whileLoop condition body, after)
  | .forLoop counter start stop step body =>
    let (start, after) := start.number (next + 1)
    let (stop, after) := stop.number after
    let (step, after) := numberOption after step
    let (body, after) := body.number after
    (.forLoop (counter.withNumber next) start stop step body, after)
  | .forEach source index element body =>
    let (source, after) := source.number (next + 2)
    let (body, after) := body.number after
    (.forEach source (index.map (·.withNumber next)) (element.withNumber (next + 1)) body, after)
  | .breakLoop value =>
    let (value, after) := numberOption next value
    (.breakLoop value, after)
  | .returnFrom value =>
    let (value, after) := numberOption next value
    (.returnFrom value, after)
  | .tryCatch body errorName handler =>
    let (body, after) := body.number (next + 1)
    let (handler, after) := handler.number after
    (.tryCatch body (errorName.withNumber next) handler, after)
  | node => (node, next)

/-- Number the texts of a node that may be there. -/
def numberOption (next : Nat) : Option Node → Option Node × Nat
  | none => (none, next)
  | some node =>
    let (node, after) := node.number next
    (some node, after)

/-- Number the texts of the nodes from left to right. -/
def numberList (next : Nat) : List Node → List Node × Nat
  | [] => ([], next)
  | node :: rest =>
    let (node, after) := node.number next
    let (rest, after) := numberList after rest
    (node :: rest, after)

end

end Node

end SlotTalk
