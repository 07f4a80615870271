namespace SlotTalk

/-!
# Built-in functions

* `TypeName` — the sixteen kinds of values; each has a shared prototype that carries its built-ins.
* `Primitive` — the built-ins themselves.  `plain` ones answer at once; `perform` and the two forms
  of `call` activate something else.
* `Primitive.signature` — name, number of inputs and whether more are accepted.
* `Primitive.tables` — which prototype carries which built-ins, in the order of its slots.
-/

/-- The kind of a value, as programs and error texts name it. -/
inductive TypeName where
  | object | nil | true | false | number | sequence | list | map | message | call | locals
  | coroutine | date | function | block | method
  deriving DecidableEq, Repr

/-- The word for a kind of value. -/
def TypeName.text : TypeName → String
  | .object => "Object"
  | .nil => "Nil"
  | .true => "True"
  | .false => "False"
  | .number => "Number"
  | .sequence => "Sequence"
  | .list => "List"
  | .map => "Map"
  | .message => "Message"
  | .call => "Call"
  | .locals => "Locals"
  | .coroutine => "Coroutine"
  | .date => "Date"
  | .function => "Function"
  | .block => "Block"
  | .method => "Method"

/-- A shared prototype: the one of a kind of value, or the one of raised exceptions. -/
inductive Prototype where
  | ofType (type : TypeName)
  | exception
  deriving DecidableEq, Repr

/-- The name under which programs find the prototype. -/
def Prototype.name : Prototype → String
  | .ofType type => type.text
  | .exception => "Exception"

/-- The shared prototypes in the order in which their names are listed. -/
def Prototype.all : List Prototype :=
  [.ofType .object, .ofType .nil, .ofType .true, .ofType .false, .ofType .number,
   .ofType .sequence, .ofType .list, .ofType .map, .ofType .message, .ofType .call,
   .ofType .locals, .ofType .coroutine, .ofType .date, .ofType .function, .ofType .block,
   .ofType .method, .exception]

/-! ### The built-ins by prototype -/

/-- Built-ins that every value inherits. -/
inductive ObjectPrimitive where
  | clone | proto | setProto | hasSlot | hasLocalSlot | getSlot | setSlot | updateSlot | removeSlot
  | slotNames | hasProto | equals | notEquals | isNil | not | asString | print | println | list
  | uniqueId
  deriving DecidableEq, Repr

inductive NumberPrimitive where
  | add | subtract | multiply | divide | remainder | less | lessOrEqual | greater | greaterOrEqual
  | negate | abs | floor
  deriving DecidableEq, Repr

inductive SequencePrimitive where
  | size | at | concat | asString | asNumber
  deriving DecidableEq, Repr

inductive ListPrimitive where
  | clone | append | at | atPut | size | first | last | isEmpty | removeLast
  deriving DecidableEq, Repr

inductive MapPrimitive where
  | clone | atPut | at | hasKey | removeAt | size | keys
  deriving DecidableEq, Repr

inductive CallPrimitive where
  | sender | target | message | slotContext | activated | coroutine | argCount
  deriving DecidableEq, Repr

inductive MessagePrimitive where
  | name | argCount
  deriving DecidableEq, Repr

inductive LocalsPrimitive where
  | self | getSlot
  deriving DecidableEq, Repr

inductive CoroutinePrimitive where
  | id | label
  deriving DecidableEq, Repr

inductive DatePrimitive where
  | now | asNumber | year
  deriving DecidableEq, Repr

inductive ExceptionPrimitive where
  | raise | message
  deriving DecidableEq, Repr

/-- Built-ins that answer without activating anything. -/
inductive PlainPrimitive where
  | object (primitive : ObjectPrimitive)
  | number (primitive : NumberPrimitive)
  | sequence (primitive : SequencePrimitive)
  | list (primitive : ListPrimitive)
  | map (primitive : MapPrimitive)
  | blockArgumentNames
  | functionArgumentNames
  | call (primitive : CallPrimitive)
  | message (primitive : MessagePrimitive)
  | locals (primitive : LocalsPrimitive)
  | coroutine (primitive : CoroutinePrimitive)
  | date (primitive : DatePrimitive)
  | exception (primitive : ExceptionPrimitive)
  deriving DecidableEq, Repr

/-- A built-in function. -/
inductive Primitive where
  | plain (primitive : PlainPrimitive)
  /-- Send a message by name. -/
  | perform
  /-- Activate the receiver itself; the slot of blocks. -/
  | callBlock
  /-- Activate the receiver itself; the slot of functions. -/
  | callFunction
  deriving DecidableEq, Repr

/-! ### Signatures -/

/-- How a built-in is called. -/
structure Signature where
  name : String
  /-- Inputs after the receiver; missing ones are nil. -/
  inputs : Nat
  /-- More than `inputs` are accepted. -/
  variadic : Bool
  deriving DecidableEq, Repr

/-- A built-in with a fixed number of inputs. -/
def Signature.fixed (name : String) (inputs : Nat) : Signature := ⟨name, inputs, Bool.false⟩

/-- A built-in that takes any number of inputs from `inputs` on. -/
def Signature.atLeast (name : String) (inputs : Nat) : Signature := ⟨name, inputs, Bool.true⟩

def ObjectPrimitive.signature : ObjectPrimitive → Signature
  | .clone => .fixed "clone" 0
  | .proto => .fixed "proto" 0
  | .setProto => .fixed "setProto" 1
  | .hasSlot => .fixed "hasSlot" 1
  | .hasLocalSlot => .fixed "hasLocalSlot" 1
  | .getSlot => .fixed "getSlot" 1
  | .setSlot => .fixed "setSlot" 2
  | .updateSlot => .fixed "updateSlot" 2
  | .removeSlot => .fixed "removeSlot" 1
  | .slotNames => .fixed "slotNames" 0
  | .hasProto => .fixed "hasProto" 1
  | .equals => .fixed "==" 1
  | .notEquals => .fixed "!=" 1
  | .isNil => .fixed "isNil" 0
  | .not => .fixed "not" 0
  | .asString => .fixed "asString" 0
  | .print => .fixed "print" 0
  | .println => .fixed "println" 0
  | .list => .atLeast "list" 0
  | .uniqueId => .fixed "uniqueId" 0

def NumberPrimitive.signature : NumberPrimitive → Signature
  | .add => .fixed "+" 1
  | .subtract => .fixed "-" 1
  | .multiply => .fixed "*" 1
  | .divide => .fixed "/" 1
  | .remainder => .fixed "%" 1
  | .less => .fixed "<" 1
  | .lessOrEqual => .fixed "<=" 1
  | .greater => .fixed ">" 1
  | .greaterOrEqual => .fixed ">=" 1
  | .negate => .fixed "negate" 0
  | .abs => .fixed "abs" 0
  | .floor => .fixed "floor" 0

def SequencePrimitive.signature : SequencePrimitive → Signature
  | .size => .fixed "size" 0
  | .at => .fixed "at" 1
  | .concat => .fixed ".." 1
  | .asString => .fixed "asString" 0
  | .asNumber => .fixed "asNumber" 0

def ListPrimitive.signature : ListPrimitive → Signature
  | .clone => .fixed "clone" 0
  | .append => .atLeast "append" 1
  | .at => .fixed "at" 1
  | .atPut => .fixed "atPut" 2
  | .size => .fixed "size" 0
  | .first => .fixed "first" 0
  | .last => .fixed "last" 0
  | .isEmpty => .fixed "isEmpty" 0
  | .removeLast => .fixed "removeLast" 0

def MapPrimitive.signature : MapPrimitive → Signature
  | .clone => .fixed "clone" 0
  | .atPut => .fixed "atPut" 2
  | .at => .fixed "at" 1
  | .hasKey => .fixed "hasKey" 1
  | .removeAt => .fixed "removeAt" 1
  | .size => .fixed "size" 0
  | .keys => .fixed "keys" 0

def CallPrimitive.signature : CallPrimitive → Signature
  | .sender => .fixed "sender" 0
  | .target => .fixed "target" 0
  | .message => .fixed "message" 0
  | .slotContext => .fixed "slotContext" 0
  | .activated => .fixed "activated" 0
  | .coroutine => .fixed "coroutine" 0
  | .argCount => .fixed "argCount" 0

def MessagePrimitive.signature : MessagePrimitive → Signature
  | .name => .fixed "name" 0
  | .argCount => .fixed "argCount" 0

def LocalsPrimitive.signature : LocalsPrimitive → Signature
  | .self => .fixed "self" 0
  | .getSlot => .fixed "getSlot" 1

def CoroutinePrimitive.signature : CoroutinePrimitive → Signature
  | .id => .fixed "id" 0
  | .label => .fixed "label" 0

def DatePrimitive.signature : DatePrimitive → Signature
  | .now => .fixed "now" 0
  | .asNumber => .fixed "asNumber" 0
  | .year => .fixed "year" 0

def ExceptionPrimitive.signature : ExceptionPrimitive → Signature
  | .raise => .fixed "raise" 1
  | .message => .fixed "message" 0

def PlainPrimitive.signature : PlainPrimitive → Signature
  | .object primitive => primitive.signature
  | .number primitive => primitive.signature
  | .sequence primitive => primitive.signature
  | .list primitive => primitive.signature
  | .map primitive => primitive.signature
  | .blockArgumentNames | .functionArgumentNames => .fixed "argumentNames" 0
  | .call primitive => primitive.signature
  | .message primitive => primitive.signature
  | .locals primitive => primitive.signature
  | .coroutine primitive => primitive.signature
  | .date primitive => primitive.signature
  | .exception primitive => primitive.signature

def Primitive.signature : Primitive → Signature
  | .plain primitive => primitive.signature
  | .perform => .atLeast "perform" 1
  | .callBlock | .callFunction => .atLeast "call" 0

/-! ### Tables -/

/-- The built-ins of `Object`. -/
def Primitive.objectTable : List Primitive :=
  ([.clone, .proto, .setProto, .hasSlot, .hasLocalSlot, .getSlot, .setSlot, .updateSlot,
    .removeSlot, .slotNames, .hasProto] : List ObjectPrimitive).map (.plain ∘ .object) ++
  [.perform] ++
  ([.equals, .notEquals, .isNil, .not, .asString, .print, .println, .list,
    .uniqueId] : List ObjectPrimitive).map (.plain ∘ .object)

/-- The built-ins of each prototype that has some, in the order of its slots. -/
def Primitive.tables : List (Prototype × List Primitive) :=
  [(.ofType .object, objectTable),
   (.ofType .number,
    [.add, .subtract, .multiply, .divide, .remainder, .less, .lessOrEqual, .greater,
     .greaterOrEqual, .negate, .abs, .floor].map (.plain ∘ .number)),
   (.ofType .sequence, [.size, .at, .concat, .asString, .asNumber].map (.plain ∘ .sequence)),
   (.ofType .list,
    [.clone, .append, .at, .atPut, .size, .first, .last, .isEmpty,
     .removeLast].map (.plain ∘ .list)),
   (.ofType .map,
    [.clone, .atPut, .at, .hasKey, .removeAt, .size, .keys].map (.plain ∘ .map)),
   (.ofType .block, [.callBlock, .plain .blockArgumentNames]),
   (.ofType .function, [.callFunction, .plain .functionArgumentNames]),
   (.ofType .call,
    [.sender, .target, .message, .slotContext, .activated, .coroutine,
     .argCount].map (.plain ∘ .call)),
   (.ofType .message, [.name, .argCount].map (.plain ∘ .message)),
   (.ofType .locals, [.self, .getSlot].map (.plain ∘ .locals)),
   (.ofType .coroutine, [.id, .label].map (.plain ∘ .coroutine)),
   (.ofType .date, [.now, .asNumber, .year].map (.plain ∘ .date)),
   (.exception, [.raise, .message].map (.plain ∘ .exception))]

/-- The prototype and the slot under which a built-in is installed. -/
def Primitive.home : Primitive → Prototype
  | .plain (.object _) | .perform => .ofType .object
  | .plain (.number _) => .ofType .number
  | .plain (.sequence _) => .ofType .sequence
  | .plain (.list _) => .ofType .list
  | .plain (.map _) => .ofType .map
  | .plain .blockArgumentNames | .callBlock => .ofType .block
  | .plain .functionArgumentNames | .callFunction => .ofType .function
  | .plain (.call _) => .ofType .call
  | .plain (.message _) => .ofType .message
  | .plain (.locals _) => .ofType .locals
  | .plain (.coroutine _) => .ofType .coroutine
  | .plain (.date _) => .ofType .date
  | .plain (.exception _) => .exception

/-- Name of the slot a built-in is installed in. -/
def Primitive.name (primitive : Primitive) : String := primitive.signature.name

end SlotTalk
