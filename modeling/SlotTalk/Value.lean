import SlotTalk.Calendar
import SlotTalk.Node
import SlotTalk.Primitive.Basic

namespace SlotTalk

/-!
# Values

* `Value` — everything a program can hold.  Scalars are held as they are; references alias the cell
  they name, so that copying a value never copies a cell.
* `Invokable` — the values that run when they are found in a slot.
* `Value.identity?` — the number that tells a reference, a text or a big integer from all others.
* `Value.sameReference` — the same question where the number itself is not asked for.
-/

/-- The name and shape of one send.  The identity of a message is that of its name: each send has a
    name of its own, and a message sent with arguments that were evaluated elsewhere gets one from
    the call that records it. -/
structure Message where
  name : Text
  argumentCount : Nat
  location : Option Location
  deriving DecidableEq, Repr

/-- Everything a program can hold. -/
inductive Value where
  | nil
  | bool (value : Bool)
  | int (value : Int64)
  /-- An integer of any size; arithmetic makes one only where sixty-four bits do not suffice. -/
  | big (value : Int) (identity : Identity)
  | float (value : Float)
  | string (text : Text)
  | date (date : Date)
  | object (id : ObjectId)
  | list (id : ListId)
  | map (id : MapId)
  | message (message : Message)
  | call (id : CallId)
  | locals (id : LocalsId)
  /-- A thread of execution. -/
  | coroutine (id : CoroutineId)
  | primitive (primitive : Primitive)
  | function (id : FunctionId)
  | block (id : BlockId)
  | method (id : MethodId)
  deriving Inhabited

/-- A value that runs when it is found in a slot. -/
inductive Invokable where
  | primitive (primitive : Primitive)
  | function (id : FunctionId)
  | block (id : BlockId)
  | method (id : MethodId)
  deriving DecidableEq, Repr

/-- The value that runs. -/
def Invokable.toValue : Invokable → Value
  | .primitive builtIn => .primitive builtIn
  | .function id => .function id
  | .block id => .block id
  | .method id => .method id

namespace Value

/-- The value as one that runs; plain data is none. -/
def invokable? : Value → Option Invokable
  | .primitive builtIn => some (.primitive builtIn)
  | .function id => some (.function id)
  | .block id => some (.block id)
  | .method id => some (.method id)
  | _ => none

theorem toValue_of_invokable? {value : Value} {invokable : Invokable}
    (h : value.invokable? = some invokable) : invokable.toValue = value := by
  cases value with
  | primitive | function | block | method => exact Option.some.inj h ▸ rfl
  | _ => exact nomatch h

/-- Only `nil` and `false` are not. -/
def isTruthy : Value → Bool
  | .nil | .bool false => false
  | _ => true

def isNil : Value → Bool
  | .nil => true
  | _ => false

def isNumber : Value → Bool
  | .int _ | .big .. | .float _ => true
  | _ => false

/-- The object that the value refers to. -/
def object? : Value → Option ObjectId
  | .object id => some id
  | _ => none

/-- The content of a text. -/
def string? : Value → Option String
  | .string text => some text.content
  | _ => none

/-- The kind of a value. -/
def type : Value → TypeName
  | .nil => .nil
  | .bool true => .true
  | .bool false => .false
  | .int _ | .big .. | .float _ => .number
  | .string _ => .sequence
  | .date _ => .date
  | .object _ => .object
  | .list _ => .list
  | .map _ => .map
  | .message _ => .message
  | .call _ => .call
  | .locals _ => .locals
  | .coroutine _ => .coroutine
  | .primitive _ | .function _ => .function
  | .block _ => .block
  | .method _ => .method

/-! ### Identity -/

/-- Place of a built-in among all of them. -/
def primitiveIndex (builtIn : Primitive) : Nat :=
  (Primitive.tables.flatMap Prod.snd).idxOf builtIn

/-- A number for each index of each of thirty-two kinds: those of one kind follow one another, and
    the kinds are interleaved. -/
def identityNumber (kind index : Nat) : Nat := 0x7f0000000000 + (index * 32 + kind) * 16

/-- The number of an identity, for two kinds of its own. -/
def numberOf (kind : Nat) : Identity → Nat
  | .unassigned => identityNumber kind 0
  | .numbered number => identityNumber kind (number + 1)
  | .ofCall id => identityNumber (kind + 1) id.index

/-- The number of a reference, one for each cell.  Immutable values of any size have a number as
    well, which follows from their identity. -/
def identity? : Value → Option Nat
  | .nil | .bool _ | .int _ | .float _ | .date _ => none
  | .object id => some (identityNumber 0 id.index)
  | .list id => some (identityNumber 1 id.index)
  | .map id => some (identityNumber 2 id.index)
  | .locals id => some (identityNumber 3 id.index)
  | .call id => some (identityNumber 4 id.index)
  | .function id => some (identityNumber 5 id.index)
  | .block id => some (identityNumber 6 id.index)
  | .method id => some (identityNumber 7 id.index)
  | .primitive builtIn => some (identityNumber 8 (primitiveIndex builtIn))
  | .coroutine id => some (identityNumber 9 id.index)
  | .message sent => some (numberOf 10 sent.name.identity)
  | .string text => some (numberOf 12 text.identity)
  | .big _ identity => some (numberOf 14 identity)

/-- Two values refer to the same cell. -/
def sameReference : Value → Value → Bool
  | .object a, .object b => a == b
  | .list a, .list b => a == b
  | .map a, .map b => a == b
  | .message a, .message b => a.name.identity == b.name.identity
  | .call a, .call b => a == b
  | .locals a, .locals b => a == b
  | .coroutine a, .coroutine b => a == b
  | .primitive a, .primitive b => a == b
  | .function a, .function b => a == b
  | .block a, .block b => a == b
  | .method a, .method b => a == b
  | _, _ => false

end Value

end SlotTalk
