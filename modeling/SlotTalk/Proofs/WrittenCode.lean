import SlotTalk.Host
import SlotTalk.Proofs.CallContext
import SlotTalk.Proofs.Policy

namespace SlotTalk

/-!
# What is written in a program

Code literals carry their bodies along, so that what a program says about its loops and its calls is
a matter of all nodes written in it.  Numbering the texts of a program changes none of it.

* `Node.Within` — a node is written in another one, at any depth.
* `Node.WellPlaced` — each `break` and `continue` is written in the body of a loop.
* `Node.Flagged` — each block and method literal has the flag that its body asks for.
* `Node.Renumbered` — two trees that differ in the identities of their texts alone; they have the
  same parts, bodies and literals.
* `wellPlaced_load`, `flagged_load` — a program that was loaded is as it was written.
-/

/-- The activation hands the body its call just if the body reads it. -/
def Code.Exact (code : Code) : Prop := code.usesCallContext = code.body.mentionsCallContext

namespace Node

/-- The node is written in the other one, at any depth and also within code literals. -/
inductive Within (inner : Node) : Node → Prop where
  | here : Within inner inner
  | part {parent child : Node} (mem : child ∈ parent.parts) (within : Within inner child) :
    Within inner parent
  | body {parent child : Node} (loop : parent.loopBody? = some child)
    (within : Within inner child) : Within inner parent
  | literal {parent : Node} {code : Code} (written : parent.literalCode? = some code)
    (within : Within inner code.body) : Within inner parent

/-- Neither a `break` nor a `continue` comes out of the body of a literal written in the node. -/
def LiteralsEnclosed (node : Node) : Prop :=
  ∀ (inner : Node) (code : Code), inner.Within node → inner.literalCode? = some code →
    code.body.Enclosed

/-- Neither a `break` nor a `continue` is written outside of the body of a loop: not in the program
    itself, and not in the body of any literal in it. -/
def WellPlaced (program : Node) : Prop := program.Enclosed ∧ program.LiteralsEnclosed

/-- Each block or method literal that is written in the program has the flag that its body asks
    for.  A function has no use for a flag. -/
def Flagged (program : Node) : Prop :=
  ∀ (inner : Node) (code : Code), inner.Within program → inner.closureCode? = some code →
    code.Exact

/-- Where no part lets a `break` or a `continue` out, only the node itself could.  What is in the
    body of a loop may hold any of them. -/
theorem Enclosed.of_parts {node : Node}
    (own : ∀ signal, node.signal? = some signal → signal = .returns)
    (parts : ∀ child ∈ node.parts, child.Enclosed) : node.Enclosed := by
  have free : ∀ signal, node.Free signal →
      signal = .returns ∨ ∃ child ∈ node.parts, child.Free signal := by
    intro signal free
    cases free with
    | own given => exact .inl (own signal given)
    | part mem free => exact .inr ⟨_, mem, free⟩
    | body loop returns free => exact .inl returns
  constructor
  · intro broken
    obtain same | ⟨child, mem, inner⟩ := free _ broken
    · exact nomatch same
    · exact (parts child mem).1 inner
  · intro continued
    obtain same | ⟨child, mem, inner⟩ := free _ continued
    · exact nomatch same
    · exact (parts child mem).2 inner

/-- What is written in a node is the node itself, or is written in a part, in the body of a loop or
    in the body of a literal. -/
theorem LiteralsEnclosed.of_parts {node : Node}
    (parts : ∀ child ∈ node.parts, child.LiteralsEnclosed)
    (body : ∀ child, node.loopBody? = some child → child.LiteralsEnclosed)
    (literal : ∀ code, node.literalCode? = some code → code.body.WellPlaced) :
    node.LiteralsEnclosed := by
  intro inner code within written
  cases within with
  | here => exact (literal code written).1
  | part mem within => exact parts _ mem inner code within written
  | body loop within => exact body _ loop inner code within written
  | literal outer within => exact (literal _ outer).2 inner code within written

/-- The flags of a node are those of its parts, of its body and of what its literal holds, and its
    own. -/
theorem Flagged.of_parts {node : Node} (parts : ∀ child ∈ node.parts, child.Flagged)
    (body : ∀ child, node.loopBody? = some child → child.Flagged)
    (literal : ∀ code, node.literalCode? = some code → code.body.Flagged)
    (own : ∀ code, node.closureCode? = some code → code.Exact) : node.Flagged := by
  intro inner code within written
  cases within with
  | here => exact own code written
  | part mem within => exact parts _ mem inner code within written
  | body loop within => exact body _ loop inner code within written
  | literal outer within => exact literal _ outer inner code within written

/-! ### Numbering -/

/-- The second tree is the first with other identities for its texts. -/
def Renumbered (node other : Node) : Prop := ∃ next, other = (node.number next).1

/-- Numbering a tree renumbers it. -/
theorem renumbered_number (node : Node) (next : Nat) : node.Renumbered (node.number next).1 :=
  ⟨next, rfl⟩

/-- Each node of the second list is one of the first, renumbered. -/
def EachRenumbered (nodes others : List Node) : Prop :=
  ∀ other ∈ others, ∃ node ∈ nodes, node.Renumbered other

mutual

/-- Numbering the texts of a tree does not change whether it reads the call. -/
theorem mentions_number (next : Nat) (node : Node) :
    (node.number next).1.mentionsCallContext = node.mentionsCallContext := by
  cases node with
  | send =>
    simp only [number, mentionsCallContext, optionMentions_number, listMentions_number]
  | define | update | ifThenElse | whileLoop | forLoop | forEach | tryCatch =>
    simp only [number, mentionsCallContext, optionMentions_number, mentions_number]
  | sequence nodes => simp only [number, mentionsCallContext, listMentions_number]
  | breakLoop | returnFrom => simp only [number, mentionsCallContext, optionMentions_number]
  | _ => rfl

/-- Numbering a node that may be left out does not change whether it reads the call. -/
theorem optionMentions_number (next : Nat) (node : Option Node) :
    optionMentions (numberOption next node).1 = optionMentions node := by
  cases node with
  | none => rfl
  | some node => exact mentions_number next node

/-- Numbering a list of nodes does not change whether one of them reads the call.  Each node is
    numbered from where the last one stopped. -/
theorem listMentions_number (next : Nat) (nodes : List Node) :
    listMentions (numberList next nodes).1 = listMentions nodes := by
  cases nodes with
  | nil => rfl
  | cons node rest => simp only [numberList, listMentions, mentions_number, listMentions_number]

end

namespace EachRenumbered

variable {nodes others more others' : List Node}

/-- No node is one of the first list. -/
theorem nil : EachRenumbered nodes [] := nofun

/-- A renumbered node in front of renumbered nodes. -/
theorem cons {node other : Node} (first : node.Renumbered other)
    (rest : EachRenumbered nodes others) : EachRenumbered (node :: nodes) (other :: others) := by
  intro found mem
  rcases List.mem_cons.mp mem with rfl | mem
  · exact ⟨node, List.mem_cons_self, first⟩
  · obtain ⟨origin, mem, same⟩ := rest found mem
    exact ⟨origin, List.mem_cons_of_mem _ mem, same⟩

/-- Renumbered nodes behind renumbered nodes. -/
theorem append (left : EachRenumbered nodes others) (right : EachRenumbered more others') :
    EachRenumbered (nodes ++ more) (others ++ others') := by
  intro found mem
  rcases List.mem_append.mp mem with mem | mem
  · obtain ⟨origin, mem, same⟩ := left found mem
    exact ⟨origin, List.mem_append_left _ mem, same⟩
  · obtain ⟨origin, mem, same⟩ := right found mem
    exact ⟨origin, List.mem_append_right _ mem, same⟩

/-- A node that may be left out is left out or renumbered. -/
theorem option (next : Nat) (node : Option Node) :
    EachRenumbered node.toList (numberOption next node).1.toList := by
  cases node with
  | none => exact nil
  | some node => exact cons (node.renumbered_number next) nil

/-- The nodes of a list are renumbered one by one, from different numbers. -/
theorem list (next : Nat) (nodes : List Node) :
    EachRenumbered nodes (numberList next nodes).1 := by
  induction nodes generalizing next with
  | nil => exact nil
  -- The rest is numbered from where the first node stopped, so the number is general.
  | cons node rest ih => exact cons (node.renumbered_number next) (ih _)

end EachRenumbered

namespace Renumbered

variable {node other : Node} (same : node.Renumbered other)
include same

/-- A renumbered node gives the same signal. -/
theorem signal? : other.signal? = node.signal? := by
  obtain ⟨next, rfl⟩ := same
  cases node <;> rfl

/-- The parts of a renumbered node are its parts, renumbered. -/
theorem parts : EachRenumbered node.parts other.parts := by
  obtain ⟨next, rfl⟩ := same
  have each := renumbered_number
  -- One case for each way in which the parts are listed.
  cases node with
  | send => exact .append (.option _ _) (.list _ _)
  | define | update => exact .append (.option _ _) (.cons (each _ _) .nil)
  | sequence nodes => exact .list _ _
  | ifThenElse | forLoop => exact .cons (each _ _) (.cons (each _ _) (.option _ _))
  | whileLoop | forEach => exact .cons (each _ _) .nil
  | breakLoop | returnFrom => exact .option _ _
  | tryCatch => exact .cons (each _ _) (.cons (each _ _) .nil)
  | _ => exact .nil

/-- The body of a renumbered loop is its body, renumbered. -/
theorem loopBody? {body : Node} (loop : other.loopBody? = some body) :
    ∃ origin, node.loopBody? = some origin ∧ origin.Renumbered body := by
  obtain ⟨next, rfl⟩ := same
  cases node with
  | whileLoop | forLoop | forEach =>
    obtain rfl := Option.some.inj loop
    exact ⟨_, rfl, renumbered_number ..⟩
  | _ => exact nomatch loop

/-- The body of a renumbered literal is its body, renumbered. -/
theorem literalCode? {code : Code} (written : other.literalCode? = some code) :
    ∃ origin, node.literalCode? = some origin ∧ origin.body.Renumbered code.body := by
  obtain ⟨next, rfl⟩ := same
  cases node with
  | block | method | function =>
    obtain rfl := Option.some.inj written
    exact ⟨_, rfl, renumbered_number ..⟩
  | _ => exact nomatch written

/-- A renumbered node reads the call if it did before. -/
theorem mentions : other.mentionsCallContext = node.mentionsCallContext := by
  obtain ⟨next, rfl⟩ := same
  exact mentions_number next node

/-- A literal keeps its flag and the flag that its body asks for. -/
theorem exact_of_closureCode? {code : Code} (written : other.closureCode? = some code) :
    ∃ origin, node.closureCode? = some origin ∧ (origin.Exact → code.Exact) := by
  obtain ⟨next, rfl⟩ := same
  cases node with
  | block parameters body uses | method parameters body uses =>
    obtain rfl := Option.some.inj written
    exact ⟨_, rfl, fun isExact => isExact.trans (renumbered_number body _).mentions.symm⟩
  | _ => exact nomatch written

omit same in
/-- A signal that is free in a renumbered tree is free in the tree. -/
theorem free {signal : Signal} {node other : Node} (same : node.Renumbered other)
    (free : other.Free signal) : node.Free signal := by
  induction free generalizing node with
  | own given => exact .own (same.signal?.symm.trans given)
  | part mem free ih =>
    obtain ⟨child, mem, same⟩ := same.parts _ mem
    exact .part mem (ih same)
  | body loop returns free ih =>
    obtain ⟨child, loop, same⟩ := same.loopBody? loop
    exact .body loop returns (ih same)

/-- No signal gets out of a renumbered tree that did not get out of the tree. -/
theorem enclosed (enclosed : node.Enclosed) : other.Enclosed :=
  ⟨fun broken => enclosed.1 (same.free broken), fun continued => enclosed.2 (same.free continued)⟩

omit same in
/-- What is written in a renumbered tree is written in the tree. -/
theorem within {inner node other : Node} (same : node.Renumbered other)
    (within : inner.Within other) :
    ∃ origin : Node, origin.Within node ∧ origin.Renumbered inner := by
  induction within generalizing node with
  | here => exact ⟨node, .here, same⟩
  | part mem within ih =>
    obtain ⟨child, mem, same⟩ := same.parts _ mem
    obtain ⟨origin, inside, same⟩ := ih same
    exact ⟨origin, .part mem inside, same⟩
  | body loop within ih =>
    obtain ⟨child, loop, same⟩ := same.loopBody? loop
    obtain ⟨origin, inside, same⟩ := ih same
    exact ⟨origin, .body loop inside, same⟩
  | literal written within ih =>
    obtain ⟨code, written, same⟩ := same.literalCode? written
    obtain ⟨origin, inside, same⟩ := ih same
    exact ⟨origin, .literal written inside, same⟩

/-- Each literal in a renumbered tree comes from a literal in the tree, whose body holds no more. -/
theorem literalsEnclosed (enclosed : node.LiteralsEnclosed) : other.LiteralsEnclosed := by
  intro inner code within written
  obtain ⟨origin, inside, same⟩ := same.within within
  obtain ⟨code', written, same⟩ := same.literalCode? written
  exact same.enclosed (enclosed origin code' inside written)

/-- Each literal in a renumbered tree comes from a literal in the tree, whose flag it keeps. -/
theorem flagged (flagged : node.Flagged) : other.Flagged := by
  intro inner code within written
  obtain ⟨origin, inside, same⟩ := same.within within
  obtain ⟨code', written, kept⟩ := same.exact_of_closureCode? written
  exact kept (flagged origin code' inside written)

end Renumbered

end Node

/-- A program that was loaded is as well placed as it was written. -/
theorem wellPlaced_load (engine : Engine) {program : Node} (placed : program.WellPlaced) :
    (engine.load program).1.WellPlaced := by
  have same : program.Renumbered (engine.load program).1 := ⟨engine.nextIdentity, rfl⟩
  exact ⟨same.enclosed placed.1, same.literalsEnclosed placed.2⟩

/-- A program that was loaded has the flags that it was written with. -/
theorem flagged_load (engine : Engine) {program : Node} (flagged : program.Flagged) :
    (engine.load program).1.Flagged := by
  have same : program.Renumbered (engine.load program).1 := ⟨engine.nextIdentity, rfl⟩
  exact same.flagged flagged

end SlotTalk
