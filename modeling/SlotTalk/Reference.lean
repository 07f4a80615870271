namespace SlotTalk

/-!
# References

* `Cell` — the kinds of cells that a store holds.
* `Ref` — a reference to one cell, told apart by the kind of the cell.
-/

/-- Kinds of cells in the store. -/
inductive Cell where
  | object | list | map | frame | locals | call | coroutine | function | block | method
  deriving DecidableEq, Repr

/-- A reference to the cell with a given position among those of its kind. -/
structure Ref (cell : Cell) where
  index : Nat
  deriving DecidableEq, Repr

abbrev ObjectId := Ref .object
abbrev ListId := Ref .list
abbrev MapId := Ref .map
abbrev FrameId := Ref .frame
abbrev LocalsId := Ref .locals
abbrev CallId := Ref .call
abbrev CoroutineId := Ref .coroutine
abbrev FunctionId := Ref .function
abbrev BlockId := Ref .block
abbrev MethodId := Ref .method

end SlotTalk
