import SlotTalk.Primitive.Collections
import SlotTalk.Primitive.Objects
import SlotTalk.Primitive.Reflection
import SlotTalk.Primitive.Scalars

namespace SlotTalk

/-!
# Built-ins that answer at once

* `PlainPrimitive.run` — the answer of any built-in that activates nothing else.
-/

/-- The answer of a built-in that activates nothing else. -/
def PlainPrimitive.run (use : Invocation) : PlainPrimitive → Action Value
  | .object primitive => primitive.run use
  | .number primitive => primitive.run use
  | .sequence primitive => primitive.run use
  | .list primitive => primitive.run use
  | .map primitive => primitive.run use
  | .blockArgumentNames | .functionArgumentNames => argumentNames use
  | .call primitive => primitive.run use
  | .message primitive => primitive.run use
  | .locals primitive => primitive.run use
  | .coroutine primitive => primitive.run use
  | .date primitive => primitive.run use
  | .exception primitive => primitive.run use

end SlotTalk
