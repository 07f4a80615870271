import SlotTalk.Reference

namespace SlotTalk

/-!
# Texts

A text is compared, looked up and printed by its content.  Programs can also ask whether two texts
are one and the same, and so each carries an identity beside the content: a text keeps it wherever
it goes, and a text that is made anew gets a new one.

* `Identity` — what tells a text, or a big integer, from others with the same content.
* `Text` — the content of a text with its identity.
* `Text.numberAll` — identities for texts that have none yet.
-/

/-- What tells an immutable value from others with the same content. -/
inductive Identity where
  /-- Nothing does so far: no program has seen the value. -/
  | unassigned
  | numbered (number : Nat)
  /-- The value came into being with a call. -/
  | ofCall (id : CallId)
  deriving DecidableEq, Repr, Inhabited

/-- A text as programs hold it. -/
structure Text where
  content : String
  identity : Identity := .unassigned
  deriving DecidableEq, Repr, Inhabited

instance : Coe String Text := ⟨fun content => { content }⟩

namespace Text

/-- The text with the given content and number. -/
def numbered (content : String) (number : Nat) : Text := ⟨content, .numbered number⟩

/-- The same content as a text of its own. -/
def withNumber (text : Text) (number : Nat) : Text := numbered text.content number

/-- Number the texts from left to right, from `next` on; the number after the last comes back
    too. -/
def numberAll (next : Nat) : List Text → List Text × Nat
  | [] => ([], next)
  | text :: rest =>
    let (rest, after) := numberAll (next + 1) rest
    (text.withNumber next :: rest, after)

end Text

end SlotTalk
