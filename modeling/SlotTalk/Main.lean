import SlotTalk.CommandLine

namespace SlotTalk

/-!
# The program

Runs the command and prints what it leaves behind.
-/

/-- More nesting than any demo reaches. -/
def demoFuel : Nat := 1000000

/-- Print what a command leaves behind, and answer its exit code. -/
def Outcome.emit (outcome : Outcome) : IO UInt32 := do
  IO.print outcome.stdout
  IO.eprint outcome.stderr
  return outcome.code.toUInt32

end SlotTalk

/-- Run the command line. -/
def main (arguments : List String) : IO UInt32 :=
  match SlotTalk.CommandLine.run arguments SlotTalk.demoFuel with
  | some outcome => outcome.emit
  | none => do
    IO.eprintln "Error: out of fuel"
    return 1
