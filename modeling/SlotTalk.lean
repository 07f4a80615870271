import SlotTalk.Eval.Fuel
import SlotTalk.HostView
import SlotTalk.Main
import SlotTalk.Proofs.Backtrace
import SlotTalk.Proofs.BlockAnchor
import SlotTalk.Proofs.DepthLimit
import SlotTalk.Proofs.LoopDiscipline
import SlotTalk.Proofs.ArgumentCount
import SlotTalk.Proofs.PrototypeWalk
import SlotTalk.Proofs.Reachability
import SlotTalk.Proofs.SlotUpdate
import SlotTalk.Proofs.SoundAction
import SlotTalk.Proofs.StateInvariants
import SlotTalk.Proofs.SoundStep
import SlotTalk.Proofs.SoundScript
import SlotTalk.Proofs.SoundSession
import SlotTalk.Proofs.LexicalFrames
import SlotTalk.Proofs.CallRecords
import SlotTalk.Proofs.Trace
import SlotTalk.Proofs.FailedSteps
import SlotTalk.Proofs.VariableAccess
import SlotTalk.Proofs.Counting
import SlotTalk.Proofs.ExactIntegers
import SlotTalk.Proofs.LoopProtocol
import SlotTalk.Proofs.Definitions
import SlotTalk.Proofs.Visiting
import SlotTalk.Proofs.VisitedElements
import SlotTalk.Proofs.Assignments
import SlotTalk.Proofs.ArgumentProtocol
import SlotTalk.Proofs.SendByName
import SlotTalk.Proofs.CaughtErrors
import SlotTalk.Proofs.Ancestry
import SlotTalk.Proofs.IntegerText
import SlotTalk.Proofs.TableHistory
import SlotTalk.Proofs.SlotHistory
import SlotTalk.Proofs.FloatFormat
import SlotTalk.Proofs.FloatOfInteger
import SlotTalk.Proofs.Equality
import SlotTalk.Proofs.HostNumbers
import SlotTalk.Proofs.DisplayedText
