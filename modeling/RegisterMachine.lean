import RegisterMachine.Main
import RegisterMachine.Proofs.Atomicity
import RegisterMachine.Proofs.CallChain
import RegisterMachine.Proofs.CommandLine
import RegisterMachine.Proofs.Delimited
import RegisterMachine.Proofs.Draining
import RegisterMachine.Proofs.EndlessChains
import RegisterMachine.Proofs.ExactArithmetic
import RegisterMachine.Proofs.FaultMessages
import RegisterMachine.Proofs.FirstUnfitWord
import RegisterMachine.Proofs.JoinedTexts
import RegisterMachine.Proofs.LabelTables
import RegisterMachine.Proofs.Layout
import RegisterMachine.Proofs.LimitedSinks
import RegisterMachine.Proofs.Listing
import RegisterMachine.Proofs.LiteralSpelling
import RegisterMachine.Proofs.LogAccount
import RegisterMachine.Proofs.LongerPrograms
import RegisterMachine.Proofs.MovedLines
import RegisterMachine.Proofs.Printing
import RegisterMachine.Proofs.ReachableMachines
import RegisterMachine.Proofs.ReadBack
import RegisterMachine.Proofs.Refilling
import RegisterMachine.Proofs.Relevance
import RegisterMachine.Proofs.Renaming
import RegisterMachine.Proofs.Replay
import RegisterMachine.Proofs.SameMachines
import RegisterMachine.Proofs.Sequence
import RegisterMachine.Proofs.SharedCalls
import RegisterMachine.Proofs.StaticChecks
