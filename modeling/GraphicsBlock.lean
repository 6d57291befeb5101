import GraphicsBlock.Main
import GraphicsBlock.Proofs.AuditTrail
import GraphicsBlock.Proofs.CompletionOrder
import GraphicsBlock.Proofs.Concatenation
import GraphicsBlock.Proofs.Faults
import GraphicsBlock.Proofs.FieldHistory
import GraphicsBlock.Proofs.Fields
import GraphicsBlock.Proofs.FillModes
import GraphicsBlock.Proofs.FinishedBit
import GraphicsBlock.Proofs.FlatMemory
import GraphicsBlock.Proofs.Frame
import GraphicsBlock.Proofs.Isolation
import GraphicsBlock.Proofs.KnobNames
import GraphicsBlock.Proofs.Lanes
import GraphicsBlock.Proofs.Launches
import GraphicsBlock.Proofs.LineStages
import GraphicsBlock.Proofs.LineWords
import GraphicsBlock.Proofs.MaskedStore
import GraphicsBlock.Proofs.Messages
import GraphicsBlock.Proofs.NarrowWrites
import GraphicsBlock.Proofs.Numeral
import GraphicsBlock.Proofs.NumeralValue
import GraphicsBlock.Proofs.OutputLimit
import GraphicsBlock.Proofs.Ownership
import GraphicsBlock.Proofs.Placement
import GraphicsBlock.Proofs.PromptCompletion
import GraphicsBlock.Proofs.Quiet
import GraphicsBlock.Proofs.Readdressing
import GraphicsBlock.Proofs.Readings
import GraphicsBlock.Proofs.Refusal
import GraphicsBlock.Proofs.Rendering
import GraphicsBlock.Proofs.ReplayCounts
import GraphicsBlock.Proofs.Scanouts
import GraphicsBlock.Proofs.Views
