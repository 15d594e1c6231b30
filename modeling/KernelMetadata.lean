import KernelMetadata.Interchange.DeviceModule
import KernelMetadata.Options.Location
import KernelMetadata.Proofs.DeclaredWidths
import KernelMetadata.Proofs.EditHistory
import KernelMetadata.Proofs.Effect
import KernelMetadata.Proofs.Erasure
import KernelMetadata.Proofs.FirstFault
import KernelMetadata.Proofs.FloatControl
import KernelMetadata.Proofs.Inputs
import KernelMetadata.Proofs.IntegerSpelling
import KernelMetadata.Proofs.Interchange
import KernelMetadata.Proofs.KernelPlan
import KernelMetadata.Proofs.MarkedSet
import KernelMetadata.Proofs.Origin
import KernelMetadata.Proofs.Rearrangement
import KernelMetadata.Proofs.RecordReading
import KernelMetadata.Proofs.Refusal
import KernelMetadata.Proofs.Repetition
import KernelMetadata.Proofs.RuleIndependence
import KernelMetadata.Proofs.RuleTable
import KernelMetadata.Proofs.Text.DeviceModule
import KernelMetadata.Proofs.TypeOrder
import KernelMetadata.Proofs.VectorHint
import KernelMetadata.Proofs.Warnings
import KernelMetadata.Proofs.WindowBounds
import KernelMetadata.Transcription
