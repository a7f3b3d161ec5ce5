import LoraGateway.Main
import LoraGateway.Proofs.TelemetryReport
import LoraGateway.Proofs.DecodeCommand
import LoraGateway.Proofs.Screening
import LoraGateway.Proofs.Accumulation
import LoraGateway.Proofs.Beacon
import LoraGateway.Proofs.BeaconFields
import LoraGateway.Proofs.Remainder
import LoraGateway.Proofs.ConfiguredFilters
import LoraGateway.Proofs.SavedConfig
import LoraGateway.Proofs.Reconfiguration
import LoraGateway.Proofs.EmittedIdentifier
import LoraGateway.Proofs.Checked.Beacon
import LoraGateway.Proofs.Checked.Forwarding
import LoraGateway.Proofs.FaultyItem
import LoraGateway.Proofs.Malformed
import LoraGateway.Proofs.CutFrame
import LoraGateway.Proofs.Loading
import LoraGateway.Proofs.CallOrder
import LoraGateway.Proofs.MessageLine
import LoraGateway.Proofs.MessageOptions
import LoraGateway.Proofs.CheckTable
import LoraGateway.Proofs.NetworkSet
import LoraGateway.Proofs.CaptureLines
import LoraGateway.Proofs.FrameLines
import LoraGateway.Proofs.Reader
import LoraGateway.Proofs.DeviceIdentity
import LoraGateway.Proofs.DiagnosticLines
import LoraGateway.Proofs.LayoutText
import LoraGateway.Proofs.EuiText
import LoraGateway.Proofs.ScanProgress
