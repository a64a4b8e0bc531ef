import AribcapDump.Caption.CaptionFields
import AribcapDump.Caption.CaptionLine
import AribcapDump.Clock.Jump
import AribcapDump.Clock.Representation
import AribcapDump.Clock.Shift
import AribcapDump.Clock.Unwrapped
import AribcapDump.Dumper.Accuracy
import AribcapDump.Dumper.Authority
import AribcapDump.Dumper.Channels
import AribcapDump.Dumper.ClockSource
import AribcapDump.Dumper.EitOutput
import AribcapDump.Dumper.Lasting
import AribcapDump.Dumper.Reconcile
import AribcapDump.Dumper.RecordTimes
import AribcapDump.Dumper.Service
import AribcapDump.Dumper.Sessions
import AribcapDump.Dumper.Timeless
import AribcapDump.Eit.DescriptorKinds
import AribcapDump.Framer.Buffer
import AribcapDump.Framer.Reference
import AribcapDump.Framer.Resync
import AribcapDump.Framer.Slices
import AribcapDump.JsonLossless
import AribcapDump.Program.Input
import AribcapDump.PtsField
import AribcapDump.Rfc3339Order
