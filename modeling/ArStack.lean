import ArStack.Lib.Run
import ArStack.Lib.Ring
import ArStack.Lib.BoundedLog
import ArStack.Lib.Octets
import ArStack.Lib.Medium
import ArStack.Wire
import ArStack.Integrity.Crc32
import ArStack.Asn1.BerSpanReader
import ArStack.Asn1.BerSpanWriter
import ArStack.Mms.StaticTables
import ArStack.Mms.BufferedReportSpan
import ArStack.Mms.StaticBrcbRuntime
import ArStack.Mms.StaticBrcbStateCodec
import ArStack.Mms.StaticBrcbCheckpointStore
import ArStack.Lib.Program
import ArStack.Mms.StaticDirectControl
import ArStack.Spec.SboSelection
import ArStack.Spec.BrcbRuntime
import ArStack.Spec.BrcbLog
import ArStack.Spec.BrcbStateCodec
import ArStack.Properties.BrcbOwnership
import ArStack.Properties.SboExclusivity
import ArStack.Properties.SboInterleaving
import ArStack.Properties.BrcbRing
import ArStack.Spec.BufferedReport
import ArStack.Properties.BrcbAccounting
import ArStack.Properties.BrcbRestore
import ArStack.Spec.BrcbCheckpoint
import ArStack.Lib.Framing
import ArStack.Osi.Tpkt
import ArStack.Osi.Cotp
import ArStack.Osi.CotpTpktStream
import ArStack.Spec.CotpTpktStream
import ArStack.Properties.CotpSegmentation
import ArStack.Properties.SubscriptionCleanup
import ArStack.Osi.CotpSpan
import ArStack.Osi.PresentationSpan
import ArStack.Mms.PduSpan
import ArStack.Mms.ServicesSpan
import ArStack.Mms.StaticConnectionRuntime
import ArStack.Mms.StaticServerSession
import ArStack.Properties.AssociationClosed
import ArStack.Mms.AssociationRuntime
import ArStack.Properties.BatchMatching
import ArStack.Mms.StaticInformationReport
import ArStack.Spec.UrcbRuntime
import ArStack.Mms.StaticReportConnection
import ArStack.Properties.UrcbReporting
import ArStack.Asn1.BerOffsets
import ArStack.Asn1.BerWriter
import ArStack.Lib.History
import ArStack.Mms.DataCodec
import ArStack.Mms.Reporting
import ArStack.Mms.StaticConnectionRuntimeIedsim
import ArStack.Properties.ClockDiscipline
import ArStack.Properties.ExchangeCorrelation
import ArStack.Properties.LiveSignalReaders
import ArStack.Properties.ScenarioTransaction
import ArStack.Properties.SourcePolicy
import ArStack.Properties.TsduReassembly
import ArStack.Spec.BerTlv
import ArStack.Spec.BerWriter
import ArStack.Spec.DataCodec
import ArStack.Lib.Patch
import ArStack.Properties.StopDraining
import ArStack.SampledValues.FrameCodec
import ArStack.SampledValues.WireFieldOffsets
import ArStack.Properties.GuardedControl
import ArStack.Control.CommandTermination
import ArStack.Properties.TerminationCorrelation
import ArStack.Control.ControlSession
import ArStack.Properties.SessionAgreement
import ArStack.Mms.StaticBrcbConnection
import ArStack.Spec.BrcbDelivery
import ArStack.Properties.BrcbDelivery
import ArStack.Mms.ServiceCodec
import ArStack.Mms.DynamicDataSet
import ArStack.Spec.BerItems
import ArStack.Spec.ServiceCodec
import ArStack.Properties.ServiceRoundTrip
import ArStack.Mms.DynamicDataSetRuntime
import ArStack.Properties.DataSetOwnership
import ArStack.Mms.FileTransfer
import ArStack.Properties.BrcbCapture
import ArStack.Properties.BrcbRecovery
import ArStack.Properties.BrcbWrites
import ArStack.Properties.WriteOrder
import ArStack.Lib.Incremental
import ArStack.Mms.StaticDispatcherHierarchy
import ArStack.Properties.CotpAgreement
import ArStack.Properties.HierarchyOrder
import ArStack.Properties.TpktChunks
import ArStack.Properties.DeviceContainer
import ArStack.Properties.EgressEvidence
import ArStack.Properties.EpochLabels
import ArStack.Properties.GoosePublisher
import ArStack.Properties.LocalAcquisition
import ArStack.Properties.OfflineMonitor
import ArStack.Properties.SampleGrid
import ArStack.Properties.SampleLoss
import ArStack.Properties.SecondArm
import ArStack.Properties.SynchOffset
import ArStack.Properties.CheckpointCrash
import ArStack.Properties.ReportContinuity
import ArStack.Properties.ClockLease
import ArStack.Properties.ExternalCandidates
import ArStack.Properties.SinePhase
import ArStack.Properties.CaptureRoundTrip
import ArStack.Properties.ConfirmedCodecs
import ArStack.Properties.SyntheticSubtrees
import ArStack.Properties.PtpRoundTrip
import ArStack.Properties.DataSpanAgreement
import ArStack.Properties.DatasetReferences
import ArStack.Properties.GooseRoundTrip
import ArStack.Properties.RemotePaths
import ArStack.Properties.StaticReportSession
import ArStack.Properties.FileDiagnostics
import ArStack.Properties.FileDownload
import ArStack.Properties.ChangedOctets
