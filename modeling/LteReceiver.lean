import LteReceiver.Cell.Config
import LteReceiver.Cell.Identity
import LteReceiver.Control.BlindSearch
import LteReceiver.Control.Dci
import LteReceiver.Control.SearchSpace
import LteReceiver.Decimal.Basic
import LteReceiver.Decimal.Binary
import LteReceiver.Decimal.Rounded
import LteReceiver.Decimal.Shortest
import LteReceiver.Downlink.Basic
import LteReceiver.Downlink.Blocks
import LteReceiver.Downlink.ChannelEstimate
import LteReceiver.Downlink.Demodulation
import LteReceiver.Downlink.Feedback
import LteReceiver.Downlink.Precoding
import LteReceiver.Downlink.Subframe
import LteReceiver.Error
import LteReceiver.Main
import LteReceiver.Ofdm
import LteReceiver.Receiver
import LteReceiver.Signal.Average
import LteReceiver.Signal.Capture
import LteReceiver.Signal.Fourier
import LteReceiver.Signal.Fourier.Row
import LteReceiver.Signal.Fourier.Scheme
import LteReceiver.Signal.Phasor
import LteReceiver.Signal.Rotation
import LteReceiver.Survey.Document.Basic
import LteReceiver.Survey.Document.Json
import LteReceiver.Survey.Document.Lines
import LteReceiver.Survey.Document.Number
import LteReceiver.Survey.Document.Reader
import LteReceiver.Survey.Document.Scalar
import LteReceiver.Survey.Options
import LteReceiver.Survey.Report
import LteReceiver.Survey.Search
import LteReceiver.Survey.Settings
import LteReceiver.Sync.Primary
import LteReceiver.Sync.Secondary
import LteReceiver.Sync.Synchronizer
import LteReceiver.Sync.Waveform
import LteReceiver.Transport.CodeBlocks
import LteReceiver.Transport.Grant
import LteReceiver.Transport.Harq
import LteReceiver.Transport.SoftBuffer
import LteReceiver.Proofs.Transport.Appearance
import LteReceiver.Proofs.Transport.BlockData
import LteReceiver.Proofs.Transport.BlockSlots
import LteReceiver.Proofs.Transport.Combining
import LteReceiver.Proofs.Transport.Resolve
import LteReceiver.Proofs.Transport.Reuse
import LteReceiver.Proofs.Transport.Schemes
import LteReceiver.Proofs.Transport.SoftBits
import LteReceiver.Proofs.Action
import LteReceiver.Proofs.Control.Recording
import LteReceiver.Proofs.Control.Lookups
import LteReceiver.Proofs.Control.Scan
import LteReceiver.Proofs.Control.Parking
import LteReceiver.Proofs.Control.SpaceHash
import LteReceiver.Proofs.Control.Places
import LteReceiver.Proofs.Control.Tables
import LteReceiver.Proofs.Control.Candidates
import LteReceiver.Proofs.Control.Trials
import LteReceiver.Proofs.Control.UplinkPlaces
import LteReceiver.Proofs.Agreement
import LteReceiver.Proofs.Control.Agreement
import LteReceiver.Proofs.Downlink.Stages
import LteReceiver.Proofs.Downlink.Runs
import LteReceiver.Proofs.Downlink.Agreement
import LteReceiver.Proofs.Downlink.Provenance
import LteReceiver.Proofs.Downlink.Reports
import LteReceiver.Proofs.Downlink.Calls
import LteReceiver.Proofs.Downlink.Plan
import LteReceiver.Proofs.Downlink.Course
import LteReceiver.Proofs.Downlink.Commitment
import LteReceiver.Proofs.Downlink.Accounts
import LteReceiver.Proofs.Downlink.Terminals
import LteReceiver.Proofs.Downlink.Renewal
import LteReceiver.Proofs.Sync.TransformSize
import LteReceiver.Proofs.Sync.Bins
import LteReceiver.Proofs.Sync.Peaks
import LteReceiver.Proofs.Sync.Course
import LteReceiver.Proofs.Sync.Changes
import LteReceiver.Proofs.Sync.Runs
import LteReceiver.Proofs.Sync.Identity
import LteReceiver.Proofs.Sync.Acquisition
import LteReceiver.Proofs.Survey.Frames
import LteReceiver.Proofs.Survey.Votes
import LteReceiver.Proofs.Signal.Rotations
import LteReceiver.Proofs.Signal.Captures
import LteReceiver.Proofs.Transport.Division
import LteReceiver.Proofs.Downlink.SampleOffset
import LteReceiver.Proofs.Sync.Averaging
import LteReceiver.Proofs.Downlink.Schedule
import LteReceiver.Proofs.Downlink.Refusals
import LteReceiver.Proofs.Checked
import LteReceiver.Proofs.Downlink.Sinr
import LteReceiver.Proofs.Downlink.Precoders
