import SurfaceCameras.Support.Program
import SurfaceCameras.Support.Runs
import SurfaceCameras.Support.FixedWidth
import SurfaceCameras.Support.MaskedWrites
import SurfaceCameras.Support.RateLimit
import SurfaceCameras.Support.Locality
import SurfaceCameras.Support.Scan
import SurfaceCameras.Support.Mirrors
import SurfaceCameras.Support.Commuting
import SurfaceCameras.Support.WordSums
import SurfaceCameras.Kernel.Device
import SurfaceCameras.Kernel.Control
import SurfaceCameras.Kernel.Subdev
import SurfaceCameras.Kernel.Moves
import SurfaceCameras.Kernel.Histories
import SurfaceCameras.Kernel.Lifetimes
import SurfaceCameras.Kernel.FrameTiming
import SurfaceCameras.Kernel.Sessions
import SurfaceCameras.Kernel.Sensor
import SurfaceCameras.Kernel.Emission
import SurfaceCameras.Kernel.Traps
import SurfaceCameras.Kernel.Words
import SurfaceCameras.Ov7251.RegisterTables
import SurfaceCameras.Ov7251.Modes
import SurfaceCameras.Ov7251.LinkFrequency
import SurfaceCameras.Ov7251.Device
import SurfaceCameras.Ov7251.Format
import SurfaceCameras.Ov7251.Controls
import SurfaceCameras.Ov7251.ModeEffects
import SurfaceCameras.Ov7251.ExposureFrame
import SurfaceCameras.Ov7251.Streaming
import SurfaceCameras.Ov7251.Frames
import SurfaceCameras.Ov7251.ControlRanges
import SurfaceCameras.Ov7251.System
import SurfaceCameras.Ov7251.FrameLength
import SurfaceCameras.Ov7251.Usability
import SurfaceCameras.Ov7251.Illuminator
import SurfaceCameras.Ov7251.Probe
import SurfaceCameras.Ov7251.FrameRates
import SurfaceCameras.Ov7251.Journal
import SurfaceCameras.Ov7251.Encoding
import SurfaceCameras.Ov7251.FailedChanges
import SurfaceCameras.Ov7251.FrameRegisters
import SurfaceCameras.Ov7251.CleanRuns
import SurfaceCameras.Ov7251.StreamControls
import SurfaceCameras.Ov7251.FrameMargin
import SurfaceCameras.Ov7251.CachedControls
import SurfaceCameras.Ov7251.WordControls
import SurfaceCameras.Ov5693.RegisterTables
import SurfaceCameras.Ov5693.Device
import SurfaceCameras.Ov5693.Format
import SurfaceCameras.Ov5693.Streaming
import SurfaceCameras.Ov5693.Effects
import SurfaceCameras.Ov5693.StreamEffects
import SurfaceCameras.Ov5693.Writes
import SurfaceCameras.Ov5693.CropArithmetic
import SurfaceCameras.Ov5693.Coherence
import SurfaceCameras.Ov5693.Timing
import SurfaceCameras.Ov5693.FramedRuns
import SurfaceCameras.Ov5693.RegisterImage
import SurfaceCameras.Ov5693.WarmStart
import SurfaceCameras.Ov5693.Frames
import SurfaceCameras.Ov5693.HandlerImage
import SurfaceCameras.Ov5693.PowerBalance
import SurfaceCameras.Ov5693.System
import SurfaceCameras.Ov5693.ColdImage
import SurfaceCameras.Ov5693.FlipFraming
import SurfaceCameras.Ov5693.ModeHistory
import SurfaceCameras.Ov5693.HiddenMode
import SurfaceCameras.Ov5693.Window
import SurfaceCameras.Ov5693.WarmReadout
import SurfaceCameras.Ov5693.Contexts
import SurfaceCameras.Ov5693.Negotiation
import SurfaceCameras.Ov5693.PowerRelease
import SurfaceCameras.Ov5693.Journal
import SurfaceCameras.Ov5693.FrameRegisters
import SurfaceCameras.Ov5693.FrameMargin
import SurfaceCameras.StreamReferences
import SurfaceCameras.Ov7251.FlipCoherence
import SurfaceCameras.Ov7251.StartImage
import SurfaceCameras.Ov7251.StartsAlike
import SurfaceCameras.Ov7251.Lifetimes
import SurfaceCameras.Ov5693.Probe
import SurfaceCameras.Ov5693.Lifetimes
import SurfaceCameras.FrameMargins
import SurfaceCameras.Bridges.Runtime
import SurfaceCameras.Bridges.Producer
import SurfaceCameras.Bridges.ProducerFrames
import SurfaceCameras.Bridges.ProducerSessions
import SurfaceCameras.Bridges.ProducerTeardown
import SurfaceCameras.Bridges.ProducerRelay
import SurfaceCameras.Bridges.ProducerRestarts
import SurfaceCameras.Bridges.InfraredExposure
import SurfaceCameras.Bridges.InfraredTiming
import SurfaceCameras.Bridges.InfraredCeiling
import SurfaceCameras.Bridges.InfraredProbe
import SurfaceCameras.Bridges.InfraredDemand
import SurfaceCameras.Bridges.InfraredConversion
import SurfaceCameras.Int3472.Descriptors
import SurfaceCameras.Int3472.Tables
import SurfaceCameras.Int3472.Inventory
import SurfaceCameras.Int3472.Provision
import SurfaceCameras.Aiqb.Checksums
import SurfaceCameras.Aiqb.Containers
import SurfaceCameras.Aiqb.DecodeBounds
import SurfaceCameras.Aiqb.RecordWalks
import SurfaceCameras.Aiqb.SectionWalkers
import SurfaceCameras.Aiqb.BlackLevelPatch
import SurfaceCameras.Aiqb.Calibration
import SurfaceCameras.Aiqb.SameListing
import SurfaceCameras.Aiqb.SameRecords
import SurfaceCameras.Aiqb.DecodedPatch
import SurfaceCameras.Aiqb.PatchedTwice
import SurfaceCameras.Aiqb.Explore
import SurfaceCameras.Aiqb.Edits
import SurfaceCameras.Aiqb.NoiseEdits
import SurfaceCameras.Aiqb.NoiseSections
import SurfaceCameras.Aiqb.SectionSums
import SurfaceCameras.Aiqb.ExploredPatch
import SurfaceCameras.Aiqb.DecodedNoisePatch
import SurfaceCameras.Aiqb.PatchFootprints
import SurfaceCameras.Aiqb.PatchOrder
import SurfaceCameras.Pe.PrintedTables
import SurfaceCameras.SensorProvision
