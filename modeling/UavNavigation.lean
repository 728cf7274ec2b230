import UavNavigation.AuthorityTimeline
import UavNavigation.CommandSampler
import UavNavigation.MissionOrder
import UavNavigation.PlanningOwnership
import UavNavigation.MappingOrder
import UavNavigation.VelocityClosure
import UavNavigation.VelocityReset
import UavNavigation.ModeOwnership
import UavNavigation.VelocityBoundary
import UavNavigation.CommandChain
import UavNavigation.TerminalHold
import UavNavigation.BufferAccounting
import UavNavigation.BufferLiveness
import UavNavigation.EpochAgreement
import UavNavigation.TrackingRecovery
import UavNavigation.WorkerDiscipline
import UavNavigation.ProcessingLoop
import UavNavigation.ScheduleCoverage
import UavNavigation.StagingLaw
import UavNavigation.ResetExactness
import UavNavigation.OdometryAnswers
import UavNavigation.FrameRoundTrip
import UavNavigation.TimestampLaw
import UavNavigation.FrameTransformContract
import UavNavigation.FrameCoherence
import UavNavigation.PendingRegion
import UavNavigation.SegmentTouches
import UavNavigation.PriorDeadline
import UavNavigation.FailureLimit
import UavNavigation.DeskewExactness
import UavNavigation.LidarIngress
import UavNavigation.ResetHonesty
import UavNavigation.RegistrationMapCrop
import UavNavigation.CorridorSimplification
import UavNavigation.SegmentDistance
import UavNavigation.ChordDeviation
import UavNavigation.RouteBoundaryTiming
import UavNavigation.RouteBoundaryGates
