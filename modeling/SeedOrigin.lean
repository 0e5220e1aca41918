import SeedOrigin.CommandStream
import SeedOrigin.UpdateStream
import SeedOrigin.Publish
import SeedOrigin.SessionResolution
import SeedOrigin.FieldEffects
import SeedOrigin.HazardAgreement
import SeedOrigin.Authority
import SeedOrigin.Backlog
import SeedOrigin.FrameIsolation
import SeedOrigin.InputAdmission
import SeedOrigin.PredictionWindow
import SeedOrigin.FailedFrames
import SeedOrigin.PublishLimits
import SeedOrigin.ReceiverSequence
import SeedOrigin.Reconvergence
import SeedOrigin.SnapshotAcceptance
import SeedOrigin.SessionAgreement
import SeedOrigin.Displacement
import SeedOrigin.CombatAccounting
import SeedOrigin.CooldownRuns
import SeedOrigin.FailedLogins
import SeedOrigin.Farewells
import SeedOrigin.InboundStream
import SeedOrigin.ClientLogin
import SeedOrigin.AckRoundTrip
import SeedOrigin.RemoteCharacters
import SeedOrigin.WorldBounds
import SeedOrigin.RateLimits
import SeedOrigin.InOrder
import SeedOrigin.ActionFrames
import SeedOrigin.FailedMoves
import SeedOrigin.FramePositions
import SeedOrigin.MovementPaths
import SeedOrigin.FieldWrites
import SeedOrigin.Respawns
import SeedOrigin.RejectedUpdates
import SeedOrigin.PredictorReplay
import SeedOrigin.BoundPlayers
import SeedOrigin.Saturation
import SeedOrigin.EtherHistory
import SeedOrigin.BinaryFiles
import SeedOrigin.FrameBijections
import SeedOrigin.OutboundStream
import SeedOrigin.CommandIntake
import SeedOrigin.Pursuit
import SeedOrigin.LockoutWindows
import SeedOrigin.Lockouts
import SeedOrigin.PlayerNames
import SeedOrigin.IndexedParts
import SeedOrigin.SnapshotCompleteness
import SeedOrigin.Interleaving
import SeedOrigin.Accounts
import SeedOrigin.AccountHistory
import SeedOrigin.AccountOrigins
import SeedOrigin.AccountSessions
import SeedOrigin.AccountOutcomes
import SeedOrigin.Tables
import SeedOrigin.AliasStores
import SeedOrigin.AliasAgreement
import SeedOrigin.LastWrites
import SeedOrigin.AdminSurface
import SeedOrigin.AdminSessions
import SeedOrigin.AdminReviews
