import AlicatBasis2.Frames.Grammar
import AlicatBasis2.Frames.ErrorDetection
import AlicatBasis2.Frames.Division
import AlicatBasis2.Frames.UndetectedErrors
import AlicatBasis2.Transactions.Acceptance
import AlicatBasis2.Transactions.Silence
import AlicatBasis2.Transactions.Bounds
import AlicatBasis2.Bus.Instrument
import AlicatBasis2.Bus.Builders
import AlicatBasis2.Machine.Run
import AlicatBasis2.Bus.FaultyBus
import AlicatBasis2.Bus.LateBus
import AlicatBasis2.Data.Bitmap
import AlicatBasis2.Transactions.Sweep
import AlicatBasis2.Bus.Discovery
import AlicatBasis2.Bus.Retarget
import AlicatBasis2.Bus.LateReplies
import AlicatBasis2.Operations.Instantaneous
import AlicatBasis2.Operations.Measurement
import AlicatBasis2.Operations.Identity
import AlicatBasis2.Operations.Setpoint
import AlicatBasis2.Operations.SweepWindow
import AlicatBasis2.Operations.DriverState
import AlicatBasis2.Transactions.Transcript
import AlicatBasis2.Operations.Script
import AlicatBasis2.Bus.BringUp
import AlicatBasis2.Operations.FloatSetters
import AlicatBasis2.Programs.AppMain
import AlicatBasis2.Bus.NonInterference
import AlicatBasis2.Bus.FirstPowerUp
