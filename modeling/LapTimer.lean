import LapTimer.Console
import LapTimer.Http.Router
import LapTimer.Main
import LapTimer.Proofs.Elapsed
import LapTimer.Proofs.LapHistory
import LapTimer.Proofs.Devices
import LapTimer.Proofs.Turns
import LapTimer.Proofs.LampCoherence
import LapTimer.Proofs.FaceCoherence
import LapTimer.Proofs.DeviceFrame
import LapTimer.Proofs.ReadPasses
import LapTimer.Proofs.WorkerProtocol
import LapTimer.Proofs.Agenda
import LapTimer.Proofs.Requests
import LapTimer.Proofs.Shutdown
import LapTimer.Proofs.Segments
import LapTimer.Proofs.LimitLatch
import LapTimer.Proofs.ReplayCourse
import LapTimer.Proofs.Chronology
import LapTimer.Proofs.WrittenRecord
import LapTimer.Proofs.ReplaySessions
import LapTimer.Proofs.KeyStrikes
import LapTimer.Proofs.JsonText
import LapTimer.Proofs.FittingLaps
import LapTimer.Proofs.JsonForms
import LapTimer.Proofs.ReaderWays
import LapTimer.Proofs.Moments
import LapTimer.Proofs.Refusals
import LapTimer.Proofs.UnseenReaders
import LapTimer.Proofs.ClockOffset
import LapTimer.Proofs.ModeShown
import LapTimer.Proofs.Declined
import LapTimer.Proofs.JsonViews
import LapTimer.Proofs.NetworkFrame
import LapTimer.Proofs.AgreeingViews
import LapTimer.Proofs.ClosingKeys
import LapTimer.Proofs.BlinkCountdown
import LapTimer.Proofs.RepeatedReset
import LapTimer.Proofs.FormsReadBack
import LapTimer.Proofs.Wakes
import LapTimer.Proofs.PlainUse
import LapTimer.Proofs.ReplayTimetable
import LapTimer.Proofs.Conversions
import LapTimer.Proofs.FaithfulPanels
import LapTimer.Proofs.WholePasses
import LapTimer.Proofs.CutRenders
import LapTimer.Proofs.ModeText
import LapTimer.Proofs.ActivationQueue
import LapTimer.Proofs.ShortTexts
import LapTimer.Proofs.BookOrder
import LapTimer.Proofs.WatchCoherence
