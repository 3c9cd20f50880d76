import ZephyrWorkshop.LedAlarm
import ZephyrWorkshop.SysCtrl
import ZephyrWorkshop.Words
import ZephyrWorkshop.HdcEmul
import ZephyrWorkshop.HdcEncode
import ZephyrWorkshop.Decimal
import ZephyrWorkshop.HdcShell
import ZephyrWorkshop.HdcCommand
import ZephyrWorkshop.ByteRing
import ZephyrWorkshop.Loop
import ZephyrWorkshop.SensorLog
import ZephyrWorkshop.SensorLogHistory
import ZephyrWorkshop.DelayedWork
import ZephyrWorkshop.TrackButton
import ZephyrWorkshop.Button
import ZephyrWorkshop.Track
import ZephyrWorkshop.TrackAnswers
import ZephyrWorkshop.TrackLed
import ZephyrWorkshop.HdcRuns
import ZephyrWorkshop.HdcReads
import ZephyrWorkshop.Boot
import ZephyrWorkshop.LedPower
import ZephyrWorkshop.LedPreempt
import ZephyrWorkshop.SensorLogLast
import ZephyrWorkshop.LedTime
import ZephyrWorkshop.TrackShell
import ZephyrWorkshop.SensorLogLines
import ZephyrWorkshop.LedCountdown
import ZephyrWorkshop.HdcSchedule
import ZephyrWorkshop.ButtonLaw
import ZephyrWorkshop.SensorLogSafe
import ZephyrWorkshop.DynamicCmd
import ZephyrWorkshop.Catalogue
import ZephyrWorkshop.Bypass
import ZephyrWorkshop.ButtonMock
import ZephyrWorkshop.TrackEmulate
import ZephyrWorkshop.Presses
import ZephyrWorkshop.Hts
import ZephyrWorkshop.TrackReaders
import ZephyrWorkshop.TrackReplies
import ZephyrWorkshop.TrackCounters
import ZephyrWorkshop.TrackAlone
import ZephyrWorkshop.HdcDriver
import ZephyrWorkshop.TrackReadout
import ZephyrWorkshop.SensorSample
import ZephyrWorkshop.SampleSettings
import ZephyrWorkshop.SampleSchedule
import ZephyrWorkshop.UartLoopback
import ZephyrWorkshop.Light
