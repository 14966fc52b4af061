import Apq8084.Lib.Machine
import Apq8084.Lib.Ring
import Apq8084.Lib.Fifo
import Apq8084.Sensors.SensorEventQueue
import Apq8084.Sensors.QueueSystem
import Apq8084.Lib.Chain
import Apq8084.Ril.PendingRequests
import Apq8084.Sensors.MultiHal
import Apq8084.Ril.PendingRuns
import Apq8084.Ril.SapQueue
import Apq8084.Fingerprint.Templates
import Apq8084.Fingerprint.Groups
import Apq8084.Lib.RwLock
import Apq8084.Ril.Registration
import Apq8084.Ril.Commands
import Apq8084.Ril.Routing
import Apq8084.Lib.Stopping
import Apq8084.Ril.Dispatch
import Apq8084.Ril.RadioCalls
import Apq8084.Ril.Refusals
import Apq8084.Fingerprint.Worker
import Apq8084.Fingerprint.Enroll
import Apq8084.Fingerprint.SingleWorker
import Apq8084.Camera.CameraParameters
import Apq8084.Fingerprint.EnrollGate
import Apq8084.Ril.Nitz
import Apq8084.Fingerprint.Authenticate
import Apq8084.Fingerprint.Capture
import Apq8084.Fingerprint.Session
import Apq8084.Fingerprint.Teardown
import Apq8084.Fingerprint.WakeUp
import Apq8084.Fingerprint.LateNotice
import Apq8084.Lib.Locks
import Apq8084.Fingerprint.Locking
import Apq8084.Lib.WordBlocks
import Apq8084.Ril.Payloads
import Apq8084.Fingerprint.StartUp
import Apq8084.Gnss.WakeLock
import Apq8084.Ril.WakeLock
import Apq8084.Fingerprint.Removal
import Apq8084.Lib.RoundRobin
import Apq8084.Sensors.Poll
import Apq8084.Fingerprint.Hash
import Apq8084.Lib.Sha1Zeros
import Apq8084.Fingerprint.AuthId
import Apq8084.Fingerprint.StraySignal
import Apq8084.Ril.SapRequests
import Apq8084.Ril.EventWatch
import Apq8084.Camera.Fixups
import Apq8084.Camera.Torch
import Apq8084.Camera.Sizes
import Apq8084.Camera.Devices
import Apq8084.Gnss.SvStatus
import Apq8084.Gnss.Measurement
import Apq8084.Gnss.Clock
import Apq8084.Lib.LinkedRing
import Apq8084.Ril.EventTimers
import Apq8084.Ril.TimerRuns
import Apq8084.Features.SecNativeFeature
import Apq8084.Fingerprint.Calibration
import Apq8084.Ril.CdmaSms
import Apq8084.Ril.DataCalls
import Apq8084.Lib.CStrings
import Apq8084.Ril.Operators
import Apq8084.Ril.NitzText
import Apq8084.Lib.Hex
import Apq8084.Ril.SmsPdu
import Apq8084.Lib.HexNumbers
import Apq8084.Ril.RegistrationState
import Apq8084.Lib.FillLoop
import Apq8084.Ril.CdmaInfoRecords
import Apq8084.Lib.Alloc
import Apq8084.Ril.EventLoop
import Apq8084.Ril.RequestAgreement
import Apq8084.Sensors.Overtaking
import Apq8084.Sensors.PollSequence
import Apq8084.Gnss.Session
import Apq8084.Lib.Planes
import Apq8084.Media.Venus
import Apq8084.Ril.Acknowledgements
import Apq8084.Fingerprint.Migration
import Apq8084.Camera.DeviceMemory
import Apq8084.Lib.LockOrder
import Apq8084.Ril.CellInfos
import Apq8084.Ril.LockOrder
import Apq8084.Ril.PointerLists
import Apq8084.Ril.SapSockets
import Apq8084.Ril.Settings
import Apq8084.Lib.Guarded
import Apq8084.Sensors.LazyInit
