import CellularCall.AnswerHeld
import CellularCall.CallLoss
import CellularCall.ClearAllCalls
import CellularCall.ConfigIsolation
import CellularCall.DialAlike
import CellularCall.DialRecords
import CellularCall.DisconnectReasons
import CellularCall.DoubledPrefix
import CellularCall.EccConfig
import CellularCall.EccDatabase
import CellularCall.Emergency
import CellularCall.EmergencyAlike
import CellularCall.FailedQuery
import CellularCall.FakeEcc
import CellularCall.ForwardingNumber
import CellularCall.HangUpAll
import CellularCall.HoldDial
import CellularCall.HoldSwitch
import CellularCall.ImsSwitch
import CellularCall.Ipc.ImsCallback
import CellularCall.Ipc.ImsRequest
import CellularCall.Ipc.SatelliteCallback
import CellularCall.Lib.Find
import CellularCall.Lib.Regex
import CellularCall.ListedNumbers
import CellularCall.MmiCode
import CellularCall.MmiExecution
import CellularCall.NetworkWatch
import CellularCall.PendingEmergency
import CellularCall.PlmnEcc
import CellularCall.PostDial
import CellularCall.ReasonMapping
import CellularCall.Reconciliation
import CellularCall.Settings
import CellularCall.SsFallback
import CellularCall.SsForwarding
import CellularCall.Standardize
import CellularCall.Suppression
import CellularCall.Lib.Mirror
import CellularCall.ManagerView
import CellularCall.ImsCallClient
import CellularCall.ImsReconnect
import CellularCall.CallbackHandlers
import CellularCall.SatelliteCallClient
import CellularCall.ImsCapability
import CellularCall.Lib.Locks
import CellularCall.ReadyToCall
import CellularCall.ServiceHandlers
import CellularCall.StrEvent
import CellularCall.DomainPreference
