import CellularCall.CallTable

/-!
# `SatelliteControl`

The control of the satellite calls, as far as it processes call lists.  Its
connections keep no disconnect reason: the query for one is a stub that sends
nothing, so `DeleteConnection` and `ReportHangUpInfo` report the end of a call
without it.
-/

namespace CellularCall

open Lib CallTable

abbrev SatelliteControl := CallTable Unit

namespace SatelliteControl

/-- `EncapsulationCallReportInfo`: the number is taken as it is. -/
def encapsulationCallReportInfo (P : Platform) (slotId : Int) (callInfo : SatelliteCurrentCall) :
    CallReportInfo :=
  if (cStr callInfo.number).length + 1 > P.kMaxNumberLen + 1 then .zeroed
  else
    { CallReportInfo.zeroed with
      accountNum := cStr callInfo.number
      index := callInfo.index
      accountId := slotId
      voiceDomain := callInfo.voiceDomain
      state := callInfo.state
      callType := .satellite
      callMode := .voice
      mpty := callInfo.mpty }

/-- The satellite domain. -/
def domain : CallDomain SatelliteCurrentCall Unit where
  callType := .satellite
  fresh := ()
  index := SatelliteCurrentCall.index
  number := SatelliteCurrentCall.number
  state := SatelliteCurrentCall.state
  encapsulationCallReportInfo := encapsulationCallReportInfo
  incomingWhenAlone := false
  connectedOut := false
  updateClearsIgnored := false
  ended := fun _ info => info

def reportIncomingInfo (P : Platform) (registered : Bool) (slotId : Int) (t : SatelliteControl)
    (L : SatelliteCurrentCallList) : SatelliteControl × List Output :=
  CallTable.reportIncomingInfo domain P registered slotId t L

/-- `ReportUpdateInfo`: nothing is reported while an incoming call is ignored. -/
def reportUpdateInfo (P : Platform) (slotId : Int) (t : SatelliteControl)
    (L : SatelliteCurrentCallList) : SatelliteControl × List Output :=
  CallTable.reportUpdateInfo domain P slotId t L

/-- `ReportHangUpInfo`. -/
def reportHangUpInfo (P : Platform) (slotId : Int) (t : SatelliteControl) :
    SatelliteControl × List Output :=
  CallTable.reportHangUpInfo domain P slotId false t

/-- `ReportSatelliteCallsData`. -/
def reportSatelliteCallsData (P : Platform) (registered : Bool) (slotId : Int)
    (t : SatelliteControl) (L : SatelliteCurrentCallList) : SatelliteControl × List Output :=
  if L.callSize ≤ 0 then reportHangUpInfo P slotId t
  else if t.connectionMap.isEmpty then reportIncomingInfo P registered slotId t L
  else reportUpdateInfo P slotId t L

/-- `HangUpAllConnection` reuses the reject request. -/
def hangUpAllConnection : List Output := [.rejectRequest]

end SatelliteControl

end CellularCall
