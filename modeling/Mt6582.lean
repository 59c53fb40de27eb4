import Mt6582.Gps.SyncLock.Signal
import Mt6582.Gps.Agps.Wire
import Mt6582.Gps.DaemonSend
import Mt6582.Machine.CText
import Mt6582.Machine.History
import Mt6582.Machine.System
import Mt6582.Gps.Nmea.Agreement
import Mt6582.Gps.Nmea.FixReport
import Mt6582.Gps.Nmea.GsaSlots
import Mt6582.Gps.Nmea.Persisted
import Mt6582.Gps.Nmea.Splice
import Mt6582.Gps.Nmea.Stale
import Mt6582.Gps.Nmea.SvCount
import Mt6582.Gps.Nmea.Timestamps
import Mt6582.Gps.Nmea.Zone
import Mt6582.Gps.Nmea.DateTime
import Mt6582.Gps.Nmea.LegalPrn
import Mt6582.Gps.Session.Handshake
import Mt6582.Gps.Session.Wakelock
import Mt6582.Gps.Lifecycle
import Mt6582.Gps.Epo.Merge
import Mt6582.Gps.Epo.Count
import Mt6582.Gps.Epo.Expiry
import Mt6582.Gps.Epo.GiveUp
import Mt6582.Gps.Epo.Transfer
import Mt6582.Gps.Agps
import Mt6582.Gps.Certificates
import Mt6582.Gps.Mnld
import Mt6582.Gps.HexText
import Mt6582.Gps.Measurement
import Mt6582.Ygps.MnlSetting
import Mt6582.Ygps.GsvGroup
import Mt6582.Ygps.UsedInFix
import Mt6582.Ygps.Listener
import Mt6582.Lights
import Mt6582.Ril.Framing
import Mt6582.Ril.Receiver
import Mt6582.Ril.HexString
import Mt6582.Ril.OperatorInfos
import Mt6582.Ygps.Atomicity
import Mt6582.Ygps.Dispatch
import Mt6582.Ygps.SatelliteInfoManager
import Mt6582.Ygps.ClientSocket
import Mt6582.Ygps.PmtkCommand
import Mt6582.Gps.AtThread
import Mt6582.Gps.AtMeasurement
import Mt6582.Wpa.DriverCmd
import Mt6582.Wpa.SharedFreqs
import Mt6582.Wpa.WfdSinkScc
import Mt6582.Gps.Nmea.Split
import Mt6582.Gps.Epo.ConfigLine
import Mt6582.Gps.SyncLock
import Mt6582.Gps.Nmea.IntRange
import Mt6582.Gps.Nmea.IndexRange
