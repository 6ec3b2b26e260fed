import MautrixSignal.Calls.CallLog
import MautrixSignal.Calls.Closing
import MautrixSignal.Receive.Acknowledgement
import MautrixSignal.Receive.SourceDevice
import MautrixSignal.SenderKey.Theorems
import MautrixSignal.Websocket.Theorems
import MautrixSignal.Connector.GroupRevisions
import MautrixSignal.Connector.SettledSettings
import MautrixSignal.Groups.Recipients
import MautrixSignal.PreKeys
import MautrixSignal.Receive.Redelivery
import MautrixSignal.Receive.ContactStream
import MautrixSignal.Provisioning
import MautrixSignal.Padding
import MautrixSignal.Sending.AcceptRequest
import MautrixSignal.Transfer.Retry
import MautrixSignal.Storage.Rollback
import MautrixSignal.StatusLoop.Connected
import MautrixSignal.SignalFormat.Panics
import MautrixSignal.Storage.Swaps
import MautrixSignal.Storage.Fetch
import MautrixSignal.Storage.Pins
import MautrixSignal.Groups.Conflicts
import MautrixSignal.Sending.Requests
import MautrixSignal.Calls.Answered
import MautrixSignal.Connector.BackfillPage
import MautrixSignal.MatrixFormat.Returns
import MautrixSignal.Attachments.Upload
import MautrixSignal.DeviceName
import MautrixSignal.DisappearingTimer
import MautrixSignal.Calls.Media
