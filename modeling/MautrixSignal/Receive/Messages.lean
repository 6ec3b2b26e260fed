import MautrixSignal.CallMessage

namespace MautrixSignal.Receive

-- signalpb.Envelope_Type. In all of these enums, other stands for every number without a name.
inductive EnvelopeType
  | unknown
  | doubleRatchet
  | prekeyMessage
  | serverDeliveryReceipt
  | unidentifiedSender
  | plaintextContent
  | other
deriving DecidableEq

-- A field that the code reads only through its getter has the getter's type.
structure Envelope where
  type : Option EnvelopeType := none
  sourceServiceID : Bytes := []
  sourceServiceIDBinary : Option Bytes := none
  sourceDeviceID : UInt32 := 0
  destinationServiceID : Bytes := []
  destinationServiceIDBinary : Option Bytes := none
  clientTimestamp : UInt64 := 0
  content : Bytes := []
  serverGUID : Bytes := []
  serverGUIDBinary : Option Bytes := none
  serverTimestamp : UInt64 := 0
  urgent : Option Bool := none
  reportSpamToken : Option Bytes := none

-- Default_Envelope_Urgent is true.
def Envelope.getUrgent (envelope : Envelope) : Bool := envelope.urgent.getD true

structure GroupContextV2 where
  masterKey : Bytes := []
  revision : UInt32 := 0

structure DataMessage where
  profileKey : Option Bytes := none
  groupV2 : Option GroupContextV2 := none
  groupCallUpdate : Option Bytes := none
  timestamp : UInt64 := 0

structure EditMessage where
  targetSentTimestamp : UInt64 := 0
  dataMessage : Option DataMessage := none

structure StoryMessage where
  profileKey : Option Bytes := none
  group : Option GroupContextV2 := none

inductive ReceiptType
  | delivery
  | read
  | viewed
  | other
deriving DecidableEq

structure ReceiptMessage where
  type : ReceiptType := .delivery
  timestamp : List UInt64 := []

structure TypingMessage where
  timestamp : UInt64 := 0
  groupID : Option Bytes := none

structure PniSignatureMessage where
  pni : Bytes := []
  signature : Bytes := []

structure UnidentifiedStatus where
  destinationServiceID : Bytes := []
  destinationServiceIDBinary : Option Bytes := none
  destinationPniIdentityKey : Option Bytes := none

structure SentMessage where
  destinationE164 : Bytes := []
  destinationServiceID : Bytes := []
  destinationServiceIDBinary : Option Bytes := none
  timestamp : UInt64 := 0
  message : Option DataMessage := none
  editMessage : Option EditMessage := none
  storyMessage : Option StoryMessage := none
  unidentifiedStatus : List UnidentifiedStatus := []

structure AttachmentPointer where
  cdnID : UInt64 := 0
  cdnKey : Bytes := []
  cdnNumber : UInt32 := 0
  key : Bytes := []
  digest : Option Bytes := none
  size : UInt32 := 0

structure AvatarDetails where
  contentType : Option Bytes := none
  length : Option UInt32 := none

structure ContactDetails where
  aci : Bytes := []
  aciBinary : Option Bytes := none
  number : Bytes := []
  name : Bytes := []
  avatar : Option AvatarDetails := none

inductive RequestResponseType
  | unknown
  | accept
  | delete
  | block
  | blockAndDelete
  | spam
  | blockAndSpam
  | other
deriving DecidableEq

structure RequestResponse where
  threadACI : Bytes := []
  threadACIBinary : Option Bytes := none
  groupID : Bytes := []
  type : RequestResponseType := .unknown

-- The sync messages that the code has a case for. Their raw contents are passed on unread.
inductive SyncContent
  | keys (accountEntropyPool : Bytes)
  | fetchLatest (storageManifest : Bool)
  | sent (message : SentMessage)
  | contacts (blob : Option AttachmentPointer)
  | callEvent (raw : Bytes)
  | viewOnceOpen (raw : Bytes)
  | deleteForMe (raw : Bytes)
  | messageRequestResponse (response : RequestResponse)
  | other

structure SyncMessage where
  content : SyncContent := .other
  read : List Bytes := []

inductive ContentMessage
  | dataMessage (message : DataMessage)
  | syncMessage (message : SyncMessage)
  | callMessage (message : CallMessage)
  | nullMessage
  | receiptMessage (message : ReceiptMessage)
  | typingMessage (message : TypingMessage)
  | decryptionErrorMessage (message : Bytes)
  | storyMessage (message : StoryMessage)
  | editMessage (message : EditMessage)

structure Content where
  content : Option ContentMessage := none
  senderKeyDistributionMessage : Option Bytes := none
  pniSignatureMessage : Option PniSignatureMessage := none

structure Address where
  serviceID : ServiceID
  deviceID : UInt32

structure ContactAvatar where
  image : Bytes
  contentType : Bytes

structure StoredContact where
  aci : UUID
  number : Bytes
  name : Bytes
  avatar : Option ContactAvatar

inductive ExternalError
  | canceled
  | oldCounter
  | other
deriving DecidableEq

inductive DecryptionError
  | external (error : ExternalError)
  | eventAlreadyProcessed
deriving DecidableEq

inductive ChatPayload
  | data (message : DataMessage)
  | edit (message : EditMessage)
  | typing (message : TypingMessage)
  | story (message : StoryMessage) (timestamp : UInt64)

-- The events of package events that receiving a message can produce.
inductive Event
  | decryptionError (sender : UUID) (error : DecryptionError) (timestamp : UInt64)
  | receipt (sender : UUID) (content : ReceiptMessage)
  | chatEvent (info : MessageInfo) (payload : ChatPayload)
  | call (call : CallEvent)
  | aciFound (aci pni : ServiceID)
  | contactList (contacts : List StoredContact)
  | callSync (timestamp : UInt64) (raw : Bytes)
  | viewOnceOpen (raw : Bytes)
  | deleteForMe (timestamp : UInt64) (raw : Bytes)
  | messageRequestResponse (timestamp : UInt64) (threadACI : UUID) (groupID : Option Bytes)
      (response : RequestResponse)
  | readSelf (timestamp : UInt64) (messages : List Bytes)

-- What the code does outside itself while it handles one message. The numbers tell apart the events
-- of one call message, the contacts of one list and the deliveries of one sent message.
inductive Op
  | handleEvent (event : Event) (index : Nat)
  | deserializeDecryptionError (message : Bytes)
  | tryHandleRetryRequest (message : Bytes)
  | sendRetryRequest (sender : Address) (timestamp : UInt64)
  | deserializeSenderKeyDistribution (message : Bytes)
  | processSenderKeyDistribution (message : Bytes) (sender : Address)
  | markNeedsPNISignature (aci : UUID)
  | getIdentityKey (serviceID : ServiceID) (afterFetch : Bool)
  | fetchPreKey (serviceID : ServiceID)
  | verifyAlternateIdentity (aci pni : ServiceID) (signature : Bytes)
  | updatePNIMapping (aci pni : UUID)
  | isBlocked (aci : UUID)
  | storeProfileKey (aci : UUID) (key : Bytes)
  | groupIdentifierFromMasterKey (masterKey : Bytes)
  | storeMasterKey (groupID : String) (masterKey : Bytes)
  | deriveSVRKey (accountEntropyPool : Bytes)
  | putDevice
  | queueStorageSync
  | updateRecipientE164 (serviceID : ServiceID) (e164 : Bytes)
  | saveSyncPNIIdentityKey (serviceID : ServiceID) (key : Bytes) (index : Nat)
  | downloadContacts (blob : AttachmentPointer)
  | unmarshalContacts (bytes : Bytes)
  | beginContactTxn
  | loadContact (aci : UUID) (index : Nat)
  | saveContact (aci : UUID) (index : Nat)
  | commitContactTxn
  | acceptMessageRequest (aci : UUID)
  | setBlocked (aci : UUID) (blocked : Bool)
  | sendDeliveryReceipt (timestamp : UInt64) (aci : UUID)
  | clearBufferedEventPlaintext (ciphertextHash : Bytes)

end MautrixSignal.Receive
