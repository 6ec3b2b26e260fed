import MautrixSignal.Attachments.Equivalence
import MautrixSignal.Lib.Base64
import MautrixSignal.Receive.Contacts

namespace MautrixSignal.Receive

open Lib

variable (env : Env)

variable (groupID : String)

def groupOrUserID (userID : ServiceID) : ChatID :=
  if groupID = "" then .user userID else .group groupID

def profileKeyLength : Nat := 32
def groupMasterKeyLength : Nat := 32
def groupIdentifierLength : Nat := 32

-- The conversion of a slice to an array of the given length, which a longer slice also allows.
def toArray (length : Nat) (slice : Bytes) : Prog Panic State Bytes :=
  if slice.length < length then throw .arrayConversion else pure (slice.take length)

def storeMasterKey (masterKey : Bytes) : Prog Panic State (Option String) := do
  if ← attempt env (.groupIdentifierFromMasterKey masterKey) then
    if ← attempt env (.storeMasterKey (env.groupIdentifier masterKey) masterKey) then
      pure (some (env.groupIdentifier masterKey))
    else pure none
  else pure none

inductive Chat
  | failed
  | dropped
  | found (groupID : String) (revision : UInt32)

def messageChat (group : Option GroupContextV2) (isBlocked : Bool) : Prog Panic State Chat :=
  match group with
  | some group =>
    if group.masterKey.length ≠ groupMasterKeyLength then pure .dropped
    else do
      match ← storeMasterKey env group.masterKey with
      | none => pure .failed
      | some groupID => pure (.found groupID group.revision)
  | none => pure (if isBlocked then .dropped else .found "" 0)

def messageInfo (sender : UUID) (chatRecipient : ServiceID) (groupID : String) (groupRevision : UInt32)
    (serverTimestamp : UInt64) : MessageInfo where
  sender := sender
  chatID := groupOrUserID groupID chatRecipient
  groupRevision := groupRevision
  serverTimestamp := serverTimestamp

-- Both handlers return whether the message was handled and whether it asks for a delivery receipt.
def incomingEditMessage (editMessage : EditMessage) (sender : UUID) (chatRecipient : ServiceID)
    (serverTimestamp : UInt64) (isBlocked : Bool) : Prog Panic State (Bool × Bool) := do
  match ← messageChat env (editMessage.dataMessage.bind (·.groupV2)) isBlocked with
  | .failed => pure (false, false)
  | .dropped => pure (true, false)
  | .found groupID groupRevision => do
    let info := messageInfo sender chatRecipient groupID groupRevision serverTimestamp
    let ok ← handleEvent env (.chatEvent info (.edit editMessage))
    pure (ok, true)

-- A profile key of another length is skipped.
def saveProfileKey (sender : UUID) (profileKey : Option Bytes) : Prog Panic State Bool :=
  match profileKey with
  | none => pure true
  | some key =>
    if key.length = profileKeyLength then attempt env (.storeProfileKey sender key) else pure true

def dataMessageEvent (dataMessage : DataMessage) (groupID : String) (info : MessageInfo) : Event :=
  match dataMessage.groupCallUpdate with
  | none => .chatEvent info (.data dataMessage)
  | some eraID => .call {
      info := info
      timestamp := dataMessage.timestamp
      isRinging := env.updateActiveCall groupID eraID
      message := none }

-- A parse error is not looked at.
def serverGUID (envelope : Envelope) : Option UUID :=
  let guid := (parseStringOrBinaryUUID env envelope.serverGUID envelope.serverGUIDBinary).1
  if guid ≠ UUID.nil then some guid else none

-- The envelope is missing for a copy of a message that another own device sent.
def withEnvelope (envelope : Option Envelope) (info : MessageInfo) : MessageInfo :=
  { info with
    serverGUID := envelope.bind (serverGUID env)
    reportingToken := envelope.bind (·.reportSpamToken) }

def incomingDataMessage (dataMessage : DataMessage) (sender : UUID) (chatRecipient : ServiceID)
    (serverTimestamp : UInt64) (isBlocked : Bool) (envelope : Option Envelope) :
    Prog Panic State (Bool × Bool) := do
  if ← saveProfileKey env sender dataMessage.profileKey then
    match ← messageChat env dataMessage.groupV2 isBlocked with
    | .failed => pure (false, false)
    | .dropped => pure (true, false)
    | .found groupID groupRevision => do
      let info := messageInfo sender chatRecipient groupID groupRevision serverTimestamp
      let ok ← handleEvent env (dataMessageEvent env dataMessage groupID (withEnvelope env envelope info))
      pure (ok, true)
  else pure (false, false)

-- Unlike data and edit messages, stories have their keys converted without a look at the length.
def storyProfileKey (author : UUID) (profileKey : Option Bytes) : Prog Panic State Bool :=
  match profileKey with
  | none => pure true
  | some key => do attempt env (.storeProfileKey author (← toArray profileKeyLength key))

def storyChat (group : Option GroupContextV2) (isBlocked : Bool) : Prog Panic State Chat :=
  match group with
  | some group => do
    match ← storeMasterKey env (← toArray groupMasterKeyLength group.masterKey) with
    | none => pure .failed
    | some groupID => pure (.found groupID group.revision)
  | none => pure (if isBlocked then .dropped else .found "" 0)

def incomingStoryMessage (story : StoryMessage) (author : UUID) (chatRecipient : ServiceID)
    (timestamp serverTimestamp : UInt64) (isBlocked : Bool) : Prog Panic State Bool := do
  if ← storyProfileKey env author story.profileKey then
    match ← storyChat env story.group isBlocked with
    | .failed => pure false
    | .dropped => pure true
    | .found groupID groupRevision =>
      if timestamp = 0 then pure true
      else
        let info := messageInfo author chatRecipient groupID groupRevision serverTimestamp
        handleEvent env (.chatEvent info (.story story timestamp))
  else pure false

-- Whether an identity key is in the store. An error counts as an error, not as a missing key.
def getIdentityKey (serviceID : ServiceID) (afterFetch : Bool) : Prog Panic State (Option Bool) := do
  if ← attempt env (.getIdentityKey serviceID afterFetch) then
    pure (some (env.identityFound serviceID afterFetch))
  else pure none

def pniIdentityFound (pni : ServiceID) : Prog Panic State Bool := do
  match ← getIdentityKey env pni false with
  | none => pure false
  | some true => pure true
  | some false => do
    if ← attempt env (.fetchPreKey pni) then
      pure ((← getIdentityKey env pni true).getD false)
    else pure false

variable (sender : ServiceID)

-- Returns whether there was no error. The result of the event handler is not looked at.
def handlePNISignatureMessage (msg : PniSignatureMessage) :
    Prog Panic State Bool :=
  if sender.type ≠ serviceIDTypeACI then pure false
  else if h : msg.pni.length = 16 then do
    let pni := newPNIServiceID (UUID.ofBytes msg.pni h)
    if ← pniIdentityFound env pni then
      if (← getIdentityKey env sender false).getD false then
        if ← attempt env (.verifyAlternateIdentity sender pni msg.signature) then
          let _ ← attempt env (.updatePNIMapping sender.uuid pni.uuid)
          let _ ← handleEvent env (.aciFound sender pni)
          pure true
        else pure false
      else pure false
    else pure false
  else pure false

def saveUnidentifiedStatus : Nat → List UnidentifiedStatus → Prog Panic State PUnit
  | _, [] => pure ⟨⟩
  | index, status :: rest => do
    match parseStringOrBinaryServiceID env status.destinationServiceID status.destinationServiceIDBinary,
      status.destinationPniIdentityKey with
    | some serviceID, some key =>
      if serviceID.type = serviceIDTypePNI then
        let _ ← attempt env (.saveSyncPNIIdentityKey serviceID key index)
        saveUnidentifiedStatus (index + 1) rest
      else saveUnidentifiedStatus (index + 1) rest
    | _, _ => saveUnidentifiedStatus (index + 1) rest

variable (sent : SentMessage)

def SentMessage.destination : ServiceID :=
  (parseStringOrBinaryServiceID env sent.destinationServiceID sent.destinationServiceIDBinary).getD emptyServiceID

variable (envelope : Envelope)

-- A message or an edit that another own device sent. The handlers' results are dropped.
def handleSyncSentMessage : Prog Panic State PUnit := do
  let destination := sent.destination env
  let _ ← attemptIf env (sent.destinationE164 ≠ [] && !ServiceID.isEmpty destination)
    (.updateRecipientE164 destination sent.destinationE164)
  saveUnidentifiedStatus env 0 sent.unidentifiedStatus
  if ServiceID.isEmpty destination ∧ sent.message.bind (·.groupV2) = none ∧
      (sent.editMessage.bind (·.dataMessage)).bind (·.groupV2) = none then
    pure ⟨⟩
  else
    match sent.message, sent.editMessage with
    | some message, _ => do
      let _ ← incomingDataMessage env message env.aci destination envelope.serverTimestamp false none
      pure ⟨⟩
    | none, some edit => do
      let _ ← incomingEditMessage env edit env.aci destination envelope.serverTimestamp false
      pure ⟨⟩
    | none, none => pure ⟨⟩

def handleSyncSent : Prog Panic State Bool :=
  match sent.storyMessage with
  | some story =>
    -- Own stories are only bridged when they were posted to a group.
    if story.group.isSome then
      incomingStoryMessage env story env.aci env.aciServiceID sent.timestamp envelope.serverTimestamp false
    else pure true
  | none =>
    if sent.message.isSome || sent.editMessage.isSome then do
      handleSyncSentMessage env sent envelope
      pure true
    else pure true

-- The master key itself is kept in memory and read elsewhere.
def handleSyncKeys (accountEntropyPool : Bytes) : Prog Panic State Bool := do
  let _ ← attemptIf env (accountEntropyPool ≠ []) (.deriveSVRKey accountEntropyPool)
  if ← attempt env .putDevice then
    record .queueStorageSync true
    pure true
  else pure true

def RequestResponseType.blocks : RequestResponseType → Bool
  | .block | .blockAndSpam | .blockAndDelete => true
  | _ => false

def handleMessageRequestResponse (response : RequestResponse) (envelope : Envelope) :
    Prog Panic State Bool := do
  let aci := (parseStringOrBinaryUUID env response.threadACI response.threadACIBinary).1
  let _ ← attemptIf env (aci ≠ UUID.nil && response.type = .accept) (.acceptMessageRequest aci)
  if ← attemptIf env (aci ≠ UUID.nil && (response.type = .accept || response.type.blocks))
      (.setBlocked aci (response.type ≠ .accept)) then
    let groupID := if response.groupID.length = groupIdentifierLength then some response.groupID else none
    handleEvent env (.messageRequestResponse envelope.clientTimestamp aci groupID response)
  else pure false

def handleSyncMessage (msg : SyncMessage) (envelope : Envelope) : Prog Panic State Bool :=
  match msg.content with
  | .keys accountEntropyPool => handleSyncKeys env accountEntropyPool
  | .fetchLatest storageManifest =>
    if storageManifest then do
      record .queueStorageSync true
      pure true
    else pure true
  | .sent sent => handleSyncSent env sent envelope
  | .contacts none => pure true
  | .contacts (some blob) => handleSyncContacts env blob
  | .callEvent raw => handleEvent env (.callSync envelope.clientTimestamp raw)
  | .viewOnceOpen raw => handleEvent env (.viewOnceOpen raw)
  | .deleteForMe raw => handleEvent env (.deleteForMe envelope.clientTimestamp raw)
  | .messageRequestResponse response => handleMessageRequestResponse env response envelope
  | .other =>
    if msg.read ≠ [] then handleEvent env (.readSelf envelope.clientTimestamp msg.read) else pure true

-- handlerSuccess = cli.handleEvent(callEvent) || handlerSuccess
def handleCallEvents : Nat → Bool → List CallEvent → Prog Panic State Bool
  | _, handlerSuccess, [] => pure handlerSuccess
  | index, handlerSuccess, callEvent :: rest => do
    let ok ← handleEvent env (.call callEvent) index
    handleCallEvents (index + 1) (ok || handlerSuccess) rest

def callInfo (sender : ServiceID) : MessageInfo where
  sender := sender.uuid
  chatID := .user sender
  sourceDeviceID := envelope.sourceDeviceID
  serverTimestamp := envelope.serverTimestamp

def typingGroupID (message : TypingMessage) : String :=
  match message.groupID with
  | none => ""
  | some bytes => Base64.encodeToString bytes

variable (timestamp : UInt64)

def withReceipt (result : Bool × Bool) : Bool × Option UInt64 :=
  (result.1, if result.2 then some timestamp else none)

-- The switch over the type of content: whether it was handled, and the timestamp for a receipt.
def handleContentMessage (sender : ServiceID) (isBlocked : Bool) :
    Option ContentMessage → Prog Panic State (Bool × Option UInt64)
  | some (.syncMessage message) => do
    if sender = env.aciServiceID then pure (← handleSyncMessage env message envelope, none)
    else pure (true, none)
  | some (.dataMessage message) => do
    pure (withReceipt message.timestamp (← incomingDataMessage env message sender.uuid sender
      envelope.serverTimestamp isBlocked (some envelope)))
  | some (.editMessage message) => do
    pure (withReceipt ((message.dataMessage.map (·.timestamp)).getD 0) (← incomingEditMessage env message
      sender.uuid sender envelope.serverTimestamp isBlocked))
  | some (.receiptMessage message) => do
    -- Delivery receipts from other own devices are ignored.
    if message.type = .delivery ∧ sender = env.aciServiceID then pure (true, none)
    else pure (← handleEvent env (.receipt sender.uuid message), none)
  | some (.typingMessage message) => do
    -- Nobody cares if typing notifications are dropped.
    let info := messageInfo sender.uuid sender (typingGroupID message) 0 envelope.serverTimestamp
    let _ ← attemptIf env (!isBlocked || typingGroupID message ≠ "")
      (.handleEvent (.chatEvent info (.typing message)) 0)
    pure (true, none)
  | some (.callMessage message) => do
    if isBlocked then pure (true, none)
    else
      let events := parseCallMessage env.codec message (callInfo envelope sender) envelope.clientTimestamp
      pure (← handleCallEvents env 0 true events, none)
  | some (.storyMessage message) => do
    pure (← incomingStoryMessage env message sender.uuid sender envelope.clientTimestamp
      envelope.serverTimestamp isBlocked, none)
  | some (.decryptionErrorMessage _) => pure (true, none)
  | some .nullMessage => pure (true, none)
  | none => pure (true, none)

def deliveredReceiptMessage : Sending.Content :=
  { body := .receipt .delivery [timestamp.toNat] }

-- SendMessage of a delivery receipt. What it returns is only logged.
def sendDeliveryReceipts (aci : UUID) : Prog Panic State PUnit :=
  if (env.recipient aci).any Sending.Recipient.probablyMessageRequest then pure ⟨⟩
  else
    match (Requests.sendContent env.requests (newACIServiceID aci) (deliveredReceiptMessage timestamp) true
      env.sendState).error with
    | some (.panic panic) => throw panic
    | some (.error _) => record (.sendDeliveryReceipt timestamp aci) false
    | none => record (.sendDeliveryReceipt timestamp aci) true

inductive ReturnedError
  | canceled
  | contextDone
  | senderName
  | senderKeyDistribution
  | handlerFailed

-- The error that the body of handleDecryptedResult returns and its handlerSuccess at that point.
structure Outcome where
  retErr : Option ReturnedError := none
  handlerSuccess : Bool := true

variable (result : DecryptionResult)

-- Retry requests are sent in the background.
def startRetryRequest (envelope : Envelope) (sender : Address) :
    Prog Panic State PUnit :=
  if result.retriable then record (.sendRetryRequest sender envelope.clientTimestamp) true else pure ⟨⟩

def handleDecryptionError (err : DecryptionError) (envelope : Envelope) (sender : Address) : Prog Panic State Outcome :=
  if err = .eventAlreadyProcessed then pure {}
  else do
    let handlerSuccess ← attemptIf env
      (envelope.getUrgent && result.contentHint ≠ .implicit && err ≠ .external .oldCounter)
      (.handleEvent (.decryptionError sender.serviceID.uuid err envelope.clientTimestamp) 0)
    startRetryRequest result envelope sender
    pure ⟨if handlerSuccess then none else some .handlerFailed, handlerSuccess⟩

def processSenderKeyDistribution (message : Option Bytes) (sender : Address) : Prog Panic State Bool :=
  match message with
  | none => pure true
  | some message => do
    if ← attempt env (.deserializeSenderKeyDistribution message) then
      attempt env (.processSenderKeyDistribution message sender)
    else pure false

def handlePNISignature (message : Option PniSignatureMessage) (sender : ServiceID) : Prog Panic State Bool :=
  match message with
  | none => pure true
  | some message => handlePNISignatureMessage env sender message

variable (content : Content)

-- The steps between the distribution message and the switch. They return whether the sender is blocked.
def prepareSender (destination sender : ServiceID) : Prog Panic State Bool := do
  let _ ← attemptIf env (destination = env.pniServiceID) (.markNeedsPNISignature sender.uuid)
  let _ ← handlePNISignature env content.pniSignatureMessage sender
  if ← attempt env (.isBlocked sender.uuid) then pure (env.blocked sender.uuid) else pure false

def handleContent (envelope : Envelope) (destination : ServiceID) (sender : Address) :
    Prog Panic State Outcome := do
  if ← processSenderKeyDistribution env content.senderKeyDistributionMessage sender then
    let isBlocked ← prepareSender env content destination sender.serviceID
    match ← handleContentMessage env envelope sender.serviceID isBlocked content.content with
    | (true, some timestamp) => do
      sendDeliveryReceipts env timestamp sender.serviceID.uuid
      pure {}
    | (ok, _) => pure { handlerSuccess := ok }
  else pure { retErr := some .senderKeyDistribution }

def handleDecryptedContent (envelope : Envelope) (destination : ServiceID) (sender : Address) :
    Prog Panic State Outcome :=
  match content.content with
  | some (.decryptionErrorMessage message) => do
    if ← attempt env (.deserializeDecryptionError message) then
      record (.tryHandleRetryRequest message) true
      pure {}
    else pure {}
  | _ => if result.unencrypted then pure {} else handleContent env content envelope destination sender

def handleResult (envelope : Envelope) (destination : ServiceID) :
    Prog Panic State Outcome :=
  match result.senderAddress with
  | none => pure {}
  | some sender =>
    match sender.nameServiceID with
    | none => pure { retErr := some .senderName }
    | some theirs =>
      if theirs.type ≠ serviceIDTypeACI then pure {}
      else
        match result.err, result.content with
        | some err, _ => handleDecryptionError env result err envelope sender
        | none, none => pure {}
        | none, some content => handleDecryptedContent env result content envelope destination sender

def clearPlaintext (handlerSuccess : Bool) : Prog Panic State PUnit :=
  match result.ciphertextHash with
  | none => pure ⟨⟩
  | some hash =>
    if handlerSuccess then do
      if ← attempt env (.clearBufferedEventPlaintext hash) then
        modify (·.clearBufferedEventPlaintext hash)
      else pure ⟨⟩
    else pure ⟨⟩

def Outcome.error (outcome : Outcome) : Option ReturnedError :=
  if outcome.retErr = none ∧ outcome.handlerSuccess = false then some .handlerFailed else outcome.retErr

-- A panic in the body runs the deferred function too. handlerSuccess is still true there, because
-- it is only assigned when a handler returns.
def handleDecryptedResult (envelope : Envelope) (destination : ServiceID) :
    Prog Panic State (Option ReturnedError) :=
  if result.err = some (.external .canceled) then pure (some .canceled)
  else if env.contextDone then pure (some .contextDone)
  else do
    let outcome ← onFault (handleResult env result envelope destination) (clearPlaintext env result true)
    clearPlaintext env result outcome.handlerSuccess
    pure outcome.error

-- The log line has the parsed IDs as objects, and is only built when it will be written.
def logEnvelope (source destination : ServiceID) : Prog Panic State PUnit :=
  if env.debugEnabled ∧ ¬ (hasName destination.type ∧ hasName source.type) then
    throw .raised
  else pure ⟨⟩

inductive Response
  | unmarshalError
  | handlingError (err : ReturnedError)
  | ok

def Envelope.destination : ServiceID :=
  (parseStringOrBinaryServiceID env envelope.destinationServiceID
    envelope.destinationServiceIDBinary).getD emptyServiceID

def Envelope.source : ServiceID :=
  (parseStringOrBinaryServiceID env envelope.sourceServiceID envelope.sourceServiceIDBinary).getD
    emptyServiceID

def incomingAPIMessageHandler (body : Bytes) : Prog Panic State Response :=
  match env.unmarshalEnvelope body with
  | none => pure .unmarshalError
  | some envelope => do
    logEnvelope env (envelope.source env) (envelope.destination env)
    let result ← decryptEnvelope env envelope (envelope.source env) (envelope.destination env)
    match ← handleDecryptedResult env result envelope (envelope.destination env) with
    | some err => pure (.handlingError err)
    | none => pure .ok

-- A device on which every step succeeds, for one envelope and what it decrypts to. The certificate of
-- a sealed sender message names device 2 of the account ending in 3.
def workingEnv : Env where
  aci := UUID.ofByte 1
  pni := UUID.ofByte 2
  deviceID := 1
  debugEnabled := false
  contextDone := false
  parseUUID := fun _ => (UUID.nil, false)
  crypto := Attachments.sampleCrypto
  unmarshalEnvelope := fun _ => some envelope
  unmarshalContent := fun _ => some content
  unmarshalContactDetails := fun _ => none
  codec := emptyCodec
  newAddress := fun _ _ => true
  sealedSenderDecrypt := fun _ _ => .ok {
    messageType := .whisper
    contentHint := .resendable
    senderUUID := UUID.ofByte 3
    senderDeviceID := 2
    contents := .ok ([], []) }
  deserialize := fun _ _ => true
  decrypt := fun _ _ _ => .ok [0x80]
  getBufferedEventError := none
  decryptionTxnError := none
  succeeds := fun _ => true
  identityFound := fun _ _ => false
  blocked := fun _ => false
  groupIdentifier := fun _ => "group"
  updateActiveCall := fun _ _ => true
  getAttachment := fun _ _ => .failed
  detectContentType := fun _ => []
  recipient := fun _ => some {}
  SendState := Unit
  sendState := ()
  requests := Requests.failingServer

def envelopeFor (type : EnvelopeType) : Envelope where
  type := some type
  destinationServiceIDBinary := some (UUID.ofByte 1).bytes

end MautrixSignal.Receive
