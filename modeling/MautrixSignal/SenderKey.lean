import Mathlib.Data.List.AList
import MautrixSignal.Identifiers

namespace MautrixSignal.SenderKey

structure Device where
  serviceID : ServiceID
  deviceID : ℕ
deriving DecidableEq

-- libsignalgo.AccessKey is [16]byte.
abbrev AccessKey := BitVec 128

structure SenderKeySendMeta where
  deviceIDs : List ℕ
  accessKey : AccessKey

abbrev SharedWith := AList fun _ : ServiceID => List ℕ
abbrev DeviceMap := AList fun _ : ServiceID => SenderKeySendMeta

inductive ProfileKeyLookup
  | failed
  | missing
  | underivable
  | found (accessKey : AccessKey)

inductive PreKeyFetch
  | processed
  | unregistered
  | failed
deriving DecidableEq

-- What the stores and the server answer about one recipient. No session list is an error.
structure Lookup where
  hasEndorsement : Bool
  profileKey : ProfileKeyLookup
  sessions : Option (List ℕ)
  fetch : PreKeyFetch := .processed
  sessionsAfterFetch : Option (List ℕ) := none

structure Result where
  successfullySentTo : List ServiceID := []
  failedToSendTo : List ServiceID := []
deriving DecidableEq

structure Devices where
  deviceIDs : DeviceMap := ∅
  senderKeyRecipients : List Device := []
  fallbackRecipients : List ServiceID := []
  result : Result := {}

def Devices.fallBack (out : Devices) (recipient : ServiceID) : Devices :=
  { out with fallbackRecipients := out.fallbackRecipients ++ [recipient] }

def Devices.useSessions (out : Devices) (recipient : ServiceID) (accessKey : AccessKey) :
    Option (List ℕ) → Devices
  | none | some [] => out.fallBack recipient
  | some sessions => { out with
      deviceIDs := out.deviceIDs.insert recipient ⟨sessions, accessKey⟩
      senderKeyRecipients := out.senderKeyRecipients ++ sessions.map (⟨recipient, ·⟩) }

def Devices.add (own : ServiceID) (out : Devices) (recipient : ServiceID) (lookup : Lookup) : Devices :=
  if recipient = own then out
  else if recipient.type ≠ serviceIDTypeACI ∨ lookup.hasEndorsement = false then out.fallBack recipient
  else match lookup.profileKey with
    | .found accessKey =>
      match lookup.sessions with
      | some [] =>
        match lookup.fetch with
        | .processed => out.useSessions recipient accessKey lookup.sessionsAfterFetch
        | .unregistered =>
          { out with result.failedToSendTo := out.result.failedToSendTo ++ [recipient] }
        | .failed => out.fallBack recipient
      | sessions => out.useSessions recipient accessKey sessions
    | _ => out.fallBack recipient

def getDevicesIDs (own : ServiceID) (recipients : List ServiceID) (lookup : ℕ → Lookup) : Devices :=
  recipients.zipIdx.foldl (fun out (recipient, i) => out.add own recipient (lookup i)) {}

structure Diff where
  xak : Option AccessKey := none
  devicesAddedTo : List ServiceID := []
  removedDevices : SharedWith := ∅

def xorAccessKey (xak : Option AccessKey) (other : AccessKey) : Option AccessKey :=
  match xak with
  | none => some other
  | some key => some (key ^^^ other)

-- exslices.Diff: what is only in the first slice, and what is only in the second.
structure SliceDiff where
  diff : List ℕ → List ℕ → List ℕ × List ℕ
  mem_first : ∀ devices others d, d ∈ (diff devices others).1 ↔ d ∈ devices ∧ d ∉ others
  mem_second : ∀ devices others d, d ∈ (diff devices others).2 ↔ d ∈ others ∧ d ∉ devices

def SliceDiff.filtering : SliceDiff where
  diff := fun devices others => (devices.filter (· ∉ others), others.filter (· ∉ devices))
  mem_first := by simp
  mem_second := by simp

variable (slices : SliceDiff)

variable (prevDevices : SharedWith) (newDevices : DeviceMap)

def Diff.visit (diff : Diff) (serviceID : ServiceID) :
    Diff :=
  match prevDevices.lookup serviceID, newDevices.lookup serviceID with
  | none, none => diff
  | some prev, none =>
    { diff with removedDevices := diff.removedDevices.insert serviceID prev }
  | none, some new => { diff with
      xak := xorAccessKey diff.xak new.accessKey
      devicesAddedTo := diff.devicesAddedTo ++ [serviceID] }
  | some prev, some new =>
    let diff := { diff with xak := xorAccessKey diff.xak new.accessKey }
    let (removedDevices, addedDevices) := slices.diff prev new.deviceIDs
    if removedDevices ≠ [] then
      { diff with removedDevices := diff.removedDevices.insert serviceID removedDevices }
    else if addedDevices ≠ [] then
      { diff with devicesAddedTo := diff.devicesAddedTo ++ [serviceID] }
    else diff

-- The service IDs of both maps are visited in some order.
def diffRecipients (order : List ServiceID) : Diff :=
  order.foldl (Diff.visit slices prevDevices newDevices) {}

def IsOrder (order : List ServiceID) : Prop :=
  order.Nodup ∧ ∀ serviceID, serviceID ∈ order ↔ serviceID ∈ prevDevices ∨ serviceID ∈ newDevices

structure SenderKeyInfo where
  distributionID : UUID
  sharedWith : SharedWith
  createdAt : ℕ

def senderKeyMaxAge : ℕ := 14 * 24 * 3600 * 1000000000

-- The keys that were encrypted with: to whom, for which computed devices, and who had been
-- sent the key by then.
structure Encryption where
  key : ℕ
  addressed : List Device
  computed : DeviceMap
  holders : List Device

inductive Phase
  | attempting (retries : ℕ)
  | fallingBack (recipients : List ServiceID) (result : Result)
  | finished (result : Option Result)

-- One call of SendGroupMessage or SendGroupUpdate. Its content carries the distribution
-- message of a key, if the retry handler has put one in.
structure Send where
  recipients : List ServiceID
  timestamp : ℕ
  distributionMessage : Option ℕ := none
  phase : Phase

-- What the retry handler answers: a cached content, the distribution message of a key, or
-- both. A null message has neither.
structure Reply where
  serviceID : ServiceID
  cached : Option ℕ
  distributionMessage : Option ℕ

-- The state for one group. A sender key is named by a number. The last three are the history.
structure World where
  now : ℕ := 0
  info : Option SenderKeyInfo := none
  keyRecords : UUID → Option ℕ := fun _ => none
  nextKey : ℕ := 0
  sends : ℕ → Option Send := fun _ => none
  sendCache : List ((ServiceID × ℕ) × ℕ) := []
  sent : List (ℕ × Device) := []
  encryptions : List Encryption := []
  replies : List Reply := []

namespace World

variable (w : World)

def holders (key : ℕ) : List Device :=
  (w.sent.filter (·.1 = key)).map (·.2)

def distribute (key : ℕ) (serviceID : ServiceID) (reached : List ℕ) : World :=
  { w with sent := w.sent ++ reached.map fun d => (key, ⟨serviceID, d⟩) }

def deleteSenderKey (distributionID : UUID) : World :=
  { w with keyRecords := fun d => if d = distributionID then none else w.keyRecords d }

-- NewSenderKeyDistributionMessage: libsignal makes a key if there is no record.
def newDistributionMessage (distributionID : UUID) : World × ℕ :=
  match w.keyRecords distributionID with
  | some key => (w, key)
  | none => ({ w with
      keyRecords := fun d => if d = distributionID then some w.nextKey else w.keyRecords d
      nextKey := w.nextKey + 1 }, w.nextKey)

def setSend (id : ℕ) (send : Send) : World :=
  { w with sends := fun i => if i = id then some send else w.sends i }

end World

variable (info : SenderKeyInfo)

def SenderKeyInfo.expired (now : ℕ) : Bool :=
  senderKeyMaxAge < now - info.createdAt

-- A distribution message is sent to the devices known at that time, or fails. A failed send
-- may have reached some devices.
inductive DistributionResult
  | sent (devices : List ℕ)
  | devicesChanged (reached : List ℕ)
  | failed (reached : List ℕ)

-- encryptWithSenderKey fails up to GroupEncrypt, or after it.
inductive EncryptResult
  | notEncrypted (sessionNotFound : Bool)
  | notSealed (sessionNotFound : Bool)
  | sealed
deriving DecidableEq

inductive Response
  | ok (uuids404 : List ServiceID)
  | unauthorized
  | staleDevices (handled : Bool)
  | unexpected

structure Attempt where
  ownAddress : Bool := true
  lookup : ℕ → Lookup
  getInfo : Bool := true
  newDistributionID : UUID
  deleteExpired : Bool := true
  order : List ServiceID
  slices : SliceDiff := .filtering
  deleteRemoved : Bool := true
  newDistributionMessage : Bool := true
  serialize : Bool := true
  distribution : ServiceID → DistributionResult
  putInfo : Bool := true
  encrypt : EncryptResult := .sealed
  deleteInfo : Bool := true
  header : Bool := true
  response : Response
  delivered : Bool := true

inductive Next
  | error
  | retry
  | fallBack (recipients : List ServiceID) (result : Result)
deriving DecidableEq

variable (w : World) (a : Attempt)

-- The stored info, or a new one if there is none or it has expired. None is an error.
def currentInfo : World × Option SenderKeyInfo :=
  let new : SenderKeyInfo := ⟨a.newDistributionID, ∅, w.now⟩
  if a.getInfo = false then (w, none)
  else match w.info with
    | none => (w, some new)
    | some info =>
      if info.expired w.now = false then (w, some info)
      else if a.deleteExpired then (w.deleteSenderKey info.distributionID, some new)
      else (w, none)

-- The info to go on with and the users who need a distribution message.
def resetIfRemoved (info : SenderKeyInfo) (deviceIDs : DeviceMap) :
    World × Option (SenderKeyInfo × List ServiceID) :=
  let diff := diffRecipients a.slices info.sharedWith deviceIDs a.order
  if diff.removedDevices.entries = [] then (w, some (info, diff.devicesAddedTo))
  else if a.deleteRemoved then
    (w.deleteSenderKey info.distributionID, some ({ info with sharedWith := ∅ }, deviceIDs.keys))
  else (w, none)

structure Distributing where
  world : World
  info : SenderKeyInfo
  deviceIDs : DeviceMap
  senderKeyRecipients : List Device
  fallbackRecipients : List ServiceID
  needsRetry : Bool := false

def Distributing.send (key : ℕ) (distribution : ServiceID → DistributionResult) (s : Distributing)
    (recipient : ServiceID) : Distributing :=
  match distribution recipient with
  | .sent devices => { s with
      world := s.world.distribute key recipient devices
      info.sharedWith := s.info.sharedWith.insert recipient
        ((s.deviceIDs.lookup recipient).elim [] SenderKeySendMeta.deviceIDs) }
  | .devicesChanged reached => { s with
      world := s.world.distribute key recipient reached
      needsRetry := true }
  | .failed reached => { s with
      world := s.world.distribute key recipient reached
      fallbackRecipients := s.fallbackRecipients ++ [recipient]
      deviceIDs := s.deviceIDs.erase recipient
      senderKeyRecipients := s.senderKeyRecipients.filter (·.serviceID ≠ recipient) }

variable (s : Distributing)

-- The distribution messages and PutSenderKeyInfo, if there is anyone to send one to.
def distributeKey (devicesAddedTo : List ServiceID) :
    World × Option Distributing :=
  if devicesAddedTo = [] then (s.world, some s)
  else if a.newDistributionMessage = false then (s.world, none)
  else
    let (w, key) := s.world.newDistributionMessage s.info.distributionID
    if a.serialize = false then (w, none)
    else
      let s := devicesAddedTo.foldl (Distributing.send key a.distribution) { s with world := w }
      if a.putInfo then
        let w := { s.world with info := some s.info }
        (w, some { s with world := w })
      else (s.world, none)

def afterFailedEncryption (sessionNotFound : Bool) : World × Next :=
  if sessionNotFound ∧ a.deleteInfo then ({ w with info := none }, .retry) else (w, .error)

variable (send : Send)

def handleResponse (s : Distributing) (result : Result) : Response → Next
  | .ok uuids404 =>
    .fallBack s.fallbackRecipients
      ⟨result.successfullySentTo ++ s.deviceIDs.keys.filter (· ∉ uuids404),
        result.failedToSendTo ++ s.deviceIDs.keys.filter (· ∈ uuids404)⟩
  | .unauthorized => .fallBack send.recipients {}
  | .staleDevices handled => if handled then .retry else .error
  | .unexpected => .error

-- encryptWithSenderKey and the multi-recipient send. GroupEncrypt does not find a session
-- if there is no key record.
def encryptAndSend (computed : Devices) (s : Distributing) : World × Next :=
  match a.encrypt, s.world.keyRecords s.info.distributionID with
  | .notEncrypted sessionNotFound, _ => afterFailedEncryption s.world a sessionNotFound
  | _, none => afterFailedEncryption s.world a true
  | encrypt, some key =>
    let w := { s.world with encryptions := s.world.encryptions ++
      [⟨key, s.senderKeyRecipients, computed.deviceIDs, s.world.holders key⟩] }
    match encrypt with
    | .notSealed sessionNotFound => afterFailedEncryption w a sessionNotFound
    | _ =>
      if a.header = false then (w, .error)
      else
        -- The content may itself carry a distribution message.
        let w := match send.distributionMessage with
          | some key' => if a.delivered then
              { w with sent := w.sent ++ s.senderKeyRecipients.map (key', ·) } else w
          | none => w
        (w, handleResponse send s computed.result a.response)

def distributeAndSend (computed : Devices) (w : World) (info : SenderKeyInfo) (devicesAddedTo : List ServiceID) :
    World × Next :=
  let s : Distributing := ⟨w, info, computed.deviceIDs, computed.senderKeyRecipients,
    computed.fallbackRecipients, false⟩
  match distributeKey a s devicesAddedTo with
  | (w, none) => (w, .error)
  | (w, some s) => if s.needsRetry then (w, .retry) else encryptAndSend a send computed s

-- One attempt of sendToGroupWithSenderKey below the retry limit, under encryptionLock.
def attemptSend (own : ServiceID) (w : World) (send : Send) (a : Attempt) : World × Next :=
  let computed := getDevicesIDs own send.recipients a.lookup
  if computed.senderKeyRecipients = [] then (w, .fallBack send.recipients computed.result)
  else match currentInfo w a with
    | (w, none) => (w, .error)
    | (w, some info) =>
      match resetIfRemoved w a info computed.deviceIDs with
      | (w, none) => (w, .error)
      | (w, some (info, devicesAddedTo)) => distributeAndSend a send computed w info devicesAddedTo

def Next.phase (retries : ℕ) : Next → Phase
  | .error => .finished none
  | .retry => .attempting (retries + 1)
  | .fallBack recipients result => .fallingBack recipients result

def addSendCache (id : ℕ) (send : Send) : World :=
  { w with sendCache := w.sendCache ++ send.recipients.map fun r => ((r, send.timestamp), id) }

def sendToGroupWithSenderKey (own : ServiceID) (w : World) (id : ℕ) (a : Attempt) : Option World := do
  let send ← w.sends id
  match send.phase with
  | .attempting retries =>
    if 3 ≤ retries then some (w.setSend id { send with phase := .fallingBack send.recipients {} })
    else if a.ownAddress = false then some (w.setSend id { send with phase := .finished none })
    else
      let w := if retries = 0 then addSendCache w id send else w
      let (w, next) := attemptSend own w send a
      some (w.setSend id { send with phase := next.phase retries })
  | _ => none

section OtherSteps

variable (w : World)

-- SendGroupMessage, with the members of the group as they are now.
def sendGroupMessage (id : ℕ) (recipients : List ServiceID) (timestamp : ℕ) : Option World :=
  if w.sends id = none then
    some (w.setSend id { recipients, timestamp, phase := .attempting 0 })
  else none

-- SendGroupUpdate fills the cache and never uses the sender key.
def sendGroupUpdate (id : ℕ) (recipients : List ServiceID) (timestamp : ℕ) : Option World :=
  if w.sends id = none then
    let send : Send := { recipients, timestamp, phase := .fallingBack recipients {} }
    some ((addSendCache w id send).setSend id send)
  else none

-- sendToGroup sends the content to one recipient after the other, without the lock.
def sendToGroup (own : ServiceID) (id : ℕ) (successful : Bool) (reached : List ℕ) : Option World := do
  let send ← w.sends id
  match send.phase with
  | .fallingBack [] result => some (w.setSend id { send with phase := .finished (some result) })
  | .fallingBack (recipient :: rest) result =>
    if recipient = own then
      some (w.setSend id { send with phase := .fallingBack rest result })
    else
      let w := match send.distributionMessage with
        | some key => w.distribute key recipient reached
        | none => w
      let result : Result := if successful then
          { result with successfullySentTo := result.successfullySentTo ++ [recipient] }
        else { result with failedToSendTo := result.failedToSendTo ++ [recipient] }
      some (w.setSend id { send with phase := .fallingBack rest result })
  | _ => none

-- A retry receipt from a device in the group. The cached content, if it is still there, is the one of a
-- send. No archive result is an error before that.
structure RetryRequest where
  sender : Device
  timestamp : ℕ
  cached : Option ℕ
  didArchiveSession : Option Bool := some false
  getInfo : Bool := true
  ownAddress : Bool := true
  newDistributionMessage : Bool := true
  serialize : Bool := true
  reached : List ℕ

-- The distribution message for the sender of a retry receipt. None is an error.
def retryDistribution (r : RetryRequest) : World × Option (Option ℕ) :=
  match w.info with
  | none => (w, some none)
  | some info =>
    if r.sender.deviceID ∈ (info.sharedWith.lookup r.sender.serviceID).getD [] then
      if r.newDistributionMessage = false then (w, none)
      else
        let (w, key) := w.newDistributionMessage info.distributionID
        if r.serialize = false then (w, none) else (w, some (some key))
    else (w, some none)

-- retryContent.SenderKeyDistributionMessage = skdmBytes, on the content the send works with
def setCachedDistribution (cached : Option ℕ) (skdm : Option ℕ) : World :=
  match cached with
  | none => w
  | some id => { w with sends := fun i =>
    if i = id then (w.sends i).map fun send => { send with distributionMessage := skdm } else w.sends i }

-- sendContent with the retry content, which goes to all devices of the user
def World.reply (r : RetryRequest) (skdm : Option ℕ) : World :=
  let w := { w with replies := w.replies ++ [⟨r.sender.serviceID, r.cached, skdm⟩] }
  match skdm with
  | some key => w.distribute key r.sender.serviceID r.reached
  | none => w

def handleRetryRequest (r : RetryRequest) : Option World :=
  match r.didArchiveSession with
  | none => some w
  | some didArchiveSession =>
    if r.getInfo = false ∨ r.ownAddress = false then some w
    else match retryDistribution w r with
      | (w, none) => some w
      | (w, some skdm) =>
        let w := setCachedDistribution w r.cached skdm
        if r.cached = none ∧ skdm = none ∧ didArchiveSession = false then some w
        else some (w.reply r skdm)

def resetSenderKey (getInfo ownAddress deleteKey deleteInfo : Bool) : Option World :=
  match w.info with
  | none => some w
  | some info =>
    if getInfo = false ∨ ownAddress = false ∨ deleteKey = false then some w
    else
      let w := w.deleteSenderKey info.distributionID
      if deleteInfo then some { w with info := none } else some w

end OtherSteps

inductive Action
  | tick (nanoseconds : ℕ)
  | sendGroupMessage (id : ℕ) (recipients : List ServiceID) (timestamp : ℕ)
  | sendGroupUpdate (id : ℕ) (recipients : List ServiceID) (timestamp : ℕ)
  | attempt (id : ℕ) (a : Attempt)
  | sendToGroup (id : ℕ) (successful : Bool) (reached : List ℕ)
  | retryRequest (r : RetryRequest)
  | resetSenderKey (getInfo ownAddress deleteKey deleteInfo : Bool)

def act (own : ServiceID) (w : World) : Action → Option World
  | .tick nanoseconds => some { w with now := w.now + nanoseconds }
  | .sendGroupMessage id recipients timestamp => sendGroupMessage w id recipients timestamp
  | .sendGroupUpdate id recipients timestamp => sendGroupUpdate w id recipients timestamp
  | .attempt id a => sendToGroupWithSenderKey own w id a
  | .sendToGroup id successful reached => sendToGroup w own id successful reached
  | .retryRequest r => handleRetryRequest w r
  | .resetSenderKey getInfo ownAddress deleteKey deleteInfo =>
    resetSenderKey w getInfo ownAddress deleteKey deleteInfo

-- The maps are iterated in some order, and the send cache returns what was put into it.
def Possible (own : ServiceID) (w : World) : Action → Prop
  | .attempt id a => ∀ send info, w.sends id = some send →
      (currentInfo w a).2 = some info →
      IsOrder info.sharedWith (getDevicesIDs own send.recipients a.lookup).deviceIDs a.order
  | .retryRequest r => ∀ id, r.cached = some id → ((r.sender.serviceID, r.timestamp), id) ∈ w.sendCache
  | _ => True

def Step (own : ServiceID) (w : World) (action : Action) (w' : World) : Prop :=
  Possible own w action ∧ act own w action = some w'

end MautrixSignal.SenderKey
