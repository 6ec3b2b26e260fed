import MautrixSignal.Container
import MautrixSignal.Lib.Transaction
import MautrixSignal.Receive
import MautrixSignal.Recipients

namespace MautrixSignal.Transfer

open Lib Container

structure TransferArchiveMetadata where
  cdn : UInt32 := 0
  key : String := ""
  error : String := ""

inductive Registration
  | registered | notRegistered | unknown
deriving DecidableEq

structure Contact where
  aci : Bytes := []
  pni : Bytes := []
  e164 : Option UInt64 := none
  profileKey : Bytes := []
  profileGivenName : Option String := none
  profileFamilyName : Option String := none
  profileSharing : Bool := false
  blocked : Bool := false
  registration : Registration := .unknown

inductive Destination
  | contact (contact : Contact)
  | group (masterKey : Bytes)
  | self
  | other

structure Recipient where
  id : UInt64
  destination : Option Destination

structure Chat where
  id : UInt64
  recipientID : UInt64

inductive ChatItemKind
  | directStoryReplyMessage | updateMessage | missing | supported

structure ChatItem where
  chatID : UInt64
  authorID : UInt64
  dateSent : UInt64
  kind : ChatItemKind

inductive Frame
  | recipient (recipient : Recipient)
  | chat (chat : Chat)
  | chatItem (item : ChatItem)
  | other

structure BackupInfo where
  version : UInt64
  mediaRootBackupKey : Bytes

-- Every query is scoped to one account_id, so the tables hold the rows of one account.
structure RecipientRow where
  recipientID : UInt64
  aci : Option UUID
  pni : Option UUID
  groupMasterKey : Option String
  data : Bytes

structure ChatRow where
  chatID : UInt64
  recipientID : UInt64
  data : Bytes
  latestMessageID : Option UInt64 := none
  totalMessageCount : Option Nat := none

structure MessageRow where
  chatID : UInt64
  senderID : UInt64
  messageID : UInt64
  data : Bytes

structure Backup where
  recipients : List RecipientRow := []
  chats : List ChatRow := []
  messages : List MessageRow := []

namespace Backup

variable (backup : Backup)

def hasRecipient (id : UInt64) : Bool := backup.recipients.any (·.recipientID = id)
def hasChat (id : UInt64) : Bool := backup.chats.any (·.chatID = id)

-- addBackupRecipientQuery. The primary key refuses a second row.
def addRecipient (row : RecipientRow) : Option Backup :=
  if backup.hasRecipient row.recipientID then none
  else some { backup with recipients := backup.recipients ++ [row] }

def addChat (row : ChatRow) : Option Backup :=
  if backup.hasChat row.chatID ∨ backup.hasRecipient row.recipientID = false then none
  else some { backup with chats := backup.chats ++ [row] }

-- addBackupChatItemQuery does nothing on a conflict.
def addMessage (row : MessageRow) : Option Backup :=
  if backup.messages.any fun old => old.senderID = row.senderID ∧ old.messageID = row.messageID then some backup
  else if backup.hasChat row.chatID ∧ backup.hasRecipient row.senderID then
    some { backup with messages := backup.messages ++ [row] }
  else none

def recalculateChatCounts : Backup :=
  { backup with chats := backup.chats.map fun chat =>
      let own := backup.messages.filter (·.chatID = chat.chatID)
      { chat with
        latestMessageID := (own.map MessageRow.messageID).max?
        totalMessageCount := some own.length } }

end Backup

structure Tables where
  contacts : Recipients.Table
  masterKeys : String → Option String := fun _ => none
  unregistered : UUID → Bool := fun _ => false
  backup : Backup := {}
  devices : DeviceTable := fun _ => none

-- The device and the block cache are memory of the client, the tables are the database.
structure State (ρ : Type) where
  device : DeviceData ρ
  blockCache : UUID → Option Bool := fun _ => none
  tables : Tables

-- A transaction that fails gives the tables back, and nothing else.
def rollback {ρ : Type} (saved after : State ρ) : State ρ := { after with tables := saved.tables }

inductive TransferError
  | archive (text : String)          -- transfer archive error
  | noEphemeralBackupKey             -- no ephemeral backup key
  | deriveBackupID | deriveMessageBackupKey | getAESKey | getHMACKey
  | createTemp | download | seekStart | stat
  | hashFile | readHash | checksumMismatch
  | beginTxn | clearBackup
  | gzipReader | readChunkLength | readChunk
  | cancelled
  | unmarshalInfo | unsupportedVersion (version : UInt64) | mediaRootBackupKeyMismatch
  | unmarshalFrame
  | marshalRecipient (id : UInt64) | saveRecipient (id : UInt64) | saveMasterKey (id : UInt64)
  | addRecipient (id : UInt64)
  | marshalChat (id : UInt64) | addChat (id : UInt64)
  | marshalChatItem (dateSent : UInt64) | addChatItem (dateSent : UInt64)
  | closeGzip | readZeroBuffer | unexpectedData | closeDecrypter
  | messageCounts
  | saveDevice (inner : PutDeviceError)
  | commit
  -- The call does not return an error here. It panics.
  | panicked
deriving DecidableEq

structure FrameFaults where
  contact : Recipients.Faults := {}
  markUnregistered : Bool := false
  storeMasterKey : Bool := false
  insert : Bool := false

-- The decompressed stream with what its readers report at the end, and what follows the stream in the file.
structure Archive where
  decompressed : Bytes
  streamFails : Bool := false
  closeFails : Bool := false
  padding : Bytes := []
  paddingFails : Bool := false
  remaining : Bool := false

structure Env (ρ : Type) where
  accountID : UUID
  -- libsignal
  deriveBackupID : BackupKey → ServiceID → Option Bytes
  messageBackupKey : BackupKey → Bytes → Option Bytes
  getAESKey : Bytes → Option Bytes
  getHMACKey : Bytes → Option Bytes
  groupIdentifier : Bytes → Option String
  -- the temporary file and its download
  createTempFails : Bool := false
  download : TransferArchiveMetadata → Option Bytes
  seekFails : Bool := false
  statFails : Bool := false
  hashFileFails : Bool := false
  seekAgainFails : Bool := false
  hmac : Bytes → Bytes → Bytes
  -- aesDecryptStream and gzip
  openArchive : Bytes → Bytes → Bytes → Option Archive
  -- protobuf and text
  unmarshalInfo : Bytes → Option BackupInfo
  unmarshalFrame : Bytes → Option Frame
  marshalRecipient : Recipient → Option Bytes
  marshalChat : Chat → Option Bytes
  marshalChatItem : ChatItem → Option Bytes
  trimSpace : String → String
  -- the context and the database, by the number of the chunk
  cancelled : Nat → Bool := fun _ => false
  order : Recipients.RowOrder := .stored
  frameFaults : Nat → FrameFaults := fun _ => {}
  beginTxnFails : Bool := false
  clearMessagesFails : Bool := false
  clearChatsFails : Bool := false
  clearRecipientsFails : Bool := false
  messageCountsFail : Bool := false
  container : Container.Env ρ
  commitFails : Bool := false

section Model

variable {ρ : Type} (env : Env ρ)

abbrev Transferring (ρ α : Type) := Prog TransferError (State ρ) α

variable (fails : Bool) (error : TransferError)

def failIf : Transferring ρ PUnit :=
  if fails then throw error else pure ()

def raise (error : Option TransferError) : Transferring ρ PUnit :=
  match error with
  | some error => throw error
  | none => pure ()

def require {α : Type} (value : Option α) (error : TransferError) : Transferring ρ α :=
  match value with
  | some a => pure a
  | none => throw error

def modifyBackup (f : Backup → Backup) : Transferring ρ PUnit :=
  modify fun s => { s with tables := { s.tables with backup := f s.tables.backup } }

def insertBackup (insert : Backup → Option Backup) :
    Transferring ρ PUnit := do
  failIf fails error
  let backup ← require (insert (← get).tables.backup) error
  modifyBackup fun _ => backup

def tryCastUUID (b : Bytes) : UUID := if h : b.length = 16 then ⟨b, h⟩ else .nil

variable (contact : Contact)

def profileName : String :=
  contact.profileGivenName.getD "" ++ " " ++ contact.profileFamilyName.getD ""

def updatedRecipient (old : Recipients.Recipient) : Recipients.Recipient :=
  { old with
    e164 := match contact.e164 with
      | some e164 => "+" ++ toString e164.toNat
      | none => old.e164
    profile := { old.profile with
      key := if h : contact.profileKey.length = Recipients.profileKeyLength then ⟨contact.profileKey, h⟩
        else old.profile.key
      name := if contact.profileGivenName.isSome ∨ contact.profileFamilyName.isSome then
          env.trimSpace (profileName contact)
        else old.profile.name }
    whitelisted := if contact.profileSharing ∧ old.whitelisted ≠ some true then some true else old.whitelisted
    blocked := contact.blocked }

def contactUpdater : Recipients.Updater where
  run old :=
    let new := updatedRecipient env contact old
    (new, .ok ((contact.profileSharing && old.whitelisted ≠ some true) || old.e164 ≠ new.e164 ||
      old.profile.key ≠ new.profile.key || old.profile.name ≠ new.profile.name || old.blocked ≠ new.blocked))
  keeps_aci _ := rfl
  keeps_pni _ := rfl

def loadAndUpdateRecipient (faults : Recipients.Faults) (aci pni : UUID) (updater : Recipients.Updater)
    (error : TransferError) : Transferring ρ PUnit := do
  let s ← get
  let out := Recipients.loadAndUpdateRecipient env.order faults true ⟨s.tables.contacts, s.blockCache⟩ aci pni updater
  modify fun s =>
    { s with blockCache := out.store.blockCache, tables := { s.tables with contacts := out.store.table } }
  failIf out.err.isSome error

-- A failing statement is only logged.
def markUnregistered (aci : UUID) (unregistered : Bool) : Transferring ρ PUnit :=
  if fails then pure ()
  else modify fun s =>
    { s with tables := { s.tables with
      unregistered := fun other => if other = aci then unregistered else s.tables.unregistered other } }

def storeMasterKey (groupID key : String) (error : TransferError) : Transferring ρ PUnit := do
  failIf fails error
  modify fun s =>
    { s with tables := { s.tables with
      masterKeys := fun other => if other = groupID then some key else s.tables.masterKeys other } }

variable (faults : FrameFaults)

def saveContact (id : UInt64) (contact : Contact) (aci pni : UUID) :
    Transferring ρ PUnit :=
  if aci ≠ .nil ∨ pni ≠ .nil then
    loadAndUpdateRecipient env faults.contact aci pni (contactUpdater env contact) (.saveRecipient id)
  else pure ()

def markContact (contact : Contact) (aci : UUID) : Transferring ρ PUnit :=
  if aci ≠ .nil then markUnregistered faults.markUnregistered aci (contact.registration = .notRegistered)
  else pure ()

def saveMasterKey (id : UInt64) (masterKey : Bytes) : Transferring ρ PUnit :=
  if masterKey.length = Receive.groupMasterKeyLength then
    match env.groupIdentifier masterKey with
    | none => pure ()
    | some groupID =>
      storeMasterKey faults.storeMasterKey groupID (Base64.encodeToString masterKey) (.saveMasterKey id)
  else pure ()

-- The part of AddBackupRecipient before the insert. The results are the ACI, the PNI and the group master key.
def saveDestination (id : UInt64) : Option Destination →
    Transferring ρ (UUID × UUID × String)
  | some (.contact contact) => do
    saveContact env faults id contact (tryCastUUID contact.aci) (tryCastUUID contact.pni)
    markContact faults contact (tryCastUUID contact.aci)
    pure (tryCastUUID contact.aci, tryCastUUID contact.pni, "")
  | some (.group masterKey) => do
    saveMasterKey env faults id masterKey
    pure (.nil, .nil, Base64.encodeToString masterKey)
  | some .self => pure (env.accountID, .nil, "")
  | some .other => pure (.nil, .nil, "")
  | none => pure (.nil, .nil, "")

def nonZeroKey (key : String) : Option String := if key = "" then none else some key

def addBackupRecipient (recipient : Recipient) : Transferring ρ PUnit := do
  let data ← require (env.marshalRecipient recipient) (.marshalRecipient recipient.id)
  let ids ← saveDestination env faults recipient.id recipient.destination
  insertBackup faults.insert (.addRecipient recipient.id) fun backup =>
    backup.addRecipient ⟨recipient.id, Recipients.Table.nullableUUID ids.1,
      Recipients.Table.nullableUUID ids.2.1, nonZeroKey ids.2.2, data⟩

def addBackupChat (chat : Chat) : Transferring ρ PUnit := do
  let data ← require (env.marshalChat chat) (.marshalChat chat.id)
  insertBackup faults.insert (.addChat chat.id) fun backup =>
    backup.addChat { chatID := chat.id, recipientID := chat.recipientID, data := data }

def addBackupChatItem (item : ChatItem) : Transferring ρ PUnit := do
  let data ← require (env.marshalChatItem item) (.marshalChatItem item.dateSent)
  insertBackup faults.insert (.addChatItem item.dateSent) fun backup =>
    backup.addMessage ⟨item.chatID, item.authorID, item.dateSent, data⟩

def processFrame : Frame → Transferring ρ PUnit
  | .recipient recipient =>
    if recipient.destination.isNone then pure () else addBackupRecipient env faults recipient
  | .chat chat => addBackupChat env faults chat
  | .chatItem item =>
    match item.kind with
    | .directStoryReplyMessage | .updateMessage | .missing => pure ()
    | .supported => addBackupChatItem env faults item
  | .other => pure ()

def backupVersion : UInt64 := 1

-- The first chunk is the backup info. Slicing a nil key is a panic.
def processInfo (buf : Bytes) : Transferring ρ PUnit := do
  let info ← require (env.unmarshalInfo buf) .unmarshalInfo
  failIf (info.version ≠ backupVersion) (.unsupportedVersion info.version)
  let key ← require (← get).device.mediaRootBackupKey .panicked
  failIf (info.mediaRootBackupKey ≠ key.bytes) .mediaRootBackupKeyMismatch

def processChunk (index : Nat) (buf : Bytes) : Transferring ρ PUnit := do
  failIf (env.cancelled index) .cancelled
  if index = 0 then processInfo env buf
  else
    let frame ← require (env.unmarshalFrame buf) .unmarshalFrame
    processFrame env (env.frameFaults index) frame

def processChunks : Nat → List Bytes → Transferring ρ PUnit
  | _, [] => pure ()
  | index, buf :: rest => do
    processChunk env index buf
    processChunks (index + 1) rest

-- The longest slice that make can return.
def maxAlloc : Nat := 2 ^ 48

-- The chunks the callback gets, and the error after the last of them. An empty chunk is skipped.
def splitChunksStream (streamFails : Bool) (input : Bytes) : List Bytes × Option TransferError :=
  if input = [] then ([], if streamFails then some .readChunkLength else none)
  else
    match _h : Receive.readUvarint input with
    | none => ([], some .readChunkLength)
    | some (msgLen, rest) =>
      if msgLen = 0 then splitChunksStream streamFails rest
      else if maxAlloc < msgLen then ([], some .panicked)
      else if rest.length < msgLen then ([], some .readChunk)
      else
        let (chunks, error) := splitChunksStream streamFails (rest.drop msgLen)
        (rest.take msgLen :: chunks, error)
termination_by input.length
decreasing_by
  · exact Receive.readUvarint_length _h
  · have hlt := Receive.readUvarint_length _h
    simp only [List.length_drop]
    omega

def processTransferArchive (aesKey hmacKey file : Bytes) : Transferring ρ PUnit := do
  let archive ← require (env.openArchive aesKey hmacKey file) .gzipReader
  let split := splitChunksStream archive.streamFails archive.decompressed
  processChunks env 0 split.1
  raise split.2
  failIf archive.closeFails .closeGzip
  failIf (archive.padding.any (· ≠ 0)) .unexpectedData
  failIf archive.paddingFails .readZeroBuffer
  failIf archive.remaining .closeDecrypter

def clearBackup : Transferring ρ PUnit := do
  failIf env.clearMessagesFails .clearBackup
  modifyBackup fun backup => { backup with messages := [] }
  failIf env.clearChatsFails .clearBackup
  modifyBackup fun backup => { backup with chats := [] }
  failIf env.clearRecipientsFails .clearBackup
  modifyBackup fun backup => { backup with recipients := [] }

def recalculateChatCounts : Transferring ρ PUnit := do
  failIf env.messageCountsFail .messageCounts
  modifyBackup Backup.recalculateChatCounts

def fillBackup (aesKey hmacKey file : Bytes) : Transferring ρ PUnit := do
  clearBackup env
  processTransferArchive env aesKey hmacKey file
  recalculateChatCounts env

def putDevice : Transferring ρ PUnit := do
  let s ← get
  match Container.putDevice env.container s.tables.devices s.device with
  | .error error => throw (.saveDevice error)
  | .ok devices => modify fun s => { s with tables := { s.tables with devices := devices } }

variable (device : DeviceData ρ)

def dropKey : DeviceData ρ := { device with ephemeralBackupKey := none }

def processInTxn (aesKey hmacKey file : Bytes) : Transferring ρ PUnit := do
  fillBackup env aesKey hmacKey file
  modify fun s => { s with device := dropKey s.device }
  putDevice env

def deriveTransferKeys : Except TransferError (Bytes × Bytes) := do
  let some key := device.ephemeralBackupKey | .error .noEphemeralBackupKey
  let some backupID := env.deriveBackupID key device.aciServiceID | .error .deriveBackupID
  let some mbk := env.messageBackupKey key backupID | .error .deriveMessageBackupKey
  let some aesKey := env.getAESKey mbk | .error .getAESKey
  let some hmacKey := env.getHMACKey mbk | .error .getHMACKey
  .ok (aesKey, hmacKey)

-- A file shorter than a MAC has nothing to hash, and then the MAC cannot be read.
def verifyMACStream (hmacKey file : Bytes) : Except TransferError Bool :=
  if env.hashFileFails then .error .hashFile
  else if file.length < Attachments.macLength then .error .readHash
  else
    let size := file.length - Attachments.macLength
    .ok (file.drop size = env.hmac hmacKey (file.take size))

-- FetchAndProcessTransfer up to the transaction. It only reads the device.
def openTransfer (metadata : TransferArchiveMetadata) (device : DeviceData ρ) :
    Except TransferError (Bytes × Bytes × Bytes) := do
  if metadata.error ≠ "" then .error (.archive metadata.error)
  let (aesKey, hmacKey) ← deriveTransferKeys env device
  if env.createTempFails then .error .createTemp
  let some file := env.download metadata | .error .download
  if env.seekFails then .error .seekStart
  if env.statFails then .error .stat
  let matching ← verifyMACStream env hmacKey file
  if matching = false then .error .checksumMismatch
  if env.seekAgainFails then .error .seekStart
  .ok (aesKey, hmacKey, file)

def fetchAndProcessTransfer (metadata : TransferArchiveMetadata) : Transferring ρ PUnit := do
  match openTransfer env metadata (← get).device with
  | .error error => throw error
  | .ok (aesKey, hmacKey, file) =>
    transact rollback (if env.beginTxnFails then some .beginTxn else none)
      (if env.commitFails then some .commit else none) (processInTxn env aesKey hmacKey file)

end Model

end MautrixSignal.Transfer
