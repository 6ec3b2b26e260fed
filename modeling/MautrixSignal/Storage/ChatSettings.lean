import MautrixSignal.ChatSettings
import MautrixSignal.Receive.Decrypt
import MautrixSignal.Storage.Devices

namespace MautrixSignal.Storage

open Receive

-- rest is the encoding of the fields that the code does not read, the unknown ones among them.
structure ContactRecord where
  aci : Bytes := []
  aciBinary : Option Bytes := none
  pni : Bytes := []
  pniBinary : Option Bytes := none
  e164 : Bytes := []
  profileKey : Bytes := []
  givenName : String := ""
  familyName : String := ""
  systemGivenName : String := ""
  systemFamilyName : String := ""
  nickname : Option (String × String) := none
  blocked : Bool := false
  whitelisted : Bool := false
  mutedUntilTimestamp : UInt64 := 0
  archived : Bool := false
  markedUnread : Bool := false
  rest : Bytes := []
deriving DecidableEq

structure GroupV2Record where
  masterKey : Bytes := []
  mutedUntilTimestamp : UInt64 := 0
  archived : Bool := false
  markedUnread : Bool := false
  rest : Bytes := []
deriving DecidableEq

structure PinnedContact where
  serviceID : Bytes := []
  serviceIDBinary : Bytes := []
  e164 : Bytes := []
  rest : Bytes := []
deriving DecidableEq

inductive PinnedConversation
  | contact (contact : PinnedContact)
  | groupMasterKey (masterKey : Bytes)
  | other (raw : Bytes)
deriving DecidableEq

structure AccountRecord where
  pinnedConversations : List PinnedConversation := []
  profileKey : Bytes := []
  rest : Bytes := []
deriving DecidableEq

inductive StorageRecord
  | contact (contact : ContactRecord)
  | groupV2 (group : GroupV2Record)
  | account (account : AccountRecord)
  | other (raw : Bytes)
deriving DecidableEq

-- ChatRef. A chat with a group ID is a group.
structure ChatRef where
  serviceID : ServiceID := emptyServiceID
  groupID : String := ""
  groupMasterKey : Option Bytes := none

structure ChatSettingsChange where
  mutedUntil : Option UInt64 := none
  archived : Option Bool := none
  markedUnread : Option Bool := none
  pinned : Option Bool := none

def groupMasterKeyLength : Nat := 32
def maxPinnedChats : Nat := 4

def errNoStorageRecord : String := "no storage service record for this chat"
def errNoAccountRecord : String := errNoStorageRecord ++ ": no account record"
def errTooManyPinnedChats : String := "too many pinned chats"

def contactChatID (aci pni : UUID) : Option ChatID :=
  if aci ≠ UUID.nil then some (.user (newACIServiceID aci))
  else if pni ≠ UUID.nil then some (.user (newPNIServiceID pni))
  else none

def contactRecordSettings (contact : ContactRecord) : ChatSettings where
  mutedUntil := contact.mutedUntilTimestamp
  archived := contact.archived
  markedUnread := contact.markedUnread

def groupRecordSettings (group : GroupV2Record) : ChatSettings where
  mutedUntil := group.mutedUntilTimestamp
  archived := group.archived
  markedUnread := group.markedUnread

def ServiceID.toBytes (serviceID : ServiceID) : Bytes :=
  if serviceID.type = serviceIDTypeACI then serviceID.uuid.bytes
  else serviceID.type :: serviceID.uuid.bytes

def hexDigit (n : UInt8) : UInt8 := if n < 10 then 48 + n else 87 + n

def hexDigits (bytes : Bytes) : Bytes := bytes.flatMap fun b => [hexDigit (b / 16), hexDigit (b % 16)]

def UUID.text (uuid : UUID) : Bytes :=
  hexDigits (uuid.bytes.take 4) ++ 45 :: hexDigits ((uuid.bytes.drop 4).take 2) ++
    45 :: hexDigits ((uuid.bytes.drop 6).take 2) ++ 45 :: hexDigits ((uuid.bytes.drop 8).take 2) ++
    45 :: hexDigits (uuid.bytes.drop 10)

def ServiceID.text (serviceID : ServiceID) : Bytes :=
  if serviceID.type = serviceIDTypeACI then UUID.text serviceID.uuid
  else pniPrefix ++ UUID.text serviceID.uuid

namespace ChatSettingsChange

def needsChatRecord (change : ChatSettingsChange) : Bool :=
  change.mutedUntil.isSome || change.archived.isSome || change.markedUnread.isSome

def wantedRecordTypes (change : ChatSettingsChange) (chat : ChatRef) : List ItemType :=
  (if change.needsChatRecord || (change.pinned.isSome && chat.groupID = "") then
    [if chat.groupID ≠ "" then .groupV2 else .contact] else []) ++
  (if change.pinned.isSome then [.account] else [])

end ChatSettingsChange

section Records

variable (env : Env)

def groupIDFromMasterKeyBytes (masterKey : Bytes) : Option String :=
  if masterKey.length = groupMasterKeyLength ∧ env.succeeds (.groupIdentifierFromMasterKey masterKey) then
    some (env.groupIdentifier masterKey)
  else none

def ContactRecord.ids (contact : ContactRecord) : UUID × UUID :=
  ((parseStringOrBinaryUUID env contact.aci contact.aciBinary).1,
    (parseStringOrBinaryUUID env contact.pni contact.pniBinary).1)

def pinnedContactServiceID (contact : PinnedContact) : Option ServiceID :=
  let binary := if contact.serviceIDBinary ≠ [] then serviceIDFromBytes contact.serviceIDBinary else none
  let text := if contact.serviceID ≠ [] then serviceIDFromString env contact.serviceID else none
  (binary.filter fun sid => !ServiceID.isEmpty sid).or (text.filter fun sid => !ServiceID.isEmpty sid)

def pinnedChatID : PinnedConversation → Option ChatID
  | .contact contact => (pinnedContactServiceID env contact).map .user
  | .groupMasterKey masterKey => (groupIDFromMasterKeyBytes env masterKey).map .group
  | .other _ => none

def pinnedChatIDs (account : AccountRecord) : List ChatID :=
  account.pinnedConversations.filterMap (pinnedChatID env)

variable (record : StorageRecord) (chat : ChatRef)

def recordMatchesChat : Bool :=
  match record with
  | .contact contact =>
    if chat.groupID ≠ "" ∨ ServiceID.isEmpty chat.serviceID then false
    else if chat.serviceID.type = serviceIDTypeACI then (contact.ids env).1 = chat.serviceID.uuid
    else (contact.ids env).2 = chat.serviceID.uuid
  | .groupV2 group =>
    if chat.groupID = "" then false
    else groupIDFromMasterKeyBytes env group.masterKey = some chat.groupID
  | .account _ | .other _ => false

variable (snapshot : StorageSnapshot StorageRecord)

def findChatRecord (chat : ChatRef) :
    Option (DecryptedStorageRecord StorageRecord) :=
  snapshot.records.find? fun record => recordMatchesChat env record.storageRecord chat

def StorageRecord.account? : StorageRecord → Option AccountRecord
  | .account record => some record
  | _ => none

def findAccountRecord :
    Option (DecryptedStorageRecord StorageRecord) :=
  snapshot.records.find? fun record => record.storageRecord.account?.isSome

-- One field of a record: its new value, and whether that is a change.
def setField {α : Type} [DecidableEq α] (old : α) (wanted : Option α) : α × Bool :=
  match wanted with
  | none => (old, false)
  | some new => (new, old ≠ new)

variable (change : ChatSettingsChange)

def applyChatFields : Option StorageRecord × Bool :=
  match record with
  | .contact contact =>
    let mutedUntil := setField contact.mutedUntilTimestamp change.mutedUntil
    let archived := setField contact.archived change.archived
    let markedUnread := setField contact.markedUnread change.markedUnread
    (some (.contact { contact with
        mutedUntilTimestamp := mutedUntil.1
        archived := archived.1
        markedUnread := markedUnread.1 }),
      mutedUntil.2 || archived.2 || markedUnread.2)
  | .groupV2 group =>
    let mutedUntil := setField group.mutedUntilTimestamp change.mutedUntil
    let archived := setField group.archived change.archived
    let markedUnread := setField group.markedUnread change.markedUnread
    (some (.groupV2 { group with
        mutedUntilTimestamp := mutedUntil.1
        archived := archived.1
        markedUnread := markedUnread.1 }),
      mutedUntil.2 || archived.2 || markedUnread.2)
  | .account _ | .other _ => (none, false)

def pinMatchesChat : PinnedConversation → Bool
  | .contact contact =>
    (pinnedContactServiceID env contact).any fun sid => chat.groupID = "" && sid = chat.serviceID
  | .groupMasterKey masterKey =>
    if chat.groupID = "" then false
    else groupIDFromMasterKeyBytes env masterKey = some chat.groupID
  | .other _ => false

variable (contactRecord : Option ContactRecord)

def newPinEntry (existing : List PinnedConversation) :
    Except String PinnedConversation :=
  if chat.groupID ≠ "" then
    match chat.groupMasterKey with
    | some masterKey =>
      if masterKey.length = groupMasterKeyLength then .ok (.groupMasterKey masterKey)
      else .error "can't pin group without its master key"
    | none => .error "can't pin group without its master key"
  else
    -- The encoding that the account already uses.
    let binary := contactRecord.any (fun contact => contact.aci = [] && (contact.aciBinary.getD []) ≠ []) ||
      existing.any fun pin =>
        match pin with
        | .contact contact => contact.serviceID = [] && contact.serviceIDBinary ≠ []
        | _ => false
    .ok (.contact
      { serviceID := if binary then [] else ServiceID.text chat.serviceID
        serviceIDBinary := if binary then ServiceID.toBytes chat.serviceID else []
        e164 := (contactRecord.map (·.e164)).getD [] })

-- A copy of the account record with the chat added to the pinned list or removed from it, if that is a change.
def applyPinChange (pinned : Bool) (contactRecord : Option ContactRecord) : Except String (Option StorageRecord) :=
  match record with
  | .account account =>
    let isPinned := account.pinnedConversations.any (pinMatchesChat env chat)
    let kept := account.pinnedConversations.filter fun pin => pinned || !pinMatchesChat env chat pin
    if isPinned = pinned then .ok none
    else if pinned then
      if kept.length ≥ maxPinnedChats then .error errTooManyPinnedChats
      else
        (newPinEntry chat contactRecord account.pinnedConversations).map fun entry =>
          some (.account { account with pinnedConversations := kept ++ [entry] })
    else .ok (some (.account { account with pinnedConversations := kept }))
  | _ => .error "record is not an account record"

def StorageRecord.contact? : StorageRecord → Option ContactRecord
  | .contact record => some record
  | _ => none

def chatEdits (chat : ChatRef) (change : ChatSettingsChange) :
    Except String (List (StorageEdit StorageRecord)) :=
  if change.needsChatRecord then
    match findChatRecord env snapshot chat with
    | none => .error errNoStorageRecord
    | some chatRecord =>
      match applyChatFields chatRecord.storageRecord change with
      | (some updated, true) => .ok [⟨chatRecord.storageID, updated⟩]
      | _ => .ok []
  else .ok []

def pinEdits (chat : ChatRef) (change : ChatSettingsChange) :
    Except String (List (StorageEdit StorageRecord)) :=
  match change.pinned with
  | none => .ok []
  | some pinned =>
    match findAccountRecord snapshot with
    | none => .error errNoAccountRecord
    | some account =>
      let contactRecord := (findChatRecord env snapshot chat).bind fun record => record.storageRecord.contact?
      (applyPinChange env account.storageRecord chat pinned contactRecord).map fun updated =>
        updated.toList.map fun record => ⟨account.storageID, record⟩

def applyChatSettingsChange (chat : ChatRef) (change : ChatSettingsChange) :
    Except String (List (StorageEdit StorageRecord)) :=
  match chatEdits env snapshot chat change with
  | .error text => .error text
  | .ok edits => (pinEdits env snapshot chat change).map fun pins => edits ++ pins

def settingsCall (sourceDevice : UInt32) (chat : ChatRef) (change : ChatSettingsChange) :
    Call StorageRecord where
  sourceDevice := sourceDevice
  wanted := change.wantedRecordTypes chat
  mutate snapshot := applyChatSettingsChange env snapshot chat change

inductive MemoryWrite
  | settings (chatID : ChatID) (settings : ChatSettings)
  | account (account : AccountRecord) (pinned : List ChatID)

variable (cache : SettingsCache)

def applyWrite : MemoryWrite → SettingsCache
  | .settings chatID settings => cache.recordChatSettings chatID settings
  | .account _ pinned => cache.recordPinnedChats pinned

inductive RecordPlan
  | skip
  | fail
  | writeFirst (write : MemoryWrite)
  | writeLast (write : MemoryWrite)

def RecordPlan.write? : RecordPlan → Option MemoryWrite
  | .writeFirst write | .writeLast write => some write
  | .skip | .fail => none

-- What processStorageInTxn does with one record: it writes to memory before its statements to the database, or behind
-- them, or does nothing, or fails at once.
def recordPlan : StorageRecord → RecordPlan
  | .contact contact =>
    match contactChatID (contact.ids env).1 (contact.ids env).2 with
    | none => .skip
    | some chatID => .writeFirst (.settings chatID (contactRecordSettings contact))
  | .groupV2 group =>
    if group.masterKey.length ≠ groupMasterKeyLength then .skip
    else
      match groupIDFromMasterKeyBytes env group.masterKey with
      | none => .fail
      | some groupID => .writeLast (.settings (.group groupID) (groupRecordSettings group))
  | .account account => .writeFirst (.account account (pinnedChatIDs env account))
  | .other _ => .skip

variable (db : StorageRecord → Bool)

-- One record, as far as memory sees it. db says whether the statements for the record succeed, and the update ends with
-- an error where they do not.
def processRecord (cache : SettingsCache) (record : StorageRecord) :
    SettingsCache × Option Bool :=
  match recordPlan env record with
  | .skip => (cache, some false)
  | .fail => (cache, none)
  | .writeFirst write => (applyWrite cache write, if db record then some true else none)
  | .writeLast write => if db record then (applyWrite cache write, some true) else (cache, none)

def processRecords (db : StorageRecord → Bool) :
    SettingsCache → Bool → List StorageRecord → SettingsCache × Option Bool
  | cache, seen, [] => (cache, some seen)
  | cache, seen, record :: rest =>
    match processRecord env db cache record with
    | (cache, none) => (cache, none)
    | (cache, some now) => processRecords db cache (seen || now) rest

def processStorageInTxn (cache : SettingsCache) (newRecords : List (DecryptedStorageRecord StorageRecord))
    (noChatSettingsEvent : Bool) :
    SettingsCache × Option (List ChatSettingsEntry) :=
  match processRecords env db cache false (newRecords.map (·.storageRecord)) with
  | (cache, some true) => (cache, if noChatSettingsEvent then none else some cache.chatSettingsEvent)
  | (cache, _) => (cache, none)

def chatForUpdate (masterKeyOf : String → Option Bytes) (chat : ChatRef) (change : ChatSettingsChange) :
    Option ChatRef :=
  if change.pinned = some true ∧ chat.groupID ≠ "" ∧ chat.groupMasterKey = none then
    (masterKeyOf chat.groupID).map fun masterKey => { chat with groupMasterKey := some masterKey }
  else some chat

def updateChatSettings (cache : SettingsCache) (built : Option (BuiltStorageWrite StorageRecord)) : SettingsCache :=
  match built with
  | none => cache
  | some built => (processStorageInTxn env db cache built.newRecords true).1

end Records

end MautrixSignal.Storage
