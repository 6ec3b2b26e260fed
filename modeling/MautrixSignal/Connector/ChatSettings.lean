import MautrixSignal.Storage.ChatSettings
import MautrixSignal.Lib.Run

namespace MautrixSignal.Connector

open Receive (Env)
open Storage (StorageRecord processRecord)

-- event.RoomTag. The empty tag stands for none.
abbrev RoomTag := String

structure ChatSettingsTags where
  pinned : RoomTag
  archive : RoomTag

def ChatSettingsTags.tagFor (t : ChatSettingsTags) (cs : ChatSettings) : RoomTag :=
  if cs.pinned ∧ t.pinned ≠ "" then t.pinned
  else if cs.archived ∧ t.archive ≠ "" then t.archive
  else ""

def effectiveMute (cs : ChatSettings) (now : Time) : UInt64 :=
  if cs.mutedForever then 18446744073709551615
  else if ¬ (cs.muteExpiry now).2 then 0
  else cs.mutedUntil

inductive MuteTime
  | unmuted
  | until (t : Time)
  | forever
deriving DecidableEq

def muteTime (cs : ChatSettings) (now : Time) : MuteTime :=
  if cs.mutedForever then .forever
  else if (cs.muteExpiry now).2 then .until (cs.muteExpiry now).1
  else .unmuted

def MuteTime.effective (mute : MuteTime) (now : Time) : MuteTime :=
  match mute with
  | .until t => if now < t then .until t else .unmuted
  | mute => mute

structure UserLocalPortalInfo where
  mutedUntil : Option MuteTime := none
  tag : Option RoomTag := none

structure ChatSettingsPlan where
  userLocal : Option UserLocalPortalInfo := none
  markUnread : Option Bool := none

def ChatSettingsPlan.isEmpty (p : ChatSettingsPlan) : Bool :=
  p.userLocal.isNone && p.markUnread.isNone

def planChatSettings (prev : Option ChatSettings) (cur : ChatSettings) (tags : ChatSettingsTags) (now : Time) :
    ChatSettingsPlan :=
  let old := prev.getD {}
  let changed : UserLocalPortalInfo :=
    { mutedUntil := if effectiveMute old now ≠ effectiveMute cur now then some (muteTime cur now) else none
      tag := if tags.tagFor old ≠ tags.tagFor cur then some (tags.tagFor cur) else none }
  { userLocal := if changed.mutedUntil.isSome ∨ changed.tag.isSome then some changed else none
    markUnread := if old.markedUnread ≠ cur.markedUnread then some cur.markedUnread else none }

def initialUserLocal (cur : ChatSettings) (tags : ChatSettingsTags) (now : Time) : Option UserLocalPortalInfo :=
  let initial : UserLocalPortalInfo :=
    { mutedUntil := if effectiveMute cur now ≠ 0 then some (muteTime cur now) else none
      tag := if tags.tagFor cur ≠ "" then some (tags.tagFor cur) else none }
  if initial.mutedUntil.isNone ∧ initial.tag.isNone then none else some initial

structure PortalMetadata where
  settings : Option ChatSettings := none
  lastSync : Time := zeroTime

def settingsMetaUpdater (settings : ChatSettings) (metadata : PortalMetadata) : PortalMetadata × Bool :=
  if metadata.settings = some settings then (metadata, false)
  else ({ metadata with settings := some settings }, true)

variable (now : Time) (metadata : PortalMetadata)

def updatePortalSyncMeta : PortalMetadata :=
  { metadata with lastSync := now }

structure ChatInfo where
  userLocal : Option UserLocalPortalInfo := none
  settings : Option ChatSettings := none

variable (tags : ChatSettingsTags)

def addChatSettings (cache : SettingsCache) (now : Time) (info : ChatInfo) (chatID : ChatID) : ChatInfo :=
  match cache.lookup chatID with
  | (_, false) => info
  | (settings, true) =>
    { userLocal := if info.userLocal.isNone then initialUserLocal settings tags now else info.userLocal
      settings := some settings }

-- The extra updates of a chat info. The unread flag stays what was last sent.
def ChatInfo.extraUpdates (info : ChatInfo) (now : Time) (metadata : PortalMetadata) : PortalMetadata :=
  let synced := updatePortalSyncMeta now metadata
  match info.settings with
  | none => synced
  | some settings =>
    (settingsMetaUpdater
      { settings with markedUnread := (synced.settings.map (·.markedUnread)).getD false } synced).1

structure Room where
  mute : MuteTime := .unmuted
  tag : RoomTag := ""
  unread : Bool := false
deriving DecidableEq

def Room.updateUserLocal (room : Room) (userLocal : Option UserLocalPortalInfo) : Room :=
  { room with
    mute := (userLocal.bind (·.mutedUntil)).getD room.mute
    tag := (userLocal.bind (·.tag)).getD room.tag }

-- The remote events that wait in the queue of a portal. A resync brings its info or asks for it when it is
-- handled, as does a message that creates the room.
inductive PortalEvent
  | chatInfoChange (userLocal : Option UserLocalPortalInfo) (settings : ChatSettings)
  | markUnread (unread : Bool)
  | chatResync (info : Option ChatInfo) (createPortal : Bool)

-- A portal with the chat infos that were made for it outside of its queue and are not used yet.
structure Portal where
  room : Option Room := none
  metadata : PortalMetadata := {}
  queue : List PortalEvent := []
  infos : List ChatInfo := []

def bridgeChatSettings (now : Time) (portal : Portal) (settings : ChatSettings) :
    List PortalEvent :=
  if portal.room.isNone then []
  else
    let plan := planChatSettings portal.metadata.settings settings tags now
    if plan.isEmpty then []
    else .chatInfoChange plan.userLocal settings :: (plan.markUnread.map .markUnread).toList

namespace Portal

variable (portal : Portal)

def enqueue (event : PortalEvent) : Portal :=
  { portal with queue := portal.queue ++ [event] }

def dropInfo (index : ℕ) : Portal :=
  { portal with infos := portal.infos.eraseIdx index }

def updateInfo (now : Time) (info : ChatInfo) : Portal :=
  { portal with
    room := portal.room.map fun room => room.updateUserLocal info.userLocal
    metadata := info.extraUpdates now portal.metadata }

def createMatrixRoom (now : Time) (info : ChatInfo) (created : Bool) : Portal :=
  match portal.room with
  | some _ => portal.updateInfo now info
  | none =>
    { portal with
      room := if created then some (({} : Room).updateUserLocal info.userLocal) else none
      metadata := info.extraUpdates now portal.metadata }

-- The portal handles the first event of its queue. A resync without an info asks for one first, and is given up
-- if there is none to be had.
def handle (now : Time) (getChatInfo : Option ChatInfo) (created : Bool) : Option Portal :=
  match portal.queue with
  | [] => none
  | .chatInfoChange userLocal settings :: rest =>
    match portal.room with
    | none => some { portal with queue := rest }
    | some room =>
      some { portal with
             queue := rest
             room := some (room.updateUserLocal userLocal)
             metadata := (settingsMetaUpdater settings portal.metadata).1 }
  | .markUnread unread :: rest =>
    some { portal with queue := rest, room := portal.room.map fun room => { room with unread := unread } }
  | .chatResync info createPortal :: rest =>
    if portal.room.isNone ∧ ¬ createPortal then some { portal with queue := rest }
    else
      match info, getChatInfo with
      | some info, _ => some ({ portal with queue := rest }.createMatrixRoom now info created)
      | none, none => some { portal with queue := rest }
      | none, some info => some { portal with queue := .chatResync (some info) createPortal :: rest }

def handleMatrixViewingChat (now : Time) : Portal :=
  if portal.metadata.lastSync + 24 * 3600 * 1000000000 < now then portal.enqueue (.chatResync none false)
  else portal

end Portal

structure SettingsTask where
  entries : List ChatSettingsEntry
  pending : List (ChatID × PortalEvent) := []

structure World where
  now : Time
  cache : SettingsCache := {}
  sync : Option (List StorageRecord × Bool) := none
  tasks : List SettingsTask := []
  portals : ChatID → Portal := fun _ => {}

inductive Action
  | startSync (records : List StorageRecord)
  | syncRecord (db : StorageRecord → Bool)
  | bridge (task : ℕ) (entry : ChatSettingsEntry) (found : Bool)
  | queueEvent (task : ℕ) (accepted : Bool)
  | viewChat (chat : ChatID)
  | resync (chat : ChatID) (source : Option ChatID) (createPortal : Bool)
  | makeInfo (chat source : ChatID)
  | updateInfo (chat : ChatID) (index : ℕ)
  | createRoom (chat : ChatID) (index : ℕ) (created : Bool)
  | handle (chat : ChatID) (source : Option ChatID) (created : Bool)
  | tick (now : Time)

namespace World

def setPortal (w : World) (chat : ChatID) (portal : Portal) : World :=
  { w with portals := Function.update w.portals chat portal }

def setTask (w : World) (i : ℕ) (task : SettingsTask) : World :=
  { w with tasks := w.tasks.set i task }

-- GetChatInfo, as far as it is about chat settings. The chat that it asks for can be another one than the
-- portal's: a portal with a PNI gets the settings of the ACI.
def getChatInfo (w : World) (source : ChatID) : ChatInfo :=
  addChatSettings tags w.cache w.now {} source

def step (env : Env) (tags : ChatSettingsTags) (w : World) : Action → Option World
  | .startSync records =>
    match w.sync with
    | none => some { w with sync := some (records, false) }
    | some _ => none
  | .syncRecord db =>
    match w.sync with
    | none => none
    | some ([], seen) =>
      some { w with
             sync := none
             tasks := if seen then w.tasks ++ [{ entries := w.cache.chatSettingsEvent }] else w.tasks }
    | some (record :: rest, seen) =>
      match processRecord env db w.cache record with
      | (cache, none) => some { w with cache := cache, sync := none }
      | (cache, some now) => some { w with cache := cache, sync := some (rest, seen || now) }
  | .bridge i entry found =>
    match w.tasks[i]? with
    | some ⟨next :: rest, []⟩ =>
      if next = entry then
        let events := if found then bridgeChatSettings tags w.now (w.portals entry.chatID) entry.settings
          else []
        some (w.setTask i ⟨rest, events.map fun event => (entry.chatID, event)⟩)
      else none
    | _ => none
  | .queueEvent i accepted =>
    match w.tasks[i]? with
    | some ⟨entries, (chat, event) :: rest⟩ =>
      if accepted then
        some ((w.setTask i ⟨entries, rest⟩).setPortal chat ((w.portals chat).enqueue event))
      else some (w.setTask i ⟨entries, []⟩)
    | _ => none
  | .viewChat chat => some (w.setPortal chat ((w.portals chat).handleMatrixViewingChat w.now))
  | .resync chat source createPortal =>
    some (w.setPortal chat
      ((w.portals chat).enqueue (.chatResync (source.map (w.getChatInfo tags)) createPortal)))
  | .makeInfo chat source =>
    some (w.setPortal chat
      { w.portals chat with infos := (w.portals chat).infos ++ [w.getChatInfo tags source] })
  | .updateInfo chat index =>
    (w.portals chat).infos[index]?.map fun info =>
      w.setPortal chat (((w.portals chat).dropInfo index).updateInfo w.now info)
  | .createRoom chat index created =>
    (w.portals chat).infos[index]?.map fun info =>
      w.setPortal chat (((w.portals chat).dropInfo index).createMatrixRoom w.now info created)
  | .handle chat source created =>
    ((w.portals chat).handle w.now (source.map (w.getChatInfo tags)) created).map (w.setPortal chat)
  | .tick now => if w.now ≤ now then some { w with now := now } else none

end World

end MautrixSignal.Connector
