import MautrixSignal.Connector.ChatSettings
import MautrixSignal.Receive

namespace MautrixSignal.Connector

open Lib List
open Receive (Env)
open Storage (StorageRecord)

variable {tags : ChatSettingsTags} {now now' : Time}

theorem effective_later (mute : MuteTime) (h : now ≤ now') :
    (mute.effective now).effective now' = mute.effective now' := by
  cases mute with
  | unmuted | forever => rfl
  | «until» t =>
    by_cases hnow : now < t
    · simp [MuteTime.effective, if_pos hnow]
    · have hlater : ¬ now' < t := fun hlt => hnow (Int.lt_of_le_of_lt h hlt)
      simp [MuteTime.effective, if_neg hnow, if_neg hlater]

inductive MuteCase (cs : ChatSettings) (now : Time) : Prop
  | forever (hforever : cs.mutedForever = true) (hraw : effectiveMute cs now = 18446744073709551615)
      (htime : muteTime cs now = .forever)
  | until (hnot : cs.mutedForever = false) (hzero : cs.mutedUntil ≠ 0) (hnow : now < unixMilli cs.mutedUntil)
      (hraw : effectiveMute cs now = cs.mutedUntil) (htime : muteTime cs now = .until (unixMilli cs.mutedUntil))
  | unmuted (hnot : cs.mutedForever = false) (hnow : cs.mutedUntil = 0 ∨ unixMilli cs.mutedUntil ≤ now)
      (hraw : effectiveMute cs now = 0) (htime : muteTime cs now = .unmuted)

theorem muteCase (cs : ChatSettings) (now : Time) : MuteCase cs now := by
  by_cases hforever : cs.mutedForever = true
  · exact .forever hforever (if_pos hforever) (if_pos hforever)
  have hnot : cs.mutedForever = false := by simpa using hforever
  by_cases hzero : cs.mutedUntil = 0
  · refine .unmuted hnot (.inl hzero) ?_ ?_
    · simp [effectiveMute, hnot, hzero]
    · simp [muteTime, ChatSettings.muteExpiry, hnot, hzero]
  · by_cases hnow : now < unixMilli cs.mutedUntil
    · refine .until hnot hzero hnow ?_ ?_
      · simp [effectiveMute, ChatSettings.muteExpiry, hnot, hzero, hnow]
      · simp [muteTime, ChatSettings.muteExpiry, hnot, hzero, hnow]
    · refine .unmuted hnot (.inr (Int.not_lt.mp hnow)) ?_ ?_
      · simp [effectiveMute, ChatSettings.muteExpiry, hnot, hzero, hnow]
      · simp [muteTime, ChatSettings.muteExpiry, hnot, hzero, hnow]

theorem muteTime_later (cs : ChatSettings) (h : now ≤ now') : (muteTime cs now).effective now' = muteTime cs now' := by
  cases muteCase cs now with
  | forever hforever _ htime =>
    rw [htime, muteTime, if_pos hforever]
    rfl
  | «until» hnot hzero _ _ htime =>
    rw [htime]
    simp [MuteTime.effective, muteTime, ChatSettings.muteExpiry, hnot, hzero]
  | unmuted hnot hnow _ htime =>
    rw [htime]
    cases muteCase cs now' with
    | forever hforever => exact absurd (hnot.symm.trans hforever) Bool.false_ne_true
    | «until» _ hzero hnow' =>
      rcases hnow with hnow | hnow
      · exact absurd hnow hzero
      · exact absurd (Int.le_trans hnow h) (Int.not_le.mpr hnow')
    | unmuted _ _ _ htime' =>
      rw [htime']
      rfl

theorem muteTime_eq_of_effectiveMute {old cur : ChatSettings}
    (h : effectiveMute old now = effectiveMute cur now) : muteTime old now = muteTime cur now := by
  have hsmall {cs : ChatSettings} (hnot : cs.mutedForever = false) :
      cs.mutedUntil ≠ 18446744073709551615 := by
    rintro heq
    rw [ChatSettings.mutedForever, heq] at hnot
    exact absurd hnot (by decide)
  cases muteCase old now with
  | forever _ hraw htime =>
    cases muteCase cur now with
    | forever _ _ htime' => rw [htime, htime']
    | «until» hnot _ _ hraw' => exact absurd (hraw'.symm.trans (h.symm.trans hraw)) (hsmall hnot)
    | unmuted _ _ hraw' => exact absurd (hraw'.symm.trans (h.symm.trans hraw)) (by decide)
  | «until» hnot hzero _ hraw htime =>
    cases muteCase cur now with
    | forever _ hraw' => exact absurd (hraw.symm.trans (h.trans hraw')) (hsmall hnot)
    | «until» _ _ _ hraw' htime' => rw [htime, htime', ← hraw, ← hraw', h]
    | unmuted _ _ hraw' => exact absurd (hraw.symm.trans (h.trans hraw')) hzero
  | unmuted _ _ hraw htime =>
    cases muteCase cur now with
    | forever _ hraw' => exact absurd (hraw.symm.trans (h.trans hraw')) (by decide)
    | «until» _ hzero _ hraw' => exact absurd (hraw'.symm.trans (h.symm.trans hraw)) hzero
    | unmuted _ _ _ htime' => rw [htime, htime']

section Updates

variable {userLocal : Option UserLocalPortalInfo} {settings old : ChatSettings} {room : Room}

structure Room.Shows (room : Room) (tags : ChatSettingsTags) (now : Time) (settings : ChatSettings) : Prop where
  mute : room.mute.effective now = muteTime settings now
  tag : room.tag = tags.tagFor settings

structure Sets (tags : ChatSettingsTags) (now : Time) (settings : ChatSettings)
    (userLocal : Option UserLocalPortalInfo) : Prop where
  mute : ∀ mute, userLocal.bind (·.mutedUntil) = some mute → mute.effective now = muteTime settings now
  tag : ∀ tag, userLocal.bind (·.tag) = some tag → tag = tags.tagFor settings

def Keeps (tags : ChatSettingsTags) (now : Time) (old settings : ChatSettings)
    (userLocal : Option UserLocalPortalInfo) : Prop :=
  (userLocal.bind (·.mutedUntil) = none → muteTime old now = muteTime settings now) ∧
    (userLocal.bind (·.tag) = none → tags.tagFor old = tags.tagFor settings)

instance : Decidable (Keeps tags now old settings userLocal) :=
  inferInstanceAs (Decidable (_ ∧ _))

theorem Room.Shows.later (h : room.Shows tags now settings) (hnow : now ≤ now') : room.Shows tags now' settings := by
  refine ⟨?_, h.tag⟩
  rw [← effective_later room.mute hnow, h.mute, muteTime_later settings hnow]

theorem Sets.later (h : Sets tags now settings userLocal) (hnow : now ≤ now') : Sets tags now' settings userLocal := by
  refine ⟨fun mute hmute => ?_, h.tag⟩
  rw [← effective_later mute hnow, h.mute mute hmute, muteTime_later settings hnow]

theorem Keeps.later (h : Keeps tags now old settings userLocal) (hnow : now ≤ now') :
    Keeps tags now' old settings userLocal := by
  refine ⟨fun hmute => ?_, h.2⟩
  rw [← muteTime_later old hnow, h.1 hmute, muteTime_later settings hnow]

theorem Room.Shows.updateUserLocal (h : room.Shows tags now old) (hsets : Sets tags now settings userLocal)
    (hkeeps : Keeps tags now old settings userLocal) : (room.updateUserLocal userLocal).Shows tags now settings := by
  constructor
  · cases hmute : userLocal.bind (·.mutedUntil) with
    | none => simpa only [Room.updateUserLocal, hmute, Option.getD_none, ← hkeeps.1 hmute] using h.mute
    | some mute => simpa only [Room.updateUserLocal, hmute, Option.getD_some] using hsets.mute mute hmute
  · cases htag : userLocal.bind (·.tag) with
    | none => simpa only [Room.updateUserLocal, htag, Option.getD_none, ← hkeeps.2 htag] using h.tag
    | some tag => simpa only [Room.updateUserLocal, htag, Option.getD_some] using hsets.tag tag htag

def differences (tags : ChatSettingsTags) (now : Time) (old settings : ChatSettings) : UserLocalPortalInfo where
  mutedUntil := if effectiveMute old now ≠ effectiveMute settings now then some (muteTime settings now) else none
  tag := if tags.tagFor old ≠ tags.tagFor settings then some (tags.tagFor settings) else none

theorem sets_differences (tags : ChatSettingsTags) (now : Time) (old settings : ChatSettings) :
    Sets tags now settings (some (differences tags now old settings)) := by
  constructor
  · intro mute hmute
    obtain ⟨-, hmute⟩ := Option.ite_none_right_eq_some.mp hmute
    cases hmute
    exact muteTime_later settings (Int.le_refl now)
  · intro tag htag
    obtain ⟨-, htag⟩ := Option.ite_none_right_eq_some.mp htag
    exact (Option.some.inj htag).symm

theorem keeps_differences (tags : ChatSettingsTags) (now : Time) (old settings : ChatSettings) :
    Keeps tags now old settings (some (differences tags now old settings)) := by
  constructor
  · intro hmute
    refine muteTime_eq_of_effectiveMute (by_contra fun hne => ?_)
    exact nomatch (if_pos hne).symm.trans hmute
  · intro htag
    refine by_contra fun hne => ?_
    exact nomatch (if_pos hne).symm.trans htag

theorem sets_of_fields (hmute : userLocal.bind (·.mutedUntil) = (differences tags now old settings).mutedUntil)
    (htag : userLocal.bind (·.tag) = (differences tags now old settings).tag) :
    Sets tags now settings userLocal ∧ Keeps tags now old settings userLocal := by
  have hsets := sets_differences tags now old settings
  have hkeeps := keeps_differences tags now old settings
  refine ⟨⟨?_, ?_⟩, ?_, ?_⟩
  · rw [hmute]
    exact hsets.mute
  · rw [htag]
    exact hsets.tag
  · rw [hmute]
    exact hkeeps.1
  · rw [htag]
    exact hkeeps.2

theorem plan_sets (prev : Option ChatSettings) (cur : ChatSettings) :
    Sets tags now cur (planChatSettings prev cur tags now).userLocal ∧
      Keeps tags now (prev.getD {}) cur (planChatSettings prev cur tags now).userLocal := by
  apply sets_of_fields
  all_goals
    simp only [planChatSettings, differences]
    split_ifs <;> simp_all

theorem initial_sets (cur : ChatSettings) :
    Sets tags now cur (initialUserLocal cur tags now) ∧
      Keeps tags now {} cur (initialUserLocal cur tags now) := by
  have hmute : effectiveMute {} now = 0 := rfl
  have htag : tags.tagFor {} = "" := by simp [ChatSettingsTags.tagFor]
  apply sets_of_fields
  all_goals
    simp only [initialUserLocal, differences]
    split_ifs <;> simp_all

end Updates

section Steps

variable {env : Env} {w w' : World} {a : Action}

inductive PortalEffect (tags : ChatSettingsTags) (w : World) (chat : ChatID) : Action → Portal → Prop
  | view : PortalEffect tags w chat (.viewChat chat) ((w.portals chat).handleMatrixViewingChat w.now)
  | resync (source : Option ChatID) (createPortal : Bool) :
      PortalEffect tags w chat (.resync chat source createPortal)
        ((w.portals chat).enqueue (.chatResync (source.map (w.getChatInfo tags)) createPortal))
  | makeInfo (source : ChatID) :
      PortalEffect tags w chat (.makeInfo chat source)
        { w.portals chat with infos := (w.portals chat).infos ++ [w.getChatInfo tags source] }
  | updateInfo {index : ℕ} {info : ChatInfo} (hinfo : (w.portals chat).infos[index]? = some info) :
      PortalEffect tags w chat (.updateInfo chat index)
        (((w.portals chat).dropInfo index).updateInfo w.now info)
  | createRoom {index : ℕ} {info : ChatInfo} {created : Bool}
      (hinfo : (w.portals chat).infos[index]? = some info) :
      PortalEffect tags w chat (.createRoom chat index created)
        (((w.portals chat).dropInfo index).createMatrixRoom w.now info created)
  | handle {source : Option ChatID} {created : Bool} {portal : Portal}
      (h : (w.portals chat).handle w.now (source.map (w.getChatInfo tags)) created = some portal) :
      PortalEffect tags w chat (.handle chat source created) portal

inductive Effect (tags : ChatSettingsTags) (w : World) : Action → World → Prop
  | elsewhere {a : Action} {w' : World} (hnow : w.now ≤ w'.now) (hportals : w'.portals = w.portals)
      (htasks : w'.tasks = w.tasks ∨ ∃ entries, w'.tasks = w.tasks ++ [⟨entries, []⟩])
      (hbridge : ∀ i entry found, a ≠ .bridge i entry found) : Effect tags w a w'
  | bridge {i : ℕ} {entry : ChatSettingsEntry} {found : Bool} {rest : List ChatSettingsEntry}
      (htask : w.tasks[i]? = some ⟨entry :: rest, []⟩) :
      Effect tags w (.bridge i entry found) (w.setTask i ⟨rest,
        (if found then bridgeChatSettings tags w.now (w.portals entry.chatID) entry.settings else []).map
          fun event => (entry.chatID, event)⟩)
  | queue {i : ℕ} {entries : List ChatSettingsEntry} {chat : ChatID} {event : PortalEvent}
      {rest : List (ChatID × PortalEvent)} (htask : w.tasks[i]? = some ⟨entries, (chat, event) :: rest⟩) :
      Effect tags w (.queueEvent i true)
        ((w.setTask i ⟨entries, rest⟩).setPortal chat ((w.portals chat).enqueue event))
  | refuse {i : ℕ} {entries : List ChatSettingsEntry} {pending : List (ChatID × PortalEvent)}
      (htask : w.tasks[i]? = some ⟨entries, pending⟩) :
      Effect tags w (.queueEvent i false) (w.setTask i ⟨entries, []⟩)
  | portal {a : Action} {chat : ChatID} {portal : Portal} (h : PortalEffect tags w chat a portal) :
      Effect tags w a (w.setPortal chat portal)

theorem effect_of_step (h : w.step env tags a = some w') : Effect tags w a w' := by
  cases a with
  | startSync records =>
    simp only [World.step] at h
    split at h
    · cases h
      exact .elsewhere (Int.le_refl _) rfl (.inl rfl) nofun
    · cases h
  | syncRecord db =>
    simp only [World.step] at h
    split at h
    · cases h
    · cases h
      refine .elsewhere (Int.le_refl _) rfl ?_ nofun
      split
      · exact .inr ⟨_, rfl⟩
      · exact .inl rfl
    · split at h
      all_goals
        cases h
        exact .elsewhere (Int.le_refl _) rfl (.inl rfl) nofun
  | bridge i entry found =>
    simp only [World.step] at h
    split at h
    · rename_i next rest htask
      obtain ⟨rfl, h⟩ := Option.ite_none_right_eq_some.mp h
      cases h
      exact .bridge htask
    · cases h
  | queueEvent i accepted =>
    simp only [World.step] at h
    split at h
    · rename_i htask
      cases accepted with
      | true =>
        cases h
        exact .queue htask
      | false =>
        cases h
        exact .refuse htask
    · cases h
  | viewChat chat =>
    cases h
    exact .portal .view
  | resync chat source createPortal =>
    cases h
    exact .portal (.resync source createPortal)
  | makeInfo chat source =>
    cases h
    exact .portal (.makeInfo source)
  | updateInfo chat index =>
    obtain ⟨info, hinfo, rfl⟩ := Option.map_eq_some_iff.mp h
    exact .portal (.updateInfo hinfo)
  | createRoom chat index created =>
    obtain ⟨info, hinfo, rfl⟩ := Option.map_eq_some_iff.mp h
    exact .portal (.createRoom hinfo)
  | handle chat source created =>
    obtain ⟨portal, hport, rfl⟩ := Option.map_eq_some_iff.mp h
    exact .portal (.handle hport)
  | tick now =>
    obtain ⟨hnow, h⟩ := Option.ite_none_right_eq_some.mp h
    cases h
    exact .elsewhere hnow rfl (.inl rfl) nofun

end Steps

section Metadata

variable {portal portal' : Portal} {info : ChatInfo} {settings : ChatSettings}

def Portal.recorded (portal : Portal) : ChatSettings := portal.metadata.settings.getD {}

variable (tags now)

-- A chat info is made from the settings that it brings, and leaves out the defaults of a new room.
structure ChatInfo.Sound (info : ChatInfo) : Prop where
  unknown : info.settings = none → info.userLocal = none
  sets : ∀ settings, info.settings = some settings → Sets tags now settings info.userLocal
  keeps : ∀ settings, info.settings = some settings → Keeps tags now {} settings info.userLocal

def PortalEvent.Sound : PortalEvent → Prop
  | .chatInfoChange userLocal settings => Sets tags now settings userLocal
  | .markUnread _ => True
  | .chatResync info _ => ∀ made, info = some made → made.Sound tags now

structure Portal.Sound (portal : Portal) : Prop where
  shown : ∀ room, portal.room = some room → room.Shows tags now portal.recorded
  queue : ∀ event ∈ portal.queue, event.Sound tags now
  infos : ∀ info ∈ portal.infos, info.Sound tags now

structure World.Sound (w : World) : Prop where
  portals : ∀ chat, (w.portals chat).Sound tags w.now
  pending : ∀ task ∈ w.tasks, ∀ waiting ∈ task.pending, waiting.2.Sound tags w.now

-- An update of an existing room that leaves out the mute or the tag finds the same one on record.
def Portal.changeLeavesRecorded (portal : Portal) (settings : ChatSettings) (userLocal : Option UserLocalPortalInfo) :
    Bool :=
  portal.room.isNone || decide (Keeps tags now portal.recorded settings userLocal)

def Portal.infoLeavesRecorded (portal : Portal) (info : ChatInfo) : Bool :=
  info.settings.all fun settings => portal.changeLeavesRecorded tags now settings info.userLocal

-- And a room that is created without knowing its settings has the defaults on record.
def Portal.creationLeavesRecorded (portal : Portal) (info : ChatInfo) : Bool :=
  portal.infoLeavesRecorded tags now info &&
    (portal.room.isSome || info.settings.isSome || decide (Keeps tags now {} portal.recorded none))

variable {tags now}

def updatesLeaveRecorded (tags : ChatSettingsTags) (w : World) : Action → Bool
  | .handle chat _ _ =>
    match (w.portals chat).queue.head? with
    | some (.chatInfoChange userLocal settings) =>
      (w.portals chat).changeLeavesRecorded tags w.now settings userLocal
    | some (.chatResync (some info) _) => (w.portals chat).creationLeavesRecorded tags w.now info
    | _ => true
  | .updateInfo chat index =>
    (w.portals chat).infos[index]?.all ((w.portals chat).infoLeavesRecorded tags w.now)
  | .createRoom chat index _ =>
    (w.portals chat).infos[index]?.all ((w.portals chat).creationLeavesRecorded tags w.now)
  | _ => true

theorem ChatInfo.Sound.later (h : info.Sound tags now) (hnow : now ≤ now') : info.Sound tags now' :=
  ⟨h.unknown, fun settings hs => (h.sets settings hs).later hnow, fun settings hs => (h.keeps settings hs).later hnow⟩

theorem PortalEvent.Sound.later {event : PortalEvent} (h : event.Sound tags now) (hnow : now ≤ now') :
    event.Sound tags now' := by
  cases event with
  | chatInfoChange userLocal settings => exact Sets.later h hnow
  | markUnread unread => trivial
  | chatResync info createPortal => exact fun made hmade => (h made hmade).later hnow

theorem Portal.Sound.later (h : portal.Sound tags now) (hnow : now ≤ now') : portal.Sound tags now' :=
  ⟨fun room hroom => (h.shown room hroom).later hnow, fun event hmem => (h.queue event hmem).later hnow,
    fun info hmem => (h.infos info hmem).later hnow⟩

theorem sound_getChatInfo (w : World) (source : ChatID) : (w.getChatInfo tags source).Sound tags w.now := by
  unfold World.getChatInfo addChatSettings
  split
  · exact ⟨fun _ => rfl, nofun, nofun⟩
  refine ⟨nofun, ?_, ?_⟩
  all_goals
    rintro settings hsets
    cases hsets
  · exact (initial_sets _).1
  · exact (initial_sets _).2

theorem sound_bridgeChatSettings (portal : Portal) (settings : ChatSettings) :
    ∀ event ∈ bridgeChatSettings tags now portal settings, event.Sound tags now := by
  intro event hmem
  unfold bridgeChatSettings at hmem
  split at hmem
  · cases hmem
  dsimp only at hmem
  split at hmem
  · cases hmem
  · rcases mem_cons.mp hmem with rfl | hunread
    · exact (plan_sets _ _).1
    · obtain ⟨unread, -, rfl⟩ := Option.map_eq_some_iff.mp (Option.mem_toList.mp hunread)
      trivial

theorem recorded_settingsMetaUpdater (settings : ChatSettings) (metadata : PortalMetadata) :
    (settingsMetaUpdater settings metadata).1.settings = some settings := by
  unfold settingsMetaUpdater
  split
  · assumption
  · rfl

theorem shows_extraUpdates {room : Room} {metadata : PortalMetadata} {old : ChatSettings}
    (hold : room.Shows tags now old) (hinfo : info.Sound tags now)
    (hkeeps : ∀ settings, info.settings = some settings → Keeps tags now old settings info.userLocal)
    (hmetadata : info.settings = none → Keeps tags now old (metadata.settings.getD {}) none) :
    (room.updateUserLocal info.userLocal).Shows tags now
      ((info.extraUpdates now metadata).settings.getD {}) := by
  cases hsets : info.settings with
  | none =>
    have hextra : (info.extraUpdates now metadata).settings = metadata.settings := by
      simp [ChatInfo.extraUpdates, hsets, updatePortalSyncMeta]
    rw [hextra, hinfo.unknown hsets]
    exact hold.updateUserLocal ⟨nofun, nofun⟩ (hmetadata hsets)
  | some settings =>
    have hshows := hold.updateUserLocal (hinfo.sets settings hsets) (hkeeps settings hsets)
    simp only [ChatInfo.extraUpdates, hsets, recorded_settingsMetaUpdater]
    exact ⟨hshows.mute, hshows.tag⟩

theorem Portal.Sound.updateInfo (h : portal.Sound tags now) (hinfo : info.Sound tags now)
    (hleaves : portal.infoLeavesRecorded tags now info = true) : (portal.updateInfo now info).Sound tags now := by
  refine ⟨fun room hroom => ?_, h.queue, h.infos⟩
  obtain ⟨room', hroom', rfl⟩ := Option.map_eq_some_iff.mp hroom
  refine shows_extraUpdates (h.shown room' hroom') hinfo (fun settings hsets => ?_) fun _ => ?_
  · simpa [Portal.infoLeavesRecorded, Portal.changeLeavesRecorded, hsets, hroom'] using hleaves
  · exact ⟨fun _ => rfl, fun _ => rfl⟩

theorem shows_newRoom (tags : ChatSettingsTags) (now : Time) : ({} : Room).Shows tags now {} := by
  refine ⟨rfl, ?_⟩
  simp [ChatSettingsTags.tagFor]

theorem Portal.Sound.createMatrixRoom (h : portal.Sound tags now) (hinfo : info.Sound tags now)
    (hleaves : portal.creationLeavesRecorded tags now info = true) (created : Bool) :
    (portal.createMatrixRoom now info created).Sound tags now := by
  simp only [Portal.creationLeavesRecorded, Bool.and_eq_true] at hleaves
  unfold Portal.createMatrixRoom
  split
  · exact h.updateInfo hinfo hleaves.1
  rename_i hroom
  refine ⟨fun room hcreated => ?_, h.queue, h.infos⟩
  obtain ⟨-, hcreated⟩ := Option.ite_none_right_eq_some.mp hcreated
  cases hcreated
  refine shows_extraUpdates (shows_newRoom tags now) hinfo hinfo.keeps fun hunknown => ?_
  have hdefault : Keeps tags now {} portal.recorded none := by
    simpa [hroom, hunknown] using hleaves.2
  exact hdefault

theorem Portal.Sound.handle {getChatInfo : Option ChatInfo} {created : Bool} (h : portal.Sound tags now)
    (hmade : ∀ info, getChatInfo = some info → info.Sound tags now)
    (hchange : ∀ userLocal settings, portal.queue.head? = some (.chatInfoChange userLocal settings) →
      portal.changeLeavesRecorded tags now settings userLocal = true)
    (hinfo : ∀ info createPortal, portal.queue.head? = some (.chatResync (some info) createPortal) →
      portal.creationLeavesRecorded tags now info = true)
    (hhandle : portal.handle now getChatInfo created = some portal') : portal'.Sound tags now := by
  have hrest {event : PortalEvent} {rest : List PortalEvent} (hqueue : portal.queue = event :: rest) :
      ({ portal with queue := rest } : Portal).Sound tags now := by
    refine ⟨h.shown, fun other hmem => h.queue other ?_, h.infos⟩
    rw [hqueue]
    exact mem_cons_of_mem _ hmem
  unfold Portal.handle at hhandle
  split at hhandle
  · cases hhandle
  · rename_i userLocal settings rest hqueue
    split at hhandle
    · cases hhandle
      exact hrest hqueue
    rename_i room hroom
    cases hhandle
    refine ⟨fun room' hroom' => ?_, (hrest hqueue).queue, h.infos⟩
    cases hroom'
    have hsets : Sets tags now settings userLocal := by
      have hsound := h.queue (.chatInfoChange userLocal settings)
      rw [hqueue] at hsound
      exact hsound mem_cons_self
    have hkeeps : Keeps tags now portal.recorded settings userLocal := by
      have hleaves := hchange userLocal settings (by rw [hqueue]; rfl)
      simpa [Portal.changeLeavesRecorded, hroom] using hleaves
    have hshows := (h.shown room hroom).updateUserLocal hsets hkeeps
    simpa only [Portal.recorded, recorded_settingsMetaUpdater, Option.getD_some] using hshows
  · rename_i unread rest hqueue
    cases hhandle
    refine ⟨fun room' hroom' => ?_, (hrest hqueue).queue, h.infos⟩
    obtain ⟨room, hroom, rfl⟩ := Option.map_eq_some_iff.mp hroom'
    exact ⟨(h.shown room hroom).mute, (h.shown room hroom).tag⟩
  · rename_i info createPortal rest hqueue
    split at hhandle
    · cases hhandle
      exact hrest hqueue
    cases info with
    | some info =>
      cases hhandle
      have hsound : info.Sound tags now := by
        have hall := h.queue (.chatResync (some info) createPortal)
        rw [hqueue] at hall
        exact hall mem_cons_self info rfl
      exact (hrest hqueue).createMatrixRoom hsound (hinfo info createPortal (by rw [hqueue]; rfl)) created
    | none =>
      cases getChatInfo with
      | none =>
        cases hhandle
        exact hrest hqueue
      | some info =>
        cases hhandle
        refine ⟨h.shown, fun event hmem => ?_, h.infos⟩
        rcases mem_cons.mp hmem with rfl | hmem
        · intro made heq
          cases heq
          exact hmade info rfl
        · exact (hrest hqueue).queue event hmem

theorem Portal.Sound.enqueue {event : PortalEvent} (h : portal.Sound tags now) (hevt : event.Sound tags now) :
    (portal.enqueue event).Sound tags now := by
  refine ⟨h.shown, fun other hmem => ?_, h.infos⟩
  rcases mem_append.mp hmem with hold | hnew
  · exact h.queue other hold
  · rw [mem_singleton.mp hnew]
    exact hevt

theorem Portal.Sound.dropInfo (h : portal.Sound tags now) (index : ℕ) : (portal.dropInfo index).Sound tags now :=
  ⟨h.shown, h.queue, fun info hmem => h.infos info (mem_of_mem_eraseIdx hmem)⟩

end Metadata

section Runs

variable {env : Env} {w w' : World} {a : Action}

theorem World.Sound.setPortal {portal : Portal} (h : w.Sound tags) (hport : portal.Sound tags w.now)
    (chat : ChatID) : (w.setPortal chat portal).Sound tags := by
  refine ⟨fun other => ?_, h.pending⟩
  by_cases hother : other = chat
  · subst hother
    simpa only [World.setPortal, Function.update_self] using hport
  · simpa only [World.setPortal, Function.update_of_ne hother] using h.portals other

theorem World.Sound.setTask {task : SettingsTask} (h : w.Sound tags)
    (htask : ∀ waiting ∈ task.pending, waiting.2.Sound tags w.now) (i : ℕ) : (w.setTask i task).Sound tags := by
  refine ⟨h.portals, fun other hmem => ?_⟩
  rcases mem_or_eq_of_mem_set hmem with hold | rfl
  · exact h.pending other hold
  · exact htask

theorem sound_portalEffect {chat : ChatID} {portal : Portal} (h : w.Sound tags)
    (hguard : updatesLeaveRecorded tags w a = true) (heff : PortalEffect tags w chat a portal) :
    portal.Sound tags w.now := by
  have hport := h.portals chat
  cases heff with
  | view =>
    unfold Portal.handleMatrixViewingChat
    split
    · exact hport.enqueue nofun
    · exact hport
  | resync source createPortal =>
    refine hport.enqueue fun made hmade => ?_
    obtain ⟨chat', -, rfl⟩ := Option.map_eq_some_iff.mp hmade
    exact sound_getChatInfo w chat'
  | makeInfo source =>
    refine ⟨hport.shown, hport.queue, fun info hmem => ?_⟩
    rcases mem_append.mp hmem with hold | hnew
    · exact hport.infos info hold
    · rw [mem_singleton.mp hnew]
      exact sound_getChatInfo w source
  | @updateInfo index info hinfo =>
    have hleaves : (w.portals chat).infoLeavesRecorded tags w.now info = true := by
      simpa only [updatesLeaveRecorded, hinfo, Option.all_some] using hguard
    exact (hport.dropInfo index).updateInfo (hport.infos info (mem_of_getElem? hinfo)) hleaves
  | @createRoom index info created hinfo =>
    have hleaves : (w.portals chat).creationLeavesRecorded tags w.now info = true := by
      simpa only [updatesLeaveRecorded, hinfo, Option.all_some] using hguard
    exact (hport.dropInfo index).createMatrixRoom (hport.infos info (mem_of_getElem? hinfo)) hleaves
      created
  | handle hhandle =>
    refine hport.handle (fun info hinfo => ?_) (fun userLocal settings hhead => ?_)
      (fun info createPortal hhead => ?_) hhandle
    · obtain ⟨chat', -, rfl⟩ := Option.map_eq_some_iff.mp hinfo
      exact sound_getChatInfo w chat'
    · simpa only [updatesLeaveRecorded, hhead] using hguard
    · simpa only [updatesLeaveRecorded, hhead] using hguard

theorem sound_step (h : w.Sound tags) (hguard : updatesLeaveRecorded tags w a = true)
    (hstep : w.step env tags a = some w') : w'.Sound tags := by
  cases effect_of_step hstep with
  | elsewhere hnow hportals htasks =>
    refine ⟨fun chat => ?_, fun task hmem waiting hwait => ?_⟩
    · rw [hportals]
      exact (h.portals chat).later hnow
    · have hold : task ∈ w.tasks := by
        rcases htasks with htasks | ⟨entries, htasks⟩
        · exact htasks ▸ hmem
        · rw [htasks] at hmem
          rcases mem_append.mp hmem with hold | hnew
          · exact hold
          · rw [mem_singleton.mp hnew] at hwait
            cases hwait
      exact (h.pending task hold waiting hwait).later hnow
  | @bridge i entry found rest htask =>
    refine h.setTask (fun waiting hwait => ?_) i
    obtain ⟨event, hevt, rfl⟩ := mem_map.mp hwait
    cases found with
    | true => exact sound_bridgeChatSettings _ _ event hevt
    | false => cases hevt
  | @queue i entries chat event rest htask =>
    have hpend := h.pending _ (mem_of_getElem? htask)
    refine (h.setTask (fun waiting hwait => ?_) i).setPortal ?_ chat
    · exact hpend waiting (mem_cons_of_mem _ hwait)
    · exact (h.portals chat).enqueue (hpend (chat, event) mem_cons_self)
  | @refuse i entries pending htask => exact h.setTask (fun _ hwait => absurd hwait not_mem_nil) i
  | portal heff => exact h.setPortal (sound_portalEffect h hguard heff) _

structure World.Started (tags : ChatSettingsTags) (w : World) : Prop where
  shown : ∀ chat room, (w.portals chat).room = some room → room.Shows tags w.now (w.portals chat).recorded
  queues : ∀ chat, (w.portals chat).queue = [] ∧ (w.portals chat).infos = []
  tasks : w.tasks = []

theorem World.Started.sound (h : w.Started tags) : w.Sound tags := by
  refine ⟨fun chat => ⟨h.shown chat, ?_, ?_⟩, ?_⟩
  · simp [(h.queues chat).1]
  · simp [(h.queues chat).2]
  · simp [h.tasks]

end Runs

-- The settings on record for a room are the ones that it shows.
theorem recorded_settings_shown (env : Env) (tags : ChatSettingsTags) {w₀ w : World} {actions : List Action}
    (hstart : w₀.Started tags) (hrun : Run (Guarded (fun w a => updatesLeaveRecorded tags w a = true)
      fun w a w' => w.step env tags a = some w') w₀ actions w)
    {chat : ChatID} {room : Room} {settings : ChatSettings} (hroom : (w.portals chat).room = some room)
    (hrecd : (w.portals chat).metadata.settings = some settings) : room.Shows tags w.now settings := by
  have hsound :=
    hrun.invariant (I := World.Sound tags) (fun _ _ _ h hstep => sound_step h hstep.1 hstep.2) hstart.sound
  have hshown := (hsound.portals chat).shown room hroom
  rwa [Portal.recorded, hrecd, Option.getD_some] at hshown

def sampleTags : ChatSettingsTags := ⟨"m.favourite", "m.lowpriority"⟩

def friendACI : UUID := UUID.ofByte 5

def friendChat : ChatID := .user (newACIServiceID friendACI)

def friendRecord (archived : Bool) : StorageRecord :=
  .contact { aciBinary := some friendACI.bytes, archived := archived }

def sampleEnv : Env := Receive.workingEnv {} {}

def sampleWorld : World := { now := 0 }

theorem started_sampleWorld : sampleWorld.Started sampleTags :=
  ⟨nofun, fun _ => ⟨rfl, rfl⟩, rfl⟩

def syncFriend (archived : Bool) : List Action :=
  [.startSync [friendRecord archived], .syncRecord fun _ => true, .syncRecord fun _ => true]

def resyncFriend (createPortal : Bool) : List Action :=
  [.resync friendChat none createPortal, .handle friendChat (some friendChat) true, .handle friendChat none true]

def bridgeFriend (task : ℕ) (archived : Bool) : List Action :=
  [.bridge task ⟨friendChat, { archived := archived }⟩ true, .queueEvent task true, .handle friendChat none true]

theorem recorded_settings_shown_unarchived :
    ∃ actions w, Run (Guarded (fun w a => updatesLeaveRecorded sampleTags w a = true)
        fun w a w' => w.step sampleEnv sampleTags a = some w') sampleWorld actions w ∧
      ∃ room, (w.portals friendChat).room = some room ∧
        (w.portals friendChat).metadata.settings = some {} ∧ room.Shows sampleTags w.now {} := by
  have hcheck : (runThrough (updatesLeaveRecorded sampleTags) (World.step sampleEnv sampleTags) sampleWorld
      (syncFriend true ++ resyncFriend true ++ syncFriend false ++ bridgeFriend 1 false)).any (fun w =>
      (w.portals friendChat).room = some {} ∧ (w.portals friendChat).metadata.settings = some {}) = true := by
    decide +kernel
  obtain ⟨w, hrun, hroom, hrecd⟩ := exists_run hcheck
  exact ⟨_, w, hrun, _, hroom, hrecd,
    recorded_settings_shown sampleEnv sampleTags started_sampleWorld hrun hroom hrecd⟩

-- A resync leaves out the empty tag as a default, yet records that it was applied.
theorem resync_records_unarchived_room_tagged :
    sampleWorld.Started sampleTags ∧
    ∃ actions w, Run (fun w a w' => w.step sampleEnv sampleTags a = some w') sampleWorld actions w ∧
      ∃ room settings, (w.portals friendChat).room = some room ∧
        (w.portals friendChat).metadata.settings = some settings ∧
        room.tag = "m.lowpriority" ∧ sampleTags.tagFor settings = "" := by
  have hcheck : (runThrough (fun _ _ => true) (World.step sampleEnv sampleTags) sampleWorld
      (syncFriend true ++ resyncFriend true ++ syncFriend false ++ resyncFriend false)).any (fun w =>
      (w.portals friendChat).room = some { tag := "m.lowpriority" } ∧
        (w.portals friendChat).metadata.settings = some {}) = true := by
    decide +kernel
  obtain ⟨w, hrun, hroom, hrecd⟩ := exists_free_run hcheck
  exact ⟨started_sampleWorld, _, w, hrun, _, _, hroom, hrecd, rfl, by decide⟩

end MautrixSignal.Connector
