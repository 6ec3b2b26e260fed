import MautrixSignal.Connector.ShownSettings

namespace MautrixSignal.Connector

open Lib List SettingsTask
open Receive (Env)

variable {tags : ChatSettingsTags} {now now' : Time} {chat : ChatID}

section Shown

variable {room : Room} {settings old : ChatSettings}

structure Room.ShowsAll (room : Room) (tags : ChatSettingsTags) (now : Time) (settings : ChatSettings) : Prop
    extends room.Shows tags now settings where
  unread : room.unread = settings.markedUnread

def SameShown (tags : ChatSettingsTags) (now : Time) (old settings : ChatSettings) : Prop :=
  muteTime old now = muteTime settings now ∧ tags.tagFor old = tags.tagFor settings ∧
    old.markedUnread = settings.markedUnread

instance : Decidable (SameShown tags now old settings) :=
  inferInstanceAs (Decidable (_ ∧ _ ∧ _))

theorem SameShown.refl (settings : ChatSettings) : SameShown tags now settings settings := ⟨rfl, rfl, rfl⟩

theorem SameShown.later (h : SameShown tags now old settings) (hnow : now ≤ now') :
    SameShown tags now' old settings := by
  refine ⟨?_, h.2⟩
  rw [← muteTime_later old hnow, h.1, muteTime_later settings hnow]

theorem Room.ShowsAll.later (h : room.ShowsAll tags now settings) (hnow : now ≤ now') :
    room.ShowsAll tags now' settings :=
  ⟨h.toShows.later hnow, h.unread⟩

theorem Room.ShowsAll.of_same (h : room.ShowsAll tags now settings) (hsame : SameShown tags now old settings) :
    room.ShowsAll tags now old :=
  ⟨⟨h.mute.trans hsame.1.symm, h.tag.trans hsame.2.1.symm⟩, h.unread.trans hsame.2.2.symm⟩

end Shown

section Queue

variable {room : Room} {portal portal' : Portal} {event : PortalEvent}

def Room.handleEvent (room : Room) : PortalEvent → Room
  | .chatInfoChange userLocal _ => room.updateUserLocal userLocal
  | .markUnread unread => { room with unread := unread }
  | .chatResync _ _ => room

def ChatSettings.recordEvent (settings : ChatSettings) : PortalEvent → ChatSettings
  | .chatInfoChange _ settings => settings
  | .markUnread _ | .chatResync _ _ => settings

def PortalEvent.isBridged : PortalEvent → Bool
  | .chatInfoChange _ _ | .markUnread _ => true
  | .chatResync _ _ => false

def Portal.willRecord (portal : Portal) : ChatSettings :=
  portal.queue.foldl ChatSettings.recordEvent portal.recorded

theorem handle_bridged {rest : List PortalEvent} {getChatInfo : Option ChatInfo} {created : Bool}
    (hroom : portal.room = some room) (hqueue : portal.queue = event :: rest) (hevt : event.isBridged = true)
    (h : portal.handle now getChatInfo created = some portal') :
    portal'.room = some (room.handleEvent event) ∧ portal'.queue = rest ∧
      portal'.recorded = ChatSettings.recordEvent portal.recorded event := by
  cases event with
  | chatInfoChange userLocal settings =>
    simp only [Portal.handle, hqueue, hroom] at h
    cases h
    refine ⟨rfl, rfl, ?_⟩
    simp [Portal.recorded, recorded_settingsMetaUpdater, ChatSettings.recordEvent]
  | markUnread unread =>
    simp only [Portal.handle, hqueue, hroom] at h
    cases h
    exact ⟨rfl, rfl, rfl⟩
  | chatResync info createPortal => cases hevt

theorem shows_bridgeChatSettings (settings : ChatSettings) {planned : ChatSettings} {current : Room}
    (hroom : portal.room = some current)
    (hshows : room.ShowsAll tags now planned) (hsame : SameShown tags now portal.recorded planned) :
    (∀ event ∈ bridgeChatSettings tags now portal settings, event.isBridged = true) ∧
    ((bridgeChatSettings tags now portal settings).foldl Room.handleEvent room).ShowsAll tags now
      ((bridgeChatSettings tags now portal settings).foldl ChatSettings.recordEvent planned) ∧
    SameShown tags now settings
      ((bridgeChatSettings tags now portal settings).foldl ChatSettings.recordEvent planned) := by
  have hold := hshows.of_same hsame
  obtain ⟨hsets, hkeeps⟩ := plan_sets portal.metadata.settings settings
  have hnew := hold.toShows.updateUserLocal hsets hkeeps
  have hunread : (planChatSettings portal.metadata.settings settings tags now).markUnread =
      if portal.recorded.markedUnread ≠ settings.markedUnread then some settings.markedUnread else none := rfl
  unfold bridgeChatSettings
  rw [if_neg (by simp [hroom])]
  dsimp only
  split
  · rename_i hemp
    simp only [ChatSettingsPlan.isEmpty, Bool.and_eq_true, Option.isNone_iff_eq_none] at hemp
    have hflag : portal.recorded.markedUnread = settings.markedUnread := by
      by_contra hne
      rw [hunread, if_pos hne] at hemp
      exact nomatch hemp.2
    rw [hemp.1] at hkeeps
    refine ⟨nofun, hshows, ?_⟩
    have hrecd : SameShown tags now portal.recorded settings := ⟨hkeeps.1 rfl, hkeeps.2 rfl, hflag⟩
    exact ⟨hrecd.1.symm.trans hsame.1, hrecd.2.1.symm.trans hsame.2.1, hflag.symm.trans hsame.2.2⟩
  · by_cases hflag : portal.recorded.markedUnread = settings.markedUnread
    · rw [hunread, if_neg (not_not.mpr hflag)]
      refine ⟨by simp [PortalEvent.isBridged], ⟨hnew, ?_⟩, SameShown.refl _⟩
      exact hold.unread.trans hflag
    · rw [hunread, if_pos hflag]
      refine ⟨by simp [PortalEvent.isBridged], ⟨⟨hnew.mute, hnew.tag⟩, rfl⟩, SameShown.refl _⟩

end Queue

section Pending

variable {w : World} {i : ℕ} {waiting : List PortalEvent}

def SettingsTask.pendingFor (chat : ChatID) (task : SettingsTask) : List PortalEvent :=
  task.pending.filterMap fun (other, event) => if other = chat then some event else none

structure PendingAt (w : World) (chat : ChatID) (i : ℕ) (waiting : List PortalEvent) : Prop where
  tasks : ∀ j task, w.tasks[j]? = some task → task.pendingFor chat = if j = i then waiting else []
  index : waiting ≠ [] → i < w.tasks.length

theorem PendingAt.others (h : PendingAt w chat i waiting) :
    ∀ j task, j ≠ i → w.tasks[j]? = some task → task.pendingFor chat = [] := by
  intro j task hne htask
  rw [h.tasks j task htask, if_neg hne]

theorem pendingAt_of_none (h : ∀ task ∈ w.tasks, task.pendingFor chat = []) : PendingAt w chat i [] := by
  refine ⟨fun j task htask => ?_, fun hne => absurd rfl hne⟩
  rw [h task (mem_of_getElem? htask), ite_self]

theorem pendingAt_setTask {task old : SettingsTask} (hold : w.tasks[i]? = some old)
    (hothers : ∀ j task, j ≠ i → w.tasks[j]? = some task → task.pendingFor chat = []) :
    PendingAt (w.setTask i task) chat i (task.pendingFor chat) := by
  have hlt : i < w.tasks.length := (List.getElem?_eq_some_iff.mp hold).1
  refine ⟨fun j task' htask' => ?_, fun _ => by simpa [World.setTask] using hlt⟩
  by_cases hj : j = i
  · subst hj
    simp only [World.setTask, getElem?_set_self hlt] at htask'
    rw [if_pos rfl, Option.some.inj htask']
  · simp only [World.setTask, getElem?_set_ne (Ne.symm hj)] at htask'
    rw [if_neg hj, hothers j task' hj htask']

theorem PendingAt.setTask_same {task old : SettingsTask} {j : ℕ} (h : PendingAt w chat i waiting)
    (hold : w.tasks[j]? = some old) (hsame : task.pendingFor chat = old.pendingFor chat) :
    PendingAt (w.setTask j task) chat i waiting := by
  have hlt : j < w.tasks.length := (List.getElem?_eq_some_iff.mp hold).1
  refine ⟨fun k task' htask' => ?_, fun hne => by simpa [World.setTask] using h.index hne⟩
  by_cases hk : k = j
  · subst hk
    simp only [World.setTask, getElem?_set_self hlt] at htask'
    rw [← Option.some.inj htask', hsame, h.tasks k old hold]
  · simp only [World.setTask, getElem?_set_ne (Ne.symm hk)] at htask'
    exact h.tasks k task' htask'

theorem PendingAt.eq_nil (h : PendingAt w chat i waiting) (hnone : ∀ task ∈ w.tasks, task.pendingFor chat = []) :
    waiting = [] := by
  by_contra hne
  have hlt := h.index hne
  have htask := getElem?_eq_getElem hlt
  have hwait := h.tasks i _ htask
  rw [if_pos rfl, hnone _ (mem_of_getElem? htask)] at hwait
  exact hne hwait.symm

theorem PendingAt.append {w' : World} {entries : List ChatSettingsEntry} (h : PendingAt w chat i waiting)
    (htasks : w'.tasks = w.tasks ++ [⟨entries, []⟩]) : PendingAt w' chat i waiting := by
  refine ⟨fun j task htask => ?_, fun hne => ?_⟩
  · rw [htasks] at htask
    by_cases hj : j < w.tasks.length
    · rw [getElem?_append_left hj] at htask
      exact h.tasks j task htask
    rw [getElem?_append_right (Nat.le_of_not_lt hj)] at htask
    obtain rfl := mem_singleton.mp (mem_of_getElem? htask)
    by_cases heq : j = i
    · have hwait : waiting = [] := by_contra fun hne => hj (heq ▸ h.index hne)
      rw [if_pos heq, hwait]
      rfl
    · rw [if_neg heq]
      rfl
  · rw [htasks, length_append]
    exact Nat.lt_add_right _ (h.index hne)

theorem pendingFor_map (chat other : ChatID) (entries : List ChatSettingsEntry) (events : List PortalEvent) :
    pendingFor chat ⟨entries, events.map fun event => (other, event)⟩ =
      if other = chat then events else [] := by
  by_cases h : other = chat <;> simp [pendingFor, h]

end Pending

section Order

variable {env : Env} {w w' : World} {a : Action} {last : Option ChatSettings} {room : Room} {i : ℕ}
  {waiting : List PortalEvent}

-- Settings events for the chat come one after another, their portal events are accepted, and nothing else is
-- done with the portal.
def settingsOnly (chat : ChatID) (w : World) : Action → Bool
  | .bridge _ entry found =>
    entry.chatID ≠ chat || (found && w.tasks.all fun task => (task.pendingFor chat).isEmpty)
  | .queueEvent i accepted => accepted || w.tasks[i]?.all fun task => (task.pendingFor chat).isEmpty
  | .viewChat other | .resync other _ _ | .makeInfo other _ | .updateInfo other _ | .createRoom other _ _ =>
    other ≠ chat
  | .startSync _ | .syncRecord _ | .handle _ _ _ | .tick _ => true

-- Settings are compared with what is on record when the changes in the queue do not change that any more.
def plansOnRecord (tags : ChatSettingsTags) (chat : ChatID) (w : World) : Action → Bool
  | .bridge _ entry _ =>
    entry.chatID ≠ chat ||
      decide (SameShown tags w.now (w.portals chat).recorded (w.portals chat).willRecord)
  | _ => true

def bridgedSettings (chat : ChatID) : Action → Option ChatSettings
  | .bridge _ entry _ => if entry.chatID = chat then some entry.settings else none
  | _ => none

-- When everything that is queued or still to be queued is handled, the room shows what is then on record, and
-- that is the last settings.
structure Follows (tags : ChatSettingsTags) (chat : ChatID) (w : World) (last : Option ChatSettings) (room : Room)
    (i : ℕ) (waiting : List PortalEvent) : Prop where
  exists_room : (w.portals chat).room = some room
  pending : PendingAt w chat i waiting
  bridged : ∀ event ∈ (w.portals chat).queue ++ waiting, event.isBridged = true
  shows : (((w.portals chat).queue ++ waiting).foldl Room.handleEvent room).ShowsAll tags w.now
    (((w.portals chat).queue ++ waiting).foldl ChatSettings.recordEvent (w.portals chat).recorded)
  reaches_last : ∀ settings, last = some settings → SameShown tags w.now settings
    (((w.portals chat).queue ++ waiting).foldl ChatSettings.recordEvent (w.portals chat).recorded)

theorem Follows.of_eq (h : Follows tags chat w last room i waiting) (hnow : w.now ≤ w'.now)
    (hport : w'.portals chat = w.portals chat) (hpend : PendingAt w' chat i waiting) :
    Follows tags chat w' last room i waiting := by
  refine ⟨?_, hpend, ?_, ?_, fun settings hlast => ?_⟩ <;> rw [hport]
  · exact h.exists_room
  · exact h.bridged
  · exact h.shows.later hnow
  · exact (h.reaches_last settings hlast).later hnow

theorem Follows.bridge {j : ℕ} {task : SettingsTask} {settings : ChatSettings}
    (h : Follows tags chat w last room i waiting) (hnone : ∀ task ∈ w.tasks, task.pendingFor chat = [])
    (hsame : SameShown tags w.now (w.portals chat).recorded (w.portals chat).willRecord)
    (hpend : PendingAt (w.setTask j task) chat j
      (bridgeChatSettings tags w.now (w.portals chat) settings)) :
    Follows tags chat (w.setTask j task) (some settings) room j
      (bridgeChatSettings tags w.now (w.portals chat) settings) := by
  obtain rfl := h.pending.eq_nil hnone
  have hshows := h.shows
  have hqueued := h.bridged
  rw [append_nil] at hshows hqueued
  obtain ⟨hbridged, hplanned, hnew⟩ := shows_bridgeChatSettings settings h.exists_room hshows hsame
  refine ⟨h.exists_room, hpend, fun event hmem => ?_, ?_, fun settings' hlast => ?_⟩
  · rcases mem_append.mp hmem with hmem | hmem
    · exact hqueued event hmem
    · exact hbridged event hmem
  · rw [foldl_append, foldl_append]
    exact hplanned
  · cases hlast
    rw [foldl_append]
    exact hnew

theorem Follows.handle {source : Option ChatID} {created : Bool} {portal : Portal}
    (h : Follows tags chat w last room i waiting)
    (hhandle : (w.portals chat).handle w.now (source.map (w.getChatInfo tags)) created = some portal) :
    ∃ room', Follows tags chat (w.setPortal chat portal) last room' i waiting := by
  cases hqueue : (w.portals chat).queue with
  | nil =>
    unfold Portal.handle at hhandle
    rw [hqueue] at hhandle
    cases hhandle
  | cons event rest =>
    have hevt := h.bridged event (by simp [hqueue])
    obtain ⟨hroom, hrest, hrecd⟩ := handle_bridged h.exists_room hqueue hevt hhandle
    have hport : (w.setPortal chat portal).portals chat = portal := Function.update_self _ _ _
    refine ⟨room.handleEvent event, ?_, ⟨h.pending.tasks, h.pending.index⟩, ?_, ?_, fun settings hlast => ?_⟩ <;>
      rw [hport]
    · exact hroom
    · intro other hmem
      refine h.bridged other ?_
      rw [hqueue]
      rw [hrest] at hmem
      exact mem_cons_of_mem _ hmem
    · have hshows := h.shows
      rw [hqueue] at hshows
      rw [hrest, hrecd]
      exact hshows
    · have hsame := h.reaches_last settings hlast
      rw [hqueue] at hsame
      rw [hrest, hrecd]
      exact hsame

theorem Follows.queue {entries : List ChatSettingsEntry} {event : PortalEvent} {j : ℕ}
    {rest : List (ChatID × PortalEvent)} (h : Follows tags chat w last room i waiting)
    (htask : w.tasks[j]? = some ⟨entries, (chat, event) :: rest⟩) :
    ∃ waiting', Follows tags chat
      ((w.setTask j ⟨entries, rest⟩).setPortal chat ((w.portals chat).enqueue event)) last room j waiting' := by
  have hfor : pendingFor chat ⟨entries, (chat, event) :: rest⟩ =
      event :: pendingFor chat ⟨entries, rest⟩ := by
    simp [pendingFor]
  have hat := h.pending.tasks j _ htask
  have hj : j = i := by
    by_contra hne
    rw [if_neg hne, hfor] at hat
    cases hat
  subst hj
  rw [if_pos rfl, hfor] at hat
  have hpend : PendingAt (w.setTask j ⟨entries, rest⟩) chat j (pendingFor chat ⟨entries, rest⟩) :=
    pendingAt_setTask htask h.pending.others
  -- The event moves from the one list to the other, and what is on its way stays the same.
  have hqueue : ((w.portals chat).enqueue event).queue ++ pendingFor chat ⟨entries, rest⟩ =
      (w.portals chat).queue ++ waiting := by
    simp [Portal.enqueue, ← hat]
  refine ⟨pendingFor chat ⟨entries, rest⟩, ?_, ⟨hpend.tasks, hpend.index⟩, ?_, ?_, ?_⟩
  all_goals
    simp only [World.setPortal, Function.update_self, hqueue]
  · exact h.exists_room
  · exact h.bridged
  · exact h.shows
  · exact h.reaches_last

theorem follows_step (h : Follows tags chat w last room i waiting) (honly : settingsOnly chat w a = true)
    (hplans : plansOnRecord tags chat w a = true) (hstep : w.step env tags a = some w') :
    ∃ room' i' waiting', Follows tags chat w' ((bridgedSettings chat a).or last) room' i' waiting' := by
  cases effect_of_step hstep with
  | elsewhere hnow hportals htasks hbridge =>
    have hnone : bridgedSettings chat a = none := by
      cases a with
      | bridge j entry found => exact absurd rfl (hbridge j entry found)
      | _ => rfl
    rw [hnone]
    refine ⟨room, i, waiting, h.of_eq hnow (by rw [hportals]) ?_⟩
    rcases htasks with htasks | ⟨entries, htasks⟩
    · exact ⟨htasks ▸ h.pending.tasks, htasks ▸ h.pending.index⟩
    · exact h.pending.append htasks
  | @bridge j entry found rest htask =>
    by_cases hchat : entry.chatID = chat
    · subst hchat
      have hsame : SameShown tags w.now (w.portals entry.chatID).recorded (w.portals entry.chatID).willRecord := by
        simpa [plansOnRecord] using hplans
      have hnone : found = true ∧ ∀ task ∈ w.tasks, task.pendingFor entry.chatID = [] := by
        simpa [settingsOnly] using honly
      obtain ⟨rfl, hnone⟩ := hnone
      have hsets : bridgedSettings entry.chatID (.bridge j entry true) = some entry.settings := if_pos rfl
      rw [hsets, Option.some_or, if_pos rfl]
      refine ⟨room, j, _, h.bridge hnone hsame ?_⟩
      have hpend := pendingFor_map entry.chatID entry.chatID rest
        (bridgeChatSettings tags w.now (w.portals entry.chatID) entry.settings)
      rw [if_pos rfl] at hpend
      nth_rewrite 2 [← hpend]
      exact pendingAt_setTask htask fun k task _ hk => hnone task (mem_of_getElem? hk)
    · rw [bridgedSettings, if_neg hchat, Option.none_or]
      refine ⟨room, i, waiting, h.of_eq (Int.le_refl _) rfl (h.pending.setTask_same htask ?_)⟩
      rw [pendingFor_map, if_neg hchat]
      rfl
  | @queue j entries other event rest htask =>
    by_cases hchat : other = chat
    · subst hchat
      obtain ⟨waiting', hqueue⟩ := h.queue htask
      exact ⟨room, j, waiting', hqueue⟩
    · have hpend : PendingAt (w.setTask j ⟨entries, rest⟩) chat i waiting := by
        refine h.pending.setTask_same htask ?_
        simp [pendingFor, hchat]
      refine ⟨room, i, waiting, h.of_eq (Int.le_refl _) ?_ ⟨hpend.tasks, hpend.index⟩⟩
      exact Function.update_of_ne (Ne.symm hchat) _ _
  | @refuse j entries pending htask =>
    refine ⟨room, i, waiting, h.of_eq (Int.le_refl _) rfl (h.pending.setTask_same htask ?_)⟩
    have hemp : pendingFor chat ⟨entries, pending⟩ = [] := by
      simpa [settingsOnly, htask] using honly
    rw [hemp]
    rfl
  | @portal a other portal heff =>
    have hnone : bridgedSettings chat a = none := by cases heff <;> rfl
    rw [hnone, Option.none_or]
    by_cases hchat : other = chat
    · subst hchat
      cases heff with
      | handle hhandle =>
        obtain ⟨room', hfollows⟩ := h.handle hhandle
        exact ⟨room', i, waiting, hfollows⟩
      | view | resync | makeInfo | updateInfo | createRoom => simp [settingsOnly] at honly
    · refine ⟨room, i, waiting, h.of_eq (Int.le_refl _) ?_ ⟨h.pending.tasks, h.pending.index⟩⟩
      exact Function.update_of_ne (Ne.symm hchat) _ _

theorem follows_run {w₀ : World} {actions : List Action}
    (hrun : Run (Guarded (fun w a => settingsOnly chat w a = true ∧ plansOnRecord tags chat w a = true)
      fun w a w' => w.step env tags a = some w') w₀ actions w)
    (hstart : Follows tags chat w₀ none room i []) :
    ∃ room' i' waiting', Follows tags chat w (actions.filterMap (bridgedSettings chat)).getLast? room' i'
      waiting' := by
  induction hrun with
  | refl => exact ⟨room, i, [], hstart⟩
  | @snoc _ _ actions a _ hstep ih =>
    obtain ⟨room', i', waiting', hfollows⟩ := ih
    rw [filterMap_append, getLast?_append]
    have hlast : (List.filterMap (bridgedSettings chat) [a]).getLast? = bridgedSettings chat a := by
      cases hbridged : bridgedSettings chat a <;> simp [hbridged]
    rw [hlast]
    exact follows_step hfollows hstep.1.1 hstep.1.2 hstep.2

end Order

-- Settings events for an existing room: when nothing is on its way any more, it shows the last of them.
theorem last_settings_shown (env : Env) (tags : ChatSettingsTags) (chat : ChatID) {w₀ w : World}
    {actions : List Action} {room : Room} {settings : ChatSettings} (hroom : (w₀.portals chat).room = some room)
    (hshown : room.ShowsAll tags w₀.now (w₀.portals chat).recorded) (hqueue : (w₀.portals chat).queue = [])
    (hpend : ∀ task ∈ w₀.tasks, task.pendingFor chat = [])
    (hrun : Run (Guarded (fun w a => settingsOnly chat w a = true ∧ plansOnRecord tags chat w a = true)
      fun w a w' => w.step env tags a = some w') w₀ actions w)
    (hlast : (actions.filterMap (bridgedSettings chat)).getLast? = some settings)
    (hhandled : (w.portals chat).queue = []) (hqueued : ∀ task ∈ w.tasks, task.pendingFor chat = []) :
    ∃ room, (w.portals chat).room = some room ∧ room.ShowsAll tags w.now settings := by
  have hstart : Follows tags chat w₀ none room 0 [] := by
    refine ⟨hroom, pendingAt_of_none hpend, ?_, ?_, nofun⟩ <;> rw [hqueue]
    · exact nofun
    · exact hshown
  obtain ⟨room', i, waiting, hfollows⟩ := follows_run hrun hstart
  obtain rfl := hfollows.pending.eq_nil hqueued
  have hshows := hfollows.shows
  have hsame := hfollows.reaches_last settings hlast
  rw [hhandled] at hshows hsame
  exact ⟨room', hfollows.exists_room, hshows.of_same hsame⟩

def roomWorld : World := { now := 0, portals := fun _ => { room := some {} } }

theorem showsAll_roomWorld : ({} : Room).ShowsAll sampleTags roomWorld.now (roomWorld.portals friendChat).recorded :=
  ⟨⟨rfl, rfl⟩, rfl⟩

def bothBridged (bridged : List Action) : List Action :=
  syncFriend true ++ syncFriend false ++ bridged

theorem last_settings_shown_unarchived :
    ∃ actions w, Run (Guarded (fun w a => settingsOnly friendChat w a = true ∧
        plansOnRecord sampleTags friendChat w a = true)
        fun w a w' => w.step sampleEnv sampleTags a = some w') roomWorld actions w ∧
      (actions.filterMap (bridgedSettings friendChat)).getLast? = some {} ∧
      (w.portals friendChat).queue = [] ∧
      ∃ room, (w.portals friendChat).room = some room ∧ room.ShowsAll sampleTags w.now {} := by
  have hcheck : (runThrough (fun w a => settingsOnly friendChat w a && plansOnRecord sampleTags friendChat w a)
      (World.step sampleEnv sampleTags) roomWorld
      (bothBridged (bridgeFriend 0 true ++ bridgeFriend 1 false))).any (fun w =>
      (w.portals friendChat).queue = [] ∧ ∀ task ∈ w.tasks, task.pendingFor friendChat = []) = true := by
    decide +kernel
  obtain ⟨w, hguarded, hhandled, hqueued⟩ := exists_run hcheck
  have hrun : Run (Guarded (fun w a => settingsOnly friendChat w a = true ∧
      plansOnRecord sampleTags friendChat w a = true) fun w a w' => w.step sampleEnv sampleTags a = some w')
      roomWorld _ w :=
    hguarded.mono fun _ _ _ hstep => ⟨(Bool.and_eq_true _ _).mp hstep.1, hstep.2⟩
  exact ⟨_, w, hrun, rfl, hhandled, last_settings_shown sampleEnv sampleTags friendChat rfl showsAll_roomWorld rfl
    (fun _ htask => nomatch htask) hrun rfl hhandled hqueued⟩

-- The chat is archived and taken out again, and the second event is compared with what is on record before the
-- first one is handled.
theorem later_settings_lost :
    ({} : Room).ShowsAll sampleTags roomWorld.now (roomWorld.portals friendChat).recorded ∧
    ∃ actions w, Run (Guarded (fun w a => settingsOnly friendChat w a = true)
        fun w a w' => w.step sampleEnv sampleTags a = some w') roomWorld actions w ∧
      (actions.filterMap (bridgedSettings friendChat)).getLast? = some {} ∧
      (w.portals friendChat).queue = [] ∧ (∀ task ∈ w.tasks, task.pendingFor friendChat = []) ∧
      ∃ room, (w.portals friendChat).room = some room ∧ room.tag = "m.lowpriority" ∧
        sampleTags.tagFor {} = "" := by
  have hcheck : (runThrough (settingsOnly friendChat) (World.step sampleEnv sampleTags) roomWorld
      (bothBridged [.bridge 0 ⟨friendChat, { archived := true }⟩ true, .queueEvent 0 true,
        .bridge 1 ⟨friendChat, {}⟩ true, .handle friendChat none true])).any (fun w =>
      (w.portals friendChat).queue = [] ∧ (∀ task ∈ w.tasks, task.pendingFor friendChat = []) ∧
        (w.portals friendChat).room = some { tag := "m.lowpriority" }) = true := by
    decide +kernel
  obtain ⟨w, hrun, hhandled, hqueued, hroom⟩ := exists_run hcheck
  exact ⟨showsAll_roomWorld, _, w, hrun, rfl, hhandled, hqueued, _, hroom, rfl, by decide⟩

end MautrixSignal.Connector
