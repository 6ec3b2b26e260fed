import Mathlib.Data.List.Nodup
import MautrixSignal.Storage.ChatUpdates

namespace MautrixSignal.Storage

open Lib Receive

variable {env : Env} {snapshot : StorageSnapshot StorageRecord} {chat : ChatRef} {change : ChatSettingsChange}
  {record : StorageRecord} {edits : List (StorageEdit StorageRecord)}

-- What one entry of the pinned list means to the reader and to the writer, and what the writer adds to the list.
theorem pins_written_as_read (env : Env) (hparse : ∀ uuid, env.parseUUID (UUID.text uuid) = (uuid, true)) :
    (∀ chat pin, pinMatchesChat env chat pin = true ↔
      chat.portalID ∈ pinnedChatIDs env { pinnedConversations := [pin] }) ∧
    ∀ chat contactRecord existing, chat.Valid env → (chat.groupID ≠ "" → chat.groupMasterKey.isSome) →
      ∃ entry, newPinEntry chat contactRecord existing = .ok entry ∧
        ∀ other, pinMatchesChat env other entry = true ↔ other.portalID = chat.portalID := by
  refine ⟨fun chat pin => by simp [mem_pinnedChatIDs], fun chat contactRecord existing hchat hkey => ?_⟩
  have hbuilt : ∃ entry, newPinEntry chat contactRecord existing = .ok entry := by
    unfold newPinEntry
    split
    · rename_i hgroup
      obtain ⟨masterKey, hmasterKey⟩ := Option.isSome_iff_exists.mp (hkey hgroup)
      have hid := hchat.group hgroup masterKey hmasterKey
      simp only [groupIDFromMasterKeyBytes, Option.ite_none_right_eq_some] at hid
      simp [hmasterKey, hid.1.1]
    · exact ⟨_, rfl⟩
  obtain ⟨entry, hentry⟩ := hbuilt
  refine ⟨entry, hentry, fun other => ?_⟩
  rw [pinMatchesChat_iff, pinnedChatID_newPinEntry hparse hchat hentry, Option.some.injEq, eq_comm]

theorem contactChat_pin : ∃ entry, newPinEntry contactChat (some chatContact) [] = .ok entry ∧
    ∀ other, pinMatchesChat chatEnv other entry = true ↔ other.portalID = contactChat.portalID :=
  (pins_written_as_read chatEnv parseHexUUID_text).2 contactChat (some chatContact) []
    (valid_of_serviceID (by decide)) (fun hgroup => absurd rfl hgroup)

def StorageRecord.withFields (change : ChatSettingsChange) : StorageRecord → StorageRecord
  | .contact r => .contact { r with
      mutedUntilTimestamp := change.mutedUntil.getD r.mutedUntilTimestamp
      archived := change.archived.getD r.archived
      markedUnread := change.markedUnread.getD r.markedUnread }
  | .groupV2 r => .groupV2 { r with
      mutedUntilTimestamp := change.mutedUntil.getD r.mutedUntilTimestamp
      archived := change.archived.getD r.archived
      markedUnread := change.markedUnread.getD r.markedUnread }
  | r => r

-- The only edits of a change: that of the chat's record, and that of the pinned list. Each keeps the other fields
-- of its record, the unknown ones among them.
inductive Touches (env : Env) (snapshot : StorageSnapshot StorageRecord) (chat : ChatRef)
    (change : ChatSettingsChange) : StorageEdit StorageRecord → Prop
  | fields {record : DecryptedStorageRecord StorageRecord}
      (hfind : findChatRecord env snapshot chat = some record) :
      Touches env snapshot chat change ⟨record.storageID, record.storageRecord.withFields change⟩
  | pins {record : DecryptedStorageRecord StorageRecord} {account account' : AccountRecord}
      (hfind : findAccountRecord snapshot = some record) (haccount : record.storageRecord = .account account)
      (hrest : account' = { account with pinnedConversations := account'.pinnedConversations })
      (hothers : account'.pinnedConversations.filter (fun pin => !pinMatchesChat env chat pin) =
        account.pinnedConversations.filter (fun pin => !pinMatchesChat env chat pin))
      (hlength : change.pinned = some true → account'.pinnedConversations.length ≤ maxPinnedChats) :
      Touches env snapshot chat change ⟨record.storageID, .account account'⟩

-- A record after the edits. An edit names a record by its ID, and keeps its kind.
def edited (edits : List (StorageEdit StorageRecord)) (r : DecryptedStorageRecord StorageRecord) :
    DecryptedStorageRecord StorageRecord :=
  match edits.find? fun edit =>
    edit.oldID = r.storageID && edit.record.account?.isSome = r.storageRecord.account?.isSome with
  | none => r
  | some edit => { r with storageRecord := edit.record }

theorem getD_getD {α : Type} (wanted : Option α) (old : α) : wanted.getD (wanted.getD old) = wanted.getD old := by
  cases wanted <;> rfl

theorem withFields_withFields (record : StorageRecord) :
    (record.withFields change).withFields change = record.withFields change := by
  cases record <;> simp only [StorageRecord.withFields, getD_getD]

theorem setField_unchanged {α : Type} [DecidableEq α] (old : α) (wanted : Option α) :
    (setField old wanted).2 = false ↔ wanted.getD old = old := by
  cases wanted with
  | none => simp [setField]
  | some value => by_cases hsame : value = old <;> simp [setField, hsame, Ne.symm]

theorem applyChatFields_eq (change : ChatSettingsChange) (h : recordMatchesChat env record chat = true) :
    ∃ changed, applyChatFields record change = (some (record.withFields change), changed) ∧
      (changed = false ↔ record.withFields change = record) := by
  cases record with
  | contact contact =>
    refine ⟨_, by simp only [applyChatFields, setField_fst]; rfl, ?_⟩
    obtain ⟨⟩ := contact
    simp [StorageRecord.withFields, setField_unchanged, and_assoc]
  | groupV2 group =>
    refine ⟨_, by simp only [applyChatFields, setField_fst]; rfl, ?_⟩
    obtain ⟨⟩ := group
    simp [StorageRecord.withFields, setField_unchanged, and_assoc]
  | account | other => cases h

theorem matches_withFields (change : ChatSettingsChange) :
    recordMatchesChat env (record.withFields change) chat = recordMatchesChat env record chat := by
  cases record <;> rfl

theorem account?_of_matches (h : recordMatchesChat env record chat = true) : record.account? = none := by
  cases record <;> first | rfl | cases h

theorem chatEdits_cases (h : chatEdits env snapshot chat change = .ok edits) :
    (change.needsChatRecord = false ∧ edits = []) ∨ ∃ record, findChatRecord env snapshot chat = some record ∧
      (edits = [⟨record.storageID, record.storageRecord.withFields change⟩] ∨
        edits = [] ∧ record.storageRecord.withFields change = record.storageRecord) := by
  unfold chatEdits at h
  split at h
  · split at h
    · cases h
    rename_i record hrec
    obtain ⟨changed, happly, hchg⟩ := applyChatFields_eq change (matches_of_findChatRecord hrec)
    rw [happly] at h
    refine .inr ⟨record, hrec, ?_⟩
    cases changed with
    | true => exact .inl (Except.ok.inj h).symm
    | false => exact .inr ⟨(Except.ok.inj h).symm, hchg.mp rfl⟩
  · rename_i hneeds
    exact .inl ⟨Bool.eq_false_iff.mpr hneeds, (Except.ok.inj h).symm⟩

variable {r : DecryptedStorageRecord StorageRecord}

theorem chatEdits_settled (hfind : findChatRecord env snapshot chat = some r)
    (h : r.storageRecord.withFields change = r.storageRecord) : chatEdits env snapshot chat change = .ok [] := by
  obtain ⟨changed, happly, hchg⟩ := applyChatFields_eq change (matches_of_findChatRecord hfind)
  obtain rfl := hchg.mpr h
  simp [chatEdits, hfind, happly]

theorem pinEdits_cases (hparse : ∀ uuid, env.parseUUID (UUID.text uuid) = (uuid, true)) (hchat : chat.Valid env)
    (h : pinEdits env snapshot chat change = .ok edits) :
    (change.pinned = none ∧ edits = []) ∨ ∃ pinned record account account', change.pinned = some pinned ∧
      findAccountRecord snapshot = some record ∧ record.storageRecord = .account account ∧
      decide (chat.portalID ∈ pinnedChatIDs env account') = pinned ∧
      (edits = [⟨record.storageID, .account account'⟩] ∧
          Touches env snapshot chat change ⟨record.storageID, .account account'⟩ ∨
        edits = [] ∧ account' = account) := by
  unfold pinEdits at h
  split at h
  · rename_i hnone
    exact .inl ⟨hnone, (Except.ok.inj h).symm⟩
  rename_i pinned hpin
  split at h
  · cases h
  rename_i record hrec
  obtain ⟨updated, happly, rfl⟩ := map_eq_ok_iff.mp h
  obtain ⟨account, hacct, ⟨rfl, hsame⟩ | ⟨account', rfl, hdiffers, hnow, hrest, hothers, hlen⟩⟩ :=
    applyPinChange_ok hparse hchat happly
  · exact .inr ⟨pinned, record, account, account, hpin, hrec, hacct, hsame, .inr ⟨rfl, rfl⟩⟩
  · refine .inr ⟨pinned, record, account, account', hpin, hrec, hacct, hnow, .inl ⟨rfl, ?_⟩⟩
    exact .pins hrec hacct hrest hothers fun htrue => hlen (Option.some.inj (hpin.symm.trans htrue))

theorem pinEdits_settled {account : AccountRecord} {pinned : Bool} (hpin : change.pinned = some pinned)
    (hfind : findAccountRecord snapshot = some r) (hacct : r.storageRecord = .account account)
    (hin : decide (chat.portalID ∈ pinnedChatIDs env account) = pinned) :
    pinEdits env snapshot chat change = .ok [] := by
  have hany : account.pinnedConversations.any (pinMatchesChat env chat) = pinned := by
    rw [← hin, Bool.eq_iff_iff, decide_eq_true_eq, mem_pinnedChatIDs]
  simp [pinEdits, hpin, hfind, hacct, applyPinChange, hany, Except.map]

theorem find?_edited (p : StorageRecord → Bool) {records : List (DecryptedStorageRecord StorageRecord)}
    (h : records.find? (p ·.storageRecord) = some r) (hrec : p record = true)
    (hedits : ∀ edit ∈ edits, p edit.record = true → edit.record = record)
    (hnew : (edited edits r).storageRecord = record) :
    ∃ r, (records.map (edited edits)).find? (p ·.storageRecord) = some r ∧ r.storageRecord = record := by
  induction records with
  | nil => cases h
  | cons x rest ih =>
    simp only [List.map_cons, List.find?_cons] at h ⊢
    by_cases hx : p x.storageRecord = true
    · simp only [hx, Option.some.injEq] at h
      rw [h, hnew, hrec]
      exact ⟨_, rfl, hnew⟩
    · by_cases hfound : p (edited edits x).storageRecord = true
      · rw [hfound]
        refine ⟨_, rfl, ?_⟩
        unfold edited at hfound ⊢
        split at hfound
        · exact absurd hfound hx
        · rename_i edit hedit
          exact hedits edit (List.mem_of_find?_eq_some hedit) hfound
      · simp only [Bool.eq_false_iff.mpr hx, Bool.eq_false_iff.mpr hfound] at h ⊢
        exact ih h

theorem find?_of_kind (h : ∀ edit ∈ edits, edit.record.account?.isSome ≠ r.storageRecord.account?.isSome) :
    edits.find? (fun edit => edit.oldID = r.storageID &&
      edit.record.account?.isSome = r.storageRecord.account?.isSome) = none :=
  List.find?_eq_none.mpr fun edit hedit => by simp [h edit hedit]

-- Only the chat's record and the account record are edited, and asking again changes nothing more.
theorem applyChatSettingsChange_frame (env : Env)
    (hparse : ∀ uuid, env.parseUUID (UUID.text uuid) = (uuid, true)) (snapshot : StorageSnapshot StorageRecord)
    (chat : ChatRef) (hchat : chat.Valid env) (change : ChatSettingsChange)
    (edits : List (StorageEdit StorageRecord)) (h : applyChatSettingsChange env snapshot chat change = .ok edits) :
    (∀ edit ∈ edits, Touches env snapshot chat change edit) ∧
    applyChatSettingsChange env { snapshot with records := snapshot.records.map (edited edits) } chat change =
      .ok [] := by
  unfold applyChatSettingsChange at h
  split at h
  · cases h
  rename_i fields hfields
  obtain ⟨pins, hpins, rfl⟩ := map_eq_ok_iff.mp h
  have hc := chatEdits_cases hfields
  have hp := pinEdits_cases hparse hchat hpins
  have hfields : ∀ edit ∈ fields, edit.record.account? = none ∧ Touches env snapshot chat change edit := by
    obtain ⟨-, rfl⟩ | ⟨record, hfind, rfl | ⟨rfl, -⟩⟩ := hc
    · simp
    · have hmatches := (matches_withFields change).trans (matches_of_findChatRecord hfind)
      simpa using ⟨account?_of_matches hmatches, .fields hfind⟩
    · simp
  have hpins : ∀ edit ∈ pins, (∃ account, edit.record = .account account) ∧
      Touches env snapshot chat change edit := by
    obtain ⟨-, rfl⟩ | ⟨_, _, _, account', -, -, -, -, ⟨rfl, htouches⟩ | ⟨rfl, -⟩⟩ := hp
    · simp
    · simpa using htouches
    · simp
  have hagain : chatEdits env { snapshot with records := snapshot.records.map (edited (fields ++ pins)) } chat
      change = .ok [] := by
    obtain ⟨hneeds, -⟩ | ⟨record, hfind, hedits⟩ := hc
    · simp [chatEdits, hneeds]
    · have hmatches := (matches_withFields change).trans (matches_of_findChatRecord hfind)
      have hkind := account?_of_matches (matches_of_findChatRecord hfind)
      have hrec : (edited (fields ++ pins) record).storageRecord = record.storageRecord.withFields change := by
        rcases hedits with rfl | ⟨rfl, hsame⟩
        · simp [edited, hkind, account?_of_matches hmatches]
        have hothers : ∀ edit ∈ pins, edit.record.account?.isSome ≠ record.storageRecord.account?.isSome := by
          intro edit hedit
          obtain ⟨⟨account, hacct⟩, -⟩ := hpins edit hedit
          rw [hacct, hkind]
          exact Bool.false_ne_true.symm
        unfold edited
        rw [List.nil_append, find?_of_kind hothers, hsame]
      have hnew : ∀ edit ∈ fields ++ pins, recordMatchesChat env edit.record chat = true →
          edit.record = record.storageRecord.withFields change := by
        intro edit hedit hfound
        rcases List.mem_append.mp hedit with hfield | hpin
        · rcases hedits with rfl | ⟨rfl, -⟩
          · rw [List.mem_singleton.mp hfield]
          · cases hfield
        · obtain ⟨⟨account, hacct⟩, -⟩ := hpins edit hpin
          rw [hacct] at hfound
          cases hfound
      obtain ⟨r, hr, hrec⟩ := find?_edited (recordMatchesChat env · chat) hfind hmatches hnew hrec
      exact chatEdits_settled hr (by rw [hrec, withFields_withFields])
  have hpinned : pinEdits env { snapshot with records := snapshot.records.map (edited (fields ++ pins)) } chat
      change = .ok [] := by
    obtain ⟨hnone, -⟩ | ⟨pinned, record, account, account', hpinned, hfind, hacct, hin, hedits⟩ := hp
    · simp [pinEdits, hnone]
    · have hrec : (edited (fields ++ pins) record).storageRecord = .account account' := by
        have hothers : ∀ edit ∈ fields, edit.record.account?.isSome ≠ record.storageRecord.account?.isSome := by
          intro edit hedit
          rw [(hfields edit hedit).1, hacct]
          exact Bool.false_ne_true
        unfold edited
        rw [List.find?_append, find?_of_kind hothers]
        rcases hedits with ⟨rfl, -⟩ | ⟨rfl, rfl⟩
        · simp [hacct, StorageRecord.account?]
        · exact hacct
      have hnew : ∀ edit ∈ fields ++ pins, edit.record.account?.isSome = true →
          edit.record = .account account' := by
        intro edit hedit hfound
        rcases List.mem_append.mp hedit with hfield | hpin
        · rw [(hfields edit hfield).1] at hfound
          cases hfound
        · rcases hedits with ⟨rfl, -⟩ | ⟨rfl, -⟩
          · rw [List.mem_singleton.mp hpin]
          · cases hpin
      obtain ⟨r, hr, hrec⟩ := find?_edited (·.account?.isSome) hfind rfl hnew hrec
      exact pinEdits_settled hpinned hr hrec hin
  refine ⟨fun edit hedit => ?_, by simp [applyChatSettingsChange, hagain, hpinned, Except.map]⟩
  rcases List.mem_append.mp hedit with hfield | hpin
  · exact (hfields edit hfield).2
  · exact (hpins edit hpin).2

def pinSnapshot : StorageSnapshot StorageRecord where
  manifest := sampleManifest
  records := [⟨.contact, "contact", .contact { chatContact with rest := [80, 1] }⟩,
    ⟨.account, "account", .account { profileKey := List.replicate 32 6, rest := [48, 1] }⟩]

def archiveAndPin : ChatSettingsChange := { archived := some true, pinned := some true }

theorem archiveAndPin_frame : ∃ edits, edits.length = 2 ∧
    applyChatSettingsChange chatEnv pinSnapshot contactChat archiveAndPin = .ok edits ∧
    (∀ edit ∈ edits, Touches chatEnv pinSnapshot contactChat archiveAndPin edit) ∧
    applyChatSettingsChange chatEnv { pinSnapshot with records := pinSnapshot.records.map (edited edits) }
      contactChat archiveAndPin = .ok [] :=
  ⟨_, rfl, rfl, applyChatSettingsChange_frame chatEnv parseHexUUID_text pinSnapshot contactChat
    (valid_of_serviceID (by decide)) archiveAndPin _ rfl⟩

end MautrixSignal.Storage
