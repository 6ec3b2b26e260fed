import MautrixSignal.Storage.ChatReads

namespace MautrixSignal.Storage

open Lib Lib.Base64 Receive List Storage.UUID ChatSettingsChange

variable {env : Env} {snapshot : StorageSnapshot StorageRecord} {chat : ChatRef} {change : ChatSettingsChange}
  {cache : SettingsCache}

section Text

variable {sid : ServiceID}

theorem length_hexDigits (bytes : Bytes) : (hexDigits bytes).length = 2 * bytes.length := by
  induction bytes with
  | nil => rfl
  | cons b rest ih =>
    simp only [hexDigits, flatMap_cons, length_append, length_cons, length_nil] at ih ⊢
    omega

theorem length_text (uuid : UUID) : (text uuid).length = 36 := by
  have hlen := uuid.length_eq
  simp only [text, length_append, length_cons, length_hexDigits, length_take,
    length_drop]
  omega

theorem toUpper_hexDigit (b : UInt8) : toUpper (hexDigit (b % 16)) ≠ 58 := by
  have hall : ∀ n < 16, toUpper (hexDigit (UInt8.ofNat n)) ≠ 58 := by decide
  have hmod : b % 16 = UInt8.ofNat (b.toNat % 16) := by
    apply UInt8.toNat_inj.mp
    simp
    omega
  rw [hmod]
  exact hall _ (Nat.mod_lt _ (by decide))

theorem map_toUpper_text (uuid : UUID) : ((text uuid).take 4).map toUpper ≠ pniPrefix := by
  obtain ⟨bytes, hlen⟩ := uuid
  match bytes, hlen with
  | a :: b :: rest, _ =>
    intro heq
    have hlast := congrArg (·[3]?) heq
    simp [text, hexDigits, pniPrefix] at hlast
    exact toUpper_hexDigit b hlast

theorem named_cases (h : hasName sid.type = true) :
    sid = newACIServiceID sid.uuid ∨ sid = newPNIServiceID sid.uuid := by
  simp only [hasName, Bool.or_eq_true, decide_eq_true_eq] at h
  obtain ⟨type, uuid⟩ := sid
  rcases h with rfl | rfl
  · exact .inl rfl
  · exact .inr rfl

theorem serviceIDFromString_text (hparse : ∀ uuid, env.parseUUID (text uuid) = (uuid, true))
    (h : hasName sid.type = true) : serviceIDFromString env (ServiceID.text sid) = some sid := by
  rcases named_cases h with heq | heq
  · rw [heq]
    have htext : ServiceID.text (newACIServiceID sid.uuid) = text sid.uuid := rfl
    unfold serviceIDFromString
    rw [htext, if_neg (by rw [length_text]; decide), if_neg (map_toUpper_text _), hparse]
    rfl
  · rw [heq]
    have htext : ServiceID.text (newPNIServiceID sid.uuid) = pniPrefix ++ text sid.uuid := rfl
    have htake : ((pniPrefix ++ text sid.uuid).take 4).map toUpper = pniPrefix := rfl
    have hdrop : (pniPrefix ++ text sid.uuid).drop 4 = text sid.uuid := rfl
    unfold serviceIDFromString
    rw [htext, if_neg (by rw [length_append, length_text]; decide), if_pos htake, hdrop, hparse]
    rfl

theorem serviceIDFromBytes_toBytes (h : hasName sid.type = true) :
    serviceIDFromBytes (ServiceID.toBytes sid) = some sid := by
  rcases named_cases h with heq | heq
  · rw [heq]
    have hbytes : ServiceID.toBytes (newACIServiceID sid.uuid) = sid.uuid.bytes := rfl
    unfold serviceIDFromBytes
    rw [hbytes, dif_pos sid.uuid.length_eq]
    rfl
  · rw [heq]
    have hbytes : ServiceID.toBytes (newPNIServiceID sid.uuid) = serviceIDTypePNI :: sid.uuid.bytes := rfl
    unfold serviceIDFromBytes
    rw [hbytes, dif_neg (by simp [sid.uuid.length_eq])]
    simp only [dif_pos sid.uuid.length_eq]
    rfl

theorem text_ne_nil (sid : ServiceID) : ServiceID.text sid ≠ [] := by
  intro hnil
  have hlen : 36 ≤ (ServiceID.text sid).length := by
    unfold ServiceID.text
    split <;> simp [length_text]
  rw [hnil] at hlen
  exact absurd hlen (by decide)

theorem toBytes_ne_nil (sid : ServiceID) : ServiceID.toBytes sid ≠ [] := by
  unfold ServiceID.toBytes
  split
  · intro hnil
    have hlen := sid.uuid.length_eq
    rw [hnil] at hlen
    cases hlen
  · exact cons_ne_nil _ _

end Text

def ChatRef.portalID (chat : ChatRef) : ChatID :=
  if chat.groupID ≠ "" then .group chat.groupID else .user chat.serviceID

-- What the callers promise: the service ID of a portal, or the key of a group.
structure ChatRef.Valid (env : Env) (chat : ChatRef) : Prop where
  user : chat.groupID = "" → hasName chat.serviceID.type = true ∧ ServiceID.isEmpty chat.serviceID = false
  group : chat.groupID ≠ "" → ∀ masterKey, chat.groupMasterKey = some masterKey →
    groupIDFromMasterKeyBytes env masterKey = some chat.groupID

theorem pinMatchesChat_iff {pin : PinnedConversation} :
    pinMatchesChat env chat pin = true ↔ pinnedChatID env pin = some chat.portalID := by
  unfold ChatRef.portalID
  by_cases hgroup : chat.groupID = ""
  · cases pin <;> simp [pinMatchesChat, pinnedChatID, hgroup, Option.any_eq_true]
  · cases pin <;> simp [pinMatchesChat, pinnedChatID, hgroup]

theorem mem_pinnedChatIDs {account : AccountRecord} :
    chat.portalID ∈ pinnedChatIDs env account ↔
      account.pinnedConversations.any (pinMatchesChat env chat) = true := by
  simp [pinnedChatIDs, pinMatchesChat_iff]

variable {contactRecord : Option ContactRecord}

theorem pinnedChatID_newPinEntry (hparse : ∀ uuid, env.parseUUID (text uuid) = (uuid, true))
    (hchat : chat.Valid env) {existing : List PinnedConversation} {entry : PinnedConversation}
    (h : newPinEntry chat contactRecord existing = .ok entry) : pinnedChatID env entry = some chat.portalID := by
  unfold newPinEntry at h
  split at h
  · rename_i hgroup
    split at h
    · rename_i masterKey hkey
      split at h
      · cases h
        simp [pinnedChatID, hchat.group hgroup masterKey hkey, ChatRef.portalID, hgroup]
      · cases h
    · cases h
  · rename_i huser
    obtain ⟨hnamed, hfull⟩ := hchat.user (not_not.mp huser)
    cases h
    generalize (_ || _ : Bool) = binary
    cases binary with
    | true =>
      simp [pinnedChatID, pinnedContactServiceID, toBytes_ne_nil, serviceIDFromBytes_toBytes hnamed, hfull,
        ChatRef.portalID, not_not.mp huser]
    | false =>
      simp [pinnedChatID, pinnedContactServiceID, text_ne_nil, serviceIDFromString_text hparse hnamed, hfull,
        ChatRef.portalID, not_not.mp huser]

variable {record : StorageRecord}

theorem applyPinChange_ok (hparse : ∀ uuid, env.parseUUID (text uuid) = (uuid, true)) (hchat : chat.Valid env)
    {pinned : Bool} {updated : Option StorageRecord}
    (h : applyPinChange env record chat pinned contactRecord = .ok updated) :
    ∃ account, record = .account account ∧
      (updated = none ∧ decide (chat.portalID ∈ pinnedChatIDs env account) = pinned ∨
        ∃ account', updated = some (.account account') ∧
          decide (chat.portalID ∈ pinnedChatIDs env account) ≠ pinned ∧
          decide (chat.portalID ∈ pinnedChatIDs env account') = pinned ∧
          account' = { account with pinnedConversations := account'.pinnedConversations } ∧
          account'.pinnedConversations.filter (fun pin => !pinMatchesChat env chat pin) =
            account.pinnedConversations.filter (fun pin => !pinMatchesChat env chat pin) ∧
          (pinned = true → account'.pinnedConversations.length ≤ maxPinnedChats)) := by
  unfold applyPinChange at h
  split at h
  · rename_i account
    refine ⟨account, rfl, ?_⟩
    have hold : decide (chat.portalID ∈ pinnedChatIDs env account) =
        account.pinnedConversations.any (pinMatchesChat env chat) := by
      simp only [mem_pinnedChatIDs, Bool.decide_eq_true]
    rw [hold]
    simp only at h
    split at h
    · rename_i hsame
      cases h
      exact .inl ⟨rfl, hsame⟩
    · rename_i hdiffers
      refine .inr ?_
      split at h
      · rename_i hpin
        split at h
        · cases h
        rename_i hroom
        obtain ⟨entry, hentry, rfl⟩ := map_eq_ok_iff.mp h
        have hmatches := pinMatchesChat_iff.mpr (pinnedChatID_newPinEntry hparse hchat hentry)
        refine ⟨_, rfl, hdiffers, ?_, rfl, ?_, fun _ => ?_⟩
        · rw [hpin, decide_eq_true_eq, mem_pinnedChatIDs]
          simp [hmatches]
        · simp [hpin, hmatches]
        · rw [length_append, length_singleton]
          omega
      · rename_i hunpinned
        cases h
        refine ⟨_, rfl, hdiffers, ?_, rfl, ?_, fun hpin => absurd hpin hunpinned⟩
        · rw [Bool.eq_false_iff.mpr hunpinned, decide_eq_false_iff_not, mem_pinnedChatIDs]
          simp
        · simp [Bool.eq_false_iff.mpr hunpinned]
  · cases h

def ChatSettingsChange.FieldsIn (change : ChatSettingsChange) (settings : ChatSettings) : Prop :=
  (∀ value, change.mutedUntil = some value → settings.mutedUntil = value) ∧
    (∀ value, change.archived = some value → settings.archived = value) ∧
    ∀ value, change.markedUnread = some value → settings.markedUnread = value

def ChatSettingsChange.PinIn (change : ChatSettingsChange) (pinned : Bool) : Prop :=
  ∀ value, change.pinned = some value → pinned = value

def ChatSettingsChange.fields (change : ChatSettingsChange) (settings : ChatSettings) : ChatSettings :=
  { settings with
    mutedUntil := change.mutedUntil.getD settings.mutedUntil
    archived := change.archived.getD settings.archived
    markedUnread := change.markedUnread.getD settings.markedUnread }

theorem fieldsIn_fields (change : ChatSettingsChange) (settings : ChatSettings) :
    change.FieldsIn (change.fields settings) := by
  refine ⟨fun value h => ?_, fun value h => ?_, fun value h => ?_⟩
  all_goals simp [fields, h]

theorem fieldsIn_of_not_needed (h : ¬ change.needsChatRecord = true) (settings : ChatSettings) :
    change.FieldsIn settings := by
  simp only [needsChatRecord, Bool.or_eq_true, not_or, Option.not_isSome_iff_eq_none] at h
  simp [FieldsIn, h.1.1, h.1.2, h.2]

def StorageRecord.chatSettings (env : Env) : StorageRecord → Option (ChatID × ChatSettings)
  | .contact record =>
    (contactChatID (record.ids env).1 (record.ids env).2).map fun id => (id, contactRecordSettings record)
  | .groupV2 record =>
    (groupIDFromMasterKeyBytes env record.masterKey).map fun id => (.group id, groupRecordSettings record)
  | .account _ | .other _ => none

theorem setField_fst {α : Type} [DecidableEq α] (old : α) (wanted : Option α) :
    (setField old wanted).1 = wanted.getD old := by
  cases wanted <;> rfl

theorem setField_snd {α : Type} [DecidableEq α] {old : α} {wanted : Option α} :
    (setField old wanted).2 = false ↔ ∀ value, wanted = some value → old = value := by
  cases wanted <;> simp [setField]

theorem applyChatFields_spec {id : ChatID} {settings : ChatSettings}
    (h : record.chatSettings env = some (id, settings)) (change : ChatSettingsChange) :
    ∃ updated changed, applyChatFields record change = (some updated, changed) ∧
      updated.chatSettings env = some (id, change.fields settings) ∧ (changed = false ↔ change.FieldsIn settings) := by
  cases record with
  | contact contact =>
    obtain ⟨id', hid, heq⟩ := Option.map_eq_some_iff.mp h
    obtain ⟨rfl, rfl⟩ := Prod.mk.inj heq
    refine ⟨_, _, rfl, Option.map_eq_some_iff.mpr ⟨id', hid, ?_⟩, ?_⟩
    · simp [contactRecordSettings, fields, setField_fst]
    · simp [FieldsIn, contactRecordSettings, setField_snd, and_assoc]
  | groupV2 group =>
    obtain ⟨id', hid, heq⟩ := Option.map_eq_some_iff.mp h
    cases heq
    refine ⟨_, _, rfl, Option.map_eq_some_iff.mpr ⟨id', hid, ?_⟩, ?_⟩
    · simp [groupRecordSettings, fields, setField_fst]
    · simp [FieldsIn, groupRecordSettings, setField_snd, and_assoc]
  | account | other => cases h

theorem chat_of_matches (h : recordMatchesChat env record chat = true) :
    ∃ id settings, record.chatSettings env = some (id, settings) := by
  cases record with
  | contact contact =>
    have hid : ∃ id, contactChatID (contact.ids env).1 (contact.ids env).2 = some id := by
      simp only [recordMatchesChat] at h
      split at h
      · cases h
      rename_i hchat
      push Not at hchat
      have hfull : chat.serviceID.uuid ≠ UUID.nil := by simpa [ServiceID.isEmpty] using hchat.2
      unfold contactChatID
      split at h
      · rw [of_decide_eq_true h, if_pos hfull]
        exact ⟨_, rfl⟩
      · rw [of_decide_eq_true h, if_pos hfull]
        split <;> exact ⟨_, rfl⟩
    obtain ⟨id, hid⟩ := hid
    exact ⟨id, _, Option.map_eq_some_iff.mpr ⟨id, hid, rfl⟩⟩
  | groupV2 group =>
    simp only [recordMatchesChat] at h
    split at h
    · cases h
    · exact ⟨_, _, Option.map_eq_some_iff.mpr ⟨_, of_decide_eq_true h, rfl⟩⟩
  | account | other => cases h

theorem matches_of_findChatRecord {record : DecryptedStorageRecord StorageRecord}
    (h : findChatRecord env snapshot chat = some record) : recordMatchesChat env record.storageRecord chat = true := by
  have hfound := find?_some h
  exact hfound

variable {edits : List (StorageEdit StorageRecord)}

theorem chatEdits_ok (h : chatEdits env snapshot chat change = .ok edits) :
    (edits = [] ∧ ∀ record id settings, findChatRecord env snapshot chat = some record →
      record.storageRecord.chatSettings env = some (id, settings) → change.FieldsIn settings) ∨
    ∃ record id settings updated, findChatRecord env snapshot chat = some record ∧
      record.storageRecord.chatSettings env = some (id, settings) ∧ ¬ change.FieldsIn settings ∧
      edits.map (·.record) = [updated] ∧ updated.chatSettings env = some (id, change.fields settings) := by
  unfold chatEdits at h
  split at h
  · split at h
    · cases h
    rename_i record hrec
    obtain ⟨id, settings, hchat⟩ := chat_of_matches (matches_of_findChatRecord hrec)
    obtain ⟨updated, changed, happly, hupdated, hchg⟩ := applyChatFields_spec hchat change
    rw [happly] at h
    cases changed with
    | true =>
      cases h
      have hdiffers : ¬ change.FieldsIn settings := fun hin => nomatch hchg.mpr hin
      exact .inr ⟨record, id, settings, updated, hrec, hchat, hdiffers, rfl, hupdated⟩
    | false =>
      cases h
      refine .inl ⟨rfl, fun record' id' settings' hrec' hchat' => ?_⟩
      obtain rfl := Option.some.inj (hrec.symm.trans hrec')
      obtain ⟨-, rfl⟩ := Prod.mk.inj (Option.some.inj (hchat.symm.trans hchat'))
      exact hchg.mp rfl
  · rename_i hneeds
    cases h
    exact .inl ⟨rfl, fun _ _ settings _ _ => fieldsIn_of_not_needed hneeds settings⟩

theorem pinEdits_ok (hparse : ∀ uuid, env.parseUUID (text uuid) = (uuid, true)) (hchat : chat.Valid env)
    (h : pinEdits env snapshot chat change = .ok edits) :
    (edits = [] ∧ ∀ record account, findAccountRecord snapshot = some record →
      record.storageRecord = .account account →
        change.PinIn (decide (chat.portalID ∈ pinnedChatIDs env account))) ∨
    ∃ record account account', findAccountRecord snapshot = some record ∧
      record.storageRecord = .account account ∧
      ¬ change.PinIn (decide (chat.portalID ∈ pinnedChatIDs env account)) ∧
      edits.map (·.record) = [.account account'] ∧
      change.PinIn (decide (chat.portalID ∈ pinnedChatIDs env account')) := by
  unfold pinEdits at h
  split at h
  · rename_i hnone
    cases h
    exact .inl ⟨rfl, fun _ _ _ _ value hval => nomatch hnone.symm.trans hval⟩
  · rename_i pinned hpin
    have hpinIn (b : Bool) : change.PinIn b ↔ b = pinned := by
      simp [PinIn, hpin]
    split at h
    · cases h
    rename_i record hrec
    obtain ⟨updated, happly, rfl⟩ := map_eq_ok_iff.mp h
    obtain ⟨account, hacct, ⟨rfl, hsame⟩ | ⟨account', rfl, hdiffers, hnow, -⟩⟩ :=
      applyPinChange_ok hparse hchat happly
    · refine .inl ⟨rfl, fun record' account'' hrec' hacct' => ?_⟩
      obtain rfl := Option.some.inj (hrec.symm.trans hrec')
      obtain rfl := StorageRecord.account.inj (hacct.symm.trans hacct')
      exact (hpinIn _).mpr hsame
    · exact .inr ⟨record, account, account', hrec, hacct, fun hin => hdiffers ((hpinIn _).mp hin), rfl,
        (hpinIn _).mpr hnow⟩

theorem settings_recordChatSettings (cache : SettingsCache) (id id' : ChatID) (settings : ChatSettings) :
    (cache.recordChatSettings id settings).settings id' =
      if id' = id then { settings with pinned := id' ∈ cache.chatPinned } else cache.settings id' := by
  rw [SettingsCache.settings, SettingsCache.lookup_recordChatSettings]
  split <;> rfl

theorem settings_recordPinnedChats (cache : SettingsCache) (pinned : List ChatID) (id : ChatID) :
    (cache.recordPinnedChats pinned).settings id = { cache.settings id with pinned := id ∈ pinned } :=
  rfl

theorem processRecord_of_chat {id : ChatID} {settings : ChatSettings}
    (h : record.chatSettings env = some (id, settings)) (cache : SettingsCache) :
    processRecord env (fun _ => true) cache record = (cache.recordChatSettings id settings, some true) := by
  cases record with
  | contact contact =>
    obtain ⟨id', hid, heq⟩ := Option.map_eq_some_iff.mp h
    cases heq
    simp [processRecord, recordPlan, applyWrite, hid]
  | groupV2 group =>
    obtain ⟨id', hid, heq⟩ := Option.map_eq_some_iff.mp h
    cases heq
    have hlen : group.masterKey.length = groupMasterKeyLength := by
      simp only [groupIDFromMasterKeyBytes, Option.ite_none_right_eq_some] at hid
      exact hid.1.1
    simp [processRecord, recordPlan, applyWrite, hid, hlen]
  | account | other => cases h

theorem newRecords_of_build {ρ : Type} {c : Crypto ρ} {storageKey recordIKM : Bytes} {draws : Nat → Draw}
    {edits : List (StorageEdit ρ)} {st st' : BuildState ρ}
    (h : edits.foldlM (buildEdit c storageKey recordIKM draws) st = .ok st') :
    st'.newRecords.map (·.storageRecord) =
      st.newRecords.map (·.storageRecord) ++ edits.map (·.record) := by
  induction edits generalizing st with
  | nil =>
    cases h
    simp
  | cons edit rest ih =>
    rw [foldlM_cons] at h
    cases hedit : buildEdit c storageKey recordIKM draws st edit with
    | error err =>
      rw [hedit] at h
      cases h
    | ok next =>
      rw [hedit] at h
      have hnext : next.newRecords.map (·.storageRecord) =
          st.newRecords.map (·.storageRecord) ++ [edit.record] := by
        obtain ⟨oldRaw, type, swapped, value, -, -, -, rfl⟩ := buildEdit_eq_ok hedit
        simp
      rw [ih h, hnext]
      simp

theorem newRecords_buildStorageWrite {ρ : Type} {c : Crypto ρ} {storageKey : Bytes} {manifest : ManifestRecord}
    {sourceDevice : UInt32} {edits : List (StorageEdit ρ)} {draws : Nat → Draw} {manifestNonce : Bytes}
    {built : BuiltStorageWrite ρ}
    (h : buildStorageWrite c storageKey manifest sourceDevice edits draws manifestNonce = .ok built) :
    built.newRecords.map (·.storageRecord) = edits.map (·.record) := by
  unfold buildStorageWrite at h
  split at h
  · cases h
  split at h
  · cases h
  rename_i st hfold
  simp only at h
  split at h
  · cases h
  · cases h
    exact newRecords_of_build hfold

def recorded (env : Env) (cache : SettingsCache) (records : List StorageRecord) : SettingsCache :=
  (processRecords env (fun _ => true) cache false records).1

theorem processRecords_seen {db : StorageRecord → Bool} (cache : SettingsCache) (seen : Bool)
    (records : List StorageRecord) :
    (processRecords env db cache seen records).1 = (processRecords env db cache false records).1 := by
  induction records generalizing cache seen with
  | nil => rfl
  | cons record rest ih =>
    simp only [processRecords]
    split
    · rfl
    · rw [ih, ih _ (false || _)]

theorem recorded_cons {cache' : SettingsCache} {seen : Bool}
    (h : processRecord env (fun _ => true) cache record = (cache', some seen)) (rest : List StorageRecord) :
    recorded env cache (record :: rest) = recorded env cache' rest := by
  simp only [recorded, processRecords, h]
  exact processRecords_seen cache' _ rest

theorem updateChatSettings_some {built : BuiltStorageWrite StorageRecord} :
    updateChatSettings env (fun _ => true) cache (some built) =
      recorded env cache (built.newRecords.map (·.storageRecord)) := by
  simp only [updateChatSettings, processStorageInTxn, recorded]
  split <;> simp_all

section Arrival

variable {edits : List (StorageEdit StorageRecord)}

-- The cache has the values already, or the record differs from them and is kept under the ID of the chat's
-- portal. The same for the pinned list.
structure Arrives (env : Env) (cache : SettingsCache) (snapshot : StorageSnapshot StorageRecord) (chat : ChatRef)
    (change : ChatSettingsChange) : Prop where
  fields : change.FieldsIn (cache.settings chat.portalID) ∨
    ∃ record settings, findChatRecord env snapshot chat = some record ∧
      record.storageRecord.chatSettings env = some (chat.portalID, settings) ∧ ¬ change.FieldsIn settings
  pin : change.PinIn (cache.settings chat.portalID).pinned ∨
    ∃ record account, findAccountRecord snapshot = some record ∧ record.storageRecord = .account account ∧
      ¬ change.PinIn (decide (chat.portalID ∈ pinnedChatIDs env account))

theorem recorded_chatEdits (h : chatEdits env snapshot chat change = .ok edits) (rest : List StorageRecord) :
    ∃ cache', recorded env cache (edits.map (·.record) ++ rest) = recorded env cache' rest ∧
      (cache'.settings chat.portalID).pinned = (cache.settings chat.portalID).pinned ∧
      (change.FieldsIn (cache'.settings chat.portalID) ↔ change.FieldsIn (cache.settings chat.portalID) ∨
        ∃ record settings, findChatRecord env snapshot chat = some record ∧
          record.storageRecord.chatSettings env = some (chat.portalID, settings) ∧
          ¬ change.FieldsIn settings) := by
  rcases chatEdits_ok h with ⟨rfl, hsame⟩ | ⟨record, id, settings, updated, hrec, hchat, hdiffers, hedits, hnow⟩
  · refine ⟨cache, rfl, rfl, ⟨.inl, ?_⟩⟩
    rintro (hin | ⟨record, settings, hrec, hchat, hdiffers⟩)
    · exact hin
    · exact absurd (hsame record _ settings hrec hchat) hdiffers
  · rw [hedits]
    refine ⟨_, recorded_cons (processRecord_of_chat hnow cache) rest, ?_, ?_⟩
    · rw [settings_recordChatSettings]
      split <;> rfl
    · rw [settings_recordChatSettings]
      by_cases hid : chat.portalID = id
      · subst hid
        rw [if_pos rfl]
        exact iff_of_true (fieldsIn_fields change settings) (.inr ⟨record, settings, hrec, hchat, hdiffers⟩)
      · rw [if_neg hid]
        refine ⟨.inl, ?_⟩
        rintro (hin | ⟨record', settings', hrec', hchat', -⟩)
        · exact hin
        · obtain rfl := Option.some.inj (hrec.symm.trans hrec')
          exact absurd (Prod.mk.inj (Option.some.inj (hchat'.symm.trans hchat))).1 hid

theorem recorded_pinEdits (hparse : ∀ uuid, env.parseUUID (text uuid) = (uuid, true))
    (hchat : chat.Valid env) (h : pinEdits env snapshot chat change = .ok edits) :
    (change.FieldsIn ((recorded env cache (edits.map (·.record))).settings chat.portalID) ↔
      change.FieldsIn (cache.settings chat.portalID)) ∧
    (change.PinIn ((recorded env cache (edits.map (·.record))).settings chat.portalID).pinned ↔
      change.PinIn (cache.settings chat.portalID).pinned ∨
        ∃ record account, findAccountRecord snapshot = some record ∧ record.storageRecord = .account account ∧
          ¬ change.PinIn (decide (chat.portalID ∈ pinnedChatIDs env account))) := by
  rcases pinEdits_ok hparse hchat h with
    ⟨rfl, hsame⟩ | ⟨record, account, account', hrec, hacct, hdiffers, hedits, hnow⟩
  · refine ⟨Iff.rfl, ⟨.inl, ?_⟩⟩
    rintro (hin | ⟨record, account, hrec, hacct, hdiffers⟩)
    · exact hin
    · exact absurd (hsame record account hrec hacct) hdiffers
  · have hprocess : processRecord env (fun _ => true) cache (.account account') =
        (cache.recordPinnedChats (pinnedChatIDs env account'), some true) := rfl
    have hrecd : recorded env cache (edits.map (·.record)) =
        cache.recordPinnedChats (pinnedChatIDs env account') := by
      rw [hedits]
      exact recorded_cons hprocess []
    rw [hrecd, settings_recordPinnedChats]
    exact ⟨Iff.rfl, iff_of_true hnow (.inr ⟨record, account, hrec, hacct, hdiffers⟩)⟩

theorem arrives_iff (hparse : ∀ uuid, env.parseUUID (text uuid) = (uuid, true)) (hchat : chat.Valid env)
    (h : applyChatSettingsChange env snapshot chat change = .ok edits) (cache : SettingsCache) :
    (change.FieldsIn ((recorded env cache (edits.map (·.record))).settings chat.portalID) ∧
      change.PinIn ((recorded env cache (edits.map (·.record))).settings chat.portalID).pinned) ↔
    Arrives env cache snapshot chat change := by
  unfold applyChatSettingsChange at h
  split at h
  · cases h
  rename_i chatEdits hchatEdits
  obtain ⟨pins, hpins, rfl⟩ := map_eq_ok_iff.mp h
  rw [map_append]
  obtain ⟨cache', hrecd, hpinned, hfields⟩ := recorded_chatEdits hchatEdits (pins.map (·.record))
  obtain ⟨hkept, hpin⟩ := recorded_pinEdits hparse hchat hpins
  rw [hrecd, hkept, hfields, hpin, hpinned]
  exact ⟨fun hboth => ⟨hboth.1, hboth.2⟩, fun harrives => ⟨harrives.fields, harrives.pin⟩⟩

theorem chatForUpdate_spec {masterKeyOf : String → Option Bytes}
    (hkeys : ∀ groupID masterKey, masterKeyOf groupID = some masterKey →
      groupIDFromMasterKeyBytes env masterKey = some groupID) (hchat : chat.Valid env) {chat' : ChatRef}
    (h : chatForUpdate masterKeyOf chat change = some chat') (snapshot : StorageSnapshot StorageRecord) :
    chat'.Valid env ∧ chat'.portalID = chat.portalID ∧
      findChatRecord env snapshot chat' = findChatRecord env snapshot chat := by
  unfold chatForUpdate at h
  split at h
  · rename_i hpins
    obtain ⟨masterKey, hkey, rfl⟩ := Option.map_eq_some_iff.mp h
    refine ⟨⟨hchat.user, fun _ masterKey' hkey' => ?_⟩, rfl, rfl⟩
    cases hkey'
    exact hkeys _ _ hkey
  · cases h
    exact ⟨hchat, rfl, rfl⟩

end Arrival

-- What a call has read when it comes to its end: the items fetched in this attempt, and with an accepted write
-- the contents of the service.
def ReadBy {ι ρ : Type} (c : Crypto ρ) (storageKey : Bytes) (w : World ι ρ) (i : ι)
    (snapshot : StorageSnapshot ρ) : Prop :=
  match (w.devices i).phase with
  | .fetching _ _ manifest _ items =>
    snapshot = ⟨manifest, decryptStorageItems c storageKey manifest.recordIkm
      (wantedIDs manifest (w.devices i).call.wanted) items⟩
  | .writing _ _ _ =>
    decryptStorageManifest c storageKey w.server.manifest = .ok snapshot.manifest ∧
      SnapshotOf c storageKey (w.devices i).call.wanted w.server snapshot.manifest snapshot.records
  | _ => False

section Finish

variable {ι ρ : Type} [DecidableEq ι] {c : Crypto ρ} {storageKey : Bytes}

theorem decided_of_prepareWrite {device : Device ρ} {attempt : ℕ} {base : Server} {manifest : ManifestRecord}
    {items : List StorageItem} {draws : Nat → Draw} {manifestNonce : Bytes} {built : Option (BuiltStorageWrite ρ)}
    (hidle : (prepareWrite c storageKey device attempt base manifest items draws manifestNonce).phase = .idle)
    (h : (prepareWrite c storageKey device attempt base manifest items draws manifestNonce).result = .ok built) :
    built = none ∧ device.call.mutate ⟨manifest, decryptStorageItems c storageKey manifest.recordIkm
      (wantedIDs manifest device.call.wanted) items⟩ = .ok [] := by
  simp only [prepareWrite] at h hidle
  split at h
  · cases h
  rename_i edits hmut
  simp only [hmut] at hidle
  split at h
  · rename_i hedits
    refine ⟨(Except.ok.inj h).symm, hmut.trans ?_⟩
    rw [eq_nil_of_length_eq_zero hedits]
  · rename_i hedits
    rw [if_neg hedits] at hidle
    split at h
    · cases h
    · rename_i built' hbuild
      rw [hbuild] at hidle
      cases hidle

theorem written_of_run {w₀ w w' : World ι ρ} {events : List (Event ι)} {event : Event ι} {i : ι}
    {built : Option (BuiltStorageWrite ρ)} (hinit : ∀ j, (w₀.devices j).phase = .idle)
    (hrun : Run (Step c storageKey) w₀ events w) (hbusy : (w.devices i).phase ≠ .idle)
    (hstep : Step c storageKey w event w') (hidle : (w'.devices i).phase = .idle)
    (hres : (w'.devices i).result = .ok built) :
    ∃ snapshot edits, ReadBy c storageKey w i snapshot ∧ (w.devices i).call.mutate snapshot = .ok edits ∧
      (built.elim [] (·.newRecords)).map (·.storageRecord) = edits.map (·.record) ∧
      (built = none → edits = []) := by
  have hinv := hrun.invariant (I := WorldInv c storageKey) (fun _ _ _ => worldInv_step)
      fun j => by simp [PhaseInv, hinit j]
  cases finishes_of_step hstep hbusy hidle with
  | decides hphase hdev =>
    rw [hdev] at hidle hres
    obtain ⟨rfl, hmut⟩ := decided_of_prepareWrite hidle hres
    exact ⟨_, [], by simp [ReadBy, hphase], hmut, rfl, fun _ => rfl⟩
  | @writes attempt base server built' hphase hwrite hanswer =>
    have hi := hinv i
    unfold PhaseInv at hi
    rw [hphase] at hi
    obtain ⟨manifest, hbased, hver, hprepared⟩ := hi
    have heq := (hbased.eq_of_write hver hwrite).1
    obtain ⟨records, edits, draws, manifestNonce, hsnap, hmut, -, -, hbuild⟩ := hprepared heq
    have hread := hbased.readable
    rw [heq] at hsnap hread
    rcases hanswer with hok | ⟨text, herror⟩
    · obtain rfl := Except.ok.inj (hok.symm.trans hres)
      refine ⟨⟨manifest, records⟩, edits, ?_, hmut, newRecords_buildStorageWrite hbuild, by simp⟩
      simp only [ReadBy, hphase]
      exact ⟨hread, hsnap⟩
    · cases herror.symm.trans hres
  | fails herr herror => cases herror.symm.trans hres

end Finish

-- After UpdateChatSettings has succeeded, ChatSettings returns what was asked for if and only if the change
-- arrives in the cache.
theorem update_returned_iff {ι : Type} [DecidableEq ι] (env : Env)
    (hparse : ∀ uuid, env.parseUUID (text uuid) = (uuid, true)) (masterKeyOf : String → Option Bytes)
    (hkeys : ∀ groupID masterKey, masterKeyOf groupID = some masterKey →
      groupIDFromMasterKeyBytes env masterKey = some groupID)
    (c : Crypto StorageRecord) (storageKey : Bytes) {w₀ w w' : World ι StorageRecord} {events : List (Event ι)}
    {event : Event ι} {i : ι} {sourceDevice : UInt32} {chat chat' : ChatRef} {change : ChatSettingsChange}
    {built : Option (BuiltStorageWrite StorageRecord)} (hchat : chat.Valid env)
    (hfor : chatForUpdate masterKeyOf chat change = some chat')
    (hinit : ∀ j, (w₀.devices j).phase = .idle) (hrun : Run (Step c storageKey) w₀ events w)
    (hcall : (w.devices i).call = settingsCall env sourceDevice chat' change)
    (hbusy : (w.devices i).phase ≠ .idle) (hstep : Step c storageKey w event w')
    (hidle : (w'.devices i).phase = .idle) (hres : (w'.devices i).result = .ok built) :
    ∃ snapshot, ReadBy c storageKey w i snapshot ∧ ∀ cache : SettingsCache,
      (change.FieldsIn ((updateChatSettings env (fun _ => true) cache built).lookup chat.portalID).1 ∧
        change.PinIn ((updateChatSettings env (fun _ => true) cache built).lookup chat.portalID).1.pinned) ↔
      Arrives env cache snapshot chat change := by
  obtain ⟨snapshot, edits, hread, hmut, hrecs, hnone⟩ :=
    written_of_run hinit hrun hbusy hstep hidle hres
  rw [hcall] at hmut
  obtain ⟨hchat', hport, hfind⟩ := chatForUpdate_spec hkeys hchat hfor snapshot
  refine ⟨snapshot, hread, fun cache => ?_⟩
  have hupd : updateChatSettings env (fun _ => true) cache built =
      recorded env cache (edits.map (·.record)) := by
    cases built with
    | none =>
      rw [hnone rfl]
      rfl
    | some built => exact updateChatSettings_some.trans (congrArg (recorded env cache) hrecs)
  have hiff := arrives_iff hparse hchat' hmut cache
  rw [hport] at hiff
  rw [hupd]
  refine hiff.trans ⟨fun h => ⟨?_, ?_⟩, fun h => ⟨?_, ?_⟩⟩
  · exact hport ▸ hfind ▸ h.fields
  · exact hport ▸ h.pin
  · exact hport.symm ▸ hfind.symm ▸ h.fields
  · exact hport.symm ▸ h.pin

theorem hexDigit_spec (b : UInt8) :
    hexDigit (b / 16) ≠ 45 ∧ hexDigit (b % 16) ≠ 45 ∧
      16 * hexValue (hexDigit (b / 16)) + hexValue (hexDigit (b % 16)) = b := by
  have hall : ∀ n < 256, hexDigit (UInt8.ofNat n / 16) ≠ 45 ∧ hexDigit (UInt8.ofNat n % 16) ≠ 45 ∧
      16 * hexValue (hexDigit (UInt8.ofNat n / 16)) + hexValue (hexDigit (UInt8.ofNat n % 16)) =
        UInt8.ofNat n := by
    decide +kernel
  have hb := hall b.toNat b.toNat_lt
  rwa [UInt8.ofNat_toNat] at hb

theorem filter_hexDigits (bytes : Bytes) : (hexDigits bytes).filter (· ≠ 45) = hexDigits bytes := by
  refine filter_eq_self.mpr fun digit hmem => ?_
  obtain ⟨b, -, hdigit⟩ := mem_flatMap.mp hmem
  obtain ⟨hhigh, hlow, -⟩ := hexDigit_spec b
  simp only [mem_cons, not_mem_nil, or_false] at hdigit
  rcases hdigit with rfl | rfl <;> simpa

theorem hexBytes_hexDigits (bytes : Bytes) : hexBytes (hexDigits bytes) = bytes := by
  induction bytes with
  | nil => rfl
  | cons b rest ih =>
    have hcons : hexDigits (b :: rest) = hexDigit (b / 16) :: hexDigit (b % 16) :: hexDigits rest := rfl
    rw [hcons, hexBytes, ih, (hexDigit_spec b).2.2]

theorem filter_text (uuid : UUID) : (text uuid).filter (· ≠ 45) = hexDigits uuid.bytes := by
  have hcut : uuid.bytes = uuid.bytes.take 4 ++ (uuid.bytes.drop 4).take 2 ++ (uuid.bytes.drop 6).take 2 ++
      (uuid.bytes.drop 8).take 2 ++ uuid.bytes.drop 10 := by
    obtain ⟨bytes, hlen⟩ := uuid
    simp only [append_assoc]
    have hdrop (n : ℕ) : (bytes.drop n).take 2 ++ bytes.drop (n + 2) = bytes.drop n := by
      rw [← drop_drop, take_append_drop]
    rw [hdrop 8, hdrop 6, hdrop 4, take_append_drop]
  have hdash (bytes rest : Bytes) : (hexDigits bytes ++ 45 :: rest).filter (· ≠ 45) =
      hexDigits bytes ++ rest.filter (· ≠ 45) := by
    rw [filter_append, filter_hexDigits]
    rfl
  have happend (l l' : Bytes) : hexDigits (l ++ l') = hexDigits l ++ hexDigits l' := flatMap_append
  conv_rhs => rw [hcut]
  simp only [text, append_assoc, cons_append, hdash, filter_hexDigits, happend]

theorem parseHexUUID_text (uuid : UUID) : parseHexUUID (text uuid) = (uuid, true) := by
  have hbytes : hexBytes ((text uuid).filter (· ≠ 45)) = uuid.bytes := by
    rw [filter_text, hexBytes_hexDigits]
  simp only [parseHexUUID, hbytes, uuid.length_eq, dite_true]

theorem valid_of_serviceID {serviceID : ServiceID}
    (h : hasName serviceID.type = true ∧ ServiceID.isEmpty serviceID = false) :
    ChatRef.Valid chatEnv { serviceID := serviceID } :=
  ⟨fun _ => h, fun hgroup => absurd rfl hgroup⟩

theorem archived_run (hchat : chat = contactChat ∨ chat = numberChat) :
    ∃ w₀ w w', ∃ events event,
      (∀ j, (w₀.devices j).phase = .idle) ∧ Run (Step chatCrypto sampleKey) w₀ events w ∧
      (w.devices true).call = settingsCall chatEnv 2 chat { archived := some true } ∧
      (w.devices true).phase ≠ .idle ∧ Step chatCrypto sampleKey w event w' ∧
      (w'.devices true).phase = .idle ∧ (w'.devices true).result = .ok (some archiveWrite) := by
  obtain ⟨events, hrun⟩ := archive_run (w := chatWorld) (i := true) (P := fun _ => True) trivial hchat rfl rfl
  refine ⟨chatWorld, _, _, events, _, fun _ => rfl, hrun.mono fun _ _ _ h => h.2, rfl, ?_, sample_accepts chat_write, rfl,
    rfl⟩
  exact nofun

theorem update_returned_iff_archive :
    ∃ w w' : World Bool StorageRecord, ∃ event, Step chatCrypto sampleKey w event w' ∧
      (w'.devices true).result = .ok (some archiveWrite) ∧
      ∃ snapshot, ReadBy chatCrypto sampleKey w true snapshot ∧ ∀ cache : SettingsCache,
        (FieldsIn { archived := some true }
            ((updateChatSettings chatEnv (fun _ => true) cache (some archiveWrite)).lookup
              contactChat.portalID).1 ∧
          PinIn { archived := some true }
            ((updateChatSettings chatEnv (fun _ => true) cache (some archiveWrite)).lookup
              contactChat.portalID).1.pinned) ↔
        Arrives chatEnv cache snapshot contactChat { archived := some true } := by
  obtain ⟨w₀, w, w', events, event, hinit, hrun, hcall, hbusy, hstep, hidle, hres⟩ :=
    archived_run (.inl rfl)
  have hvalid : contactChat.Valid chatEnv := valid_of_serviceID (by decide)
  exact ⟨w, w', event, hstep, hres, update_returned_iff chatEnv parseHexUUID_text (fun _ => none)
    (fun _ _ h => nomatch h) chatCrypto sampleKey hvalid rfl hinit hrun hcall hbusy hstep hidle hres⟩

-- The contact has an ACI as well, so the record found by its PNI is kept under the ACI.
theorem number_chat_update_not_returned :
    numberChat.Valid chatEnv ∧ ∃ w₀ w w' : World Bool StorageRecord, ∃ events event,
      (∀ j, (w₀.devices j).phase = .idle) ∧ Run (Step chatCrypto sampleKey) w₀ events w ∧
      (w.devices true).call = settingsCall chatEnv 2 numberChat { archived := some true } ∧
      (w.devices true).phase ≠ .idle ∧ Step chatCrypto sampleKey w event w' ∧
      (w'.devices true).phase = .idle ∧ (w'.devices true).result = .ok (some archiveWrite) ∧
      ((updateChatSettings chatEnv (fun _ => true) {} (some archiveWrite)).lookup
        numberChat.portalID).1.archived = false := by
  obtain ⟨w₀, w, w', events, event, hinit, hrun, hcall, hbusy, hstep, hidle, hres⟩ :=
    archived_run (.inr rfl)
  refine ⟨valid_of_serviceID (by decide), w₀, w, w', events, event, hinit, hrun, hcall, hbusy, hstep, hidle,
    hres, ?_⟩
  decide +kernel

end MautrixSignal.Storage
