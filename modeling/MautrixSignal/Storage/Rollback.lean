import MautrixSignal.Container
import MautrixSignal.Lib.LastWrite
import MautrixSignal.Lib.Transaction
import MautrixSignal.Receive
import MautrixSignal.Recipients
import MautrixSignal.Storage.ChatSettings

namespace MautrixSignal.Storage.Rollback

open Lib Container Recipients List

structure Tables where
  contacts : Table
  masterKeys : String → Option String := fun _ => none
  devices : DeviceTable := fun _ => none

-- The client: its device, chat settings, pinned chats and block cache are memory, the tables are the database.
structure Client where
  device : DeviceData AccountRecord
  cache : SettingsCache := {}
  blockCache : UUID → Option Bool := fun _ => none
  tables : Tables

def restoreTables (saved after : Client) : Client := { after with tables := saved.tables }

inductive SyncError
  | beginTxn
  | updateContact (aci pni : UUID)   -- failed to update contact
  | storeMasterKey                   -- failed to store group master key
  | storeProfileKey                  -- failed to store own profile key
  | saveDevice (inner : PutDeviceError)
  | commit
deriving DecidableEq

structure RecordFaults where
  contact : Faults := {}
  masterKey : Bool := false
  profileKey : Faults := {}
  device : Bool := false

structure Env where
  base : Receive.Env
  trimSpace : String → String
  text : Bytes → String
  order : RowOrder := .stored
  container : Container.Env AccountRecord
  faults : Nat → RecordFaults := fun _ => {}
  beginTxnFails : Bool := false
  commitFails : Bool := false

section Model

variable (env : Env)

abbrev Syncing (α : Type) := Prog SyncError Client α

def fullName (given family : String) : String := env.trimSpace (given ++ " " ++ family)

def newNickname (record : ContactRecord) : String :=
  match record.nickname with
  | none => ""
  | some (given, family) => fullName env given family

def updatedRecipient (record : ContactRecord) (old : Recipient) : Recipient :=
  { old with
    profile := { old.profile with
      key := if h : record.profileKey.length = profileKeyLength then ⟨record.profileKey, h⟩
        else old.profile.key
      name := if old.profile.name = "" ∧ (record.givenName ≠ "" ∨ record.familyName ≠ "") then
          fullName env record.givenName record.familyName
        else old.profile.name }
    contactName := if record.systemGivenName ≠ "" ∨ record.systemFamilyName ≠ "" then
        fullName env record.systemGivenName record.systemFamilyName
      else old.contactName
    nickname := newNickname env record
    e164 := if record.e164 ≠ [] then env.text record.e164 else old.e164
    blocked := record.blocked
    whitelisted := if old.whitelisted ≠ some true then some record.whitelisted else old.whitelisted }

def contactUpdater (record : ContactRecord) : Updater where
  run old :=
    let new := updatedRecipient env record old
    (new, .ok (old.profile.key ≠ new.profile.key ||
      (old.profile.name = "" && (record.givenName ≠ "" || record.familyName ≠ "")) ||
      (record.systemGivenName ≠ "" || record.systemFamilyName ≠ "") || old.nickname ≠ new.nickname ||
      old.e164 ≠ new.e164 || old.blocked ≠ new.blocked || old.whitelisted ≠ some true))
  keeps_aci _ := rfl
  keeps_pni _ := rfl

def failIf (fails : Bool) (error : SyncError) : Syncing PUnit :=
  if fails then throw error else pure ()

-- LoadAndUpdateRecipient and StoreProfileKey join the open transaction.
def modifyContacts (call : Store → Store × Option StoreError)
    (error : SyncError) : Syncing PUnit := do
  let client ← get
  let result := call ⟨client.tables.contacts, client.blockCache⟩
  modify fun client =>
    { client with blockCache := result.1.blockCache, tables := { client.tables with contacts := result.1.table } }
  failIf result.2.isSome error

def storeMasterKey (fails : Bool) (groupID : String) (masterKey : Bytes) : Syncing PUnit := do
  failIf fails .storeMasterKey
  modify fun client => { client with tables := { client.tables with
    masterKeys := fun other => if other = groupID then some (Base64.encodeToString masterKey)
      else client.tables.masterKeys other } }

def storeOwnProfileKey (faults : Faults) (account : AccountRecord) : Syncing PUnit := do
  let client ← get
  if h : account.profileKey.length = profileKeyLength then
    modifyContacts (fun store => store.storeProfileKey faults client.device.aci ⟨account.profileKey, h⟩)
      .storeProfileKey
  else pure ()

def putDevice (fails : Bool) : Syncing PUnit := do
  let client ← get
  match Container.putDevice { env.container with insertFails := fails } client.tables.devices client.device with
  | .error error => throw (.saveDevice error)
  | .ok devices => modify fun client => { client with tables := { client.tables with devices := devices } }

def statements (faults : RecordFaults) : StorageRecord → Syncing PUnit
  | .contact record =>
    modifyContacts (fun store =>
      let out := loadAndUpdateRecipient env.order faults.contact true store (record.ids env.base).1
        (record.ids env.base).2 (contactUpdater env record)
      (out.store, out.err)) (.updateContact (record.ids env.base).1 (record.ids env.base).2)
  | .groupV2 group =>
    storeMasterKey faults.masterKey (env.base.groupIdentifier group.masterKey) group.masterKey
  | .account account => do
    storeOwnProfileKey faults.profileKey account
    putDevice env faults.device
  | .other _ => pure ()

-- cli.Store.AccountRecord belongs to the device, the settings and the pinned chats to the cache.
def written (write : MemoryWrite) (client : Client) : Client :=
  { client with
    cache := applyWrite client.cache write
    device := { client.device with
      accountRecord := match write with
        | .settings _ _ => client.device.accountRecord
        | .account account _ => some account } }

def processRecord (faults : RecordFaults) (record : StorageRecord) : Syncing PUnit :=
  match recordPlan env.base record with
  | .skip => pure ()
  | .fail => throw .storeMasterKey
  | .writeFirst write => do
    modify (written write)
    statements env faults record
  | .writeLast write => do
    statements env faults record
    modify (written write)

def processRecords : Nat → List StorageRecord → Syncing PUnit
  | _, [] => pure ()
  | index, record :: rest => do
    processRecord env (env.faults index) record
    processRecords (index + 1) rest

def syncStorage (records : List StorageRecord) : Syncing PUnit :=
  transact restoreTables (if env.beginTxnFails then some .beginTxn else none)
    (if env.commitFails then some .commit else none) (processRecords env 0 records)

end Model

section Memory

variable (env : Env)

abbrev Account := Option AccountRecord × (ChatID → Bool)

def settingsOf (client : Client) (chatID : ChatID) : Option ChatSettings := client.cache.chatSettings.lookup chatID

def accountOf (client : Client) (_ : Unit) : Account :=
  (client.device.accountRecord, fun chatID => decide (chatID ∈ client.cache.chatPinned))

structure SameMemory (before after : Client) : Prop where
  account : after.device.accountRecord = before.device.accountRecord
  settings : ∀ chatID, after.cache.chatSettings.lookup chatID = before.cache.chatSettings.lookup chatID
  pinned : ∀ chatID, chatID ∈ after.cache.chatPinned ↔ chatID ∈ before.cache.chatPinned

def settingsWrites (record : StorageRecord) : List (ChatID × Option ChatSettings) :=
  match (recordPlan env.base record).write? with
  | some (.settings chatID settings) => [(chatID, some settings)]
  | _ => []

def accountWrites (record : StorageRecord) : List (Unit × Account) :=
  match (recordPlan env.base record).write? with
  | some (.account account pinned) => [((), (some account, fun chatID => decide (chatID ∈ pinned)))]
  | _ => []

-- The record has been written to memory when its statements fail, unless it is a group.
def early (record : StorageRecord) : List StorageRecord :=
  match recordPlan env.base record with
  | .writeFirst _ => [record]
  | _ => []

structure Wrote (before after : Client) (records : List StorageRecord) : Prop where
  settings : settingsOf after = overwrite (settingsOf before) (records.flatMap (settingsWrites env))
  account : accountOf after = overwrite (accountOf before) (records.flatMap (accountWrites env))

variable {env}

theorem Wrote.nil (env : Env) (client : Client) : Wrote env client client [] := ⟨rfl, rfl⟩

theorem Wrote.trans {first second third : Client} {records records' : List StorageRecord}
    (h : Wrote env first second records) (h' : Wrote env second third records') :
    Wrote env first third (records ++ records') := by
  constructor
  · rw [flatMap_append, overwrite_append, ← h.settings]
    exact h'.settings
  · rw [flatMap_append, overwrite_append, ← h.account]
    exact h'.account

theorem Wrote.of_no_write {record : StorageRecord} (client : Client)
    (h : (recordPlan env.base record).write? = none) : Wrote env client client [record] := by
  constructor
  · simp [settingsWrites, h, overwrite]
  · simp [accountWrites, h, overwrite]

theorem sameMemory_iff {before after : Client} :
    SameMemory before after ↔ settingsOf after = settingsOf before ∧ accountOf after = accountOf before := by
  constructor
  · intro h
    refine ⟨funext h.settings, funext fun _ => ?_⟩
    rw [accountOf, accountOf, h.account]
    congr 1
    funext chatID
    exact decide_eq_decide.mpr (h.pinned chatID)
  · rintro ⟨hsets, hacct⟩
    have hpair := congrFun hacct ()
    refine ⟨congrArg Prod.fst hpair, congrFun hsets, fun chatID => ?_⟩
    exact decide_eq_decide.mp (congrFun (congrArg Prod.snd hpair) chatID)

theorem Wrote.sameMemory_iff {before after : Client} {records : List StorageRecord}
    (h : Wrote env before after records) :
    SameMemory before after ↔
      (∀ chatID settings, lastWrite (records.flatMap (settingsWrites env)) chatID = some settings →
        settingsOf before chatID = settings) ∧
      (∀ account, lastWrite (records.flatMap (accountWrites env)) () = some account →
        accountOf before () = account) := by
  rw [Rollback.sameMemory_iff, h.settings, h.account, overwrite_eq_self_iff, overwrite_eq_self_iff]
  exact and_congr_right fun _ => ⟨fun hall account => hall () account, fun hall _ account => hall account⟩

end Memory

section Steps

variable {env : Env}

-- The two places in memory that processStorageInTxn writes. No statement of the database touches them.
def memory (client : Client) : SettingsCache × Option AccountRecord := (client.cache, client.device.accountRecord)

theorem keeps_failIf (fails : Bool) (error : SyncError) : KeepsView memory (failIf fails error) :=
  .ite (.throw _) (.pure _)

theorem keeps_modifyContacts (call : Store → Store × Option StoreError)
    (error : SyncError) : KeepsView memory (modifyContacts call error) :=
  .bind .get fun _ => .bind (.modify fun _ => rfl) fun _ => keeps_failIf _ _

theorem keeps_storeMasterKey (fails : Bool) (groupID : String) (masterKey : Bytes) :
    KeepsView memory (storeMasterKey fails groupID masterKey) :=
  .bind (keeps_failIf _ _) fun _ => .modify fun _ => rfl

theorem keeps_storeOwnProfileKey (faults : Faults) (account : AccountRecord) :
    KeepsView memory (storeOwnProfileKey faults account) := by
  refine .bind .get fun client => ?_
  split
  · exact keeps_modifyContacts _ _
  · exact .pure _

theorem keeps_putDevice (fails : Bool) : KeepsView memory (putDevice env fails) := by
  refine .bind .get fun client => ?_
  cases Container.putDevice { env.container with insertFails := fails } client.tables.devices client.device with
  | error error => exact .throw _
  | ok devices => exact .modify fun _ => rfl

theorem Wrote.congr {before after after' : Client} {records : List StorageRecord} (h : Wrote env before after records)
    (hmemory : memory after' = memory after) : Wrote env before after' records := by
  have hcache : after'.cache = after.cache := congrArg Prod.fst hmemory
  have hrec : after'.device.accountRecord = after.device.accountRecord := congrArg Prod.snd hmemory
  constructor
  · rw [← h.settings]
    funext chatID
    rw [settingsOf, settingsOf, hcache]
  · rw [← h.account]
    funext _
    rw [accountOf, accountOf, hcache, hrec]

theorem keeps_statements (env : Env) (faults : RecordFaults) (record : StorageRecord) :
    KeepsView memory (statements env faults record) := by
  cases record with
  | contact record =>
    rw [statements]
    exact keeps_modifyContacts _ _
  | groupV2 group => exact keeps_storeMasterKey _ _ _
  | account account => exact .bind (keeps_storeOwnProfileKey _ _) fun _ => keeps_putDevice _
  | other raw => exact .pure _

theorem wrote_written {record : StorageRecord} {write : MemoryWrite} (client : Client)
    (hwrite : (recordPlan env.base record).write? = some write) : Wrote env client (written write client) [record] := by
  cases write with
  | account account pinned =>
    constructor
    · simp only [flatMap_cons, flatMap_nil, settingsWrites, hwrite, append_nil, overwrite]
      rfl
    · funext _
      simp only [flatMap_cons, flatMap_nil, accountWrites, hwrite, append_nil, overwrite,
        Function.update_self]
      rfl
  | settings chatID settings =>
    constructor
    · funext other
      simp only [flatMap_cons, flatMap_nil, settingsWrites, hwrite, append_nil, overwrite,
        Function.update_apply]
      exact client.cache.lookup_recordChatSettings chatID other settings
    · simp only [flatMap_cons, flatMap_nil, accountWrites, hwrite, append_nil, overwrite]
      rfl

theorem wrote_processRecord (faults : RecordFaults) (record : StorageRecord) (client : Client) :
    (∀ after, Returns (processRecord env faults record) client () after → Wrote env client after [record]) ∧
    (∀ error after, processRecord env faults record client = .error error after →
      Wrote env client after (early env record)) := by
  have hkeeps := keeps_statements env faults record
  unfold processRecord early
  cases hplan : recordPlan env.base record with
  | skip =>
    refine ⟨fun after h => ?_, fun error after h => absurd ⟨error, after, h⟩ faults_pure⟩
    obtain ⟨-, rfl⟩ := returns_pure.mp h
    exact .of_no_write client (by rw [hplan]; rfl)
  | fail =>
    refine ⟨fun after h => absurd h returns_throw, fun error after h => ?_⟩
    cases h
    exact .nil env client
  | writeFirst write =>
    have hwrote := (wrote_written client (by rw [hplan]; rfl)).congr (hkeeps.after_modify (written write) client)
    exact ⟨fun after h => finalState_of_returns h ▸ hwrote, fun error after h => finalState_of_error h ▸ hwrote⟩
  | writeLast write =>
    constructor
    · intro after h
      obtain ⟨_, stored, hstored, hrec⟩ := returns_bind.mp h
      obtain rfl := returns_modify.mp hrec
      have hsame := (Wrote.nil env client).congr (hkeeps.of_returns hstored)
      exact hsame.trans (wrote_written stored (by rw [hplan]; rfl))
    · intro error after h
      dsimp only at h
      cases hstored : statements env faults record client with
      | ok _ stored =>
        rw [bind_of_returns hstored] at h
        cases h
      | error error' stored =>
        rw [bind_of_error hstored] at h
        cases h
        exact (Wrote.nil env client).congr (hkeeps.of_error hstored)

theorem wrote_processRecords {index : Nat} {records : List StorageRecord} {client after : Client}
    (h : Returns (processRecords env index records) client () after) : Wrote env client after records := by
  induction records generalizing index client with
  | nil =>
    obtain ⟨-, rfl⟩ := returns_pure.mp h
    exact .nil env client
  | cons record rest ih =>
    obtain ⟨_, next, hrec, hrest⟩ := returns_bind.mp h
    exact ((wrote_processRecord (env.faults index) record client).1 next hrec).trans (ih hrest)

theorem processRecords_error_iff {index : Nat} {records : List StorageRecord} {client after : Client}
    {error : SyncError} :
    processRecords env index records client = .error error after ↔
      ∃ done failing rest reached, records = done ++ failing :: rest ∧
        Returns (processRecords env index done) client () reached ∧
        processRecord env (env.faults (index + done.length)) failing reached = .error error after := by
  induction records generalizing index client with
  | nil =>
    refine iff_of_false nofun ?_
    rintro ⟨done, failing, rest, reached, hrecs, -, -⟩
    cases done <;> cases hrecs
  | cons record records ih =>
    cases hrec : processRecord env (env.faults index) record client with
    | error error' stopped =>
      have hloop : processRecords env index (record :: records) client = .error error' stopped := by
        simp [processRecords, bind, EStateM.bind, hrec]
      rw [hloop]
      constructor
      · intro h
        cases h
        exact ⟨[], record, records, client, rfl, rfl, hrec⟩
      · rintro ⟨done, failing, rest, reached, hrecs, hdone, hfailing⟩
        cases done with
        | nil =>
          cases hrecs
          obtain ⟨-, rfl⟩ := returns_pure.mp hdone
          exact hrec.symm.trans hfailing
        | cons first done =>
          cases hrecs
          obtain ⟨_, next, hfirst, -⟩ := returns_bind.mp hdone
          cases hrec.symm.trans hfirst
    | ok _ next =>
      have hloop : processRecords env index (record :: records) client =
          processRecords env (index + 1) records next := by
        simp [processRecords, bind, EStateM.bind, hrec]
      rw [hloop, ih]
      constructor
      · rintro ⟨done, failing, rest, reached, hrecs, hdone, hfailing⟩
        refine ⟨record :: done, failing, rest, reached, by rw [hrecs]; rfl, Returns.bind hrec hdone, ?_⟩
        rwa [length_cons, ← Nat.add_assoc, Nat.add_right_comm]
      · rintro ⟨done, failing, rest, reached, hrecs, hdone, hfailing⟩
        cases done with
        | nil =>
          cases hrecs
          obtain ⟨-, rfl⟩ := returns_pure.mp hdone
          cases hrec.symm.trans hfailing
        | cons first done =>
          cases hrecs
          obtain ⟨_, next', hfirst, hdone⟩ := returns_bind.mp hdone
          cases hrec.symm.trans hfirst
          refine ⟨done, failing, rest, reached, rfl, hdone, ?_⟩
          rwa [length_cons, ← Nat.add_assoc, Nat.add_right_comm] at hfailing

end Steps

section Failures

variable (env : Env) (records : List StorageRecord) (client : Client)

-- The update fails after these records were written to memory: at a record, or at the commit.
inductive Written : List StorageRecord → Prop
  | record {done rest : List StorageRecord} {failing : StorageRecord} {reached : Client} :
      records = done ++ failing :: rest → Returns (processRecords env 0 done) client () reached →
      Faults (processRecord env (env.faults done.length) failing) reached → Written (done ++ early env failing)
  | commit {reached : Client} : Returns (processRecords env 0 records) client () reached →
      env.commitFails = true → Written records

-- The last of the records for each chat repeats the settings in memory, and the last account record and its
-- pinned chats are those in memory.
structure Repeats (written : List StorageRecord) : Prop where
  settings : ∀ chatID settings, lastWrite (written.flatMap (settingsWrites env)) chatID = some settings →
    settingsOf client chatID = settings
  account : ∀ account, lastWrite (written.flatMap (accountWrites env)) () = some account →
    accountOf client () = account

variable {env records client}

theorem Wrote.sameMemory_iff_repeats {after : Client} {written : List StorageRecord}
    (h : Wrote env client after written) : SameMemory client after ↔ Repeats env client written := by
  rw [h.sameMemory_iff]
  exact ⟨fun hboth => ⟨hboth.1, hboth.2⟩, fun hrepeats => ⟨hrepeats.settings, hrepeats.account⟩⟩

theorem written_of_error {error : SyncError} {after : Client}
    (h : syncStorage env records client = .error error after) :
    after = client ∨ (env.beginTxnFails = false ∧
      ∃ written, Written env records client written ∧ Wrote env client after written) := by
  obtain hsame | ⟨hbegin, rfl, hfail⟩ := transact_error h
  · exact .inl hsame
  right
  have hbeginFails : env.beginTxnFails = false := by
    by_contra hfails
    rw [if_pos (by simpa using hfails)] at hbegin
    cases hbegin
  refine ⟨hbeginFails, ?_⟩
  cases hrun : processRecords env 0 records client with
  | error error' stopped =>
    obtain ⟨done, failing, rest, reached, hrecs, hdone, hfailing⟩ := processRecords_error_iff.mp hrun
    rw [Nat.zero_add] at hfailing
    have hwrote := (wrote_processRecords hdone).trans ((wrote_processRecord _ failing reached).2 _ _ hfailing)
    rw [finalState_of_error hrun]
    exact ⟨_, .record hrecs hdone ⟨_, _, hfailing⟩, hwrote.congr rfl⟩
  | ok _ reached =>
    obtain hfaults | hcom := hfail
    · exact absurd hfaults (not_faults_of_returns hrun)
    · have hcommitFails : env.commitFails = true := by
        by_contra hfails
        rw [if_neg hfails] at hcom
        cases hcom
      rw [finalState_of_returns hrun]
      exact ⟨records, .commit hrun hcommitFails, (wrote_processRecords hrun).congr rfl⟩

theorem error_of_written {written : List StorageRecord} (hbegin : env.beginTxnFails = false)
    (h : Written env records client written) :
    ∃ error after, syncStorage env records client = .error error after ∧ Wrote env client after written := by
  have hbeginError : (if env.beginTxnFails then some SyncError.beginTxn else none) = none := by
    rw [hbegin]
    rfl
  cases h with
  | @record done rest failing reached hrecs hdone hfailing =>
    obtain ⟨error, after, hfailing⟩ := hfailing
    have hrun : processRecords env 0 records client = .error error after := by
      refine processRecords_error_iff.mpr ⟨done, failing, rest, reached, hrecs, hdone, ?_⟩
      rwa [Nat.zero_add]
    have hwrote := (wrote_processRecords hdone).trans ((wrote_processRecord _ failing reached).2 _ _ hfailing)
    exact ⟨error, _, transact_of_body hbeginError hrun, hwrote.congr rfl⟩
  | @commit reached hrun hcom =>
    exact ⟨.commit, _, transact_of_commit hbeginError hrun (if_pos hcom), (wrote_processRecords hrun).congr rfl⟩

-- A failed update leaves memory as it was if and only if what it wrote there until then says nothing new.
theorem memory_kept_iff (env : Env) (records : List StorageRecord) (client : Client) :
    (∀ error after, syncStorage env records client = .error error after → SameMemory client after) ↔
      (env.beginTxnFails = false → ∀ written, Written env records client written → Repeats env client written) := by
  constructor
  · intro hkept hbegin written hwritten
    obtain ⟨error, after, herr, hwrote⟩ := error_of_written hbegin hwritten
    exact hwrote.sameMemory_iff_repeats.mp (hkept error after herr)
  · intro hrepeats error after herr
    obtain rfl | ⟨hbegin, written, hwritten, hwrote⟩ := written_of_error herr
    · exact ⟨rfl, fun _ => rfl, fun _ => Iff.rfl⟩
    · exact hwrote.sameMemory_iff_repeats.mpr (hrepeats hbegin written hwritten)

def sampleContact : ContactRecord := { aciBinary := some (UUID.ofByte 5).bytes, archived := true }

def sampleChat : ChatID := .user (newACIServiceID (UUID.ofByte 5))

def sampleAccount : AccountRecord where
  pinnedConversations := [.contact { serviceIDBinary := (UUID.ofByte 5).bytes }]

def sampleEnv : Env where
  base := Receive.workingEnv {} {}
  trimSpace := id
  text _ := ""
  container := { serialize := some, marshal := fun _ => some [] }
  faults index := { device := index = 1 }

def sampleClient : Client where
  device := { aci := UUID.ofByte 1 }
  tables := { contacts := emptyTable }

-- The tables are rolled back, but memory was written record by record.
theorem memory_changed_by_failed_update :
    ∃ after, syncStorage sampleEnv [.contact sampleContact, .account sampleAccount] sampleClient =
        .error (.saveDevice .insert) after ∧
      after.tables.contacts = sampleClient.tables.contacts ∧
      sampleClient.device.accountRecord = none ∧ after.device.accountRecord = some sampleAccount ∧
      sampleClient.cache.chatSettings.lookup sampleChat = none ∧
      after.cache.chatSettings.lookup sampleChat = some { archived := true } ∧
      sampleChat ∉ sampleClient.cache.chatPinned ∧ sampleChat ∈ after.cache.chatPinned := by
  have hcheck : (match syncStorage sampleEnv [.contact sampleContact, .account sampleAccount] sampleClient with
      | .error error after => decide (error = .saveDevice .insert ∧
          after.tables.contacts = sampleClient.tables.contacts ∧ after.device.accountRecord = some sampleAccount ∧
          after.cache.chatSettings.lookup sampleChat = some { archived := true } ∧
          sampleChat ∈ after.cache.chatPinned)
      | .ok _ _ => false) = true := by decide +kernel
  cases hrun : syncStorage sampleEnv [.contact sampleContact, .account sampleAccount] sampleClient with
  | ok _ after =>
    rw [hrun] at hcheck
    cases hcheck
  | error error after =>
    rw [hrun] at hcheck
    obtain ⟨rfl, htables, hrec, hsets, hpin⟩ := of_decide_eq_true hcheck
    exact ⟨after, rfl, htables, rfl, hrec, rfl, hsets, nofun, hpin⟩

end Failures

end MautrixSignal.Storage.Rollback
