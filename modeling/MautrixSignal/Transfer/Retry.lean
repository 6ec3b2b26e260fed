import MautrixSignal.Transfer

namespace MautrixSignal.Transfer

open Lib Container

section Device

variable {ρ : Type} (env : Env ρ)

abbrev KeepsDevice {ρ α : Type} (m : Transferring ρ α) : Prop := KeepsView State.device m

theorem keeps_failIf (fails : Bool) (error : TransferError) : KeepsDevice (failIf fails error : Transferring ρ PUnit) :=
  .ite (.throw _) (.pure _)

theorem keeps_raise (error : Option TransferError) : KeepsDevice (raise error : Transferring ρ PUnit) := by
  cases error with
  | none => exact .pure _
  | some error => exact .throw _

theorem keeps_require {α : Type} (value : Option α) (error : TransferError) :
    KeepsDevice (require value error : Transferring ρ α) := by
  cases value with
  | none => exact .throw _
  | some a => exact .pure _

theorem keeps_modifyBackup (f : Backup → Backup) : KeepsDevice (modifyBackup f : Transferring ρ PUnit) :=
  .modify fun _ => rfl

theorem keeps_insertBackup (fails : Bool) (error : TransferError) (insert : Backup → Option Backup) :
    KeepsDevice (insertBackup fails error insert : Transferring ρ PUnit) :=
  .bind (keeps_failIf _ _) fun _ => .bind .get fun _ => .bind (keeps_require _ _) fun _ => keeps_modifyBackup _

theorem keeps_loadAndUpdateRecipient (faults : Recipients.Faults) (aci pni : UUID)
    (updater : Recipients.Updater) (error : TransferError) :
    KeepsDevice (loadAndUpdateRecipient env faults aci pni updater error) :=
  .bind .get fun _ => .bind (.modify fun _ => rfl) fun _ => keeps_failIf _ _

theorem keeps_saveDestination (faults : FrameFaults) (id : UInt64) (destination : Option Destination) :
    KeepsDevice (saveDestination env faults id destination) := by
  match destination with
  | some (.contact contact) =>
    refine .bind ?_ fun _ => .bind ?_ fun _ => .pure _
    · exact .ite (keeps_loadAndUpdateRecipient env _ _ _ _ _) (.pure _)
    · exact .ite (.ite (.pure _) (.modify fun _ => rfl)) (.pure _)
  | some (.group masterKey) =>
    refine .bind (.ite ?_ (.pure _)) fun _ => .pure _
    cases env.groupIdentifier masterKey with
    | none => exact .pure _
    | some groupID => exact .bind (keeps_failIf _ _) fun _ => .modify fun _ => rfl
  | some .self => exact .pure _
  | some .other => exact .pure _
  | none => exact .pure _

theorem keeps_processFrame (faults : FrameFaults) (frame : Frame) : KeepsDevice (processFrame env faults frame) := by
  cases frame with
  | recipient recipient =>
    refine .ite (.pure _) (.bind (keeps_require _ _) fun _ => ?_)
    exact .bind (keeps_saveDestination env _ _ _) fun _ => keeps_insertBackup _ _ _
  | chat chat => exact .bind (keeps_require _ _) fun _ => keeps_insertBackup _ _ _
  | chatItem item =>
    obtain ⟨chatID, authorID, dateSent, kind⟩ := item
    cases kind with
    | supported => exact .bind (keeps_require _ _) fun _ => keeps_insertBackup _ _ _
    | directStoryReplyMessage | updateMessage | missing => exact .pure _
  | other => exact .pure _

theorem keeps_processInfo (buf : Bytes) : KeepsDevice (processInfo env buf) := by
  refine .bind (keeps_require _ _) fun _ => .bind (keeps_failIf _ _) fun _ => .bind .get fun _ => ?_
  exact .bind (keeps_require _ _) fun _ => keeps_failIf _ _

theorem keeps_processChunk (index : Nat) (buf : Bytes) : KeepsDevice (processChunk env index buf) := by
  refine .bind (keeps_failIf _ _) fun _ => .ite (keeps_processInfo env buf) ?_
  exact .bind (keeps_require _ _) fun _ => keeps_processFrame env _ _

theorem keeps_processChunks (index : Nat) (chunks : List Bytes) : KeepsDevice (processChunks env index chunks) := by
  induction chunks generalizing index with
  | nil => exact .pure _
  | cons buf rest ih => exact .bind (keeps_processChunk env index buf) fun _ => ih (index + 1)

theorem keeps_fillBackup (aesKey hmacKey file : Bytes) : KeepsDevice (fillBackup env aesKey hmacKey file) := by
  refine .bind ?_ fun _ => .bind ?_ fun _ => ?_
  · refine .bind (keeps_failIf _ _) fun _ => .bind (keeps_modifyBackup _) fun _ => ?_
    refine .bind (keeps_failIf _ _) fun _ => .bind (keeps_modifyBackup _) fun _ => ?_
    exact .bind (keeps_failIf _ _) fun _ => keeps_modifyBackup _
  · refine .bind (keeps_require _ _) fun _ => .bind (keeps_processChunks env _ _) fun _ => ?_
    refine .bind (keeps_raise _) fun _ => .bind (keeps_failIf _ _) fun _ => .bind (keeps_failIf _ _) fun _ => ?_
    exact .bind (keeps_failIf _ _) fun _ => keeps_failIf _ _
  · exact .bind (keeps_failIf _ _) fun _ => keeps_modifyBackup _

end Device

section Retry

variable {ρ : Type} (env : Env ρ) (metadata : TransferArchiveMetadata) (s : State ρ)
  {aesKey hmacKey file : Bytes}

def Fills : Prop :=
  ∃ aesKey hmacKey file filled, openTransfer env metadata s.device = .ok (aesKey, hmacKey, file) ∧
    env.beginTxnFails = false ∧ Returns (fillBackup env aesKey hmacKey file) s () filled

variable {env metadata s}

theorem ephemeralBackupKey_of_openTransfer {keys : Bytes × Bytes × Bytes}
    (h : openTransfer env metadata s.device = .ok keys) : s.device.ephemeralBackupKey ≠ none := by
  intro hnone
  have hderive : deriveTransferKeys env s.device = .error .noEphemeralBackupKey := by
    unfold deriveTransferKeys
    rw [hnone]
  unfold openTransfer at h
  rw [hderive] at h
  by_cases hmeta : metadata.error ≠ ""
  · rw [if_pos hmeta] at h
    cases h
  · rw [if_neg hmeta] at h
    cases h

theorem fetch_of_openTransfer (h : openTransfer env metadata s.device = .ok (aesKey, hmacKey, file)) :
    fetchAndProcessTransfer env metadata s =
      transact rollback (if env.beginTxnFails then some .beginTxn else none)
        (if env.commitFails then some .commit else none) (processInTxn env aesKey hmacKey file) s := by
  simp [fetchAndProcessTransfer, bind, EStateM.bind, get_run, h]

theorem fetch_of_openTransfer_error {error : TransferError} (h : openTransfer env metadata s.device = .error error) :
    fetchAndProcessTransfer env metadata s = .error error s := by
  simp only [fetchAndProcessTransfer, bind, EStateM.bind, get_run, h]
  rfl

theorem putDevice_run (env : Env ρ) (s : State ρ) :
    (∃ t, Returns (putDevice env) s () t ∧ CanPut env.container s.device) ∨
      (∃ error, putDevice env s = .error (.saveDevice error) s ∧ ¬CanPut env.container s.device) := by
  have hput := putDevice_isOk_iff env.container s.tables.devices s.device
  unfold Returns
  simp only [putDevice, bind, EStateM.bind, get_run]
  cases hres : Container.putDevice env.container s.tables.devices s.device with
  | error error =>
    rw [hres] at hput
    exact .inr ⟨error, rfl, fun hcan => by cases hput.mpr hcan⟩
  | ok devices =>
    rw [hres] at hput
    exact .inl ⟨_, rfl, hput.mp rfl⟩

theorem dropped_of_putDevice {device : DeviceData ρ} {filled t : State ρ}
    (h : Returns (putDevice env) { filled with device := dropKey device } () t) :
    t.device.ephemeralBackupKey = none := by
  have hkeeps : KeepsDevice (putDevice env) := by
    refine .bind .get fun u => ?_
    cases Container.putDevice env.container u.tables.devices u.device with
    | error error => exact .throw _
    | ok devices => exact .modify fun _ => rfl
  exact congrArg DeviceData.ephemeralBackupKey (hkeeps.of_returns h)

theorem canPut_dropKey {device : DeviceData ρ} : CanPut env.container (dropKey device) ↔ CanPut env.container device :=
  ⟨fun h => { h with }, fun h => { h with }⟩

theorem processInTxn_of_fill {filled : State ρ} (h : Returns (fillBackup env aesKey hmacKey file) s () filled) :
    processInTxn env aesKey hmacKey file s = putDevice env { filled with device := dropKey filled.device } := by
  unfold Returns at h
  simp only [processInTxn, bind, EStateM.bind, h]
  rfl

theorem processInTxn_of_fill_error {error : TransferError} {t : State ρ}
    (h : fillBackup env aesKey hmacKey file s = .error error t) :
    processInTxn env aesKey hmacKey file s = .error error t := by
  simp [processInTxn, bind, EStateM.bind, h]

-- On an error the key in memory and the tables are as before, unless the device cannot be saved at the end.
theorem retryable_iff (env : Env ρ) (metadata : TransferArchiveMetadata) (s : State ρ) :
    (∀ error t, error ≠ .panicked → fetchAndProcessTransfer env metadata s = .error error t →
      t.device.ephemeralBackupKey = s.device.ephemeralBackupKey ∧ t.tables = s.tables) ↔
    (Fills env metadata s → CanPut env.container s.device ∧ env.commitFails = false) := by
  constructor
  · rintro hretry ⟨aesKey, hmacKey, file, filled, hopen, hbegin, hfill⟩
    have hkey := ephemeralBackupKey_of_openTransfer hopen
    have hbeginError : (if env.beginTxnFails then some TransferError.beginTxn else none) = none := by
      rw [hbegin]
      rfl
    have hdev := (keeps_fillBackup env aesKey hmacKey file).of_returns hfill
    have hbody := processInTxn_of_fill hfill
    have hfetch := fetch_of_openTransfer hopen
    obtain ⟨t, hput, hcan⟩ | ⟨error, hput, -⟩ :=
      putDevice_run env { filled with device := dropKey filled.device }
    · refine ⟨hdev ▸ canPut_dropKey.mp hcan, ?_⟩
      by_contra hcom
      rw [transact_of_commit hbeginError (hbody.trans hput) (if_pos (by simpa using hcom))] at hfetch
      have hnone := (hretry .commit _ nofun hfetch).1
      have hdropped := dropped_of_putDevice hput
      exact hkey (hnone.symm.trans hdropped)
    · rw [transact_of_body hbeginError (hbody.trans hput)] at hfetch
      exact absurd (hretry (.saveDevice error) _ nofun hfetch).1.symm hkey
  · intro hsaves error t _ herr
    cases hopen : openTransfer env metadata s.device with
    | error openError =>
      rw [fetch_of_openTransfer_error hopen] at herr
      cases herr
      exact ⟨rfl, rfl⟩
    | ok keys =>
      obtain ⟨aesKey, hmacKey, file⟩ := keys
      rw [fetch_of_openTransfer hopen] at herr
      obtain rfl | ⟨hbegin, rfl, hfail⟩ := transact_error herr
      · exact ⟨rfl, rfl⟩
      refine ⟨?_, rfl⟩
      have hbeginFails : env.beginTxnFails = false := by
        by_contra hfails
        rw [if_pos (by simpa using hfails)] at hbegin
        cases hbegin
      cases hfill : fillBackup env aesKey hmacKey file s with
      | error fillError u =>
        have hdev := (keeps_fillBackup env aesKey hmacKey file).of_error hfill
        have hfinal : finalState (processInTxn env aesKey hmacKey file) s = u := by
          rw [finalState, processInTxn_of_fill_error hfill]
        rw [hfinal]
        exact congrArg DeviceData.ephemeralBackupKey hdev
      | ok _ filled =>
        -- Nothing is left that could fail.
        obtain ⟨hcan, hcom⟩ := hsaves ⟨aesKey, hmacKey, file, filled, hopen, hbeginFails, hfill⟩
        have hdev := (keeps_fillBackup env aesKey hmacKey file).of_returns hfill
        have hbody := processInTxn_of_fill hfill
        obtain ⟨w, hput, -⟩ | ⟨putError, -, hcannot⟩ :=
          putDevice_run env { filled with device := dropKey filled.device }
        · obtain hfaults | hcerr := hfail
          · exact absurd hfaults (not_faults_of_returns (hbody.trans hput))
          · rw [hcom] at hcerr
            cases hcerr
        · exact absurd (canPut_dropKey.mpr (hdev ▸ hcan)) hcannot

-- An archive with its info and the account's own recipient, and a database that refuses the last statement.
def sampleKey : BackupKey := ⟨List.replicate 32 1, rfl⟩

def sampleEnv : Env Unit where
  accountID := UUID.ofByte 1
  deriveBackupID key _ := some key.bytes
  messageBackupKey _ backupID := some backupID
  getAESKey := some
  getHMACKey := some
  groupIdentifier _ := none
  download _ := some (List.replicate 32 9)
  hmac _ _ := List.replicate 32 9
  openArchive _ _ _ := some { decompressed := [1, 7, 1, 8], padding := [0, 0] }
  unmarshalInfo bytes := if bytes = [7] then some ⟨1, sampleKey.bytes⟩ else none
  unmarshalFrame bytes := if bytes = [8] then some (.recipient ⟨1, some .self⟩) else none
  marshalRecipient _ := some [8]
  marshalChat _ := some []
  marshalChatItem _ := some []
  trimSpace := id
  container := { serialize := some, marshal := fun _ => some [], insertFails := true }

def sampleState : State Unit where
  device := { aci := UUID.ofByte 1, ephemeralBackupKey := some sampleKey, mediaRootBackupKey := some sampleKey }
  tables := { contacts := Recipients.emptyTable }

-- The key is cleared in memory before PutDevice fails.
theorem key_lost_by_failed_save :
    ∃ t, fetchAndProcessTransfer sampleEnv {} sampleState = .error (.saveDevice .insert) t ∧
      sampleState.device.ephemeralBackupKey = some sampleKey ∧ t.device.ephemeralBackupKey = none := by
  have hcheck : (match fetchAndProcessTransfer sampleEnv {} sampleState with
      | .error error t => decide (error = .saveDevice .insert ∧ t.device.ephemeralBackupKey = none)
      | .ok _ _ => false) = true := by decide +kernel
  cases hrun : fetchAndProcessTransfer sampleEnv {} sampleState with
  | ok _ t =>
    rw [hrun] at hcheck
    cases hcheck
  | error error t =>
    rw [hrun] at hcheck
    obtain ⟨rfl, hnone⟩ := of_decide_eq_true hcheck
    exact ⟨t, rfl, rfl, hnone⟩

end Retry

end MautrixSignal.Transfer
