import MautrixSignal.Sending.MessageRequests

namespace MautrixSignal.MessageRequests

open Recipients
open Sending (Content Portal)

structure Flags where
  needsPNISignature : Bool
  whitelisted : Option Bool
deriving DecidableEq

def flagsOf (row : Row) : Flags := ⟨row.needsPNISignature, row.whitelisted⟩

def storedFlags (table : Table) (aci : UUID) : Option Flags := (table.byACI aci).map flagsOf

section Flags

variable {account : Account} {env : Env} {s : Store} {id : ServiceID} {content : Content}

instance (env : Env) (content : Content) : Decidable (Signed env content) :=
  inferInstanceAs (Decidable (_ ∨ _))

def flagsAfter (account : Account) (env : Env) (content : Content) (flags : Option Flags) : Option Flags :=
  if env.faults.Completes then
    match flags with
    | none => some ⟨false, if isProfileKeyUpdate content then some true else none⟩
    | some flags =>
      if flags.needsPNISignature = true ∧ account.pni ≠ .nil ∧ Signed env content then
        some ⟨false, if isProfileKeyUpdate content then some true else flags.whitelisted⟩
      else some flags
  else flags

theorem needsPNISignature_aci (htype : id.type = serviceIDTypeACI) (row : Row) :
    needsPNISignature account id (scanRecipient row) = true ↔
      row.needsPNISignature = true ∧ account.pni ≠ .nil := by
  simp [needsPNISignature, htype, scanRecipient]

theorem accept_flags (content : Content) (r : Recipient) :
    (accept content r).needsPNISignature = r.needsPNISignature ∧
      (accept content r).whitelisted = if isProfileKeyUpdate content then some true else r.whitelisted := by
  unfold accept
  split <;> exact ⟨rfl, rfl⟩

theorem storedFlags_load (htype : id.type = serviceIDTypeACI) (hnil : id.uuid ≠ .nil) :
    storedFlags (load account env s id content).store.table id.uuid =
      flagsAfter account env content (storedFlags s.table id.uuid) := by
  unfold storedFlags flagsAfter
  rw [load_of_aci account env s content htype, byACI_load _ _ _ _ hnil]
  by_cases hcomp : env.faults.Completes
  · rw [if_pos hcomp]
    cases hrow : s.table.byACI id.uuid with
    | none =>
      have hrun : (updater account env id content).run (recipientOf s.table id.uuid) =
          (accept content { aci := id.uuid, pni := .nil }, .ok false) := by
        rw [recipientOf, hrow]
        exact update_unneeded (by simp [needsPNISignature])
      have hwrites : Writes s.table id.uuid (updater account env id content) := by
        refine .inr ⟨?_, hrow⟩
        rw [hrun]
      have hflags := accept_flags content { aci := id.uuid, pni := .nil }
      rw [if_pos ⟨rfl, hcomp, hwrites⟩, hrun]
      simp [flagsOf, Table.aciColumns, hflags]
    | some row =>
      have hwrites := writes_of_row account env content hrow
      rw [needsPNISignature_aci htype, and_assoc] at hwrites
      have hflags := accept_flags content (scanRecipient row)
      by_cases hsigned : row.needsPNISignature = true ∧ account.pni ≠ .nil ∧ Signed env content
      · have hupd : (updater account env id content).run (scanRecipient row) =
            ({ accept content (scanRecipient row) with needsPNISignature := false }, .ok true) := by
          rcases update_cases account env id content (scanRecipient row) with h | ⟨-, h⟩
          · exact h
          · refine absurd (update_changed.mpr ⟨?_, hsigned.2.2⟩) h
            exact (needsPNISignature_aci htype row).mpr ⟨hsigned.1, hsigned.2.1⟩
        rw [if_pos ⟨rfl, hcomp, hwrites.mpr hsigned⟩, recipientOf_of_row hrow, hupd]
        simp only [Option.map_some, flagsOf, hflags, hsigned, ne_eq]
        rfl
      · rw [if_neg (fun h => hsigned (hwrites.mp h.2.2))]
        simp [flagsOf, hsigned]
  · rw [if_neg hcomp, if_neg (fun h => hcomp h.2.1)]

theorem storedFlags_sendMessage (hsup : supported content = true) (htype : id.type = serviceIDTypeACI)
    (hnil : id.uuid ≠ .nil) :
    storedFlags (sendMessage account env s id content).store.table id.uuid =
      flagsAfter account env content (storedFlags s.table id.uuid) := by
  rw [sendMessage_store hsup]
  exact storedFlags_load htype hnil

theorem storedFlags_sendMessage_other {other : UUID} (htype : id.type = serviceIDTypeACI) (hne : other ≠ id.uuid) :
    storedFlags (sendMessage account env s id content).store.table other = storedFlags s.table other := by
  by_cases hsup : supported content = true
  · rw [sendMessage_store hsup, load_of_aci account env s content htype]
    by_cases hnil : id.uuid = .nil
    · rw [loadAndUpdateRecipient, if_pos ⟨hnil, rfl⟩]
    · rw [storedFlags, byACI_load _ _ _ _ hnil, if_neg (fun h => hne h.1)]
      rfl
  · rw [sendMessage, if_neg hsup]

end Flags

structure HandlerEnv where
  sync : Env
  share : Env
  profileKeyForSignalID : Except String Unit
  sharesNumberWithEverybody : Bool
  signAlternateIdentity : Except String Unit
  timestamp : Nat

inductive HandlerError
  | invalidPortalID
  | failedToSync
  | failedToGetProfileKey
  | failedToGenerateSignature
  | failedToShareProfileKey

-- A sync message that does not get through is an unsuccessful result without an error, which is returned as no error.
def syncMessageRequestResponse (account : Account) (env : Env) (s : Store) (portal : Portal) :
    Store × Option HandlerError :=
  let send :=
    let res := sendMessage account env s account.aciServiceID { body := .sync .other }
    (res.store, if !res.wasSuccessful && res.failed then some .failedToSync else none)
  match portal with
  | .invalid => (s, some .invalidPortalID)
  | .group _ => send
  | .user id => if id.type = serviceIDTypeACI then send else (s, some .invalidPortalID)

def acceptContent (account : Account) (env : HandlerEnv) : Content :=
  { body := .data true env.timestamp
    pniSignatureMessage := account.pni ≠ .nil && env.sharesNumberWithEverybody }

def handleMatrixAcceptMessageRequest (account : Account) (env : HandlerEnv) (s : Store) (portal : Portal) :
    Store × Option HandlerError :=
  match syncMessageRequestResponse account env.sync s portal with
  | (s, some err) => (s, some err)
  | (s, none) =>
    match portal with
    | .user id =>
      if id.type = serviceIDTypeACI then
        match env.profileKeyForSignalID with
        | .error _ => (s, some .failedToGetProfileKey)
        | .ok () =>
          match account.pni ≠ .nil && env.sharesNumberWithEverybody, env.signAlternateIdentity with
          | true, .error _ => (s, some .failedToGenerateSignature)
          | _, _ =>
            let res := sendMessage account env.share s id (acceptContent account env)
            (res.store, if res.wasSuccessful then none else some .failedToShareProfileKey)
      else (s, none)
    | _ => (s, none)

section Accepted

variable {account : Account} {env : HandlerEnv} {s : Store} {id : ServiceID}

def Accepted (table : Table) (aci : UUID) : Prop := storedFlags table aci = some ⟨false, some true⟩

-- The flags when the profile key is shared. The sync message before it may have changed those of the own account.
def flagsAfterSync (account : Account) (env : HandlerEnv) (aci : UUID) (flags : Option Flags) : Option Flags :=
  if aci = account.aci then flagsAfter account env.sync { body := .sync .other } flags else flags

def Stores (account : Account) (env : HandlerEnv) (flags : Option Flags) : Prop :=
  flags = some ⟨false, some true⟩ ∨
    (env.share.faults.Completes ∧
      (flags = none ∨ (flags.any Flags.needsPNISignature = true ∧ Signed env.share (acceptContent account env))))

theorem syncMessageRequestResponse_user (htype : id.type = serviceIDTypeACI) :
    (syncMessageRequestResponse account env.sync s (.user id)).1 =
      (sendMessage account env.sync s account.aciServiceID { body := .sync .other }).store := by
  rw [syncMessageRequestResponse]
  rw [if_pos htype]

theorem storedFlags_sync (htype : id.type = serviceIDTypeACI) (hknown : id.uuid ≠ .nil) :
    storedFlags (syncMessageRequestResponse account env.sync s (.user id)).1.table id.uuid =
      flagsAfterSync account env id.uuid (storedFlags s.table id.uuid) := by
  rw [syncMessageRequestResponse_user htype, flagsAfterSync]
  by_cases hown : id.uuid = account.aci
  · rw [if_pos hown]
    rw [hown] at hknown ⊢
    exact storedFlags_sendMessage rfl rfl hknown
  · rw [if_neg hown]
    exact storedFlags_sendMessage_other rfl hown

theorem handler_store (htype : id.type = serviceIDTypeACI)
    (hsucc : (handleMatrixAcceptMessageRequest account env s (.user id)).2 = none) :
    (handleMatrixAcceptMessageRequest account env s (.user id)).1 =
      (sendMessage account env.share (syncMessageRequestResponse account env.sync s (.user id)).1 id
        (acceptContent account env)).store := by
  unfold handleMatrixAcceptMessageRequest at hsucc ⊢
  generalize syncMessageRequestResponse account env.sync s (.user id) = synced at hsucc ⊢
  obtain ⟨s', err⟩ := synced
  cases err with
  | some err => cases hsucc
  | none =>
    dsimp only at hsucc ⊢
    rw [if_pos htype] at hsucc ⊢
    cases hkey : env.profileKeyForSignalID with
    | error text =>
      rw [hkey] at hsucc
      cases hsucc
    | ok =>
      rw [hkey] at hsucc
      dsimp only at hsucc ⊢
      split
      · rename_i hsign hshares
        rw [hsign, hshares] at hsucc
        cases hsucc
      · rfl

theorem flagsAfter_accept_iff (hpni : account.pni ≠ .nil) (flags : Option Flags) :
    flagsAfter account env.share (acceptContent account env) flags = some ⟨false, some true⟩ ↔
      Stores account env flags := by
  have hupd : isProfileKeyUpdate (acceptContent account env) = true := rfl
  unfold flagsAfter Stores
  by_cases hcomp : env.share.faults.Completes
  · rw [if_pos hcomp]
    cases flags with
    | none => simp [hupd, hcomp]
    | some flags =>
      by_cases hsigned : flags.needsPNISignature = true ∧ account.pni ≠ .nil ∧
          Signed env.share (acceptContent account env)
      · simp [hsigned, hupd, hcomp]
      · have hnot : ¬(flags.needsPNISignature = true ∧ Signed env.share (acceptContent account env)) :=
          fun h => hsigned ⟨h.1, hpni, h.2⟩
        simp [hsigned, hnot]
  · rw [if_neg hcomp]
    simp [hcomp]

theorem not_withheld_of_accepted {table : Table} {aci : UUID} (h : Accepted table aci) :
    probablyMessageRequest (recipientOf table aci) = false := by
  obtain ⟨row, hrow, hflags⟩ := Option.map_eq_some_iff.mp h
  have hneeds : row.needsPNISignature = false := congrArg Flags.needsPNISignature hflags
  have hwhitelisted : row.whitelisted = some true := congrArg Flags.whitelisted hflags
  rw [recipientOf_of_row hrow]
  simp [probablyMessageRequest, scanRecipient, hneeds, hwhitelisted]

-- The row is saved only if the function passed to LoadAndUpdateRecipient reports a change.
theorem accepted_iff (account : Account) (env : HandlerEnv) (s : Store) (id : ServiceID)
    (hpni : account.pni ≠ .nil) (htype : id.type = serviceIDTypeACI) (hknown : id.uuid ≠ .nil)
    (hsucc : (handleMatrixAcceptMessageRequest account env s (.user id)).2 = none) :
    (Accepted (handleMatrixAcceptMessageRequest account env s (.user id)).1.table id.uuid ∧
      probablyMessageRequest
        (recipientOf (handleMatrixAcceptMessageRequest account env s (.user id)).1.table id.uuid) = false) ↔
      Stores account env (flagsAfterSync account env id.uuid (storedFlags s.table id.uuid)) := by
  rw [and_iff_left_of_imp not_withheld_of_accepted, Accepted, handler_store htype hsucc,
    storedFlags_sendMessage rfl htype hknown, storedFlags_sync htype hknown]
  exact flagsAfter_accept_iff hpni _

def online : Env where
  order := .stored
  faults := {}
  signAlternateIdentity := .ok ()
  deliver _ _ := .sent

def sampleHandlerEnv : HandlerEnv where
  sync := online
  share := online
  profileKeyForSignalID := .ok ()
  sharesNumberWithEverybody := false
  signAlternateIdentity := .ok ()
  timestamp := 7

theorem accepted_owed :
    Accepted (handleMatrixAcceptMessageRequest sampleAccount sampleHandlerEnv owedStore
      (.user (newACIServiceID (.ofByte 3)))).1.table (.ofByte 3) :=
  ((accepted_iff sampleAccount sampleHandlerEnv owedStore (newACIServiceID (.ofByte 3)) (by decide) rfl
    (by decide) (by decide +kernel)).mpr (.inr ⟨by decide, .inr ⟨by decide, .inr ⟨rfl, rfl⟩⟩⟩)).1

def requestStore : Store where
  table := ⟨[{ aci := some (.ofByte 3), whitelisted := some false }], by decide⟩

-- The row of a message request without an owed signature is not written.
theorem accepted_request_not_stored :
    (handleMatrixAcceptMessageRequest sampleAccount sampleHandlerEnv requestStore
      (.user (newACIServiceID (.ofByte 3)))).2 = none ∧
    storedFlags (handleMatrixAcceptMessageRequest sampleAccount sampleHandlerEnv requestStore
      (.user (newACIServiceID (.ofByte 3)))).1.table (.ofByte 3) = some ⟨false, some false⟩ := by
  decide +kernel

end Accepted

end MautrixSignal.MessageRequests
