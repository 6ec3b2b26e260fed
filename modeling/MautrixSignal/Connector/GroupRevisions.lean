import MautrixSignal.Lib.Run
import Mathlib.Data.List.Range

namespace MautrixSignal.Connector.GroupRevisions

open Lib

-- A group portal: the revision in its metadata, the revision of the last full sync, and the group changes that
-- have been applied to the room since then, oldest first.
structure Portal where
  revision : UInt32
  syncedAt : UInt32
  applied : List UInt32 := []
deriving DecidableEq

structure LogEntry where
  revision : UInt32
  converts : Bool

-- What the requests of catchUpGroup give: the decrypted history page, and the revision of the retrieved group.
-- none is an error.
structure Answers where
  history : UInt32 → Option (List LogEntry)
  groupInfo : UInt32 → Option UInt32

structure GroupMessage where
  groupRevision : UInt32
  hasGroupChange : Bool
  isChatInfoChange : Bool
  decrypted : Option LogEntry

def makeRevisionUpdater (rev : UInt32) (portal : Portal) : Portal :=
  if portal.revision < rev then { portal with revision := rev } else portal

variable (portal : Portal)

def processChatInfoChange (rev : UInt32) : Portal :=
  makeRevisionUpdater rev { portal with applied := portal.applied ++ [rev] }

def updateInfo (groupRevision : UInt32) : Portal :=
  makeRevisionUpdater groupRevision { portal with syncedAt := groupRevision, applied := [] }

-- The loop of catchUpGroup. The error of a change that cannot be converted is logged.
def replayHistory (toRevision : UInt32) (portal : Portal) : List LogEntry → Portal
  | [] => portal
  | entry :: entries =>
    let portal := if entry.converts then processChatInfoChange portal entry.revision else portal
    if entry.revision = toRevision then portal else replayHistory toRevision portal entries

variable (answers : Answers)

def syncFullGroupInfo (portal : Portal) (toRevision : UInt32) : Portal :=
  match answers.groupInfo toRevision with
  | none => portal
  | some groupRevision => updateInfo portal groupRevision

def catchUpGroup (portal : Portal) (fromRevision toRevision : UInt32) : Portal :=
  if fromRevision ≥ toRevision then portal
  else if fromRevision = 0 then syncFullGroupInfo answers portal toRevision
  else
    match answers.history fromRevision with
    | none => syncFullGroupInfo answers portal toRevision
    | some groupChanges => replayHistory toRevision portal groupChanges

variable (message : GroupMessage)

def targetRevision : UInt32 :=
  if message.hasGroupChange then message.groupRevision - 1 else message.groupRevision

def preHandle (portal : Portal) (message : GroupMessage) : Portal :=
  if message.groupRevision > portal.revision then
    catchUpGroup answers portal portal.revision (targetRevision message)
  else portal

-- The change that a message has for the room. A conversion error ends the handling of the event.
def getChatInfoChange : Option UInt32 :=
  match message.decrypted with
  | none => none
  | some change =>
    if change.revision ≠ message.groupRevision ∨ change.revision ≠ portal.revision + 1 then none
    else if change.converts then some message.groupRevision
    else none

def handleGroupMessage (portal : Portal) (message : GroupMessage) : Portal :=
  let portal := preHandle answers portal message
  if message.isChatInfoChange then
    match getChatInfoChange portal message with
    | none => portal
    | some rev => processChatInfoChange portal rev
  else portal

def handleMatrixChange (revision : UInt32) : Portal :=
  { portal with revision, applied := portal.applied ++ [revision] }

inductive GroupEvent where
  | message (answers : Answers) (message : GroupMessage)
  | resync (groupRevision : UInt32)
  | matrixChange (revision : UInt32)

def GroupEvent.run : GroupEvent → Portal
  | .message answers received => handleGroupMessage answers portal received
  | .resync groupRevision => updateInfo portal groupRevision
  | .matrixChange revision => handleMatrixChange portal revision

def InOrder : Prop :=
  portal.syncedAt ≤ portal.revision ∧ portal.applied.map UInt32.toNat =
    List.range' (portal.syncedAt.toNat + 1) (portal.revision.toNat - portal.syncedAt.toNat)

-- Each entry of the history that is processed and converts is directly after the stored revision.
def replayable (toRevision stored : UInt32) : List LogEntry → Bool
  | [] => true
  | entry :: entries =>
    (!entry.converts || entry.revision.toNat = stored.toNat + 1) &&
      (entry.revision = toRevision ||
        replayable toRevision (if entry.converts then entry.revision else stored) entries)

-- A group that a full sync retrieves is not older than the stored revision.
def syncable (portal : Portal) (toRevision : UInt32) : Bool :=
  (answers.groupInfo toRevision).all fun groupRevision => portal.revision ≤ groupRevision

def catchesUp (portal : Portal) (toRevision : UInt32) : Bool :=
  if portal.revision ≥ toRevision then true
  else if portal.revision = 0 then syncable answers portal toRevision
  else
    match answers.history portal.revision with
    | none => syncable answers portal toRevision
    | some groupChanges => replayable toRevision portal.revision groupChanges

-- The events after which the revision can be trusted. No change has the revision 0.
def Trusted : GroupEvent → Prop
  | .message answers message =>
    catchesUp answers portal (targetRevision message) = true ∧ ∀ change ∈ message.decrypted, change.revision ≠ 0
  | .resync groupRevision => portal.revision ≤ groupRevision
  | .matrixChange revision => revision.toNat = portal.revision.toNat + 1

section Steps

variable {portal : Portal} {answers : Answers} {rev toRevision : UInt32}

theorem inOrder_next (h : InOrder portal) (hnext : rev.toNat = portal.revision.toNat + 1) :
    InOrder { portal with revision := rev, applied := portal.applied ++ [rev] } := by
  obtain ⟨hle, happlied⟩ := h
  rw [UInt32.le_iff_toNat_le] at hle
  constructor
  · simp only [UInt32.le_iff_toNat_le]
    omega
  · have hlen : rev.toNat - portal.syncedAt.toNat = portal.revision.toNat - portal.syncedAt.toNat + 1 := by
      omega
    simp only [List.map_append, hlen, List.range'_concat, List.map_cons]
    congr 2
    omega

theorem processChatInfoChange_eq (hnext : rev.toNat = portal.revision.toNat + 1) :
    processChatInfoChange portal rev = { portal with revision := rev, applied := portal.applied ++ [rev] } := by
  have hlt : portal.revision < rev := by
    rw [UInt32.lt_iff_toNat_lt]
    omega
  simp [processChatInfoChange, makeRevisionUpdater, hlt]

theorem inOrder_updateInfo {groupRevision : UInt32} (hle : portal.revision ≤ groupRevision) :
    InOrder (updateInfo portal groupRevision) := by
  have hrev : (updateInfo portal groupRevision).revision = groupRevision := by
    unfold updateInfo makeRevisionUpdater
    split
    · rfl
    · rename_i hlt
      exact UInt32.le_antisymm hle (UInt32.not_lt.mp hlt)
  have hsynced : (updateInfo portal groupRevision).syncedAt = groupRevision ∧
      (updateInfo portal groupRevision).applied = [] := by
    unfold updateInfo makeRevisionUpdater
    split <;> exact ⟨rfl, rfl⟩
  obtain ⟨hat, happlied⟩ := hsynced
  constructor
  · rw [hrev, hat]
    exact UInt32.le_refl _
  · rw [hrev, hat, happlied, Nat.sub_self]
    rfl

theorem inOrder_replayHistory {entries : List LogEntry} (h : InOrder portal)
    (hreplay : replayable toRevision portal.revision entries = true) :
    InOrder (replayHistory toRevision portal entries) := by
  induction entries generalizing portal with
  | nil => exact h
  | cons entry entries ih =>
    simp only [replayable, Bool.and_eq_true, Bool.or_eq_true, decide_eq_true_eq] at hreplay
    obtain ⟨hnext, hrest⟩ := hreplay
    simp only [replayHistory]
    cases hconverts : entry.converts with
    | false =>
      simp only [hconverts] at hrest ⊢
      split
      · exact h
      · rename_i hne
        exact ih h (hrest.resolve_left hne)
    | true =>
      have hnext := hnext.resolve_left (by simp [hconverts])
      have happly := inOrder_next h hnext
      simp only [hconverts, processChatInfoChange_eq hnext] at hrest ⊢
      split
      · exact happly
      · rename_i hne
        exact ih happly (hrest.resolve_left hne)

theorem inOrder_syncFullGroupInfo (h : InOrder portal) (hsync : syncable answers portal toRevision = true) :
    InOrder (syncFullGroupInfo answers portal toRevision) := by
  unfold syncFullGroupInfo
  unfold syncable at hsync
  cases hinfo : answers.groupInfo toRevision with
  | none => exact h
  | some groupRevision =>
    rw [hinfo] at hsync
    exact inOrder_updateInfo (by simpa using hsync)

theorem inOrder_catchUpGroup (h : InOrder portal) (hcatch : catchesUp answers portal toRevision = true) :
    InOrder (catchUpGroup answers portal portal.revision toRevision) := by
  unfold catchUpGroup
  unfold catchesUp at hcatch
  split
  · exact h
  rename_i hlt
  rw [if_neg hlt] at hcatch
  split
  · rename_i hzero
    rw [if_pos hzero] at hcatch
    exact inOrder_syncFullGroupInfo h hcatch
  · rename_i hzero
    rw [if_neg hzero] at hcatch
    cases hhistory : answers.history portal.revision with
    | none =>
      rw [hhistory] at hcatch
      exact inOrder_syncFullGroupInfo h hcatch
    | some groupChanges =>
      rw [hhistory] at hcatch
      exact inOrder_replayHistory h hcatch

theorem toNat_next {revision : UInt32} (h : revision + 1 ≠ 0) : (revision + 1).toNat = revision.toNat + 1 := by
  have hone : (1 : UInt32).toNat = 1 := rfl
  have hbound := revision.toNat_lt
  rw [UInt32.toNat_add, hone]
  by_contra hlarge
  apply h
  apply UInt32.toNat_inj.mp
  rw [UInt32.toNat_add, hone]
  have hzero : (0 : UInt32).toNat = 0 := rfl
  omega

theorem getChatInfoChange_next {message : GroupMessage} (hpos : ∀ change ∈ message.decrypted, change.revision ≠ 0)
    (h : getChatInfoChange portal message = some rev) : rev.toNat = portal.revision.toNat + 1 := by
  unfold getChatInfoChange at h
  split at h
  · cases h
  rename_i change hchange
  split at h
  · cases h
  rename_i hrev
  simp only [not_or, not_not] at hrev
  obtain ⟨hmsg, hnext⟩ := hrev
  split at h
  · cases h
    have hne := hpos change hchange
    rw [← hmsg, hnext]
    rw [hnext] at hne
    exact toNat_next hne
  · cases h

theorem inOrder_handleGroupMessage {message : GroupMessage} (h : InOrder portal)
    (htrusted : Trusted portal (.message answers message)) : InOrder (handleGroupMessage answers portal message) := by
  obtain ⟨hcatch, hpos⟩ := htrusted
  have hpre : InOrder (preHandle answers portal message) := by
    unfold preHandle
    split
    · exact inOrder_catchUpGroup h hcatch
    · exact h
  unfold handleGroupMessage
  simp only
  split
  · split
    · exact hpre
    · rename_i rev hrev
      have hnext := getChatInfoChange_next hpos hrev
      rw [processChatInfoChange_eq hnext]
      exact inOrder_next hpre hnext
  · exact hpre

theorem inOrder_run {event : GroupEvent} (h : InOrder portal) (htrusted : Trusted portal event) :
    InOrder (event.run portal) := by
  cases event with
  | message answers message => exact inOrder_handleGroupMessage h htrusted
  | resync groupRevision => exact inOrder_updateInfo htrusted
  | matrixChange revision => exact inOrder_next h htrusted

end Steps

abbrev TrustedRun : Portal → List GroupEvent → Portal → Prop :=
  Run (Guarded Trusted fun portal event portal' => event.run portal = portal')

-- In every run of trusted events from a synced portal, the changes since the last full sync up to the stored
-- revision have been applied once and in order.
theorem changes_applied_once_in_order {revision : UInt32} {events : List GroupEvent} {portal : Portal}
    (hrun : TrustedRun { revision, syncedAt := revision } events portal) : InOrder portal := by
  refine hrun.invariant (I := InOrder) ?_ ?_
  · rintro portal event _ h ⟨htrusted, rfl⟩
    exact inOrder_run h htrusted
  · exact ⟨UInt32.le_refl _, by simp⟩

-- A message without a change at the next revision, and a server whose history goes up to it. The log from a
-- revision starts with the change of that revision.
def plainMessage : GroupMessage :=
  { groupRevision := 2, hasGroupChange := false, isChatInfoChange := false, decrypted := none }

def serverAtTwo : Answers where
  history fromRevision := some (([1, 2].filter fun r => fromRevision ≤ r).map fun r => ⟨r, true⟩)
  groupInfo _ := some 2

def liveChange : GroupMessage :=
  { groupRevision := 3, hasGroupChange := true, isChatInfoChange := true, decrypted := some ⟨3, true⟩ }

theorem changes_applied_once_in_order_live : ∃ portal,
    TrustedRun { revision := 0, syncedAt := 0 } [.message serverAtTwo plainMessage, .message serverAtTwo liveChange]
      portal ∧
    portal = { revision := 3, syncedAt := 2, applied := [3] } ∧ InOrder portal := by
  have hrun : TrustedRun { revision := 0, syncedAt := 0 }
      [.message serverAtTwo plainMessage, .message serverAtTwo liveChange]
      { revision := 3, syncedAt := 2, applied := [3] } := by
    refine .cons (t := { revision := 2, syncedAt := 2 }) ⟨⟨by decide, ?_⟩, by decide⟩
      (.single ⟨⟨by decide, ?_⟩, by decide⟩)
    · intro change hchange
      cases hchange
    · intro change hchange
      cases hchange
      decide
  exact ⟨_, hrun, rfl, changes_applied_once_in_order hrun⟩

def firstChange : GroupMessage :=
  { groupRevision := 1, hasGroupChange := true, isChatInfoChange := true, decrypted := some ⟨1, true⟩ }

-- Catching up from revision 1 applies the change of revision 1 a second time.
theorem catching_up_repeats_stored_change : ∃ portal,
    Run (fun portal event portal' => GroupEvent.run portal event = portal') { revision := 0, syncedAt := 0 }
      [.message serverAtTwo firstChange, .message serverAtTwo plainMessage] portal ∧
    portal = { revision := 2, syncedAt := 0, applied := [1, 1, 2] } ∧ ¬ InOrder portal := by
  refine ⟨_, .cons rfl (.single rfl), by decide, ?_⟩
  rintro ⟨-, happlied⟩
  revert happlied
  decide

end MautrixSignal.Connector.GroupRevisions
