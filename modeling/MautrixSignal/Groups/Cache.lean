import MautrixSignal.Groups
import MautrixSignal.Lib.UpdateFirst
import Mathlib.Logic.Function.Basic

namespace MautrixSignal.Groups

open Lib

structure AddMember extends GroupMember where
  joinFromInviteLink : Bool := false

structure ProfileKeyMember where
  aci : UUID
  profileKey : ProfileKey := []

structure PromotePendingMember where
  aci : UUID
  profileKey : ProfileKey := []

structure PromotePendingPniAciMember where
  aci : UUID
  profileKey : ProfileKey := []
  pni : UUID

structure RoleMember where
  aci : UUID
  role : GroupMemberRole

structure GroupChange where
  groupMasterKey : SerializedGroupMasterKey
  sourceServiceID : ServiceID := ⟨0, UUID.nil⟩
  revision : UInt32 := 0
  addMembers : List AddMember := []
  deleteMembers : List UUID := []
  modifyMemberRoles : List RoleMember := []
  modifyMemberProfileKeys : List ProfileKeyMember := []
  addPendingMembers : List PendingMember := []
  deletePendingMembers : List ServiceID := []
  promotePendingMembers : List PromotePendingMember := []
  modifyTitle : Option Text := none
  modifyAvatar : Option Text := none
  modifyDisappearingMessagesDuration : Option UInt32 := none
  modifyAttributesAccess : Option AccessControl := none
  modifyMemberAccess : Option AccessControl := none
  modifyAddFromInviteLinkAccess : Option AccessControl := none
  addRequestingMembers : List RequestingMember := []
  deleteRequestingMembers : List UUID := []
  promoteRequestingMembers : List RoleMember := []
  modifyDescription : Option Text := none
  modifyAnnouncementsOnly : Option Bool := none
  addBannedMembers : List BannedMember := []
  deleteBannedMembers : List ServiceID := []
  promotePendingPniAciMembers : List PromotePendingPniAciMember := []
  modifyInviteLinkPassword : Option SerializedInviteLinkPassword := none

variable (revision : UInt32) (group : Group)

def PromotePendingMember.names (promo : PromotePendingMember) (id : ServiceID) : Bool :=
  id.type = serviceIDTypeACI && id.uuid = promo.aci

def PromotePendingPniAciMember.names (promo : PromotePendingPniAciMember) (id : ServiceID) : Bool :=
  (id.type = serviceIDTypePNI && id.uuid = promo.pni) || (id.type = serviceIDTypeACI && id.uuid = promo.aci)

def promotedMember (aci : UUID) (profileKey : ProfileKey) : GroupMember :=
  { aci, profileKey, role := groupMemberDefault, joinedAtRevision := revision }

def promote (names : ServiceID → Bool) (aci : UUID) (profileKey : ProfileKey) : Group :=
  { group with
    pendingMembers := group.pendingMembers.filter fun p => !names p.serviceID
    members := group.members ++ [promotedMember revision aci profileKey] }

def requestedProfileKey (requestingMembers : List RequestingMember) (aci : UUID) : ProfileKey :=
  ((requestingMembers.filter fun r => r.aci = aci).getLast?.map RequestingMember.profileKey).getD
    (List.replicate 32 0)

def promoteRequesting (promo : RoleMember) : Group :=
  { group with
    requestingMembers := group.requestingMembers.filter fun r => !(r.aci = promo.aci)
    members := group.members ++ [{ aci := promo.aci, role := promo.role, joinedAtRevision := revision
                                   profileKey := requestedProfileKey group.requestingMembers promo.aci }] }

variable (change : GroupChange)

def applyPending (group : Group) : Group :=
  let group := { group with pendingMembers := group.pendingMembers ++ change.addPendingMembers }
  let group := change.promotePendingMembers.foldl (fun group promo =>
    promote change.revision group promo.names promo.aci promo.profileKey) group
  let group := change.promotePendingPniAciMembers.foldl (fun group promo =>
    promote change.revision group promo.names promo.aci promo.profileKey) group
  { group with
    pendingMembers := group.pendingMembers.filter fun p => !(change.deletePendingMembers.contains p.serviceID) }

def applyRequesting (group : Group) : Group :=
  let group := { group with requestingMembers := group.requestingMembers ++ change.addRequestingMembers }
  let group := change.promoteRequestingMembers.foldl (promoteRequesting change.revision) group
  { group with
    requestingMembers := group.requestingMembers.filter fun r =>
      !(change.deleteRequestingMembers.contains r.aci) }

-- findMemberOrEmpty returns the first member with the ACI, or a fresh one that nobody sees.
def modifyRole (members : List GroupMember) (rm : RoleMember) : List GroupMember :=
  updateFirst (fun member => member.aci = rm.aci) (fun member => { member with role := rm.role }) members

def modifyProfileKey (members : List GroupMember) (pk : ProfileKeyMember) : List GroupMember :=
  updateFirst (fun member => member.aci = pk.aci) (fun member => { member with profileKey := pk.profileKey })
    members

def applyDirect (group : Group) : Group :=
  let members := group.members ++ change.addMembers.map AddMember.toGroupMember
  let members := change.modifyMemberRoles.foldl modifyRole members
  let members := change.modifyMemberProfileKeys.foldl modifyProfileKey members
  { group with members := members.filter fun member => !(change.deleteMembers.contains member.aci) }

def applyBanned (group : Group) : Group :=
  { group with
    bannedMembers := (group.bannedMembers ++ change.addBannedMembers).filter fun b =>
      !(change.deleteBannedMembers.contains b.serviceID) }

def applyProperties (group : Group) : Group :=
  { group with
    inviteLinkPassword := change.modifyInviteLinkPassword.or group.inviteLinkPassword
    title := change.modifyTitle.getD group.title
    description := change.modifyDescription.getD group.description
    avatarPath := change.modifyAvatar.getD group.avatarPath
    announcementsOnly := change.modifyAnnouncementsOnly.getD group.announcementsOnly
    disappearingMessagesDuration :=
      change.modifyDisappearingMessagesDuration.getD group.disappearingMessagesDuration }

def GroupChange.modifiesAccess : Bool :=
  change.modifyAttributesAccess.isSome || change.modifyMemberAccess.isSome ||
    change.modifyAddFromInviteLinkAccess.isSome

def modifyAccess (access : GroupAccessControl) : GroupAccessControl :=
  { attributes := change.modifyAttributesAccess.getD access.attributes
    members := change.modifyMemberAccess.getD access.members
    addFromInviteLink := change.modifyAddFromInviteLinkAccess.getD access.addFromInviteLink }

-- An assignment through a nil access control panics.
def applyAccess (group : Group) : Option Group :=
  match group.accessControl with
  | some access => some { group with accessControl := some (modifyAccess change access) }
  | none => if change.modifiesAccess then none else some group

def applyBeforeAccess (group : Group) : Group :=
  applyProperties change
    (applyBanned change (applyDirect change (applyRequesting change (applyPending change group))))

def GroupChange.staysPending (id : ServiceID) : Bool :=
  (change.promotePendingMembers.all fun promo => !promo.names id) &&
    (change.promotePendingPniAciMembers.all fun promo => !promo.names id) && !(change.deletePendingMembers.contains id)

theorem foldl_promote {α : Type} (names : α → ServiceID → Bool) (aci : α → UUID) (key : α → ProfileKey)
    (promos : List α) (group : Group) :
    promos.foldl (fun group promo => promote revision group (names promo) (aci promo) (key promo)) group =
      { group with
        pendingMembers := group.pendingMembers.filter fun p => promos.all fun promo => !names promo p.serviceID
        members := group.members ++ promos.map fun promo => promotedMember revision (aci promo) (key promo) } := by
  induction promos generalizing group with
  | nil => simp
  | cons promo promos ih =>
    rw [List.foldl_cons, ih]
    simp [promote, Bool.and_comm]

theorem foldl_promoteRequesting (promos : List RoleMember) (group : Group) :
    ∃ promoted,
      promos.foldl (promoteRequesting revision) group =
        { group with
          requestingMembers := group.requestingMembers.filter fun r => promos.all fun promo => !(r.aci = promo.aci)
          members := group.members ++ promoted } ∧
      promoted.map (fun member => (member.aci, member.role)) = promos.map fun promo => (promo.aci, promo.role) := by
  induction promos generalizing group with
  | nil => exact ⟨[], by simp, rfl⟩
  | cons promo promos ih =>
    obtain ⟨promoted, heq, hmap⟩ := ih (promoteRequesting revision group promo)
    refine ⟨{ aci := promo.aci, role := promo.role, joinedAtRevision := revision
              profileKey := requestedProfileKey group.requestingMembers promo.aci } :: promoted, ?_, ?_⟩
    · rw [List.foldl_cons, heq]
      simp [promoteRequesting, Bool.and_comm]
    · simp [hmap]

-- All that a change does to a group up to its access control, with the loops written out.
theorem applyBeforeAccess_eq (group : Group) :
    ∃ approved, applyBeforeAccess change group = applyProperties change (applyBanned change (applyDirect change
        { group with
          pendingMembers := (group.pendingMembers ++ change.addPendingMembers).filter fun p =>
            change.staysPending p.serviceID
          requestingMembers := ((group.requestingMembers ++ change.addRequestingMembers).filter fun r =>
            change.promoteRequestingMembers.all fun promo => !(r.aci = promo.aci)).filter fun r =>
              !(change.deleteRequestingMembers.contains r.aci)
          members := group.members ++
            (change.promotePendingMembers.map fun p => promotedMember change.revision p.aci p.profileKey) ++
            (change.promotePendingPniAciMembers.map fun p => promotedMember change.revision p.aci p.profileKey) ++
            approved })) ∧
      approved.map (fun member => (member.aci, member.role)) =
        change.promoteRequestingMembers.map fun promo => (promo.aci, promo.role) := by
  obtain ⟨approved, heq, hmap⟩ := foldl_promoteRequesting change.revision change.promoteRequestingMembers
    { applyPending change group with
      requestingMembers := (applyPending change group).requestingMembers ++ change.addRequestingMembers }
  refine ⟨approved, ?_, hmap⟩
  have hstays : ∀ p : PendingMember, change.staysPending p.serviceID =
      (!(change.deletePendingMembers.contains p.serviceID) &&
        (change.promotePendingPniAciMembers.all (fun promo => !promo.names p.serviceID) &&
          change.promotePendingMembers.all fun promo => !promo.names p.serviceID)) := by
    intro p
    rw [Bool.and_comm, Bool.and_comm (List.all _ _), GroupChange.staysPending]
  rw [applyBeforeAccess, applyRequesting, heq]
  simp only [applyPending, foldl_promote, List.filter_filter, hstays]

-- A group object is reached through its address, so that the cache and its callers can share it.
abbrev Ref := ℕ

structure SendEndorsementCache where
  sendEndorsement : Bytes
  memberEndorsements : List (ServiceID × Bytes)
  expiration : Int
  secretParams : Bytes
deriving DecidableEq

-- A response of the server, as libsignal reads it: for a list of members, the own service ID and the secret
-- parameters it gives the endorsements or fails.
structure EndorsementsResponse where
  receiveWithServiceIDs : List ServiceID → ServiceID → Bytes → Except String (Bytes × List (ServiceID × Bytes))
  getExpiration : Except String Int

structure CachedGroup where
  group : Ref
  endorsement : SendEndorsementCache

structure GroupCache where
  serviceID : ServiceID
  objects : Ref → Group
  data : GroupIdentifier → Option CachedGroup

namespace GroupCache

def newGroupCache (serviceID : ServiceID) (objects : Ref → Group) : GroupCache :=
  { serviceID, objects, data := fun _ => none }

variable (cache : GroupCache) (id : GroupIdentifier)

def delete : GroupCache :=
  { cache with data := Function.update cache.data id none }

variable (cached : CachedGroup)

def store : GroupCache :=
  { cache with data := Function.update cache.data id (some cached) }

def write (ref : Ref) (group : Group) : GroupCache :=
  { cache with objects := Function.update cache.objects ref group }

def entry : Option (Group × SendEndorsementCache) :=
  (cache.data id).map fun cached => (cache.objects cached.group, cached.endorsement)

-- An entry is not returned when it expires within five minutes.
def get (now : Int) (id : GroupIdentifier) : Option CachedGroup :=
  (cache.data id).filter fun cached => !(cached.endorsement.expiration - now < 5 * 60)

variable (env : Env)

def prepareEntry (cache : GroupCache) (data : Ref) (response : EndorsementsResponse) :
    Except Failure CachedGroup := do
  let group := cache.objects data
  let masterKeyBytes ← masterKeyToBytes group.groupMasterKey
  let secretParams ← failed (env.deriveGroupSecretParams masterKeyBytes)
  let expiration ← failed response.getExpiration
  let (sendEndorsement, memberEndorsements) ←
    failed (response.receiveWithServiceIDs group.getMemberServiceIDs cache.serviceID secretParams)
  return { group := data, endorsement := { sendEndorsement, memberEndorsements, expiration, secretParams } }

def isNewer (group : Group) : Bool :=
  match cache.data group.groupIdentifier with
  | some cached => (cache.objects cached.group).revision > group.revision
  | none => false

def put (cache : GroupCache) (data : Ref) (response : EndorsementsResponse) :
    Except Failure Unit × GroupCache :=
  match prepareEntry env cache data response with
  | .error failure => (.error failure, cache)
  | .ok cached =>
    if cache.isNewer (cache.objects data) then (.ok (), cache)
    else (.ok (), cache.store (cache.objects data).groupIdentifier cached)

def changeTarget (change : GroupChange) : Except Failure (GroupIdentifier × Bytes) := do
  let masterKeyBytes ← masterKeyToBytes change.groupMasterKey
  let rawGroupID ← failed (env.groupIdentifier masterKeyBytes)
  let secretParams ← failed (env.deriveGroupSecretParams masterKeyBytes)
  return (Base64.encodeChars rawGroupID, secretParams)

def renewEndorsements (secretParams : Bytes) (response : EndorsementsResponse) : Except Failure Unit × GroupCache :=
  match response.receiveWithServiceIDs (cache.objects cached.group).getMemberServiceIDs cache.serviceID
      secretParams with
  | .error message => (.error (.error message), cache.delete id)
  | .ok (sendEndorsement, memberEndorsements) =>
    match response.getExpiration with
    | .error message => (.error (.error message), cache.delete id)
    | .ok expiration =>
      (.ok (), cache.store id
        { cached with endorsement := { sendEndorsement, memberEndorsements, expiration, secretParams } })

def updateEntry (secretParams : Bytes) (change : GroupChange) (response : EndorsementsResponse) :
    Except Failure Unit × GroupCache :=
  let written := applyBeforeAccess change (cache.objects cached.group)
  match applyAccess change written with
  | none => (.error (.panic "nil pointer dereference"), cache.write cached.group written)
  | some updated =>
    renewEndorsements (cache.write cached.group { updated with revision := change.revision }) id cached
      secretParams response

def applyUpdate (cache : GroupCache) (change : GroupChange) (response : EndorsementsResponse) :
    Except Failure Unit × GroupCache :=
  match changeTarget env change with
  | .error failure => (.error failure, cache)
  | .ok (id, secretParams) =>
    match cache.data id with
    | none => (.ok (), cache)
    | some cached =>
      if (cache.objects cached.group).revision ≥ change.revision then (.ok (), cache)
      else if (cache.objects cached.group).revision < change.revision - 1 then (.ok (), cache.delete id)
      else updateEntry cache id cached secretParams change response

end GroupCache

end MautrixSignal.Groups
