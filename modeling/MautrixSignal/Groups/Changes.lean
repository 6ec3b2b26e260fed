import MautrixSignal.Groups.Cache
import MautrixSignal.Groups.Encryption

namespace MautrixSignal.Groups

open Lib

-- signalpb.GroupChange_Actions, as far as EncryptAndSignGroupChange fills it. An action that only names a user
-- or carries a presentation is that.
structure Actions where
  version : UInt32
  modifyTitle : Option Bytes := none
  modifyDescription : Option Bytes := none
  modifyAvatar : Option Text := none
  addMembers : List (Member × Bool) := []
  deleteMembers : List Bytes := []
  modifyMemberRoles : List (Bytes × Int32) := []
  addMembersPendingProfileKey : List (Option MemberPendingProfileKey) := []
  deleteMembersPendingProfileKey : List Bytes := []
  promoteMembersPendingProfileKey : List Bytes := []
  addMembersPendingAdminApproval : List Bytes := []
  deleteMembersPendingAdminApproval : List Bytes := []
  promoteMembersPendingAdminApproval : List (Bytes × Int32) := []
  addMembersBanned : List MemberBanned := []
  deleteMembersBanned : List Bytes := []
  modifyAnnouncementsOnly : Option Bool := none
  modifyAttributesAccess : Option Int32 := none
  modifyMemberAccess : Option Int32 := none
  modifyAddFromInviteLinkAccess : Option Int32 := none
  modifyDisappearingMessageTimer : Option Bytes := none
  modifyInviteLinkPassword : Option Bytes := none
deriving DecidableEq

section EncryptChange

variable (env : Env) (groupSecretParams : Bytes)

def each {α β : Type} (f : α → Except Failure β) (as : List α) : Except Failure (List β) :=
  collect (fun a => some <$> f a) as

def encryptACI (aci : UUID) : Except Failure Bytes :=
  failed (env.encryptServiceID groupSecretParams (newACIServiceID aci))

def encryptRole (roleMember : RoleMember) : Except Failure (Bytes × Int32) := do
  let encryptedUserID ← encryptACI env groupSecretParams roleMember.aci
  return (encryptedUserID, roleMember.role)

def encryptBanned (bannedMember : BannedMember) : Except Failure MemberBanned := do
  let encryptedUserID ← failed (env.encryptServiceID groupSecretParams bannedMember.serviceID)
  return { userId := encryptedUserID, timestamp := bannedMember.timestamp }

def presentationFor (aci : UUID) : Except Failure Bytes := do
  let credential ← failed (env.fetchCredential aci)
  failed (env.createPresentation groupSecretParams credential)

def encryptProperty (randomness : Bytes) (blob : Option GroupAttributeBlob) : Except Failure (Option Bytes) :=
  match blob with
  | none => .ok none
  | some blob => some <$> encryptBlobIntoGroupProperty env groupSecretParams randomness blob

-- A password that is not base64 is sent as an empty one; the error is only logged.
def inviteLinkPasswordToBytes (password : SerializedInviteLinkPassword) : Bytes :=
  (Base64.decodeChars (password.filter fun c => !Base64.isLineBreak c)).getD []

-- EncryptAndSignGroupChange up to the request. Profile key changes and promotions from a phone number are
-- not sent.
def encryptGroupChange (ownACI : UUID) (randomness : ℕ → Bytes) (change : GroupChange) :
    Except Failure Actions := do
  let modifyTitle ← encryptProperty env groupSecretParams (randomness 0) (change.modifyTitle.map .title)
  let modifyDescription ← encryptProperty env groupSecretParams (randomness 1)
    (change.modifyDescription.map .descriptionText)
  let added := change.addMembers.map fun addMember =>
    (encryptMember env ownACI groupSecretParams addMember.toGroupMember, addMember.joinFromInviteLink)
  let deleteMembers ← each (encryptACI env groupSecretParams) change.deleteMembers
  let modifyMemberRoles ← each (encryptRole env groupSecretParams) change.modifyMemberRoles
  let addPending ← each (encryptPendingMember env groupSecretParams) change.addPendingMembers
  let deletePending ←
    each (fun serviceID => failed (env.encryptServiceID groupSecretParams serviceID)) change.deletePendingMembers
  let promotePending ←
    each (fun promo => presentationFor env groupSecretParams promo.aci) change.promotePendingMembers
  let addRequesting ←
    each (fun requesting => presentationFor env groupSecretParams requesting.aci) change.addRequestingMembers
  let deleteRequesting ← each (encryptACI env groupSecretParams) change.deleteRequestingMembers
  let promoteRequesting ← each (encryptRole env groupSecretParams) change.promoteRequestingMembers
  let addBanned ← each (encryptBanned env groupSecretParams) change.addBannedMembers
  let deleteBanned ←
    each (fun serviceID => failed (env.encryptServiceID groupSecretParams serviceID)) change.deleteBannedMembers
  let timer ← encryptProperty env groupSecretParams (randomness 2)
    (change.modifyDisappearingMessagesDuration.map .disappearingMessagesDuration)
  return {
    version := change.revision
    modifyTitle
    modifyDescription
    modifyAvatar := change.modifyAvatar
    addMembers := added.filterMap fun (encrypted, join) => encrypted.1.map fun member => (member, join)
    deleteMembers
    modifyMemberRoles
    addMembersPendingProfileKey :=
      (added.filterMap fun (encrypted, _) => pendingEntry encrypted) ++ addPending.map some
    deleteMembersPendingProfileKey := deletePending
    promoteMembersPendingProfileKey := promotePending
    addMembersPendingAdminApproval := addRequesting
    deleteMembersPendingAdminApproval := deleteRequesting
    promoteMembersPendingAdminApproval := promoteRequesting
    addMembersBanned := addBanned
    deleteMembersBanned := deleteBanned
    modifyAnnouncementsOnly := change.modifyAnnouncementsOnly
    modifyAttributesAccess := change.modifyAttributesAccess
    modifyMemberAccess := change.modifyMemberAccess
    modifyAddFromInviteLinkAccess := change.modifyAddFromInviteLinkAccess
    modifyDisappearingMessageTimer := timer
    modifyInviteLinkPassword := change.modifyInviteLinkPassword.map inviteLinkPasswordToBytes }

end EncryptChange

-- The group that the server stores after a change. A promoted pending member keeps the role of the invitation,
-- and a promoted request its profile key.
section Server

variable (env : Env)

variable (presentation : Bytes)

def storedUserId : Bytes := (env.presentationUUIDCiphertext presentation).toOption.getD []

def storedProfileKey : Bytes :=
  (env.presentationProfileKeyCiphertext presentation).toOption.getD []

def Member.named (userId : Bytes) : Option Member → Bool
  | some member => member.userId = userId
  | none => false

def MemberPendingProfileKey.userId (pending : MemberPendingProfileKey) : Option Bytes :=
  pending.member.map Member.userId

variable (group : EncryptedGroup)

def invitedRole (userId : Bytes) : Int32 :=
  match group.membersPendingProfileKey.find? fun pending =>
      pending.bind MemberPendingProfileKey.userId = some userId with
  | some (some { member := some member, .. }) => member.role
  | _ => 0

def requestedKey (userId : Bytes) : Bytes :=
  match group.membersPendingAdminApproval.find? fun request =>
      request.map MemberPendingAdminApproval.userId = some userId with
  | some (some request) => request.profileKey
  | _ => []

def serverSetRole (members : List (Option Member)) (action : Bytes × Int32) : List (Option Member) :=
  updateFirst (Member.named action.1) (Option.map fun member => { member with role := action.2 }) members

variable (version : UInt32)

def promotedEntry (presentation : Bytes) : Member :=
  { userId := storedUserId env presentation
    profileKey := storedProfileKey env presentation
    role := invitedRole group (storedUserId env presentation)
    joinedAtVersion := version }

def approvedEntry (action : Bytes × Int32) : Member :=
  { userId := action.1
    profileKey := requestedKey group action.1
    role := action.2
    joinedAtVersion := version }

def addedEntry (member : Member) : Member :=
  { userId := storedUserId env member.presentation
    profileKey := storedProfileKey env member.presentation
    role := member.role
    joinedAtVersion := version }

variable (actions : Actions)

def serverMembers : List (Option Member) :=
  let promoted := actions.promoteMembersPendingProfileKey.map (promotedEntry env group actions.version)
  let approved := actions.promoteMembersPendingAdminApproval.map (approvedEntry group actions.version)
  let added := (actions.addMembers.map Prod.fst).map (addedEntry env actions.version)
  let members := actions.modifyMemberRoles.foldl serverSetRole
    (group.members ++ promoted.map some ++ approved.map some ++ added.map some)
  members.filter fun member => !(actions.deleteMembers.any fun userId => Member.named userId member)

def serverPending : List (Option MemberPendingProfileKey) :=
  (group.membersPendingProfileKey ++ actions.addMembersPendingProfileKey).filter fun pending =>
    !((actions.promoteMembersPendingProfileKey.map (storedUserId env)).any fun userId =>
        pending.bind MemberPendingProfileKey.userId = some userId) &&
      !(actions.deleteMembersPendingProfileKey.any fun userId =>
        pending.bind MemberPendingProfileKey.userId = some userId)

def serverRequesting : List (Option MemberPendingAdminApproval) :=
  let added := actions.addMembersPendingAdminApproval.map fun presentation => some
    { userId := storedUserId env presentation, profileKey := storedProfileKey env presentation }
  (group.membersPendingAdminApproval ++ added).filter fun request =>
    !(actions.promoteMembersPendingAdminApproval.any fun (userId, _) =>
        request.map MemberPendingAdminApproval.userId = some userId) &&
      !(actions.deleteMembersPendingAdminApproval.any fun userId =>
        request.map MemberPendingAdminApproval.userId = some userId)

def serverBanned : List (Option MemberBanned) :=
  (group.membersBanned ++ actions.addMembersBanned.map some).filter fun banned =>
    !(actions.deleteMembersBanned.any fun userId => banned.map MemberBanned.userId = some userId)

def serverAccess (access : Option GroupAccessControl) : Option GroupAccessControl :=
  if actions.modifyAttributesAccess.isSome || actions.modifyMemberAccess.isSome ||
      actions.modifyAddFromInviteLinkAccess.isSome then
    let access := access.getD {}
    some { attributes := actions.modifyAttributesAccess.getD access.attributes
           members := actions.modifyMemberAccess.getD access.members
           addFromInviteLink := actions.modifyAddFromInviteLinkAccess.getD access.addFromInviteLink }
  else access

def serverApply : EncryptedGroup :=
  { title := actions.modifyTitle.getD group.title
    avatarUrl := actions.modifyAvatar.getD group.avatarUrl
    disappearingMessagesTimer := actions.modifyDisappearingMessageTimer.getD group.disappearingMessagesTimer
    accessControl := serverAccess actions group.accessControl
    version := actions.version
    members := serverMembers env group actions
    membersPendingProfileKey := serverPending env group actions
    membersPendingAdminApproval := serverRequesting env group actions
    inviteLinkPassword := actions.modifyInviteLinkPassword.getD group.inviteLinkPassword
    description := actions.modifyDescription.getD group.description
    announcementsOnly := actions.modifyAnnouncementsOnly.getD group.announcementsOnly
    membersBanned := serverBanned group actions }

end Server

end MautrixSignal.Groups
