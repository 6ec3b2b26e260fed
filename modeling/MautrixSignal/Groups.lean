import MautrixSignal.Identifiers
import MautrixSignal.Lib.Base64
import MautrixSignal.Lib.Collect

namespace MautrixSignal.Groups

open Lib

-- The characters of a Go string. Titles and descriptions are valid UTF-8, since the protobuf encoder refuses others.
abbrev Text := List Char

-- GroupMemberRole and AccessControl are int32 values, of which only these have a name.
abbrev GroupMemberRole := Int32

def groupMemberUnknown : GroupMemberRole := 0
def groupMemberDefault : GroupMemberRole := 1
def groupMemberAdministrator : GroupMemberRole := 2

abbrev AccessControl := Int32

def accessControlAdministrator : AccessControl := 3
def accessControlUnsatisfiable : AccessControl := 4

abbrev ProfileKey := Bytes
abbrev SerializedGroupMasterKey := Text
abbrev GroupIdentifier := Text
abbrev SerializedInviteLinkPassword := Text

structure GroupMember where
  aci : UUID
  role : GroupMemberRole
  profileKey : ProfileKey := []
  joinedAtRevision : UInt32 := 0
deriving DecidableEq

def GroupMember.userServiceID (member : GroupMember) : ServiceID := newACIServiceID member.aci

structure PendingMember where
  serviceID : ServiceID
  role : GroupMemberRole
  addedByUserID : UUID
  timestamp : UInt64 := 0
deriving DecidableEq

structure RequestingMember where
  aci : UUID
  profileKey : ProfileKey := []
  timestamp : UInt64 := 0
deriving DecidableEq

structure BannedMember where
  serviceID : ServiceID
  timestamp : UInt64 := 0
deriving DecidableEq

structure GroupAccessControl where
  members : AccessControl := 0
  addFromInviteLink : AccessControl := 0
  attributes : AccessControl := 0
deriving DecidableEq

structure Group where
  groupMasterKey : SerializedGroupMasterKey
  groupIdentifier : GroupIdentifier
  title : Text := []
  avatarPath : Text := []
  members : List GroupMember := []
  description : Text := []
  announcementsOnly : Bool := false
  revision : UInt32 := 0
  disappearingMessagesDuration : UInt32 := 0
  accessControl : Option GroupAccessControl := none
  pendingMembers : List PendingMember := []
  requestingMembers : List RequestingMember := []
  bannedMembers : List BannedMember := []
  inviteLinkPassword : Option SerializedInviteLinkPassword := none
deriving DecidableEq

def Group.getMemberServiceIDs (group : Group) : List ServiceID :=
  group.members.map fun member => newACIServiceID member.aci

inductive Failure where
  | error (message : String)
  | panic (message : String)
deriving DecidableEq

-- signalpb.GroupAttributeBlob, whose content may also be missing
inductive GroupAttributeBlob where
  | title (text : Text)
  | avatar (image : Bytes)
  | disappearingMessagesDuration (seconds : UInt32)
  | descriptionText (text : Text)
  | missing

namespace GroupAttributeBlob

def getTitle : GroupAttributeBlob → Text
  | title text => text
  | _ => []

def getDescriptionText : GroupAttributeBlob → Text
  | descriptionText text => text
  | _ => []

def getDisappearingMessagesDuration : GroupAttributeBlob → UInt32
  | disappearingMessagesDuration seconds => seconds
  | _ => 0

end GroupAttributeBlob

-- libsignal's group operations, the protobuf encoding of attribute blobs and Go's table of graphic characters.
-- fetchCredential is the profile request.
structure Env where
  deriveGroupSecretParams : Bytes → Except String Bytes
  getPublicParams : Bytes → Except String Bytes
  groupIdentifier : Bytes → Except String Bytes
  encryptBlobWithPadding : Bytes → Bytes → Bytes → Except String Bytes
  decryptBlobWithPadding : Bytes → Bytes → Except String Bytes
  encryptServiceID : Bytes → ServiceID → Except String Bytes
  decryptServiceID : Bytes → Bytes → Except String ServiceID
  decryptProfileKey : Bytes → Bytes → UUID → Except String ProfileKey
  createPresentation : Bytes → Bytes → Except String Bytes
  checkValidContents : Bytes → Except String Unit
  presentationUUIDCiphertext : Bytes → Except String Bytes
  presentationProfileKeyCiphertext : Bytes → Except String Bytes
  marshalBlob : GroupAttributeBlob → Except String Bytes
  unmarshalBlob : Bytes → Except String GroupAttributeBlob
  isGraphic : Char → Bool
  fetchCredential : UUID → Except String Bytes

def failed {α : Type} (result : Except String α) : Except Failure α := result.mapError .error

def masterKeyLength : ℕ := 32
def uuidCiphertextLength : ℕ := 65
def profileKeyCiphertextLength : ℕ := 65

def masterKeyToBytes (groupMasterKey : SerializedGroupMasterKey) : Except Failure Bytes :=
  match Base64.decodeChars (groupMasterKey.filter fun c => !Base64.isLineBreak c) with
  | none => .error (.panic "we should always be able to decode groupMasterKey into masterKeyBytes")
  | some bytes =>
    -- the conversion of a slice to an array panics on a short slice and cuts a long one
    if bytes.length < masterKeyLength then .error (.panic "cannot convert slice to array")
    else .ok (bytes.take masterKeyLength)

def isSpace (c : Char) : Bool :=
  c.toNat ∈ [0x9, 0xa, 0xb, 0xc, 0xd, 0x20, 0x85, 0xa0, 0x1680, 0x2028, 0x2029, 0x202f, 0x205f, 0x3000] ||
    (0x2000 ≤ c.toNat && c.toNat ≤ 0x200a)

def trimSpace (text : Text) : Text := (text.dropWhile isSpace).reverse.dropWhile isSpace |>.reverse

section Decryption

variable (env : Env)

def cleanupStringProperty (property : Text) : Text := trimSpace (property.filter env.isGraphic)

def groupIdentifierFromMasterKey (masterKey : SerializedGroupMasterKey) : Except Failure GroupIdentifier := do
  let bytes ← masterKeyToBytes masterKey
  let identifier ← failed (env.groupIdentifier bytes)
  return Base64.encodeChars identifier

variable (groupSecretParams : Bytes)

def decryptGroupPropertyIntoBlob (encryptedProperty : Bytes) :
    Except Failure GroupAttributeBlob := do
  let decryptedProperty ← failed (env.decryptBlobWithPadding groupSecretParams encryptedProperty)
  failed (env.unmarshalBlob decryptedProperty)

structure Member where
  userId : Bytes := []
  role : Int32 := 0
  profileKey : Bytes := []
  presentation : Bytes := []
  joinedAtVersion : UInt32 := 0
deriving DecidableEq

structure MemberPendingProfileKey where
  member : Option Member
  addedByUserId : Bytes := []
  timestamp : UInt64 := 0
deriving DecidableEq

structure MemberPendingAdminApproval where
  userId : Bytes := []
  profileKey : Bytes := []
  presentation : Bytes := []
  timestamp : UInt64 := 0

structure MemberBanned where
  userId : Bytes := []
  timestamp : UInt64 := 0
deriving DecidableEq

-- signalpb.Group. The entries of its lists are pointers, which may be nil.
structure EncryptedGroup where
  title : Bytes := []
  avatarUrl : Text := []
  disappearingMessagesTimer : Bytes := []
  accessControl : Option GroupAccessControl := none
  version : UInt32 := 0
  members : List (Option Member) := []
  membersPendingProfileKey : List (Option MemberPendingProfileKey) := []
  membersPendingAdminApproval : List (Option MemberPendingAdminApproval) := []
  inviteLinkPassword : Bytes := []
  description : Bytes := []
  announcementsOnly : Bool := false
  membersBanned : List (Option MemberBanned) := []

def ciphertextsOfMember (userID profileKeyBytes presentation : Bytes) : Except Failure (Bytes × Bytes) :=
  if userID.length = uuidCiphertextLength ∧ profileKeyBytes.length = profileKeyCiphertextLength then
    .ok (userID, profileKeyBytes)
  else if presentation.length > 0 then do
    failed (env.checkValidContents presentation)
    let encryptedUserID ← failed (env.presentationUUIDCiphertext presentation)
    let encryptedProfileKey ← failed (env.presentationProfileKeyCiphertext presentation)
    return (encryptedUserID, encryptedProfileKey)
  else .error (.error "invalid member: missing profile key and presentation")

def decryptPKeyAndIDorPresentation (userID profileKeyBytes presentation : Bytes) :
    Except Failure (UUID × ProfileKey) := do
  let (encryptedUserID, encryptedProfileKey) ← ciphertextsOfMember env userID profileKeyBytes presentation
  let serviceID ← failed (env.decryptServiceID groupSecretParams encryptedUserID)
  let profileKey ← failed (env.decryptProfileKey groupSecretParams encryptedProfileKey serviceID.uuid)
  if serviceID.type = serviceIDTypePNI then
    .error (.error "wrong serviceid kind for profile key: expected ACI, got PNI")
  else return (serviceID.uuid, profileKey)

def decryptMember (member : Member) : Except Failure GroupMember := do
  let (aci, profileKey) ← decryptPKeyAndIDorPresentation env groupSecretParams member.userId member.profileKey
    member.presentation
  return { aci, profileKey, role := member.role, joinedAtRevision := member.joinedAtVersion }

def decryptPendingMember (pendingMember : MemberPendingProfileKey) :
    Except Failure PendingMember :=
  match pendingMember.member with
  | none => .error (.panic "nil pointer dereference")
  | some member =>
    if member.userId.length ≠ uuidCiphertextLength then
      .error (.error "invalid pending member user ID length")
    else do
      let userID ← failed (env.decryptServiceID groupSecretParams member.userId)
      if pendingMember.addedByUserId.length ≠ uuidCiphertextLength then
        .error (.error "invalid pending member addedByUserId length")
      else do
        let addedBy ← failed (env.decryptServiceID groupSecretParams pendingMember.addedByUserId)
        return { serviceID := userID, role := member.role, addedByUserID := addedBy.uuid,
                 timestamp := pendingMember.timestamp }

def decryptRequestingMember (requestingMember : MemberPendingAdminApproval) :
    Except Failure RequestingMember := do
  let (aci, profileKey) ← decryptPKeyAndIDorPresentation env groupSecretParams requestingMember.userId
    requestingMember.profileKey requestingMember.presentation
  return { aci, profileKey, timestamp := requestingMember.timestamp }

-- The four loops of decryptGroup. A nil entry is passed over; a pending member that does not decrypt too.
def visitMember : Option Member → Except Failure (Option GroupMember)
  | none => .ok none
  | some member => some <$> decryptMember env groupSecretParams member

def visitPendingMember :
    Option MemberPendingProfileKey → Except Failure (Option PendingMember)
  | none => .ok none
  | some pendingMember =>
    match decryptPendingMember env groupSecretParams pendingMember with
    | .ok decrypted => .ok (some decrypted)
    | .error (.error _) => .ok none
    | .error (.panic message) => .error (.panic message)

def visitRequestingMember :
    Option MemberPendingAdminApproval → Except Failure (Option RequestingMember)
  | none => .ok none
  | some requestingMember => some <$> decryptRequestingMember env groupSecretParams requestingMember

def visitBannedMember : Option MemberBanned → Except Failure (Option BannedMember)
  | none => .ok none
  | some bannedMember =>
    if bannedMember.userId.length ≠ uuidCiphertextLength then .ok none
    else do
      let serviceID ← failed (env.decryptServiceID groupSecretParams bannedMember.userId)
      return some { serviceID, timestamp := bannedMember.timestamp }

-- A failure in obtaining the description is not fatal.
def decryptDescription (encryptedDescription : Bytes) : Text :=
  match decryptGroupPropertyIntoBlob env groupSecretParams encryptedDescription with
  | .ok blob => cleanupStringProperty env blob.getDescriptionText
  | .error _ => []

def decryptTimer (encryptedTimer : Bytes) : Except Failure UInt32 :=
  if encryptedTimer.length > 0 then do
    let blob ← decryptGroupPropertyIntoBlob env groupSecretParams encryptedTimer
    return blob.getDisappearingMessagesDuration
  else .ok 0

def inviteLinkPasswordFromBytes (inviteLinkPassword : Bytes) : SerializedInviteLinkPassword :=
  Base64.encodeChars inviteLinkPassword

def decryptGroup (encryptedGroup : EncryptedGroup) (groupMasterKey : SerializedGroupMasterKey) :
    Except Failure Group := do
  let masterKeyBytes ← masterKeyToBytes groupMasterKey
  let groupSecretParams ← failed (env.deriveGroupSecretParams masterKeyBytes)
  let groupIdentifier ← groupIdentifierFromMasterKey env groupMasterKey
  let titleBlob ← decryptGroupPropertyIntoBlob env groupSecretParams encryptedGroup.title
  let timer ← decryptTimer env groupSecretParams encryptedGroup.disappearingMessagesTimer
  let members ← collect (visitMember env groupSecretParams) encryptedGroup.members
  let pendingMembers ← collect (visitPendingMember env groupSecretParams) encryptedGroup.membersPendingProfileKey
  let requestingMembers ←
    collect (visitRequestingMember env groupSecretParams) encryptedGroup.membersPendingAdminApproval
  let bannedMembers ← collect (visitBannedMember env groupSecretParams) encryptedGroup.membersBanned
  return {
    groupMasterKey
    groupIdentifier
    title := cleanupStringProperty env titleBlob.getTitle
    description := decryptDescription env groupSecretParams encryptedGroup.description
    disappearingMessagesDuration := timer
    avatarPath := encryptedGroup.avatarUrl
    revision := encryptedGroup.version
    members
    pendingMembers
    requestingMembers
    bannedMembers
    accessControl := encryptedGroup.accessControl
    inviteLinkPassword :=
      if encryptedGroup.inviteLinkPassword.length > 0 then
        some (inviteLinkPasswordFromBytes encryptedGroup.inviteLinkPassword)
      else none }

end Decryption

end MautrixSignal.Groups
