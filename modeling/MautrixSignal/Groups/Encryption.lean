import MautrixSignal.Groups

namespace MautrixSignal.Groups

open Lib

section Encryption

variable (env : Env)

variable (groupSecretParams : Bytes)

def encryptBlobIntoGroupProperty (randomness : Bytes) (attributeBlob : GroupAttributeBlob) :
    Except Failure Bytes := do
  let decryptedProperty ← failed (env.marshalBlob attributeBlob)
  failed (env.encryptBlobWithPadding groupSecretParams randomness decryptedProperty)

def encryptPendingMember (pendingMember : PendingMember) :
    Except Failure MemberPendingProfileKey := do
  let encryptedUserID ← failed (env.encryptServiceID groupSecretParams pendingMember.serviceID)
  let encryptedAddedByUserID ←
    failed (env.encryptServiceID groupSecretParams (newACIServiceID pendingMember.addedByUserID))
  return { addedByUserId := encryptedAddedByUserID
           member := some { userId := encryptedUserID, role := pendingMember.role } }

-- The callers log the error of encryptMember and go on with the two pointers it returns.
def encryptMember (ownACI : UUID) (groupSecretParams : Bytes) (member : GroupMember) :
    Option Member × Option MemberPendingProfileKey :=
  match env.fetchCredential member.aci with
  | .error _ =>
    (none, (encryptPendingMember env groupSecretParams
      { serviceID := member.userServiceID, role := member.role, addedByUserID := ownACI }).toOption)
  | .ok credential =>
    match env.createPresentation groupSecretParams credential with
    | .error _ => (none, none)
    | .ok presentation => (some { presentation, role := member.role }, none)

def pendingEntry : Option Member × Option MemberPendingProfileKey → Option (Option MemberPendingProfileKey)
  | (some _, _) => none
  | (none, encryptedPendingMember) => some encryptedPendingMember

def encryptDescription (randomness : Bytes) (description : Text) : Except Failure Bytes :=
  if description ≠ [] then
    encryptBlobIntoGroupProperty env groupSecretParams randomness (.descriptionText description)
  else .ok []

def newInviteLinkPassword (password : Bytes) : Option GroupAccessControl → Bytes
  | some accessControl => if accessControl.addFromInviteLink ≠ accessControlUnsatisfiable then password else []
  | none => []

def encryptGroup (ownACI : UUID) (randomness : ℕ → Bytes) (group : Group) (groupSecretParams : Bytes) :
    Except Failure EncryptedGroup := do
  let encryptedTitle ←
    encryptBlobIntoGroupProperty env groupSecretParams (randomness 0) (.title group.title)
  let _ ← failed (env.getPublicParams groupSecretParams)
  let encryptedDescription ← encryptDescription env groupSecretParams (randomness 1) group.description
  let encryptedMembers := group.members.map (encryptMember env ownACI groupSecretParams)
  let encryptedPendingMembers ←
    collect (fun pendingMember => some <$> encryptPendingMember env groupSecretParams pendingMember)
      group.pendingMembers
  return {
    title := encryptedTitle
    avatarUrl := group.avatarPath
    announcementsOnly := group.announcementsOnly
    version := 0
    description := encryptedDescription
    accessControl := group.accessControl
    inviteLinkPassword := newInviteLinkPassword (randomness 2) group.accessControl
    members := (encryptedMembers.filterMap Prod.fst).map some
    membersPendingProfileKey :=
      encryptedMembers.filterMap pendingEntry ++ encryptedPendingMembers.map some }

end Encryption

-- Group encryption and decryption are inverse, an empty blob does not decrypt, and the presentation of a
-- credential names its account.
structure Inverse (env : Env) (groupSecretParams : Bytes) : Prop where
  publicParams : ∃ publicParams, env.getPublicParams groupSecretParams = .ok publicParams
  marshal : ∀ blob, ∃ bytes, env.marshalBlob blob = .ok bytes ∧ env.unmarshalBlob bytes = .ok blob
  blob : ∀ randomness plaintext, ∃ ciphertext,
    env.encryptBlobWithPadding groupSecretParams randomness plaintext = .ok ciphertext ∧
      env.decryptBlobWithPadding groupSecretParams ciphertext = .ok plaintext
  empty_blob : ∃ message, env.decryptBlobWithPadding groupSecretParams [] = .error message
  serviceID : ∀ serviceID, ∃ ciphertext, env.encryptServiceID groupSecretParams serviceID = .ok ciphertext ∧
    ciphertext.length = uuidCiphertextLength ∧
      env.decryptServiceID groupSecretParams ciphertext = .ok serviceID
  presentation : ∀ aci credential, env.fetchCredential aci = .ok credential →
    ∃ presentation encryptedUserID encryptedProfileKey profileKey,
      env.createPresentation groupSecretParams credential = .ok presentation ∧ presentation ≠ [] ∧
      env.checkValidContents presentation = .ok () ∧
      env.presentationUUIDCiphertext presentation = .ok encryptedUserID ∧
      env.presentationProfileKeyCiphertext presentation = .ok encryptedProfileKey ∧
      env.decryptServiceID groupSecretParams encryptedUserID = .ok (newACIServiceID aci) ∧
      env.decryptProfileKey groupSecretParams encryptedProfileKey aci = .ok profileKey

def hasCredential (env : Env) (aci : UUID) : Bool :=
  match env.fetchCredential aci with
  | .ok _ => true
  | .error _ => false

section RoundTrip

variable {env : Env} {params : Bytes}

@[simp] theorem failed_ok {α : Type} (a : α) : failed (.ok a) = .ok a := rfl

@[simp] theorem failed_error {α : Type} (message : String) :
    failed (.error message : Except String α) = .error (.error message) := rfl

@[simp] theorem failed_eq_ok_iff {α : Type} {result : Except String α} {a : α} :
    failed result = .ok a ↔ result = .ok a := by
  cases result with
  | error message => simp
  | ok a' => simp

theorem hasCredential_iff {aci : UUID} :
    hasCredential env aci = true ↔ ∃ credential, env.fetchCredential aci = .ok credential := by
  unfold hasCredential
  cases env.fetchCredential aci <;> simp

def invited (ownACI : UUID) (member : GroupMember) : PendingMember :=
  { serviceID := member.userServiceID, role := member.role, addedByUserID := ownACI }

section

variable (h : Inverse env params)

include h

theorem Inverse.blob_returned (randomness : Bytes) (blob : GroupAttributeBlob) : ∃ encrypted,
      encryptBlobIntoGroupProperty env params randomness blob = .ok encrypted ∧
        decryptGroupPropertyIntoBlob env params encrypted = .ok blob := by
  obtain ⟨bytes, hmarshal, hunmarshal⟩ := h.marshal blob
  obtain ⟨encrypted, henc, hdec⟩ := h.blob randomness bytes
  refine ⟨encrypted, ?_, ?_⟩
  · simp [encryptBlobIntoGroupProperty, hmarshal, henc, bind, Except.bind]
  · simp [decryptGroupPropertyIntoBlob, hdec, hunmarshal, bind, Except.bind]

theorem Inverse.description_returned (randomness : Bytes) (description : Text) : ∃ encrypted,
      encryptDescription env params randomness description = .ok encrypted ∧
        decryptDescription env params encrypted = cleanupStringProperty env description := by
  by_cases hemp : description = []
  · obtain ⟨message, hmsg⟩ := h.empty_blob
    refine ⟨[], by simp [encryptDescription, hemp], ?_⟩
    simp [decryptDescription, decryptGroupPropertyIntoBlob, hmsg, bind, Except.bind, hemp,
      cleanupStringProperty, trimSpace]
  · obtain ⟨encrypted, henc, hdec⟩ := h.blob_returned randomness (.descriptionText description)
    refine ⟨encrypted, by simp [encryptDescription, hemp, henc], ?_⟩
    simp [decryptDescription, hdec, GroupAttributeBlob.getDescriptionText]

theorem Inverse.pending_returned (pendingMember : PendingMember) :
    ∃ encrypted, encryptPendingMember env params pendingMember = .ok encrypted ∧
      visitPendingMember env params (some encrypted) =
        .ok (some { pendingMember with timestamp := 0 }) := by
  obtain ⟨userID, huser, hlen, hdec⟩ := h.serviceID pendingMember.serviceID
  obtain ⟨addedBy, hadd, hlen', hdec'⟩ := h.serviceID (newACIServiceID pendingMember.addedByUserID)
  refine ⟨_, by simp [encryptPendingMember, huser, hadd]; rfl, ?_⟩
  simp [visitPendingMember, decryptPendingMember, hlen, hlen', hdec, hdec', bind, Except.bind,
    pure, Except.pure, newACIServiceID]

variable (ownACI : UUID)

theorem Inverse.member_returned (member : GroupMember) (hcred : hasCredential env member.aci = true) :
    ∃ encrypted profileKey, encryptMember env ownACI params member = (some encrypted, none) ∧
      visitMember env params (some encrypted) =
        .ok (some { aci := member.aci, role := member.role, profileKey, joinedAtRevision := 0 }) := by
  obtain ⟨credential, hfetch⟩ := hasCredential_iff.mp hcred
  obtain ⟨presentation, userID, encryptedKey, profileKey, hcreate, hne, hcheck, huser, hkey, hdec,
    hdec'⟩ := h.presentation member.aci credential hfetch
  refine ⟨_, profileKey, by simp [encryptMember, hfetch, hcreate]; rfl, ?_⟩
  have hpos := List.length_pos_iff.mpr hne
  have htype : serviceIDTypeACI ≠ serviceIDTypePNI := by decide
  simp [visitMember, decryptMember, decryptPKeyAndIDorPresentation, ciphertextsOfMember, uuidCiphertextLength,
    hpos,
    hcheck, huser, hkey, hdec, newACIServiceID, hdec', htype, bind, Except.bind, pure, Except.pure]

theorem Inverse.member_invited (member : GroupMember) (hcred : hasCredential env member.aci = false) :
    ∃ encrypted, encryptMember env ownACI params member = (none, some encrypted) ∧
      visitPendingMember env params (some encrypted) = .ok (some (invited ownACI member)) := by
  cases hfetch : env.fetchCredential member.aci with
  | ok credential => simp [hasCredential, hfetch] at hcred
  | error message =>
    obtain ⟨encrypted, henc, hvisit⟩ := h.pending_returned (invited ownACI member)
    rw [invited] at henc
    exact ⟨encrypted, by simp [encryptMember, hfetch, henc, Except.toOption], hvisit⟩

theorem Inverse.members_returned (members : List GroupMember) : ∃ decrypted, collect (visitMember env params)
        (((members.map (encryptMember env ownACI params)).filterMap Prod.fst).map some) = .ok decrypted ∧
      decrypted.map (fun member => (member.aci, member.role)) =
        (members.filter fun member => hasCredential env member.aci).map fun member => (member.aci, member.role) := by
  induction members with
  | nil => exact ⟨[], rfl, rfl⟩
  | cons member members ih =>
    obtain ⟨decrypted, hcollect, hmap⟩ := ih
    cases hcred : hasCredential env member.aci with
    | true =>
      obtain ⟨encrypted, profileKey, henc, hvisit⟩ := h.member_returned ownACI member hcred
      refine ⟨{ aci := member.aci, role := member.role, profileKey } :: decrypted, ?_, ?_⟩
      · simp only [List.map_cons, henc, List.filterMap_cons, collect, hvisit, hcollect]
        rfl
      · simp [hcred, hmap]
    | false =>
      obtain ⟨encrypted, henc, -⟩ := h.member_invited ownACI member hcred
      refine ⟨decrypted, ?_, ?_⟩
      · simpa [henc] using hcollect
      · simp [hcred, hmap]

theorem Inverse.invited_returned (members : List GroupMember) :
    collect (visitPendingMember env params)
        ((members.map (encryptMember env ownACI params)).filterMap pendingEntry) =
      .ok ((members.filter fun member => !hasCredential env member.aci).map (invited ownACI)) := by
  induction members with
  | nil => rfl
  | cons member members ih =>
    cases hcred : hasCredential env member.aci with
    | true =>
      obtain ⟨encrypted, profileKey, henc, -⟩ := h.member_returned ownACI member hcred
      simp only [List.map_cons, henc, List.filterMap_cons, pendingEntry, ih, List.filter_cons, hcred,
        Bool.not_true, Bool.false_eq_true, if_false]
    | false =>
      obtain ⟨encrypted, henc, hvisit⟩ := h.member_invited ownACI member hcred
      simp only [List.map_cons, henc, List.filterMap_cons, pendingEntry, collect, hvisit, ih,
        List.filter_cons, hcred]
      rfl

theorem Inverse.pendings_returned (pendingMembers : List PendingMember) : ∃ encrypted,
      collect (fun pending => some <$> encryptPendingMember env params pending) pendingMembers = .ok encrypted ∧
      collect (visitPendingMember env params) (encrypted.map some) =
        .ok (pendingMembers.map fun pending => { pending with timestamp := 0 }) := by
  apply collect_collect
  intro pending _
  obtain ⟨encrypted, henc, hvisit⟩ := h.pending_returned pending
  exact ⟨encrypted, by rw [henc]; rfl, hvisit⟩

end

theorem decryptGroup_eq_ok (encrypted : EncryptedGroup) {groupMasterKey : SerializedGroupMasterKey}
    {masterKey groupIdentifier : Bytes} {titleBlob : GroupAttributeBlob} {timer : UInt32}
    {members : List GroupMember} {pendingMembers : List PendingMember}
    {requestingMembers : List RequestingMember} {bannedMembers : List BannedMember}
    (hmaster : masterKeyToBytes groupMasterKey = .ok masterKey)
    (hpar : env.deriveGroupSecretParams masterKey = .ok params)
    (hid : env.groupIdentifier masterKey = .ok groupIdentifier)
    (htitle : decryptGroupPropertyIntoBlob env params encrypted.title = .ok titleBlob)
    (htimer : decryptTimer env params encrypted.disappearingMessagesTimer = .ok timer)
    (hmems : collect (visitMember env params) encrypted.members = .ok members)
    (hpend : collect (visitPendingMember env params) encrypted.membersPendingProfileKey =
      .ok pendingMembers)
    (hrequesting : collect (visitRequestingMember env params) encrypted.membersPendingAdminApproval =
      .ok requestingMembers)
    (hbanned : collect (visitBannedMember env params) encrypted.membersBanned = .ok bannedMembers) :
    ∃ decrypted, decryptGroup env encrypted groupMasterKey = .ok decrypted ∧
      decrypted.title = cleanupStringProperty env titleBlob.getTitle ∧
      decrypted.description = decryptDescription env params encrypted.description ∧
      decrypted.disappearingMessagesDuration = timer ∧ decrypted.members = members ∧
      decrypted.pendingMembers = pendingMembers ∧ decrypted.requestingMembers = requestingMembers ∧
      decrypted.bannedMembers = bannedMembers ∧ decrypted.accessControl = encrypted.accessControl ∧
      decrypted.announcementsOnly = false ∧ decrypted.revision = encrypted.version := by
  refine ⟨?decrypted, ?decrypt, ?rest⟩
  case decrypt =>
    simp only [decryptGroup, groupIdentifierFromMasterKey, hmaster, hpar, hid, htitle, htimer,
      failed_ok, hmems, hpend, hrequesting, hbanned, bind, Except.bind]
    rfl
  case rest => exact ⟨rfl, rfl, rfl, rfl, rfl, rfl, rfl, rfl, rfl, rfl⟩

-- Reading back an encrypted group gives its title and description without non-graphic characters and
-- surrounding white space, and its members, of whom those without a credential come back as pending.
theorem decryptGroup_encryptGroup (h : Inverse env groupSecretParams) (group : Group)
    {masterKey groupIdentifier : Bytes} (hmaster : masterKeyToBytes group.groupMasterKey = .ok masterKey)
    (hpar : env.deriveGroupSecretParams masterKey = .ok groupSecretParams)
    (hid : env.groupIdentifier masterKey = .ok groupIdentifier) (ownACI : UUID)
    (randomness : ℕ → Bytes) :
    ∃ encrypted decrypted, encryptGroup env ownACI randomness group groupSecretParams = .ok encrypted ∧
      decryptGroup env encrypted group.groupMasterKey = .ok decrypted ∧
      decrypted.title = cleanupStringProperty env group.title ∧
      decrypted.description = cleanupStringProperty env group.description ∧
      decrypted.accessControl = group.accessControl ∧
      decrypted.members.map (fun member => (member.aci, member.role)) =
        (group.members.filter fun member => hasCredential env member.aci).map
          (fun member => (member.aci, member.role)) ∧
      decrypted.pendingMembers.map (fun pending => (pending.serviceID, pending.role)) =
        ((group.members.filter fun member => !hasCredential env member.aci).map
            fun member => (member.userServiceID, member.role)) ++
          group.pendingMembers.map fun pending => (pending.serviceID, pending.role) := by
  obtain ⟨encryptedTitle, htitle, htitle'⟩ := h.blob_returned (randomness 0) (.title group.title)
  obtain ⟨publicParams, hpublic⟩ := h.publicParams
  obtain ⟨encryptedDescription, hdesc, hdesc'⟩ :=
    h.description_returned (randomness 1) group.description
  obtain ⟨encryptedPending, hpend, hpend'⟩ := h.pendings_returned group.pendingMembers
  obtain ⟨members, hmems, hmembers'⟩ := h.members_returned ownACI group.members
  have hinvited := h.invited_returned ownACI group.members
  obtain ⟨encrypted, henc⟩ : ∃ encrypted,
      encryptGroup env ownACI randomness group groupSecretParams = .ok encrypted :=
    ⟨_, by simp only [encryptGroup, htitle, hpublic, hdesc, hpend]; rfl⟩
  have heq := henc
  simp only [encryptGroup, htitle, hpublic, hdesc, hpend] at heq
  replace heq := Except.ok.inj heq
  obtain ⟨decrypted, hdec, h1, h2, -, h4, h5, -, -, h8, -, -⟩ := decryptGroup_eq_ok encrypted hmaster hpar
    hid (by rw [← heq]; exact htitle') (by rw [← heq]; rfl) (by rw [← heq]; exact hmems)
      (by rw [← heq]; exact collect_append hinvited hpend') (by rw [← heq]; rfl) (by rw [← heq]; rfl)
  rw [← heq] at h2 h8
  refine ⟨encrypted, decrypted, henc, hdec, h1, h2.trans hdesc', h8, ?_, ?_⟩
  · rw [h4]
    exact hmembers'
  · rw [h5]
    simp [invited, Function.comp_def]

end RoundTrip

-- Ciphertexts are the plain values, padded to their lengths. The accounts of a list have a credential, and
-- printable ASCII is graphic.

def textBytes (text : Text) : Bytes :=
  text.flatMap fun c =>
    [UInt8.ofNat (c.toNat % 256), UInt8.ofNat (c.toNat / 256 % 256), UInt8.ofNat (c.toNat / 65536)]

def bytesText : Bytes → Text
  | a :: b :: c :: rest => Char.ofNat (a.toNat + 256 * b.toNat + 65536 * c.toNat) :: bytesText rest
  | _ => []

theorem bytesText_textBytes (text : Text) : bytesText (textBytes text) = text := by
  induction text with
  | nil => rfl
  | cons c text ih =>
    have hbound : c.toNat < 256 * 65536 := by
      have hvalid := c.valid
      have htoNat : c.toNat = c.val.toNat := rfl
      omega
    have hsum : (UInt8.ofNat (c.toNat % 256)).toNat + 256 * (UInt8.ofNat (c.toNat / 256 % 256)).toNat +
        65536 * (UInt8.ofNat (c.toNat / 65536)).toNat = c.toNat := by
      simp only [UInt8.toNat_ofNat']
      omega
    change bytesText (_ :: _ :: _ :: textBytes text) = c :: text
    rw [bytesText, hsum, Char.ofNat_toNat, ih]

def plainMarshal : GroupAttributeBlob → Bytes
  | .title text => 0 :: textBytes text
  | .avatar image => 1 :: image
  | .disappearingMessagesDuration seconds => 2 :: List.replicate seconds.toNat 0
  | .descriptionText text => 3 :: textBytes text
  | .missing => []

def plainUnmarshal : Bytes → GroupAttributeBlob
  | 0 :: rest => .title (bytesText rest)
  | 1 :: rest => .avatar rest
  | 2 :: rest => .disappearingMessagesDuration (UInt32.ofNat rest.length)
  | 3 :: rest => .descriptionText (bytesText rest)
  | _ => .missing

theorem plainUnmarshal_plainMarshal (blob : GroupAttributeBlob) : plainUnmarshal (plainMarshal blob) = blob := by
  cases blob <;> simp [plainMarshal, plainUnmarshal, bytesText_textBytes]

def plainServiceID (serviceID : ServiceID) : Bytes :=
  serviceID.type :: (serviceID.uuid.bytes ++ List.replicate 48 0)

def readServiceID (ciphertext : Bytes) : Except String ServiceID :=
  if h : ((ciphertext.drop 1).take 16).length = 16 then
    let serviceID : ServiceID := ⟨ciphertext.headD 0, ⟨(ciphertext.drop 1).take 16, h⟩⟩
    if plainServiceID serviceID = ciphertext then .ok serviceID else .error "VerificationFailure"
  else .error "VerificationFailure"

theorem readServiceID_plainServiceID (serviceID : ServiceID) :
    readServiceID (plainServiceID serviceID) = .ok serviceID := by
  have htake : ((plainServiceID serviceID).drop 1).take 16 = serviceID.uuid.bytes := by
    simp [plainServiceID, serviceID.uuid.length_eq]
  have hlen : (((plainServiceID serviceID).drop 1).take 16).length = 16 := by
    rw [htake]
    exact serviceID.uuid.length_eq
  have hread : (⟨(plainServiceID serviceID).headD 0, ⟨((plainServiceID serviceID).drop 1).take 16, hlen⟩⟩ :
      ServiceID) = serviceID := by
    congr
  unfold readServiceID
  rw [dif_pos hlen]
  simp only [hread, if_true]

def plainEnv (credentialed : List UUID) : Env where
  deriveGroupSecretParams masterKey := .ok masterKey
  getPublicParams params := .ok params
  groupIdentifier masterKey := .ok masterKey
  encryptBlobWithPadding _ _ plaintext := .ok (0 :: plaintext)
  decryptBlobWithPadding _ ciphertext :=
    match ciphertext with
    | [] => .error "VerificationFailure"
    | _ :: plaintext => .ok plaintext
  encryptServiceID _ serviceID := .ok (plainServiceID serviceID)
  decryptServiceID _ ciphertext := readServiceID ciphertext
  decryptProfileKey _ _ aci := .ok (aci.bytes ++ aci.bytes)
  createPresentation _ credential := .ok credential
  checkValidContents _ := .ok ()
  presentationUUIDCiphertext presentation := .ok presentation
  presentationProfileKeyCiphertext _ := .ok (List.replicate profileKeyCiphertextLength 0)
  marshalBlob blob := .ok (plainMarshal blob)
  unmarshalBlob bytes := .ok (plainUnmarshal bytes)
  isGraphic c := 0x20 ≤ c.toNat && c.toNat ≤ 0x7e
  fetchCredential aci :=
    if aci ∈ credentialed then .ok (plainServiceID (newACIServiceID aci))
    else .error "profile key not found"

theorem plainEnv_inverse (credentialed : List UUID) (params : Bytes) : Inverse (plainEnv credentialed) params where
  publicParams := ⟨params, rfl⟩
  marshal blob := ⟨plainMarshal blob, rfl, congrArg Except.ok (plainUnmarshal_plainMarshal blob)⟩
  blob _ plaintext := ⟨0 :: plaintext, rfl, rfl⟩
  empty_blob := ⟨"VerificationFailure", rfl⟩
  serviceID serviceID := by
    refine ⟨plainServiceID serviceID, rfl, ?_, readServiceID_plainServiceID serviceID⟩
    simp [plainServiceID, serviceID.uuid.length_eq, uuidCiphertextLength]
  presentation aci credential hfetch := by
    have hcred : plainServiceID (newACIServiceID aci) = credential := by
      simp only [plainEnv] at hfetch
      split at hfetch
      · exact Except.ok.inj hfetch
      · cases hfetch
    refine ⟨credential, credential, _, aci.bytes ++ aci.bytes, rfl, ?_, rfl, rfl, rfl, ?_, rfl⟩
    · rw [← hcred]
      exact List.cons_ne_nil _ _
    · rw [← hcred]
      exact readServiceID_plainServiceID _

def plainMasterKey : SerializedGroupMasterKey := Base64.encodeChars (List.replicate masterKeyLength 0)

theorem masterKeyToBytes_plainMasterKey : masterKeyToBytes plainMasterKey = .ok (List.replicate masterKeyLength 0) := by
  decide +kernel

def newGroup : Group :=
  { groupMasterKey := plainMasterKey
    groupIdentifier := plainMasterKey
    title := ['A', ' ']
    members := [{ aci := UUID.ofByte 1, role := groupMemberAdministrator },
      { aci := UUID.ofByte 2, role := groupMemberDefault }] }

theorem decryptGroup_encryptGroup_newGroup : ∃ encrypted decrypted,
    encryptGroup (plainEnv [UUID.ofByte 1]) (UUID.ofByte 1) (fun _ => []) newGroup
      (List.replicate masterKeyLength 0) = .ok encrypted ∧
    decryptGroup (plainEnv [UUID.ofByte 1]) encrypted newGroup.groupMasterKey = .ok decrypted ∧
    decrypted.title = ['A'] ∧ decrypted.pendingMembers.map (fun pending => (pending.serviceID, pending.role)) =
      [(newACIServiceID (UUID.ofByte 2), groupMemberDefault)] := by
  obtain ⟨encrypted, decrypted, henc, hdec, htitle, -, -, -, hpend⟩ :=
    decryptGroup_encryptGroup (plainEnv_inverse [UUID.ofByte 1] (List.replicate masterKeyLength 0))
      newGroup masterKeyToBytes_plainMasterKey rfl rfl (UUID.ofByte 1) (fun _ => [])
  refine ⟨encrypted, decrypted, henc, hdec, ?_, ?_⟩
  · rw [htitle]
    decide +kernel
  · rw [hpend]
    decide +kernel

-- Decryption cleans the title up with cleanupStringProperty, which trims white space.
theorem padded_title_trimmed : ∃ encrypted decrypted,
    Inverse (plainEnv [UUID.ofByte 1]) (List.replicate masterKeyLength 0) ∧
    encryptGroup (plainEnv [UUID.ofByte 1]) (UUID.ofByte 1) (fun _ => []) newGroup
      (List.replicate masterKeyLength 0) = .ok encrypted ∧
    decryptGroup (plainEnv [UUID.ofByte 1]) encrypted newGroup.groupMasterKey = .ok decrypted ∧
    decrypted.title ≠ newGroup.title := by
  refine ⟨_, _, plainEnv_inverse _ _, rfl, rfl, ?_⟩
  decide +kernel

end MautrixSignal.Groups
