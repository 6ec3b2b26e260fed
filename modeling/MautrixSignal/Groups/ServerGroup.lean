import MautrixSignal.Groups.Changes

namespace MautrixSignal.Groups

open Lib List

-- What libsignal promises beyond inverse operations: a service ID has one ciphertext in a group, and the profile
-- key ciphertext of a presentation has its fixed length.
structure Canonical (env : Env) (params : Bytes) : Prop where
  unique : ∀ ciphertext serviceID, env.decryptServiceID params ciphertext = .ok serviceID →
    env.encryptServiceID params serviceID = .ok ciphertext
  profileKey_length : ∀ presentation ciphertext,
    env.presentationProfileKeyCiphertext presentation = .ok ciphertext →
      ciphertext.length = profileKeyCiphertextLength

section Sent

variable (env : Env) (params : Bytes)

def cipher (serviceID : ServiceID) : Bytes :=
  (env.encryptServiceID params serviceID).toOption.getD []

def presentationOf (aci : UUID) : Bytes := (presentationFor env params aci).toOption.getD []

def PropertySent : Option Bytes → Option GroupAttributeBlob → Prop
  | sent, none => sent = none
  | sent, some blob => ∃ ciphertext, sent = some ciphertext ∧
      decryptGroupPropertyIntoBlob env params ciphertext = .ok blob

structure Sent (ownACI : UUID) (change : GroupChange) (actions : Actions) : Prop where
  version : actions.version = change.revision
  title : PropertySent env params actions.modifyTitle (change.modifyTitle.map .title)
  description : PropertySent env params actions.modifyDescription
    (change.modifyDescription.map .descriptionText)
  timer : PropertySent env params actions.modifyDisappearingMessageTimer
    (change.modifyDisappearingMessagesDuration.map .disappearingMessagesDuration)
  addMembers : actions.addMembers.map Prod.fst =
    (change.addMembers.filter fun member => hasCredential env member.aci).map fun member =>
      { presentation := presentationOf env params member.aci, role := member.role }
  deleteMembers : actions.deleteMembers =
    change.deleteMembers.map fun aci => cipher env params (newACIServiceID aci)
  modifyMemberRoles : actions.modifyMemberRoles =
    change.modifyMemberRoles.map fun rm => (cipher env params (newACIServiceID rm.aci), rm.role)
  addPending : ∃ invites added,
    actions.addMembersPendingProfileKey = invites ++ added ∧
    collect (visitPendingMember env params) invites =
      .ok ((change.addMembers.filter fun member => !hasCredential env member.aci).map fun member =>
        invited ownACI member.toGroupMember) ∧
    collect (visitPendingMember env params) added =
      .ok (change.addPendingMembers.map fun pending => { pending with timestamp := 0 })
  deletePending : actions.deleteMembersPendingProfileKey =
    change.deletePendingMembers.map (cipher env params)
  promotePending : actions.promoteMembersPendingProfileKey =
    change.promotePendingMembers.map fun promo => presentationOf env params promo.aci
  promote_credential : ∀ promo ∈ change.promotePendingMembers, hasCredential env promo.aci = true
  addRequesting : actions.addMembersPendingAdminApproval =
    change.addRequestingMembers.map fun requesting => presentationOf env params requesting.aci
  request_credential : ∀ requesting ∈ change.addRequestingMembers, hasCredential env requesting.aci = true
  deleteRequesting : actions.deleteMembersPendingAdminApproval =
    change.deleteRequestingMembers.map fun aci => cipher env params (newACIServiceID aci)
  promoteRequesting : actions.promoteMembersPendingAdminApproval =
    change.promoteRequestingMembers.map fun promo =>
      (cipher env params (newACIServiceID promo.aci), promo.role)
  addBanned : actions.addMembersBanned =
    change.addBannedMembers.map fun banned =>
      { userId := cipher env params banned.serviceID, timestamp := banned.timestamp }
  deleteBanned : actions.deleteMembersBanned =
    change.deleteBannedMembers.map (cipher env params)
  announcementsOnly : actions.modifyAnnouncementsOnly = change.modifyAnnouncementsOnly
  attributesAccess : actions.modifyAttributesAccess = change.modifyAttributesAccess
  memberAccess : actions.modifyMemberAccess = change.modifyMemberAccess
  inviteLinkAccess : actions.modifyAddFromInviteLinkAccess = change.modifyAddFromInviteLinkAccess

end Sent

section SentLemmas

variable {env : Env} {params : Bytes}

section

variable (h : Inverse env params) (serviceID : ServiceID)

include h

theorem Inverse.encrypt_eq : env.encryptServiceID params serviceID = .ok (cipher env params serviceID) := by
  obtain ⟨ciphertext, henc, -⟩ := h.serviceID serviceID
  simp [cipher, henc, Except.toOption]

theorem Inverse.cipher_length : (cipher env params serviceID).length = uuidCiphertextLength := by
  obtain ⟨ciphertext, henc, hlen, -⟩ := h.serviceID serviceID
  simp [cipher, henc, Except.toOption, hlen]

theorem Inverse.decrypt_cipher : env.decryptServiceID params (cipher env params serviceID) = .ok serviceID := by
  obtain ⟨ciphertext, henc, -, hdec⟩ := h.serviceID serviceID
  simp [cipher, henc, Except.toOption, hdec]

end

theorem eq_cipher_iff (h : Inverse env params) (hcanon : Canonical env params)
    {ciphertext : Bytes} {serviceID : ServiceID}
    (hdec : env.decryptServiceID params ciphertext = .ok serviceID) (serviceID' : ServiceID) :
    ciphertext = cipher env params serviceID' ↔ serviceID = serviceID' := by
  constructor
  · rintro rfl
    rw [h.decrypt_cipher] at hdec
    exact (Except.ok.inj hdec).symm
  · rintro rfl
    have henc := hcanon.unique ciphertext serviceID hdec
    rw [h.encrypt_eq] at henc
    exact (Except.ok.inj henc).symm

theorem newACIServiceID_inj {aci aci' : UUID} : newACIServiceID aci = newACIServiceID aci' ↔ aci = aci' := by
  simp [newACIServiceID]

theorem eq_aciCipher_iff (h : Inverse env params) (hcanon : Canonical env params) {ciphertext : Bytes} {aci : UUID}
    (hdec : env.decryptServiceID params ciphertext = .ok (newACIServiceID aci)) (aci' : UUID) :
    ciphertext = cipher env params (newACIServiceID aci') ↔ aci = aci' :=
  (eq_cipher_iff h hcanon hdec _).trans newACIServiceID_inj

theorem each_eq_map {α β : Type} {f : α → Except Failure β} {g : α → β} (h : ∀ a, f a = .ok (g a))
    (as : List α) : each f as = .ok (as.map g) := by
  unfold each
  rw [collect_eq_filterMap (g := fun a => some (g a)), filterMap_eq_map']
  intro a _
  rw [h a]
  rfl

theorem each_ok {α β : Type} {f : α → Except Failure β} {as : List α} {bs : List β} (h : each f as = .ok bs) :
    (∀ a ∈ as, ∃ b, f a = .ok b) ∧ ∀ g, (∀ a b, f a = .ok b → g a = b) → bs = as.map g := by
  obtain ⟨hall, rfl⟩ := collect_eq_ok_iff.mp h
  have hok : ∀ a ∈ as, ∃ b, f a = .ok b := by
    intro a ha
    obtain ⟨b, hb⟩ := hall a ha
    obtain ⟨c, hc, -⟩ := map_eq_ok_iff.mp hb
    exact ⟨c, hc⟩
  refine ⟨hok, fun g hg => ?_⟩
  rw [← filterMap_eq_map']
  apply filterMap_congr
  intro a ha
  obtain ⟨b, hb⟩ := hok a ha
  have hyield : (fun a => some <$> f a) a = .ok (some b) := by
    simp only [hb]
    rfl
  exact (yielded_of_ok hyield).trans (congrArg some (hg a b hb).symm)

theorem propertySent_of_ok (h : Inverse env params) {randomness : Bytes}
    {blob : Option GroupAttributeBlob} {sent : Option Bytes}
    (hsent : encryptProperty env params randomness blob = .ok sent) : PropertySent env params sent blob := by
  cases blob with
  | none => exact (Except.ok.inj hsent).symm
  | some blob =>
    obtain ⟨ciphertext, henc, hdec⟩ := h.blob_returned randomness blob
    simp only [encryptProperty, henc] at hsent
    exact ⟨ciphertext, (Except.ok.inj hsent).symm, hdec⟩

theorem presentationFor_ok {aci : UUID} {presentation : Bytes} (h : presentationFor env params aci = .ok presentation) :
    hasCredential env aci = true ∧ presentationOf env params aci = presentation := by
  constructor
  · obtain ⟨credential, hcred, -⟩ := bind_eq_ok_iff.mp h
    simp [hasCredential, failed_eq_ok_iff.mp hcred]
  · simp [presentationOf, h, Except.toOption]

theorem presentations_of_ok {α : Type} {aci : α → UUID} {as : List α} {presentations : List Bytes}
    (h : each (fun a => presentationFor env params (aci a)) as = .ok presentations) :
    (∀ a ∈ as, hasCredential env (aci a) = true) ∧
      presentations = as.map fun a => presentationOf env params (aci a) := by
  obtain ⟨hok, hmap⟩ := each_ok h
  constructor
  · intro a ha
    obtain ⟨presentation, hpres⟩ := hok a ha
    exact (presentationFor_ok hpres).1
  · exact hmap _ fun a presentation hpres => (presentationFor_ok hpres).2

theorem Inverse.encryptMember_eq (h : Inverse env params) (ownACI : UUID) {member : GroupMember}
    (hcred : hasCredential env member.aci = true) :
    encryptMember env ownACI params member =
      (some { presentation := presentationOf env params member.aci, role := member.role }, none) := by
  obtain ⟨credential, hfetch⟩ := hasCredential_iff.mp hcred
  obtain ⟨presentation, -, -, -, hcreate, -⟩ := h.presentation member.aci credential hfetch
  simp [encryptMember, presentationOf, presentationFor, hfetch, hcreate, bind, Except.bind, Except.toOption]

theorem Inverse.sent_members (h : Inverse env params) (ownACI : UUID) (members : List AddMember) :
    (members.filterMap fun member =>
      (encryptMember env ownACI params member.toGroupMember).1) =
      (members.filter fun member => hasCredential env member.aci).map fun member =>
        { presentation := presentationOf env params member.aci, role := member.role } := by
  induction members with
  | nil => rfl
  | cons member members ih =>
    cases hcred : hasCredential env member.aci with
    | true => simp [h.encryptMember_eq ownACI hcred, hcred, ih]
    | false =>
      obtain ⟨encrypted, henc, -⟩ := h.member_invited ownACI member.toGroupMember hcred
      simp [henc, hcred, ih]

theorem sent_of_encryptGroupChange (h : Inverse env params) {ownACI : UUID} {randomness : ℕ → Bytes}
    {change : GroupChange} {actions : Actions}
    (henc : encryptGroupChange env params ownACI randomness change = .ok actions) :
    Sent env params ownACI change actions := by
  have hACI : ∀ aci, encryptACI env params aci =
      .ok (cipher env params (newACIServiceID aci)) := by
    simp [encryptACI, h.encrypt_eq]
  have hserviceID : ∀ serviceID, failed (env.encryptServiceID params serviceID) =
      .ok (cipher env params serviceID) := by
    simp [h.encrypt_eq]
  have hrole : ∀ rm, encryptRole env params rm =
      .ok (cipher env params (newACIServiceID rm.aci), rm.role) := by
    simp [encryptRole, hACI, bind, Except.bind, pure, Except.pure]
  have hban : ∀ banned, encryptBanned env params banned =
      .ok { userId := cipher env params banned.serviceID, timestamp := banned.timestamp } := by
    simp [encryptBanned, h.encrypt_eq, bind, Except.bind, pure, Except.pure]
  obtain ⟨encryptedPending, hpend, hpend'⟩ := h.pendings_returned change.addPendingMembers
  simp only [encryptGroupChange, each_eq_map hACI, each_eq_map hserviceID, each_eq_map hrole, each_eq_map hban,
    bind_eq_ok_iff, Except.ok.injEq, exists_eq_left'] at henc
  obtain ⟨title, htitle, description, hdesc, addPending, haddPending, promotePending, hpromote,
    addRequesting, hrequesting, timer, htimer, hactions⟩ := henc
  obtain ⟨hpromoteCredential, rfl⟩ := presentations_of_ok hpromote
  obtain ⟨hrequestCredential, rfl⟩ := presentations_of_ok hrequesting
  obtain rfl : addPending = encryptedPending := by
    unfold each at haddPending
    rw [hpend] at haddPending
    exact (Except.ok.inj haddPending).symm
  cases hactions
  refine ⟨rfl, propertySent_of_ok h htitle, propertySent_of_ok h hdesc, propertySent_of_ok h htimer, ?_, rfl,
    rfl, ⟨_, _, rfl, ?_, hpend'⟩, rfl, rfl, hpromoteCredential, rfl, hrequestCredential, rfl, rfl, rfl, rfl, rfl,
    rfl, rfl, rfl⟩
  · rw [← h.sent_members ownACI]
    simp only [map_filterMap]
    simp [Function.comp_def]
  · have hinvited := h.invited_returned ownACI (change.addMembers.map AddMember.toGroupMember)
    simpa [filter_map, Function.comp_def] using hinvited

end SentLemmas

section Reading

variable {env : Env} {params : Bytes}

structure ReadsAs (env : Env) (params : Bytes) (encrypted : EncryptedGroup) (group : Group) : Prop where
  title : ∃ blob, decryptGroupPropertyIntoBlob env params encrypted.title = .ok blob ∧
    group.title = cleanupStringProperty env blob.getTitle
  description : group.description = decryptDescription env params encrypted.description
  timer : decryptTimer env params encrypted.disappearingMessagesTimer =
    .ok group.disappearingMessagesDuration
  members : collect (visitMember env params) encrypted.members = .ok group.members
  pendingMembers : collect (visitPendingMember env params) encrypted.membersPendingProfileKey =
    .ok group.pendingMembers
  requestingMembers :
    collect (visitRequestingMember env params) encrypted.membersPendingAdminApproval =
      .ok group.requestingMembers
  bannedMembers : collect (visitBannedMember env params) encrypted.membersBanned =
    .ok group.bannedMembers
  accessControl : group.accessControl = encrypted.accessControl
  announcementsOnly : group.announcementsOnly = false

theorem readsAs_of_decryptGroup {encrypted : EncryptedGroup} {group : Group}
    {groupMasterKey : SerializedGroupMasterKey} {masterKey : Bytes}
    (hmaster : masterKeyToBytes groupMasterKey = .ok masterKey)
    (hpar : env.deriveGroupSecretParams masterKey = .ok params)
    (h : decryptGroup env encrypted groupMasterKey = .ok group) : ReadsAs env params encrypted group := by
  simp only [decryptGroup, bind_eq_ok_iff] at h
  obtain ⟨masterKey', hmaster', params', hparams', identifier, -, blob, htitle, timer, htimer, members, hmems,
    pending,
    hpend, requesting, hrequesting, banned, hbanned, hgroup⟩ := h
  obtain rfl := Except.ok.inj (hmaster'.symm.trans hmaster)
  obtain rfl := Except.ok.inj ((failed_eq_ok_iff.mp hparams').symm.trans hpar)
  cases hgroup
  exact ⟨⟨blob, htitle, rfl⟩, rfl, htimer, hmems, hpend, hrequesting, hbanned, rfl, rfl⟩

def StoredAs (env : Env) (params userId profileKey : Bytes) : Prop :=
  userId.length = uuidCiphertextLength ∧ profileKey.length = profileKeyCiphertextLength ∧
    ∃ aci, env.decryptServiceID params userId = .ok (newACIServiceID aci)

-- The group as the server stores it, with each invited user named once.
structure Stored (env : Env) (params : Bytes) (group : EncryptedGroup) : Prop where
  pending_once :
    (group.membersPendingProfileKey.filterMap fun pending => pending.bind MemberPendingProfileKey.userId).Nodup
  members : ∀ member, some member ∈ group.members →
    StoredAs env params member.userId member.profileKey
  requesting : ∀ request, some request ∈ group.membersPendingAdminApproval →
    StoredAs env params request.userId request.profileKey

theorem decrypt_stored {α : Type} {userId profileKey presentation : Bytes}
    (hstored : StoredAs env params userId profileKey) {make : UUID × ProfileKey → α} {decrypted : α} :
    some <$> (do
      let pair ← decryptPKeyAndIDorPresentation env params userId profileKey presentation
      return make pair) = .ok (some decrypted) ↔
      ∃ aci key, env.decryptServiceID params userId = .ok (newACIServiceID aci) ∧
        env.decryptProfileKey params profileKey aci = .ok key ∧ make (aci, key) = decrypted := by
  obtain ⟨hlen, hlen', aci, hdec⟩ := hstored
  have htype : ¬ serviceIDTypeACI = serviceIDTypePNI := by decide
  simp only [map_eq_ok_iff, bind_eq_ok_iff, Prod.exists, decryptPKeyAndIDorPresentation, ciphertextsOfMember,
    hlen, hlen', and_self, if_true, hdec, failed_ok, Except.ok.injEq, exists_eq_left',
    newACIServiceID_inj, Option.some.injEq]
  simp [newACIServiceID, htype, failed_eq_ok_iff, pure, Except.pure]

theorem visitPendingMember_some {pending : MemberPendingProfileKey} {decrypted : PendingMember}
    (h : visitPendingMember env params (some pending) = .ok (some decrypted)) :
    ∃ member, pending.member = some member ∧ decrypted.role = member.role ∧
      env.decryptServiceID params member.userId = .ok decrypted.serviceID := by
  obtain ⟨member, addedBy, timestamp⟩ := pending
  simp only [visitPendingMember] at h
  split at h
  · rename_i decrypted' hdec
    obtain rfl := Option.some.inj (Except.ok.inj h)
    cases member with
    | none => cases hdec
    | some member =>
      simp only [decryptPendingMember, ite_error_eq_ok, bind_eq_ok_iff] at hdec
      obtain ⟨-, userID, huser, -, added, -, hpure⟩ := hdec
      cases hpure
      exact ⟨member, rfl, rfl, failed_eq_ok_iff.mp huser⟩
  · cases h
  · cases h

end Reading

section ServerReading

variable {env : Env} {params : Bytes} {entries : List (Option Member)}
  {decrypted : List GroupMember} {server : EncryptedGroup} {fetched : Group} {ownACI : UUID}
  {change : GroupChange} {actions : Actions} {sent : Option Bytes}

theorem any_eq_contains {α : Type} [DecidableEq α] (as : List α) (a : α) :
    (as.any fun b => decide (a = b)) = as.contains a := by
  rw [contains_eq_any_beq]
  rfl

def memberKey (member : GroupMember) : UUID × GroupMemberRole := (member.aci, member.role)

def setRole (members : List (UUID × GroupMemberRole)) (rm : RoleMember) : List (UUID × GroupMemberRole) :=
  updateFirst (fun member => member.1 = rm.aci) (fun member => (member.1, rm.role)) members

def resultMembers (roles : List RoleMember) (deleted : List UUID) (members : List (UUID × GroupMemberRole)) :
    List (UUID × GroupMemberRole) :=
  (roles.foldl setRole members).filter fun member => !(deleted.contains member.1)

theorem map_memberKey_modifyRole (members : List GroupMember) (rm : RoleMember) :
    (modifyRole members rm).map memberKey = setRole (members.map memberKey) rm := by
  refine map_updateFirst ?_ ?_ members <;> exact fun _ => rfl

def EntriesRead (env : Env) (params : Bytes) (entries : List (Option Member))
    (keys : List (UUID × GroupMemberRole)) : Prop :=
  (∀ member, some member ∈ entries → StoredAs env params member.userId member.profileKey) ∧
    ∃ decrypted, collect (visitMember env params) entries = .ok decrypted ∧
      decrypted.map memberKey = keys

theorem EntriesRead.append {keys : List (UUID × GroupMemberRole)} (hread : EntriesRead env params entries keys)
    {entries' : List (Option Member)} {keys' : List (UUID × GroupMemberRole)}
    (hread' : EntriesRead env params entries' keys') :
    EntriesRead env params (entries ++ entries') (keys ++ keys') := by
  obtain ⟨hstored, decrypted, hcollect, rfl⟩ := hread
  obtain ⟨hstored', decrypted', hcollect', rfl⟩ := hread'
  refine ⟨fun member hmember => ?_, decrypted ++ decrypted', collect_append hcollect hcollect', map_append⟩
  rcases mem_append.mp hmember with hmember | hmember
  · exact hstored member hmember
  · exact hstored' member hmember

theorem newEntries_read {α β : Type} {aci : α → UUID} {role : α → GroupMemberRole} {action : α → β}
    {entry : β → Member} {as : List α}
    (h : ∀ a ∈ as, StoredAs env params (entry (action a)).userId (entry (action a)).profileKey ∧
      env.decryptServiceID params (entry (action a)).userId = .ok (newACIServiceID (aci a)) ∧
      (entry (action a)).role = role a ∧
      ∃ key, env.decryptProfileKey params (entry (action a)).profileKey (aci a) = .ok key) :
    EntriesRead env params (((as.map action).map entry).map some) (as.map fun a => (aci a, role a)) := by
  rw [map_map, map_map]
  refine ⟨fun member hmember => ?_, exists_collect fun a ha => ?_⟩
  · obtain ⟨a, ha, hentry⟩ := mem_map.mp hmember
    cases hentry
    exact (h a ha).1
  · obtain ⟨hstored, hdec, hrole, key, hkey⟩ := h a ha
    exact ⟨_, (decrypt_stored hstored).mpr ⟨aci a, key, hdec, hkey, rfl⟩, congrArg (Prod.mk _) hrole⟩

-- What the server asks of a change: its actions on the member list name different accounts, those who join are
-- no members, and those who change are members, invited or have asked to join.
def GroupChange.memberSubjects (change : GroupChange) : List UUID :=
  change.addMembers.map (fun member => member.aci) ++ change.deleteMembers ++
    change.modifyMemberRoles.map RoleMember.aci ++ change.promotePendingMembers.map PromotePendingMember.aci ++
    change.promotePendingPniAciMembers.map PromotePendingPniAciMember.aci ++
    change.promoteRequestingMembers.map RoleMember.aci

structure Accepted (group : Group) (change : GroupChange) : Prop where
  members_once : (group.members.map GroupMember.aci).Nodup
  subjects_once : change.memberSubjects.Nodup
  roles_of_members : ∀ rm ∈ change.modifyMemberRoles, rm.aci ∈ group.members.map GroupMember.aci
  promoted_invited : ∀ promo ∈ change.promotePendingMembers,
    newACIServiceID promo.aci ∈ group.pendingMembers.map PendingMember.serviceID
  promoted_requesting : ∀ promo ∈ change.promoteRequestingMembers,
    promo.aci ∈ group.requestingMembers.map RequestingMember.aci

def joinedOnServer (env : Env) (params : Bytes) (server : EncryptedGroup) (change : GroupChange) :
    List (UUID × GroupMemberRole) :=
  change.promotePendingMembers.map (fun promo =>
      (promo.aci, invitedRole server (cipher env params (newACIServiceID promo.aci)))) ++
    change.promoteRequestingMembers.map (fun promo => (promo.aci, promo.role)) ++
    (change.addMembers.filter fun member => hasCredential env member.aci).map fun member =>
      (member.aci, member.role)

def pendingOnServer (env : Env) (ownACI : UUID) (fetched : Group) (change : GroupChange) : List PendingMember :=
  let invites := (change.addMembers.filter fun member => !hasCredential env member.aci).map fun member =>
    invited ownACI member.toGroupMember
  let added := change.addPendingMembers.map fun pending => { pending with timestamp := 0 }
  (fetched.pendingMembers ++ (invites ++ added)).filter fun pending =>
    !((change.promotePendingMembers.map fun promo => newACIServiceID promo.aci).contains pending.serviceID) &&
      !(change.deletePendingMembers.contains pending.serviceID)

def requestingAfter (change : GroupChange) (requesting : List RequestingMember) : List UUID :=
  (requesting.map RequestingMember.aci ++ change.addRequestingMembers.map RequestingMember.aci).filter fun aci =>
    !((change.promoteRequestingMembers.map RoleMember.aci).contains aci) &&
      !(change.deleteRequestingMembers.contains aci)

section

variable (h : Inverse env params) (hcanon : Canonical env params)

include h hcanon

theorem stored_of_credential {aci : UUID} (hcred : hasCredential env aci = true) :
    storedUserId env (presentationOf env params aci) =
        cipher env params (newACIServiceID aci) ∧
      StoredAs env params (cipher env params (newACIServiceID aci))
        (storedProfileKey env (presentationOf env params aci)) ∧
      ∃ key, env.decryptProfileKey params
        (storedProfileKey env (presentationOf env params aci)) aci = .ok key := by
  obtain ⟨credential, hfetch⟩ := hasCredential_iff.mp hcred
  obtain ⟨presentation, userID, encryptedKey, key, hcreate, -, -, huser, hkey, hdec, hdecryptKey⟩ :=
    h.presentation aci credential hfetch
  have hpres : presentationOf env params aci = presentation := by
    simp [presentationOf, presentationFor, hfetch, hcreate, bind, Except.bind, Except.toOption]
  have huserID := (eq_cipher_iff h hcanon hdec _).mpr rfl
  have hstoredKey : storedProfileKey env presentation = encryptedKey := by
    simp [storedProfileKey, hkey, Except.toOption]
  rw [hpres, hstoredKey]
  refine ⟨?_, ⟨h.cipher_length _, hcanon.profileKey_length _ _ hkey, aci, h.decrypt_cipher _⟩, key, hdecryptKey⟩
  simp [storedUserId, huser, huserID, Except.toOption]

namespace EntriesRead

variable {keys : List (UUID × GroupMemberRole)} (hread : EntriesRead env params entries keys)

include hread

theorem setRole (rm : RoleMember) :
    EntriesRead env params (serverSetRole entries (cipher env params (newACIServiceID rm.aci), rm.role))
      (Groups.setRole keys rm) := by
  obtain ⟨hstored, decrypted, hcollect, rfl⟩ := hread
  refine ⟨?_, modifyRole decrypted rm, collect_updateFirst hcollect ?_ ?_, map_memberKey_modifyRole decrypted rm⟩
  · intro member hmember
    refine forall_updateFirst (P := fun entry => ∀ member, entry = some member →
      StoredAs env params member.userId member.profileKey) ?_ ?_ _ hmember member rfl
    · rintro _ hentry member rfl
      exact hstored member hentry
    · intro entry hentry member hupdated
      obtain ⟨old, rfl, rfl⟩ := Option.map_eq_some_iff.mp hupdated
      exact hentry old rfl
  · intro entry hentry b hvisit
    cases entry with
    | none => cases hvisit
    | some member =>
      have hmember := hstored member hentry
      obtain ⟨aci, key, hdec, hkey, rfl⟩ := (decrypt_stored hmember).mp hvisit
      exact ⟨decide_eq_decide.mpr (eq_aciCipher_iff h hcanon hdec rm.aci),
        (decrypt_stored (by exact hmember)).mpr ⟨aci, key, hdec, hkey, rfl⟩⟩
  · intro entry _ hvisit
    cases entry with
    | none => rfl
    | some member =>
      obtain ⟨_, -, hnone⟩ := map_eq_ok_iff.mp hvisit
      cases hnone

theorem roles (roles : List RoleMember) :
    EntriesRead env params ((roles.map fun rm => (cipher env params (newACIServiceID rm.aci), rm.role)).foldl
      serverSetRole entries) (roles.foldl Groups.setRole keys) := by
  induction roles generalizing entries keys with
  | nil => exact hread
  | cons rm roles ih => exact ih (hread.setRole h hcanon rm)

theorem delete (deleted : List UUID) :
    ∃ decrypted, collect (visitMember env params) (entries.filter fun member =>
        !((deleted.map fun aci => cipher env params (newACIServiceID aci)).any fun userId =>
          Member.named userId member)) = .ok decrypted ∧
      decrypted.map memberKey = keys.filter fun member => !(deleted.contains member.1) := by
  obtain ⟨hstored, decrypted, hcollect, rfl⟩ := hread
  refine ⟨decrypted.filter fun member => !(deleted.contains member.aci), collect_filter hcollect ?_, ?_⟩
  · intro entry hentry b hvisit
    cases entry with
    | none => cases hvisit
    | some member =>
      obtain ⟨aci, key, hdec, -, rfl⟩ := (decrypt_stored (hstored member hentry)).mp hvisit
      simp only [any_map, Function.comp_def, Member.named, eq_aciCipher_iff h hcanon hdec]
      rw [any_eq_contains]
  · rw [filter_map]
    rfl

end EntriesRead

section

variable (hstored : Stored env params server) (hreads : ReadsAs env params server fetched)

include hstored hreads

theorem invitedRole_eq {pending : PendingMember} (hpend : pending ∈ fetched.pendingMembers) :
    invitedRole server (cipher env params pending.serviceID) = pending.role := by
  obtain ⟨entry, hentry, hvisit⟩ := (mem_of_collect hreads.pendingMembers).mp hpend
  cases entry with
  | none => cases hvisit
  | some invite =>
    obtain ⟨member, hmember, hrole, hdec⟩ := visitPendingMember_some hvisit
    have huser := (eq_cipher_iff h hcanon hdec _).mpr rfl
    have hkey : (some invite).bind MemberPendingProfileKey.userId =
        some (cipher env params pending.serviceID) := by
      simp [MemberPendingProfileKey.userId, hmember, huser]
    have hfind := find?_eq_of_nodup hstored.pending_once hentry hkey
    obtain ⟨invited, addedBy, timestamp⟩ := invite
    subst hmember
    simp only [invitedRole, hfind]
    exact hrole.symm

theorem requestedKey_eq {aci : UUID} (haci : aci ∈ fetched.requestingMembers.map RequestingMember.aci) :
    StoredAs env params (cipher env params (newACIServiceID aci))
        (requestedKey server (cipher env params (newACIServiceID aci))) ∧
      ∃ key, env.decryptProfileKey params
        (requestedKey server (cipher env params (newACIServiceID aci))) aci = .ok key := by
  obtain ⟨requesting, hrequesting, rfl⟩ := mem_map.mp haci
  obtain ⟨entry, hentry, hvisit⟩ := (mem_of_collect hreads.requestingMembers).mp hrequesting
  cases entry with
  | none => cases hvisit
  | some request =>
    obtain ⟨aci, -, hdec, -, rfl⟩ := (decrypt_stored (hstored.requesting request hentry)).mp hvisit
    have huser := (eq_aciCipher_iff h hcanon hdec aci).mpr rfl
    cases hfirst : server.membersPendingAdminApproval.find? fun other =>
        other.map MemberPendingAdminApproval.userId = some (cipher env params (newACIServiceID aci)) with
    | none =>
      have hnamed := find?_eq_none.mp hfirst _ hentry
      simp [huser] at hnamed
    | some first =>
      -- the first request that names the account is stored and was read too
      have hnamed := find?_some hfirst
      have hmem := mem_of_find?_eq_some hfirst
      cases first with
      | none => simp at hnamed
      | some first =>
        have hfirstUser : first.userId = cipher env params (newACIServiceID aci) := by simpa using hnamed
        obtain ⟨read, hread⟩ := (collect_eq_ok_iff.mp hreads.requestingMembers).1 _ hmem
        obtain ⟨_, -, rfl⟩ := map_eq_ok_iff.mp hread
        obtain ⟨aci', key, hdec', hkey, -⟩ :=
          (decrypt_stored (hstored.requesting first hmem)).mp hread
        obtain rfl := (eq_aciCipher_iff h hcanon hdec' aci).mp hfirstUser
        simp only [requestedKey, hfirst]
        exact ⟨hfirstUser ▸ hstored.requesting first hmem, key, hkey⟩

end

theorem serverMembers_read
    (hstored : Stored env params server) (hreads : ReadsAs env params server fetched)
    (hsent : Sent env params ownACI change actions) (hacc : Accepted fetched change) :
    ∃ decrypted, collect (visitMember env params) (serverMembers env server actions) = .ok decrypted ∧
      decrypted.map memberKey = resultMembers change.modifyMemberRoles change.deleteMembers
        (fetched.members.map memberKey ++ joinedOnServer env params server change) := by
  have hold : EntriesRead env params server.members (fetched.members.map memberKey) :=
    ⟨hstored.members, fetched.members, hreads.members, rfl⟩
  simp only [serverMembers, hsent.promotePending, hsent.promoteRequesting, hsent.addMembers, hsent.modifyMemberRoles,
    hsent.deleteMembers, resultMembers, joinedOnServer, ← append_assoc]
  refine ((((hold.append (newEntries_read fun promo hpromo => ?_)).append
    (newEntries_read fun promo hpromo => ?_)).append (newEntries_read fun member hmember => ?_)).roles h hcanon
      _).delete h hcanon _
  · obtain ⟨huser, hprom, hkey⟩ := stored_of_credential h hcanon (hsent.promote_credential promo hpromo)
    simp only [promotedEntry, huser]
    exact ⟨hprom, h.decrypt_cipher _, trivial, hkey⟩
  · obtain ⟨hkeyStored, hkey⟩ :=
      requestedKey_eq h hcanon hstored hreads (hacc.promoted_requesting promo hpromo)
    exact ⟨hkeyStored, h.decrypt_cipher _, rfl, hkey⟩
  · obtain ⟨huser, hadd, hkey⟩ := stored_of_credential h hcanon (mem_filter.mp hmember).2
    simp only [addedEntry, huser]
    exact ⟨hadd, h.decrypt_cipher _, trivial, hkey⟩

theorem named_pending {entry : Option MemberPendingProfileKey} {decrypted : PendingMember}
    (hvisit : visitPendingMember env params entry = .ok (some decrypted)) (serviceID : ServiceID) :
    decide (entry.bind MemberPendingProfileKey.userId = some (cipher env params serviceID)) =
      decide (decrypted.serviceID = serviceID) := by
  cases entry with
  | none => cases hvisit
  | some pending =>
    obtain ⟨member, hmember, -, hdec⟩ := visitPendingMember_some hvisit
    have hiff := eq_cipher_iff h hcanon hdec serviceID
    simp [MemberPendingProfileKey.userId, hmember, hiff]

theorem serverPending_read (hreads : ReadsAs env params server fetched)
    (hsent : Sent env params ownACI change actions) :
    collect (visitPendingMember env params) (serverPending env server actions) =
      .ok (pendingOnServer env ownACI fetched change) := by
  obtain ⟨invites, added, hents, hinvites, hadd⟩ := hsent.addPending
  have hprom : actions.promoteMembersPendingProfileKey.map (storedUserId env) =
      (change.promotePendingMembers.map fun promo => newACIServiceID promo.aci).map
        (cipher env params) := by
    rw [hsent.promotePending, map_map, map_map]
    apply map_congr_left
    intro promo hpromo
    exact (stored_of_credential h hcanon (hsent.promote_credential promo hpromo)).1
  unfold serverPending
  rw [hents, hprom, hsent.deletePending]
  apply collect_filter (collect_append hreads.pendingMembers (collect_append hinvites hadd))
  intro entry _ decrypted hvisit
  simp only [any_map, Function.comp_def, named_pending h hcanon hvisit]
  rw [← any_eq_contains, ← any_eq_contains, any_map]
  rfl

theorem newRequests_read {requests : List RequestingMember}
    (hcred : ∀ request ∈ requests, hasCredential env request.aci = true) :
    let new : List (Option MemberPendingAdminApproval) :=
      (requests.map fun request => presentationOf env params request.aci).map fun presentation =>
        some { userId := storedUserId env presentation, profileKey := storedProfileKey env presentation }
    (∀ request, some request ∈ new → StoredAs env params request.userId request.profileKey) ∧
    ∃ decrypted, collect (visitRequestingMember env params) new = .ok decrypted ∧
      decrypted.map RequestingMember.aci = requests.map RequestingMember.aci := by
  simp only [map_map]
  refine ⟨fun new hnew => ?_, exists_collect fun request hreq => ?_⟩
  · obtain ⟨request, hreq, heq⟩ := mem_map.mp hnew
    obtain ⟨huser, hstored, -⟩ := stored_of_credential h hcanon (hcred request hreq)
    cases heq
    simpa only [huser] using hstored
  · obtain ⟨huser, hstored, key, hkey⟩ := stored_of_credential h hcanon (hcred request hreq)
    rw [Function.comp_apply, huser]
    exact ⟨_, (decrypt_stored (by exact hstored)).mpr ⟨_, key, h.decrypt_cipher _, hkey, rfl⟩, rfl⟩

theorem serverRequesting_read (hstored : Stored env params server)
    (hreads : ReadsAs env params server fetched)
    (hsent : Sent env params ownACI change actions) :
    ∃ decrypted, collect (visitRequestingMember env params) (serverRequesting env server actions) = .ok decrypted ∧
      decrypted.map RequestingMember.aci = requestingAfter change fetched.requestingMembers := by
  obtain ⟨haddedStored, added, hadd, haddedKeys⟩ := newRequests_read h hcanon hsent.request_credential
  refine ⟨(fetched.requestingMembers ++ added).filter fun request =>
    !((change.promoteRequestingMembers.map RoleMember.aci).contains request.aci) &&
      !(change.deleteRequestingMembers.contains request.aci), ?_, ?_⟩
  · unfold serverRequesting
    rw [hsent.addRequesting, hsent.promoteRequesting, hsent.deleteRequesting]
    apply collect_filter (collect_append hreads.requestingMembers hadd)
    intro entry hentry decrypted hvisit
    cases entry with
    | none => cases hvisit
    | some request =>
      have hreq := (mem_append.mp hentry).elim (hstored.requesting request) (haddedStored request)
      obtain ⟨aci, -, hdec, -, rfl⟩ := (decrypt_stored hreq).mp hvisit
      simp only [any_map, Function.comp_def, Option.map_some, Option.some.injEq,
        eq_aciCipher_iff h hcanon hdec]
      rw [← any_eq_contains, ← any_eq_contains, any_map]
      rfl
  · rw [requestingAfter, ← haddedKeys, ← map_append, filter_map]
    rfl

theorem serverBanned_read (hreads : ReadsAs env params server fetched)
    (hsent : Sent env params ownACI change actions) :
    collect (visitBannedMember env params) (serverBanned server actions) =
      .ok (applyBanned change fetched).bannedMembers := by
  unfold serverBanned
  rw [hsent.addBanned, hsent.deleteBanned]
  have hadd : collect (visitBannedMember env params)
      ((change.addBannedMembers.map fun banned =>
        ({ userId := cipher env params banned.serviceID, timestamp := banned.timestamp } :
          MemberBanned)).map some) = .ok change.addBannedMembers := by
    have hvisit : ∀ banned : BannedMember, visitBannedMember env params (some
        { userId := cipher env params banned.serviceID, timestamp := banned.timestamp }) =
        .ok (some banned) := by
      simp [visitBannedMember, h.cipher_length, h.decrypt_cipher, bind, Except.bind, pure, Except.pure]
    generalize change.addBannedMembers = bannedMembers
    induction bannedMembers with
    | nil => rfl
    | cons banned bannedMembers ih =>
      simp only [map_cons, collect, hvisit, ih]
      rfl
  apply collect_filter (collect_append hreads.bannedMembers hadd)
  intro entry _ decrypted hvisit
  cases entry with
  | none => cases hvisit
  | some banned =>
    simp only [visitBannedMember] at hvisit
    split at hvisit
    · cases hvisit
    obtain ⟨serviceID, hservice, hpure⟩ := bind_eq_ok_iff.mp hvisit
    cases hpure
    simp only [any_map, Function.comp_def, Option.map_some, Option.some.injEq,
      eq_cipher_iff h hcanon (failed_eq_ok_iff.mp hservice)]
    rw [any_eq_contains]

end

theorem title_read {title : Option Text} {encryptedTitle : Bytes} {old : Text}
    (hsent : PropertySent env params sent (title.map .title))
    (hold : ∃ blob, decryptGroupPropertyIntoBlob env params encryptedTitle = .ok blob ∧
      old = cleanupStringProperty env blob.getTitle) :
    ∃ blob, decryptGroupPropertyIntoBlob env params (sent.getD encryptedTitle) = .ok blob ∧
      cleanupStringProperty env blob.getTitle = (title.map (cleanupStringProperty env)).getD old := by
  cases title with
  | none =>
    obtain rfl := hsent
    obtain ⟨blob, hblob, rfl⟩ := hold
    exact ⟨blob, hblob, rfl⟩
  | some title =>
    obtain ⟨ciphertext, rfl, hdec⟩ := hsent
    exact ⟨.title title, hdec, rfl⟩

theorem description_read {description : Option Text} {encryptedDescription : Bytes}
    (hsent : PropertySent env params sent (description.map .descriptionText)) :
    decryptDescription env params (sent.getD encryptedDescription) =
      (description.map (cleanupStringProperty env)).getD
        (decryptDescription env params encryptedDescription) := by
  cases description with
  | none =>
    obtain rfl := hsent
    rfl
  | some description =>
    obtain ⟨ciphertext, rfl, hdec⟩ := hsent
    simp [decryptDescription, hdec, GroupAttributeBlob.getDescriptionText]

theorem timer_read (h : Inverse env params) {timer : Option UInt32} {encryptedTimer : Bytes}
    {old : UInt32} (hsent : PropertySent env params sent (timer.map .disappearingMessagesDuration))
    (hold : decryptTimer env params encryptedTimer = .ok old) :
    decryptTimer env params (sent.getD encryptedTimer) = .ok (timer.getD old) := by
  cases timer with
  | none =>
    obtain rfl := hsent
    exact hold
  | some timer =>
    obtain ⟨ciphertext, rfl, hdec⟩ := hsent
    have hne : ciphertext.length > 0 := by
      apply length_pos_iff.mpr
      rintro rfl
      obtain ⟨message, hmsg⟩ := h.empty_blob
      simp [decryptGroupPropertyIntoBlob, hmsg, bind, Except.bind] at hdec
    simp [decryptTimer, if_pos hne, hdec, bind, Except.bind, pure, Except.pure,
      GroupAttributeBlob.getDisappearingMessagesDuration]

theorem serverApply_read (h : Inverse env params) (hcanon : Canonical env params)
    {groupMasterKey : SerializedGroupMasterKey} {masterKey identifier : Bytes}
    (hmaster : masterKeyToBytes groupMasterKey = .ok masterKey)
    (hpar : env.deriveGroupSecretParams masterKey = .ok params)
    (hid : env.groupIdentifier masterKey = .ok identifier)
    (hstored : Stored env params server) (hreads : ReadsAs env params server fetched)
    (hsent : Sent env params ownACI change actions) (hacc : Accepted fetched change) :
    ∃ fetched', decryptGroup env (serverApply env server actions) groupMasterKey = .ok fetched' ∧
      fetched'.members.map memberKey = resultMembers change.modifyMemberRoles change.deleteMembers
        (fetched.members.map memberKey ++ joinedOnServer env params server change) ∧
      fetched'.pendingMembers = pendingOnServer env ownACI fetched change ∧
      fetched'.requestingMembers.map RequestingMember.aci = requestingAfter change fetched.requestingMembers ∧
      fetched'.bannedMembers = (applyBanned change fetched).bannedMembers ∧
      fetched'.title = (change.modifyTitle.map (cleanupStringProperty env)).getD fetched.title ∧
      fetched'.description = (change.modifyDescription.map (cleanupStringProperty env)).getD fetched.description ∧
      fetched'.disappearingMessagesDuration =
        change.modifyDisappearingMessagesDuration.getD fetched.disappearingMessagesDuration ∧
      fetched'.announcementsOnly = false ∧
      fetched'.accessControl = serverAccess actions server.accessControl := by
  obtain ⟨members, hmems, hmemberKeys⟩ := serverMembers_read h hcanon hstored hreads hsent hacc
  obtain ⟨requesting, hrequesting, hrequestingKeys⟩ :=
    serverRequesting_read h hcanon hstored hreads hsent
  obtain ⟨blob, hblob, htitle⟩ := title_read hsent.title hreads.title
  obtain ⟨fetched', hdec, h1, h2, h3, h4, h5, h6, h7, h8, h9, -⟩ :=
    decryptGroup_eq_ok (serverApply env server actions) hmaster hpar hid hblob
      (timer_read h hsent.timer hreads.timer) hmems (serverPending_read h hcanon hreads hsent)
      hrequesting (serverBanned_read h hcanon hreads hsent)
  refine ⟨fetched', hdec, ?_, h5, ?_, h7, ?_, ?_, h3, h9, h8⟩
  · rw [h4]
    exact hmemberKeys
  · rw [h6]
    exact hrequestingKeys
  · rw [h1]
    exact htitle
  · rw [h2, hreads.description]
    exact description_read hsent.description

end ServerReading

end MautrixSignal.Groups
