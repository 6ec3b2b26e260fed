import MautrixSignal.Groups.CacheRuns
import MautrixSignal.Groups.ServerGroup
import Mathlib.Data.List.DropRight
import Mathlib.Data.List.Perm.Basic

namespace MautrixSignal.Groups

open Lib List GroupCache

section Members

variable {roles : List RoleMember} {deleted : List UUID} {members members' : List (UUID × GroupMemberRole)}

theorem map_fst_setRole (members : List (UUID × GroupMemberRole)) (rm : RoleMember) :
    (setRole members rm).map Prod.fst = members.map Prod.fst := by
  apply map_updateFirst_of_eq
  intro member
  rfl

theorem resultMembers_append (hroles : ∀ rm ∈ roles, rm.aci ∈ members.map Prod.fst)
    {joined : List (UUID × GroupMemberRole)} (hjoin : ∀ member ∈ joined, member.1 ∉ deleted) :
    resultMembers roles deleted (members ++ joined) = resultMembers roles deleted members ++ joined := by
  have hfold : roles.foldl setRole (members ++ joined) = roles.foldl setRole members ++ joined := by
    induction roles generalizing members with
    | nil => rfl
    | cons rm roles ih =>
      have hrm := hroles rm mem_cons_self
      obtain ⟨member, hmember, haci⟩ := mem_map.mp hrm
      have hset : setRole (members ++ joined) rm = setRole members rm ++ joined :=
        updateFirst_append ⟨member, hmember, decide_eq_true haci⟩ joined
      rw [foldl_cons, foldl_cons, hset]
      apply ih
      intro rm' hrm'
      rw [map_fst_setRole]
      exact hroles rm' (mem_cons_of_mem rm hrm')
  have hkept : joined.filter (fun member => !(deleted.contains member.1)) = joined := by
    apply filter_eq_self.mpr
    intro member hmember
    simpa using hjoin member hmember
  rw [resultMembers, hfold, filter_append, hkept]
  rfl

theorem resultMembers_perm (hperm : members.Perm members') (hnodup : (members.map Prod.fst).Nodup) :
    (resultMembers roles deleted members).Perm (resultMembers roles deleted members') := by
  have hfold : (roles.foldl setRole members).Perm (roles.foldl setRole members') := by
    induction roles generalizing members members' with
    | nil => exact hperm
    | cons rm roles ih =>
      have hnodup' := (hperm.map Prod.fst).nodup_iff.mp hnodup
      have hset : (setRole members rm).Perm (setRole members' rm) := by
        unfold setRole
        rw [updateFirst_eq_map hnodup, updateFirst_eq_map hnodup']
        exact hperm.map _
      apply ih hset
      rw [map_fst_setRole]
      exact hnodup
  exact hfold.filter _

end Members

variable (change : GroupChange)

def joinedInCache : List (UUID × GroupMemberRole) :=
  change.promotePendingMembers.map (fun promo => (promo.aci, groupMemberDefault)) ++
    change.promotePendingPniAciMembers.map (fun promo => (promo.aci, groupMemberDefault)) ++
    change.promoteRequestingMembers.map (fun promo => (promo.aci, promo.role)) ++
    change.addMembers.map fun member => (member.aci, member.role)

variable (group : Group)

theorem applyDirect_members :
    (applyDirect change group).members.map memberKey =
      resultMembers change.modifyMemberRoles change.deleteMembers
        (group.members.map memberKey ++ change.addMembers.map fun member => (member.aci, member.role)) := by
  have hroles : ∀ members, (change.modifyMemberRoles.foldl modifyRole members).map memberKey =
      change.modifyMemberRoles.foldl setRole (members.map memberKey) := by
    intro members
    exact (foldl_hom _ fun _ _ => (map_memberKey_modifyRole _ _).symm).symm
  have hkeys : ∀ members, (change.modifyMemberProfileKeys.foldl modifyProfileKey members).map memberKey =
      members.map memberKey := by
    intro members
    induction change.modifyMemberProfileKeys generalizing members with
    | nil => rfl
    | cons key keys ih =>
      rw [foldl_cons, ih]
      refine map_updateFirst_of_eq ?_ members
      exact fun _ => rfl
  have hadd : (change.addMembers.map AddMember.toGroupMember).map memberKey =
      change.addMembers.map fun member => (member.aci, member.role) := map_map
  conv_rhs => rw [resultMembers, ← hadd, ← map_append, ← hroles, ← hkeys, filter_map]
  rfl

theorem applyBeforeAccess_members :
    (applyBeforeAccess change group).members.map memberKey =
      resultMembers change.modifyMemberRoles change.deleteMembers
        (group.members.map memberKey ++ joinedInCache change) := by
  obtain ⟨approved, heq, hkeys⟩ := applyBeforeAccess_eq change group
  have happroved : approved.map memberKey =
      change.promoteRequestingMembers.map fun promo => (promo.aci, promo.role) := hkeys
  simp only [heq, applyProperties, applyBanned]
  rw [applyDirect_members]
  simp only [map_append, happroved, map_map, joinedInCache, append_assoc]
  rfl

theorem all_ne_eq_not_contains {α β : Type} [DecidableEq β] (key : α → β) (as : List α) (x : β) :
    (as.all fun a => !decide (x = key a)) = !((as.map key).contains x) := by
  rw [← any_eq_contains, any_map, not_any_eq_all_not]
  rfl

theorem applyBeforeAccess_requesting :
    (applyBeforeAccess change group).requestingMembers.map RequestingMember.aci =
      requestingAfter change group.requestingMembers := by
  obtain ⟨approved, heq, -⟩ := applyBeforeAccess_eq change group
  simp only [heq, applyProperties, applyBanned, applyDirect, all_ne_eq_not_contains, filter_filter]
  rw [requestingAfter, ← map_append, filter_map]
  simp [Function.comp_def, Bool.and_comm]

theorem applyBeforeAccess_pendingMembers :
    (applyBeforeAccess change group).pendingMembers =
      (group.pendingMembers ++ change.addPendingMembers).filter fun pending =>
        change.staysPending pending.serviceID := by
  obtain ⟨approved, heq, -⟩ := applyBeforeAccess_eq change group
  rw [heq]
  rfl

theorem staysPending_of_no_numbers {change : GroupChange} (hnums : change.promotePendingPniAciMembers = [])
    (id : ServiceID) : change.staysPending id =
      (!((change.promotePendingMembers.map fun promo => newACIServiceID promo.aci).contains id) &&
        !(change.deletePendingMembers.contains id)) := by
  have hnamed : ∀ promo : PromotePendingMember, (decide (id.type = serviceIDTypeACI) &&
      decide (id.uuid = promo.aci)) = decide (id = newACIServiceID promo.aci) := by
    intro promo
    rw [← Bool.decide_and, decide_eq_decide, ServiceID.mk.injEq]
    rfl
  simp [GroupChange.staysPending, PromotePendingMember.names, hnums, hnamed, all_ne_eq_not_contains]

theorem applyBeforeAccess_properties :
    ∃ members pendingMembers requestingMembers, applyBeforeAccess change group =
      { applyProperties change (applyBanned change group) with members, pendingMembers, requestingMembers } := by
  obtain ⟨approved, heq, -⟩ := applyBeforeAccess_eq change group
  exact ⟨_, _, _, heq⟩

def Clean (env : Env) (text : Text) : Prop :=
  (∀ c ∈ text, env.isGraphic c = true) ∧ (∀ c ∈ text.head?, isSpace c = false) ∧
    ∀ c ∈ text.getLast?, isSpace c = false

variable (text : Text)

theorem dropWhile_eq_self_iff_head? : text.dropWhile isSpace = text ↔ ∀ c ∈ text.head?, isSpace c = false := by
  cases text <;> simp

theorem trimSpace_sublist : (trimSpace text).Sublist (text.dropWhile isSpace) :=
  ( rdropWhile_prefix isSpace _).sublist

theorem trimSpace_eq_self_iff : trimSpace text = text ↔
    (∀ c ∈ text.head?, isSpace c = false) ∧ ∀ c ∈ text.getLast?, isSpace c = false := by
  rw [← dropWhile_eq_self_iff_head?, ← head?_reverse, ← dropWhile_eq_self_iff_head?]
  constructor
  · intro htrim
    have hfront : text.dropWhile isSpace = text := by
      apply (dropWhile_sublist isSpace).eq_of_length_le
      have hlen := (trimSpace_sublist text).length_le
      rwa [htrim] at hlen
    refine ⟨hfront, ?_⟩
    rw [trimSpace, hfront] at htrim
    rw [← reverse_inj, htrim, reverse_reverse]
  · rintro ⟨hfront, hback⟩
    rw [trimSpace, hfront, hback, reverse_reverse]

theorem cleanupStringProperty_eq_self_iff (env : Env) (text : Text) :
    cleanupStringProperty env text = text ↔ Clean env text := by
  unfold cleanupStringProperty Clean
  constructor
  · intro hclean
    have hfilter : text.filter env.isGraphic = text := by
      apply filter_sublist.eq_of_length_le
      have hlen :=
        ((trimSpace_sublist (text.filter env.isGraphic)).trans (dropWhile_sublist isSpace)).length_le
      rwa [hclean] at hlen
    rw [hfilter] at hclean
    exact ⟨filter_eq_self.mp hfilter, (trimSpace_eq_self_iff text).mp hclean⟩
  · rintro ⟨hgraphic, htrim⟩
    rw [filter_eq_self.mpr hgraphic]
    exact (trimSpace_eq_self_iff text).mpr htrim

theorem getD_eq_cleaned_iff (env : Env) (text : Option Text) (old : Text) :
    text.getD old = (text.map (cleanupStringProperty env)).getD old ↔ ∀ new ∈ text, Clean env new := by
  cases text with
  | none => simp
  | some text => simp [← cleanupStringProperty_eq_self_iff, eq_comm]

def pendingKey (pending : PendingMember) : ServiceID × GroupMemberRole × UUID :=
  (pending.serviceID, pending.role, pending.addedByUserID)

-- The cached group and the fetched one say the same. The order of the lists and the times, which the server
-- sets, are left out.
structure SameGroup (a b : Group) : Prop where
  members : (a.members.map memberKey).Perm (b.members.map memberKey)
  pendingMembers : (a.pendingMembers.map pendingKey).Perm (b.pendingMembers.map pendingKey)
  requestingMembers : (a.requestingMembers.map RequestingMember.aci).Perm
    (b.requestingMembers.map RequestingMember.aci)
  bannedMembers : (a.bannedMembers.map BannedMember.serviceID).Perm (b.bannedMembers.map BannedMember.serviceID)
  title : a.title = b.title
  description : a.description = b.description
  disappearingMessagesDuration : a.disappearingMessagesDuration = b.disappearingMessagesDuration
  announcementsOnly : a.announcementsOnly = b.announcementsOnly
  accessControl : a.accessControl = b.accessControl

section Same

variable {env : Env} {params : Bytes} {server : EncryptedGroup} {fetched group : Group}
variable {change : GroupChange}

theorem joined_perm_iff :
    (joinedInCache change).Perm (joinedOnServer env params server change) ↔
      change.promotePendingPniAciMembers = [] ∧
      (∀ member ∈ change.addMembers, hasCredential env member.aci = true) ∧
      ∀ promo ∈ change.promotePendingMembers,
        invitedRole server (cipher env params (newACIServiceID promo.aci)) = groupMemberDefault := by
  constructor
  · intro hperm
    have hlen := hperm.length_eq
    have hle := length_filter_le (fun member : AddMember => hasCredential env member.aci) change.addMembers
    simp only [joinedInCache, joinedOnServer, length_append, length_map] at hlen
    have hnums : change.promotePendingPniAciMembers = [] := by
      apply length_eq_zero_iff.mp
      omega
    have hcreds : ∀ member ∈ change.addMembers, hasCredential env member.aci = true := by
      apply length_filter_eq_length_iff.mp
      omega
    refine ⟨hnums, hcreds, ?_⟩
    rw [joinedInCache, joinedOnServer, hnums, filter_eq_self.mpr hcreds] at hperm
    simp only [append_assoc] at hperm
    have hprom := (perm_append_right_iff _).mp hperm
    intro promo hpromo
    have hmem := hprom.mem_iff.mp (mem_map_of_mem hpromo)
    obtain ⟨promo', -, heq⟩ := mem_map.mp hmem
    obtain ⟨haci, hrole⟩ := Prod.mk.inj heq
    rw [← haci]
    exact hrole
  · rintro ⟨hnums, hcreds, hroles⟩
    have hprom : change.promotePendingMembers.map (fun promo => (promo.aci, groupMemberDefault)) =
        change.promotePendingMembers.map fun promo =>
          (promo.aci, invitedRole server (cipher env params (newACIServiceID promo.aci))) := by
      apply map_congr_left
      intro promo hpromo
      rw [hroles promo hpromo]
    rw [joinedInCache, joinedOnServer, hnums, filter_eq_self.mpr hcreds, hprom, map_nil,
      append_nil]

theorem Accepted.joined_not_deleted (h : Accepted fetched change) {aci : UUID}
    (hjoin : aci ∈ (joinedInCache change).map Prod.fst) : aci ∉ change.deleteMembers := by
  have honce := h.subjects_once
  intro hdel
  simp only [joinedInCache, map_append, map_map, mem_append] at hjoin
  simp only [GroupChange.memberSubjects, nodup_append, mem_append] at honce
  obtain ⟨⟨⟨⟨⟨-, -, hadd⟩, -⟩, -, hpend⟩, -, hnumber⟩, -, hreq⟩ := honce
  rcases hjoin with ((hjoin | hjoin) | hjoin) | hjoin
  · exact hpend aci (.inl (.inr hdel)) aci hjoin rfl
  · exact hnumber aci (.inl (.inl (.inr hdel))) aci hjoin rfl
  · exact hreq aci (.inl (.inl (.inl (.inr hdel)))) aci hjoin rfl
  · exact hadd aci hjoin aci hdel rfl

theorem members_same_iff (hsame : SameGroup group fetched) (hacc : Accepted fetched change) :
    ((applyBeforeAccess change group).members.map memberKey).Perm
        (resultMembers change.modifyMemberRoles change.deleteMembers
          (fetched.members.map memberKey ++ joinedOnServer env params server change)) ↔
      (joinedInCache change).Perm (joinedOnServer env params server change) := by
  have hacis : fetched.members.map GroupMember.aci = (fetched.members.map memberKey).map Prod.fst := by
    rw [map_map]
    rfl
  have hfetchedRoles : ∀ rm ∈ change.modifyMemberRoles, rm.aci ∈ (fetched.members.map memberKey).map Prod.fst := by
    rw [← hacis]
    exact hacc.roles_of_members
  have hgroupRoles : ∀ rm ∈ change.modifyMemberRoles, rm.aci ∈ (group.members.map memberKey).map Prod.fst := by
    intro rm hrm
    exact (hsame.members.map Prod.fst).mem_iff.mpr (hfetchedRoles rm hrm)
  have honce : ((group.members.map memberKey).map Prod.fst).Nodup := by
    rw [(hsame.members.map Prod.fst).nodup_iff, ← hacis]
    exact hacc.members_once
  have hcacheJoined : ∀ member ∈ joinedInCache change, member.1 ∉ change.deleteMembers := by
    intro member hmember
    exact hacc.joined_not_deleted (mem_map_of_mem hmember)
  have hserverJoined : ∀ member ∈ joinedOnServer env params server change,
      member.1 ∉ change.deleteMembers := by
    intro member hmember
    apply hacc.joined_not_deleted
    have hjoin := mem_map_of_mem hmember (f := Prod.fst)
    simp only [joinedOnServer, joinedInCache, map_append, map_map, mem_append] at hjoin ⊢
    rcases hjoin with (h | h) | h
    · exact .inl (.inl (.inl h))
    · exact .inl (.inr h)
    · obtain ⟨member, hmember, heq⟩ := mem_map.mp h
      exact .inr (mem_map.mpr ⟨member, mem_of_mem_filter hmember, heq⟩)
  rw [applyBeforeAccess_members, resultMembers_append hgroupRoles hcacheJoined,
    resultMembers_append hfetchedRoles hserverJoined]
  have hold : (resultMembers change.modifyMemberRoles change.deleteMembers (group.members.map memberKey)).Perm
      (resultMembers change.modifyMemberRoles change.deleteMembers (fetched.members.map memberKey)) :=
    resultMembers_perm hsame.members honce
  rw [(hold.append_right _).congr_left, perm_append_left_iff]

theorem pending_same (hsame : SameGroup group fetched) (hnums : change.promotePendingPniAciMembers = [])
    (hcreds : ∀ member ∈ change.addMembers, hasCredential env member.aci = true) (ownACI : UUID) :
    ((applyBeforeAccess change group).pendingMembers.map pendingKey).Perm
      ((pendingOnServer env ownACI fetched change).map pendingKey) := by
  have hinvites : change.addMembers.filter (fun member => !hasCredential env member.aci) = [] := by
    apply filter_eq_nil_iff.mpr
    intro member hmember
    simp [hcreds member hmember]
  have hfilter : ∀ (keep : ServiceID → Bool) (pending : List PendingMember),
      (pending.filter fun p => keep p.serviceID).map pendingKey =
        (pending.map pendingKey).filter fun key => keep key.1 := by
    intro keep pending
    rw [filter_map]
    rfl
  have hadd : (change.addPendingMembers.map fun pending => { pending with timestamp := 0 }).map pendingKey =
      change.addPendingMembers.map pendingKey := by
    rw [map_map]
    rfl
  simp only [applyBeforeAccess_pendingMembers, staysPending_of_no_numbers hnums, pendingOnServer, hinvites]
  let keep : ServiceID → Bool := fun serviceID =>
    !((change.promotePendingMembers.map fun promo => newACIServiceID promo.aci).contains serviceID) &&
      !(change.deletePendingMembers.contains serviceID)
  rw [hfilter keep, hfilter keep, map_nil, nil_append, map_append, map_append, hadd]
  exact (hsame.pendingMembers.append_right _).filter _

theorem access_same_iff {ownACI : UUID} {actions : Actions}
    (hsent : Sent env params ownACI change actions) (access : Option GroupAccessControl) :
    access.map (modifyAccess change) = serverAccess actions access ↔
      (change.modifiesAccess = true → access.isSome = true) := by
  have hsrv : serverAccess actions access =
      if change.modifiesAccess then some (modifyAccess change (access.getD {})) else access := by
    unfold serverAccess modifyAccess GroupChange.modifiesAccess
    rw [hsent.attributesAccess, hsent.memberAccess, hsent.inviteLinkAccess]
  rw [hsrv]
  cases hmodifies : change.modifiesAccess with
  | true =>
    cases access with
    | none => simp
    | some access => simp
  | false =>
    simp only [GroupChange.modifiesAccess, Bool.or_eq_false_iff, Option.isSome_eq_false_iff,
      Option.isNone_iff_eq_none] at hmodifies
    obtain ⟨⟨hattr, hmems⟩, hlink⟩ := hmodifies
    have hkeep : modifyAccess change = id := by
      funext access
      simp [modifyAccess, hattr, hmems, hlink]
    simp [hkeep]

-- ApplyUpdate gives the default role to everyone it promotes from the pending list, takes every added member for
-- a member and keeps texts as sent, and decryptGroup does not read the announcement flag.
structure CacheFollows (env : Env) (fetched : Group) (change : GroupChange) : Prop where
  no_numbers : change.promotePendingPniAciMembers = []
  credentials : ∀ member ∈ change.addMembers, hasCredential env member.aci = true
  invitations : ∀ promo ∈ change.promotePendingMembers, ∀ pending ∈ fetched.pendingMembers,
    pending.serviceID = newACIServiceID promo.aci → pending.role = groupMemberDefault
  title : ∀ title ∈ change.modifyTitle, Clean env title
  description : ∀ description ∈ change.modifyDescription, Clean env description
  announcementsOnly : change.modifyAnnouncementsOnly ≠ some true
  access : change.modifiesAccess = true → fetched.accessControl.isSome = true

def updatedGroup (change : GroupChange) (group : Group) : Group :=
  match applyAccess change (applyBeforeAccess change group) with
  | none => applyBeforeAccess change group
  | some updated => { updated with revision := change.revision }

theorem updatedGroup_eq (change : GroupChange) (group : Group) : ∃ revision, updatedGroup change group =
    { applyBeforeAccess change group with
      accessControl := group.accessControl.map (modifyAccess change)
      revision } := by
  have hcontrol := (applyBeforeAccess_frame change group).2
  unfold updatedGroup
  generalize applyBeforeAccess change group = written at hcontrol
  unfold applyAccess
  rw [← hcontrol]
  obtain ⟨masterKey, identifier, title, avatar, members, description, announcements, revision, timer, access⟩ :=
    written
  cases access with
  | some access => exact ⟨change.revision, rfl⟩
  | none =>
    cases change.modifiesAccess with
    | true => exact ⟨revision, rfl⟩
    | false => exact ⟨change.revision, rfl⟩

theorem entry_updateEntry {cache : GroupCache} {id : GroupIdentifier} {cached : CachedGroup}
    (hcached : cache.data id = some cached) {secretParams : Bytes} {response : EndorsementsResponse}
    (hres : ∀ message, (cache.updateEntry id cached secretParams change response).1 ≠
      .error (.error message)) :
    ∃ endorsement, (cache.updateEntry id cached secretParams change response).2.entry id =
      some (updatedGroup change (cache.objects cached.group), endorsement) := by
  cases haccess : applyAccess change (applyBeforeAccess change (cache.objects cached.group)) with
  | none =>
    simp only [updateEntry, updatedGroup, haccess]
    exact ⟨cached.endorsement, entry_write_self hcached _⟩
  | some updated =>
    simp only [updateEntry, updatedGroup, haccess, renewEndorsements] at hres ⊢
    split at hres
    · exact absurd rfl (hres _)
    split at hres
    · exact absurd rfl (hres _)
    refine ⟨?endorsement, ?entry⟩
    case entry =>
      rw [entry_store_self]
      simp only [write, Function.update_self]
      rfl

theorem entry_applyUpdate {cache : GroupCache} {id : GroupIdentifier} {secretParams : Bytes}
    {endorsement : SendEndorsementCache} {response : EndorsementsResponse}
    (htarget : changeTarget env change = .ok (id, secretParams))
    (hentry : cache.entry id = some (group, endorsement))
    (hnext : change.revision.toNat = group.revision.toNat + 1)
    (hres : ∀ message, (cache.applyUpdate env change response).1 ≠ .error (.error message)) :
    ∃ endorsement', (cache.applyUpdate env change response).2.entry id =
      some (updatedGroup change group, endorsement') := by
  obtain ⟨cached, hcached, heq⟩ := Option.map_eq_some_iff.mp hentry
  cases heq
  obtain ⟨hnewer, hdirect⟩ := next_revision_iff.mpr hnext
  rw [applyUpdate_eq htarget hcached, if_neg hnewer, if_neg hdirect] at hres ⊢
  exact entry_updateEntry hcached hres

theorem invitedRoles_iff (h : Inverse env params) (hcanon : Canonical env params)
    (hstored : Stored env params server) (hreads : ReadsAs env params server fetched)
    (hacc : Accepted fetched change) :
    (∀ promo ∈ change.promotePendingMembers,
      invitedRole server (cipher env params (newACIServiceID promo.aci)) = groupMemberDefault) ↔
      ∀ promo ∈ change.promotePendingMembers, ∀ pending ∈ fetched.pendingMembers,
        pending.serviceID = newACIServiceID promo.aci → pending.role = groupMemberDefault := by
  constructor
  · intro hroles promo hpromo pending hpend hid
    rw [← invitedRole_eq h hcanon hstored hreads hpend, hid]
    exact hroles promo hpromo
  · intro hroles promo hpromo
    obtain ⟨pending, hpend, hid⟩ := mem_map.mp (hacc.promoted_invited promo hpromo)
    rw [← hid, invitedRole_eq h hcanon hstored hreads hpend]
    exact hroles promo hpromo pending hpend hid

-- After the change the cached group says the same as the group that the server then stores, exactly for the
-- changes above.
theorem cached_group_matches_server_iff (h : Inverse env params)
    (hcanon : Canonical env params) {masterKey identifier : Bytes}
    (hmaster : masterKeyToBytes change.groupMasterKey = .ok masterKey)
    (hpar : env.deriveGroupSecretParams masterKey = .ok params)
    (hid : env.groupIdentifier masterKey = .ok identifier)
    (hstored : Stored env params server)
    (hfetched : decryptGroup env server change.groupMasterKey = .ok fetched)
    (hacc : Accepted fetched change) {ownACI : UUID} {randomness : ℕ → Bytes} {actions : Actions}
    (henc : encryptGroupChange env params ownACI randomness change = .ok actions)
    {cache : GroupCache} {endorsement : SendEndorsementCache} {response : EndorsementsResponse}
    (hentry : cache.entry (Base64.encodeChars identifier) = some (group, endorsement))
    (hsame : SameGroup group fetched) (hrev : group.revision = server.version)
    (hnext : change.revision.toNat = server.version.toNat + 1)
    (hres : ∀ message, (cache.applyUpdate env change response).1 ≠ .error (.error message)) :
    (∃ group' endorsement' fetched',
      (cache.applyUpdate env change response).2.entry (Base64.encodeChars identifier) =
        some (group', endorsement') ∧
      decryptGroup env (serverApply env server actions) change.groupMasterKey = .ok fetched' ∧
      SameGroup group' fetched') ↔ CacheFollows env fetched change := by
  have hreads := readsAs_of_decryptGroup hmaster hpar hfetched
  have hsent := sent_of_encryptGroupChange h henc
  obtain ⟨fetched', hfetched', hmems, hpend, hrequesting, hbanned, htitle, hdesc, htimer,
    hann, haccess⟩ :=
    serverApply_read h hcanon hmaster hpar hid hstored hreads hsent hacc
  have htarget : changeTarget env change = .ok (Base64.encodeChars identifier, params) := by
    simp [changeTarget, hmaster, hpar, hid, bind, Except.bind, pure, Except.pure]
  obtain ⟨endorsement', hentry'⟩ := entry_applyUpdate htarget hentry (hrev ▸ hnext) hres
  obtain ⟨revision, hupdated⟩ := updatedGroup_eq change group
  obtain ⟨_, _, _, hprops⟩ := applyBeforeAccess_properties change group
  have hold := hsame.announcementsOnly.trans hreads.announcementsOnly
  have hcontrol := hsame.accessControl.trans hreads.accessControl
  constructor
  · rintro ⟨group', endorsement'', fetched'', hgroup', hdec', hsame'⟩
    obtain ⟨rfl, -⟩ := Prod.mk.inj (Option.some.inj (hentry'.symm.trans hgroup'))
    obtain rfl := Except.ok.inj (hfetched'.symm.trans hdec')
    rw [hupdated] at hsame'
    have hjoin : (joinedInCache change).Perm (joinedOnServer env params server change) := by
      apply (members_same_iff hsame hacc).mp
      rw [← hmems]
      exact hsame'.members
    obtain ⟨hnums, hcreds, hroles⟩ := joined_perm_iff.mp hjoin
    have htitles := hsame'.title
    have hdescs := hsame'.description
    have hflags := hsame'.announcementsOnly
    have hcontrols := hsame'.accessControl
    simp only [hprops, applyProperties, applyBanned, htitle, ← hsame.title] at htitles
    simp only [hprops, applyProperties, applyBanned, hdesc, ← hsame.description] at hdescs
    simp only [hprops, applyProperties, hann] at hflags
    simp only [haccess, ← hcontrol] at hcontrols
    refine ⟨hnums, hcreds, (invitedRoles_iff h hcanon hstored hreads hacc).mp hroles,
      (getD_eq_cleaned_iff env _ _).mp htitles, (getD_eq_cleaned_iff env _ _).mp hdescs, ?_, ?_⟩
    · intro hflag
      simp [hflag] at hflags
    · rw [← hsame.accessControl]
      exact (access_same_iff hsent group.accessControl).mp hcontrols
  · intro hfollows
    refine ⟨_, _, fetched', hentry', hfetched', ?_⟩
    have hroles := (invitedRoles_iff h hcanon hstored hreads hacc).mpr hfollows.invitations
    have hjoin := joined_perm_iff.mpr ⟨hfollows.no_numbers, hfollows.credentials, hroles⟩
    rw [hupdated]
    exact {
      members := by
        rw [hmems]
        exact (members_same_iff hsame hacc).mpr hjoin
      pendingMembers := by
        rw [hpend]
        exact pending_same hsame hfollows.no_numbers hfollows.credentials ownACI
      requestingMembers := by
        rw [hrequesting, applyBeforeAccess_requesting]
        exact (hsame.requestingMembers.append_right _).filter _
      bannedMembers := by
        have hperm := (hsame.bannedMembers.append_right (change.addBannedMembers.map BannedMember.serviceID)).filter
          fun id => !(change.deleteBannedMembers.contains id)
        rw [← map_append, ← map_append, filter_map, filter_map] at hperm
        rw [hbanned, hprops]
        exact hperm
      title := by
        rw [hprops, htitle, ← hsame.title]
        exact (getD_eq_cleaned_iff env _ _).mpr hfollows.title
      description := by
        rw [hprops, hdesc, ← hsame.description]
        exact (getD_eq_cleaned_iff env _ _).mpr hfollows.description
      disappearingMessagesDuration := by
        rw [hprops, htimer, ← hsame.disappearingMessagesDuration]
        rfl
      announcementsOnly := by
        rw [hprops, hann]
        refine (congrArg change.modifyAnnouncementsOnly.getD hold).trans ?_
        have hflag := hfollows.announcementsOnly
        cases hmodified : change.modifyAnnouncementsOnly with
        | none => rfl
        | some flag =>
          cases flag with
          | false => rfl
          | true => exact absurd hmodified hflag
      accessControl := by
        rw [haccess, ← hcontrol]
        apply (access_same_iff hsent group.accessControl).mpr
        rw [hsame.accessControl]
        exact hfollows.access }

end Same

def pairEnv : Env := plainEnv [UUID.ofByte 1, UUID.ofByte 2]

variable (role : GroupMemberRole)

def invitedServer : EncryptedGroup :=
  { title := 0 :: plainMarshal (.title ['A'])
    members := [some { userId := plainServiceID (newACIServiceID (UUID.ofByte 1))
                       profileKey := List.replicate profileKeyCiphertextLength 0
                       role := groupMemberAdministrator }]
    membersPendingProfileKey := [some { addedByUserId := plainServiceID (newACIServiceID (UUID.ofByte 1))
                                        member := some { userId := plainServiceID (newACIServiceID (UUID.ofByte 2))
                                                         role } }] }

def invitedGroup : Group :=
  { groupMasterKey := plainMasterKey
    groupIdentifier := plainMasterKey
    title := ['A']
    members := [{ aci := UUID.ofByte 1, role := groupMemberAdministrator
                  profileKey := (UUID.ofByte 1).bytes ++ (UUID.ofByte 1).bytes }]
    pendingMembers := [{ serviceID := newACIServiceID (UUID.ofByte 2), role, addedByUserID := UUID.ofByte 1 }] }

def invitedCache : GroupCache :=
  ((newGroupCache (newACIServiceID (UUID.ofByte 2)) fun _ => invitedGroup role).put
    pairEnv 0 countingResponse).2

def acceptInvitation : GroupChange :=
  { groupMasterKey := plainMasterKey
    revision := 1
    promotePendingMembers := [{ aci := UUID.ofByte 2 }] }

theorem SameGroup.refl : SameGroup group group :=
  ⟨.refl _, .refl _, .refl _, .refl _, rfl, rfl, rfl, rfl, rfl⟩

theorem plainEnv_canonical (credentialed : List UUID) (params : Bytes) : Canonical (plainEnv credentialed) params where
  unique ciphertext serviceID hdec := by
    simp only [plainEnv, readServiceID] at hdec
    split at hdec
    · split at hdec
      · cases hdec
        exact congrArg Except.ok ‹_›
      · cases hdec
    · cases hdec
  profileKey_length presentation ciphertext hkey := by
    rw [← Except.ok.inj hkey, length_replicate]

theorem invitedServer_stored : Stored pairEnv (List.replicate masterKeyLength 0) (invitedServer role) where
  pending_once := nodup_singleton _
  members member hmember := by
    obtain rfl := Option.some.inj (mem_singleton.mp hmember)
    exact ⟨by decide +kernel, length_replicate, UUID.ofByte 1,
      readServiceID_plainServiceID (newACIServiceID (UUID.ofByte 1))⟩
  requesting := nofun

theorem acceptInvitation_accepted : Accepted (invitedGroup role) acceptInvitation where
  members_once := nodup_singleton _
  subjects_once := nodup_singleton _
  roles_of_members := nofun
  promoted_invited promo hpromo := by
    obtain rfl := mem_singleton.mp hpromo
    exact mem_singleton.mpr rfl
  promoted_requesting := nofun

theorem cached_group_matches_server_accepted : ∃ actions group endorsement fetched,
    encryptGroupChange pairEnv (List.replicate masterKeyLength 0) (UUID.ofByte 2) (fun _ => [])
      acceptInvitation = .ok actions ∧ ((invitedCache groupMemberDefault).applyUpdate pairEnv acceptInvitation
      countingResponse).2.entry plainMasterKey = some (group, endorsement) ∧
    decryptGroup pairEnv (serverApply pairEnv (invitedServer groupMemberDefault) actions) plainMasterKey = .ok fetched ∧
    SameGroup group fetched := by
  have hfollows : CacheFollows pairEnv (invitedGroup groupMemberDefault) acceptInvitation := by
    refine ⟨rfl, nofun, ?_, nofun, nofun, by decide, nofun⟩
    intro promo _ pending hpend _
    obtain rfl := mem_singleton.mp hpend
    rfl
  have henc : encryptGroupChange pairEnv (List.replicate masterKeyLength 0) (UUID.ofByte 2) (fun _ => [])
      acceptInvitation = .ok
        { version := 1
          promoteMembersPendingProfileKey := [plainServiceID (newACIServiceID (UUID.ofByte 2))] } := by
    decide +kernel
  have hinverse : Inverse pairEnv (List.replicate masterKeyLength 0) := plainEnv_inverse _ _
  have hmaster := masterKeyToBytes_plainMasterKey
  have hfetched : decryptGroup pairEnv (invitedServer groupMemberDefault) acceptInvitation.groupMasterKey =
      .ok (invitedGroup groupMemberDefault) := by
    decide +kernel
  have hentry : (invitedCache groupMemberDefault).entry plainMasterKey =
      some (invitedGroup groupMemberDefault,
        { sendEndorsement := [1], memberEndorsements := [], expiration := 1000
          secretParams := List.replicate masterKeyLength 0 }) := by
    decide +kernel
  have hres : ∀ message, ((invitedCache groupMemberDefault).applyUpdate pairEnv acceptInvitation
      countingResponse).1 ≠ .error (.error message) := by
    exact nofun
  obtain ⟨group, endorsement, fetched, hgroup, hdec, hsame⟩ :=
    (cached_group_matches_server_iff hinverse (plainEnv_canonical _ _) hmaster rfl rfl (invitedServer_stored _)
      hfetched (acceptInvitation_accepted _) henc hentry (SameGroup.refl _) rfl rfl hres).mpr hfollows
  exact ⟨_, group, endorsement, fetched, henc, hgroup, hdec, hsame⟩

-- A user who was invited as an administrator and accepts is an administrator on the server, and a member with the
-- default role in the cache.
theorem accepted_administrator_cached_as_default : ∃ actions group endorsement fetched,
    decryptGroup pairEnv (invitedServer groupMemberAdministrator) plainMasterKey =
      .ok (invitedGroup groupMemberAdministrator) ∧ Accepted (invitedGroup groupMemberAdministrator) acceptInvitation ∧
    ((invitedCache groupMemberAdministrator).entry plainMasterKey).map Prod.fst =
      some (invitedGroup groupMemberAdministrator) ∧
    encryptGroupChange pairEnv (List.replicate masterKeyLength 0) (UUID.ofByte 2) (fun _ => [])
      acceptInvitation = .ok actions ∧ ((invitedCache groupMemberAdministrator).applyUpdate pairEnv acceptInvitation
      countingResponse).2.entry plainMasterKey = some (group, endorsement) ∧
    decryptGroup pairEnv (serverApply pairEnv (invitedServer groupMemberAdministrator) actions) plainMasterKey =
      .ok fetched ∧ ¬ SameGroup group fetched := by
  refine ⟨_, _, _, _, by decide +kernel, acceptInvitation_accepted _, by decide +kernel, rfl, rfl, rfl, ?_⟩
  intro hsame
  have hroles := hsame.members
  revert hroles
  decide +kernel

end MautrixSignal.Groups
