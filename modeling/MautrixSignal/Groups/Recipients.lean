import MautrixSignal.Groups.CachedGroup
import MautrixSignal.Groups.Update

namespace MautrixSignal.Groups

open Lib List GroupMember GroupCache GroupChange

def Group.memberIDs (group : Group) : List ServiceID :=
  group.members.map userServiceID

def Group.pendingIDs (group : Group) : List ServiceID :=
  group.pendingMembers.map PendingMember.serviceID

def Group.present (group : Group) : List ServiceID :=
  group.memberIDs ++ group.pendingIDs

def GroupChange.invitedIDs (change : GroupChange) : List ServiceID :=
  change.addPendingMembers.map PendingMember.serviceID

def GroupChange.addedIDs (change : GroupChange) : List ServiceID :=
  change.addMembers.map fun member => member.toGroupMember.userServiceID

def GroupChange.approvedIDs (change : GroupChange) : List ServiceID :=
  change.promoteRequestingMembers.map fun promo => newACIServiceID promo.aci

section Present

variable {change : GroupChange} {group : Group} {id : ServiceID}

theorem members_after (change : GroupChange) (group : Group) :
    (applyBeforeAccess change group).memberIDs =
      ((group.members.map GroupMember.aci ++ (joinedInCache change).map Prod.fst).filter fun aci =>
        !(change.deleteMembers.contains aci)).map newACIServiceID := by
  have hacis : ∀ group : Group, group.members.map GroupMember.aci = (group.members.map memberKey).map Prod.fst := by
    intro group
    rw [map_map]
    rfl
  have hroles : ∀ members, (change.modifyMemberRoles.foldl setRole members).map Prod.fst = members.map Prod.fst := by
    induction change.modifyMemberRoles with
    | nil => exact fun _ => rfl
    | cons rm roles ih => exact fun members => (ih _).trans (map_fst_setRole members rm)
  rw [hacis, ← map_append, ← hroles, filter_map]
  change _ = ((resultMembers _ _ _).map Prod.fst).map _
  rw [← applyBeforeAccess_members, ← hacis, map_map]
  rfl

theorem pending_after (change : GroupChange) (group : Group) :
    (applyBeforeAccess change group).pendingIDs =
      (group.pendingIDs ++ change.invitedIDs).filter change.staysPending := by
  rw [Group.pendingIDs, applyBeforeAccess_pendingMembers, Group.pendingIDs, invitedIDs, ← map_append, filter_map]
  rfl

theorem staysPending_iff : change.staysPending id = true ↔
    (∀ promo ∈ change.promotePendingMembers, id ≠ newACIServiceID promo.aci) ∧
    (∀ promo ∈ change.promotePendingPniAciMembers, id ≠ newPNIServiceID promo.pni ∧ id ≠ newACIServiceID promo.aci) ∧
    id ∉ change.deletePendingMembers := by
  obtain ⟨type, uuid⟩ := id
  simp [staysPending, PromotePendingMember.names, PromotePendingPniAciMember.names, newACIServiceID,
    newPNIServiceID, and_assoc, imp_iff_not_or]

theorem mem_joinedInCache {aci : UUID} : aci ∈ (joinedInCache change).map Prod.fst ↔
    (∃ promo ∈ change.promotePendingMembers, promo.aci = aci) ∨
    (∃ promo ∈ change.promotePendingPniAciMembers, promo.aci = aci) ∨
    newACIServiceID aci ∈ change.approvedIDs ∨ newACIServiceID aci ∈ change.addedIDs := by
  simp [joinedInCache, approvedIDs, addedIDs, userServiceID, newACIServiceID]

theorem mem_members_after : id ∈ (applyBeforeAccess change group).memberIDs ↔
    ∃ aci, newACIServiceID aci = id ∧ aci ∉ change.deleteMembers ∧
      (newACIServiceID aci ∈ group.memberIDs ∨
        aci ∈ (joinedInCache change).map Prod.fst) := by
  have hmember : ∀ aci, newACIServiceID aci ∈ group.memberIDs ↔
      aci ∈ group.members.map GroupMember.aci := by
    simp [Group.memberIDs, userServiceID, newACIServiceID]
  rw [members_after]
  simp only [mem_map, mem_filter, mem_append, hmember]
  constructor
  · rintro ⟨aci, ⟨hin, hkept⟩, rfl⟩
    exact ⟨aci, rfl, by simpa using hkept, hin⟩
  · rintro ⟨aci, rfl, hkept, hin⟩
    exact ⟨aci, ⟨hin, by simpa using hkept⟩, rfl⟩

theorem mem_pending_after : id ∈ (applyBeforeAccess change group).pendingIDs ↔
    (id ∈ group.pendingIDs ∨ id ∈ change.invitedIDs) ∧
      change.staysPending id = true := by
  rw [pending_after, mem_filter, mem_append]

end Present

-- Nobody is present twice, those who come are new and different, those who are removed or promoted are
-- present, and each user has one action.
structure UpdateAccepted (before : Group) (change : GroupChange) : Prop where
  present_once : before.present.Nodup
  newcomers_once : (change.invitedIDs ++ change.addedIDs ++ change.approvedIDs).Nodup
  newcomers_new : ∀ id ∈ change.invitedIDs ++ change.addedIDs ++ change.approvedIDs, id ∉ before.present
  deleted_members : ∀ aci ∈ change.deleteMembers,
    newACIServiceID aci ∈ before.memberIDs
  deleted_pending : ∀ id ∈ change.deletePendingMembers, id ∈ before.pendingIDs
  promoted_pending : ∀ promo ∈ change.promotePendingMembers,
    newACIServiceID promo.aci ∈ before.pendingIDs
  promoted_once : (change.promotePendingMembers.map PromotePendingMember.aci).Nodup
  promoted_kept : ∀ promo ∈ change.promotePendingMembers,
    newACIServiceID promo.aci ∉ change.deletePendingMembers
  numbers_pending : ∀ promo ∈ change.promotePendingPniAciMembers,
    newPNIServiceID promo.pni ∈ before.pendingIDs
  numbers_joined : ∀ promo ∈ change.promotePendingPniAciMembers, promo.aci ∉ change.deleteMembers ∧
    newACIServiceID promo.aci ∉ change.invitedIDs ++ change.addedIDs

def AddressedOnce (before : Group) (change : GroupChange) (recipients : List ServiceID) : Prop :=
  ∀ id ∈ before.present ++ (applyBeforeAccess change before).present, recipients.count id = 1

section Counting

variable {change : GroupChange} {before : Group} {id : ServiceID}

theorem count_ne_one_of_mem_both {first second : List ServiceID} (hfirst : id ∈ first) (hsecond : id ∈ second) :
    (first ++ second).count id ≠ 1 := by
  have hpos := count_pos_iff.mpr hfirst
  have hpos' := count_pos_iff.mpr hsecond
  rw [count_append]
  omega

section

variable (h : UpdateAccepted before change)

include h

theorem UpdateAccepted.not_both (hmember : id ∈ before.memberIDs) :
    id ∉ before.pendingIDs := by
  intro hpend
  exact disjoint_of_nodup_append h.present_once hmember hpend

theorem UpdateAccepted.invited_stays (hinvited : id ∈ change.invitedIDs) : change.staysPending id = true := by
  have hnew := h.newcomers_new id (mem_append_left _ (mem_append_left _ hinvited))
  have hpend := fun hmem => hnew (mem_append_right _ hmem)
  refine staysPending_iff.mpr ⟨?_, ?_, ?_⟩
  · rintro promo hpromo rfl
    exact hpend (h.promoted_pending promo hpromo)
  · intro promo hpromo
    refine ⟨?_, ?_⟩
    · rintro rfl
      exact hpend (h.numbers_pending promo hpromo)
    · rintro rfl
      exact (h.numbers_joined promo hpromo).2 (mem_append_left _ hinvited)
  · intro hdel
    exact hpend (h.deleted_pending id hdel)

theorem UpdateAccepted.joined_present {aci : UUID} (hid : newACIServiceID aci ∈ change.addedIDs ++ change.approvedIDs) :
    newACIServiceID aci ∈ (applyBeforeAccess change before).present := by
  have hjoin := mem_joinedInCache.mpr (.inr (.inr (mem_append.mp hid).symm))
  refine mem_append_left _ (mem_members_after.mpr ⟨aci, rfl, fun hdel => ?_, .inr hjoin⟩)
  refine h.newcomers_new _ ?_ (mem_append_left _ (h.deleted_members aci hdel))
  rw [append_assoc]
  exact mem_append_right _ hid

theorem UpdateAccepted.present_after_nodup (hadd : change.addMembers = [])
    (hinvited : change.addPendingMembers = []) (hnums : change.promotePendingPniAciMembers = []) :
    (applyBeforeAccess change before).present.Nodup := by
  obtain ⟨hmems, hpend, -⟩ := nodup_append.mp h.present_once
  have hacis : (before.members.map GroupMember.aci).Nodup := by
    apply List.Nodup.of_map newACIServiceID
    rw [map_map]
    exact hmems
  have happroved : (change.promoteRequestingMembers.map RoleMember.aci).Nodup := by
    apply List.Nodup.of_map newACIServiceID
    rw [map_map]
    exact (nodup_append.mp h.newcomers_once).2.1
  have hjoin : (joinedInCache change).map Prod.fst =
      change.promotePendingMembers.map PromotePendingMember.aci ++
        change.promoteRequestingMembers.map RoleMember.aci := by
    simp [joinedInCache, hadd, hnums, Function.comp_def]
  have happrovedNew : ∀ aci ∈ change.promoteRequestingMembers.map RoleMember.aci,
      newACIServiceID aci ∉ before.present := by
    intro aci haci
    obtain ⟨promo, hpromo, rfl⟩ := mem_map.mp haci
    apply h.newcomers_new
    apply mem_append_right
    exact mem_map.mpr ⟨promo, hpromo, rfl⟩
  have hprom : ∀ aci ∈ change.promotePendingMembers.map PromotePendingMember.aci,
      newACIServiceID aci ∈ before.pendingIDs := by
    intro aci haci
    obtain ⟨promo, hpromo, rfl⟩ := mem_map.mp haci
    exact h.promoted_pending promo hpromo
  have hall : (before.members.map GroupMember.aci ++ (joinedInCache change).map Prod.fst).Nodup := by
    rw [hjoin]
    apply hacis.append
    · apply h.promoted_once.append happroved
      intro aci hfirst hsecond
      exact happrovedNew aci hsecond (mem_append_right _ (hprom aci hfirst))
    · intro aci hmember hjoin
      have hid : newACIServiceID aci ∈ before.memberIDs := by
        obtain ⟨member, hin, rfl⟩ := mem_map.mp hmember
        exact mem_map_of_mem hin
      rcases mem_append.mp hjoin with hfirst | hsecond
      · exact h.not_both hid (hprom aci hfirst)
      · exact happrovedNew aci hsecond (mem_append_left _ hid)
  apply List.Nodup.append
  · rw [members_after]
    exact (hall.filter _).map fun aci aci' heq => newACIServiceID_inj.mp heq
  · rw [pending_after, invitedIDs, hinvited, map_nil, append_nil]
    exact hpend.filter _
  · intro id hmember hafter
    obtain ⟨hin, hstays⟩ := mem_pending_after.mp hafter
    have hid : id ∈ before.pendingIDs := by
      simpa [invitedIDs, hinvited] using hin
    obtain ⟨aci, rfl, -, hold | hnew⟩ := mem_members_after.mp hmember
    · exact h.not_both hold hid
    · rw [hjoin] at hnew
      rcases mem_append.mp hnew with hfirst | hsecond
      · obtain ⟨promo, hpromo, rfl⟩ := mem_map.mp hfirst
        exact (staysPending_iff.mp hstays).1 promo hpromo rfl
      · exact happrovedNew aci hsecond (mem_append_right _ hid)

end

theorem present_after_of_present (hdel : change.deleteMembers = []) (hrem : change.deletePendingMembers = [])
    (hnums : change.promotePendingPniAciMembers = []) (hpres : id ∈ before.present) :
    id ∈ (applyBeforeAccess change before).present := by
  rcases mem_append.mp hpres with hmember | hpend
  · obtain ⟨member, hmember', rfl⟩ := mem_map.mp hmember
    apply mem_append_left
    exact mem_members_after.mpr ⟨member.aci, rfl, by simp [hdel], .inl hmember⟩
  · by_cases hprom : ∃ promo ∈ change.promotePendingMembers, newACIServiceID promo.aci = id
    · obtain ⟨promo, hpromo, rfl⟩ := hprom
      apply mem_append_left
      exact mem_members_after.mpr ⟨promo.aci, rfl, by simp [hdel],
        .inr (mem_joinedInCache.mpr (.inl ⟨promo, hpromo, rfl⟩))⟩
    · apply mem_append_right
      refine mem_pending_after.mpr ⟨.inl hpend, staysPending_iff.mpr ⟨?_, by simp [hnums], by simp [hrem]⟩⟩
      intro promo hpromo heq
      exact hprom ⟨promo, hpromo, heq.symm⟩

theorem UpdateAccepted.nothing_lost (h : UpdateAccepted before change) (hinvited : change.addPendingMembers = [])
    (hadd : change.addMembers = []) (hkept : ∀ id ∈ before.present, id ∈ (applyBeforeAccess change before).present) :
    change.promotePendingPniAciMembers = [] ∧ change.deleteMembers = [] ∧ change.deletePendingMembers = [] := by
  have hnobody : change.invitedIDs = [] := by simp [invitedIDs, hinvited]
  have hnobody' : change.addedIDs = [] := by simp [addedIDs, hadd]
  have hnums : change.promotePendingPniAciMembers = [] := by
    apply eq_nil_iff_forall_not_mem.mpr
    intro promo hpromo
    have hpres := hkept _ (mem_append_right _ (h.numbers_pending promo hpromo))
    rcases mem_append.mp hpres with hmember | hpend
    · obtain ⟨aci, haci, -⟩ := mem_members_after.mp hmember
      exact absurd (congrArg ServiceID.type haci) (by decide : serviceIDTypeACI ≠ serviceIDTypePNI)
    · exact ((staysPending_iff.mp (mem_pending_after.mp hpend).2).2.1 promo hpromo).1 rfl
  refine ⟨hnums, ?_, ?_⟩
  · apply eq_nil_iff_forall_not_mem.mpr
    intro aci haci
    have hmember := h.deleted_members aci haci
    rcases mem_append.mp (hkept _ (mem_append_left _ hmember)) with hafter | hafter
    · obtain ⟨aci', heq, hkept', -⟩ := mem_members_after.mp hafter
      rw [newACIServiceID_inj.mp heq] at hkept'
      exact hkept' haci
    · rcases (mem_pending_after.mp hafter).1 with hpend | hnew
      · exact h.not_both hmember hpend
      · simp [hnobody] at hnew
  · apply eq_nil_iff_forall_not_mem.mpr
    intro id hid
    have hpend := h.deleted_pending id hid
    rcases mem_append.mp (hkept _ (mem_append_right _ hpend)) with hafter | hafter
    · obtain ⟨aci, rfl, -, hmember | hjoin⟩ := mem_members_after.mp hafter
      · exact h.not_both hmember hpend
      · rcases mem_joinedInCache.mp hjoin with ⟨promo, hpromo, rfl⟩ | ⟨promo, hpromo, -⟩ | happroved | hnew
        · exact h.promoted_kept promo hpromo hid
        · simp [hnums] at hpromo
        · exact h.newcomers_new _ (mem_append_right _ happroved) (mem_append_right _ hpend)
        · simp [hnobody'] at hnew
    · exact (staysPending_iff.mp (mem_pending_after.mp hafter).2).2.2 hid

theorem UpdateAccepted.changed_iff (h : UpdateAccepted before change) :
    AddressedOnce before change
        ((applyBeforeAccess change before).present ++ change.invitedIDs ++ change.addedIDs) ↔
      change.addPendingMembers = [] ∧ change.addMembers = [] ∧ change.promotePendingPniAciMembers = [] ∧
        change.deleteMembers = [] ∧ change.deletePendingMembers = [] := by
  constructor
  · intro hall
    -- whoever is added is in the changed group already, and is addressed twice
    have htwice : ∀ id ∈ change.invitedIDs ++ change.addedIDs, id ∉ (applyBeforeAccess change before).present := by
      intro id hnew hpres
      have hcount := hall id (mem_append_right _ hpres)
      rw [append_assoc] at hcount
      exact count_ne_one_of_mem_both hpres hnew hcount
    have hinvited : change.addPendingMembers = [] := by
      apply eq_nil_iff_forall_not_mem.mpr
      intro pending hpend
      have hid : pending.serviceID ∈ change.invitedIDs := mem_map_of_mem hpend
      apply htwice _ (mem_append_left _ hid)
      exact mem_append_right _ (mem_pending_after.mpr ⟨.inr hid, h.invited_stays hid⟩)
    have hadd : change.addMembers = [] := by
      apply eq_nil_iff_forall_not_mem.mpr
      intro member hmember
      have hid :=
        mem_map_of_mem (f := fun member : AddMember => member.toGroupMember.userServiceID) hmember
      exact htwice _ (mem_append_right _ hid) (h.joined_present (mem_append_left _ hid))
    have hkept : ∀ id ∈ before.present, id ∈ (applyBeforeAccess change before).present := by
      intro id hid
      have hcount := hall id (mem_append_left _ hid)
      simp only [invitedIDs, addedIDs, hinvited, hadd, map_nil, append_nil] at hcount
      apply count_pos_iff.mp
      omega
    exact ⟨hinvited, hadd, h.nothing_lost hinvited hadd hkept⟩
  · rintro ⟨hinvited, hadd, hnums, hdel, hrem⟩ id hid
    simp only [invitedIDs, addedIDs, hinvited, hadd, map_nil, append_nil]
    apply count_eq_one_of_mem (h.present_after_nodup hadd hinvited hnums)
    rcases mem_append.mp hid with hpres | hpres
    · exact present_after_of_present hdel hrem hnums hpres
    · exact hpres

theorem UpdateAccepted.unchanged_iff (h : UpdateAccepted before change) :
    AddressedOnce before change (before.present ++ change.invitedIDs ++ change.addedIDs) ↔
      change.promoteRequestingMembers = [] ∧
        ∀ promo ∈ change.promotePendingPniAciMembers, newACIServiceID promo.aci ∈ before.present := by
  have hnodup : (before.present ++ change.invitedIDs ++ change.addedIDs).Nodup := by
    rw [append_assoc]
    apply h.present_once.append (nodup_append.mp h.newcomers_once).1
    intro id hpres hnew
    exact h.newcomers_new id (mem_append_left _ hnew) hpres
  constructor
  · intro hall
    have hmem : ∀ id ∈ (applyBeforeAccess change before).present,
        id ∈ before.present ∨ id ∈ change.invitedIDs ++ change.addedIDs := by
      intro id hid
      have hcount := hall id (mem_append_right _ hid)
      rw [append_assoc] at hcount
      apply mem_append.mp
      apply count_pos_iff.mp
      omega
    constructor
    · apply eq_nil_iff_forall_not_mem.mpr
      intro promo hpromo
      have hid := mem_map_of_mem (f := fun promo : RoleMember => newACIServiceID promo.aci) hpromo
      rcases hmem _ (h.joined_present (mem_append_right _ hid)) with hpres | hnew
      · exact h.newcomers_new _ (mem_append_right _ hid) hpres
      · exact disjoint_of_nodup_append h.newcomers_once hnew hid
    · intro promo hpromo
      obtain ⟨hkept, hother⟩ := h.numbers_joined promo hpromo
      have hafter : newACIServiceID promo.aci ∈ (applyBeforeAccess change before).present := by
        apply mem_append_left
        exact mem_members_after.mpr ⟨promo.aci, rfl, hkept,
          .inr (mem_joinedInCache.mpr (.inr (.inl ⟨promo, hpromo, rfl⟩)))⟩
      exact (hmem _ hafter).resolve_right hother
  · rintro ⟨happroved, hnums⟩ id hid
    apply count_eq_one_of_mem hnodup
    rw [append_assoc, mem_append]
    rcases mem_append.mp hid with hpres | hafter
    · exact .inl hpres
    rcases mem_append.mp hafter with hmember | hpend
    · obtain ⟨aci, rfl, -, hmember | hjoin⟩ := mem_members_after.mp hmember
      · exact .inl (mem_append_left _ hmember)
      · rcases mem_joinedInCache.mp hjoin with ⟨promo, hpromo, rfl⟩ | ⟨promo, hpromo, rfl⟩ | hnew | hnew
        · exact .inl (mem_append_right _ (h.promoted_pending promo hpromo))
        · exact .inl (hnums promo hpromo)
        · simp [approvedIDs, happroved] at hnew
        · exact .inr (mem_append_right _ hnew)
    · rcases (mem_pending_after.mp hpend).1 with hpend | hnew
      · exact .inl (mem_append_right _ hpend)
      · exact .inr (mem_append_left _ hnew)

end Counting

section Rewritten

variable {env : Env} {world : World} {client client₁ client₂ : Client} {gid : GroupIdentifier}
variable {change : GroupChange}

theorem objects_updateEntry {cache : GroupCache} {id : GroupIdentifier} {cached : CachedGroup}
    {secretParams : Bytes} {response : EndorsementsResponse} :
    (cache.updateEntry id cached secretParams change response).2.objects =
      Function.update cache.objects cached.group (updatedGroup change (cache.objects cached.group)) := by
  cases haccess : applyAccess change (applyBeforeAccess change (cache.objects cached.group)) with
  | none =>
    simp only [updateEntry, updatedGroup, haccess]
    rfl
  | some updated =>
    simp only [updateEntry, updatedGroup, haccess, renewEndorsements]
    split
    · rfl
    · split <;> rfl

def rewritten (cache : GroupCache) (gid : GroupIdentifier) (group : Ref) (change : GroupChange) : Bool :=
  (cache.data gid).any (fun cached => cached.group = group) && change.revision ≠ 0

theorem objects_applyUpdate {cache : GroupCache} {secretParams : Bytes} {group : Ref}
    (htarget : changeTarget env change = .ok (gid, secretParams))
    (hrev : change.revision = (cache.objects group).revision + 1) (response : EndorsementsResponse) :
    (cache.applyUpdate env change response).2.objects group =
      if rewritten cache gid group change then updatedGroup change (cache.objects group)
      else cache.objects group := by
  unfold rewritten
  cases hcached : cache.data gid with
  | none => simp [applyUpdate, htarget, hcached]
  | some cached =>
    rw [applyUpdate_eq htarget hcached]
    by_cases hsame : cached.group = group
    · subst hsame
      by_cases hwrap : change.revision = 0
      · simp [hwrap]
      · have hnext : change.revision.toNat = (cache.objects cached.group).revision.toNat + 1 := by
          have hne := mt UInt32.toNat_inj.mp hwrap
          have hlt := (cache.objects cached.group).revision.toNat_lt
          rw [hrev, UInt32.toNat_add] at hne ⊢
          simp only [UInt32.toNat_one, UInt32.toNat_zero] at hne ⊢
          omega
        obtain ⟨hnewer, hdirect⟩ := next_revision_iff.mpr hnext
        rw [if_neg hnewer, if_neg hdirect, objects_updateEntry]
        simp [hwrap]
    · have hother : (some cached).any (fun c => decide (c.group = group)) = false := by simp [hsame]
      rw [hother]
      simp only [Bool.false_and, Bool.false_eq_true, if_false]
      split
      · rfl
      · split
        · rfl
        · rw [objects_updateEntry, Function.update_of_ne (Ne.symm hsame)]

theorem encryptAndSignGroupChange_cache {result : Except SendError GroupChangeResponse}
    (h : encryptAndSignGroupChange env world client change = (result, client₁)) : client₁.cache = client.cache := by
  unfold encryptAndSignGroupChange at h
  simp only at h
  split at h
  all_goals
    obtain rfl := (Prod.mk.inj h).2
    rfl

theorem attemptChange_next {retries : ℕ} {refetched : Bool} {group group' : Ref} {sent : GroupChange}
    {response : GroupChangeResponse} (hrev : change.revision = (client.cache.objects group).revision + 1)
    (h : attemptChange env world gid retries refetched client group change = (.ok (group', sent, response), client₁)) :
    sent.revision = (client₁.cache.objects group').revision + 1 ∧ sent.groupMasterKey = change.groupMasterKey := by
  fun_induction attemptChange env world gid retries refetched client group change with
  | case1 _ _ _ _ _ _ _ hsend =>
    cases h
    rw [encryptAndSignGroupChange_cache hsend]
    exact ⟨hrev, rfl⟩
  | case4 _ _ _ _ _ _ _ _ hsend ih => exact ih (encryptAndSignGroupChange_cache hsend ▸ hrev) h
  | case8 _ _ _ _ _ _ _ _ _ _ hresolved _ _ ih =>
    obtain ⟨hnext, hkey⟩ := ih rfl h
    refine ⟨hnext, hkey.trans ?_⟩
    simp only [resolveConflict, bind_eq_ok_iff] at hresolved
    obtain ⟨_, -, _, -, _, -, _, -, _, -, _, -, _, -, _, -, _, -, _, -, _, -, _, -, _, -, _, -, _, -, _, -, _, -, _, -,
      hresolved⟩ := hresolved
    rw [← Except.ok.inj hresolved]
  | case2 | case3 | case5 | case6 | case7 | case9 => cases h

theorem sendGroupUpdate_eq {group : Group} {bytes : Bytes}
    (h : groupIdentifierBytes group.groupIdentifier = .ok bytes) (change : GroupChange) :
    sendGroupUpdate group change = .ok (group.present ++ change.invitedIDs ++ change.addedIDs) := by
  simp [sendGroupUpdate, h, bind, Except.bind, pure, Except.pure, Group.present, Group.memberIDs,
    Group.pendingIDs, invitedIDs, addedIDs]

-- The changes whose message reaches everyone once. The recipients are read from the group object after ApplyUpdate,
-- which has changed it if it is the cached one.
def ReachesEveryone (rewritten : Bool) (before : Group) (change : GroupChange) : Prop :=
  if rewritten then
    change.addPendingMembers = [] ∧ change.addMembers = [] ∧ change.promotePendingPniAciMembers = [] ∧
      change.deleteMembers = [] ∧ change.deletePendingMembers = []
  else
    change.promoteRequestingMembers = [] ∧
      ∀ promo ∈ change.promotePendingPniAciMembers, newACIServiceID promo.aci ∈ before.present

-- A successful UpdateGroup addresses its change to everyone who was or is present, each once, exactly for these
-- changes.
theorem updateGroup_addresses_once_iff {groupMasterKey : SerializedGroupMasterKey}
    {masterKey groupSecretParams identifier : Bytes} {group group' : Ref} {sent : GroupChange}
    {response : GroupChangeResponse} {client' : Client} {revision : UInt32}
    {addressed : Except Failure (List ServiceID)}
    (hkey : world.masterKeyFromGroupIdentifier gid = .ok groupMasterKey) (hne : groupMasterKey ≠ [])
    (hmaster : masterKeyToBytes groupMasterKey = .ok masterKey)
    (hpar : env.deriveGroupSecretParams masterKey = .ok groupSecretParams)
    (hid : env.groupIdentifier masterKey = .ok identifier) (hgid : gid = Base64.encodeChars identifier)
    (hretr : retrieveGroupByID env world client gid 0 = (.ok group, client₁))
    (hatt : attemptChange env world gid 5 false client₁ group
      (prepareChange world (client₁.cache.objects group) groupMasterKey change) =
        (.ok (group', sent, response), client₂))
    (hbytes : ∃ bytes, groupIdentifierBytes (client₂.cache.objects group').groupIdentifier = .ok bytes)
    (hacc : UpdateAccepted (client₂.cache.objects group') sent)
    (hupd : updateGroup env world client change gid = (.ok (revision, addressed), client')) :
    (∃ recipients, addressed = .ok recipients ∧ AddressedOnce (client₂.cache.objects group') sent recipients) ↔
      ReachesEveryone (rewritten client₂.cache gid group' sent) (client₂.cache.objects group') sent := by
  obtain ⟨hrev, hsentKey⟩ := attemptChange_next rfl hatt
  have htarget : changeTarget env sent = .ok (gid, groupSecretParams) := by
    have hsentMaster : masterKeyToBytes sent.groupMasterKey = .ok masterKey := by
      rw [hsentKey]
      exact hmaster
    simp [changeTarget, hsentMaster, hid, hpar, hgid, bind, Except.bind, pure, Except.pure]
  have hobject := objects_applyUpdate htarget hrev response.groupSendEndorsementsResponse
  rw [updateGroup_eq hkey hne hmaster hretr, hatt] at hupd
  obtain ⟨-, -, hres, -⟩ := finishUpdate_eq_ok_iff.mp hupd
  cases hres
  obtain ⟨bytes, hbytes⟩ := hbytes
  rw [hobject]
  cases hrewritten : rewritten client₂.cache gid group' sent with
  | true =>
    obtain ⟨revision, hupdated⟩ := updatedGroup_eq sent (client₂.cache.objects group')
    rw [← (applyBeforeAccess_frame sent (client₂.cache.objects group')).1] at hbytes
    rw [if_pos rfl, hupdated, sendGroupUpdate_eq (by exact hbytes)]
    simp only [Except.ok.injEq, exists_eq_left']
    exact hacc.changed_iff
  | false =>
    simp only [Bool.false_eq_true, if_false, sendGroupUpdate_eq hbytes, Except.ok.injEq, exists_eq_left']
    exact hacc.unchanged_iff

end Rewritten

def pairClient : Client :=
  { cache := ((newGroupCache (newACIServiceID (UUID.ofByte 1)) fun _ => newGroup).put (plainEnv []) 0
      countingResponse).2
    next := 1 }

theorem updateGroup_addresses_once_newTitle : ∃ sent recipients,
    (updateGroup (plainEnv []) (conflictingWorld 0) pairClient newTitle plainMasterKey).1 = .ok (1, .ok recipients) ∧
    sent = prepareChange (conflictingWorld 0) newGroup plainMasterKey newTitle ∧
    AddressedOnce newGroup sent recipients := by
  obtain ⟨retrieved, hretr, hobject, hreqs⟩ : ∃ retrieved : Client,
      retrieveGroupByID (plainEnv []) (conflictingWorld 0) pairClient plainMasterKey 0 = (.ok 0, retrieved) ∧
      retrieved.cache.objects 0 = newGroup ∧ retrieved.requests = [] :=
    ⟨_, Prod.ext (by decide +kernel) rfl, by decide +kernel, by decide +kernel⟩
  have henc : encryptGroupChange (plainEnv []) (List.replicate masterKeyLength 0) (conflictingWorld 0).ownACI
      ((conflictingWorld 0).randomness retrieved.requests.length)
      (prepareChange (conflictingWorld 0) (retrieved.cache.objects 0) plainMasterKey newTitle) =
      .ok { version := 1, modifyTitle := some (0 :: plainMarshal (.title ['B'])) } := by
    rw [hobject, hreqs]
    decide +kernel
  have hupd : (updateGroup (plainEnv []) (conflictingWorld 0) pairClient newTitle plainMasterKey).1 =
      .ok (1, .ok [newACIServiceID (UUID.ofByte 1), newACIServiceID (UUID.ofByte 2)]) := by
    decide +kernel
  rw [← hobject]
  refine ⟨_, [newACIServiceID (UUID.ofByte 1), newACIServiceID (UUID.ofByte 2)], hupd, rfl, ?_⟩
  obtain ⟨recipients, haddr, honce⟩ := (updateGroup_addresses_once_iff rfl (by decide +kernel)
    masterKeyToBytes_plainMasterKey rfl rfl rfl hretr
      (attemptChange_of_accepted masterKeyToBytes_plainMasterKey rfl henc rfl 5 false)
      ⟨List.replicate 32 0, by simp only [hobject]; decide +kernel⟩
      (by simp only [hobject]; constructor <;> decide +kernel) (Prod.ext hupd rfl)).mpr
      (by unfold ReachesEveryone; split <;> simp [prepareChange, newTitle])
  cases haddr
  exact honce

def removeSecond : GroupChange := { groupMasterKey := [], deleteMembers := [UUID.ofByte 2] }

-- The cache holds the same object, so the recipients are built from the group after the change.
theorem removed_member_not_addressed :
    (updateGroup (plainEnv []) (conflictingWorld 0) pairClient removeSecond plainMasterKey).1 =
      .ok (1, .ok [newACIServiceID (UUID.ofByte 1)]) ∧
    UpdateAccepted newGroup removeSecond ∧ newACIServiceID (UUID.ofByte 2) ∈ newGroup.present ∧
    ¬ AddressedOnce newGroup removeSecond [newACIServiceID (UUID.ofByte 1)] := by
  refine ⟨by decide +kernel, ?_, by decide +kernel, ?_⟩
  · constructor <;> decide +kernel
  · intro honce
    have hcount := honce (newACIServiceID (UUID.ofByte 2)) (by decide +kernel)
    revert hcount
    decide +kernel

end MautrixSignal.Groups
