import Mathlib.Data.List.Chain
import MautrixSignal.Groups.Update

namespace MautrixSignal.Groups

open Lib List

section Ranging

variable {α : Type} {p : α → Bool} {a : α} {n i length : ℕ} {array out : List α}

-- The entries that a loop of resolveConflict deletes are not next to each other, and the last entry is one of
-- them only if it is the only one.
def Apart (p : α → Bool) (l : List α) : Prop :=
  l.IsChain (fun a b => ¬ (p a = true ∧ p b = true)) ∧ ∀ a, l.getLast? = some a → p a = true → l.countP p ≤ 1

theorem ranging_keeps (ha : array[i]? = some a) (hp : p a = false) :
    deleteWhileRanging p (n + 1) i array length = deleteWhileRanging p n (i + 1) array length := by
  simp [deleteWhileRanging, ha, hp]

theorem ranging_deletes (ha : array[i]? = some a) (hp : p a = true) (hi : i + 1 ≤ length) :
    deleteWhileRanging p (n + 1) i array length = deleteWhileRanging p n (i + 1)
      (array.take i ++ (array.take length).drop (i + 1) ++ array.drop (length - 1)) (length - 1) := by
  simp [deleteWhileRanging, ha, hp, Nat.not_lt.mpr hi]

theorem ranging_panics (ha : array[i]? = some a) (hp : p a = true) (hi : length < i + 1) :
    deleteWhileRanging p (n + 1) i array length = .error (.panic "slice bounds out of range") := by
  simp [deleteWhileRanging, ha, hp, hi]

-- The stale entries behind the end of the slice do no harm where none of them is to be deleted.
theorem ranging_stale (h : ∀ a ∈ array.drop i, p a = false) :
    deleteWhileRanging p n i array length = .ok (array.take length) := by
  induction n generalizing i with
  | zero => simp [deleteWhileRanging]
  | succ n ih =>
    cases ha : array[i]? with
    | none => simp [deleteWhileRanging, ha]
    | some a =>
      have hdrop : array.drop i = a :: array.drop (i + 1) := by
        obtain ⟨hi, rfl⟩ := List.getElem?_eq_some_iff.mp ha
        exact drop_eq_getElem_cons hi
      rw [hdrop] at h
      rw [ranging_keeps ha (h a mem_cons_self)]
      exact ih fun b hb => h b (mem_cons_of_mem a hb)

theorem ranging_prefix (h : deleteWhileRanging p n i array length = .ok out) : (array.take length).take i <+: out := by
  induction n generalizing i array length with
  | zero =>
    simp only [deleteWhileRanging, Except.ok.injEq] at h
    rw [← h]
    exact take_prefix _ _
  | succ n ih =>
    cases ha : array[i]? with
    | none =>
      rw [deleteWhileRanging.eq_def, ha] at h
      cases h
      exact take_prefix _ _
    | some a =>
      cases hp : p a with
      | false =>
        rw [ranging_keeps ha hp] at h
        exact (take_prefix_take_left (Nat.le_succ i)).trans (ih h)
      | true =>
        by_cases hi : i + 1 ≤ length
        · rw [ranging_deletes ha hp hi] at h
          refine .trans ?_ (ih h)
          rw [take_take, take_take, append_assoc, take_append, take_take,
            Nat.min_eq_left (by omega), Nat.min_eq_right (by omega)]
          exact prefix_append _ _
        · rw [ranging_panics ha hp (by omega)] at h
          cases h

-- One deletion moves the entries behind it, and leaves a stale copy of the last entry behind the slice.
theorem ranging_moves (kept rest stale : List α) {last : α} (hp : p a = true)
    (hlast : (a :: rest).getLast? = some last) :
    deleteWhileRanging p (n + 1) kept.length (kept ++ a :: rest ++ stale) (kept ++ a :: rest).length =
      deleteWhileRanging p n (kept.length + 1) (kept ++ rest ++ last :: stale) (kept ++ rest).length := by
  obtain ⟨front, hfront⟩ := getLast?_eq_some_iff.mp hlast
  have hlen : rest.length = front.length := by simpa using congrArg List.length hfront
  have hend : (kept ++ a :: rest ++ stale).drop (kept ++ rest).length = last :: stale := by
    rw [hfront, ← append_assoc, append_assoc, length_append, hlen, ← length_append]
    exact drop_left
  have hmiddle : (kept ++ a :: rest).drop (kept.length + 1) = rest := by
    rw [← singleton_append, ← append_assoc]
    exact drop_left' (by simp)
  have hnew : (kept ++ a :: rest).length - 1 = (kept ++ rest).length := by simp
  rw [ranging_deletes (by simp) hp (by simp), hnew, hend, take_left, hmiddle, append_assoc kept,
    take_left]

theorem ranging_iff (a : α) (rest kept stale : List α) {last : α} (hlast : (a :: rest).getLast? = some last)
    (hstale : ∀ b ∈ stale, b = last) :
    deleteWhileRanging p (rest.length + stale.length + 1) kept.length (kept ++ a :: rest ++ stale)
        (kept ++ a :: rest).length = .ok (kept ++ (a :: rest).filter fun b => !p b) ↔
      (a :: rest).IsChain (fun a b => ¬ (p a = true ∧ p b = true)) ∧
        (p last = true → stale.length + (a :: rest).countP p ≤ 1) := by
  cases hp : p a with
  | false =>
    rw [ranging_keeps (by simp) hp]
    match rest with
    | [] =>
      obtain rfl : a = last := by simpa using hlast
      rw [ranging_stale (by simpa using fun b hb => hstale b hb ▸ hp), take_left]
      simp [hp]
    | b :: rest =>
      have h := ranging_iff b rest (kept ++ [a]) stale hlast hstale
      simpa [hp, Nat.add_right_comm] using h
  | true =>
    rw [ranging_moves kept rest stale hp hlast]
    match rest with
    | [] =>
      obtain rfl : a = last := by simpa using hlast
      cases stale with
      | nil => simp [deleteWhileRanging, hp]
      | cons b stale =>
        obtain rfl := hstale b mem_cons_self
        have hbehind : (kept ++ []).length < kept.length + 1 + 1 := by
          rw [append_nil]
          omega
        rw [length_cons, ← Nat.add_assoc, ranging_panics (by simp) hp hbehind]
        simp [hp]
    | [b] =>
      obtain rfl : b = last := by simpa using hlast
      cases hb : p b with
      | true =>
        rw [length_singleton, Nat.add_comm, ranging_panics (by simp) hb (by simp)]
        simp [hp, hb]
      | false =>
        rw [ranging_stale (by simpa [hb] using fun c hc => hstale c hc ▸ hb), take_left]
        simp [hp, hb]
    | b :: c :: rest =>
      have h := ranging_iff c rest (kept ++ [b]) (last :: stale) hlast (by simpa using hstale)
      cases hb : p b with
      | false =>
        have hpositions : rest.length + (last :: stale).length + 1 = (b :: c :: rest).length + stale.length := by
          simp only [length_cons]
          omega
        have hcount : (last :: stale).length + (c :: rest).countP p = stale.length + ((c :: rest).countP p + 1) := by
          rw [length_cons, Nat.add_right_comm, Nat.add_assoc]
        rw [hpositions, hcount] at h
        simpa [hp, hb] using h
      | true =>
        -- The loop skips b, which stays in the slice.
        refine iff_of_false (fun hout => ?_) (by simp [hp, hb])
        have hprefix := ranging_prefix hout
        rw [take_left, take_length_add_append, prefix_append_right_inj] at hprefix
        obtain ⟨out, hout⟩ := hprefix
        have hmem : b ∈ (a :: b :: c :: rest).filter fun b => !p b := hout ▸ mem_append_left out (by simp)
        simp [hb] at hmem
termination_by rest.length

theorem deleteMatching_iff (l : List α) : deleteMatching p l = .ok (l.filter fun a => !p a) ↔ Apart p l := by
  cases l with
  | nil => simp [deleteMatching, deleteWhileRanging, Apart]
  | cons a rest =>
    obtain ⟨last, hlast⟩ : ∃ last, (a :: rest).getLast? = some last := ⟨_, getLast?_cons⟩
    have h := ranging_iff (p := p) a rest [] [] hlast (fun _ hb => nomatch hb)
    simpa [deleteMatching, Apart, hlast] using h

end Ranging

theorem deleteAtPositionsOf_of_none {α β : Type} {p : α → Bool} {l : List α} (h : ∀ a ∈ l, p a = false) (i : ℕ)
    (slice : List β) : deleteAtPositionsOf p l i slice = .ok slice := by
  induction l generalizing i with
  | nil => rfl
  | cons a l ih =>
    rw [deleteAtPositionsOf, h a mem_cons_self]
    exact ih (fun b hb => h b (mem_cons_of_mem a hb)) (i + 1)

theorem filter_not_eq_self {α : Type} {p : α → Bool} {l : List α} :
    (l.filter fun a => !p a) = l ↔ ∀ a ∈ l, p a = false := by
  simp [filter_eq_self]

theorem optionFilter_eq_self {α : Type} {p : α → Bool} {o : Option α} : o.filter p = o ↔ ∀ a ∈ o, p a = true := by
  cases o <;> simp [Option.filter]

theorem deref_iff {α : Type} {pointer : Option α} {a : α} : deref pointer = .ok a ↔ pointer = some a := by
  cases pointer <;> simp [deref]

theorem clearIfEqual_iff {α : Type} [DecidableEq α] {new kept : Option α} {old : α} :
    clearIfEqual new old = .ok kept ↔ new.isSome = true ∧ kept = new.filter (· ≠ old) := by
  cases new with
  | none => simp [clearIfEqual, deref, bind, Except.bind]
  | some value => by_cases hsame : value = old <;> simp [clearIfEqual, deref, bind, Except.bind, pure, Except.pure,
      hsame, Option.filter, eq_comm]

namespace Group

variable (group : Group)

def isMember (aci : UUID) : Bool := (group.memberRole aci).isSome
def isPending (id : ServiceID) : Bool := group.pendingMembers.any fun pending => pending.serviceID = id
def isRequesting (aci : UUID) : Bool := group.requestingMembers.any fun request => request.aci = aci
def isBanned (id : ServiceID) : Bool := group.bannedMembers.any fun banned => banned.serviceID = id

def hasRole (rm : RoleMember) : Bool := (group.memberRole rm.aci).getD groupMemberUnknown = rm.role

def hasProfileKey (pk : ProfileKeyMember) : Bool :=
  group.members.any fun member => member.aci = pk.aci && member.profileKey = pk.profileKey

end Group

-- The change without the parts that are in effect in the group.
def GroupChange.remaining (change : GroupChange) (group : Group) : GroupChange :=
  { change with
    addMembers := change.addMembers.filter fun member => !group.isMember member.aci
    deleteMembers := change.deleteMembers.filter fun aci => !!group.isMember aci
    modifyMemberRoles := change.modifyMemberRoles.filter fun rm => !group.hasRole rm
    modifyMemberProfileKeys := change.modifyMemberProfileKeys.filter fun pk => !group.hasProfileKey pk
    addPendingMembers := change.addPendingMembers.filter fun pending => !group.isPending pending.serviceID
    deletePendingMembers := change.deletePendingMembers.filter fun id => !!group.isPending id
    promotePendingMembers := change.promotePendingMembers.filter fun promo => !group.isMember promo.aci
    modifyTitle := change.modifyTitle.filter (· ≠ group.title)
    modifyAvatar := change.modifyAvatar.filter (· ≠ group.avatarPath)
    modifyDisappearingMessagesDuration :=
      change.modifyDisappearingMessagesDuration.filter (· ≠ group.disappearingMessagesDuration)
    modifyAttributesAccess := change.modifyAttributesAccess.filter
      (some · ≠ group.accessControl.map GroupAccessControl.attributes)
    modifyMemberAccess := change.modifyMemberAccess.filter
      (some · ≠ group.accessControl.map GroupAccessControl.members)
    modifyAddFromInviteLinkAccess := change.modifyAddFromInviteLinkAccess.filter
      (some · ≠ group.accessControl.map GroupAccessControl.addFromInviteLink)
    addRequestingMembers := change.addRequestingMembers.filter fun request => !group.isRequesting request.aci
    deleteRequestingMembers := change.deleteRequestingMembers.filter fun aci => !!group.isRequesting aci
    promoteRequestingMembers := change.promoteRequestingMembers.filter fun promo => !group.isMember promo.aci
    modifyDescription := change.modifyDescription.filter (· ≠ group.description)
    modifyAnnouncementsOnly := change.modifyAnnouncementsOnly.filter (· ≠ group.announcementsOnly)
    addBannedMembers := change.addBannedMembers.filter fun banned => !group.isBanned banned.serviceID
    deleteBannedMembers := change.deleteBannedMembers.filter fun id => group.isBanned id
    promotePendingPniAciMembers := change.promotePendingPniAciMembers.filter fun promo => !group.isMember promo.aci
    modifyInviteLinkPassword := change.modifyInviteLinkPassword.filter (group.inviteLinkPassword ≠ some ·) }

-- Where resolveConflict does that: every pointer is set, what its loops delete is apart, and nothing is in effect
-- of the parts that it does not look at or looks for in another place.
structure Resolvable (change : GroupChange) (group : Group) : Prop where
  title : change.modifyTitle.isSome = true
  description : change.modifyDescription.isSome = true
  avatar : change.modifyAvatar.isSome = true
  timer : change.modifyDisappearingMessagesDuration.isSome = true
  access : ∃ access level, group.accessControl = some access ∧ change.modifyMemberAccess = some level ∧
    level ≠ access.members
  attributes : change.modifyAttributesAccess.isSome = true
  inviteLink : change.modifyAddFromInviteLinkAccess.isSome = true
  announcementsOnly : change.modifyAnnouncementsOnly.isSome = true
  addMembers : Apart (fun member => group.isMember member.aci) change.addMembers
  promotePending : Apart (fun promo => group.isMember promo.aci) change.promotePendingMembers
  addPending : Apart (fun pending => group.isPending pending.serviceID) change.addPendingMembers
  addRequesting : Apart (fun request => group.isRequesting request.aci) change.addRequestingMembers
  deletePending : Apart (fun id => !group.isPending id) change.deletePendingMembers
  deleteRequesting : Apart (fun aci => !group.isRequesting aci) change.deleteRequestingMembers
  deleteMembers : Apart (fun aci => !group.isMember aci) change.deleteMembers
  roles : Apart group.hasRole change.modifyMemberRoles
  promoteRequesting : ∀ promo ∈ change.promoteRequestingMembers, group.isMember promo.aci = false
  profileKeys : ∀ pk ∈ change.modifyMemberProfileKeys, group.hasProfileKey pk = false
  addBanned : ∀ banned ∈ change.addBannedMembers, group.isBanned banned.serviceID = false
  deleteBanned : ∀ id ∈ change.deleteBannedMembers, group.isBanned id = true
  promotePniAci : ∀ promo ∈ change.promotePendingPniAciMembers, group.isMember promo.aci = false
  password : ∀ password ∈ change.modifyInviteLinkPassword, group.inviteLinkPassword ≠ some password

-- The loops delete from the list they range over: an entry behind a deleted one is skipped, and the last
-- index is out of range. Apart excludes both.
theorem resolveConflict_iff (change : GroupChange) (group : Group) :
    change.resolveConflict group = .ok (change.remaining group) ↔ Resolvable change group := by
  constructor
  · intro h
    simp only [GroupChange.resolveConflict, bind_eq_ok_iff, clearIfEqual_iff, deref_iff] at h
    obtain ⟨_, ⟨htitle, -⟩, _, ⟨hdesc, -⟩, _, ⟨havatar, -⟩, _, ⟨htimer, -⟩, access, haccess, _,
      ⟨hattr, -⟩, level, hlevel, _, ⟨hlink, -⟩, _, ⟨hann, -⟩, _, haddMembers, _, hpromotePending, _,
      hpromoteRequesting, _, haddPending, _, haddRequesting, _, hdeletePending, _, hdeleteRequesting, _,
      hdeleteMembers, _, hroles, hres⟩ := h
    simp only [pure, Except.pure, Except.ok.injEq, GroupChange.remaining, GroupChange.mk.injEq, true_and] at hres
    obtain ⟨rfl, rfl, rfl, hprofileKeys, rfl, rfl, rfl, -, -, -, -, hmems, -, rfl, rfl, rfl, -, -, haddBanned,
      hdeleteBanned, hpniAci, hpassword⟩ := hres
    rw [deleteAtPositionsOf_of_none (by simp [Group.isMember])] at hpromoteRequesting
    exact
      { title := htitle, description := hdesc, avatar := havatar, timer := htimer, attributes := hattr
        inviteLink := hlink, announcementsOnly := hann
        access := ⟨access, level, haccess, hlevel, by simpa [haccess, hlevel, Option.filter] using hmems⟩
        addMembers := (deleteMatching_iff _).mp haddMembers
        promotePending := (deleteMatching_iff _).mp hpromotePending
        addPending := (deleteMatching_iff _).mp haddPending
        addRequesting := (deleteMatching_iff _).mp haddRequesting
        deletePending := (deleteMatching_iff _).mp hdeletePending
        deleteRequesting := (deleteMatching_iff _).mp hdeleteRequesting
        deleteMembers := (deleteMatching_iff _).mp hdeleteMembers
        roles := (deleteMatching_iff _).mp hroles
        promoteRequesting := filter_not_eq_self.mp (Except.ok.inj hpromoteRequesting).symm
        profileKeys := filter_not_eq_self.mp hprofileKeys.symm
        addBanned := filter_not_eq_self.mp haddBanned.symm
        deleteBanned := filter_eq_self.mp hdeleteBanned.symm
        promotePniAci := filter_not_eq_self.mp hpniAci.symm
        password := by simpa using optionFilter_eq_self.mp hpassword.symm }
  · intro h
    obtain ⟨access, level, haccess, hlevel, hne⟩ := h.access
    simp only [GroupChange.resolveConflict, bind_eq_ok_iff, clearIfEqual_iff, deref_iff]
    refine ⟨_, ⟨h.title, rfl⟩, _, ⟨h.description, rfl⟩, _, ⟨h.avatar, rfl⟩, _, ⟨h.timer, rfl⟩, access, haccess, _,
      ⟨h.attributes, rfl⟩, level, hlevel, _, ⟨h.inviteLink, rfl⟩, _, ⟨h.announcementsOnly, rfl⟩, _,
      (deleteMatching_iff _).mpr h.addMembers, _, (deleteMatching_iff _).mpr h.promotePending, _,
      deleteAtPositionsOf_of_none (by simp) 0 _, _, (deleteMatching_iff _).mpr h.addPending, _,
      (deleteMatching_iff _).mpr h.addRequesting, _, (deleteMatching_iff _).mpr h.deletePending, _,
      (deleteMatching_iff _).mpr h.deleteRequesting, _, (deleteMatching_iff _).mpr h.deleteMembers, _,
      (deleteMatching_iff _).mpr h.roles, ?_⟩
    have hpassword : change.modifyInviteLinkPassword.filter (group.inviteLinkPassword ≠ some ·) =
        change.modifyInviteLinkPassword :=
      optionFilter_eq_self.mpr (by simpa using h.password)
    have hlevels (new : Option AccessControl) (old : AccessControl) :
        new.filter (some · ≠ some old) = new.filter (· ≠ old) := by
      simp
    have hmemberAccess : (some level).filter (some · ≠ some access.members) = some level :=
      optionFilter_eq_self.mpr (by simpa using hne)
    simp only [GroupChange.remaining, filter_not_eq_self.mpr h.promoteRequesting, filter_not_eq_self.mpr h.profileKeys,
      filter_not_eq_self.mpr h.addBanned, filter_not_eq_self.mpr h.promotePniAci,
      filter_eq_self.mpr h.deleteBanned,
      hpassword, haccess, hlevel, Option.map_some, hmemberAccess, if_neg hne, hlevels]
    rfl

-- A change of the title alone has nil pointers for all else.
theorem newTitle_conflict_panics :
    newTitle.resolveConflict GroupCache.bareGroup = .error (.panic "nil pointer dereference") := rfl

end MautrixSignal.Groups
