import MautrixSignal.Groups.Cache
import MautrixSignal.Groups.Encryption
import MautrixSignal.Lib.Run

namespace MautrixSignal.Groups

open Lib

-- A change keeps the identity of the group object.

theorem applyBeforeAccess_frame (change : GroupChange) (group : Group) :
    (applyBeforeAccess change group).groupIdentifier = group.groupIdentifier ∧
      (applyBeforeAccess change group).accessControl = group.accessControl := by
  obtain ⟨approved, heq, -⟩ := applyBeforeAccess_eq change group
  rw [heq]
  exact ⟨rfl, rfl⟩

theorem applyAccess_cases (change : GroupChange) (group : Group) :
    if change.modifiesAccess = true → group.accessControl.isSome = true then
      ∃ accessControl, applyAccess change group = some { group with accessControl }
    else applyAccess change group = none := by
  unfold applyAccess
  cases haccess : group.accessControl with
  | some access => exact (if_pos fun _ => rfl).mpr ⟨_, rfl⟩
  | none =>
    cases change.modifiesAccess with
    | true => simp
    | false => exact (if_pos nofun).mpr ⟨group.accessControl, rfl⟩

namespace GroupCache

variable {cached : CachedGroup} {change : GroupChange} {result : Except Failure Unit} {cache' : GroupCache}

section Entries

variable {cache : GroupCache} {id id' : GroupIdentifier} {cached : CachedGroup}

theorem entry_delete_self (cache : GroupCache) (id : GroupIdentifier) : (cache.delete id).entry id = none := by
  simp [entry, delete]

theorem entry_delete_of_ne (h : id' ≠ id) : (cache.delete id).entry id' = cache.entry id' := by
  simp [entry, delete, h]

theorem entry_store_self (cache : GroupCache) (id : GroupIdentifier) (cached : CachedGroup) :
    (cache.store id cached).entry id = some (cache.objects cached.group, cached.endorsement) := by
  simp [entry, store]

theorem entry_store_of_ne (cached : CachedGroup) (h : id' ≠ id) :
    (cache.store id cached).entry id' = cache.entry id' := by
  simp [entry, store, h]

-- Every entry is filed under the identifier of its group, so no two entries share a group object.
def Keyed (cache : GroupCache) : Prop :=
  ∀ id cached, cache.data id = some cached → (cache.objects cached.group).groupIdentifier = id

theorem Keyed.delete (h : Keyed cache) (id : GroupIdentifier) : Keyed (cache.delete id) := by
  intro id' cached hcached
  by_cases heq : id' = id
  · simp [GroupCache.delete, heq] at hcached
  · exact h id' cached (by simpa [GroupCache.delete, heq] using hcached)

theorem Keyed.store (h : Keyed cache) (hcached : (cache.objects cached.group).groupIdentifier = id) :
    Keyed (cache.store id cached) := by
  intro id' cached' hcached'
  by_cases heq : id' = id
  · simp only [GroupCache.store, heq, Function.update_self, Option.some.injEq] at hcached'
    rw [← hcached', heq]
    exact hcached
  · exact h id' cached' (by simpa [GroupCache.store, heq] using hcached')

theorem Keyed.write (h : Keyed cache) (hcached : cache.data id = some cached) {group : Group}
    (hgroup : group.groupIdentifier = id) : Keyed (cache.write cached.group group) := by
  intro id' cached' hcached'
  by_cases heq : cached'.group = cached.group
  · have hid := h id' cached' hcached'
    rw [heq, h id cached hcached] at hid
    simp only [GroupCache.write, heq, Function.update_self, hgroup]
    exact hid
  · simp only [GroupCache.write, Function.update_of_ne heq]
    exact h id' cached' hcached'

theorem entry_write_of_ne (h : Keyed cache) (hcached : cache.data id = some cached) (group : Group)
    (hne : id' ≠ id) : (cache.write cached.group group).entry id' = cache.entry id' := by
  unfold entry
  cases hcached' : cache.data id' with
  | none => simp [GroupCache.write, hcached']
  | some cached' =>
    have hobject : cached'.group ≠ cached.group := by
      intro heq
      apply hne
      rw [← h id' cached' hcached', heq]
      exact h id cached hcached
    simp [GroupCache.write, hcached', hobject]

theorem entry_write_self (hcached : cache.data id = some cached) (group : Group) :
    (cache.write cached.group group).entry id = some (group, cached.endorsement) := by
  simp [entry, GroupCache.write, hcached]

end Entries

def Received (serviceID : ServiceID) (response : EndorsementsResponse) (group : Group)
    (endorsement : SendEndorsementCache) : Prop :=
  response.receiveWithServiceIDs group.getMemberServiceIDs serviceID endorsement.secretParams =
      .ok (endorsement.sendEndorsement, endorsement.memberEndorsements) ∧
    response.getExpiration = .ok endorsement.expiration

inductive Call where
  | put (data : Ref) (response : EndorsementsResponse)
  | applyUpdate (change : GroupChange) (response : EndorsementsResponse)
  | delete (id : GroupIdentifier)

variable {call : Call} {calls : List Call}

def Call.run (env : Env) (cache : GroupCache) : Call → Except Failure Unit × GroupCache
  | .put data response => cache.put env data response
  | .applyUpdate change response => cache.applyUpdate env change response
  | .delete id => (.ok (), cache.delete id)

def Call.response : Call → Option EndorsementsResponse
  | .put _ response => some response
  | .applyUpdate _ response => some response
  | .delete _ => none

-- An update that is applied and changes an access level finds an access control in the cached group.
def accessPresent (env : Env) (cache : GroupCache) : Call → Bool
  | .applyUpdate change _ =>
    match changeTarget env change with
    | .error _ => true
    | .ok (id, _) =>
      match cache.entry id with
      | none => true
      | some (group, _) =>
        !(change.modifiesAccess && group.revision < change.revision &&
          !(group.revision < change.revision - 1)) || group.accessControl.isSome
  | _ => true

theorem next_revision_iff {old new : UInt32} : ¬ old ≥ new ∧ ¬ old < new - 1 ↔ new.toNat = old.toNat + 1 := by
  have h1 : (1 : UInt32).toNat = 1 := rfl
  rw [ge_iff_le, UInt32.le_iff_toNat_le, UInt32.lt_iff_toNat_lt]
  by_cases hone : (1 : UInt32) ≤ new
  · rw [UInt32.toNat_sub_of_le _ _ hone]
    omega
  · rw [UInt32.le_iff_toNat_le] at hone
    omega

inductive Effect (cache : GroupCache) : Call → Except Failure Unit → GroupCache → Prop
  | unchanged (call : Call) (result : Except Failure Unit) : Effect cache call result cache
  | stored (response : EndorsementsResponse) (cached : CachedGroup)
      (hnewer : cache.isNewer (cache.objects cached.group) = false)
      (hreceived : Received cache.serviceID response (cache.objects cached.group) cached.endorsement) :
      Effect cache (.put cached.group response) (.ok ())
        (cache.store (cache.objects cached.group).groupIdentifier cached)
  | evicted (call : Call) (id : GroupIdentifier) : Effect cache call (.ok ()) (cache.delete id)
  | failed (change : GroupChange) (response : EndorsementsResponse) (id : GroupIdentifier)
      (cached : CachedGroup) (hcached : cache.data id = some cached) (group : Group)
      (hid : group.groupIdentifier = (cache.objects cached.group).groupIdentifier) (message : String) :
      Effect cache (.applyUpdate change response) (.error (.error message))
        ((cache.write cached.group group).delete id)
  | updated (change : GroupChange) (response : EndorsementsResponse) (id : GroupIdentifier)
      (cached : CachedGroup) (hcached : cache.data id = some cached) (group : Group)
      (hid : group.groupIdentifier = (cache.objects cached.group).groupIdentifier)
      (hrevision : group.revision = change.revision)
      (hnext : change.revision.toNat = (cache.objects cached.group).revision.toNat + 1)
      (endorsement : SendEndorsementCache) (hreceived : Received cache.serviceID response group endorsement) :
      Effect cache (.applyUpdate change response) (.ok ())
        ((cache.write cached.group group).store id { cached with endorsement })

variable {env : Env} {cache : GroupCache}

theorem received_of_prepareEntry {data : Ref} {response : EndorsementsResponse}
    (h : prepareEntry env cache data response = .ok cached) :
    cached.group = data ∧ Received cache.serviceID response (cache.objects data) cached.endorsement := by
  simp only [prepareEntry, bind_eq_ok_iff, failed_eq_ok_iff] at h
  obtain ⟨masterKey, -, params, -, expiration, hexpiration, endorsements, hreceive, hpure⟩ := h
  cases hpure
  exact ⟨rfl, hreceive, hexpiration⟩

variable {id : GroupIdentifier}

theorem applyUpdate_eq {secretParams : Bytes} (htarget : changeTarget env change = .ok (id, secretParams))
    (hcached : cache.data id = some cached) (response : EndorsementsResponse) :
    cache.applyUpdate env change response =
      if (cache.objects cached.group).revision ≥ change.revision then (.ok (), cache)
      else if (cache.objects cached.group).revision < change.revision - 1 then (.ok (), cache.delete id)
      else updateEntry cache id cached secretParams change response := by
  simp [applyUpdate, htarget, hcached]

theorem effect_updateEntry (hcached : cache.data id = some cached)
    (haccess : change.modifiesAccess = true → (cache.objects cached.group).accessControl.isSome = true)
    (hnext : change.revision.toNat = (cache.objects cached.group).revision.toNat + 1) (secretParams : Bytes)
    (response : EndorsementsResponse) :
    Effect cache (.applyUpdate change response)
      (cache.updateEntry id cached secretParams change response).1
      (cache.updateEntry id cached secretParams change response).2 := by
  obtain ⟨hid, hcontrol⟩ := applyBeforeAccess_frame change (cache.objects cached.group)
  have hwritten := applyAccess_cases change (applyBeforeAccess change (cache.objects cached.group))
  rw [hcontrol, if_pos haccess] at hwritten
  obtain ⟨accessControl, hwritten⟩ := hwritten
  simp only [updateEntry, hwritten, renewEndorsements, write, Function.update_self]
  split
  · exact .failed change response id cached hcached _ (by exact hid) _
  rename_i hreceive
  split
  · exact .failed change response id cached hcached _ (by exact hid) _
  · rename_i hexpiration
    exact .updated change response id cached hcached _ (by exact hid) rfl hnext _ ⟨hreceive, hexpiration⟩

theorem effect_run (h : accessPresent env cache call = true) :
    Effect cache call (call.run env cache).1 (call.run env cache).2 := by
  cases call with
  | put data response =>
    simp only [Call.run, put]
    cases hprep : prepareEntry env cache data response with
    | error failure => exact .unchanged _ _
    | ok cached =>
      obtain ⟨rfl, hrecv⟩ := received_of_prepareEntry hprep
      cases hnewer : cache.isNewer (cache.objects cached.group) with
      | true => exact .unchanged _ _
      | false => exact .stored response cached hnewer hrecv
  | delete id => exact .evicted _ id
  | applyUpdate change response =>
    simp only [Call.run]
    cases htarget : changeTarget env change with
    | error failure =>
      simp only [applyUpdate, htarget]
      exact .unchanged _ _
    | ok target =>
      obtain ⟨id, secretParams⟩ := target
      cases hcached : cache.data id with
      | none =>
        simp only [applyUpdate, htarget, hcached]
        exact .unchanged _ _
      | some cached =>
        rw [applyUpdate_eq htarget hcached]
        by_cases hold : (cache.objects cached.group).revision ≥ change.revision
        · rw [if_pos hold]
          exact .unchanged _ _
        rw [if_neg hold]
        by_cases hmissed : (cache.objects cached.group).revision < change.revision - 1
        · rw [if_pos hmissed]
          exact .evicted _ id
        rw [if_neg hmissed]
        refine effect_updateEntry hcached ?_ (next_revision_iff.mp ⟨hold, hmissed⟩) secretParams response
        intro hmodifies
        have hlt := UInt32.not_le.mp hold
        simpa [accessPresent, htarget, entry, hcached, hmodifies, hlt, hmissed] using h

theorem Effect.serviceID (h : Effect cache call result cache') : cache'.serviceID = cache.serviceID := by
  cases h <;> rfl

theorem Effect.keyed (h : Effect cache call result cache') (hkeyed : Keyed cache) : Keyed cache' := by
  cases h with
  | unchanged => exact hkeyed
  | stored response cached => exact hkeyed.store rfl
  | evicted call id => exact hkeyed.delete id
  | failed change response id cached hcached group hid message =>
    exact (hkeyed.write hcached (hid.trans (hkeyed id cached hcached))).delete id
  | updated change response id cached hcached group hid hrev hnext endorsement hrecv =>
    have hgroup := hid.trans (hkeyed id cached hcached)
    refine (hkeyed.write hcached hgroup).store ?_
    simp [write, hgroup]

-- An entry that a call has written: its endorsements are new, its revision is not older than the one before,
-- and an update came onto the revision directly before its own.
structure Replaced (cache : GroupCache) (call : Call) (id : GroupIdentifier) (group : Group)
    (endorsement : SendEndorsementCache) : Prop where
  received : ∃ response, call.response = some response ∧ Received cache.serviceID response group endorsement
  not_older : ∀ old oldEndorsement, cache.entry id = some (old, oldEndorsement) → old.revision ≤ group.revision
  next : ∀ change response, call = .applyUpdate change response → group.revision = change.revision ∧
    ∃ old oldEndorsement, cache.entry id = some (old, oldEndorsement) ∧
      change.revision.toNat = old.revision.toNat + 1

theorem Effect.entry (h : Effect cache call result cache') (hkeyed : Keyed cache) (id : GroupIdentifier) :
    cache'.entry id = cache.entry id ∨ cache'.entry id = none ∨
      result = .ok () ∧ ∃ group endorsement, cache'.entry id = some (group, endorsement) ∧
        Replaced cache call id group endorsement := by
  cases h with
  | unchanged => exact .inl rfl
  | stored response cached hnewer hrecv =>
    by_cases heq : id = (cache.objects cached.group).groupIdentifier
    · subst heq
      refine .inr (.inr ⟨rfl, _, _, entry_store_self _ _ _, ⟨response, rfl, hrecv⟩, fun _ _ hentry => ?_,
        fun _ _ hcall => nomatch hcall⟩)
      obtain ⟨cached', hcached', heq⟩ := Option.map_eq_some_iff.mp hentry
      cases heq
      simpa [isNewer, hcached'] using hnewer
    · exact .inl (entry_store_of_ne cached heq)
  | evicted call id' =>
    by_cases heq : id = id'
    · subst heq
      exact .inr (.inl (entry_delete_self _ _))
    · exact .inl (entry_delete_of_ne heq)
  | failed change response id' cached hcached group hid message =>
    by_cases heq : id = id'
    · subst heq
      exact .inr (.inl (entry_delete_self _ _))
    · exact .inl ((entry_delete_of_ne heq).trans (entry_write_of_ne hkeyed hcached group heq))
  | updated change response id' cached hcached group hid hrev hnext endorsement hrecv =>
    by_cases heq : id = id'
    · subst heq
      have hentry : cache.entry id = some (cache.objects cached.group, cached.endorsement) := by
        simp [GroupCache.entry, hcached]
      refine .inr (.inr ⟨rfl, group, endorsement, ?_, ⟨response, rfl, hrecv⟩, fun _ _ hold => ?_, ?_⟩)
      · rw [entry_store_self]
        simp [write]
      · cases hentry.symm.trans hold
        rw [hrev, UInt32.le_iff_toNat_le, hnext]
        omega
      · rintro _ _ ⟨⟩
        exact ⟨hrev, _, _, hentry, hnext⟩
    · exact .inl ((entry_store_of_ne _ heq).trans (entry_write_of_ne hkeyed hcached group heq))

def Endorsed (responses : List EndorsementsResponse) (cache : GroupCache) : Prop :=
  ∀ id group endorsement, cache.entry id = some (group, endorsement) →
    ∃ response ∈ responses, Received cache.serviceID response group endorsement

theorem Effect.endorsed (h : Effect cache call result cache') (hkeyed : Keyed cache)
    (hendorsed : Endorsed (calls.filterMap Call.response) cache) :
    Endorsed ((calls ++ [call]).filterMap Call.response) cache' := by
  intro id group endorsement hentry
  rw [List.filterMap_append, h.serviceID]
  rcases h.entry hkeyed id with hsame | hnone | ⟨-, group', endorsement', hentry', hreplaced⟩
  · obtain ⟨response, hmem, hrecv⟩ := hendorsed id group endorsement (hsame ▸ hentry)
    exact ⟨response, List.mem_append_left _ hmem, hrecv⟩
  · rw [hnone] at hentry
    cases hentry
  · obtain ⟨rfl, rfl⟩ := Prod.mk.inj (Option.some.inj (hentry'.symm.trans hentry))
    obtain ⟨response, hresp, hrecv⟩ := hreplaced.received
    refine ⟨response, List.mem_append_right _ ?_, hrecv⟩
    simp [hresp]

-- The calls of a run, each of which finds an access control where it needs one.
abbrev CacheRun (env : Env) : GroupCache → List Call → GroupCache → Prop :=
  Run (Guarded (fun cache call => accessPresent env cache call = true)
    fun cache call cache' => (call.run env cache).2 = cache')

theorem keyed_endorsed_of_run {serviceID : ServiceID} {objects : Ref → Group}
    (h : CacheRun env (newGroupCache serviceID objects) calls cache) :
    Keyed cache ∧ Endorsed (calls.filterMap Call.response) cache := by
  generalize hstart : newGroupCache serviceID objects = start at h
  induction h with
  | refl =>
    subst hstart
    constructor
    · intro id cached hcached
      cases hcached
    · intro id group endorsement hentry
      cases hentry
  | snoc _ hstep ih =>
    obtain ⟨hpres, rfl⟩ := hstep
    obtain ⟨hkeyed, hendorsed⟩ := ih
    have heff := effect_run hpres
    exact ⟨heff.keyed hkeyed, heff.endorsed hkeyed hendorsed⟩

variable {oldEndorsement : SendEndorsementCache}

theorem Effect.revision_le (h : Effect cache call result cache') (hkeyed : Keyed cache) {old new : Group}
    {newEndorsement : SendEndorsementCache} (hold : cache.entry id = some (old, oldEndorsement))
    (hnew : cache'.entry id = some (new, newEndorsement)) : old.revision ≤ new.revision := by
  rcases h.entry hkeyed id with hsame | hnone | ⟨-, group, endorsement, hentry, hreplaced⟩
  · rw [hsame, hold] at hnew
    obtain ⟨rfl, -⟩ := Prod.mk.inj (Option.some.inj hnew)
    exact UInt32.le_refl _
  · rw [hnone] at hnew
    cases hnew
  · obtain ⟨rfl, -⟩ := Prod.mk.inj (Option.some.inj (hentry.symm.trans hnew))
    exact hreplaced.not_older old oldEndorsement hold

abbrev CachedRun (env : Env) (id : GroupIdentifier) : GroupCache → List Call → GroupCache → Prop :=
  Run (Guarded (fun cache call => (cache.entry id).isSome = true ∧ accessPresent env cache call = true)
    fun cache call cache' => (call.run env cache).2 = cache')

theorem revision_le_of_run (h : CachedRun env id cache calls cache') (hkeyed : Keyed cache) {old : Group}
    (hold : cache.entry id = some (old, oldEndorsement)) :
    Keyed cache' ∧ ∀ new newEndorsement, cache'.entry id = some (new, newEndorsement) →
      old.revision ≤ new.revision := by
  induction h with
  | refl =>
    refine ⟨hkeyed, fun new newEndorsement hnew => ?_⟩
    rw [hold] at hnew
    obtain ⟨rfl, -⟩ := Prod.mk.inj (Option.some.inj hnew)
    exact UInt32.le_refl _
  | snoc _ hstep ih =>
    obtain ⟨⟨hcached, hpres⟩, rfl⟩ := hstep
    obtain ⟨hkeyed', hle⟩ := ih
    have heff := effect_run hpres
    refine ⟨heff.keyed hkeyed', fun new newEndorsement hnew => ?_⟩
    obtain ⟨⟨group, endorsement⟩, hentry⟩ := Option.isSome_iff_exists.mp hcached
    exact UInt32.le_trans (hle group endorsement hentry) (heff.revision_le hkeyed' hentry hnew)

-- In every run an entry's endorsements are those of its members, its revision does not go down, an update
-- comes onto the revision before it, and a call that fails leaves each entry or evicts it.
theorem cached_entries_consistent {serviceID : ServiceID} {objects : Ref → Group} {calls : List Call}
    (hrun : CacheRun env (newGroupCache serviceID objects) calls cache) :
    Endorsed (calls.filterMap Call.response) cache ∧
    (∀ id calls' cache' old oldEndorsement new newEndorsement, CachedRun env id cache calls' cache' →
      cache.entry id = some (old, oldEndorsement) → cache'.entry id = some (new, newEndorsement) →
        old.revision ≤ new.revision) ∧
    (∀ change response id, accessPresent env cache (.applyUpdate change response) = true →
      (cache.applyUpdate env change response).2.entry id = cache.entry id ∨
      (cache.applyUpdate env change response).2.entry id = none ∨
      ∃ old oldEndorsement new newEndorsement, cache.entry id = some (old, oldEndorsement) ∧
        (cache.applyUpdate env change response).2.entry id = some (new, newEndorsement) ∧
        new.revision = change.revision ∧ change.revision.toNat = old.revision.toNat + 1) ∧
    (∀ call failure id, accessPresent env cache call = true → (call.run env cache).1 = .error failure →
      (call.run env cache).2.entry id = cache.entry id ∨ (call.run env cache).2.entry id = none) := by
  obtain ⟨hkeyed, hendorsed⟩ := keyed_endorsed_of_run hrun
  refine ⟨hendorsed, ?_, ?_, ?_⟩
  · intro id calls' cache' old oldEndorsement new newEndorsement hrun' hold hnew
    exact (revision_le_of_run hrun' hkeyed hold).2 new newEndorsement hnew
  · intro change response id hpres
    rcases (effect_run hpres).entry hkeyed id with hsame | hnone | ⟨-, new, newEndorsement, hnew, hreplaced⟩
    · exact .inl hsame
    · exact .inr (.inl hnone)
    · obtain ⟨hrev, old, oldEndorsement, hold, hnext⟩ := hreplaced.next change response rfl
      exact .inr (.inr ⟨old, oldEndorsement, new, newEndorsement, hold, hnew, hrev, hnext⟩)
  · intro call failure id hpres hfailure
    rcases (effect_run hpres).entry hkeyed id with hsame | hnone | ⟨hok, -⟩
    · exact .inl hsame
    · exact .inr hnone
    · rw [hok] at hfailure
      cases hfailure

def bareGroup : Group :=
  { groupMasterKey := plainMasterKey
    groupIdentifier := plainMasterKey
    members := [{ aci := UUID.ofByte 1, role := groupMemberAdministrator }] }

def countingResponse : EndorsementsResponse where
  receiveWithServiceIDs ids _ _ := .ok ([UInt8.ofNat ids.length], [])
  getExpiration := .ok 1000

def addSecond : GroupChange :=
  { groupMasterKey := plainMasterKey
    revision := 1
    addMembers := [{ aci := UUID.ofByte 2, role := groupMemberDefault }] }

def bareCache : GroupCache := newGroupCache (newACIServiceID (UUID.ofByte 1)) fun _ => bareGroup

theorem cached_entries_consistent_addSecond : ∃ cache,
    CacheRun (plainEnv []) bareCache [.put 0 countingResponse, .applyUpdate addSecond countingResponse] cache ∧
    (cache.entry plainMasterKey).map (fun e => (e.1.members.length, e.1.revision, e.2.sendEndorsement)) =
      some (2, 1, [2]) ∧ Endorsed [countingResponse, countingResponse] cache := by
  have hrun : CacheRun (plainEnv []) bareCache
      [.put 0 countingResponse, .applyUpdate addSecond countingResponse] _ :=
    .cons ⟨by decide +kernel, rfl⟩ (.single ⟨by decide +kernel, rfl⟩)
  exact ⟨_, hrun, by decide +kernel, (cached_entries_consistent hrun).1⟩

-- A change of the attribute access on a group without an access control panics when its new member is already
-- in the cached list, and the endorsements stay those of the old one.
def addSecondAndRestrict : GroupChange :=
  { addSecond with modifyAttributesAccess := some accessControlAdministrator }

-- The member is appended before the nil access control is written to, and stays when that panics.
theorem panicking_update_keeps_old_endorsements : ∃ cache,
    Run (fun cache call cache' => (Call.run (plainEnv []) cache call).2 = cache') bareCache
      [.put 0 countingResponse, .applyUpdate addSecondAndRestrict countingResponse] cache ∧
    ¬ Endorsed [countingResponse, countingResponse] cache := by
  refine ⟨_, .cons rfl (.single rfl), ?_⟩
  intro hendorsed
  have hentry : (Option.any (fun e : Group × SendEndorsementCache =>
      decide (e.1.getMemberServiceIDs.length = 2 ∧ e.2.sendEndorsement = [1]))
      (((bareCache.put (plainEnv []) 0 countingResponse).2.applyUpdate (plainEnv []) addSecondAndRestrict
        countingResponse).2.entry plainMasterKey)) = true := by
    decide +kernel
  obtain ⟨⟨group, endorsement⟩, hentry, hvals⟩ := (Option.any_eq_true _ _).mp hentry
  obtain ⟨hlen, hold⟩ := of_decide_eq_true hvals
  obtain ⟨response, hmem, hrecv, -⟩ := hendorsed plainMasterKey group endorsement hentry
  have hresp : response = countingResponse := by simpa using hmem
  rw [hresp] at hrecv
  have hcount := (Prod.mk.inj (Except.ok.inj hrecv)).1
  rw [hlen, hold] at hcount
  revert hcount
  decide

end GroupCache

end MautrixSignal.Groups
