import MautrixSignal.Groups.CacheRuns
import MautrixSignal.Groups.Changes

namespace MautrixSignal.Groups

open Lib

inductive RespError where
  | noContent
  | groupPatchNotAccepted
  | conflict
  | authorizationFailed
  | notFound
  | contactManifestMismatch
  | rateLimit
  | deprecatedVersion

inductive SendError where
  | resp (error : RespError)
  | failure (failure : Failure)

def Failure.wrap (text : String) : Failure → Failure
  | .error message => .error (text ++ message)
  | .panic message => .panic message

structure GroupChangeResponse where
  groupChange : Except String Bytes
  groupSendEndorsementsResponse : EndorsementsResponse

-- What comes back for a patch request. failed is an error before a response, in getting the authorization or in
-- sending. A body that cannot be read or parsed is an error.
inductive PatchReply where
  | failed (message : String)
  | answer (status : ℕ) (body : Option (Except String GroupChangeResponse))

def patchGroup : PatchReply → Except SendError GroupChangeResponse
  | .failed message => .error (.failure (.error message))
  | .answer status body =>
    match status with
    | 204 => .error (.resp .noContent)
    | 400 => .error (.resp .groupPatchNotAccepted)
    | 403 => .error (.resp .authorizationFailed)
    | 404 => .error (.resp .notFound)
    | 409 => if body.isSome then .error (.resp .contactManifestMismatch) else .error (.resp .conflict)
    | 429 => .error (.resp .rateLimit)
    | 499 => .error (.resp .deprecatedVersion)
    | _ =>
      match body with
      | none => .error (.failure (.error "no response body"))
      | some (.error message) => .error (.failure (.error message))
      | some (.ok response) => .ok response

variable {α : Type}

def deref : Option α → Except Failure α
  | some a => .ok a
  | none => .error (.panic "nil pointer dereference")

def clearIfEqual [DecidableEq α] (new : Option α) (old : α) : Except Failure (Option α) := do
  let value ← deref new
  return if value = old then none else some value

-- The loops of resolveConflict delete from the slice they range over. A deletion moves the entries behind it in the
-- array, and one behind the end of the present slice panics.
def deleteWhileRanging (p : α → Bool) (positions i : ℕ) (array : List α) (length : ℕ) :
    Except Failure (List α) :=
  match positions, array[i]? with
  | positions + 1, some a =>
    if p a then
      if i + 1 > length then .error (.panic "slice bounds out of range")
      else deleteWhileRanging p positions (i + 1)
        (array.take i ++ (array.take length).drop (i + 1) ++ array.drop (length - 1)) (length - 1)
    else deleteWhileRanging p positions (i + 1) array length
  | _, _ => .ok (array.take length)

def deleteMatching (p : α → Bool) (slice : List α) : Except Failure (List α) :=
  deleteWhileRanging p slice.length 0 slice slice.length

-- The loop for PromoteRequestingMembers ranges over PromotePendingMembers.
def deleteAtPositionsOf {β : Type} (p : α → Bool) : List α → ℕ → List β → Except Failure (List β)
  | [], _, slice => .ok slice
  | a :: as, i, slice =>
    if p a then
      if i + 1 > slice.length then .error (.panic "slice bounds out of range")
      else deleteAtPositionsOf p as (i + 1) (slice.eraseIdx i)
    else deleteAtPositionsOf p as (i + 1) slice

-- The map of members has the role of the last entry for an account.
def Group.memberRole (group : Group) (aci : UUID) : Option GroupMemberRole :=
  (group.members.filter fun member => member.aci = aci).getLast?.map GroupMember.role

def GroupChange.resolveConflict (change : GroupChange) (group : Group) : Except Failure GroupChange := do
  let modifyTitle ← clearIfEqual change.modifyTitle group.title
  let modifyDescription ← clearIfEqual change.modifyDescription group.description
  let modifyAvatar ← clearIfEqual change.modifyAvatar group.avatarPath
  let modifyDisappearingMessagesDuration ←
    clearIfEqual change.modifyDisappearingMessagesDuration group.disappearingMessagesDuration
  let accessControl ← deref group.accessControl
  let modifyAttributesAccess ← clearIfEqual change.modifyAttributesAccess accessControl.attributes
  -- the attribute access is cleared again where the member access is meant
  let memberAccess ← deref change.modifyMemberAccess
  let modifyAttributesAccess := if memberAccess = accessControl.members then none else modifyAttributesAccess
  let modifyAddFromInviteLinkAccess ←
    clearIfEqual change.modifyAddFromInviteLinkAccess accessControl.addFromInviteLink
  let modifyAnnouncementsOnly ← clearIfEqual change.modifyAnnouncementsOnly group.announcementsOnly
  let isMember : UUID → Bool := fun aci => (group.memberRole aci).isSome
  let isPending : ServiceID → Bool := fun id => group.pendingMembers.any fun pending => pending.serviceID = id
  let isRequesting : UUID → Bool := fun aci => group.requestingMembers.any fun request => request.aci = aci
  let addMembers ← deleteMatching (fun member => isMember member.aci) change.addMembers
  let promotePendingMembers ← deleteMatching (fun promo => isMember promo.aci) change.promotePendingMembers
  let promoteRequestingMembers ← deleteAtPositionsOf (fun promo => isMember promo.aci) promotePendingMembers 0
    change.promoteRequestingMembers
  let addPendingMembers ← deleteMatching (fun pending => isPending pending.serviceID) change.addPendingMembers
  let addRequestingMembers ← deleteMatching (fun request => isRequesting request.aci) change.addRequestingMembers
  let deletePendingMembers ← deleteMatching (fun id => !isPending id) change.deletePendingMembers
  let deleteRequestingMembers ← deleteMatching (fun aci => !isRequesting aci) change.deleteRequestingMembers
  let deleteMembers ← deleteMatching (fun aci => !isMember aci) change.deleteMembers
  let modifyMemberRoles ← deleteMatching
    (fun rm => (group.memberRole rm.aci).getD groupMemberUnknown = rm.role) change.modifyMemberRoles
  return { change with
    modifyTitle, modifyDescription, modifyAvatar, modifyDisappearingMessagesDuration, modifyAttributesAccess,
    modifyAddFromInviteLinkAccess, modifyAnnouncementsOnly, addMembers, promotePendingMembers,
    promoteRequestingMembers, addPendingMembers, addRequestingMembers, deletePendingMembers,
    deleteRequestingMembers, deleteMembers, modifyMemberRoles }

-- The stores, the clock and the server, as one call of the client meets them: the n-th look at the clock and the
-- n-th request of each kind.
structure World where
  ownACI : UUID
  masterKeyFromGroupIdentifier : GroupIdentifier → Except String SerializedGroupMasterKey
  storeProfileKey : UUID → ProfileKey → Except String Unit
  now : ℕ → Int
  get : ℕ → Except String (EncryptedGroup × EndorsementsResponse)
  patch : ℕ → PatchReply
  randomness : ℕ → ℕ → Bytes
  newInviteLinkPassword : SerializedInviteLinkPassword

-- The client's group cache, the address of its next group object, what it has asked the server for and the
-- changes that it has sent.
structure Client where
  cache : GroupCache
  next : Ref
  looks : ℕ := 0
  gets : ℕ := 0
  requests : List Actions := []

section Client

variable (env : Env) (world : World)

def storeProfileKeys (group : Group) : Except Failure Unit := do
  group.members.forM fun member => failed (world.storeProfileKey member.aci member.profileKey)
  group.requestingMembers.forM fun request => failed (world.storeProfileKey request.aci request.profileKey)

variable (client : Client)

def parseGroupResponse (groupResponse : EncryptedGroup × EndorsementsResponse) (masterKey : SerializedGroupMasterKey) :
    Except Failure Ref × Client :=
  match decryptGroup env groupResponse.1 masterKey with
  | .error failure => (.error (failure.wrap "failed to decrypt group: "), client)
  | .ok group =>
    let cache := client.cache.write client.next group
    let (put, cache) := cache.put env client.next groupResponse.2
    let fetched := { client with cache, next := client.next + 1 }
    match put, storeProfileKeys world group with
    | .error (.panic message), _ => (.error (.panic message), fetched)
    | _, .error failure => (.error (failure.wrap "failed to store profile key: "), fetched)
    | _, .ok () => (.ok client.next, fetched)

variable (gid : GroupIdentifier)

def fetchGroupByID : Except Failure Ref × Client :=
  match world.masterKeyFromGroupIdentifier gid with
  | .error message => (.error (.error ("failed to get group master key: " ++ message)), client)
  | .ok groupMasterKey =>
    if groupMasterKey = [] then (.error (.error "group master key not found in store"), client)
    else
      match masterKeyToBytes groupMasterKey with
      | .error failure => (.error failure, client)
      | .ok _ =>
        let asked := { client with gets := client.gets + 1 }
        match world.get client.gets with
        | .error message => (.error (.error message), asked)
        | .ok groupResponse => parseGroupResponse env world asked groupResponse groupMasterKey

def getCached : Option CachedGroup × Client :=
  (client.cache.get (world.now client.looks) gid, { client with looks := client.looks + 1 })

def retrieveGroupByID (revision : UInt32) : Except Failure Ref × Client :=
  let (cached, client) := getCached world client gid
  match cached.filter fun cached => (client.cache.objects cached.group).revision ≥ revision with
  | some cached => (.ok cached.group, client)
  | none =>
    match fetchGroupByID env world client gid with
    | (.error failure, client) => (.error failure, client)
    | (.ok group, client) =>
      let (cached, client) := getCached world client gid
      (.ok ((cached.map CachedGroup.group).getD group), client)

variable (change : GroupChange)

def encryptAndSignGroupChange :
    Except SendError GroupChangeResponse × Client :=
  let encrypted : Except Failure Actions := do
    let masterKeyBytes ← masterKeyToBytes change.groupMasterKey
    let groupSecretParams ← failed (env.deriveGroupSecretParams masterKeyBytes)
    encryptGroupChange env groupSecretParams world.ownACI (world.randomness client.requests.length) change
  match encrypted with
  | .error failure => (.error (.failure failure), client)
  | .ok actions =>
    (patchGroup (world.patch client.requests.length), { client with requests := client.requests ++ [actions] })

-- The loop of UpdateGroup. retries is the number of attempts that may still follow this one.
def attemptChange (gid : GroupIdentifier) (retries : ℕ) (refetchedAddMemberCredentials : Bool) (client : Client)
    (group : Ref) (change : GroupChange) : Except Failure (Ref × GroupChange × GroupChangeResponse) × Client :=
  match encryptAndSignGroupChange env world client change with
  | (.ok response, client) => (.ok (group, change, response), client)
  | (.error (.failure (.panic message)), client) => (.error (.panic message), client)
  | (.error error, client) =>
    match retries with
    | 0 => (.error (.error "failed to encrypt and sign group change after multiple retries"), client)
    | retries + 1 =>
      match error with
      | .resp .groupPatchNotAccepted =>
        if change.addMembers.length > 0 && !refetchedAddMemberCredentials then
          attemptChange gid retries true client group change
        else (.error (.error "failed to update group"), client)
      | .resp .conflict =>
        match retrieveGroupByID env world { client with cache := client.cache.delete gid } gid 0 with
        | (.error failure, client) => (.error (failure.wrap "failed to fetch group after conflict: "), client)
        | (.ok group, client) =>
          match change.resolveConflict (client.cache.objects group) with
          | .error failure => (.error failure, client)
          | .ok change =>
            attemptChange gid retries refetchedAddMemberCredentials client group
              { change with revision := (client.cache.objects group).revision + 1 }
      | _ => (.error (.error "unknown error encrypting and signing group change"), client)

def prepareChange (group : Group) (groupMasterKey : SerializedGroupMasterKey) (change : GroupChange) : GroupChange :=
  { change with
    groupMasterKey
    modifyInviteLinkPassword :=
      if group.inviteLinkPassword = none ∧ change.modifyAddFromInviteLinkAccess ≠ none ∧
          change.modifyInviteLinkPassword ≠ none then some world.newInviteLinkPassword
      else change.modifyInviteLinkPassword
    revision := group.revision + 1 }

def groupIdentifierBytes : Except Failure Bytes :=
  match Base64.decodeChars (gid.filter fun c => !Base64.isLineBreak c) with
  | none => .error (.error "illegal base64 data")
  | some bytes => if bytes.length ≠ 32 then .error (.error "invalid group identifier length") else .ok bytes

def sendGroupUpdate (group : Group) (change : GroupChange) : Except Failure (List ServiceID) := do
  let _ ← groupIdentifierBytes group.groupIdentifier
  return group.members.map GroupMember.userServiceID ++ group.pendingMembers.map PendingMember.serviceID ++
    change.addPendingMembers.map PendingMember.serviceID ++
    change.addMembers.map fun member => member.toGroupMember.userServiceID

def finishUpdate (group : Ref) (change : GroupChange) (response : GroupChangeResponse) :
    Except Failure (UInt32 × Except Failure (List ServiceID)) × Client :=
  match client.cache.applyUpdate env change response.groupSendEndorsementsResponse with
  | (.error (.panic message), cache) => (.error (.panic message), { client with cache })
  | (_, cache) =>
    match response.groupChange with
    | .error message =>
      (.error (.error ("failed to marshal signed group change: " ++ message)), { client with cache })
    | .ok _ => (.ok (change.revision, sendGroupUpdate (cache.objects group) change), { client with cache })

def updateGroup (gid : GroupIdentifier) :
    Except Failure (UInt32 × Except Failure (List ServiceID)) × Client :=
  match world.masterKeyFromGroupIdentifier gid with
  | .error message => (.error (.error ("failed to get master key for group: " ++ message)), client)
  | .ok groupMasterKey =>
    if groupMasterKey = [] then (.error (.error "group master key not found in store"), client)
    else
      match masterKeyToBytes groupMasterKey with
      | .error failure => (.error failure, client)
      | .ok _ =>
        match retrieveGroupByID env world client gid 0 with
        | (.error failure, client) =>
          (.error (failure.wrap "failed to fetch group info to update: "), client)
        | (.ok group, client) =>
          match attemptChange env world gid 5 false client group
              (prepareChange world (client.cache.objects group) groupMasterKey change) with
          | (.error failure, client) => (.error failure, client)
          | (.ok (group, change, response), client) => finishUpdate env client group change response

end Client

section Requests

variable {env : Env} {world : World} {client client₁ : Client} {gid : GroupIdentifier} {change : GroupChange}
  {masterKey groupSecretParams : Bytes} {actions : Actions} {group : Ref}

theorem retrieveGroupByID_requests {group : Except Failure Ref} {revision : UInt32}
    (h : retrieveGroupByID env world client gid revision = (group, client₁)) : client₁.requests = client.requests := by
  have hfetch : (fetchGroupByID env world (getCached world client gid).2 gid).2.requests = client.requests := by
    unfold fetchGroupByID
    split
    · rfl
    split
    · rfl
    split
    · rfl
    split
    · rfl
    unfold parseGroupResponse
    split
    · rfl
    · simp only
      split <;> rfl
  unfold retrieveGroupByID at h
  simp only at h
  split at h
  · obtain rfl := (Prod.mk.inj h).2
    rfl
  split at h
  all_goals
    rename_i hfetched
    rw [hfetched] at hfetch
    obtain rfl := (Prod.mk.inj h).2
    exact hfetch

section

variable (hmaster : masterKeyToBytes change.groupMasterKey = .ok masterKey)
  (hparams : env.deriveGroupSecretParams masterKey = .ok groupSecretParams)
  (hencrypt : encryptGroupChange env groupSecretParams world.ownACI
      (world.randomness client.requests.length) change = .ok actions)

include hmaster hparams hencrypt

theorem encryptAndSignGroupChange_eq : encryptAndSignGroupChange env world client change =
    (patchGroup (world.patch client.requests.length), { client with requests := client.requests ++ [actions] }) := by
  simp [encryptAndSignGroupChange, hmaster, hparams, hencrypt, bind, Except.bind]

theorem attemptChange_of_accepted {response : GroupChangeResponse}
    (hreply : world.patch client.requests.length = .answer 200 (some (.ok response))) (retries : ℕ)
    (refetched : Bool) :
    attemptChange env world gid retries refetched client group change =
      (.ok (group, change, response), { client with requests := client.requests ++ [actions] }) := by
  unfold attemptChange
  rw [encryptAndSignGroupChange_eq hmaster hparams hencrypt, hreply]
  rfl

end

theorem updateGroup_eq {groupMasterKey : SerializedGroupMasterKey}
    (hkey : world.masterKeyFromGroupIdentifier gid = .ok groupMasterKey) (hne : groupMasterKey ≠ [])
    (hmaster : masterKeyToBytes groupMasterKey = .ok masterKey)
    (hretr : retrieveGroupByID env world client gid 0 = (.ok group, client₁)) (change : GroupChange) :
    updateGroup env world client change gid =
      match attemptChange env world gid 5 false client₁ group
          (prepareChange world (client₁.cache.objects group) groupMasterKey change) with
      | (.error failure, client) => (.error failure, client)
      | (.ok (group, change, response), client) => finishUpdate env client group change response := by
  simp [updateGroup, hkey, if_neg hne, hmaster, hretr]

end Requests

section Panics

variable {env : Env} {cache : GroupCache} {change : GroupChange}

theorem GroupCache.updateEntry_not_panic_iff (id : GroupIdentifier) (cached : CachedGroup) (secretParams : Bytes)
    (response : EndorsementsResponse) :
    (∀ message, (cache.updateEntry id cached secretParams change response).1 ≠ .error (.panic message)) ↔
      (change.modifiesAccess = true → (cache.objects cached.group).accessControl.isSome = true) := by
  have hwritten := applyAccess_cases change (applyBeforeAccess change (cache.objects cached.group))
  rw [(applyBeforeAccess_frame change (cache.objects cached.group)).2] at hwritten
  split at hwritten
  · rename_i haccess
    obtain ⟨accessControl, hwritten⟩ := hwritten
    refine iff_of_true ?_ haccess
    simp only [updateEntry, hwritten, renewEndorsements]
    split
    · simp
    · split <;> simp
  · rename_i haccess
    exact iff_of_false (by simp [updateEntry, hwritten]) haccess

-- ApplyUpdate panics only where it changes an access level of a group without an access control.
theorem GroupCache.applyUpdate_not_panic_iff {masterKey : Bytes}
    (hmaster : masterKeyToBytes change.groupMasterKey = .ok masterKey) (response : EndorsementsResponse) :
    (∀ message, (cache.applyUpdate env change response).1 ≠ .error (.panic message)) ↔
      accessPresent env cache (.applyUpdate change response) = true := by
  cases htarget : changeTarget env change with
  | error failure =>
    have hfailure : ∀ message, failure ≠ .panic message := by
      intro message heq
      cases hid : env.groupIdentifier masterKey
      all_goals cases hparams : env.deriveGroupSecretParams masterKey
      all_goals
        simp [changeTarget, hmaster, hid, hparams, heq, bind, Except.bind, pure, Except.pure] at htarget
    simp only [applyUpdate, accessPresent, htarget, ne_eq, Except.error.injEq, iff_true]
    exact hfailure
  | ok target =>
    obtain ⟨id, secretParams⟩ := target
    cases hcached : cache.data id with
    | none => simp [applyUpdate, accessPresent, htarget, hcached, entry]
    | some cached =>
      rw [applyUpdate_eq htarget hcached]
      simp only [accessPresent, htarget, entry, hcached]
      by_cases hold : (cache.objects cached.group).revision ≥ change.revision
      · have hlt := UInt32.not_lt.mpr hold
        simp [if_pos hold, hlt]
      rw [if_neg hold]
      have hlt := UInt32.not_le.mp hold
      by_cases hmissed : (cache.objects cached.group).revision < change.revision - 1
      · simp [hmissed]
      · rw [if_neg hmissed, updateEntry_not_panic_iff]
        cases hmodifies : change.modifiesAccess <;> simp [hlt, hmissed]

end Panics

theorem finishUpdate_eq_ok_iff {env : Env} {client client' : Client} {group : Ref} {change : GroupChange}
    {response : GroupChangeResponse} {result : UInt32 × Except Failure (List ServiceID)} :
    finishUpdate env client group change response = (.ok result, client') ↔
      let applied := client.cache.applyUpdate env change response.groupSendEndorsementsResponse
      (∀ message, applied.1 ≠ .error (.panic message)) ∧ (∃ bytes, response.groupChange = .ok bytes) ∧
        (change.revision, sendGroupUpdate (applied.2.objects group) change) = result ∧
        { client with cache := applied.2 } = client' := by
  unfold finishUpdate
  split
  · rename_i heq
    simp [heq]
  · rename_i hpanic heq
    rw [heq]
    cases response.groupChange with
    | error text => simp
    | ok bytes => simpa using fun _ _ message hres => hpanic message hres

structure ConflictRun (world : World) (sent conflicts : ℕ) (response : GroupChangeResponse) : Prop where
  refused : ∀ i < conflicts, ∃ body, world.patch (sent + i) = .answer 409 (some body)
  accepted : world.patch (sent + conflicts) = .answer 200 (some (.ok response))
  marshalled : ∃ bytes, response.groupChange = .ok bytes

-- UpdateGroup returns the revision of the accepted request exactly in the runs without a conflict (in which the
-- update of the cache does not panic).
theorem updateGroup_returns_stored_revision_iff {env : Env} {world : World} {client client₁ : Client}
    {gid : GroupIdentifier} {groupMasterKey : SerializedGroupMasterKey} {masterKey groupSecretParams : Bytes}
    {group : Ref} {change : GroupChange} {actions : Actions} {conflicts : ℕ} {response : GroupChangeResponse}
    (hkey : world.masterKeyFromGroupIdentifier gid = .ok groupMasterKey) (hne : groupMasterKey ≠ [])
    (hmaster : masterKeyToBytes groupMasterKey = .ok masterKey)
    (hparams : env.deriveGroupSecretParams masterKey = .ok groupSecretParams)
    (hretr : retrieveGroupByID env world client gid 0 = (.ok group, client₁))
    (hencrypt : encryptGroupChange env groupSecretParams world.ownACI (world.randomness client.requests.length)
      (prepareChange world (client₁.cache.objects group) groupMasterKey change) = .ok actions)
    (hatmost : conflicts ≤ 5) (hrun : ConflictRun world client.requests.length conflicts response) :
    (∃ revision sent client' refused accepted,
      updateGroup env world client change gid = (.ok (revision, sent), client') ∧
      client'.requests = client.requests ++ refused ++ [accepted] ∧ refused.length = conflicts ∧
      accepted.version = revision) ↔
    conflicts = 0 ∧ GroupCache.accessPresent env client₁.cache (.applyUpdate
      (prepareChange world (client₁.cache.objects group) groupMasterKey change)
      response.groupSendEndorsementsResponse) = true := by
  have hreqs := retrieveGroupByID_requests hretr
  rw [updateGroup_eq hkey hne hmaster hretr]
  rw [← hreqs] at hencrypt hrun ⊢
  generalize hprepared : prepareChange world (client₁.cache.objects group) groupMasterKey change = prepared at *
  have hmaster' : masterKeyToBytes prepared.groupMasterKey = .ok masterKey := by
    rw [← hprepared]
    exact hmaster
  cases conflicts with
  | succ conflicts =>
    obtain ⟨body, hreply⟩ := hrun.refused 0 (Nat.succ_pos conflicts)
    rw [Nat.add_zero] at hreply
    rw [attemptChange, encryptAndSignGroupChange_eq hmaster' hparams hencrypt, hreply]
    simp [patchGroup]
  | zero =>
    rw [attemptChange_of_accepted hmaster' hparams hencrypt hrun.accepted,
      ← GroupCache.applyUpdate_not_panic_iff hmaster']
    simp only [true_and]
    constructor
    · rintro ⟨revision, sent, client', refused, accepted, hfinish, -⟩
      exact (finishUpdate_eq_ok_iff.mp hfinish).1
    · intro hpanic
      refine ⟨_, _, _, [], actions, finishUpdate_eq_ok_iff.mpr ⟨hpanic, hrun.marshalled, rfl, rfl⟩, by simp, rfl, ?_⟩
      simp only [encryptGroupChange, bind_eq_ok_iff] at hencrypt
      obtain ⟨_, -, _, -, _, -, _, -, _, -, _, -, _, -, _, -, _, -, _, -, _, -, _, -, _, -, hactions⟩ := hencrypt
      rw [← Except.ok.inj hactions]

def acceptedResponse : GroupChangeResponse :=
  { groupChange := .ok [], groupSendEndorsementsResponse := GroupCache.countingResponse }

def conflictingWorld (conflicts : ℕ) : World where
  ownACI := UUID.ofByte 1
  masterKeyFromGroupIdentifier _ := .ok plainMasterKey
  storeProfileKey _ _ := .ok ()
  now _ := 0
  get _ := .error "unexpected response status: 500"
  patch n :=
    if n < conflicts then .answer 409 (some (.error "unexpected EOF")) else .answer 200 (some (.ok acceptedResponse))
  randomness _ _ := []
  newInviteLinkPassword := []

def bareClient : Client :=
  { cache := (GroupCache.bareCache.put (plainEnv []) 0 GroupCache.countingResponse).2, next := 1 }

def newTitle : GroupChange := { groupMasterKey := [], modifyTitle := some ['B'] }

theorem conflictingWorld_run (conflicts : ℕ) :
    ConflictRun (conflictingWorld conflicts) bareClient.requests.length conflicts acceptedResponse where
  refused i hi := ⟨.error "unexpected EOF", by simp [conflictingWorld, bareClient, hi]⟩
  accepted := by simp [conflictingWorld, bareClient]
  marshalled := ⟨[], rfl⟩

theorem updateGroup_returns_stored_revision_newTitle : ∃ revision sent client' accepted,
    updateGroup (plainEnv []) (conflictingWorld 0) bareClient newTitle plainMasterKey =
      (.ok (revision, sent), client') ∧ client'.requests = [accepted] ∧ accepted.version = revision := by
  have hfound : (retrieveGroupByID (plainEnv []) (conflictingWorld 0) bareClient plainMasterKey 0).1 = .ok 0 := by
    decide +kernel
  have hencrypt : encryptGroupChange (plainEnv []) (List.replicate masterKeyLength 0)
      (conflictingWorld 0).ownACI ((conflictingWorld 0).randomness bareClient.requests.length)
      (prepareChange (conflictingWorld 0)
        ((retrieveGroupByID (plainEnv []) (conflictingWorld 0) bareClient plainMasterKey 0).2.cache.objects 0)
        plainMasterKey newTitle) =
      .ok { version := 1, modifyTitle := some (0 :: plainMarshal (.title ['B'])) } := by
    decide +kernel
  obtain ⟨revision, sent, client', refused, accepted, hupd, hreqs, hrefused, hver⟩ :=
    (updateGroup_returns_stored_revision_iff rfl (by decide +kernel) masterKeyToBytes_plainMasterKey rfl
      (Prod.ext hfound rfl) hencrypt (Nat.zero_le 5) (conflictingWorld_run 0)).mpr ⟨rfl, by decide +kernel⟩
  rw [List.length_eq_zero_iff.mp hrefused] at hreqs
  exact ⟨revision, sent, client', accepted, hupd, hreqs, hver⟩

-- One conflict is enough for UpdateGroup to give up with an error, although the server accepts the next attempt.
theorem updateGroup_gives_up_on_conflict :
    ConflictRun (conflictingWorld 1) bareClient.requests.length 1 acceptedResponse ∧
    (updateGroup (plainEnv []) (conflictingWorld 1) bareClient newTitle plainMasterKey).1 =
      .error (.error "unknown error encrypting and signing group change") := by
  refine ⟨conflictingWorld_run 1, ?_⟩
  decide +kernel

end MautrixSignal.Groups
