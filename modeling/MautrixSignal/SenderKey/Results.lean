import MautrixSignal.SenderKey.Recipients

namespace MautrixSignal.SenderKey

open List

def sendEach (own : ServiceID) (answer : ℕ → Bool) : ℕ → List ServiceID → Result → Result
  | _, [], result => result
  | i, recipient :: recipients, result =>
    if recipient = own then sendEach own answer (i + 1) recipients result
    else if answer i then
      sendEach own answer (i + 1) recipients
        { result with successfullySentTo := result.successfullySentTo ++ [recipient] }
    else
      sendEach own answer (i + 1) recipients
        { result with failedToSendTo := result.failedToSendTo ++ [recipient] }

variable (own : ServiceID)

def sendToEveryone (answer : ℕ → Bool) (recipients : List ServiceID) (result : Result) :
    Option Result :=
  let result := sendEach own answer 0 recipients result
  if result.failedToSendTo ≠ [] ∧ result.successfullySentTo = [] then none else some result

-- What one send finds in its attempts: the state at the start of each, since the lock is free in between.
structure Answers where
  world : ℕ → World
  attempt : ℕ → Attempt
  answer : ℕ → Bool

variable (send : Send) (answers : Answers)

def Answers.next (i : ℕ) : Next :=
  if (answers.attempt i).ownAddress = false then .error
  else (attemptSend own (answers.world i) send (answers.attempt i)).2

-- sendToGroupWithSenderKey as a whole, with the attempts that are left.
def sendWithRetries (own : ServiceID) (send : Send) (answers : Answers) : ℕ → ℕ → Option Result
  | 0, _ => sendToEveryone own answers.answer send.recipients {}
  | left + 1, i =>
    match answers.next own send i with
    | .error => none
    | .retry => sendWithRetries own send answers left (i + 1)
    | .fallBack recipients result => sendToEveryone own answers.answer recipients result

-- The devices that the multi-recipient request after an encryption is for. It is made if the message could be sealed
-- and the header could be built.
def requestFor (a : Attempt) : List Encryption → List Device
  | [] => []
  | encryption :: _ => if a.encrypt = .sealed ∧ a.header then encryption.addressed else []

def multiRecipient (w : World) (a : Attempt) : List Device :=
  requestFor a ((attemptSend own w send a).1.encryptions.drop w.encryptions.length)

def distributedTo (w : World) (a : Attempt) : List Device :=
  ((attemptSend own w send a).1.sent.drop w.sent.length).map Prod.snd

def overAttempts (own : ServiceID) (send : Send) (answers : Answers) (devices : World → Attempt → List Device) :
    ℕ → ℕ → List Device
  | 0, _ => []
  | left + 1, i =>
    if (answers.attempt i).ownAddress = false then []
    else
      devices (answers.world i) (answers.attempt i) ++
        match answers.next own send i with
        | .retry => overAttempts own send answers devices left (i + 1)
        | _ => []

def requestedDevices : List Device :=
  overAttempts own send answers (multiRecipient own send) 3 0

def distributedDevices : List Device :=
  overAttempts own send answers (distributedTo own send) 3 0

def fallbackRecipients (own : ServiceID) (send : Send) (answers : Answers) : ℕ → ℕ → List ServiceID
  | 0, _ => send.recipients
  | left + 1, i =>
    match answers.next own send i with
    | .error => []
    | .retry => fallbackRecipients own send answers left (i + 1)
    | .fallBack recipients _ => recipients

def sendGroupMessageResult : Option Result :=
  sendWithRetries own send answers 3 0

variable (recipients : List ServiceID)

def EachOnce (result : Result) : Prop :=
  ∀ u ∈ recipients, u ≠ own → result.count u = 1

variable (lookup : ℕ → Lookup)

def NoneUsable : Prop :=
  ∀ r ∈ recipients.zipIdx, (lookup r.2).usable own r.1 = false

def NoneUnregistered : Prop :=
  ∀ r ∈ recipients.zipIdx, (lookup r.2).unregistered own r.1 = false

theorem accounts_getDevicesIDs {recipients : List ServiceID} (hnodup : recipients.Nodup) (lookup : ℕ → Lookup)
    (u : ServiceID) :
    (getDevicesIDs own recipients lookup).accounts u = if u ∈ recipients ∧ u ≠ own then 1 else 0 := by
  have h := (computed_getDevicesIDs own recipients lookup).accounts
  rw [zipIdx_map_fst] at h
  exact h hnodup u

theorem count_foldl_send {key : ℕ} {distribution : ServiceID → DistributionResult} {added : List ServiceID}
    (hnodup : added.Nodup) {s : Distributing} (hmem : ∀ r ∈ added, r ∈ s.deviceIDs) (u : ServiceID) :
    (added.foldl (Distributing.send key distribution) s).deviceIDs.keys.count u +
        (added.foldl (Distributing.send key distribution) s).fallbackRecipients.count u =
      s.deviceIDs.keys.count u + s.fallbackRecipients.count u := by
  induction added generalizing s with
  | nil => rfl
  | cons recipient added ih =>
    obtain ⟨hnotMem, hrest⟩ := nodup_cons.mp hnodup
    have hstep : ∀ s', s.send key distribution recipient = s' →
        s'.deviceIDs.keys.count u + s'.fallbackRecipients.count u =
          s.deviceIDs.keys.count u + s.fallbackRecipients.count u ∧
        ∀ r ∈ added, r ∈ s'.deviceIDs := by
      rintro _ rfl
      unfold Distributing.send
      split
      · exact ⟨rfl, fun r hr => hmem r (mem_cons_of_mem _ hr)⟩
      · exact ⟨rfl, fun r hr => hmem r (mem_cons_of_mem _ hr)⟩
      have hkey := hmem recipient mem_cons_self
      constructor
      · have hpos := count_pos_iff.mpr hkey
        simp only [AList.keys_erase, count_append, count_erase]
        by_cases hu : recipient = u
        · subst hu
          simp only [BEq.rfl, if_true, count_singleton_self]
          omega
        · simp [hu]
      · intro r hr
        have hne : r ≠ recipient := by
          rintro rfl
          exact hnotMem hr
        exact AList.mem_erase.mpr ⟨hne, hmem r (mem_cons_of_mem _ hr)⟩
    obtain ⟨hcount, hlater⟩ := hstep _ rfl
    rw [foldl_cons, ih hrest hlater, hcount]

theorem resetIfRemoved_added {w w' : World} {a : Attempt} {info info' : SenderKeyInfo} {deviceIDs : DeviceMap}
    {added : List ServiceID} (hord : IsOrder info.sharedWith deviceIDs a.order)
    (h : resetIfRemoved w a info deviceIDs = (w', some (info', added))) : added.Nodup ∧ ∀ r ∈ added, r ∈ deviceIDs := by
  unfold resetIfRemoved at h
  simp only at h
  split at h
  · cases h
    constructor
    · rw [diffRecipients, (foldl_visit a.order {}).2]
      exact hord.1.filter _
    · exact fun r hr => mem_of_added hr
  · split at h
    · cases h
      exact ⟨deviceIDs.keys_nodup, fun r hr => hr⟩
    · cases h

section Attempt

variable {own : ServiceID} {w : World} {send : Send} {a : Attempt} {recipients : List ServiceID} {result : Result}
  {s : Distributing}

theorem count_filter_add (uuids404 keys : List ServiceID) (u : ServiceID) :
    (keys.filter (· ∉ uuids404)).count u + (keys.filter (· ∈ uuids404)).count u = keys.count u := by
  by_cases hu : u ∈ uuids404
  · have hnone : (keys.filter (· ∉ uuids404)).count u = 0 := by
      rw [count_eq_zero]
      simp [hu]
    rw [hnone, count_filter (by simpa using hu), Nat.zero_add]
  · have hnone : (keys.filter (· ∈ uuids404)).count u = 0 := by
      rw [count_eq_zero]
      simp [hu]
    rw [hnone, count_filter (by simpa using hu), Nat.add_zero]

def Covers (own : ServiceID) (all recipients : List ServiceID) (result : Result) : Prop :=
  (recipients = all ∧ result = {}) ∨
    ∀ u, result.count u + recipients.count u = if u ∈ all ∧ u ≠ own then 1 else 0

theorem handleResponse_covers {computed : Result} {response : Response}
    (hcount : ∀ u, s.deviceIDs.keys.count u + s.fallbackRecipients.count u + computed.count u =
      if u ∈ send.recipients ∧ u ≠ own then 1 else 0)
    (h : handleResponse send s computed response = .fallBack recipients result) :
    Covers own send.recipients recipients result := by
  unfold handleResponse at h
  split at h
  · rename_i uuids404
    cases h
    right
    intro u
    have hfilter := count_filter_add uuids404 s.deviceIDs.keys u
    rw [← hcount u]
    simp only [Result.count, count_append]
    omega
  · cases h
    exact .inl ⟨rfl, rfl⟩
  · split at h <;> cases h
  · cases h

theorem not_fallBack_afterFailedEncryption (sessionNotFound : Bool) :
    (afterFailedEncryption w a sessionNotFound).2 ≠ .fallBack recipients result := by
  unfold afterFailedEncryption
  split <;> simp

theorem encryptAndSend_fallBack {computed : Devices}
    (h : (encryptAndSend a send computed s).2 = .fallBack recipients result) :
    handleResponse send s computed.result a.response = .fallBack recipients result := by
  unfold encryptAndSend at h
  split at h
  · exact absurd h (not_fallBack_afterFailedEncryption _)
  · exact absurd h (not_fallBack_afterFailedEncryption _)
  simp only at h
  split at h
  · exact absurd h (not_fallBack_afterFailedEncryption _)
  · split at h
    · cases h
    · exact h

theorem attemptSend_fallBack (hnodup : send.recipients.Nodup)
    (hord : ∀ info, (currentInfo w a).2 = some info →
      IsOrder info.sharedWith (getDevicesIDs own send.recipients a.lookup).deviceIDs a.order)
    (h : (attemptSend own w send a).2 = .fallBack recipients result) :
    (NoneUsable own send.recipients a.lookup ∧ recipients = send.recipients ∧
      result = (getDevicesIDs own send.recipients a.lookup).result) ∨
    (¬ NoneUsable own send.recipients a.lookup ∧ Covers own send.recipients recipients result) := by
  have husable := (computed_getDevicesIDs own send.recipients a.lookup).usable
  unfold attemptSend at h
  simp only at h
  split at h
  · rename_i hnone
    cases h
    exact .inl ⟨husable.mp hnone, rfl, rfl⟩
  · rename_i hsome
    refine .inr ⟨fun hnone => hsome (husable.mpr hnone), ?_⟩
    split at h
    · cases h
    rename_i w' info hinfo
    split at h
    · cases h
    · rename_i w'' info' added hreset
      obtain ⟨hadd, hmem⟩ := resetIfRemoved_added (hord info (by rw [hinfo])) hreset
      unfold distributeAndSend at h
      simp only at h
      split at h
      · cases h
      rename_i s hdistr
      split at h
      · cases h
      refine handleResponse_covers (fun u => ?_) (encryptAndSend_fallBack h)
      rw [← accounts_getDevicesIDs own hnodup a.lookup u, Devices.accounts, Nat.add_right_cancel_iff]
      unfold distributeKey at hdistr
      split at hdistr
      · cases hdistr
        rfl
      split at hdistr
      · cases hdistr
      simp only at hdistr
      split at hdistr
      · cases hdistr
      split at hdistr
      · cases hdistr
        exact count_foldl_send hadd hmem u
      · cases hdistr

theorem usable_of_retry (h : (attemptSend own w send a).2 = .retry) : ¬ NoneUsable own send.recipients a.lookup := by
  intro hnone
  have hemp := (computed_getDevicesIDs own send.recipients a.lookup).usable.mpr hnone
  simp [attemptSend, hemp] at h

end Attempt

section Requests

variable {own : ServiceID} {w : World} {send : Send} {a : Attempt} {dev : Device}

theorem multiRecipient_ne_own (h : dev ∈ multiRecipient own send w a) : dev.serviceID ≠ own := by
  unfold multiRecipient requestFor at h
  split at h
  · cases h
  rename_i encryption rest heq
  split at h
  · have hmem : encryption ∈ (attemptSend own w send a).1.encryptions.drop w.encryptions.length := by
      rw [heq]
      exact mem_cons_self
    exact (computed_getDevicesIDs _ _ _).ne_own _ (attempts_attemptSend.2 encryption hmem h)
  · cases h

theorem requestedDevices_ne_own {answers : Answers} (h : dev ∈ requestedDevices own send answers) :
    dev.serviceID ≠ own := by
  have hatts : ∀ left i, dev ∈ overAttempts own send answers (multiRecipient own send) left i →
      dev.serviceID ≠ own := by
    intro left
    induction left with
    | zero =>
      intro i hdev
      cases hdev
    | succ left ih =>
      intro i hdev
      unfold overAttempts at hdev
      split at hdev
      · cases hdev
      · rcases mem_append.mp hdev with hnow | hlater
        · exact multiRecipient_ne_own hnow
        · split at hlater
          · exact ih (i + 1) hlater
          · cases hlater
  exact hatts 3 0 h

end Requests

section Fallback

variable {own : ServiceID} {answer : ℕ → Bool} {recipients : List ServiceID} {result result' : Result}

theorem count_sendEach (i : ℕ) (u : ServiceID) (hu : u ≠ own) :
    (sendEach own answer i recipients result).count u = result.count u + recipients.count u := by
  induction recipients generalizing i result with
  | nil => rfl
  | cons recipient recipients ih =>
    unfold sendEach
    split
    · rename_i hown
      subst hown
      rw [ih, count_cons_of_ne hu.symm]
    · split
      all_goals
        rw [ih, count_cons]
        simp only [Result.count, count_append, count_singleton]
        omega

theorem count_sendToEveryone (h : sendToEveryone own answer recipients result = some result') (u : ServiceID)
    (hu : u ≠ own) : result'.count u = result.count u + recipients.count u := by
  unfold sendToEveryone at h
  simp only at h
  split at h
  · cases h
  · cases h
    exact count_sendEach 0 u hu

theorem Covers.eachOnce {all : List ServiceID} (hcov : Covers own all recipients result) (hnodup : all.Nodup)
    (h : sendToEveryone own answer recipients result = some result') : EachOnce own all result' := by
  intro u hu hown
  rw [count_sendToEveryone h u hown]
  rcases hcov with ⟨rfl, rfl⟩ | hcount
  · simp [Result.count, count_eq_one_of_mem hnodup hu]
  · rw [hcount u, if_pos ⟨hu, hown⟩]

end Fallback

-- An attempt that finds nobody to use the sender key with finds nobody unregistered either.
def Unrepeated (own : ServiceID) (recipients : List ServiceID) (lookup : ℕ → Lookup) : Prop :=
  NoneUsable own recipients lookup → NoneUnregistered own recipients lookup

section Retries

variable {own : ServiceID} {send : Send} {answers : Answers} {result : Result}

theorem next_eq (i : ℕ) (h : answers.next own send i ≠ .error) :
    answers.next own send i = (attemptSend own (answers.world i) send (answers.attempt i)).2 := by
  unfold Answers.next at h ⊢
  split at h
  · exact absurd rfl h
  · rename_i haddr
    rw [if_neg haddr]

theorem eachOnce_fallBack_iff {i : ℕ} {recipients : List ServiceID} {start : Result} (hnodup : send.recipients.Nodup)
    (hord : ∀ info, (currentInfo (answers.world i) (answers.attempt i)).2 = some info →
      IsOrder info.sharedWith (getDevicesIDs own send.recipients (answers.attempt i).lookup).deviceIDs
        (answers.attempt i).order) (hnext : answers.next own send i = .fallBack recipients start)
    (h : sendToEveryone own answers.answer recipients start = some result) :
    EachOnce own send.recipients result ↔ Unrepeated own send.recipients (answers.attempt i).lookup := by
  rw [next_eq i (by simp [hnext])] at hnext
  rcases attemptSend_fallBack hnodup hord hnext with ⟨hnone, rfl, rfl⟩ | ⟨hsome, hcov⟩
  · have hcomp := computed_getDevicesIDs own send.recipients (answers.attempt i).lookup
    have hsucc := hcomp.success
    rw [Unrepeated, NoneUnregistered, ← hcomp.unregistered]
    constructor
    · intro honce _
      rw [eq_nil_iff_forall_not_mem]
      intro u hu
      -- The accounts say that the user is a recipient and not the own account.
      have haccounts := accounts_getDevicesIDs own hnodup (answers.attempt i).lookup u
      have hpos := count_pos_iff.mpr hu
      have hmem : u ∈ send.recipients ∧ u ≠ own := by
        by_contra hnot
        rw [if_neg hnot] at haccounts
        simp only [Devices.accounts, Result.count] at haccounts
        omega
      have hcount := count_sendToEveryone h u hmem.2
      rw [honce u hmem.1 hmem.2, count_eq_one_of_mem hnodup hmem.1] at hcount
      simp only [Result.count] at hcount
      omega
    · intro hemp
      have hres : (getDevicesIDs own send.recipients (answers.attempt i).lookup).result = {} := by
        generalize (getDevicesIDs own send.recipients (answers.attempt i).lookup).result = computed at *
        cases computed
        simp_all
      exact Covers.eachOnce (.inl ⟨rfl, hres⟩) hnodup h
  · constructor
    · intro _ hnone
      exact absurd hnone hsome
    · intro _
      exact hcov.eachOnce hnodup h

theorem eachOnce_sendWithRetries_iff (hnodup : send.recipients.Nodup)
    (hord : ∀ i info, (currentInfo (answers.world i) (answers.attempt i)).2 = some info →
      IsOrder info.sharedWith (getDevicesIDs own send.recipients (answers.attempt i).lookup).deviceIDs
        (answers.attempt i).order)
    {left i : ℕ} (h : sendWithRetries own send answers left i = some result) :
    EachOnce own send.recipients result ↔ ∀ k, i ≤ k → k < i + left →
      (∀ j, i ≤ j → j < k → answers.next own send j = .retry) →
      Unrepeated own send.recipients (answers.attempt k).lookup := by
  induction left generalizing i with
  | zero =>
    constructor
    · intro _ k hle hlt
      omega
    · intro _
      exact Covers.eachOnce (.inl ⟨rfl, rfl⟩) hnodup h
  | succ left ih =>
    unfold sendWithRetries at h
    split at h
    · cases h
    · rename_i hretry
      rw [ih h]
      have husable : Unrepeated own send.recipients (answers.attempt i).lookup := by
        intro hnone
        rw [next_eq i (by simp [hretry])] at hretry
        exact absurd hnone (usable_of_retry hretry)
      constructor
      · intro hlater k hle hlt hbef
        by_cases hk : k = i
        · exact hk ▸ husable
        · exact hlater k (by omega) (by omega) fun j hj hjk => hbef j (by omega) hjk
      · intro hall k hle hlt hbef
        refine hall k (by omega) (by omega) fun j hj hjk => ?_
        by_cases hji : j = i
        · exact hji ▸ hretry
        · exact hbef j (by omega) hjk
    · rename_i recipients start hnext
      rw [eachOnce_fallBack_iff hnodup (hord i) hnext h]
      constructor
      · intro hunrepeated k hle hlt hbef
        by_cases hk : k = i
        · exact hk ▸ hunrepeated
        · have hretry := hbef i (le_refl i) (by omega)
          rw [hretry] at hnext
          cases hnext
      · intro hall
        exact hall i (le_refl i) (by omega) fun j hj hji => by omega

end Retries

-- A result has everyone once exactly if the attempts that were made repeat nobody.
theorem group_result_each_once_iff {own : ServiceID} {send : Send} {answers : Answers} {result : Result}
    (hnodup : send.recipients.Nodup)
    (hord : ∀ i info, (currentInfo (answers.world i) (answers.attempt i)).2 = some info →
      IsOrder info.sharedWith (getDevicesIDs own send.recipients (answers.attempt i).lookup).deviceIDs
        (answers.attempt i).order)
    (h : sendGroupMessageResult own send answers = some result) :
    EachOnce own send.recipients result ↔
      ∀ k < 3, (∀ j < k, answers.next own send j = .retry) →
        Unrepeated own send.recipients (answers.attempt k).lookup := by
  rw [eachOnce_sendWithRetries_iff hnodup hord h]
  constructor
  · intro hall k hk hbef
    exact hall k (Nat.zero_le k) (by omega) fun j _ hjk => hbef j hjk
  · intro hall k _ hk hbef
    exact hall k (by omega) fun j hjk => hbef j (Nat.zero_le j) hjk

def selfID : ServiceID := newACIServiceID (.ofByte 9)

def goneMember : ServiceID := newACIServiceID (.ofByte 1)

def otherMember : ServiceID := newACIServiceID (.ofByte 2)

def groupSend : Send :=
  { recipients := [selfID, goneMember, otherMember], timestamp := 100, phase := .attempting 0 }

def goneLookup : Lookup :=
  { hasEndorsement := true, profileKey := .found 5, sessions := some [], fetch := .unregistered }

def attemptWith (other : Lookup) : Attempt where
  lookup := fun i => if i = 1 then goneLookup else other
  newDistributionID := .ofByte 7
  order := [otherMember]
  distribution := fun _ => .sent [1]
  response := .ok []

def answersWith (other : Lookup) : Answers where
  world := fun _ => {}
  attempt := fun _ => attemptWith other
  answer := fun i => i = 2

def usableAnswers : Answers :=
  answersWith { hasEndorsement := true, profileKey := .found 6, sessions := some [1] }

def unendorsedAnswers : Answers :=
  answersWith { hasEndorsement := false, profileKey := .found 6, sessions := some [1] }

theorem group_result_each_once_usable : ∃ result,
    sendGroupMessageResult selfID groupSend usableAnswers = some result ∧
    result = { successfullySentTo := [otherMember], failedToSendTo := [goneMember] } ∧
    EachOnce selfID groupSend.recipients result := by
  have hres : sendGroupMessageResult selfID groupSend usableAnswers =
      some { successfullySentTo := [otherMember], failedToSendTo := [goneMember] } := by
    decide
  refine ⟨_, hres, rfl, (group_result_each_once_iff (by decide) ?_ hres).mpr ?_⟩
  · rintro i info ⟨⟩
    refine ⟨nodup_singleton otherMember, fun u => ?_⟩
    exact (or_iff_right (by simp)).symm
  · intro k _ _ hnone
    have husable : (usableAnswers.attempt k).lookup 2 =
        { hasEndorsement := true, profileKey := .found 6, sessions := some [1] } := rfl
    have hunusable := hnone (otherMember, 2) (by decide)
    rw [husable] at hunusable
    exact absurd hunusable (by decide)

-- With nobody to use the sender key with, the member found unregistered is sent to again, and listed again.
theorem unregistered_member_listed_twice : ∃ result,
    sendGroupMessageResult selfID groupSend unendorsedAnswers = some result ∧
    result = { successfullySentTo := [otherMember], failedToSendTo := [goneMember, goneMember] } ∧
    ¬ EachOnce selfID groupSend.recipients result := by
  have hres : sendGroupMessageResult selfID groupSend unendorsedAnswers =
      some { successfullySentTo := [otherMember], failedToSendTo := [goneMember, goneMember] } := by
    decide
  refine ⟨_, hres, rfl, ?_⟩
  intro honce
  have hcount := honce goneMember (by decide) (by decide)
  revert hcount
  decide

end MautrixSignal.SenderKey
