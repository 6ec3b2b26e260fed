import MautrixSignal.SenderKey.Results

namespace MautrixSignal.SenderKey

def DistributionResult.fails : DistributionResult → Bool
  | .failed _ => true
  | _ => false

def DistributionResult.findsOtherDevices : DistributionResult → Bool
  | .devicesChanged _ => true
  | _ => false

section Conditions

variable (own : ServiceID) (send : Send) (w : World) (a : Attempt)

-- The info that an attempt goes on with if its queries succeed.
def Attempt.info : SenderKeyInfo :=
  let new : SenderKeyInfo := ⟨a.newDistributionID, ∅, w.now⟩
  w.info.elim new fun info => if info.expired w.now then new else info

def Attempt.diff (deviceIDs : DeviceMap) : Diff :=
  diffRecipients a.slices (a.info w).sharedWith deviceIDs a.order

-- The users who need a distribution message.
def Attempt.lacking (deviceIDs : DeviceMap) : List ServiceID :=
  if (a.diff w deviceIDs).removedDevices.entries = [] then (a.diff w deviceIDs).devicesAddedTo else deviceIDs.keys

-- What the attempt is answered up to the request. Where nobody needs the key, its record has to be there already.
structure Attempt.Answered (deviceIDs : DeviceMap) : Prop where
  getInfo : a.getInfo = true
  deleteExpired : ∀ info ∈ w.info, info.expired w.now = true → a.deleteExpired = true
  deleteRemoved : (a.diff w deviceIDs).removedDevices.entries ≠ [] → a.deleteRemoved = true
  distributes : a.lacking w deviceIDs ≠ [] → a.newDistributionMessage = true ∧ a.serialize = true ∧
    a.putInfo = true ∧ ∀ u ∈ a.lacking w deviceIDs, (a.distribution u).findsOtherDevices = false
  hasKey : a.lacking w deviceIDs = [] →
    (resetIfRemoved (currentInfo w a).1 a (a.info w) deviceIDs).1.keyRecords (a.info w).distributionID ≠ none
  encrypt : a.encrypt = .sealed
  header : a.header = true

-- The request is made, and it is for a member who has a usable session and either has the key or was sent it.
structure Attempt.Requests : Prop where
  answered : a.Answered w (getDevicesIDs own send.recipients a.lookup).deviceIDs
  reaches : ∃ r ∈ send.recipients.zipIdx, (a.lookup r.2).usable own r.1 = true ∧
    (r.1 ∈ a.lacking w (getDevicesIDs own send.recipients a.lookup).deviceIDs → (a.distribution r.1).fails = false)

-- One of the attempts makes the request, and those before it are retried.
def RequestMade (answers : Answers) : Prop :=
  ∃ i < 3, (∀ j < i, answers.next own send j = .retry) ∧ (answers.attempt i).ownAddress = true ∧
    (answers.attempt i).Requests own send (answers.world i)

end Conditions

section Steps

variable {own : ServiceID} {send : Send} {w : World} {a : Attempt} {computed : Devices} {s : Distributing}

theorem currentInfo_snd : (currentInfo w a).2 =
    if a.getInfo = true ∧ ∀ info ∈ w.info, info.expired w.now = true → a.deleteExpired = true then some (a.info w)
    else none := by
  unfold currentInfo Attempt.info
  cases a.getInfo <;> cases w.info with
  | none => simp
  | some info => cases hexpired : info.expired w.now <;> cases a.deleteExpired <;> simp [hexpired]

-- After the messages to a list of users, who are not sent the request and what is kept.
theorem foldl_send_spec (key : ℕ) (distribution : ServiceID → DistributionResult) (added : List ServiceID)
    (s : Distributing) :
    let s' := added.foldl (Distributing.send key distribution) s
    (s'.needsRetry = true ↔ s.needsRetry = true ∨ ∃ u ∈ added, (distribution u).findsOtherDevices = true) ∧
      (∀ dev, dev ∈ s'.senderKeyRecipients ↔ dev ∈ s.senderKeyRecipients ∧
        (dev.serviceID ∈ added → (distribution dev.serviceID).fails = false)) ∧
      s'.info.distributionID = s.info.distributionID ∧ s'.world.keyRecords = s.world.keyRecords := by
  induction added generalizing s with
  | nil => simp
  | cons u added ih =>
    obtain ⟨hretry, hrecips, hid, hrecs⟩ := ih (s.send key distribution u)
    have hstep : ((s.send key distribution u).needsRetry = true ↔
          s.needsRetry = true ∨ (distribution u).findsOtherDevices = true) ∧
        (∀ dev, dev ∈ (s.send key distribution u).senderKeyRecipients ↔ dev ∈ s.senderKeyRecipients ∧
          (dev.serviceID = u → (distribution u).fails = false)) ∧
        (s.send key distribution u).info.distributionID = s.info.distributionID ∧
        (s.send key distribution u).world.keyRecords = s.world.keyRecords := by
      unfold Distributing.send
      cases distribution u <;>
        simp [DistributionResult.findsOtherDevices, DistributionResult.fails, World.distribute]
    simp only [List.foldl_cons]
    refine ⟨?_, fun dev => ?_, hid.trans hstep.2.2.1, hrecs.trans hstep.2.2.2⟩
    · rw [hretry, hstep.1, List.exists_mem_cons_iff, or_assoc]
    · rw [hrecips, hstep.2.1, and_assoc, List.mem_cons]
      refine and_congr_right fun _ => ⟨?_, fun h => ⟨fun heq => ?_, fun hmem => h (.inr hmem)⟩⟩
      · rintro ⟨hfirst, hrest⟩ (heq | hmem)
        · exact heq ▸ hfirst heq
        · exact hrest hmem
      · exact heq ▸ h (.inl heq)

theorem mem_requestFor {encryptions : List Encryption} {dev : Device} :
    dev ∈ requestFor a encryptions ↔
      a.encrypt = .sealed ∧ a.header = true ∧ ∃ encryption ∈ encryptions.head?, dev ∈ encryption.addressed := by
  cases encryptions with
  | nil => simp [requestFor]
  | cons encryption rest =>
    simp only [requestFor]
    split <;> simp_all

theorem mem_requestFor_encryptAndSend {dev : Device} :
    dev ∈ requestFor a ((encryptAndSend a send computed s).1.encryptions.drop s.world.encryptions.length) ↔
      a.encrypt = .sealed ∧ a.header = true ∧ s.world.keyRecords s.info.distributionID ≠ none ∧
        dev ∈ s.senderKeyRecipients := by
  rw [mem_requestFor]
  refine and_congr_right fun henc => and_congr_right fun hheader => ?_
  cases hkey : s.world.keyRecords s.info.distributionID with
  | none =>
    have hkept : (encryptAndSend a send computed s).1.encryptions = s.world.encryptions := by
      simp only [encryptAndSend, henc, hkey]
      exact (prepares_afterFailedEncryption _ _).2
    simp [hkept]
  | some key =>
    have hone : (encryptAndSend a send computed s).1.encryptions = s.world.encryptions ++
        [⟨key, s.senderKeyRecipients, computed.deviceIDs, s.world.holders key⟩] := by
      simp only [encryptAndSend, henc, hkey, hheader]
      cases send.distributionMessage with
      | none => rfl
      | some other => cases a.delivered <;> rfl
    simp [hone]

theorem World.Prepares.trans {w' w'' : World} (h : w.Prepares w') (h' : w'.Prepares w'') : w.Prepares w'' :=
  ⟨h'.1.trans h.1, h'.2.trans h.2⟩

theorem not_mem_requestFor {w' : World} (h : w.Prepares w') (dev : Device) :
    dev ∉ requestFor a (w'.encryptions.drop w.encryptions.length) := by
  simp [mem_requestFor, h.2]

theorem keyRecords_newDistributionMessage (d : UUID) : (w.newDistributionMessage d).1.keyRecords d ≠ none := by
  unfold World.newDistributionMessage
  cases hkey : w.keyRecords d <;> simp [hkey]

theorem mem_requestFor_distributeAndSend {info : SenderKeyInfo} {added : List ServiceID} {dev : Device} :
    dev ∈ requestFor a ((distributeAndSend a send computed w info added).1.encryptions.drop w.encryptions.length) ↔
      ((added ≠ [] → a.newDistributionMessage = true ∧ a.serialize = true ∧ a.putInfo = true ∧
          ∀ u ∈ added, (a.distribution u).findsOtherDevices = false) ∧
        (added = [] → w.keyRecords info.distributionID ≠ none) ∧ a.encrypt = .sealed ∧ a.header = true) ∧
        dev ∈ computed.senderKeyRecipients ∧
        (dev.serviceID ∈ added → (a.distribution dev.serviceID).fails = false) := by
  unfold distributeAndSend
  simp only
  generalize hstart : (⟨w, info, computed.deviceIDs, computed.senderKeyRecipients, computed.fallbackRecipients,
    false⟩ : Distributing) = s
  obtain ⟨rfl, rfl, hrecips, hretry⟩ : s.world = w ∧ s.info = info ∧
      s.senderKeyRecipients = computed.senderKeyRecipients ∧ s.needsRetry = false := by
    subst hstart
    exact ⟨rfl, rfl, rfl, rfl⟩
  obtain ⟨hkeeps, hnext⟩ := distributeKey_keeps (a := a) s added
  by_cases hadd : added = []
  · subst hadd
    simp only [distributeKey, if_true, hretry, Bool.false_eq_true, if_false]
    rw [mem_requestFor_encryptAndSend, hrecips]
    simp
    tauto
  by_cases hmade : a.newDistributionMessage = true ∧ a.serialize = true ∧ a.putInfo = true
  · obtain ⟨hnew, hserialize, hput⟩ := hmade
    have hspec := foldl_send_spec (s.world.newDistributionMessage s.info.distributionID).2 a.distribution added
      { s with world := (s.world.newDistributionMessage s.info.distributionID).1 }
    simp only [distributeKey, if_neg hadd, hnew, hserialize, hput, Bool.true_eq_false, if_false, if_true]
      at hkeeps hspec ⊢
    generalize added.foldl (Distributing.send _ a.distribution) _ = s' at hkeeps hspec ⊢
    obtain ⟨hother, hleft, hid, hrecs⟩ := hspec
    have hkey : s'.world.keyRecords s'.info.distributionID ≠ none := by
      rw [hid, hrecs]
      exact keyRecords_newDistributionMessage _
    split
    · rename_i hagain
      obtain ⟨u, hu, hfinds⟩ := (hother.mp hagain).resolve_left (by simp [hretry])
      refine iff_of_false (not_mem_requestFor hkeeps dev) fun h => ?_
      rw [(h.1.1 hadd).2.2.2 u hu] at hfinds
      cases hfinds
    · rename_i hgo
      rw [← hkeeps.2]
      refine (mem_requestFor_encryptAndSend
        (s := { s' with world := { s'.world with info := some s'.info } })).trans ?_
      simp only [hleft, hrecips]
      have hnone : ∀ u ∈ added, (a.distribution u).findsOtherDevices = false := by
        intro u hu
        by_contra hfinds
        exact hgo (hother.mpr (.inr ⟨u, hu, by simpa using hfinds⟩))
      simp only [hkey, ne_eq, not_false_eq_true, true_and, hadd, forall_true_left, IsEmpty.forall_iff]
      tauto
  · refine iff_of_false ?_ fun h => hmade ⟨(h.1.1 hadd).1, (h.1.1 hadd).2.1, (h.1.1 hadd).2.2.1⟩
    have hnone : (distributeKey a s added).2 = none := by
      simp only [distributeKey, if_neg hadd]
      split
      · rfl
      · split
        · rfl
        · rw [if_neg]
          simp_all
    rcases hdistr : distributeKey a s added with ⟨w', _ | s'⟩
    · rw [hdistr] at hkeeps
      exact not_mem_requestFor hkeeps dev
    · rw [hdistr] at hnone
      cases hnone

theorem mem_multiRecipient {dev : Device} : dev ∈ multiRecipient own send w a ↔
    a.Answered w (getDevicesIDs own send.recipients a.lookup).deviceIDs ∧
      dev ∈ (getDevicesIDs own send.recipients a.lookup).senderKeyRecipients ∧
      (dev.serviceID ∈ a.lacking w (getDevicesIDs own send.recipients a.lookup).deviceIDs →
        (a.distribution dev.serviceID).fails = false) := by
  unfold multiRecipient attemptSend
  generalize getDevicesIDs own send.recipients a.lookup = computed
  simp only
  by_cases hnone : computed.senderKeyRecipients = []
  · simp [hnone, requestFor]
  rw [if_neg hnone]
  have hinfo := currentInfo_snd (w := w) (a := a)
  have hpreps := prepares_currentInfo (w := w) (a := a)
  rcases hcurrent : currentInfo w a with ⟨w₁, _ | info⟩ <;> rw [hcurrent] at hinfo hpreps
  · refine iff_of_false (not_mem_requestFor hpreps dev) fun h => ?_
    rw [if_pos ⟨h.1.getInfo, h.1.deleteExpired⟩] at hinfo
    cases hinfo
  obtain ⟨⟨hget, hexpired⟩, heq⟩ := Option.ite_none_right_eq_some.mp hinfo.symm
  obtain rfl := Option.some.inj heq
  have hreset := prepares_resetIfRemoved w₁ a (a.info w) computed.deviceIDs
  rcases hrem : resetIfRemoved w₁ a (a.info w) computed.deviceIDs with ⟨w₂, _ | ⟨info', added⟩⟩ <;>
    rw [hrem] at hreset <;> simp only [hrem]
  · refine iff_of_false (not_mem_requestFor (hpreps.trans hreset) dev) fun h => ?_
    have hdelete := h.1.deleteRemoved
    unfold Attempt.diff at hdelete
    simp only [resetIfRemoved] at hrem
    split at hrem
    · cases hrem
    · rename_i hne
      rw [if_pos (hdelete hne)] at hrem
      cases hrem
  · have hadd : added = a.lacking w computed.deviceIDs ∧ info'.distributionID = (a.info w).distributionID ∧
        ((a.diff w computed.deviceIDs).removedDevices.entries ≠ [] → a.deleteRemoved = true) := by
      simp only [resetIfRemoved] at hrem
      unfold Attempt.lacking Attempt.diff
      split at hrem
      · rename_i hsame
        cases hrem
        exact ⟨(if_pos hsame).symm, rfl, fun hne => absurd hsame hne⟩
      · rename_i hne
        split at hrem
        · rename_i hdelete
          cases hrem
          exact ⟨(if_neg hne).symm, rfl, fun _ => hdelete⟩
        · cases hrem
    obtain ⟨rfl, hid, hdelete⟩ := hadd
    rw [← hpreps.2, ← hreset.2]
    refine mem_requestFor_distributeAndSend.trans (and_congr_left fun _ => ?_)
    constructor
    · rintro ⟨hdistributes, hkey, henc, hheader⟩
      refine ⟨hget, hexpired, hdelete, hdistributes, fun hnil => ?_, henc, hheader⟩
      rw [hcurrent, hrem, ← hid]
      exact hkey hnil
    · rintro ⟨-, -, -, hdistributes, hkey, henc, hheader⟩
      refine ⟨hdistributes, fun hnil => ?_, henc, hheader⟩
      rw [hcurrent, hrem, ← hid] at hkey
      exact hkey hnil

theorem multiRecipient_ne_nil : multiRecipient own send w a ≠ [] ↔ a.Requests own send w := by
  have hreached := (computed_getDevicesIDs own send.recipients a.lookup).reached
  constructor
  · intro h
    obtain ⟨dev, hdev⟩ := List.exists_mem_of_ne_nil _ h
    obtain ⟨hans, hdev, hsent⟩ := mem_multiRecipient.mp hdev
    obtain ⟨r, hr, heq, husable⟩ := (hreached dev.serviceID).mp ⟨dev, hdev, rfl⟩
    exact ⟨hans, r, hr, husable, heq ▸ hsent⟩
  · rintro ⟨hans, r, hr, husable, hsent⟩
    obtain ⟨dev, hdev, heq⟩ := (hreached r.1).mpr ⟨r, hr, rfl, husable⟩
    exact List.ne_nil_of_mem (mem_multiRecipient.mpr ⟨hans, hdev, heq ▸ hsent⟩)

theorem overAttempts_ne_nil {answers : Answers} {devices : World → Attempt → List Device} (left i : ℕ) :
    overAttempts own send answers devices left i ≠ [] ↔
      ∃ k < left, (∀ j < k, answers.next own send (i + j) = .retry) ∧ (answers.attempt (i + k)).ownAddress = true ∧
        devices (answers.world (i + k)) (answers.attempt (i + k)) ≠ [] := by
  induction left generalizing i with
  | zero => simp [overAttempts]
  | succ left ih =>
    have hlater : (∃ k < left, (∀ j < k + 1, answers.next own send (i + j) = .retry) ∧
        (answers.attempt (i + (k + 1))).ownAddress = true ∧
        devices (answers.world (i + (k + 1))) (answers.attempt (i + (k + 1))) ≠ []) ↔
        answers.next own send i = .retry ∧ overAttempts own send answers devices left (i + 1) ≠ [] := by
      simp only [ih, Nat.forall_lt_succ_left, Nat.add_zero, Nat.add_right_comm i 1, Nat.add_assoc]
      grind
    rw [Nat.exists_lt_succ_left, hlater, overAttempts]
    cases hown : (answers.attempt i).ownAddress with
    | false => simp [Answers.next, hown]
    | true => cases answers.next own send i <;> simp [imp_iff_not_or]

theorem requestedDevices_ne_nil {answers : Answers} :
    requestedDevices own send answers ≠ [] ↔ RequestMade own send answers := by
  simp only [requestedDevices, overAttempts_ne_nil, multiRecipient_ne_nil, RequestMade, Nat.zero_add]

end Steps

end MautrixSignal.SenderKey
