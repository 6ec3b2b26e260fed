import MautrixSignal.Lib.Run
import MautrixSignal.SenderKey.Recipients

namespace MautrixSignal.SenderKey

open Lib DistributionResult List

def Shared (info : SenderKeyInfo) (dev : Device) : Prop :=
  dev.deviceID ∈ (info.sharedWith.lookup dev.serviceID).getD []

instance (info : SenderKeyInfo) (dev : Device) : Decidable (Shared info dev) :=
  inferInstanceAs (Decidable (dev.deviceID ∈ (info.sharedWith.lookup dev.serviceID).getD []))

theorem mem_holders {w : World} {key : ℕ} {dev : Device} : dev ∈ w.holders key ↔ (key, dev) ∈ w.sent := by
  simp [World.holders]

-- Everyone addressed has been sent the key, and everyone who was sent it is computed.
def Covered (e : Encryption) : Prop :=
  (∀ dev ∈ e.addressed, dev ∈ e.holders) ∧ ∀ dev ∈ e.holders, InMap e.computed dev

section Distribution

variable {u : ServiceID}

def DistributionResult.isSent : DistributionResult → Bool
  | .sent _ => true
  | _ => false

def DistributionResult.isFailed : DistributionResult → Bool
  | .failed _ => true
  | _ => false

def DistributionResult.isChanged : DistributionResult → Bool
  | .devicesChanged _ => true
  | _ => false

def Reaches (result : DistributionResult) (devices : List ℕ) : Prop :=
  match result with
  | .sent known => ∀ d, d ∈ known ↔ d ∈ devices
  | .devicesChanged reached => reached = []
  | .failed reached => reached = []

def AllReach (distribution : ServiceID → DistributionResult) (deviceIDs : DeviceMap) : Prop :=
  ∀ u info, deviceIDs.lookup u = some info → Reaches (distribution u) info.deviceIDs

structure Distributed (key : ℕ) (distribution : ServiceID → DistributionResult) (start : Distributing)
    (done : List ServiceID) (s : Distributing) : Prop where
  world : ∃ sent, s.world = { start.world with sent := sent }
  sent : ∀ k dev, (k, dev) ∈ s.world.sent ↔ (k, dev) ∈ start.world.sent ∨
    (k = key ∧ dev.serviceID ∈ done ∧ (distribution dev.serviceID).isSent ∧ InMap start.deviceIDs dev)
  info : s.info.distributionID = start.info.distributionID ∧ s.info.createdAt = start.info.createdAt
  shared : ∀ u, s.info.sharedWith.lookup u = if u ∈ done ∧ (distribution u).isSent then
    (start.deviceIDs.lookup u).map SenderKeySendMeta.deviceIDs else start.info.sharedWith.lookup u
  deviceIDs : ∀ u, (distribution u).isFailed = false → s.deviceIDs.lookup u = start.deviceIDs.lookup u
  recipients : ∀ dev ∈ s.senderKeyRecipients, dev ∈ start.senderKeyRecipients ∧
    (dev.serviceID ∈ done → (distribution dev.serviceID).isFailed = false)
  retry : s.needsRetry = false → ∀ u ∈ done, (distribution u).isChanged = false

variable {key : ℕ} {distribution : ServiceID → DistributionResult} {start s : Distributing}
  {done : List ServiceID}

theorem Distributed.refl : Distributed key distribution start [] start := by
  constructor <;> simp
  exact ⟨start.world.sent, rfl⟩

theorem mem_distribute {w : World} {key k : ℕ} {reached : List ℕ} {dev : Device} :
    (k, dev) ∈ (w.distribute key u reached).sent ↔
      (k, dev) ∈ w.sent ∨ (k = key ∧ dev.serviceID = u ∧ dev.deviceID ∈ reached) := by
  obtain ⟨v, d⟩ := dev
  simp only [World.distribute]
  grind

theorem distribute_nil {w : World} {key : ℕ} : w.distribute key u [] = w := by
  simp [World.distribute]

theorem Distributed.send (h : Distributed key distribution start done s) (hmem : u ∈ start.deviceIDs)
    (hreach : AllReach distribution start.deviceIDs) :
    Distributed key distribution start (done ++ [u]) (s.send key distribution u) := by
  obtain ⟨info, hinfo⟩ := Option.isSome_iff_exists.mp (AList.lookup_isSome.mpr hmem)
  have hu := hreach u info hinfo
  obtain ⟨h1, h2, h3, h4, h5, h6, h7⟩ := h
  unfold Distributing.send
  cases hd : distribution u with
  | sent known =>
    have hnotFailed : (distribution u).isFailed = false := by rw [hd]; rfl
    constructor
    · obtain ⟨sent, hw⟩ := h1
      exact ⟨(s.world.distribute key u known).sent, by simp [World.distribute, hw]⟩
    · intro k dev
      simp only [mem_distribute, h2, InMap]
      simp only [Reaches] at hu
      constructor
      · grind [isSent]
      · grind
    · exact h3
    · intro v
      simp only [h5 u hnotFailed]
      by_cases hv : v = u
      · subst hv
        simp [hd, hinfo, isSent]
      · rw [AList.lookup_insert_ne hv, h4]
        simp [hv]
    · exact h5
    · intro dev hdev
      grind
    · intro hr v hv
      grind [isChanged]
  | devicesChanged reached =>
    rw [hd] at hu
    obtain rfl := hu
    simp only [distribute_nil]
    refine ⟨h1, fun k dev => ?_, h3, fun v => ?_, h5, fun dev hdev => ?_, nofun⟩
    all_goals grind [isSent, isFailed]
  | failed reached =>
    rw [hd] at hu
    obtain rfl := hu
    simp only [distribute_nil]
    refine ⟨h1, fun k dev => ?_, h3, fun v => ?_, fun v hv => ?_, fun dev hdev => ?_, fun hr v hv => ?_⟩
    case refine_3 =>
      have hne : v ≠ u := by
        rintro rfl
        simp [hd, isFailed] at hv
      rw [AList.lookup_erase_ne hne]
      exact h5 v hv
    all_goals grind [isSent, isChanged]

theorem Distributed.foldl (hreach : AllReach distribution start.deviceIDs) :
    ∀ added done s, Distributed key distribution start done s →
      (∀ u ∈ added, u ∈ start.deviceIDs) →
      Distributed key distribution start (done ++ added) (added.foldl (Distributing.send key distribution) s) := by
  intro added
  induction added with
  | nil =>
    simp
  | cons u added ih =>
    intro done s h hmem
    rw [append_cons]
    exact ih _ _ (h.send (hmem u (by simp)) hreach) fun v hv => hmem v (by simp [hv])

end Distribution

-- The key of the info exists, and it was sent to the recorded devices and to nobody else.
def InfoShared (w : World) (info : SenderKeyInfo) : Prop :=
  ∃ key, w.keyRecords info.distributionID = some key ∧ ∀ dev, dev ∈ w.holders key ↔ Shared info dev

structure KeysInv (w : World) : Prop where
  sentKeys : ∀ key dev, (key, dev) ∈ w.sent → key < w.nextKey
  recordKeys : ∀ d key, w.keyRecords d = some key → key < w.nextKey
  contentKeys : ∀ id send key, w.sends id = some send → send.distributionMessage = some key →
    key < w.nextKey
  covered : ∀ e ∈ w.encryptions, Covered e

-- What holds between the steps. An expired info is never used again.
structure Inv (w : World) : Prop extends KeysInv w where
  stored : ∀ info, w.info = some info → info.expired w.now = false → InfoShared w info

def Stale (w : World) : Prop := ∀ info, w.info = some info → info.expired w.now = true

theorem stale_of_expired {w : World} {info : SenderKeyInfo} (hinfo : w.info = some info)
    (hexpired : info.expired w.now = true) : Stale w := by
  intro info' hinfo'
  rw [hinfo] at hinfo'
  cases hinfo'
  exact hexpired

theorem KeysInv.inv_of_stale {w : World} (h : KeysInv w) (hstale : Stale w) : Inv w where
  toKeysInv := h
  stored info hinfo hexpired := by
    rw [hstale info hinfo] at hexpired
    cases hexpired

theorem KeysInv.deleteSenderKey {w : World} (h : KeysInv w) (d : UUID) : KeysInv (w.deleteSenderKey d) where
  sentKeys := h.sentKeys
  recordKeys d' key hkey := by
    simp only [World.deleteSenderKey] at hkey
    split at hkey
    · cases hkey
    · exact h.recordKeys d' key hkey
  contentKeys := h.contentKeys
  covered := h.covered

section NewDistributionMessage

variable {w : World} {d : UUID}

theorem newDistributionMessage_of_some {key : ℕ} (h : w.keyRecords d = some key) :
    w.newDistributionMessage d = (w, key) := by
  simp [World.newDistributionMessage, h]

structure Made (w : World) (d : UUID) (w' : World) (key : ℕ) : Prop where
  keys : KeysInv w'
  record : w'.keyRecords d = some key
  info : w'.info = w.info
  now : w'.now = w.now
  sent : w'.sent = w.sent
  nextKey : w.nextKey ≤ w'.nextKey
  unused : w.keyRecords d = none → ∀ dev, (key, dev) ∉ w'.sent

theorem made_newDistributionMessage (h : KeysInv w) :
    Made w d (w.newDistributionMessage d).1 (w.newDistributionMessage d).2 := by
  cases hrec : w.keyRecords d with
  | some key =>
    rw [newDistributionMessage_of_some hrec]
    exact ⟨h, hrec, rfl, rfl, rfl, le_refl _, by simp [hrec]⟩
  | none =>
    simp only [World.newDistributionMessage, hrec]
    refine ⟨⟨?_, ?_, ?_, h.covered⟩, by simp, rfl, rfl, rfl, Nat.le_succ _, ?_⟩
    · intro key dev hsent
      exact Nat.lt_succ_of_lt (h.sentKeys key dev hsent)
    · intro d' key hkey
      simp only at hkey
      split at hkey
      · cases hkey
        exact Nat.lt_succ_self _
      · exact Nat.lt_succ_of_lt (h.recordKeys d' key hkey)
    · intro id send key hsend hkey
      exact Nat.lt_succ_of_lt (h.contentKeys id send key hsend hkey)
    · intro _ dev hsent
      exact absurd (h.sentKeys _ dev hsent) (lt_irrefl _)

end NewDistributionMessage

section Attempt

variable {w : World} {a : Attempt} {info : SenderKeyInfo} {deviceIDs : DeviceMap}
  {added : List ServiceID} {send : Send} {senderKeyRecipients : List Device}

-- The key of the distribution message in a content was made before.
def KeyMade (w : World) (send : Send) : Prop := ∀ key, send.distributionMessage = some key → key < w.nextKey

-- The info an attempt goes on with before anything is distributed. Either its key is shared with
-- the recorded devices, or a new key will be made and nobody is recorded.
structure Prepared (w : World) (a : Attempt) (send : Send) (info : SenderKeyInfo) (deviceIDs : DeviceMap)
    (added : List ServiceID) : Prop where
  keys : KeysInv w
  content : KeyMade w send
  start : (InfoShared w info ∧ w.info = some info ∧ (added ≠ [] → a.putInfo = true)) ∨
    (w.keyRecords info.distributionID = none ∧ info.sharedWith = ∅ ∧ added ≠ [] ∧
      (Stale w ∨ (a.newDistributionMessage = true ∧ a.serialize = true ∧ a.putInfo = true)))
  kept : ∀ dev, Shared info dev → InMap deviceIDs dev
  recorded : ∀ dev, InMap deviceIDs dev → dev.serviceID ∉ added → Shared info dev
  added : ∀ u ∈ added, u ∈ deviceIDs

structure Ready (w : World) (send : Send) (info : SenderKeyInfo) (deviceIDs : DeviceMap)
    (senderKeyRecipients : List Device) : Prop where
  keys : KeysInv w
  content : KeyMade w send
  stored : w.info = some info
  shared : InfoShared w info
  kept : ∀ dev, Shared info dev → InMap deviceIDs dev
  addressed : ∀ dev ∈ senderKeyRecipients, Shared info dev

theorem Ready.inv (h : Ready w send info deviceIDs senderKeyRecipients) : Inv w where
  toKeysInv := h.keys
  stored info' hinfo' _ := by
    rw [h.stored] at hinfo'
    cases hinfo'
    exact h.shared

theorem Inv.deliver (h : Inv w) {key : ℕ} {devices : List Device} (hkey : key < w.nextKey)
    (hrecd : ∀ info, w.info = some info → info.expired w.now = false →
      w.keyRecords info.distributionID = some key → ∀ dev ∈ devices, Shared info dev) :
    Inv { w with sent := w.sent ++ devices.map (key, ·) } where
  sentKeys k dev hsent := by
    rcases mem_append.mp hsent with hold | hnew
    · exact h.sentKeys k dev hold
    · obtain ⟨_, -, heq⟩ := mem_map.mp hnew
      cases heq
      exact hkey
  recordKeys := h.recordKeys
  contentKeys := h.contentKeys
  covered := h.covered
  stored info hinfo hexpired := by
    obtain ⟨current, hrec, hholders⟩ := h.stored info hinfo hexpired
    refine ⟨current, hrec, fun dev => ?_⟩
    rw [← hholders dev]
    simp only [mem_holders, mem_append, mem_map, Prod.mk.injEq]
    constructor
    · rintro (hold | ⟨dev', hdev', rfl, rfl⟩)
      · exact hold
      · exact mem_holders.mp ((hholders dev').2 (hrecd info hinfo hexpired hrec dev' hdev'))
    · exact .inl

theorem inv_afterFailedEncryption (h : Inv w) (sessionNotFound : Bool) :
    Inv (afterFailedEncryption w a sessionNotFound).1 := by
  unfold afterFailedEncryption
  split
  · exact { h with stored := by simp }
  · exact h

theorem Ready.encrypt (h : Ready w send info deviceIDs senderKeyRecipients) {key : ℕ}
    (hrec : w.keyRecords info.distributionID = some key) :
    Ready { w with encryptions := w.encryptions ++
      [⟨key, senderKeyRecipients, deviceIDs, w.holders key⟩] } send info deviceIDs senderKeyRecipients := by
  have hholders : ∀ dev, dev ∈ w.holders key ↔ Shared info dev := by
    obtain ⟨current, hcurrent, hholders⟩ := h.shared
    rw [hrec] at hcurrent
    cases hcurrent
    exact hholders
  refine { h with keys := { h.keys with covered := ?_ } }
  intro e he
  rcases mem_append.mp he with hold | hnew
  · exact h.keys.covered e hold
  · obtain rfl := mem_singleton.mp hnew
    exact ⟨fun dev hdev => (hholders dev).2 (h.addressed dev hdev),
      fun dev hdev => h.kept dev ((hholders dev).1 hdev)⟩

theorem inv_encryptAndSend {computed : Devices} {s : Distributing}
    (h : Ready s.world send s.info computed.deviceIDs s.senderKeyRecipients) :
    Inv (encryptAndSend a send computed s).1 := by
  unfold encryptAndSend
  split
  · exact inv_afterFailedEncryption h.inv _
  · exact inv_afterFailedEncryption h.inv _
  next key hrec _ =>
    have hready := h.encrypt hrec
    split
    · exact inv_afterFailedEncryption hready.inv _
    split
    · exact hready.inv
    cases hcont : send.distributionMessage with
    | none => exact hready.inv
    | some key' =>
      cases a.delivered with
      | false => exact hready.inv
      | true =>
        refine hready.inv.deliver (h.content key' hcont) fun info' hinfo' _ _ => ?_
        obtain rfl := Option.some.inj (hready.stored.symm.trans hinfo')
        exact hready.addressed

theorem shared_iff {dev : Device} :
    Shared info dev ↔ ∃ devices, info.sharedWith.lookup dev.serviceID = some devices ∧
      dev.deviceID ∈ devices := by
  unfold Shared
  cases info.sharedWith.lookup dev.serviceID <;> simp

section

variable {start s : Distributing} {key : ℕ} {done : List ServiceID}
   {distribution : ServiceID → DistributionResult}

theorem Distributed.shared_iff (h : Distributed key distribution start done s) (dev : Device) : Shared s.info dev ↔
      if dev.serviceID ∈ done ∧ (distribution dev.serviceID).isSent then InMap start.deviceIDs dev
      else Shared start.info dev := by
  rw [SenderKey.shared_iff, SenderKey.shared_iff, h.shared]
  split
  · simp [InMap]
  · rfl

theorem Distributed.addressed (h : Distributed key distribution start done s)
    (hrecd : ∀ dev, InMap start.deviceIDs dev → dev.serviceID ∉ done → Shared start.info dev)
    (hinMap : ∀ dev ∈ start.senderKeyRecipients, InMap start.deviceIDs dev)
    (hretry : s.needsRetry = false) : ∀ dev ∈ s.senderKeyRecipients, Shared s.info dev := by
  intro dev hdev
  obtain ⟨hstart, hnotFailed⟩ := h.recipients dev hdev
  have hmap := hinMap dev hstart
  rw [h.shared_iff]
  by_cases hdone : dev.serviceID ∈ done
  · have hfail := hnotFailed hdone
    have hchg := h.retry hretry _ hdone
    have hsent : (distribution dev.serviceID).isSent := by
      cases hd : distribution dev.serviceID <;>
        simp_all [isSent, isFailed, isChanged]
    simp [hdone, hsent, hmap]
  · simp [hdone, hrecd dev hmap hdone]

theorem KeysInv.distributed (hkeys : KeysInv start.world)
    (hkey : key < start.world.nextKey) (h : Distributed key distribution start done s) : KeysInv s.world := by
  obtain ⟨sent, hworld⟩ := h.world
  have hnext : s.world.nextKey = start.world.nextKey := by rw [hworld]
  refine ⟨?_, ?_, ?_, ?_⟩
  · intro k dev hsent
    rw [hnext]
    rcases (h.sent k dev).mp hsent with hold | ⟨rfl, -⟩
    · exact hkeys.sentKeys k dev hold
    · exact hkey
  · rw [hworld]
    exact hkeys.recordKeys
  · rw [hworld]
    exact hkeys.contentKeys
  · rw [hworld]
    exact hkeys.covered

end

theorem Stale.of_eq {w' : World} (h : Stale w) (hinfo : w'.info = w.info) (hnow : w'.now = w.now) : Stale w' := by
  intro info hi
  rw [hnow]
  exact h info (hinfo ▸ hi)

theorem Prepared.holders (hp : Prepared w a send info deviceIDs added) (dev : Device) :
    dev ∈ (w.newDistributionMessage info.distributionID).1.holders (w.newDistributionMessage info.distributionID).2 ↔
      Shared info dev := by
  obtain ⟨⟨k, hrec, hholders⟩, -⟩ | ⟨hrec, hemp, -⟩ := hp.start
  · rw [newDistributionMessage_of_some hrec]
    exact hholders dev
  · rw [mem_holders]
    refine iff_of_false ((made_newDistributionMessage hp.keys).unused hrec dev) ?_
    simp [Shared, hemp]

theorem Prepared.inv_of_error (hp : Prepared w a send info deviceIDs added) (hadd : added ≠ [])
    (herr : a.newDistributionMessage = false ∨ a.serialize = false ∨ a.putInfo = false) {w' : World}
    (hkeys : KeysInv w') (hinfo : w'.info = w.info) (hnow : w'.now = w.now)
    (hsame : a.putInfo = true → ∀ k, w.keyRecords info.distributionID = some k → w' = w) : Inv w' := by
  obtain ⟨hshared, hstored, hput⟩ | ⟨-, -, -, hstale | hok⟩ := hp.start
  · have heq : w' = w := by
      obtain ⟨k, hrec, -⟩ := hshared
      exact hsame (hput hadd) k hrec
    rw [heq]
    refine ⟨hp.keys, fun info' hinfo' _ => ?_⟩
    rw [hstored] at hinfo'
    cases hinfo'
    exact hshared
  · exact hkeys.inv_of_stale (hstale.of_eq hinfo hnow)
  · simp [hok] at herr

theorem Distributed.ready {start s : Distributing} {key : ℕ} {recipients : List Device}
    (hdist : Distributed key a.distribution start added s) (hp : Prepared w a send start.info start.deviceIDs added)
    (hmade : Made w start.info.distributionID start.world key)
    (hholders : ∀ dev, dev ∈ start.world.holders key ↔ Shared start.info dev)
    (haddr : ∀ dev ∈ recipients, Shared s.info dev) :
    Ready { s.world with info := some s.info } send s.info start.deviceIDs recipients := by
  have hkeys := hmade.keys.distributed (hmade.keys.recordKeys _ _ hmade.record) hdist
  obtain ⟨sent, hworld⟩ := hdist.world
  refine ⟨{ hkeys with }, ?_, rfl,
    ⟨key, by rw [hdist.info.1, hworld]; exact hmade.record, fun dev => ?_⟩, ?_, haddr⟩
  · intro k hk
    have hnext : s.world.nextKey = start.world.nextKey := by rw [hworld]
    exact lt_of_lt_of_le (hp.content k hk) (hnext ▸ hmade.nextKey)
  · have hkept := hp.kept dev
    rw [mem_holders, hdist.sent, ← mem_holders, hholders, hdist.shared_iff]
    grind
  · intro dev hdev
    rw [hdist.shared_iff] at hdev
    split at hdev
    · exact hdev
    · exact hp.kept dev hdev

theorem distributeKey_spec {s : Distributing} (hp : Prepared s.world a send s.info s.deviceIDs added)
    (hreach : AllReach a.distribution s.deviceIDs)
    (hinMap : ∀ dev ∈ s.senderKeyRecipients, InMap s.deviceIDs dev) :
    Inv (distributeKey a s added).1 ∧ ∀ s', (distributeKey a s added).2 = some s' →
      (distributeKey a s added).1 = s'.world ∧ (s'.needsRetry = false →
        Ready s'.world send s'.info s.deviceIDs s'.senderKeyRecipients) := by
  unfold distributeKey
  by_cases hadd : added = []
  · obtain ⟨hshared, hstored, -⟩ | ⟨-, -, hne, -⟩ := hp.start
    · have hready : Ready s.world send s.info s.deviceIDs s.senderKeyRecipients :=
        ⟨hp.keys, hp.content, hstored, hshared, hp.kept,
          fun dev hdev => hp.recorded dev (hinMap dev hdev) (by simp [hadd])⟩
      simp only [hadd]
      refine ⟨hready.inv, ?_⟩
      rintro s' ⟨⟩
      exact ⟨rfl, fun _ => hready⟩
    · exact absurd hadd hne
  · simp only [hadd, if_false]
    have hmade := made_newDistributionMessage (d := s.info.distributionID) hp.keys
    have hholders := hp.holders
    have hsame : ∀ k, s.world.keyRecords s.info.distributionID = some k →
        (s.world.newDistributionMessage s.info.distributionID).1 = s.world :=
      fun k hk => by rw [newDistributionMessage_of_some hk]
    generalize s.world.newDistributionMessage s.info.distributionID = made at hmade hholders hsame
    obtain ⟨w', key⟩ := made
    split
    · next hfail =>
        exact ⟨hp.inv_of_error hadd (.inl hfail) hp.keys rfl rfl fun _ _ _ => rfl, by simp⟩
    simp only
    split
    · next hfail =>
        exact ⟨hp.inv_of_error hadd (.inr (.inl hfail)) hmade.keys hmade.info hmade.now
          fun _ => hsame, by simp⟩
    · have hreach' : AllReach a.distribution ({ s with world := w' } : Distributing).deviceIDs := hreach
      have hdist : Distributed key a.distribution { s with world := w' } added
          (added.foldl (Distributing.send key a.distribution) { s with world := w' }) :=
        Distributed.foldl hreach' added [] _ .refl hp.added
      generalize added.foldl (Distributing.send key a.distribution) { s with world := w' } = s₁ at hdist
      have hready : ∀ recipients, (∀ dev ∈ recipients, Shared s₁.info dev) →
          Ready { s₁.world with info := some s₁.info } send s₁.info s.deviceIDs recipients :=
        fun recipients haddr => hdist.ready hp hmade hholders haddr
      split
      · refine ⟨(hready [] (by simp)).inv, ?_⟩
        rintro s' ⟨⟩
        exact ⟨rfl, fun hretry => hready _ (hdist.addressed hp.recorded hinMap hretry)⟩
      · next hput =>
          have hkeys := hmade.keys.distributed (hmade.keys.recordKeys _ _ hmade.record) hdist
          obtain ⟨sent, hworld⟩ := hdist.world
          have hinfo : s₁.world.info = s.world.info := by rw [hworld]; exact hmade.info
          have hnow : s₁.world.now = s.world.now := by rw [hworld]; exact hmade.now
          exact ⟨hp.inv_of_error hadd (.inr (.inr (by simpa using hput))) hkeys hinfo hnow
            fun h => absurd h hput, by simp⟩

theorem currentInfo_cases (h : Inv w) (hnew : w.keyRecords a.newDistributionID = none) :
    currentInfo w a = (w, none) ∨
    (∃ info, currentInfo w a = (w, some info) ∧ w.info = some info ∧ info.expired w.now = false) ∨
    ∃ w' info, currentInfo w a = (w', some info) ∧ KeysInv w' ∧ w'.nextKey = w.nextKey ∧ Stale w' ∧
      info.sharedWith = ∅ ∧ w'.keyRecords info.distributionID = none := by
  unfold currentInfo
  cases a.getInfo with
  | false => simp
  | true =>
    cases hinfo : w.info with
    | none => exact .inr (.inr ⟨w, _, rfl, h.toKeysInv, rfl, by simp [Stale, hinfo], rfl, hnew⟩)
    | some stored =>
      cases hexpired : stored.expired w.now with
      | false => exact .inr (.inl ⟨stored, by simp [hexpired], rfl, hexpired⟩)
      | true =>
        cases hdelete : a.deleteExpired with
        | false => simp [hexpired]
        | true =>
          have hstale := stale_of_expired hinfo hexpired
          exact .inr (.inr ⟨w.deleteSenderKey stored.distributionID, _, by simp [hexpired]; rfl,
            h.toKeysInv.deleteSenderKey _, rfl, hstale.of_eq rfl rfl, rfl, by simp [World.deleteSenderKey, hnew]⟩)

-- A failure between the change of a reused key or its distribution and PutSenderKeyInfo.
def StoresReused (w : World) (a : Attempt) (deviceIDs : DeviceMap) : Prop :=
  ∀ info, w.info = some info → info.expired w.now = false →
    let diff := diffRecipients a.slices info.sharedWith deviceIDs a.order
    (diff.removedDevices.entries = [] → diff.devicesAddedTo ≠ [] → a.putInfo = true) ∧
    (diff.removedDevices.entries ≠ [] →
      a.newDistributionMessage = true ∧ a.serialize = true ∧ a.putInfo = true)

theorem prepared_reset {w' : World} (hkeys : KeysInv w')
    (hcont : KeyMade w' send)
    (hrec : w'.keyRecords info.distributionID = none) (hemp : info.sharedWith = ∅) (hdevs : deviceIDs.keys ≠ [])
    (hexit : Stale w' ∨ (a.newDistributionMessage = true ∧ a.serialize = true ∧ a.putInfo = true))
    (hadd : ∀ u, u ∈ added ↔ u ∈ deviceIDs) : Prepared w' a send info deviceIDs added where
  keys := hkeys
  content := hcont
  start := by
    refine .inr ⟨hrec, hemp, ?_, hexit⟩
    rintro rfl
    apply hdevs
    rw [eq_nil_iff_forall_not_mem]
    intro u hu
    simpa using (hadd u).2 (AList.mem_keys.mp hu)
  kept dev hdev := by simp [Shared, hemp] at hdev
  recorded dev hdev hnot := by
    obtain ⟨meta', hlookup, -⟩ := hdev
    exact absurd ((hadd _).2 (AList.lookup_isSome.mp (by rw [hlookup]; rfl))) hnot
  added u hu := (hadd u).1 hu

theorem resetIfRemoved_reused (h : Inv w) (hinfo : w.info = some info) (hexpired : info.expired w.now = false)
    (hcont : KeyMade w send)
    (hord : IsOrder info.sharedWith deviceIDs a.order) (hdevs : deviceIDs.keys ≠ [])
    (hsafe : StoresReused w a deviceIDs) :
    resetIfRemoved w a info deviceIDs = (w, none) ∨
      ∃ w' info' added, resetIfRemoved w a info deviceIDs = (w', some (info', added)) ∧
        Prepared w' a send info' deviceIDs added := by
  obtain ⟨hput, hreset⟩ := hsafe info hinfo hexpired
  unfold resetIfRemoved
  by_cases hrem : (diffRecipients a.slices info.sharedWith deviceIDs a.order).removedDevices.entries = []
  · refine .inr ⟨w, info, _, by simp only [hrem]; rfl, ?_⟩
    refine ⟨h.toKeysInv, hcont, .inl ⟨h.stored info hinfo hexpired, hinfo, hput hrem⟩, ?_, ?_,
      fun u hu => mem_of_added hu⟩
    · intro dev hdev
      obtain ⟨prev, hprev, hmem⟩ := shared_iff.mp hdev
      obtain ⟨new, hnew, hkept⟩ := diffRecipients_kept hord hrem hprev
      exact ⟨new, hnew, hkept _ hmem⟩
    · rintro dev ⟨new, hnew, hmem⟩ hnot
      obtain ⟨prev, hprev, hrecd⟩ := diffRecipients_recorded hord hrem hnew hnot
      exact shared_iff.mpr ⟨prev, hprev, hrecd _ hmem⟩
  · cases hdelete : a.deleteRemoved with
    | false => exact .inl (by simp [hrem])
    | true =>
      refine .inr ⟨w.deleteSenderKey info.distributionID, { info with sharedWith := ∅ }, deviceIDs.keys,
        by simp [hrem], ?_⟩
      exact prepared_reset (h.toKeysInv.deleteSenderKey _) hcont (by simp [World.deleteSenderKey]) rfl
        hdevs (.inr (hreset hrem)) fun u => AList.mem_keys.symm

theorem resetIfRemoved_new (hkeys : KeysInv w) (hstale : Stale w) (hemp : info.sharedWith = ∅)
    (hrec : w.keyRecords info.distributionID = none)
    (hcont : KeyMade w send)
    (hord : IsOrder info.sharedWith deviceIDs a.order) (hdevs : deviceIDs.keys ≠ []) :
    ∃ added, resetIfRemoved w a info deviceIDs = (w, some (info, added)) ∧
      Prepared w a send info deviceIDs added := by
  have hrem : (diffRecipients a.slices info.sharedWith deviceIDs a.order).removedDevices.entries = [] := by
    refine (foldl_visit a.order {}).1.mpr ⟨rfl, ?_⟩
    rintro u - ⟨prev, hprev, -⟩
    simp [hemp] at hprev
  refine ⟨_, by simp only [resetIfRemoved, hrem]; rfl, ?_⟩
  refine prepared_reset hkeys hcont hrec hemp hdevs (.inl hstale) fun u => ⟨mem_of_added, ?_⟩
  intro hu
  obtain ⟨new, hnew⟩ := Option.isSome_iff_exists.mp (AList.lookup_isSome.mpr hu)
  refine mem_devicesAddedTo.mpr ⟨(hord.2 u).2 (.inr hu), new, hnew, ?_⟩
  simp [hemp]

-- The condition under which an attempt keeps the record of who has the key right.
structure SafeAttempt (own : ServiceID) (w : World) (send : Send) (a : Attempt) : Prop where
  recipients : send.recipients.Nodup
  newID : w.keyRecords a.newDistributionID = none
  reach : AllReach a.distribution (getDevicesIDs own send.recipients a.lookup).deviceIDs
  stores : StoresReused w a (getDevicesIDs own send.recipients a.lookup).deviceIDs

theorem inv_distributeAndSend {computed : Devices} (hp : Prepared w a send info computed.deviceIDs added)
    (hreach : AllReach a.distribution computed.deviceIDs)
    (hinMap : ∀ dev ∈ computed.senderKeyRecipients, InMap computed.deviceIDs dev) :
    Inv (distributeAndSend a send computed w info added).1 := by
  have hspec := distributeKey_spec (s := ⟨w, info, computed.deviceIDs, computed.senderKeyRecipients,
    computed.fallbackRecipients, false⟩) hp hreach hinMap
  unfold distributeAndSend
  simp only
  generalize distributeKey a _ added = result at hspec
  obtain ⟨w', s'⟩ := result
  obtain ⟨hinv, hready⟩ := hspec
  cases s' with
  | none => exact hinv
  | some s' =>
    obtain ⟨-, hready⟩ := hready s' rfl
    cases hretry : s'.needsRetry with
    | true => simpa [hretry] using hinv
    | false => simpa [hretry] using inv_encryptAndSend (hready hretry)

theorem inv_attemptSend {own : ServiceID} (h : Inv w)
    (hcont : KeyMade w send)
    (hord : ∀ info, (currentInfo w a).2 = some info →
      IsOrder info.sharedWith (getDevicesIDs own send.recipients a.lookup).deviceIDs a.order)
    (hsafe : SafeAttempt own w send a) : Inv (attemptSend own w send a).1 := by
  have hinMap : ∀ dev ∈ (getDevicesIDs own send.recipients a.lookup).senderKeyRecipients,
      InMap (getDevicesIDs own send.recipients a.lookup).deviceIDs dev :=
    (computed_getDevicesIDs own send.recipients a.lookup).inMap (by rw [zipIdx_map_fst]; exact hsafe.recipients)
  have hreach := hsafe.reach
  have hstores := hsafe.stores
  unfold attemptSend
  generalize getDevicesIDs own send.recipients a.lookup = computed at *
  simp only
  split
  · exact h
  next hsome =>
    have hdevs : computed.deviceIDs.keys ≠ [] := by
      obtain ⟨dev, hdev⟩ := exists_mem_of_ne_nil _ hsome
      obtain ⟨info, hinfo, -⟩ := hinMap dev hdev
      exact ne_nil_of_mem (AList.mem_keys.mp (AList.lookup_isSome.mp (by rw [hinfo]; rfl)))
    rcases currentInfo_cases h hsafe.newID with herr | ⟨info, hcur, hinfo, hexpired⟩ |
      ⟨w', info, hcur, hkeys, hnext, hstale, hemp, hrec⟩
    · rw [herr]
      exact h
    · rw [hcur]
      have ho := hord info (by rw [hcur])
      rcases resetIfRemoved_reused h hinfo hexpired hcont ho hdevs hstores with
        herr | ⟨w', info', added, hreset, hp⟩
      · simp only [herr]
        exact h
      · simp only [hreset]
        exact inv_distributeAndSend hp hreach hinMap
    · rw [hcur]
      have ho := hord info (by rw [hcur])
      obtain ⟨added, hreset, hp⟩ := resetIfRemoved_new hkeys hstale hemp hrec
        (fun key hk => by rw [hnext]; exact hcont key hk) ho hdevs
      simp only [hreset]
      exact inv_distributeAndSend hp hreach hinMap

end Attempt

section Steps

variable {own : ServiceID} {w w' : World} {id : ℕ}

theorem Inv.setSend (h : Inv w) {send : Send} (hcont : KeyMade w send) :
    Inv (w.setSend id send) where
  sentKeys := h.sentKeys
  recordKeys := h.recordKeys
  contentKeys i send' key hsend hkey := by
    simp only [World.setSend] at hsend
    split at hsend
    · cases hsend
      exact hcont key hkey
    · exact h.contentKeys i send' key hsend hkey
  covered := h.covered
  stored := h.stored

theorem Inv.addSendCache (h : Inv w) (id : ℕ) (send : Send) : Inv (addSendCache w id send) :=
  { h with }

def Safe (own : ServiceID) (w : World) : Action → Prop
  | .attempt id a => ∀ send, w.sends id = some send → SafeAttempt own w send a
  -- What goes to single recipients carries no distribution message.
  | .sendToGroup id _ _ => ∀ send, w.sends id = some send → send.distributionMessage = none
  -- The answer to a retry receipt reaches only recorded devices.
  | .retryRequest r => ∀ info, w.info = some info → Shared info r.sender →
      ∀ d ∈ r.reached, Shared info ⟨r.sender.serviceID, d⟩
  | .resetSenderKey _ _ deleteKey deleteInfo => deleteKey = true → deleteInfo = true
  | _ => True

theorem inv_sendToGroupWithSenderKey {a : Attempt} (h : Inv w) (hpossible : Possible own w (.attempt id a))
    (hsafe : Safe own w (.attempt id a)) (hact : sendToGroupWithSenderKey own w id a = some w') : Inv w' := by
  simp only [sendToGroupWithSenderKey, Option.bind_eq_bind, Option.bind_eq_some_iff] at hact
  obtain ⟨send, hsend, hact⟩ := hact
  have hcont : KeyMade w send :=
    fun key hkey => h.contentKeys id send key hsend hkey
  split at hact
  case h_2 => cases hact
  case h_1 retries _ =>
    split at hact
    · cases hact
      exact h.setSend hcont
    split at hact
    · cases hact
      exact h.setSend hcont
    -- The send cache is filled before the first attempt.
    have hfilled : ∀ w₁, (w₁ = w ∨ w₁ = addSendCache w id send) →
        Inv ((attemptSend own w₁ send a).1.setSend id
          { send with phase := (attemptSend own w₁ send a).2.phase retries }) := by
      intro w₁ hw₁
      have hinv : Inv (attemptSend own w₁ send a).1 := by
        rcases hw₁ with rfl | rfl
        · exact inv_attemptSend h hcont (hpossible send · hsend) (hsafe send hsend)
        · obtain ⟨hnodup, hnew, hreach, hstores⟩ := hsafe send hsend
          refine inv_attemptSend (h.addSendCache id send) hcont ?_ ⟨hnodup, hnew, hreach, hstores⟩
          intro info hinfo
          refine hpossible send info hsend ?_
          rw [← hinfo]
          unfold currentInfo addSendCache
          grind
      have hsends : (attemptSend own w₁ send a).1.sends id = some send := by
        rw [attempts_attemptSend.1]
        rcases hw₁ with rfl | rfl <;> exact hsend
      exact hinv.setSend fun key hkey => hinv.contentKeys id send key hsends hkey
    cases hact
    split
    · exact hfilled _ (.inr rfl)
    · exact hfilled _ (.inl rfl)

theorem inv_sendToGroup {successful : Bool} {reached : List ℕ} (h : Inv w)
    (hsafe : Safe own w (.sendToGroup id successful reached))
    (hact : sendToGroup w own id successful reached = some w') : Inv w' := by
  simp only [sendToGroup, Option.bind_eq_bind, Option.bind_eq_some_iff] at hact
  obtain ⟨send, hsend, hact⟩ := hact
  have hnone := hsafe send hsend
  have hcont : ∀ phase, Inv (w.setSend id { send with phase := phase }) :=
    fun phase => h.setSend (by simp [KeyMade, hnone])
  split at hact
  · cases hact
    exact hcont _
  · split at hact
    · cases hact
      exact hcont _
    · simp only [hnone] at hact
      cases hact
      exact h.setSend (by simp [KeyMade])
  · cases hact

theorem Inv.reply (h : Inv w) {r : RetryRequest} {skdm : Option ℕ} (hskdm : ∀ key, skdm = some key → key < w.nextKey)
    (hrecd : skdm ≠ none → ∀ info, w.info = some info → ∀ d ∈ r.reached, Shared info ⟨r.sender.serviceID, d⟩) :
    Inv (w.reply r skdm) := by
  have hreplies : ∀ replies, Inv { w with replies := replies } :=
    fun _ => { h with }
  cases skdm with
  | none => exact hreplies _
  | some key =>
    have hshared : ∀ info, w.info = some info → info.expired w.now = false →
        w.keyRecords info.distributionID = some key → ∀ dev ∈ r.reached.map (⟨r.sender.serviceID, ·⟩),
          Shared info dev :=
      fun info hinfo _ _ => forall_mem_map.mpr (hrecd (by simp) info hinfo)
    have hdeliv := fun replies => (hreplies replies).deliver (hskdm key rfl) hshared
    simp only [map_map] at hdeliv
    exact hdeliv _

theorem Inv.newDistributionMessage (h : Inv w) {info : SenderKeyInfo} (hinfo : w.info = some info) :
    Inv (w.newDistributionMessage info.distributionID).1 := by
  cases hexpired : info.expired w.now with
  | false =>
    obtain ⟨key, hrec, -⟩ := h.stored info hinfo hexpired
    rw [newDistributionMessage_of_some hrec]
    exact h
  | true =>
    have hmade := made_newDistributionMessage (d := info.distributionID) h.toKeysInv
    have hstale := stale_of_expired hinfo hexpired
    exact hmade.keys.inv_of_stale (hstale.of_eq hmade.info hmade.now)

theorem retryDistribution_spec (h : Inv w) (r : RetryRequest) :
    Inv (retryDistribution w r).1 ∧ (retryDistribution w r).1.info = w.info ∧
      ∀ key, (retryDistribution w r).2 = some (some key) →
        key < (retryDistribution w r).1.nextKey ∧ ∀ info, w.info = some info → Shared info r.sender := by
  unfold retryDistribution
  cases hinfo : w.info with
  | none => exact ⟨h, hinfo, by simp⟩
  | some info =>
    simp only
    split
    · next hshared =>
        split
        · exact ⟨h, hinfo, by simp⟩
        have hinv := h.newDistributionMessage hinfo
        have hmade := made_newDistributionMessage (d := info.distributionID) h.toKeysInv
        split
        · exact ⟨hinv, hmade.info.trans hinfo, by simp⟩
        · refine ⟨hinv, hmade.info.trans hinfo, ?_⟩
          rintro key' ⟨⟩
          refine ⟨hmade.keys.recordKeys _ _ hmade.record, ?_⟩
          rintro info' ⟨⟩
          exact hshared
    · exact ⟨h, hinfo, by simp⟩

theorem inv_handleRetryRequest {r : RetryRequest} (h : Inv w) (hsafe : Safe own w (.retryRequest r))
    (hact : handleRetryRequest w r = some w') : Inv w' := by
  unfold handleRetryRequest at hact
  have hspec := retryDistribution_spec h r
  generalize retryDistribution w r = result at hact hspec
  obtain ⟨w₁, skdm⟩ := result
  obtain ⟨hinv, hinfo, hkey⟩ := hspec
  split at hact
  · cases hact
    exact h
  split at hact
  · cases hact
    exact h
  split at hact
  · next heq =>
      cases heq
      cases hact
      exact hinv
  · next skdm heq =>
      cases heq
      have hless : ∀ key, skdm = some key → key < w₁.nextKey :=
        fun key hk => (hkey key (by rw [hk])).1
      have hcached : Inv (setCachedDistribution w₁ r.cached skdm) := by
        unfold setCachedDistribution
        split
        · exact hinv
        refine { hinv with contentKeys := fun i send key hsend hkey => ?_ }
        simp only at hsend
        split at hsend
        · obtain ⟨old, -, rfl⟩ := Option.map_eq_some_iff.mp hsend
          exact hless key hkey
        · exact hinv.contentKeys i send key hsend hkey
      have hsame : (setCachedDistribution w₁ r.cached skdm).nextKey = w₁.nextKey ∧
          (setCachedDistribution w₁ r.cached skdm).info = w.info := by
        rw [← hinfo]
        cases r.cached <;> exact ⟨rfl, rfl⟩
      split at hact
      · cases hact
        exact hcached
      cases hact
      refine hcached.reply (fun key hk => hsame.1 ▸ hless key hk) ?_
      intro hsome info hi
      obtain ⟨key, hk⟩ := Option.ne_none_iff_exists'.mp hsome
      rw [hsame.2] at hi
      exact hsafe info hi ((hkey key (by rw [hk])).2 info hi)

theorem inv_step {action : Action} (h : Inv w) (hstep : Guarded (Safe own) (Step own) w action w') : Inv w' := by
  obtain ⟨hsafe, hpossible, hact⟩ := hstep
  cases action with
  | tick nanoseconds =>
    cases hact
    refine { h with stored := fun info hinfo hexpired => h.stored info hinfo ?_ }
    simp only [SenderKeyInfo.expired, decide_eq_false_iff_not] at hexpired ⊢
    omega
  | sendGroupMessage id recipients timestamp =>
    simp only [act, sendGroupMessage, Option.ite_none_right_eq_some, Option.some.injEq] at hact
    obtain ⟨-, rfl⟩ := hact
    exact h.setSend (by simp [KeyMade])
  | sendGroupUpdate id recipients timestamp =>
    simp only [act, sendGroupUpdate, Option.ite_none_right_eq_some, Option.some.injEq] at hact
    obtain ⟨-, rfl⟩ := hact
    exact (h.addSendCache _ _).setSend (by simp [KeyMade])
  | attempt id a => exact inv_sendToGroupWithSenderKey h hpossible hsafe hact
  | sendToGroup id successful reached => exact inv_sendToGroup h hsafe hact
  | retryRequest r => exact inv_handleRetryRequest h hsafe hact
  | resetSenderKey getInfo ownAddress deleteKey deleteInfo =>
    simp only [act, resetSenderKey] at hact
    split at hact
    · cases hact
      exact h
    rename_i info hinfo
    split at hact
    · cases hact
      exact h
    have hdelete := hsafe (by grind)
    simp only [hdelete] at hact
    cases hact
    have hkeys := h.toKeysInv.deleteSenderKey info.distributionID
    exact { hkeys with stored := by simp }

theorem inv_initial : Inv {} := by
  refine ⟨⟨?_, ?_, ?_, ?_⟩, ?_⟩ <;> simp

-- Whenever a group message is encrypted, the addressed devices have the key, and whoever has the
-- key is among the devices computed for the send.
theorem encryptions_covered {actions : List Action}
    (hrun : Run (Guarded (Safe own) (Step own)) {} actions w) : ∀ e ∈ w.encryptions, Covered e :=
  (hrun.invariant (fun _ _ _ h hstep => inv_step h hstep) inv_initial).covered

end Steps

def sampleMember : ServiceID := newACIServiceID (.ofByte 1)

def sampleOwn : ServiceID := newACIServiceID (.ofByte 9)

def sampleAttempt : Attempt where
  lookup := fun _ => { hasEndorsement := true, profileKey := .found 5, sessions := some [1] }
  newDistributionID := .ofByte 7
  order := [sampleMember]
  distribution := fun _ => .sent [1]
  response := .ok []

theorem sample_isOrder {prevDevices : SharedWith} {deviceIDs : DeviceMap}
    (hprev : ∀ u ∈ prevDevices.keys, u = sampleMember) (hnew : deviceIDs.keys = [sampleMember]) :
    IsOrder prevDevices deviceIDs [sampleMember] := by
  refine ⟨by simp, fun u => ?_⟩
  rw [AList.mem_keys, AList.mem_keys, hnew]
  grind

theorem sample_reach : AllReach sampleAttempt.distribution
    (getDevicesIDs sampleOwn [sampleMember] sampleAttempt.lookup).deviceIDs := by
  change AllReach _ ((∅ : DeviceMap).insert sampleMember ⟨[1], 5⟩)
  intro u info hinfo
  by_cases hu : u = sampleMember
  · subst hu
    cases hinfo
    simp [Reaches, sampleAttempt]
  · rw [AList.lookup_insert_ne hu, AList.lookup_empty] at hinfo
    cases hinfo

theorem encryptions_covered_retry :
    ∃ actions w, Run (Guarded (Safe sampleOwn) (Step sampleOwn)) {} actions w ∧
      w.encryptions.length = 2 ∧ ∀ e ∈ w.encryptions, Covered e := by
  have hrun : ∃ actions w, Run (Guarded (Safe sampleOwn) (Step sampleOwn)) {} actions w ∧
      w.encryptions.length = 2 := by
    refine ⟨[.sendGroupMessage 0 [sampleMember] 100, .attempt 0 sampleAttempt,
      .retryRequest { sender := ⟨sampleMember, 1⟩, timestamp := 100, cached := some 0, reached := [1] },
      .sendGroupMessage 1 [sampleMember] 200, .attempt 1 { sampleAttempt with newDistributionID := .ofByte 8 }], _,
      .cons ⟨trivial, trivial, rfl⟩ <| .cons ⟨?_, ?_, rfl⟩ <| .cons ⟨?_, ?_, rfl⟩ <|
      .cons ⟨trivial, trivial, rfl⟩ <| .cons ⟨?_, ?_, rfl⟩ <| .refl _, rfl⟩
    · rintro send ⟨⟩
      exact ⟨by decide, rfl, sample_reach, by intro info hinfo; cases hinfo⟩
    · rintro send info ⟨⟩ ⟨⟩
      exact sample_isOrder (by simp) rfl
    · rintro info ⟨⟩ -
      intro d hd
      simp only [mem_singleton] at hd
      subst hd
      decide
    · rintro id ⟨⟩
      decide
    · rintro send ⟨⟩
      refine ⟨by decide, by decide, sample_reach, ?_⟩
      rintro info ⟨⟩ -
      exact ⟨fun _ h => absurd rfl h, fun h => absurd rfl h⟩
    · rintro send info ⟨⟩ ⟨⟩
      exact sample_isOrder (by decide) rfl
  obtain ⟨actions, w, hrun, hlen⟩ := hrun
  exact ⟨actions, w, hrun, hlen, encryptions_covered hrun⟩

-- The answer to a retry receipt goes to all devices of the user, here also to device 2, which is
-- not recorded. When device 2 is gone the key is still used.
theorem encryption_with_key_of_removed_device :
    ∃ actions w e, Run (Step sampleOwn) {} actions w ∧ e ∈ w.encryptions ∧
      ⟨sampleMember, 2⟩ ∈ e.holders ∧ ¬ InMap e.computed ⟨sampleMember, 2⟩ ∧ ¬ Covered e := by
  have hrun : ∃ actions w, Run (Step sampleOwn) {} actions w ∧ ∃ e ∈ w.encryptions,
      ⟨sampleMember, 2⟩ ∈ e.holders ∧ ¬ InMap e.computed ⟨sampleMember, 2⟩ := by
    refine ⟨[.sendGroupMessage 0 [sampleMember] 100, .attempt 0 sampleAttempt,
      .retryRequest { sender := ⟨sampleMember, 1⟩, timestamp := 100, cached := some 0, reached := [1, 2] },
      .sendGroupMessage 1 [sampleMember] 200, .attempt 1 sampleAttempt], _,
      .cons ⟨trivial, rfl⟩ <| .cons ⟨?_, rfl⟩ <| .cons ⟨?_, rfl⟩ <|
      .cons ⟨trivial, rfl⟩ <| .cons ⟨?_, rfl⟩ <| .refl _,
      ⟨0, [⟨sampleMember, 1⟩], (∅ : DeviceMap).insert sampleMember ⟨[1], 5⟩,
        [⟨sampleMember, 1⟩, ⟨sampleMember, 1⟩, ⟨sampleMember, 2⟩]⟩, ?_, by decide, ?_⟩
    · rintro send info ⟨⟩ ⟨⟩
      exact sample_isOrder (by simp) rfl
    · rintro id ⟨⟩
      decide
    · rintro send info ⟨⟩ ⟨⟩
      exact sample_isOrder (by decide) rfl
    · exact mem_append_right _ (mem_singleton.mpr rfl)
    · rintro ⟨info, hinfo, hmem⟩
      cases hinfo
      simp at hmem
  obtain ⟨actions, w, hrun, e, he, hholder, hcomp⟩ := hrun
  exact ⟨actions, w, e, hrun, he, hholder, hcomp, fun h => hcomp (h.2 _ hholder)⟩

-- The record of who has the key is right: as long as the stored info can be used, exactly the recorded devices have
-- been sent its key.
theorem recorded_devices_have_key {own : ServiceID} {w : World} {actions : List Action}
    (hrun : Run (Guarded (Safe own) (Step own)) {} actions w) :
    ∀ info, w.info = some info → info.expired w.now = false → InfoShared w info :=
  (hrun.invariant (fun _ _ _ h hstep => inv_step h hstep) inv_initial).stored

theorem recorded_devices_have_key_sent : ∃ actions w info,
    Run (Guarded (Safe sampleOwn) (Step sampleOwn)) {} actions w ∧ w.info = some info ∧ InfoShared w info := by
  have hrun : ∃ actions w, Run (Guarded (Safe sampleOwn) (Step sampleOwn)) {} actions w ∧
      w.info.any (fun info => !info.expired w.now) = true := by
    refine ⟨[.sendGroupMessage 0 [sampleMember] 100, .attempt 0 sampleAttempt], _,
      .cons ⟨trivial, trivial, rfl⟩ <| .cons ⟨?_, ?_, rfl⟩ <| .refl _, by decide +kernel⟩
    · rintro send ⟨⟩
      exact ⟨by decide, rfl, sample_reach, by intro info hinfo; cases hinfo⟩
    · rintro send info ⟨⟩ ⟨⟩
      exact sample_isOrder (by simp) rfl
  obtain ⟨actions, w, hrun, hinfo⟩ := hrun
  obtain ⟨info, hinfo, hvalid⟩ := (Option.any_eq_true _ _).mp hinfo
  exact ⟨actions, w, info, hrun, hinfo, recorded_devices_have_key hrun info hinfo (by simpa using hvalid)⟩

end MautrixSignal.SenderKey
