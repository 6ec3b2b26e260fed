import MautrixSignal.SenderKey

namespace MautrixSignal.SenderKey

def InMap (deviceIDs : DeviceMap) (dev : Device) : Prop :=
  ∃ info, deviceIDs.lookup dev.serviceID = some info ∧ dev.deviceID ∈ info.deviceIDs

section GetDevicesIDs

def Result.count (result : Result) (u : ServiceID) : ℕ :=
  result.successfullySentTo.count u + result.failedToSendTo.count u

def Lookup.keyed (own recipient : ServiceID) (lookup : Lookup) : Bool :=
  recipient ≠ own && recipient.type = serviceIDTypeACI && lookup.hasEndorsement &&
    match lookup.profileKey with
    | .found _ => true
    | _ => false

def Lookup.usable (own recipient : ServiceID) (lookup : Lookup) : Bool :=
  lookup.keyed own recipient &&
    match lookup.sessions with
    | none => false
    | some [] => lookup.fetch = .processed && lookup.sessionsAfterFetch.any (· ≠ [])
    | some (_ :: _) => true

def Lookup.unregistered (own recipient : ServiceID) (lookup : Lookup) : Bool :=
  lookup.keyed own recipient && lookup.sessions = some [] && lookup.fetch = .unregistered

def Devices.addSessions (out : Devices) (recipient : ServiceID) (accessKey : AccessKey) (sessions : List ℕ) :
    Devices :=
  { out with
    deviceIDs := out.deviceIDs.insert recipient ⟨sessions, accessKey⟩
    senderKeyRecipients := out.senderKeyRecipients ++ sessions.map (⟨recipient, ·⟩) }

def Devices.addFailed (out : Devices) (recipient : ServiceID) : Devices :=
  { out with result.failedToSendTo := out.result.failedToSendTo ++ [recipient] }

inductive Devices.Added (own : ServiceID) (out : Devices) (recipient : ServiceID) (lookup : Lookup) :
    Devices → Prop
  | usable (accessKey : AccessKey) (session : ℕ) (sessions : List ℕ) (h : lookup.usable own recipient = true)
      (h' : lookup.unregistered own recipient = false) :
      Added own out recipient lookup (out.addSessions recipient accessKey (session :: sessions))
  | unregistered (h : lookup.usable own recipient = false) (h' : lookup.unregistered own recipient = true) :
      Added own out recipient lookup (out.addFailed recipient)
  | fallBack (h : lookup.usable own recipient = false) (h' : lookup.unregistered own recipient = false) :
      Added own out recipient lookup (out.fallBack recipient)

theorem added_useSessions {own recipient : ServiceID} {lookup : Lookup} {out : Devices} (accessKey : AccessKey)
    (sessions : Option (List ℕ)) (h : lookup.usable own recipient = sessions.any (· ≠ []))
    (h' : lookup.unregistered own recipient = false) :
    out.Added own recipient lookup (out.useSessions recipient accessKey sessions) := by
  cases sessions with
  | none => exact .fallBack h h'
  | some sessions =>
    cases sessions with
    | nil => exact .fallBack (by simpa using h) h'
    | cons session sessions => exact .usable accessKey session sessions (by simpa using h) h'

theorem added_add {own recipient : ServiceID} (hown : recipient ≠ own) (lookup : Lookup) (out : Devices) :
    out.Added own recipient lookup (out.add own recipient lookup) := by
  unfold Devices.add
  rw [if_neg hown]
  by_cases hskip : recipient.type ≠ serviceIDTypeACI ∨ lookup.hasEndorsement = false
  · rw [if_pos hskip]
    have hkeyed : lookup.keyed own recipient = false := by
      rcases hskip with htype | hendorsement
      · simp [Lookup.keyed, htype]
      · simp [Lookup.keyed, hendorsement]
    exact .fallBack (by simp [Lookup.usable, hkeyed]) (by simp [Lookup.unregistered, hkeyed])
  rw [if_neg hskip]
  simp only [not_or, not_not] at hskip
  obtain ⟨htype, hendorsement⟩ := hskip
  split
  · rename_i accessKey hkey
    have hkeyed : lookup.keyed own recipient = true := by
      simp [Lookup.keyed, hown, htype, hendorsement, hkey]
    split
    · rename_i hsessions
      cases hfetch : lookup.fetch with
      | processed =>
        apply added_useSessions
        · simp [Lookup.usable, hkeyed, hsessions, hfetch]
        · simp [Lookup.unregistered, hfetch]
      | unregistered =>
        exact .unregistered (by simp [Lookup.usable, hsessions, hfetch])
          (by simp [Lookup.unregistered, hkeyed, hsessions, hfetch])
      | failed =>
        exact .fallBack (by simp [Lookup.usable, hsessions, hfetch]) (by simp [Lookup.unregistered, hfetch])
    · rename_i hsessions
      apply added_useSessions
      · cases hstored : lookup.sessions with
        | none => simp [Lookup.usable, hstored]
        | some sessions =>
          cases sessions with
          | nil => exact absurd hstored hsessions
          | cons session sessions => simp [Lookup.usable, hkeyed, hstored]
      · have hne : lookup.sessions ≠ some [] := hsessions
        simp [Lookup.unregistered, hne]
  · rename_i hkey
    have hkeyed : lookup.keyed own recipient = false := by
      unfold Lookup.keyed
      split
      · rename_i accessKey hfound
        exact absurd hfound (hkey accessKey)
      · simp
    exact .fallBack (by simp [Lookup.usable, hkeyed]) (by simp [Lookup.unregistered, hkeyed])

def Devices.accounts (out : Devices) (u : ServiceID) : ℕ :=
  out.deviceIDs.keys.count u + out.fallbackRecipients.count u + out.result.count u

structure Computed (own : ServiceID) (lookup : ℕ → Lookup) (seen : List (ServiceID × ℕ)) (out : Devices) : Prop where
  reached : ∀ u, (∃ dev ∈ out.senderKeyRecipients, dev.serviceID = u) ↔
    ∃ r ∈ seen, r.1 = u ∧ (lookup r.2).usable own r.1 = true
  unregistered : out.result.failedToSendTo = [] ↔ ∀ r ∈ seen, (lookup r.2).unregistered own r.1 = false
  success : out.result.successfullySentTo = []
  ne_own : ∀ dev ∈ out.senderKeyRecipients, dev.serviceID ≠ own
  users : ∀ u ∈ out.deviceIDs, u ∈ seen.map Prod.fst
  inMap : (seen.map Prod.fst).Nodup → ∀ dev ∈ out.senderKeyRecipients, InMap out.deviceIDs dev
  accounts : (seen.map Prod.fst).Nodup →
    ∀ u, out.accounts u = if u ∈ seen.map Prod.fst ∧ u ≠ own then 1 else 0

variable {own : ServiceID} {lookup : ℕ → Lookup} {seen : List (ServiceID × ℕ)} {out : Devices}

theorem Computed.usable (h : Computed own lookup seen out) :
    out.senderKeyRecipients = [] ↔ ∀ r ∈ seen, (lookup r.2).usable own r.1 = false := by
  rw [List.eq_nil_iff_forall_not_mem]
  constructor
  · intro hnone r hr
    by_contra husable
    obtain ⟨dev, hdev, -⟩ := (h.reached r.1).mpr ⟨r, hr, rfl, by simpa using husable⟩
    exact hnone dev hdev
  · intro hnone dev hdev
    obtain ⟨r, hr, -, husable⟩ := (h.reached dev.serviceID).mp ⟨dev, hdev, rfl⟩
    rw [hnone r hr] at husable
    cases husable

theorem Computed.add (h : Computed own lookup seen out) (recipient : ServiceID) (i : ℕ) :
    Computed own lookup (seen ++ [(recipient, i)]) (out.add own recipient (lookup i)) := by
  have hmem : ∀ u, u ∈ (seen ++ [(recipient, i)]).map Prod.fst ↔ u ∈ seen.map Prod.fst ∨ u = recipient := by
    simp
  have hnodup : ((seen ++ [(recipient, i)]).map Prod.fst).Nodup →
      (seen.map Prod.fst).Nodup ∧ recipient ∉ seen.map Prod.fst := by
    rw [List.map_append, List.nodup_append]
    exact fun h => ⟨h.1, fun hseen => h.2.2 _ hseen _ List.mem_cons_self rfl⟩
  have hforall : ∀ p : ServiceID × ℕ → Prop, (∀ r ∈ seen ++ [(recipient, i)], p r) ↔
      (∀ r ∈ seen, p r) ∧ p (recipient, i) := by
    simp [or_imp, forall_and]
  have hexists : ∀ p : ServiceID × ℕ → Prop, (∃ r ∈ seen ++ [(recipient, i)], p r) ↔
      (∃ r ∈ seen, p r) ∨ p (recipient, i) := by
    simp [or_and_right, exists_or]
  have husers : ∀ u ∈ out.deviceIDs, u ∈ (seen ++ [(recipient, i)]).map Prod.fst :=
    fun u hu => (hmem u).mpr (.inl (h.users u hu))
  by_cases hown : recipient = own
  · have hadd : out.add own recipient (lookup i) = out := by simp [Devices.add, hown]
    rw [hadd]
    refine ⟨?_, ?_, h.success, h.ne_own, husers, fun hn => h.inMap (hnodup hn).1, fun hn u => ?_⟩
    · intro u
      rw [hexists, h.reached]
      simp [Lookup.usable, Lookup.keyed, hown]
    · rw [hforall, h.unregistered]
      simp [Lookup.unregistered, Lookup.keyed, hown]
    · rw [h.accounts (hnodup hn).1]
      simp only [hmem]
      grind
  have hcount : ∀ (list : List ServiceID) u,
      (list ++ [recipient]).count u = list.count u + if u = recipient then 1 else 0 := by
    grind
  have haccounts : ((seen ++ [(recipient, i)]).map Prod.fst).Nodup → ∀ out' : Devices,
      (∀ u, out'.accounts u = out.accounts u + if u = recipient then 1 else 0) →
      ∀ u, out'.accounts u = if u ∈ (seen ++ [(recipient, i)]).map Prod.fst ∧ u ≠ own then 1 else 0 := by
    intro hn out' hout u
    rw [hout, h.accounts (hnodup hn).1]
    have hnew := (hnodup hn).2
    simp only [hmem]
    grind
  generalize hadded : out.add own recipient (lookup i) = out'
  have hcases := hadded ▸ added_add hown (lookup i) out
  cases hcases with
  | usable accessKey session sessions hu hr =>
    refine ⟨?_, ?_, h.success, fun dev hdev => ?_, fun u hu => ?_, fun hn dev hdev => ?_, fun hn => ?_⟩
    · intro u
      rw [hexists, ← h.reached, hu]
      have hsame : ∀ p q : Prop, p ∨ q ∧ p ↔ p := fun p q => or_iff_left_of_imp And.right
      simp [Devices.addSessions, or_and_right, exists_or, hsame]
    · rw [hforall, hr, Devices.addSessions, h.unregistered, eq_self, and_true]
    · rcases List.mem_append.mp hdev with hold | hnew
      · exact h.ne_own dev hold
      · obtain ⟨d, -, rfl⟩ := List.mem_map.mp hnew
        exact hown
    · rcases (AList.mem_insert _).mp hu with rfl | hu
      · exact (hmem u).mpr (.inr rfl)
      · exact husers u hu
    · rcases List.mem_append.mp hdev with hold | hnew
      · obtain ⟨info, hinfo, hdevice⟩ := h.inMap (hnodup hn).1 dev hold
        have hseen := h.users _ (AList.lookup_isSome.mp (by rw [hinfo]; rfl))
        have hne : dev.serviceID ≠ recipient := fun heq => (hnodup hn).2 (heq ▸ hseen)
        exact ⟨info, by rw [Devices.addSessions, AList.lookup_insert_ne hne]; exact hinfo, hdevice⟩
      · obtain ⟨d, hd, rfl⟩ := List.mem_map.mp hnew
        exact ⟨_, AList.lookup_insert _, hd⟩
    · refine haccounts hn _ fun u => ?_
      have hnew : recipient ∉ out.deviceIDs := fun hold => (hnodup hn).2 (h.users _ hold)
      have hkeys : (out.deviceIDs.insert recipient ⟨session :: sessions, accessKey⟩).keys.count u =
          out.deviceIDs.keys.count u + if u = recipient then 1 else 0 := by
        rw [AList.keys_insert, List.erase_of_not_mem hnew, ← hcount]
        exact (List.perm_append_singleton _ _).symm.count_eq u
      simp only [Devices.accounts, Devices.addSessions]
      omega
  | unregistered hu hr =>
    refine ⟨?_, ?_, h.success, h.ne_own, husers, fun hn => h.inMap (hnodup hn).1, fun hn => haccounts hn _ fun u => ?_⟩
    · intro u
      rw [hexists, ← h.reached, hu]
      simp [Devices.addFailed]
    · rw [hforall, hr]
      simp [Devices.addFailed]
    · simp only [Devices.accounts, Devices.addFailed, Result.count, hcount]
      omega
  | fallBack hu hr =>
    refine ⟨?_, ?_, h.success, h.ne_own, husers, fun hn => h.inMap (hnodup hn).1, fun hn => haccounts hn _ fun u => ?_⟩
    · intro u
      rw [hexists, ← h.reached, hu]
      simp [Devices.fallBack]
    · rw [hforall, hr, Devices.fallBack, h.unregistered, eq_self, and_true]
    · simp only [Devices.accounts, Devices.fallBack, hcount]
      omega

theorem computed_getDevicesIDs (own : ServiceID) (recipients : List ServiceID) (lookup : ℕ → Lookup) :
    Computed own lookup recipients.zipIdx (getDevicesIDs own recipients lookup) := by
  have hfoldl : ∀ (entries seen : List (ServiceID × ℕ)) (out : Devices), Computed own lookup seen out →
      Computed own lookup (seen ++ entries)
        (entries.foldl (fun out entry => out.add own entry.1 (lookup entry.2)) out) := by
    intro entries
    induction entries with
    | nil =>
      intro seen out h
      rwa [List.append_nil]
    | cons entry entries ih =>
      intro seen out h
      rw [List.append_cons]
      exact ih _ _ (h.add entry.1 entry.2)
  refine hfoldl recipients.zipIdx [] {} ⟨by simp, by simp, rfl, by simp, fun u hu => ?_, by simp, fun _ u => ?_⟩
  · simp at hu
  · simp [Devices.accounts, Result.count]

end GetDevicesIDs

section DiffRecipients

variable (prevDevices : SharedWith) (newDevices : DeviceMap)

-- The recorded user, or a recorded device of the user, is not current.
def Lost (u : ServiceID) : Prop :=
  ∃ prev, prevDevices.lookup u = some prev ∧
    ∀ new, newDevices.lookup u = some new → ∃ d ∈ prev, d ∉ new.deviceIDs

def Gained (u : ServiceID) : Prop :=
  ∃ new, newDevices.lookup u = some new ∧ ∀ prev, prevDevices.lookup u = some prev →
    (∀ d ∈ prev, d ∈ new.deviceIDs) ∧ ∃ d ∈ new.deviceIDs, d ∉ prev

section

variable (slices : SliceDiff) {devices others : List ℕ}

theorem removed_eq_nil : (slices.diff devices others).1 = [] ↔ ∀ d ∈ devices, d ∈ others := by
  simp [List.eq_nil_iff_forall_not_mem, slices.mem_first]

theorem removed_ne_nil : (slices.diff devices others).1 ≠ [] ↔ ∃ d ∈ devices, d ∉ others := by
  simp [removed_eq_nil]

theorem added_eq_nil : (slices.diff devices others).2 = [] ↔ (slices.diff others devices).1 = [] := by
  simp [List.eq_nil_iff_forall_not_mem, slices.mem_first, slices.mem_second]

end

variable {slices : SliceDiff} {prevDevices newDevices}

open Classical in
theorem visit_eq (prevDevices : SharedWith) (newDevices : DeviceMap) (diff : Diff) (u : ServiceID) :
    ((diff.visit slices prevDevices newDevices u).removedDevices.entries = [] ↔
      diff.removedDevices.entries = [] ∧ ¬ Lost prevDevices newDevices u) ∧
    (diff.visit slices prevDevices newDevices u).devicesAddedTo =
      diff.devicesAddedTo ++ if Gained prevDevices newDevices u then [u] else [] := by
  unfold Diff.visit Lost Gained
  cases hp : prevDevices.lookup u with
  | none => cases newDevices.lookup u <;> simp
  | some prev =>
    cases hn : newDevices.lookup u with
    | none => simp
    | some new =>
      simp only [Option.some.injEq, exists_eq_left', forall_eq', ← removed_eq_nil slices, ← removed_ne_nil slices]
      by_cases hlost : (slices.diff prev new.deviceIDs).1 = []
      · by_cases hadd : (slices.diff new.deviceIDs prev).1 = [] <;> simp [hlost, hadd, added_eq_nil slices]
      · simp [hlost]

open Classical in
theorem foldl_visit (order : List ServiceID) (diff : Diff) :
    ((order.foldl (Diff.visit slices prevDevices newDevices) diff).removedDevices.entries = [] ↔
      diff.removedDevices.entries = [] ∧ ∀ u ∈ order, ¬ Lost prevDevices newDevices u) ∧
    (order.foldl (Diff.visit slices prevDevices newDevices) diff).devicesAddedTo =
      diff.devicesAddedTo ++ order.filter fun u => Gained prevDevices newDevices u := by
  induction order generalizing diff with
  | nil => simp
  | cons u order ih =>
    obtain ⟨hremoved, hadd⟩ := ih (diff.visit slices prevDevices newDevices u)
    obtain ⟨hrem', hadded'⟩ := visit_eq prevDevices newDevices diff u
    rw [List.foldl_cons, hremoved, hrem', List.forall_mem_cons, and_assoc, hadd, hadded', List.append_assoc]
    refine ⟨Iff.rfl, ?_⟩
    by_cases hgained : Gained prevDevices newDevices u <;> simp [hgained]

variable {order : List ServiceID}

theorem mem_devicesAddedTo {u : ServiceID} : u ∈ (diffRecipients slices prevDevices newDevices order).devicesAddedTo ↔
    u ∈ order ∧ Gained prevDevices newDevices u := by
  rw [diffRecipients, (foldl_visit order {}).2]
  simp

theorem mem_of_added {u : ServiceID}
    (hadd : u ∈ (diffRecipients slices prevDevices newDevices order).devicesAddedTo) : u ∈ newDevices := by
  obtain ⟨-, new, hnew, -⟩ := mem_devicesAddedTo.mp hadd
  exact AList.lookup_isSome.mp (by rw [hnew]; rfl)

section

variable (horder : IsOrder prevDevices newDevices order)
  (hremoved : (diffRecipients slices prevDevices newDevices order).removedDevices.entries = []) {u : ServiceID}

include horder hremoved

theorem diffRecipients_kept {prev : List ℕ} (hprev : prevDevices.lookup u = some prev) :
    ∃ new, newDevices.lookup u = some new ∧ ∀ d ∈ prev, d ∈ new.deviceIDs := by
  have hmem : u ∈ order := (horder.2 u).2 (.inl (AList.lookup_isSome.mp (by rw [hprev]; rfl)))
  have hkept := ((foldl_visit order {}).1.mp hremoved).2 u hmem
  unfold Lost at hkept
  grind

theorem diffRecipients_recorded {new : SenderKeySendMeta} (hnew : newDevices.lookup u = some new)
    (hadd : u ∉ (diffRecipients slices prevDevices newDevices order).devicesAddedTo) :
    ∃ prev, prevDevices.lookup u = some prev ∧ ∀ d ∈ new.deviceIDs, d ∈ prev := by
  have hmem : u ∈ order := (horder.2 u).2 (.inr (AList.lookup_isSome.mp (by rw [hnew]; rfl)))
  have hgained : ¬ Gained prevDevices newDevices u := by
    intro h
    exact hadd (mem_devicesAddedTo.mpr ⟨hmem, h⟩)
  have hkept : ∀ prev, prevDevices.lookup u = some prev →
      ∃ new, newDevices.lookup u = some new ∧ ∀ d ∈ prev, d ∈ new.deviceIDs :=
    fun prev hprev => diffRecipients_kept horder hremoved hprev
  unfold Gained at hgained
  grind

end

-- Once some device is gone the key is replaced, so the added users matter only when none is.
theorem diffRecipients_changes (horder : IsOrder prevDevices newDevices order)
    (hdevs : ∀ u new, newDevices.lookup u = some new → new.deviceIDs ≠ []) :
    ((diffRecipients slices prevDevices newDevices order).removedDevices.entries ≠ [] ↔
      ∃ u, Lost prevDevices newDevices u) ∧
    ((diffRecipients slices prevDevices newDevices order).removedDevices.entries = [] →
      (diffRecipients slices prevDevices newDevices order).devicesAddedTo.Nodup ∧
      ∀ u, u ∈ (diffRecipients slices prevDevices newDevices order).devicesAddedTo ↔
        ∃ new, newDevices.lookup u = some new ∧
          ∃ d ∈ new.deviceIDs, ∀ prev, prevDevices.lookup u = some prev → d ∉ prev) := by
  constructor
  · rw [Ne, diffRecipients, (foldl_visit order {}).1]
    simp only [AList.empty_entries, true_and, not_forall, not_not, exists_prop]
    refine exists_congr fun u => and_iff_right_of_imp ?_
    rintro ⟨prev, hprev, -⟩
    exact (horder.2 u).mpr (.inl (AList.lookup_isSome.mp (by rw [hprev]; rfl)))
  · intro hremoved
    refine ⟨?_, fun u => ⟨fun hadd => ?_, ?_⟩⟩
    · rw [diffRecipients, (foldl_visit order {}).2]
      exact horder.1.filter _
    · obtain ⟨-, new, hnew, hgained⟩ := mem_devicesAddedTo.mp hadd
      refine ⟨new, hnew, ?_⟩
      cases hprev : prevDevices.lookup u with
      | none =>
        obtain ⟨d, hd⟩ := List.exists_mem_of_ne_nil _ (hdevs u new hnew)
        exact ⟨d, hd, nofun⟩
      | some prev =>
        obtain ⟨-, d, hd, hnot⟩ := hgained prev hprev
        exact ⟨d, hd, fun _ h => Option.some.inj h ▸ hnot⟩
    · rintro ⟨new, hnew, d, hd, hnot⟩
      by_contra hadd
      obtain ⟨prev, hprev, hrecd⟩ := diffRecipients_recorded horder hremoved hnew hadd
      exact hnot prev hprev (hrecd d hd)

def diffMember (b : UInt8) : ServiceID := newACIServiceID (.ofByte b)

def recordedDevices : SharedWith := (AList.insert (diffMember 1) [1] ∅).insert (diffMember 2) [1, 3]

def currentDevices : DeviceMap :=
  ((AList.insert (diffMember 1) ⟨[1, 2], 0⟩ ∅).insert (diffMember 2) ⟨[3, 1], 0⟩).insert (diffMember 3) ⟨[4], 0⟩

def diffOrder : List ServiceID := [diffMember 3, diffMember 2, diffMember 1]

-- The first member has a new device, the second one only another order of devices, and the third one is new.
theorem diffRecipients_changes_new_device :
    diffMember 1 ∈ (diffRecipients .filtering recordedDevices currentDevices diffOrder).devicesAddedTo ∧
      diffMember 2 ∉ (diffRecipients .filtering recordedDevices currentDevices diffOrder).devicesAddedTo ∧
      diffMember 3 ∈ (diffRecipients .filtering recordedDevices currentDevices diffOrder).devicesAddedTo := by
  have horder : IsOrder recordedDevices currentDevices diffOrder := by
    refine ⟨by decide, fun u => ?_⟩
    simp only [recordedDevices, currentDevices, diffOrder, AList.mem_insert, AList.notMem_empty, List.mem_cons,
      List.not_mem_nil, or_false]
    tauto
  have hdevs : ∀ u new, currentDevices.lookup u = some new → new.deviceIDs ≠ [] := by
    intro u new hnew
    have hmem : ⟨u, new⟩ ∈ ([⟨diffMember 3, ⟨[4], 0⟩⟩, ⟨diffMember 2, ⟨[3, 1], 0⟩⟩, ⟨diffMember 1, ⟨[1, 2], 0⟩⟩] :
        List (Sigma fun _ : ServiceID => SenderKeySendMeta)) := AList.mem_lookup_iff.mp hnew
    simp only [List.mem_cons, List.not_mem_nil, or_false, Sigma.mk.injEq, heq_eq_eq] at hmem
    rcases hmem with ⟨-, rfl⟩ | ⟨-, rfl⟩ | ⟨-, rfl⟩ <;> simp
  have hremoved : (diffRecipients .filtering recordedDevices currentDevices diffOrder).removedDevices.entries = [] :=
    rfl
  obtain ⟨-, hadd⟩ := (diffRecipients_changes horder hdevs).2 hremoved
  refine ⟨(hadd _).mpr ⟨_, rfl, 2, by decide, ?_⟩, ?_, (hadd _).mpr ⟨_, rfl, 4, by decide, nofun⟩⟩
  · rintro _ ⟨⟩
    decide
  · rw [hadd]
    rintro ⟨_, ⟨⟩, d, hd, hnot⟩
    exact hnot _ rfl (by revert d; decide)

end DiffRecipients

section Frame

variable {w : World} {a : Attempt}

-- What comes before the encryption of a message changes neither the sends nor what has been encrypted.
def World.Prepares (w w' : World) : Prop :=
  w'.sends = w.sends ∧ w'.encryptions = w.encryptions

theorem prepares_newDistributionMessage (w : World) (d : UUID) : w.Prepares (w.newDistributionMessage d).1 := by
  unfold World.newDistributionMessage
  split <;> exact ⟨rfl, rfl⟩

theorem prepares_currentInfo : w.Prepares (currentInfo w a).1 := by
  unfold currentInfo
  split
  · exact ⟨rfl, rfl⟩
  · split
    · exact ⟨rfl, rfl⟩
    · split
      · exact ⟨rfl, rfl⟩
      · split <;> exact ⟨rfl, rfl⟩

theorem prepares_resetIfRemoved (w : World) (a : Attempt) (info : SenderKeyInfo) (deviceIDs : DeviceMap) :
    w.Prepares (resetIfRemoved w a info deviceIDs).1 := by
  unfold resetIfRemoved
  simp only
  split
  · exact ⟨rfl, rfl⟩
  · split <;> exact ⟨rfl, rfl⟩

theorem prepares_afterFailedEncryption (w : World) (sessionNotFound : Bool) :
    w.Prepares (afterFailedEncryption w a sessionNotFound).1 := by
  unfold afterFailedEncryption
  split <;> exact ⟨rfl, rfl⟩

theorem foldl_send_keeps (key : ℕ) (distribution : ServiceID → DistributionResult) (added : List ServiceID)
    (s : Distributing) :
    s.world.Prepares (added.foldl (Distributing.send key distribution) s).world ∧
      (added.foldl (Distributing.send key distribution) s).senderKeyRecipients ⊆ s.senderKeyRecipients := by
  induction added generalizing s with
  | nil => exact ⟨⟨rfl, rfl⟩, List.Subset.refl _⟩
  | cons recipient added ih =>
    obtain ⟨⟨hsends, hencryptions⟩, hsub⟩ := ih (s.send key distribution recipient)
    have hstep : s.world.Prepares (s.send key distribution recipient).world ∧
        (s.send key distribution recipient).senderKeyRecipients ⊆ s.senderKeyRecipients := by
      unfold Distributing.send
      split
      · exact ⟨⟨rfl, rfl⟩, List.Subset.refl _⟩
      · exact ⟨⟨rfl, rfl⟩, List.Subset.refl _⟩
      · exact ⟨⟨rfl, rfl⟩, List.filter_subset_self _⟩
    exact ⟨⟨hsends.trans hstep.1.1, hencryptions.trans hstep.1.2⟩, List.Subset.trans hsub hstep.2⟩

theorem distributeKey_keeps (s : Distributing) (added : List ServiceID) :
    s.world.Prepares (distributeKey a s added).1 ∧
      ∀ s', (distributeKey a s added).2 = some s' →
        s'.world = (distributeKey a s added).1 ∧ s'.senderKeyRecipients ⊆ s.senderKeyRecipients := by
  unfold distributeKey
  split
  · exact ⟨⟨rfl, rfl⟩, by rintro _ ⟨⟩; exact ⟨rfl, List.Subset.refl _⟩⟩
  split
  · exact ⟨⟨rfl, rfl⟩, by rintro _ ⟨⟩⟩
  simp only
  have hmade := prepares_newDistributionMessage s.world s.info.distributionID
  split
  · exact ⟨hmade, by rintro _ ⟨⟩⟩
  obtain ⟨hsent, hsub⟩ := foldl_send_keeps
    (s.world.newDistributionMessage s.info.distributionID).2 a.distribution added
    { s with world := (s.world.newDistributionMessage s.info.distributionID).1 }
  have hkeeps := And.intro (hsent.1.trans hmade.1) (hsent.2.trans hmade.2)
  split
  · exact ⟨hkeeps, by rintro _ ⟨⟩; exact ⟨rfl, hsub⟩⟩
  · exact ⟨hkeeps, by rintro _ ⟨⟩⟩

def EncryptsFor (w w' : World) (devices : List Device) : Prop :=
  ∀ e ∈ w'.encryptions.drop w.encryptions.length, e.addressed ⊆ devices

def World.Attempts (w w' : World) (devices : List Device) : Prop :=
  w'.sends = w.sends ∧ EncryptsFor w w' devices

theorem World.Prepares.attempts {w' : World} (h : w.Prepares w') (devices : List Device) : w.Attempts w' devices := by
  refine ⟨h.1, fun e he => ?_⟩
  simp [h.2] at he

theorem World.Prepares.thenAttempts {v w' : World} {devices devices' : List Device} (h : v.Prepares w)
    (h' : w.Attempts w' devices) (hsub : devices ⊆ devices') : v.Attempts w' devices' := by
  refine ⟨h'.1.trans h.1, fun e he => ?_⟩
  rw [← h.2] at he
  exact List.Subset.trans (h'.2 e he) hsub

variable {send : Send} {computed : Devices}

theorem attempts_encryptAndSend {s : Distributing} :
    s.world.Attempts (encryptAndSend a send computed s).1 s.senderKeyRecipients := by
  have happend : ∀ (w w' : World) (encryption : Encryption), w.Prepares w' → w.sends = s.world.sends →
      w.encryptions = s.world.encryptions ++ [encryption] → encryption.addressed = s.senderKeyRecipients →
      s.world.Attempts w' s.senderKeyRecipients := by
    intro w w' encryption hpreps hsends hencryptions haddr
    refine ⟨hpreps.1.trans hsends, fun e he => ?_⟩
    rw [hpreps.2, hencryptions, List.drop_left, List.mem_singleton] at he
    rw [he, haddr]
    exact List.Subset.refl _
  unfold encryptAndSend
  split
  · exact (prepares_afterFailedEncryption _ _).attempts _
  · exact (prepares_afterFailedEncryption _ _).attempts _
  simp only
  split
  · exact happend _ _ _ (prepares_afterFailedEncryption _ _) rfl rfl rfl
  · split
    · exact happend _ _ _ ⟨rfl, rfl⟩ rfl rfl rfl
    · split
      · split <;> exact happend _ _ _ ⟨rfl, rfl⟩ rfl rfl rfl
      · exact happend _ _ _ ⟨rfl, rfl⟩ rfl rfl rfl

theorem attempts_distributeAndSend {info : SenderKeyInfo} {added : List ServiceID} :
    w.Attempts (distributeAndSend a send computed w info added).1 computed.senderKeyRecipients := by
  obtain ⟨hkeeps, hnext⟩ := distributeKey_keeps (a := a) ⟨w, info, computed.deviceIDs,
    computed.senderKeyRecipients, computed.fallbackRecipients, false⟩ added
  unfold distributeAndSend
  simp only
  generalize distributeKey a _ added = result at hkeeps hnext
  split
  · exact hkeeps.attempts _
  · rename_i w₁ s
    obtain ⟨hs, hsub⟩ := hnext s rfl
    split
    · exact hkeeps.attempts _
    · exact World.Prepares.thenAttempts (hs ▸ hkeeps) attempts_encryptAndSend hsub

theorem attempts_attemptSend {own : ServiceID} : w.Attempts (attemptSend own w send a).1
    (getDevicesIDs own send.recipients a.lookup).senderKeyRecipients := by
  unfold attemptSend
  simp only
  split
  · exact World.Prepares.attempts ⟨rfl, rfl⟩ _
  have hinfo := prepares_currentInfo (w := w) (a := a)
  split
  · rename_i w₁ heq
    rw [heq] at hinfo
    exact hinfo.attempts _
  · rename_i w₁ info heq
    rw [heq] at hinfo
    have hreset := prepares_resetIfRemoved w₁ a info (getDevicesIDs own send.recipients a.lookup).deviceIDs
    split
    · rename_i w₂ heq'
      rw [heq'] at hreset
      exact hinfo.thenAttempts (hreset.attempts _) (List.Subset.refl _)
    · rename_i w₂ info' added heq'
      rw [heq'] at hreset
      exact hinfo.thenAttempts (hreset.thenAttempts attempts_distributeAndSend (List.Subset.refl _))
        (List.Subset.refl _)

end Frame

end MautrixSignal.SenderKey
