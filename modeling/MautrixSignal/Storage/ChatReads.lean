import MautrixSignal.Lib.Checks
import MautrixSignal.Receive
import MautrixSignal.Storage.ChatSettings
import MautrixSignal.Storage.Theorems

namespace MautrixSignal.Storage

open Lib Lib.Base64 Receive World

section Reading

variable {ι ρ : Type} [DecidableEq ι] {c : Crypto ρ} {storageKey : Bytes}
  {manifest : ManifestRecord} {w₀ w w' : World ι ρ} {i : ι} {event : Event ι} {draws : Nat → Draw}
  {manifestNonce : Bytes} {err : StorageError}

-- The service lists a record of this type, and it can be read and meets the condition.
def Server.Holds (c : Crypto ρ) (storageKey : Bytes) (server : Server) (type : ItemType) (wants : ρ → Bool) :
    Prop :=
  ∃ manifest, decryptStorageManifest c storageKey server.manifest = .ok manifest ∧
    ∃ ident ∈ manifest.identifiers, ident.type = type ∧ ∃ value record, server.items ident.raw = some value ∧
      decryptStorageItem c storageKey manifest.recordIkm ⟨ident.raw, value⟩ = .ok record ∧ wants record = true

-- What one step of a fold brings about and no other step takes back holds at its end.
theorem foldl_of_mem {σ α : Type} {P : σ → Prop} {f : σ → α → σ} {a : α} {as : List α}
    (hkeep : ∀ s b, P s → P (f s b)) (hset : ∀ s, P (f s a)) (hmem : a ∈ as) (s : σ) : P (as.foldl f s) := by
  obtain ⟨before, after, rfl⟩ := List.append_of_mem hmem
  rw [List.foldl_append, List.foldl_cons]
  exact List.foldlRecOn after f (hset _) fun s hs b _ => hkeep s b hs

theorem isSome_wantedIDs {wanted : List ItemType} {ident : Identifier} (hmem : ident ∈ manifest.identifiers)
    (htype : ident.type ∈ wanted) : (wantedIDs manifest wanted (encodeToString ident.raw)).isSome := by
  have hkeep : ∀ (ids : IDMap) (other : Identifier) type, (ids (encodeToString ident.raw)).isSome →
      ((if other.type = type then ids.set (encodeToString other.raw) type else ids)
        (encodeToString ident.raw)).isSome := by
    intro ids other type h
    split_ifs
    · unfold IDMap.set
      split
      · rfl
      · exact h
    · exact h
  refine foldl_of_mem (P := fun ids : IDMap => (ids (encodeToString ident.raw)).isSome = true) (fun ids other h => ?_)
    (fun ids => ?_) hmem _
  · exact List.foldlRecOn wanted _ (motive := fun ids => (ids (encodeToString ident.raw)).isSome = true) h
      fun ids h type _ => hkeep ids other type h
  · refine foldl_of_mem (P := fun ids : IDMap => (ids (encodeToString ident.raw)).isSome = true)
      (fun ids type h => hkeep ids ident type h) (fun ids => ?_) htype ids
    simp [IDMap.set]

theorem SnapshotOf.not_holds {wanted : List ItemType} {server : Server}
    {records : List (DecryptedStorageRecord ρ)} (h : SnapshotOf c storageKey wanted server manifest records)
    (hman : decryptStorageManifest c storageKey server.manifest = .ok manifest) {type : ItemType}
    (htype : type ∈ wanted) {wants : ρ → Bool} (hnone : ∀ r ∈ records, wants r.storageRecord = false) :
    ¬ server.Holds c storageKey type wants := by
  rintro ⟨manifest', hman', ident, hident, rfl, value, record, hval, hrec, hwants⟩
  obtain rfl := Except.ok.inj (hman.symm.trans hman')
  obtain ⟨listed, hlisted⟩ := Option.isSome_iff_exists.mp (isSome_wantedIDs hident htype)
  have hmem : (⟨listed, encodeToString ident.raw, record⟩ : DecryptedStorageRecord ρ) ∈ records :=
    (h.mem _).mpr ⟨ident.raw, value, rfl, hlisted, hval, hrec⟩
  exact absurd hwants (by rw [hnone _ hmem]; decide)

-- No write has been accepted between the fetch of a manifest and that of its records.
def fetchesUnchanged (w : World ι ρ) : Event ι → Prop
  | .progress i =>
    match (w.devices i).phase with
    | .fetching _ base _ (_ :: _) _ => w.server.version = base.version
    | _ => True
  | .accepted _ => True

-- The device was in its present call when the server was in this state.
def SeenBy (c : Crypto ρ) (storageKey : Bytes) (w₀ : World ι ρ) (i : ι) (w : World ι ρ) (server : Server) :
    Prop :=
  ∃ before w₁ after, Run (Step c storageKey) w₀ before w₁ ∧ w₁.server = server ∧
    Run (Guarded (fun w _ => (w.devices i).phase ≠ .idle) (Step c storageKey)) w₁ after w

theorem SeenBy.step {server : Server} (h : SeenBy c storageKey w₀ i w server)
    (hbusy : (w.devices i).phase ≠ .idle) (hstep : Step c storageKey w event w') :
    SeenBy c storageKey w₀ i w' server := by
  obtain ⟨before, w₁, after, hbef, hsrv, hafter⟩ := h
  exact ⟨before, w₁, _, hbef, hsrv, hafter.snoc ⟨hbusy, hstep⟩⟩

-- What a device has fetched so far is of one state, which the server was in during the call.
def Fetches (c : Crypto ρ) (storageKey : Bytes) (w₀ w : World ι ρ) (i : ι) (device : Device ρ) : Prop :=
  ∀ attempt base manifest remaining items, device.phase = .fetching attempt base manifest remaining items →
    decryptStorageManifest c storageKey base.manifest = .ok manifest ∧
      Fetched device.call.wanted base manifest remaining items ∧ SeenBy c storageKey w₀ i w base

def FetchInv (c : Crypto ρ) (storageKey : Bytes) (w₀ w : World ι ρ) : Prop :=
  ∀ i, Fetches c storageKey w₀ w i (w.devices i)

theorem World.devices_set_self (w : World ι ρ) (i : ι) (device : Device ρ) : (w.set i device).devices i = device := by
  simp [set]

theorem World.devices_set_of_ne (w : World ι ρ) {j : ι} (device : Device ρ) (h : j ≠ i) :
    (w.set i device).devices j = w.devices j := by
  simp [set, h]

variable {device : Device ρ}

theorem FetchInv.set (h : FetchInv c storageKey w₀ w) {server : Server}
    (hstep : Step c storageKey w event ({ w with server := server }.set i device)) 
    (hown : Fetches c storageKey w₀ ({ w with server := server }.set i device) i device) :
    FetchInv c storageKey w₀ ({ w with server := server }.set i device) := by
  intro j attempt base manifest remaining items hphase
  by_cases hj : j = i
  · subst hj
    rw [devices_set_self] at hphase ⊢
    exact hown attempt base manifest remaining items hphase
  · rw [devices_set_of_ne _ _ hj] at hphase ⊢
    obtain ⟨hread, hfetched, hseen⟩ := h j attempt base manifest remaining items hphase
    exact ⟨hread, hfetched, hseen.step (by rw [hphase]; exact nofun) hstep⟩

theorem phase_prepareWrite {attempt : ℕ} {base : Server} {items : List StorageItem} {attempt' : ℕ} {base' : Server}
    {manifest' : ManifestRecord} {remaining : List Bytes} {items' : List StorageItem} :
    (prepareWrite c storageKey device attempt base manifest items draws manifestNonce).phase ≠
      .fetching attempt' base' manifest' remaining items' := by
  simp only [prepareWrite]
  split
  · rintro ⟨⟩
  · split
    · rintro ⟨⟩
    · split <;> rintro ⟨⟩

theorem fetchInv_step {events : List (Event ι)} (hrun : Run (Step c storageKey) w₀ events w)
    (hinv : WorldInv c storageKey w) (h : FetchInv c storageKey w₀ w)
    (hstep : Guarded fetchesUnchanged (Step c storageKey) w event w') : FetchInv c storageKey w₀ w' := by
  obtain ⟨hguard, hstep⟩ := hstep
  have htaken := hstep
  cases hstep with
  | start i call hphase => exact h.set htaken fun _ _ _ _ _ hfetching => nomatch hfetching
  | fetchManifest i attempt manifest order keys hphase hatt hman hord hkeys =>
    refine h.set htaken ?_
    rintro _ _ _ _ _ ⟨⟩
    have hbusy : (w.devices i).phase ≠ .idle := by
      rw [hphase]
      exact nofun
    refine ⟨hman, ⟨by simp, ?_⟩, events, w, _, hrun, rfl, .single ⟨hbusy, htaken⟩⟩
    intro raw value hwanted _ hkey
    exact absurd (mem_of_mapM hkeys ((hord.2 _).mpr hwanted)) hkey
  | fetchRecords i attempt base manifest remaining items chunk hphase hremaining hchunk =>
    refine h.set htaken ?_
    rintro _ _ _ _ _ ⟨⟩
    obtain ⟨hread, hfetched, hseen⟩ := h i attempt base manifest remaining items hphase
    have hbased := hinv i
    unfold PhaseInv at hbased
    rw [hphase] at hbased
    -- Nothing was written since the manifest was fetched, so the chunk comes from the same state.
    have hsame : w.server = base := by
      obtain ⟨key, rest, rfl⟩ := List.exists_cons_of_ne_nil hremaining
      simp only [fetchesUnchanged, hphase] at hguard
      exact hbased.1.newer.eq_of_version_eq hguard
    rw [hsame] at hchunk
    exact ⟨hread, hfetched.chunk hchunk, hseen.step (by rw [hphase]; exact nofun) htaken⟩
  | mutate i attempt base manifest items draws manifestNonce hphase hnonce hfresh =>
    exact h.set htaken fun _ _ _ _ _ hfetching => absurd hfetching phase_prepareWrite
  | accept i attempt base server built result hphase hwrite hres =>
    exact h.set htaken fun _ _ _ _ _ hfetching => nomatch hfetching
  | conflict i attempt base built hphase =>
    refine h.set htaken ?_
    intro _ _ _ _ _ hfetching
    split at hfetching <;> cases hfetching
  | fail i err herr => exact h.set htaken fun _ _ _ _ _ hfetching => nomatch hfetching

inductive Finishes (c : Crypto ρ) (storageKey : Bytes) (w : World ι ρ) (i : ι) (device : Device ρ) : Prop
  | decides {attempt : ℕ} {base : Server} {manifest : ManifestRecord} {items : List StorageItem}
      {draws : Nat → Draw} {manifestNonce : Bytes}
      (hphase : (w.devices i).phase = .fetching attempt base manifest [] items)
      (hdevice : device =
        prepareWrite c storageKey (w.devices i) attempt base manifest items draws manifestNonce)
  | writes {attempt : ℕ} {base server : Server} {built : BuiltStorageWrite ρ}
      (hphase : (w.devices i).phase = .writing attempt base built)
      (hwrite : w.server.write built.op = some server)
      (hresult : device.result = .ok (some built) ∨ ∃ text, device.result = .error (.request text))
  | fails {err : StorageError} (herr : ∀ text, err ≠ .mutate text) (hresult : device.result = .error err)

theorem finishes_of_step (h : Step c storageKey w event w') (hbusy : (w.devices i).phase ≠ .idle)
    (hidle : (w'.devices i).phase = .idle) : Finishes c storageKey w i (w'.devices i) := by
  -- The other devices do not come to an end in this step.
  have hself {w : World ι ρ} {j : ι} {device : Device ρ} (hbusy : (w.devices i).phase ≠ .idle)
      (hidle : ((w.set j device).devices i).phase = .idle) : i = j := by
    by_contra hne
    rw [devices_set_of_ne _ _ hne] at hidle
    exact hbusy hidle
  cases h with
  | start j call hphase =>
    obtain rfl := hself hbusy hidle
    exact absurd hphase hbusy
  | fetchManifest j attempt manifest order keys hphase hatt hman hord hkeys
  | fetchRecords j attempt base manifest remaining items chunk hphase hremaining hchunk =>
    obtain rfl := hself hbusy hidle
    rw [devices_set_self] at hidle
    cases hidle
  | mutate j attempt base manifest items draws manifestNonce hphase hnonce hfresh =>
    obtain rfl := hself hbusy hidle
    rw [devices_set_self]
    exact .decides hphase rfl
  | accept j attempt base server built result hphase hwrite hres =>
    obtain rfl := hself (w := { w with server := server }) hbusy hidle
    rw [devices_set_self]
    exact .writes hphase hwrite hres
  | conflict j attempt base built hphase =>
    obtain rfl := hself hbusy hidle
    rw [devices_set_self] at hidle ⊢
    split at hidle
    · cases hidle
    · rename_i hatt
      rw [if_neg hatt]
      exact .fails (fun _ => StorageError.noConfusion) rfl
  | fail j err herr =>
    obtain rfl := hself hbusy hidle
    rw [devices_set_self]
    exact .fails herr rfl

variable {text : String}

theorem encryptStorageBlob_ne_mutate {key nonce plaintext : Bytes} :
    encryptStorageBlob c key nonce plaintext ≠ .error (.mutate text) := by
  unfold encryptStorageBlob
  split <;> exact nofun

theorem buildEdit_ne_mutate {recordIKM : Bytes} {st : BuildState ρ} {edit : StorageEdit ρ} :
    buildEdit c storageKey recordIKM draws st edit ≠ .error (.mutate text) := by
  unfold buildEdit encryptStorageRecord
  split
  · exact nofun
  split
  · exact nofun
  dsimp only
  split
  · exact nofun
  split
  · rename_i hrec
    rintro ⟨⟩
    split at hrec
    · cases hrec
    · exact encryptStorageBlob_ne_mutate hrec
  · exact nofun

theorem buildStorageWrite_ne_mutate {sourceDevice : UInt32} {edits : List (StorageEdit ρ)} :
    buildStorageWrite c storageKey manifest sourceDevice edits draws manifestNonce ≠ .error (.mutate text) := by
  have hedits : ∀ (edits : List (StorageEdit ρ)) st,
      edits.foldlM (buildEdit c storageKey manifest.recordIkm draws) st ≠ .error (.mutate text) := by
    intro edits
    induction edits with
    | nil => exact fun _ => nofun
    | cons edit rest ih =>
      intro st
      rw [List.foldlM_cons]
      cases hedit : buildEdit c storageKey manifest.recordIkm draws st edit with
      | error err =>
        rintro ⟨⟩
        exact buildEdit_ne_mutate hedit
      | ok st' => exact ih st'
  unfold buildStorageWrite encryptStorageManifest
  split
  · exact nofun
  split
  · rename_i hfold
    rintro ⟨⟩
    exact hedits _ _ hfold
  · dsimp only
    split
    · rename_i hman
      rintro ⟨⟩
      split at hman
      · cases hman
      · exact encryptStorageBlob_ne_mutate (eq_error_of_map hman)
    · exact nofun

theorem reported_of_prepareWrite {attempt : ℕ} {base : Server} {items : List StorageItem}
    (hidle : (prepareWrite c storageKey device attempt base manifest items draws manifestNonce).phase = .idle)
    (h : (prepareWrite c storageKey device attempt base manifest items draws manifestNonce).result = .error (.mutate
      text)) :
    device.call.mutate ⟨manifest, decryptStorageItems c storageKey manifest.recordIkm
      (wantedIDs manifest device.call.wanted) items⟩ = .error text := by
  simp only [prepareWrite] at h hidle
  split at h
  · rename_i text' hmut
    obtain rfl := StorageError.mutate.inj (Except.error.inj h)
    exact hmut
  · rename_i edits hmut
    simp only [hmut] at hidle
    split at h
    · cases h
    rename_i hedits
    rw [if_neg hedits] at hidle
    split at h
    · rename_i err hbuild
      cases h
      exact absurd hbuild buildStorageWrite_ne_mutate
    · rename_i built hbuild
      rw [hbuild] at hidle
      cases hidle

theorem reported_of_run {events : List (Event ι)} (hinit : ∀ j, (w₀.devices j).phase = .idle)
    (hrun : Run (Guarded fetchesUnchanged (Step c storageKey)) w₀ events w) (hbusy : (w.devices i).phase ≠ .idle)
    (hstep : Step c storageKey w event w') (hidle : (w'.devices i).phase = .idle)
    (hres : (w'.devices i).result = .error (.mutate text)) :
    ∃ server manifest records, SeenBy c storageKey w₀ i w server ∧
      decryptStorageManifest c storageKey server.manifest = .ok manifest ∧
      SnapshotOf c storageKey (w.devices i).call.wanted server manifest records ∧
      (w.devices i).call.mutate ⟨manifest, records⟩ = .error text := by
  obtain ⟨-, -, hfetch⟩ := hrun.invariant
    (I := fun w => (∃ events, Run (Step c storageKey) w₀ events w) ∧ WorldInv c storageKey w ∧
      FetchInv c storageKey w₀ w)
    (fun t a u ⟨⟨events, hrun⟩, hinv, hfetch⟩ hguarded => ⟨⟨_, hrun.snoc hguarded.2⟩,
      worldInv_step hinv hguarded.2, fetchInv_step hrun hinv hfetch hguarded⟩)
    ⟨⟨[], .refl _⟩, fun j => by simp [PhaseInv, hinit j], fun j _ _ _ _ _ hphase => by simp [hinit j] at hphase⟩
  cases finishes_of_step hstep hbusy hidle with
  | decides hphase hdev =>
    rw [hdev] at hidle hres
    obtain ⟨hread, hfetched, hseen⟩ := hfetch i _ _ _ _ _ hphase
    exact ⟨_, _, _, hseen, hread, hfetched.snapshot, reported_of_prepareWrite hidle hres⟩
  | writes hphase hwrite hanswer =>
    rcases hanswer with hok | ⟨text', herror⟩
    · exact nomatch hok.symm.trans hres
    · exact nomatch herror.symm.trans hres
  | fails herr herror => exact absurd (Except.error.inj (herror.symm.trans hres)) (herr text)

end Reading

section Reports

variable {env : Env} {snapshot : StorageSnapshot StorageRecord} {chat : ChatRef} {change : ChatSettingsChange}
  {text : String}

variable {contactRecord : Option ContactRecord}

theorem newPinEntry_error {existing : List PinnedConversation}
    (h : newPinEntry chat contactRecord existing = .error text) : text = "can't pin group without its master key" := by
  unfold newPinEntry at h
  split at h
  · split at h
    · split at h
      · cases h
      · exact (Except.error.inj h).symm
    · exact (Except.error.inj h).symm
  · cases h

theorem applyPinChange_error {record : StorageRecord} {pinned : Bool}
    (h : applyPinChange env record chat pinned contactRecord = .error text) :
    text ≠ errNoStorageRecord ∧ text ≠ errNoAccountRecord := by
  unfold applyPinChange at h
  split at h
  · simp only at h
    split at h
    · cases h
    · split at h
      · split at h
        · cases h
          decide
        · cases newPinEntry_error (eq_error_of_map h)
          decide
      · cases h
  · cases h
    decide

theorem applyChatSettingsChange_error (h : applyChatSettingsChange env snapshot chat change = .error text) :
    (text = errNoStorageRecord → change.needsChatRecord = true ∧ findChatRecord env snapshot chat = none) ∧
      (text = errNoAccountRecord → change.pinned.isSome = true ∧ findAccountRecord snapshot = none) := by
  unfold applyChatSettingsChange at h
  split at h
  · rename_i text' hedits
    cases h
    unfold chatEdits at hedits
    split at hedits
    · rename_i hneeds
      split at hedits
      · rename_i hnone
        cases hedits
        exact ⟨fun _ => ⟨hneeds, hnone⟩, nofun⟩
      · split at hedits <;> cases hedits
    · cases hedits
  · have hpin := eq_error_of_map h
    unfold pinEdits at hpin
    split at hpin
    · cases hpin
    · rename_i pinned hpinned
      split at hpin
      · rename_i hnone
        cases hpin
        exact ⟨nofun, fun _ => ⟨by rw [hpinned]; rfl, hnone⟩⟩
      · obtain ⟨hchat, hacct⟩ := applyPinChange_error (eq_error_of_map hpin)
        exact ⟨fun htext => absurd htext hchat, fun htext => absurd htext hacct⟩

end Reports

def ChatRef.recordType (chat : ChatRef) : ItemType :=
  if chat.groupID ≠ "" then .groupV2 else .contact

theorem recordType_mem_wanted {change : ChatSettingsChange} (chat : ChatRef)
    (h : change.needsChatRecord = true) : chat.recordType ∈ change.wantedRecordTypes chat := by
  simp [ChatSettingsChange.wantedRecordTypes, ChatRef.recordType, h]

theorem account_mem_wanted {change : ChatSettingsChange} (chat : ChatRef) (h : change.pinned.isSome = true) :
    .account ∈ change.wantedRecordTypes chat := by
  simp [ChatSettingsChange.wantedRecordTypes, h]

-- Where no write comes between the two requests of a read, UpdateChatSettings reports a missing record only
-- if at some moment of the call the service did not hold one.
theorem no_record_reported_only_if_none {ι : Type} [DecidableEq ι] (env : Env) (c : Crypto StorageRecord)
    (storageKey : Bytes) {w₀ w w' : World ι StorageRecord} {events : List (Event ι)} {event : Event ι} {i : ι}
    {sourceDevice : UInt32} {chat : ChatRef} {change : ChatSettingsChange}
    (hinit : ∀ j, (w₀.devices j).phase = .idle)
    (hrun : Run (Guarded fetchesUnchanged (Step c storageKey)) w₀ events w)
    (hcall : (w.devices i).call = settingsCall env sourceDevice chat change)
    (hbusy : (w.devices i).phase ≠ .idle) (hstep : Step c storageKey w event w')
    (hidle : (w'.devices i).phase = .idle) :
    ((w'.devices i).result = .error (.mutate errNoStorageRecord) →
      ∃ server, SeenBy c storageKey w₀ i w server ∧
        ¬ server.Holds c storageKey chat.recordType fun record => recordMatchesChat env record chat) ∧
    ((w'.devices i).result = .error (.mutate errNoAccountRecord) →
      ∃ server, SeenBy c storageKey w₀ i w server ∧
        ¬ server.Holds c storageKey .account fun record => record.account?.isSome) := by
  refine ⟨fun hres => ?_, fun hres => ?_⟩
  · obtain ⟨server, manifest, records, hseen, hread, hsnap, hreport⟩ :=
      reported_of_run hinit hrun hbusy hstep hidle hres
    rw [hcall] at hsnap hreport
    obtain ⟨hneeds, hnone⟩ := (applyChatSettingsChange_error hreport).1 rfl
    refine ⟨server, hseen, hsnap.not_holds hread (recordType_mem_wanted chat hneeds) fun r hr => ?_⟩
    exact Bool.eq_false_iff.mpr (List.find?_eq_none.mp hnone r hr)
  · obtain ⟨server, manifest, records, hseen, hread, hsnap, hreport⟩ :=
      reported_of_run hinit hrun hbusy hstep hidle hres
    rw [hcall] at hsnap hreport
    obtain ⟨hpin, hnone⟩ := (applyChatSettingsChange_error hreport).2 rfl
    refine ⟨server, hseen, hsnap.not_holds hread (account_mem_wanted chat hpin) fun r hr => ?_⟩
    exact Bool.eq_false_iff.mpr (List.find?_eq_none.mp hnone r hr)

-- An account with one contact, whose chat a phone archives. The ciphertexts and keys are again those of
-- HMAC-SHA256 and AES-256-GCM, the plaintexts those of protobuf.
section Sample

variable {w : World Bool StorageRecord} {i : Bool}

def hexValue (digit : UInt8) : UInt8 := if digit < 58 then digit - 48 else digit - 87

def hexBytes : Bytes → Bytes
  | high :: low :: rest => (16 * hexValue high + hexValue low) :: hexBytes rest
  | _ => []

-- uuid.Parse on the usual form with lower case digits.
def parseHexUUID (text : Bytes) : UUID × Bool :=
  let bytes := hexBytes (text.filter (· ≠ 45))
  if h : bytes.length = 16 then (⟨bytes, h⟩, true) else (UUID.nil, false)

def chatEnv : Env := { workingEnv {} {} with parseUUID := parseHexUUID }

def chatContact : ContactRecord :=
  { aciBinary := some (UUID.ofByte 5).bytes, pniBinary := some (UUID.ofByte 7).bytes }

def chatRecord : StorageRecord := .contact chatContact
def archivedRecord : StorageRecord := .contact { chatContact with archived := true }

def chatIDBytes : Bytes := [202, 1, 16] ++ (UUID.ofByte 5).bytes ++ [210, 1, 16] ++ (UUID.ofByte 7).bytes

def chatSealed : Bytes :=
  [199, 88, 211, 185, 58, 80, 90, 38, 75, 228, 117, 220, 157, 56, 19, 12, 9, 97, 207, 144, 21, 121, 22, 178, 231, 222,
    227, 74, 139, 35, 10, 7, 120, 123, 205, 137, 49, 232, 169, 93, 15, 6, 235, 244, 228, 95, 7, 0, 247, 88, 26, 66, 104,
    147, 136, 195]

def archivedSealed : Bytes :=
  [185, 18, 168, 49, 151, 227, 198, 130, 147, 252, 14, 108, 187, 135, 138, 91, 12, 20, 225, 31, 69, 137, 223, 55, 236,
    204, 191, 70, 226, 107, 229, 220, 114, 99, 64, 143, 121, 254, 153, 165, 28, 15, 1, 52, 56, 115, 76, 45, 112, 61,
    121, 152, 120, 201, 43, 218, 123, 107]

def chatCrypto : Crypto StorageRecord :=
  tableCrypto [(chatRecord, [10, 38] ++ chatIDBytes), (archivedRecord, [10, 40, 88, 1] ++ chatIDBytes)]
    (sealWith "Item_BwcHBwcHBwcHBwcHBwcHBw==" 3 ([10, 38] ++ chatIDBytes) chatSealed ::
      sealWith "Item_CQkJCQkJCQkJCQkJCQkJCQ==" 5 ([10, 40, 88, 1] ++ chatIDBytes) archivedSealed :: manifestSeals)
    (by decide) (by decide +kernel)

def chatItem : StorageItem := ⟨sampleID, List.replicate 12 3 ++ chatSealed⟩

def chatServer : Server where
  manifest := sampleServer.manifest
  items key := if key = sampleID then some chatItem.value else none

def contactChat : ChatRef := { serviceID := newACIServiceID (UUID.ofByte 5) }
def numberChat : ChatRef := { serviceID := newPNIServiceID (UUID.ofByte 7) }
def unknownChat : ChatRef := { serviceID := newACIServiceID (UUID.ofByte 6) }

def archiveCall (chat : ChatRef) : Call StorageRecord :=
  settingsCall chatEnv 2 chat { archived := some true }

def unreadCall (chat : ChatRef) : Call StorageRecord :=
  settingsCall chatEnv 3 chat { markedUnread := some true }

def archiveWrite : BuiltStorageWrite StorageRecord := sampleWriteOf archivedRecord archivedSealed

def archivedServer : Server := (chatServer.write archiveWrite.op).getD chatServer

-- A phone and the bridge, both idle.
def chatWorld : World Bool StorageRecord := ⟨chatServer, fun _ => { call := archiveCall contactChat }⟩

theorem chat_build : buildStorageWrite chatCrypto sampleKey sampleManifest 2
    [⟨encodeToString sampleID, archivedRecord⟩] (fun _ => sampleDraw) (List.replicate 12 4) = .ok archiveWrite := by
  decide +kernel

theorem chat_readManifest : decryptStorageManifest chatCrypto sampleKey chatServer.manifest = .ok sampleManifest := by
  decide +kernel

def chatAsking : Phase StorageRecord := .fetching 0 chatServer sampleManifest [sampleID] []
def chatAsked (items : List StorageItem) : Phase StorageRecord := .fetching 0 chatServer sampleManifest [] items

-- What the edit function of a call gets after these items were fetched.
def chatSnapshot (call : Call StorageRecord) (items : List StorageItem) : StorageSnapshot StorageRecord where
  manifest := sampleManifest
  records := decryptStorageItems chatCrypto sampleKey sampleManifest.recordIkm (wantedIDs sampleManifest call.wanted) items

theorem chat_reports {items : List StorageItem} {chat : ChatRef}
    (hreport : (unreadCall chat).mutate (chatSnapshot (unreadCall chat) items) = .error errNoStorageRecord) :
    Step chatCrypto sampleKey (w.put i (unreadCall chat) (chatAsked items)) (.progress i)
      (w.set i ⟨unreadCall chat, .idle, .error (.mutate errNoStorageRecord)⟩) := by
  unfold chatSnapshot at hreport
  have hstep : Step chatCrypto sampleKey _ (.progress i) _ :=
    .mutate (w.put i (unreadCall chat) (chatAsked items)) i 0 chatServer sampleManifest items (fun _ => sampleDraw)
      (List.replicate 12 4) (by rw [devices_put]; rfl) rfl fun edits hedits => by
        rw [devices_put, hreport] at hedits
        cases hedits
  rw [set_put, devices_put] at hstep
  simp only [prepareWrite, hreport] at hstep
  exact hstep

theorem chat_edits {chat : ChatRef} (h : chat = contactChat ∨ chat = numberChat) :
    (archiveCall chat).mutate (chatSnapshot (archiveCall chat) [chatItem]) =
      .ok [⟨encodeToString sampleID, archivedRecord⟩] := by
  rcases h with rfl | rfl <;> decide +kernel

theorem archive_run {P : Server → Prop} (hP : P chatServer) {chat : ChatRef}
    (hchat : chat = contactChat ∨ chat = numberChat) (hsrv : w.server = chatServer)
    (hidle : (w.devices i).phase = .idle) :
    ∃ events, Run (Guarded (fun w _ => P w.server) (Step chatCrypto sampleKey)) w events
      (w.put i (archiveCall chat) (.writing 0 chatServer archiveWrite)) := by
  rw [← hsrv] at hP ⊢
  have hval : w.server.items sampleID = some chatItem.value := by
    rw [hsrv]
    rfl
  refine sample_run (archiveCall chat) hP hidle ?_ hval ?_ ?_ rfl (chat_edits hchat) chat_build
  · rw [hsrv, chat_readManifest]
  · rw [hsrv]
    rfl
  · rcases hchat with rfl | rfl <;> rfl

theorem chat_write : chatServer.write archiveWrite.op = some archivedServer :=
  if_pos rfl

end Sample

theorem no_record_reported_only_if_none_unknown :
    ∃ w₀ w w' : World Bool StorageRecord, ∃ events event,
      Run (Guarded fetchesUnchanged (Step chatCrypto sampleKey)) w₀ events w ∧
      Step chatCrypto sampleKey w event w' ∧
      (w'.devices true).result = .error (.mutate errNoStorageRecord) ∧
      ∃ server, SeenBy chatCrypto sampleKey w₀ true w server ∧
        ¬ server.Holds chatCrypto sampleKey .contact fun record =>
          recordMatchesChat chatEnv record unknownChat := by
  have hreport : (unreadCall unknownChat).mutate (chatSnapshot (unreadCall unknownChat) [chatItem]) =
      .error errNoStorageRecord := by
    decide +kernel
  let w₁ := chatWorld.put true (unreadCall unknownChat) (.ready 0)
  let w₂ := chatWorld.put true (unreadCall unknownChat) chatAsking
  let w₃ := chatWorld.put true (unreadCall unknownChat) (chatAsked [chatItem])
  have hstart : Step chatCrypto sampleKey chatWorld (.progress true) w₁ := .start _ true _ rfl
  have hask : Step chatCrypto sampleKey w₁ (.progress true) w₂ := sample_asks chat_readManifest rfl
  have hfetch : Step chatCrypto sampleKey w₂ (.progress true) w₃ := by
    refine sample_fetches (fun item hmem => ?_) ?_
    · rw [List.mem_singleton.mp hmem]
      rfl
    · rintro value ⟨⟩
      exact List.mem_singleton_self _
  have hfinish : Step chatCrypto sampleKey w₃ (.progress true) _ := chat_reports hreport
  have hquiet : fetchesUnchanged chatWorld (.progress true) ∧ fetchesUnchanged w₁ (.progress true) ∧
      fetchesUnchanged w₂ (.progress true) := ⟨trivial, trivial, rfl⟩
  have hrun : Run (Guarded fetchesUnchanged (Step chatCrypto sampleKey)) chatWorld _ w₃ :=
    .cons ⟨hquiet.1, hstart⟩ (.cons ⟨hquiet.2.1, hask⟩ (.single ⟨hquiet.2.2, hfetch⟩))
  have hcall : (w₃.devices true).call = settingsCall chatEnv 3 unknownChat { markedUnread := some true } := rfl
  have hbusy : (w₃.devices true).phase ≠ .idle := by
    exact nofun
  refine ⟨chatWorld, w₃, _, _, _, hrun, hfinish, rfl, ?_⟩
  exact (no_record_reported_only_if_none chatEnv chatCrypto sampleKey (fun _ => rfl) hrun hcall hbusy hfinish rfl).1 rfl

-- The phone replaces the record between the two requests of the bridge, so that the service holds one for the
-- chat all along.
theorem replaced_record_reported_missing :
    ∃ w₀ w w' : World Bool StorageRecord, ∃ events event,
      (∀ j, (w₀.devices j).phase = .idle) ∧
      Run (Guarded (fun w _ => w.server.Holds chatCrypto sampleKey .contact fun record =>
        recordMatchesChat chatEnv record contactChat) (Step chatCrypto sampleKey)) w₀ events w ∧
      Step chatCrypto sampleKey w event w' ∧
      (w.server.Holds chatCrypto sampleKey .contact fun record => recordMatchesChat chatEnv record contactChat) ∧
      (w.devices true).call = settingsCall chatEnv 3 contactChat { markedUnread := some true } ∧
      (w'.devices true).phase = .idle ∧
      (w'.devices true).result = .error (.mutate errNoStorageRecord) := by
  have hreport : (unreadCall contactChat).mutate (chatSnapshot (unreadCall contactChat) []) =
      .error errNoStorageRecord := by
    decide +kernel
  have hbef : chatServer.Holds chatCrypto sampleKey .contact (recordMatchesChat chatEnv · contactChat) :=
    ⟨sampleManifest, chat_readManifest, ⟨sampleID, .contact⟩, by decide, rfl, chatItem.value, chatRecord, rfl,
      by decide +kernel, by decide +kernel⟩
  have hafter : archivedServer.Holds chatCrypto sampleKey .contact (recordMatchesChat chatEnv · contactChat) :=
    ⟨editedManifest, by decide +kernel, ⟨sampleDraw.id, .contact⟩, by decide, rfl, sampleDraw.nonce ++ archivedSealed,
      archivedRecord, by decide +kernel, by decide +kernel, by decide +kernel⟩
  let w₁ := chatWorld.put true (unreadCall contactChat) (.ready 0)
  let w₂ := chatWorld.put true (unreadCall contactChat) chatAsking
  have hstart : Step chatCrypto sampleKey chatWorld (.progress true) w₁ := .start _ true _ rfl
  have hask : Step chatCrypto sampleKey w₁ (.progress true) w₂ := sample_asks chat_readManifest rfl
  obtain ⟨events, hphone⟩ := archive_run (w := w₂) (i := false) (P := fun server => server.Holds chatCrypto sampleKey
    .contact (recordMatchesChat chatEnv · contactChat)) hbef (.inl rfl) rfl rfl
  let w₃ := { w₂ with server := archivedServer }.set false ⟨archiveCall contactChat, .idle, .ok (some archiveWrite)⟩
  have haccept : Step chatCrypto sampleKey (w₂.put false (archiveCall contactChat) (.writing 0 chatServer archiveWrite))
      (.accepted false) w₃ := sample_accepts chat_write
  have hfetch : Step chatCrypto sampleKey w₃ (.progress true) (w₃.put true (unreadCall contactChat) (chatAsked [])) := by
    have hasking : w₃.put true (unreadCall contactChat) chatAsking = w₃ :=
      congrArg (mk archivedServer) (funext (Bool.rec rfl rfl))
    have hgone : archivedServer.items sampleID = none := by decide +kernel
    have hstep : Step chatCrypto sampleKey (w₃.put true (unreadCall contactChat) chatAsking) (.progress true)
        (w₃.put true (unreadCall contactChat) (chatAsked [])) :=
      sample_fetches (fun _ hmem => nomatch hmem) fun value hval => nomatch hgone.symm.trans hval
    rwa [hasking] at hstep
  have hfinish : Step chatCrypto sampleKey (w₃.put true (unreadCall contactChat) (chatAsked [])) (.progress true) _ :=
    chat_reports hreport
  have hrun := hphone.trans (.cons ⟨hbef, haccept⟩ (.single ⟨hafter, hfetch⟩))
  exact ⟨chatWorld, _, _, _, _, fun _ => rfl, .cons ⟨hbef, hstart⟩ (.cons ⟨hbef, hask⟩ hrun), hfinish, hafter, rfl, rfl,
    rfl⟩

end MautrixSignal.Storage
