import MautrixSignal.Attachments.Equivalence
import MautrixSignal.Receive.Contacts

namespace MautrixSignal.Receive

open Lib

variable {env : Env} {s t : State} {index : Nat} {body key bytes : Bytes} {plaintext avatar : Option Bytes}
  {blob : AttachmentPointer} {contacts : List (ContactDetails × Option Bytes)} {contact : ContactDetails}

def hostOf (cdnNumber : UInt32) : String := (cdnHosts[cdnNumber.toNat]?).getD cdn1Hostname

theorem cdnHost_of_lt (h : index < cdnHosts.length) : cdnHost index = pure ((cdnHosts[index]?).getD cdn1Hostname) := by
  unfold cdnHost
  rw [List.getElem?_eq_getElem h]
  rfl

theorem attachmentHost_eq_throw {cdnNumber : UInt32} (h : cdnNumber.toNat = cdnHosts.length) :
    attachmentHost cdnNumber = throw .indexOutOfRange := by
  unfold attachmentHost
  rw [if_neg (by omega), h]
  rfl

theorem attachmentHost_eq_pure {cdnNumber : UInt32} (h : cdnNumber.toNat ≠ cdnHosts.length) :
    attachmentHost cdnNumber = pure (hostOf cdnNumber) := by
  unfold attachmentHost hostOf
  have hpos : 0 < cdnHosts.length := by decide
  rcases Nat.lt_or_gt_of_ne h with hlt | hgt
  · rw [if_neg (by omega), cdnHost_of_lt hlt, pure_bind]
    by_cases hzero : cdnNumber = 0
    · subst hzero
      rfl
    · rw [if_neg hzero, if_pos (by omega)]
  · have hne : cdnNumber ≠ 0 := by
      rintro rfl
      exact absurd hgt (by decide)
    have hnone := List.getElem?_eq_none (Nat.le_of_lt hgt)
    rw [if_pos hgt, pure_bind, if_neg hne, if_neg (by omega), cdnHost_of_lt hpos, hnone]
    rfl

def fetched (env : Env) (blob : AttachmentPointer) : Fetch :=
  env.getAttachment (hostOf blob.cdnNumber) (attachmentPath blob.cdnID blob.cdnKey)

def attachmentPlaintext (env : Env) (blob : AttachmentPointer) : Option Bytes :=
  match fetched env blob with
  | .body body =>
    (Attachments.decryptAttachment env.crypto body blob.key (blob.digest.getD []) false blob.size).toOption
  | _ => none

def DownloadCrashes (env : Env) (blob : AttachmentPointer) : Prop :=
  blob.cdnNumber.toNat = cdnHosts.length ∨ fetched env blob = .lengthOutOfRange ∨
    ∃ body, fetched env blob = .body body ∧ env.sha256 body = blob.digest.getD [] ∧
      blob.key.length = 64 ∧ body.length < Attachments.macLength

theorem faults_decryptAttachment {digest : Bytes} {size : UInt32} :
    Faults (decryptAttachment env body key digest false size) s ↔
      env.sha256 body = digest ∧ key.length = 64 ∧ body.length < Attachments.macLength := by
  have hpanic : ∀ panic, Attachments.decryptAttachment env.crypto body key digest false size =
      .error (.panic panic) ↔ _ :=
    fun panic => Attachments.decryptAttachment_panic
  have hsafe : (∀ panic, Attachments.decryptAttachment env.crypto body key digest false size ≠
      .error (.panic panic)) →
      ¬ (env.sha256 body = digest ∧ key.length = 64 ∧ body.length < Attachments.macLength) := by
    rintro hnever ⟨hdig, hkey, hbody⟩
    exact hnever .sliceBounds ((hpanic _).mpr ⟨fun _ => hdig, hkey, hbody, rfl⟩)
  unfold decryptAttachment
  split
  · rename_i hres
    exact iff_of_false faults_pure (hsafe fun _ h => nomatch hres.symm.trans h)
  · rename_i panic hres
    obtain ⟨hdig, hkey, hbody, -⟩ := (hpanic panic).mp hres
    exact iff_of_true faults_throw ⟨hdig rfl, hkey, hbody⟩
  · rename_i hother hres
    exact iff_of_false faults_pure (hsafe fun panic h => hother panic (Except.error.inj (hres.symm.trans h)))

theorem returns_decryptAttachment {digest : Bytes} {size : UInt32}
    (h : Returns (decryptAttachment env body key digest false size) s plaintext t) :
    t = s ∧ plaintext = (Attachments.decryptAttachment env.crypto body key digest false size).toOption := by
  unfold decryptAttachment at h
  split at h
  · rename_i hres
    obtain ⟨rfl, rfl⟩ := returns_pure.mp h
    rw [hres]
    exact ⟨rfl, rfl⟩
  · exact absurd h returns_throw
  · rename_i hres
    obtain ⟨rfl, rfl⟩ := returns_pure.mp h
    rw [hres]
    exact ⟨rfl, rfl⟩

theorem download_eq (h : blob.cdnNumber.toNat ≠ cdnHosts.length) :
    downloadAttachmentWithPointer env blob none =
      match fetched env blob with
      | .failed => pure none
      | .lengthOutOfRange => throw .makeSliceLength
      | .body body => decryptAttachment env body blob.key (blob.digest.getD []) false blob.size := by
  unfold downloadAttachmentWithPointer fetched
  rw [attachmentHost_eq_pure h, pure_bind]
  cases env.getAttachment (hostOf blob.cdnNumber) (attachmentPath blob.cdnID blob.cdnKey) with
  | failed => rfl
  | lengthOutOfRange => rfl
  | body body => cases blob.digest <;> rfl

theorem faults_downloadAttachmentWithPointer :
    Faults (downloadAttachmentWithPointer env blob none) s ↔ DownloadCrashes env blob := by
  unfold DownloadCrashes
  by_cases h : blob.cdnNumber.toNat = cdnHosts.length
  · rw [downloadAttachmentWithPointer, attachmentHost_eq_throw h]
    simp [h]
  · rw [download_eq h]
    cases hf : fetched env blob <;> simp [h, faults_decryptAttachment]

theorem returns_downloadAttachmentWithPointer
    (h : Returns (downloadAttachmentWithPointer env blob none) s plaintext t) :
    t = s ∧ plaintext = attachmentPlaintext env blob := by
  have hcdn : blob.cdnNumber.toNat ≠ cdnHosts.length := fun hcdn =>
    not_faults_of_returns h (faults_downloadAttachmentWithPointer.mpr (.inl hcdn))
  rw [download_eq hcdn] at h
  unfold attachmentPlaintext
  cases hf : fetched env blob with
  | failed =>
    rw [hf] at h
    obtain ⟨rfl, rfl⟩ := returns_pure.mp h
    exact ⟨rfl, rfl⟩
  | lengthOutOfRange =>
    rw [hf] at h
    exact absurd h returns_throw
  | body body =>
    rw [hf] at h
    exact returns_decryptAttachment h

inductive Frames (env : Env) : Bytes → List (ContactDetails × Option Bytes) → Bytes → Prop
  | nil (bytes : Bytes) : Frames env bytes [] bytes
  | cons {bytes buf rest : Bytes} {msgLen : Nat} {contact : ContactDetails}
      {contacts : List (ContactDetails × Option Bytes)} :
      readUvarint bytes = some (msgLen, buf) → buf ≠ [] → msgLen < 2 ^ 63 →
      env.unmarshalContactDetails (buf.take msgLen) = some contact →
      Frames env ((buf.drop msgLen).drop ((avatarLength contact).getD 0)) contacts rest →
      Frames env bytes
        ((contact, (avatarLength contact).map fun length => (buf.drop msgLen).take length) :: contacts) rest

-- After some contacts comes a length that is negative as an int, and something after it.
def StreamCrashes (env : Env) (bytes : Bytes) : Prop :=
  ∃ contacts rest msgLen buf, Frames env bytes contacts rest ∧
    readUvarint rest = some (msgLen, buf) ∧ buf ≠ [] ∧ 2 ^ 63 ≤ msgLen

-- The stream ends after the contacts, or after a length that nothing follows.
def StreamOf (env : Env) (bytes : Bytes) (contacts : List (ContactDetails × Option Bytes)) : Prop :=
  ∃ rest, Frames env bytes contacts rest ∧ (rest = [] ∨ ∃ msgLen, readUvarint rest = some (msgLen, []))

theorem streamCrashes_iff :
    StreamCrashes env bytes ↔ ∃ msgLen buf, readUvarint bytes = some (msgLen, buf) ∧ buf ≠ [] ∧
      (2 ^ 63 ≤ msgLen ∨ msgLen < 2 ^ 63 ∧ ∃ contact,
        env.unmarshalContactDetails (buf.take msgLen) = some contact ∧
          StreamCrashes env ((buf.drop msgLen).drop ((avatarLength contact).getD 0))) := by
  constructor
  · rintro ⟨contacts, rest, msgLen, buf, hframes, hread, hbuf, hlen⟩
    cases hframes with
    | nil => exact ⟨msgLen, buf, hread, hbuf, .inl hlen⟩
    | cons hread' hbuf' hlen' hcontact hframes =>
      exact ⟨_, _, hread', hbuf', .inr ⟨hlen', _, hcontact, _, _, _, _, hframes, hread, hbuf, hlen⟩⟩
  · rintro ⟨msgLen, buf, hread, hbuf, hlen | ⟨hlen, contact, hcontact, contacts, rest, _, _, hframes, h⟩⟩
    · exact ⟨[], bytes, msgLen, buf, .nil _, hread, hbuf, hlen⟩
    · exact ⟨_, rest, _, _, .cons hread hbuf hlen hcontact hframes, h⟩

theorem streamOf_iff :
    StreamOf env bytes contacts ↔
      (contacts = [] ∧ (bytes = [] ∨ ∃ msgLen, readUvarint bytes = some (msgLen, []))) ∨
      ∃ msgLen buf, readUvarint bytes = some (msgLen, buf) ∧ buf ≠ [] ∧ msgLen < 2 ^ 63 ∧
        ∃ contact others, env.unmarshalContactDetails (buf.take msgLen) = some contact ∧
          StreamOf env ((buf.drop msgLen).drop ((avatarLength contact).getD 0)) others ∧
          contacts =
            (contact, (avatarLength contact).map fun length => (buf.drop msgLen).take length) :: others := by
  constructor
  · rintro ⟨rest, hframes, hend⟩
    cases hframes with
    | nil => exact .inl ⟨rfl, hend⟩
    | cons hread hbuf hlen hcontact hframes =>
      exact .inr ⟨_, _, hread, hbuf, hlen, _, _, hcontact, ⟨rest, hframes, hend⟩, rfl⟩
  · rintro (⟨rfl, hend⟩ | ⟨msgLen, buf, hread, hbuf, hlen, contact, others, hcontact, ⟨rest, hframes, hend⟩, rfl⟩)
    · exact ⟨bytes, .nil _, hend⟩
    · exact ⟨rest, .cons hread hbuf hlen hcontact hframes, hend⟩

theorem faults_unmarshalContactDetailsMessages :
    Faults (unmarshalContactDetailsMessages env bytes) s ↔ StreamCrashes env bytes := by
  fun_induction unmarshalContactDetailsMessages env bytes with
  | case1 =>
    rw [streamCrashes_iff]
    simp [readUvarint, readUvarintFrom]
  | case2 bytes _ hread | case3 bytes _ msgLen hread =>
    rw [streamCrashes_iff]
    simp [hread]
  | case4 bytes _ msgLen buf hread hbuf hlen =>
    refine iff_of_true faults_throw (streamCrashes_iff.mpr ⟨msgLen, buf, hread, hbuf, .inl hlen⟩)
  | case5 bytes _ msgLen buf hread hbuf hlen hcontact =>
    rw [streamCrashes_iff]
    refine iff_of_false faults_pure ?_
    rintro ⟨_, _, hread', -, hlen' | ⟨-, _, hcontact', -⟩⟩
    · rw [hread] at hread'
      cases hread'
      exact hlen hlen'
    · rw [hread] at hread'
      cases hread'
      rw [hcontact] at hcontact'
      exact nomatch hcontact'
  | case6 bytes _ msgLen buf hread hbuf hlen contact hcontact avatar ih =>
    rw [streamCrashes_iff, faults_bind, ih]
    constructor
    · rintro (h | ⟨others, u, _, h⟩)
      · exact ⟨msgLen, buf, hread, hbuf, .inr ⟨Nat.not_le.mp hlen, contact, hcontact, h⟩⟩
      · cases others <;> exact absurd h faults_pure
    · rintro ⟨_, _, hread', -, hlen' | ⟨-, _, hcontact', h⟩⟩
      · rw [hread] at hread'
        cases hread'
        exact absurd hlen' hlen
      · rw [hread] at hread'
        cases hread'
        rw [hcontact] at hcontact'
        cases hcontact'
        exact .inl h

theorem returns_unmarshalContactDetailsMessages {result : Option (List (ContactDetails × Option Bytes))}
    (h : Returns (unmarshalContactDetailsMessages env bytes) s result t) :
    t = s ∧ ∀ contacts, result = some contacts ↔ StreamOf env bytes contacts := by
  fun_induction unmarshalContactDetailsMessages env bytes generalizing result t with
  | case1 =>
    obtain ⟨rfl, rfl⟩ := returns_pure.mp h
    refine ⟨rfl, fun contacts => ?_⟩
    rw [streamOf_iff]
    simp [readUvarint, readUvarintFrom]
  | case2 bytes hne hread =>
    obtain ⟨rfl, rfl⟩ := returns_pure.mp h
    refine ⟨rfl, fun contacts => ?_⟩
    rw [streamOf_iff]
    simp [hread, hne]
  | case3 bytes hne msgLen hread =>
    obtain ⟨rfl, rfl⟩ := returns_pure.mp h
    refine ⟨rfl, fun contacts => ?_⟩
    rw [streamOf_iff]
    simp [hread]
  | case4 bytes hne msgLen buf hread hbuf hlen => exact absurd h returns_throw
  | case5 bytes hne msgLen buf hread hbuf hlen hcontact =>
    obtain ⟨rfl, rfl⟩ := returns_pure.mp h
    refine ⟨rfl, fun contacts => ?_⟩
    rw [streamOf_iff]
    simp [hread, hne, hbuf, hcontact]
  | case6 bytes hne msgLen buf hread hbuf hlen contact hcontact =>
    rename_i avatar ih
    obtain ⟨others, u, hothers, h⟩ := returns_bind.mp h
    obtain ⟨rfl, hstream⟩ := ih hothers
    have hstep : ∀ contacts, StreamOf env bytes contacts ↔
        ∃ rest, others = some rest ∧ contacts = (contact, avatar) :: rest := by
      intro contacts
      rw [streamOf_iff]
      constructor
      · rintro (⟨-, hend⟩ | ⟨_, _, hread', -, -, _, rest, hcontact', hrest, rfl⟩)
        · simp [hread, hne, hbuf] at hend
        · rw [hread] at hread'
          cases hread'
          rw [hcontact] at hcontact'
          cases hcontact'
          exact ⟨rest, (hstream rest).mpr hrest, rfl⟩
      · rintro ⟨rest, hrest, rfl⟩
        exact .inr ⟨msgLen, buf, hread, hbuf, Nat.not_le.mp hlen, contact, rest, hcontact,
          (hstream rest).mp hrest, rfl⟩
    cases others with
    | none =>
      obtain ⟨rfl, rfl⟩ := returns_pure.mp h
      exact ⟨rfl, fun contacts => by simp [hstep]⟩
    | some rest =>
      obtain ⟨rfl, rfl⟩ := returns_pure.mp h
      exact ⟨rfl, fun contacts => by simp [hstep, eq_comm]⟩

def LacksContentType (contact : ContactDetails) (avatar : Option Bytes) : Prop :=
  ∃ b image details, avatar = some (b :: image) ∧ contact.avatar = some details ∧
    details.contentType = none

def contactACI (env : Env) (contact : ContactDetails) : Option UUID :=
  Parsed.toOption (parseStringOrBinaryUUID env contact.aci contact.aciBinary)

def Loaded (env : Env) (index : Nat) (contact : ContactDetails) : Prop :=
  ∃ aci, contactACI env contact = some aci ∧ env.succeeds (.loadContact aci index) = true

def Saved (env : Env) (index : Nat) (contact : ContactDetails) : Prop :=
  ∃ aci, contactACI env contact = some aci ∧ env.succeeds (.loadContact aci index) = true ∧
    env.succeeds (.saveContact aci index) = true

-- The loop over the contacts comes to one that lacks its content type.
inductive ContactsCrash (env : Env) : Nat → List (ContactDetails × Option Bytes) → Prop
  | here {index : Nat} {contact : ContactDetails} {avatar : Option Bytes}
      {rest : List (ContactDetails × Option Bytes)} :
      hasACI contact = true → Loaded env index contact → LacksContentType contact avatar →
      ContactsCrash env index ((contact, avatar) :: rest)
  | saved {index : Nat} {contact : ContactDetails} {avatar : Option Bytes}
      {rest : List (ContactDetails × Option Bytes)} :
      hasACI contact = true → Saved env index contact → ContactsCrash env (index + 1) rest →
      ContactsCrash env index ((contact, avatar) :: rest)
  | skipped {index : Nat} {contact : ContactDetails} {avatar : Option Bytes}
      {rest : List (ContactDetails × Option Bytes)} :
      hasACI contact = false → ContactsCrash env (index + 1) rest →
      ContactsCrash env index ((contact, avatar) :: rest)

theorem faults_contactAvatar : Faults (contactAvatar env contact avatar) s ↔ LacksContentType contact avatar := by
  unfold contactAvatar LacksContentType
  match avatar, hdet : contact.avatar with
  | none, _ => simp
  | some [], _ => simp
  | some (b :: image), none => simp
  | some (b :: image), some details =>
    cases hct : details.contentType with
    | none => simp [hct, wildcardSuffix]
    | some contentType => simp [hct]

theorem faults_storeContactDetailsAsContact :
    Faults (storeContactDetailsAsContact env index contact avatar) s ↔
      Loaded env index contact ∧ LacksContentType contact avatar := by
  unfold storeContactDetailsAsContact Loaded contactACI
  cases Parsed.toOption (parseStringOrBinaryUUID env contact.aci contact.aciBinary) with
  | none => simp
  | some aci => simp [faults_contactAvatar]

theorem Saved.loaded (h : Saved env index contact) : Loaded env index contact := by
  obtain ⟨aci, haci, hload, -⟩ := h
  exact ⟨aci, haci, hload⟩

theorem returns_storeContactDetailsAsContact_some :
    (∃ stored t, Returns (storeContactDetailsAsContact env index contact avatar) s (some stored) t) ↔
      Saved env index contact ∧ ¬ LacksContentType contact avatar := by
  constructor
  · rintro ⟨stored, t, h⟩
    have hsafe := not_faults_of_returns h
    rw [faults_storeContactDetailsAsContact] at hsafe
    suffices hsaved : Saved env index contact from ⟨hsaved, fun hlacks => hsafe ⟨hsaved.loaded, hlacks⟩⟩
    unfold storeContactDetailsAsContact at h
    split at h
    · exact absurd (returns_pure.mp h).1 nofun
    · rename_i aci haci
      refine ⟨aci, haci, ?_⟩
      simp only [returns_bind, returns_attempt, returns_ite, returns_pure] at h
      grind
  · rintro ⟨⟨aci, haci, hload, hsave⟩, hlacks⟩
    obtain ⟨image, u, himage⟩ := (returns_or_faults (contactAvatar env contact avatar)
      (s.push ⟨.loadContact aci index, true⟩)).resolve_right
        fun h => hlacks (faults_contactAvatar.mp h)
    unfold contactACI at haci
    unfold storeContactDetailsAsContact
    rw [haci]
    exact ⟨_, _, (attempt_true hload).bind <| himage.bind <| (attempt_true hsave).bind <|
      returns_pure.mpr ⟨rfl, rfl⟩⟩

theorem faults_storeContacts : Faults (storeContacts env index contacts) s ↔ ContactsCrash env index contacts := by
  induction contacts generalizing index s with
  | nil =>
    refine iff_of_false faults_pure ?_
    rintro ⟨⟩
  | cons entry rest ih =>
    obtain ⟨contact, avatar⟩ := entry
    unfold storeContacts
    cases haci : hasACI contact with
    | false =>
      rw [if_neg Bool.false_ne_true, ih]
      constructor
      · exact ContactsCrash.skipped haci
      · intro h
        cases h with
        | here h | saved h => exact absurd (h.symm.trans haci) nofun
        | skipped _ h => exact h
    | true =>
      rw [if_pos rfl, faults_bind, faults_storeContactDetailsAsContact]
      constructor
      · rintro (⟨hload, hlacks⟩ | ⟨stored, t, hstored, h⟩)
        · exact .here haci hload hlacks
        · cases stored with
          | none => exact absurd h faults_pure
          | some stored =>
            have hsaved := (returns_storeContactDetailsAsContact_some.mp ⟨stored, t, hstored⟩).1
            rw [faults_bind, ih] at h
            rcases h with h | ⟨others, u, -, h⟩
            · exact .saved haci hsaved h
            · cases others <;> exact absurd h faults_pure
      · intro h
        cases h with
        | here _ hload hlacks => exact .inl ⟨hload, hlacks⟩
        | skipped h => exact absurd (h.symm.trans haci) nofun
        | saved _ hsaved h =>
          by_cases hlacks : LacksContentType contact avatar
          · exact .inl ⟨hsaved.loaded, hlacks⟩
          · obtain ⟨stored, t, hstored⟩ :=
              (returns_storeContactDetailsAsContact_some (s := s)).mpr ⟨hsaved, hlacks⟩
            refine .inr ⟨some stored, t, hstored, ?_⟩
            rw [faults_bind, ih]
            exact .inl h

theorem faults_doContactTxn :
    Faults (doContactTxn env contacts) s ↔
      env.succeeds .beginContactTxn = true ∧ ContactsCrash env 0 contacts := by
  unfold doContactTxn
  cases hbegin : env.succeeds .beginContactTxn with
  | false => simp [hbegin]
  | true =>
    rw [faults_bind_of_returns (attempt_true hbegin), if_pos rfl, faults_bind, faults_storeContacts]
    constructor
    · rintro (h | ⟨stored, u, -, h⟩)
      · exact ⟨rfl, h⟩
      · cases stored <;> simp at h
    · rintro ⟨-, h⟩
      exact .inl h

-- The contacts are read from the plaintext of the attachment, or from nothing if that failed.
def ContactSyncCrashes (env : Env) (blob : AttachmentPointer) : Prop :=
  DownloadCrashes env blob ∨ StreamCrashes env ((attachmentPlaintext env blob).getD []) ∨
    env.succeeds .beginContactTxn = true ∧
      ∃ contacts, StreamOf env ((attachmentPlaintext env blob).getD []) contacts ∧
        ContactsCrash env 0 contacts

theorem faults_handleContactList :
    Faults (handleContactList env bytes) s ↔ StreamCrashes env bytes ∨
      env.succeeds .beginContactTxn = true ∧
        ∃ contacts, StreamOf env bytes contacts ∧ ContactsCrash env 0 contacts := by
  unfold handleContactList
  rcases returns_or_faults (unmarshalContactDetailsMessages env bytes) s with ⟨contacts, t, h⟩ | h
  · have hstream : ¬ StreamCrashes env bytes := fun hcrash =>
      not_faults_of_returns h (faults_unmarshalContactDetailsMessages.mpr hcrash)
    obtain ⟨-, hcontacts⟩ := returns_unmarshalContactDetailsMessages h
    rw [faults_bind_of_returns h, faults_bind_of_returns record_done, faults_bind,
      faults_doContactTxn]
    constructor
    · rintro (⟨hbegin, hcrash⟩ | ⟨stored, u, -, hcrash⟩)
      · cases contacts with
        | none => cases hcrash
        | some contacts => exact .inr ⟨hbegin, contacts, (hcontacts contacts).mp rfl, hcrash⟩
      · cases stored <;> simp at hcrash
    · rintro (hcrash | ⟨hbegin, found, hfound, hcrash⟩)
      · exact absurd hcrash hstream
      · rw [(hcontacts found).mpr hfound]
        exact .inl ⟨hbegin, hcrash⟩
  · rw [faults_bind]
    exact iff_of_true (.inl h) (.inl (faults_unmarshalContactDetailsMessages.mp h))

theorem faults_handleSyncContacts : Faults (handleSyncContacts env blob) s ↔ ContactSyncCrashes env blob := by
  unfold handleSyncContacts ContactSyncCrashes
  rcases returns_or_faults (downloadAttachmentWithPointer env blob none) s with ⟨plaintext, t, h⟩ | h
  · have hdownload : ¬ DownloadCrashes env blob := fun hcrash =>
      not_faults_of_returns h (faults_downloadAttachmentWithPointer.mpr hcrash)
    obtain ⟨-, rfl⟩ := returns_downloadAttachmentWithPointer h
    rw [faults_bind_of_returns h, faults_bind_of_returns record_done,
      faults_handleContactList]
    exact (or_iff_right hdownload).symm
  · rw [faults_bind]
    exact iff_of_true (.inl h) (.inl (faults_downloadAttachmentWithPointer.mp h))

end MautrixSignal.Receive
