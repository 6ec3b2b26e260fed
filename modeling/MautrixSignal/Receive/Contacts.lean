import MautrixSignal.Receive.Decrypt

namespace MautrixSignal.Receive

open Lib

variable (env : Env)

def cdn1Hostname : String := "cdn.signal.org"

def cdnHosts : List String := [cdn1Hostname, cdn1Hostname, "cdn2.signal.org", "cdn3.signal.org"]

def cdnHost (index : Nat) : Prog Panic State String :=
  match cdnHosts[index]? with
  | some host => pure host
  | none => throw .indexOutOfRange

-- The host is looked up once behind a check for > and once more behind a check for ≤.
def attachmentHost (cdnNumber : UInt32) : Prog Panic State String := do
  let _ ← if cdnHosts.length < cdnNumber.toNat then pure cdn1Hostname else cdnHost cdnNumber.toNat
  if cdnNumber = 0 then cdnHost 0
  else if cdnNumber.toNat ≤ cdnHosts.length then cdnHost cdnNumber.toNat
  else cdnHost 0

def attachmentPath (id : UInt64) (key : Bytes) : AttachmentPath :=
  if id ≠ 0 then .id id else .key key

-- Every error is the same to the caller.
def decryptAttachment (body key digest : Bytes) (plaintextDigest : Bool) (size : UInt32) :
    Prog Panic State (Option Bytes) :=
  match Attachments.decryptAttachment env.crypto body key digest plaintextDigest size with
  | .ok plaintext => pure (some plaintext)
  | .error (.panic panic) => throw panic
  | .error _ => pure none

def downloadAttachmentWithPointer (blob : AttachmentPointer) (plaintextHash : Option Bytes) :
    Prog Panic State (Option Bytes) := do
  let host ← attachmentHost blob.cdnNumber
  match env.getAttachment host (attachmentPath blob.cdnID blob.cdnKey) with
  | .failed => pure none
  | .lengthOutOfRange => throw .makeSliceLength
  | .body body =>
    match blob.digest, plaintextHash with
    | none, some hash => decryptAttachment env body blob.key hash true blob.size
    | digest, _ => decryptAttachment env body blob.key (digest.getD []) false blob.size

def maxVarintLen64 : Nat := 10

-- binary.ReadUvarint after i bytes that gave the low bits x.
def readUvarintFrom (i x : Nat) : Bytes → Option (Nat × Bytes)
  | [] => none
  | b :: rest =>
    if maxVarintLen64 ≤ i then none
    else if b < 0x80 then
      if i = maxVarintLen64 - 1 ∧ 1 < b then none
      else some (x + b.toNat * 2 ^ (7 * i), rest)
    else readUvarintFrom (i + 1) (x + (b.toNat - 128) * 2 ^ (7 * i)) rest

def readUvarint (bytes : Bytes) : Option (Nat × Bytes) := readUvarintFrom 0 0 bytes

theorem readUvarintFrom_length {i x value : Nat} {bytes rest : Bytes}
    (h : readUvarintFrom i x bytes = some (value, rest)) : rest.length < bytes.length := by
  induction bytes generalizing i x with
  | nil => cases h
  | cons b tail ih =>
    unfold readUvarintFrom at h
    split at h
    · cases h
    split at h
    · split at h
      · cases h
      · cases h
        exact Nat.lt_succ_self _
    · exact Nat.lt_succ_of_lt (ih h)

theorem readUvarint_length {value : Nat} {bytes rest : Bytes}
    (h : readUvarint bytes = some (value, rest)) : rest.length < bytes.length :=
  readUvarintFrom_length h

variable (contact : ContactDetails)

def avatarLength : Option Nat :=
  match contact.avatar with
  | none => none
  | some avatar =>
    match avatar.length with
    | none => none
    | some length => if 0 < length then some length.toNat else none

-- buf.Next takes an int, so a length of 2^63 or more is negative there.
def unmarshalContactDetailsMessages (byteStream : Bytes) :
    Prog Panic State (Option (List (ContactDetails × Option Bytes))) :=
  if byteStream = [] then pure (some [])
  else
    match _h : readUvarint byteStream with
    | none => pure none
    | some (msgLen, buf) =>
      if buf = [] then pure (some [])
      else if 2 ^ 63 ≤ msgLen then throw .sliceBounds
      else
        match env.unmarshalContactDetails (buf.take msgLen) with
        | none => pure none
        | some contact => do
          let avatar := (avatarLength contact).map fun length => (buf.drop msgLen).take length
          match ← unmarshalContactDetailsMessages
            ((buf.drop msgLen).drop ((avatarLength contact).getD 0)) with
          | none => pure none
          | some rest => pure (some ((contact, avatar) :: rest))
termination_by byteStream.length
decreasing_by
  have hlt := readUvarint_length _h
  simp only [List.length_drop]
  omega

def wildcardSuffix : Bytes := [47, 42]

def contactAvatar (avatar : Option Bytes) :
    Prog Panic State (Option ContactAvatar) :=
  match avatar with
  | none => pure none
  | some [] => pure none
  | some image =>
    match contact.avatar with
    | none => pure (some ⟨image, env.detectContentType image⟩)
    | some details =>
      if wildcardSuffix.isSuffixOf (details.contentType.getD []) then
        pure (some ⟨image, env.detectContentType image⟩)
      else
        match details.contentType with
        | some contentType => pure (some ⟨image, contentType⟩)
        -- *avatarDetails.ContentType
        | none => throw .nilDereference

def storeContactDetailsAsContact (index : Nat) (contact : ContactDetails) (avatar : Option Bytes) :
    Prog Panic State (Option StoredContact) :=
  match Parsed.toOption (parseStringOrBinaryUUID env contact.aci contact.aciBinary) with
  | none => pure none
  | some aci => do
    if ← attempt env (.loadContact aci index) then
      let image ← contactAvatar env contact avatar
      if ← attempt env (.saveContact aci index) then
        pure (some ⟨aci, contact.number, contact.name, image⟩)
      else pure none
    else pure none

def hasACI : Bool :=
  contact.aci ≠ [] || (contact.aciBinary.getD []).length = 16

def storeContacts : Nat → List (ContactDetails × Option Bytes) →
    Prog Panic State (Option (List StoredContact))
  | _, [] => pure (some [])
  | index, (contact, avatar) :: rest =>
    if hasACI contact then do
      match ← storeContactDetailsAsContact env index contact avatar with
      | none => pure none
      | some stored => do
        match ← storeContacts (index + 1) rest with
        | none => pure none
        | some others => pure (some (stored :: others))
    else storeContacts (index + 1) rest

def doContactTxn (contacts : List (ContactDetails × Option Bytes)) :
    Prog Panic State (Option (List StoredContact)) := do
  if ← attempt env .beginContactTxn then
    match ← storeContacts env 0 contacts with
    | none => pure none
    | some stored => do
      if ← attempt env .commitContactTxn then pure (some stored) else pure none
  else pure none

def handleContactList (contactsBytes : Bytes) : Prog Panic State Bool := do
  let contacts ← unmarshalContactDetailsMessages env contactsBytes
  record (.unmarshalContacts contactsBytes) contacts.isSome
  match ← doContactTxn env (contacts.getD []) with
  | none => pure true
  | some stored => handleEvent env (.contactList stored)

def handleSyncContacts (blob : AttachmentPointer) : Prog Panic State Bool := do
  let downloaded ← downloadAttachmentWithPointer env blob none
  record (.downloadContacts blob) downloaded.isSome
  handleContactList env (downloaded.getD [])

end MautrixSignal.Receive
