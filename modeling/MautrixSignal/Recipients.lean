import MautrixSignal.Identifiers
import MautrixSignal.Lib.KeyedTable

namespace MautrixSignal.Recipients

open Lib

def profileKeyLength : Nat := 32

-- libsignalgo.ProfileKey is [32]byte. The zero key stands for no key.
structure ProfileKey where
  bytes : Bytes
  length_eq : bytes.length = profileKeyLength
deriving DecidableEq

def ProfileKey.blank : ProfileKey := ⟨List.replicate profileKeyLength 0, by simp⟩

def ProfileKey.slice (key : ProfileKey) : Option Bytes :=
  if key = .blank then none else some key.bytes

-- FetchedAt is in nanoseconds since the epoch, none for the zero time.
structure Profile where
  name : String := ""
  about : String := ""
  aboutEmoji : String := ""
  avatarPath : String := ""
  key : ProfileKey := .blank
  fetchedAt : Option Int := none
  credential : Bytes := []

structure ContactAvatar where
  image : Bytes := []
  contentType : String := ""
  hash : String := ""

structure Recipient where
  aci : UUID
  pni : UUID
  e164 : String := ""
  contactName : String := ""
  contactAvatar : ContactAvatar := {}
  nickname : String := ""
  profile : Profile := {}
  needsPNISignature : Bool := false
  blocked : Bool := false
  whitelisted : Option Bool := none

-- A row of signalmeow_recipients. Every query is scoped to one account_id, so
-- the column is left out and a table holds the rows of one account.
structure Row where
  aci : Option UUID := none
  pni : Option UUID := none
  e164 : String := ""
  contactName : String := ""
  contactAvatarHash : String := ""
  nickname : String := ""
  profileKey : Option Bytes := none
  profileName : String := ""
  profileAbout : String := ""
  profileAboutEmoji : String := ""
  profileAvatarPath : String := ""
  profileFetchedAt : Option Int := none
  needsPNISignature : Bool := false
  blocked : Bool := false
  whitelisted : Option Bool := none
deriving DecidableEq

-- The ACI and PNI that scanRecipient reads from a row: NULL scans as uuid.Nil.
def Row.scannedACI (row : Row) : UUID := row.aci.getD .nil
def Row.scannedPNI (row : Row) : UUID := row.pni.getD .nil

def scanProfileKey (column : Option Bytes) : ProfileKey :=
  match column with
  | none => .blank
  | some bytes => if h : bytes.length = profileKeyLength then ⟨bytes, h⟩ else .blank

def scanRecipient (row : Row) : Recipient where
  aci := row.scannedACI
  pni := row.scannedPNI
  e164 := row.e164
  contactName := row.contactName
  contactAvatar := { hash := row.contactAvatarHash }
  nickname := row.nickname
  profile :=
    { name := row.profileName
      about := row.profileAbout
      aboutEmoji := row.profileAboutEmoji
      avatarPath := row.profileAvatarPath
      key := scanProfileKey row.profileKey
      fetchedAt := row.profileFetchedAt.map (· * 1000000) }
  needsPNISignature := row.needsPNISignature
  blocked := row.blocked
  whitelisted := row.whitelisted

structure Unique (rows : List Row) : Prop where
  aci : UniqueOn Row.aci rows
  pni : UniqueOn Row.pni rows

instance (rows : List Row) : Decidable (Unique rows) :=
  decidable_of_iff (UniqueOn Row.aci rows ∧ UniqueOn Row.pni rows)
    ⟨fun h => ⟨h.1, h.2⟩, fun h => ⟨h.aci, h.pni⟩⟩

-- signalmeow_contacts_aci_unique and signalmeow_contacts_pni_unique are part
-- of the type. A statement that would break one of them fails.
structure Table where
  rows : List Row
  unique : Unique rows
deriving DecidableEq

def emptyTable : Table := ⟨[], by decide⟩

namespace Table

def ofRows? (rows : List Row) : Option Table :=
  if h : Unique rows then some ⟨rows, h⟩ else none

variable (table : Table)

def byACI (aci : UUID) : Option Row := selectOn Row.aci aci table.rows
def byPNI (pni : UUID) : Option Row := selectOn Row.pni pni table.rows

def byACIOrPNI (aci pni : UUID) : List Row :=
  table.rows.filter fun row =>
    (aci ≠ .nil ∧ row.aci = some aci) ∨ (pni ≠ .nil ∧ row.pni = some pni)

def deleteByPNI (pni : UUID) : Table :=
  ⟨deleteOn Row.pni pni table.rows, ⟨table.unique.aci.filter _, table.unique.pni.filter _⟩⟩

def nullableUUID (u : UUID) : Option UUID := if u = .nil then none else some u

def aciColumns (r : Recipient) : Row where
  aci := some r.aci
  pni := nullableUUID r.pni
  e164 := r.e164
  contactName := r.contactName
  contactAvatarHash := r.contactAvatar.hash
  nickname := r.nickname
  profileKey := r.profile.key.slice
  profileName := r.profile.name
  profileAbout := r.profile.about
  profileAboutEmoji := r.profile.aboutEmoji
  profileAvatarPath := r.profile.avatarPath
  profileFetchedAt := r.profile.fetchedAt.map (· / 1000000)
  needsPNISignature := r.needsPNISignature
  blocked := r.blocked
  whitelisted := r.whitelisted

-- upsertACIRecipientQuery sets every column but the key.
def upsertACI (r : Recipient) : Option Table :=
  ofRows? (upsertOn Row.aci r.aci (fun old => { aciColumns r with aci := old.aci })
    (aciColumns r) table.rows)

-- upsertPNIRecipientQuery writes only the phone number and the contact info.
def upsertPNI (r : Recipient) : Option Table :=
  ofRows? (upsertOn Row.pni r.pni
    (fun old => { old with
      e164 := r.e164, contactName := r.contactName, contactAvatarHash := r.contactAvatar.hash })
    { pni := some r.pni, e164 := r.e164, contactName := r.contactName,
      contactAvatarHash := r.contactAvatar.hash } table.rows)

def upsertProfileKey (aci : UUID) (key : ProfileKey) : Option Table :=
  ofRows? (upsertOn Row.aci aci (fun old => { old with profileKey := key.slice })
    { aci := some aci, profileKey := key.slice } table.rows)

def storedBlocked (aci : UUID) : Bool :=
  ((table.byACI aci).map Row.blocked).getD false

end Table

structure Faults where
  beginTxn : Bool := false
  select : Bool := false
  delete : Bool := false
  upsert : Bool := false
  commit : Bool := false

inductive Statement
  | beginTxn | select | delete | upsert | commit

inductive StoreError
  | noIdentifiers            -- no ACI or PNI provided in LoadAndUpdateRecipient call
  | noIdentifiersToStore     -- no ACI or PNI provided in StoreRecipient call
  | statement (stmt : Statement)
  | moreThanTwoRows (aci pni : UUID)
  | updater (text : String)
  | wrapped (context : String) (inner : StoreError)
  | mergeFailed (aci pni : UUID) (inner : StoreError)

structure Store where
  table : Table
  blockCache : UUID → Option Bool := fun _ => none

namespace Store

variable (s : Store)

def cacheBlocked (aci : UUID) (blocked : Bool) : Store :=
  { s with blockCache := fun a => if a = aci then some blocked else s.blockCache a }

def deleteRecipientByPNI (faults : Faults) (s : Store) (pni : UUID) : Store × Option StoreError :=
  if faults.delete then (s, some (.statement .delete))
  else ({ s with table := s.table.deleteByPNI pni }, none)

-- The cache is written whether or not the statement succeeded.
def storeRecipient (faults : Faults) (s : Store) (r : Recipient) : Store × Option StoreError :=
  if r.aci ≠ .nil then
    match if faults.upsert then none else s.table.upsertACI r with
    | some table => ({ s with table := table }.cacheBlocked r.aci r.blocked, none)
    | none => (s.cacheBlocked r.aci r.blocked, some (.statement .upsert))
  else if r.pni ≠ .nil then
    match if faults.upsert then none else s.table.upsertPNI r with
    | some table => ({ s with table := table }, none)
    | none => (s, some (.statement .upsert))
  else (s, some .noIdentifiersToStore)

def storeProfileKey (faults : Faults) (s : Store) (aci : UUID) (key : ProfileKey) :
    Store × Option StoreError :=
  match if faults.upsert then none else s.table.upsertProfileKey aci key with
  | some table => ({ s with table := table }, none)
  | none => (s, some (.statement .upsert))

def rollback (saved : Table) : Store :=
  { s with table := saved }

end Store

-- RecipientUpdaterFunc. The recipient is passed by pointer, so its new value
-- counts also when an error is returned. No caller's function assigns the ACI or the PNI.
structure Updater where
  run : Recipient → Recipient × Except String Bool
  keeps_aci : ∀ r, (run r).1.aci = r.aci
  keeps_pni : ∀ r, (run r).1.pni = r.pni

def Updater.noop : Updater := ⟨fun r => (r, .ok false), fun _ => rfl, fun _ => rfl⟩

-- The order in which the database returns the rows of a query.
structure RowOrder where
  arrange : List Row → List Row
  perm : ∀ rows, (arrange rows).Perm rows

def RowOrder.stored : RowOrder := ⟨id, fun _ => List.Perm.refl _⟩
def RowOrder.reversed : RowOrder := ⟨List.reverse, fun rows => List.reverse_perm rows⟩

structure Outcome where
  store : Store
  recipient : Option Recipient
  err : Option StoreError
  handed : Option Recipient

-- How mergeRecipients picks its roles and combines the two rows before the updater runs.
def combine (first second : Recipient) : Recipient :=
  let (first, second) := if first.aci = .nil then (second, first) else (first, second)
  { first with
    pni := second.pni
    e164 := if second.e164 ≠ "" then second.e164 else first.e164
    contactName := if first.contactName = "" then second.contactName else first.contactName
    contactAvatar := if first.contactAvatar.hash = "" then second.contactAvatar
      else first.contactAvatar }

variable (faults : Faults) (s : Store)

def mergeRecipients (first second : Recipient) (updater : Updater) :
    Outcome :=
  let handed := combine first second
  let merged := (updater.run handed).1
  match (updater.run handed).2 with
  | .error text =>
    ⟨s, merged, some (.wrapped "failed to run updater function" (.updater text)), handed⟩
  | .ok _ =>
    match s.deleteRecipientByPNI faults merged.pni with
    | (s, some err) => ⟨s, merged, some (.wrapped "failed to delete duplicate PNI row" err), handed⟩
    | (s, none) =>
      match s.storeRecipient faults merged with
      | (s, some err) => ⟨s, merged, some (.wrapped "failed to store merged row" err), handed⟩
      | (s, none) => ⟨s, merged, none, handed⟩

def Recipient.lacks (r : Recipient) (aci pni : UUID) : Prop :=
  (r.pni = .nil ∧ pni ≠ .nil) ∨ (r.aci = .nil ∧ aci ≠ .nil)

instance (r : Recipient) (aci pni : UUID) : Decidable (r.lacks aci pni) :=
  inferInstanceAs (Decidable (_ ∨ _))

def Recipient.fill (r : Recipient) (aci pni : UUID) : Recipient :=
  { r with
    pni := if r.pni = .nil ∧ pni ≠ .nil then pni else r.pni
    aci := if r.aci = .nil ∧ aci ≠ .nil then aci else r.aci }

variable (aci : UUID)

-- A PNI-only row is deleted first, since the upsert can only key on the ACI.
def deleteOldPNIRow (out : Recipient) :
    Store × Option StoreError :=
  if out.pni ≠ .nil ∧ out.aci = .nil ∧ aci ≠ .nil then s.deleteRecipientByPNI faults out.pni
  else (s, none)

variable (pni : UUID)

def updateSingle (entry : Option Row) (updater : Updater) : Outcome :=
  let handed := (entry.map scanRecipient).getD { aci := aci, pni := pni }
  let out := (updater.run handed).1
  match (updater.run handed).2 with
  | .error text =>
    ⟨s, out, some (.wrapped "failed to run updater function" (.updater text)), handed⟩
  | .ok changed =>
    match deleteOldPNIRow faults s aci out with
    | (s, some err) => ⟨s, out, some (.wrapped "failed to delete old PNI row" err), handed⟩
    | (s, none) =>
      let filled := out.fill aci pni
      if changed = true ∨ out.lacks aci pni ∨ entry = none then
        match s.storeRecipient faults filled with
        | (s, some err) =>
          ⟨s, filled, some (.wrapped "failed to store updated recipient row" err), handed⟩
        | (s, none) => ⟨s, filled, none, handed⟩
      else ⟨s, filled, none, handed⟩

variable (order : RowOrder)

def matchingRows (table : Table) (aci pni : UUID) : List Row :=
  if aci ≠ .nil ∧ pni ≠ .nil then order.arrange (table.byACIOrPNI aci pni)
  else if aci ≠ .nil then (table.byACI aci).toList
  else (table.byPNI pni).toList

def loadAndUpdateInTxn (faults : Faults) (s : Store) (aci pni : UUID) (updater : Updater) : Outcome :=
  if faults.select then ⟨s, none, some (.statement .select), none⟩
  else
    match matchingRows order s.table aci pni with
    | [] => updateSingle faults s aci pni none updater
    | [row] => updateSingle faults s aci pni (some row) updater
    | [row, row'] =>
      let out := mergeRecipients faults s (scanRecipient row) (scanRecipient row') updater
      { out with err := out.err.map (.mergeFailed aci pni) }
    | _ => ⟨s, none, some (.moreThanTwoRows aci pni), none⟩

-- db.DoTxn joins a transaction that is already open. Else it begins one, and
-- undoes the changes if the function or the commit fails.
def doTxn (inTxn : Bool) (faults : Faults) (s : Store) (fn : Store → Outcome) : Outcome :=
  if inTxn then fn s
  else if faults.beginTxn then ⟨s, none, some (.statement .beginTxn), none⟩
  else
    let out := fn s
    if out.err.isSome then { out with store := out.store.rollback s.table }
    else if faults.commit then
      { out with store := out.store.rollback s.table, err := some (.statement .commit) }
    else out

def cacheResult (out : Outcome) : Outcome :=
  match out.recipient, out.err with
  | some r, none => if r.aci ≠ .nil then { out with store := out.store.cacheBlocked r.aci r.blocked } else out
  | _, _ => out

def loadAndUpdateRecipient (faults : Faults) (inTxn : Bool) (s : Store) (aci pni : UUID) (updater : Updater) :
    Outcome :=
  if aci = .nil ∧ pni = .nil then ⟨s, none, some .noIdentifiers, none⟩
  else cacheResult (doTxn inTxn faults s fun s => loadAndUpdateInTxn order faults s aci pni updater)

def isBlocked (faults : Faults) (inTxn : Bool) (s : Store) (aci : UUID) :
    Store × Except StoreError Bool :=
  match s.blockCache aci with
  | some cached => (s, .ok cached)
  | none =>
    let out := loadAndUpdateRecipient order faults inTxn s aci .nil .noop
    match out.err, out.recipient with
    | none, some r => (out.store, .ok r.blocked)
    | none, none => (out.store, .ok false)
    | some err, _ => (out.store, .error err)

end MautrixSignal.Recipients
