import MautrixSignal.Identifiers

namespace MautrixSignal.Container

def backupKeyLength : Nat := 32

-- libsignalgo.BackupKey is [32]byte.
structure BackupKey where
  bytes : Bytes
  length_eq : bytes.length = backupKeyLength

structure DeviceData (ρ : Type) where
  aciIdentityKeyPair : Bytes := []
  pniIdentityKeyPair : Option Bytes := none
  aciRegistrationID : Int := 0
  pniRegistrationID : Int := 0
  aci : UUID
  pni : UUID := .nil
  deviceID : Int := 0
  number : String := ""
  password : String := ""
  masterKey : Bytes := []
  accountRecord : Option ρ := none
  accountEntropyPool : String := ""
  ephemeralBackupKey : Option BackupKey := none
  mediaRootBackupKey : Option BackupKey := none
  authCredentialSalt : Bytes := []

def DeviceData.aciServiceID {ρ : Type} (device : DeviceData ρ) : ServiceID := newACIServiceID device.aci

structure DeviceRow where
  aciIdentityKeyPair : Bytes
  registrationID : Int
  pni : UUID
  pniIdentityKeyPair : Bytes
  pniRegistrationID : Int
  deviceID : Int
  number : String
  password : String
  masterKey : Bytes
  accountRecord : Option Bytes
  accountEntropyPool : String
  ephemeralBackupKey : Option Bytes
  mediaRootBackupKey : Option Bytes
  authCredentialSalt : Bytes

abbrev DeviceTable := UUID → Option DeviceRow

structure Env (ρ : Type) where
  serialize : Bytes → Option Bytes
  marshal : ρ → Option Bytes
  insertFails : Bool := false

inductive PutDeviceError
  | deviceIDMustBeSet        -- device aci_uuid must be known before accessing database
  | serializeACI
  | serializePNI
  | marshalAccountRecord     -- failed to marshal account record
  | insert
deriving DecidableEq

def ValidRegistrationID (id : Int) : Prop := 0 ≤ id ∧ id < 4294967296

instance (id : Int) : Decidable (ValidRegistrationID id) := inferInstanceAs (Decidable (_ ∧ _))

section PutDevice

variable {ρ : Type} (env : Env ρ)

variable (device : DeviceData ρ)

def serializePNI : Option Bytes :=
  match device.pniIdentityKeyPair with
  | none => some []
  | some keyPair => env.serialize keyPair

def marshalAccountRecord : Option (Option Bytes) :=
  match device.accountRecord with
  | none => some none
  | some record => (env.marshal record).map some

def deviceRow (aciIdentityKeyPair pniIdentityKeyPair : Bytes) (accountRecord : Option Bytes) : DeviceRow where
  aciIdentityKeyPair := aciIdentityKeyPair
  registrationID := device.aciRegistrationID
  pni := device.pni
  pniIdentityKeyPair := pniIdentityKeyPair
  pniRegistrationID := device.pniRegistrationID
  deviceID := device.deviceID
  number := device.number
  password := device.password
  masterKey := device.masterKey
  accountRecord := accountRecord
  accountEntropyPool := device.accountEntropyPool
  ephemeralBackupKey := device.ephemeralBackupKey.map BackupKey.bytes
  mediaRootBackupKey := device.mediaRootBackupKey.map BackupKey.bytes
  authCredentialSalt := device.authCredentialSalt

variable (devices : DeviceTable)

-- insertDeviceQuery replaces every column of the row with this ACI.
def insertDevice (aci : UUID) (row : DeviceRow) : Except PutDeviceError DeviceTable :=
  if env.insertFails = false ∧ ValidRegistrationID row.registrationID ∧ ValidRegistrationID row.pniRegistrationID then
    .ok fun other => if other = aci then some row else devices other
  else .error .insert

def putDevice (device : DeviceData ρ) : Except PutDeviceError DeviceTable :=
  if device.aci = .nil then .error .deviceIDMustBeSet
  else
    match env.serialize device.aciIdentityKeyPair with
    | none => .error .serializeACI
    | some aciIdentityKeyPair =>
      match serializePNI env device with
      | none => .error .serializePNI
      | some pniIdentityKeyPair =>
        match marshalAccountRecord env device with
        | none => .error .marshalAccountRecord
        | some accountRecord =>
          insertDevice env devices device.aci
            (deviceRow device aciIdentityKeyPair pniIdentityKeyPair accountRecord)

structure CanPut (device : DeviceData ρ) : Prop where
  aci_ne : device.aci ≠ .nil
  aciKeyPair : (env.serialize device.aciIdentityKeyPair).isSome = true
  pniKeyPair : (serializePNI env device).isSome = true
  record : (marshalAccountRecord env device).isSome = true
  registrationID : ValidRegistrationID device.aciRegistrationID
  pniRegistrationID : ValidRegistrationID device.pniRegistrationID
  insert : env.insertFails = false

theorem insertDevice_isOk_iff (aci : UUID) (row : DeviceRow) :
    (insertDevice env devices aci row).isOk = true ↔ env.insertFails = false ∧
      ValidRegistrationID row.registrationID ∧ ValidRegistrationID row.pniRegistrationID := by
  unfold insertDevice
  split
  · rename_i h
    exact iff_of_true rfl h
  · rename_i h
    exact iff_of_false nofun h

theorem putDevice_isOk_iff (device : DeviceData ρ) :
    (putDevice env devices device).isOk = true ↔ CanPut env device := by
  unfold putDevice
  by_cases haci : device.aci = .nil
  · rw [if_pos haci]
    exact iff_of_false nofun fun h => h.aci_ne haci
  rw [if_neg haci]
  cases hkey : env.serialize device.aciIdentityKeyPair with
  | none => exact iff_of_false nofun fun h => by simpa [hkey] using h.aciKeyPair
  | some aciKey =>
    cases hpni : serializePNI env device with
    | none => exact iff_of_false nofun fun h => by simpa [hpni] using h.pniKeyPair
    | some pniKey =>
      cases hrec : marshalAccountRecord env device with
      | none => exact iff_of_false nofun fun h => by simpa [hrec] using h.record
      | some record =>
        rw [insertDevice_isOk_iff]
        constructor
        · rintro ⟨hins, hid, hpniID⟩
          exact ⟨haci, by rw [hkey]; rfl, by rw [hpni]; rfl, by rw [hrec]; rfl, hid, hpniID, hins⟩
        · intro h
          exact ⟨h.insert, h.registrationID, h.pniRegistrationID⟩

end PutDevice

end MautrixSignal.Container
