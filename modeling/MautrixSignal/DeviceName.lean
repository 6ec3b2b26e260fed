import MautrixSignal.Identifiers

namespace MautrixSignal.DeviceNames

structure DeviceName where
  ephemeralPublic : Bytes
  syntheticIv : Bytes
  ciphertext : Bytes

-- The keys, the wire format and the algorithms. Both sides of an agreement get the same secret, and AES-CTR
-- under the zero IV undoes itself.
structure Crypto where
  PrivateKey : Type
  PublicKey : Type
  Wire : Type
  publicKey : PrivateKey → PublicKey
  serialize : PublicKey → Bytes
  deserializePublicKey : Bytes → Option PublicKey
  agree : PrivateKey → PublicKey → Option Bytes
  hmacSHA256 : (key input : Bytes) → Bytes
  aes256CTR : (key source : Bytes) → Bytes
  marshal : DeviceName → Wire
  unmarshal : Wire → Option DeviceName
  deserialize_serialize : ∀ key, deserializePublicKey (serialize key) = some key
  agree_comm : ∀ a b, agree a (publicKey b) = agree b (publicKey a)
  length_hmacSHA256 : ∀ key input, (hmacSHA256 key input).length = 32
  aes256CTR_aes256CTR : ∀ key source, aes256CTR key (aes256CTR key source) = source
  unmarshal_marshal : ∀ name, unmarshal (marshal name) = some name

-- "auth" and "cipher".
def auth : Bytes := [97, 117, 116, 104]
def cipher : Bytes := [99, 105, 112, 104, 101, 114]

variable (c : Crypto)

variable (masterSecret name : Bytes)

def computeSyntheticIV : Bytes :=
  (c.hmacSHA256 (c.hmacSHA256 masterSecret auth) name).take 16

def cipherKey (syntheticIV : Bytes) : Bytes :=
  c.hmacSHA256 (c.hmacSHA256 masterSecret cipher) syntheticIV

def encryptDeviceName (ephemeralPrivKey : c.PrivateKey) (name : Bytes) (identityKey : c.PublicKey) :
    Option c.Wire := do
  let masterSecret ← c.agree ephemeralPrivKey identityKey
  let syntheticIV := computeSyntheticIV c masterSecret name
  pure (c.marshal {
    ephemeralPublic := c.serialize (c.publicKey ephemeralPrivKey)
    syntheticIv := syntheticIV
    ciphertext := c.aes256CTR (cipherKey c masterSecret syntheticIV) name })

-- The first key is compared with a code made of both IVs.
def decryptDeviceName (wrappedData : c.Wire) (identityKey : c.PrivateKey) : Option Bytes := do
  let name ← c.unmarshal wrappedData
  let ephemeralPubKey ← c.deserializePublicKey name.ephemeralPublic
  let masterSecret ← c.agree identityKey ephemeralPubKey
  let decryptedName := c.aes256CTR (cipherKey c masterSecret name.syntheticIv) name.ciphertext
  let syntheticIV := computeSyntheticIV c masterSecret decryptedName
  if c.hmacSHA256 masterSecret auth = c.hmacSHA256 name.syntheticIv syntheticIV then pure decryptedName else none

theorem length_computeSyntheticIV : (computeSyntheticIV c masterSecret name).length = 16 := by
  rw [computeSyntheticIV, List.length_take, c.length_hmacSHA256]
  rfl

def Collision (key input key' input' : Bytes) : Prop :=
  c.hmacSHA256 key input = c.hmacSHA256 key' input' ∧ input ≠ input'

theorem auth_ne_computeSyntheticIV : auth ≠ computeSyntheticIV c masterSecret name := by
  intro heq
  have hlen := congrArg List.length heq
  rw [length_computeSyntheticIV] at hlen
  cases hlen

-- Any name that comes back exhibits a collision of the HMAC, since the check compares the wrong two codes.
theorem device_name_returned_iff (ephemeral identity : c.PrivateKey) (name : Bytes) :
    ((encryptDeviceName c ephemeral name (c.publicKey identity)).bind (decryptDeviceName c · identity) = some name ↔
      ∃ masterSecret, c.agree ephemeral (c.publicKey identity) = some masterSecret ∧
        Collision c masterSecret auth (computeSyntheticIV c masterSecret name)
          (computeSyntheticIV c masterSecret name)) ∧
    ∀ wrappedData, (decryptDeviceName c wrappedData identity).isSome → ∃ masterSecret syntheticIv decryptedName,
      Collision c masterSecret auth syntheticIv (computeSyntheticIV c masterSecret decryptedName) := by
  refine ⟨?_, fun wrappedData hsome => ?_⟩
  · rw [encryptDeviceName]
    cases hagree : c.agree ephemeral (c.publicKey identity) with
    | none => simp
    | some masterSecret =>
      have hback : c.agree identity (c.publicKey ephemeral) = some masterSecret := by
        rw [c.agree_comm, hagree]
      have hne := auth_ne_computeSyntheticIV c masterSecret name
      simp [decryptDeviceName, c.unmarshal_marshal, c.deserialize_serialize, hback, c.aes256CTR_aes256CTR, Collision,
        hne]
  · obtain ⟨found, hfound⟩ := Option.isSome_iff_exists.mp hsome
    simp only [decryptDeviceName, bind, Option.bind_eq_some_iff, Option.ite_none_right_eq_some] at hfound
    obtain ⟨name, -, publicKey, -, masterSecret, -, hequal, -⟩ := hfound
    exact ⟨masterSecret, _, _, hequal, auth_ne_computeSyntheticIV c _ _⟩

def sampleCrypto : Crypto where
  PrivateKey := UInt8
  PublicKey := UInt8
  Wire := DeviceName
  publicKey := id
  serialize key := [key]
  deserializePublicKey := List.head?
  agree a b := some [a ^^^ b]
  hmacSHA256 key input := (key ++ input ++ List.replicate 32 0).take 32
  aes256CTR key source := source.map (· ^^^ key.headD 0)
  marshal := id
  unmarshal := some
  deserialize_serialize _ := rfl
  agree_comm a b := by rw [id, id, UInt8.xor_comm]
  length_hmacSHA256 key input := by
    rw [List.length_take, List.length_append, List.length_replicate]
    omega
  aes256CTR_aes256CTR key source := by
    simp only [List.map_map, Function.comp_def, UInt8.xor_assoc, UInt8.xor_self, UInt8.xor_zero, List.map_id']
  unmarshal_marshal _ := rfl

-- The two codes differ here, as they do unless there is a collision.
theorem encrypted_name_is_refused :
    (encryptDeviceName sampleCrypto (1 : UInt8) [65] (2 : UInt8)).bind
      (decryptDeviceName sampleCrypto · (2 : UInt8)) = none := by
  decide +kernel

end MautrixSignal.DeviceNames
