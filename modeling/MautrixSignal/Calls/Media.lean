import MautrixSignal.CallMessage

namespace MautrixSignal.Calls.Media

structure SRTPKey where
  key : Bytes
  salt : Bytes
deriving DecidableEq

structure NegotiatedSRTPKeys where
  offer : SRTPKey
  answer : SRTPKey

-- X25519 fails at a point of low order. The reader of HKDF-SHA256 gives as many bytes as are asked for.
structure Crypto where
  publicKey : Bytes → Bytes
  x25519 : (secret publicKey : Bytes) → Option Bytes
  hkdf : (secret salt info : Bytes) → (length : Nat) → Bytes
  length_publicKey : ∀ secret, (publicKey secret).length = 32
  x25519_comm : ∀ a b, x25519 a (publicKey b) = x25519 b (publicKey a)

inductive MediaError
  | incompleteParameters
  | cannotAcceptAnswer
  | invalidPublicKey
  | identityKey

def srtpKeySize : Nat := 32
def srtpSaltSize : Nat := 12
def srtpKDFInfo : Bytes := "Signal_Calling_20200807_SignallingDH_SRTPKey_KDF".toUTF8.toList

def slice (bytes : Bytes) (start stop : Nat) : Bytes := (bytes.take stop).drop start

variable (c : Crypto)

def negotiateSRTPKeys (localSecret remotePublicKey callerIdentityKey calleeIdentityKey : Bytes) :
    Except MediaError NegotiatedSRTPKeys :=
  match c.x25519 localSecret remotePublicKey with
  | none => .error .invalidPublicKey
  | some sharedSecret =>
    let okm := c.hkdf sharedSecret (List.replicate 32 0) (srtpKDFInfo ++ callerIdentityKey ++ calleeIdentityKey)
      (2 * (srtpKeySize + srtpSaltSize))
    .ok {
      offer := ⟨slice okm 0 srtpKeySize, slice okm srtpKeySize (srtpKeySize + srtpSaltSize)⟩
      answer := ⟨slice okm (srtpKeySize + srtpSaltSize) (2 * srtpKeySize + srtpSaltSize),
        okm.drop (2 * srtpKeySize + srtpSaltSize)⟩ }

-- What a leg is made from: the generated key and ICE credentials, and the configured codec.
structure Generated where
  secret : Bytes
  iceUfrag : Bytes
  icePwd : Bytes
  videoCodec : VideoCodecType
  secret_ne : secret ≠ []
  iceUfrag_ne : iceUfrag ≠ []
  icePwd_ne : icePwd ≠ []

structure MediaLeg where
  parameters : ConnectionParametersV4
  remote : Option ConnectionParametersV4 := none
  dial : Bool := false
  localKey : SRTPKey := ⟨[], []⟩
  remoteKey : SRTPKey := ⟨[], []⟩
  privateSecret : Bytes := []
  callerIdentityKey : Bytes := []
  calleeIdentityKey : Bytes := []

variable (g : Generated)

def newMediaLeg : MediaLeg :=
  let codecs := if g.videoCodec ≠ 0 then [g.videoCodec] else []
  { parameters := {
      publicKey := c.publicKey g.secret
      iceUfrag := g.iceUfrag
      icePwd := g.icePwd
      maxBitrateBPS := 2000000
      receiveVideoCodecs := codecs
      encodeOnlyVideoCodecs := codecs
      decodeOnlyVideoCodecs := codecs } }

def complete (p : ConnectionParametersV4) : Bool := p.publicKey.length = 32 && p.iceUfrag ≠ [] && p.icePwd ≠ []

variable (remote : Option ConnectionParametersV4)

def newIncomingMediaLeg (identityKeys : Bytes × Bytes) : Except MediaError MediaLeg :=
  match remote.filter complete with
  | none => .error .incompleteParameters
  | some remote => do
    let keys ← negotiateSRTPKeys c g.secret remote.publicKey identityKeys.1 identityKeys.2
    pure { newMediaLeg c g with remote := some remote, localKey := keys.answer, remoteKey := keys.offer }

def newOutgoingMediaLeg (identityKeys : Bytes × Bytes) : MediaLeg :=
  { newMediaLeg c g with
    dial := true
    privateSecret := g.secret
    callerIdentityKey := identityKeys.1
    calleeIdentityKey := identityKeys.2 }

def MediaLeg.setRemoteAnswer (l : MediaLeg) (remote : Option ConnectionParametersV4) : Except MediaError MediaLeg :=
  match remote.filter complete with
  | none => .error .incompleteParameters
  | some remote =>
    if l.dial = false ∨ l.privateSecret = [] ∨ l.remote.isSome then .error .cannotAcceptAnswer
    else do
      let keys ← negotiateSRTPKeys c l.privateSecret remote.publicKey l.callerIdentityKey l.calleeIdentityKey
      pure { l with
        privateSecret := [], callerIdentityKey := [], calleeIdentityKey := []
        remote := some remote, localKey := keys.offer, remoteKey := keys.answer }

-- The key of the peer is the stored one, or the one that is stored after a fetch of its prekeys.
def identityKeys (incoming : Bool) (localKey peerKey : Except MediaError Bytes) :
    Except MediaError (Bytes × Bytes) := do
  let own ← localKey
  let peer ← peerKey
  pure (if incoming then (peer, own) else (own, peer))

variable (caller callee : Generated) (callerKey calleeKey : Bytes)

def callerLeg : Except MediaError MediaLeg := do
  let keys ← identityKeys false (.ok callerKey) (.ok calleeKey)
  (newOutgoingMediaLeg c caller keys).setRemoteAnswer c (some (newMediaLeg c callee).parameters)

def calleeLeg : Except MediaError MediaLeg := do
  let keys ← identityKeys true (.ok calleeKey) (.ok callerKey)
  newIncomingMediaLeg c callee (some (newMediaLeg c caller).parameters) keys

theorem filter_complete : (some (newMediaLeg c g).parameters).filter complete = some (newMediaLeg c g).parameters := by
  simp [complete, newMediaLeg, c.length_publicKey, g.iceUfrag_ne, g.icePwd_ne]

theorem callerLeg_keys :
    (callerLeg c caller callee callerKey calleeKey).map (fun leg => (leg.localKey, leg.remoteKey)) =
      (negotiateSRTPKeys c caller.secret (c.publicKey callee.secret) callerKey calleeKey).map
        (fun keys => (keys.offer, keys.answer)) := by
  have hready : ¬(true = false ∨ caller.secret = [] ∨ (none : Option ConnectionParametersV4).isSome) := by
    simp [caller.secret_ne]
  change ((newOutgoingMediaLeg c caller (callerKey, calleeKey)).setRemoteAnswer c _).map _ = _
  rw [MediaLeg.setRemoteAnswer, filter_complete]
  refine (congrArg _ (if_neg hready)).trans ?_
  change (negotiateSRTPKeys c caller.secret (c.publicKey callee.secret) callerKey calleeKey >>= _).map _ = _
  cases negotiateSRTPKeys c caller.secret (c.publicKey callee.secret) callerKey calleeKey with
  | error e => rfl
  | ok keys => rfl

theorem calleeLeg_keys :
    (calleeLeg c caller callee callerKey calleeKey).map (fun leg => (leg.remoteKey, leg.localKey)) =
      (negotiateSRTPKeys c callee.secret (c.publicKey caller.secret) callerKey calleeKey).map
        (fun keys => (keys.offer, keys.answer)) := by
  change (newIncomingMediaLeg c callee _ (callerKey, calleeKey)).map _ = _
  rw [newIncomingMediaLeg, filter_complete]
  change (negotiateSRTPKeys c callee.secret (c.publicKey caller.secret) callerKey calleeKey >>= _).map _ = _
  cases negotiateSRTPKeys c callee.secret (c.publicKey caller.secret) callerKey calleeKey with
  | error e => rfl
  | ok keys => rfl

-- What the caller sends with is what the callee receives with, and the other way round. Where one side derives no keys,
-- neither does the other.
theorem srtp_keys_crossed (caller callee : Generated) (callerKey calleeKey : Bytes) :
    (callerLeg c caller callee callerKey calleeKey).map (fun leg => (leg.localKey, leg.remoteKey)) =
      (calleeLeg c caller callee callerKey calleeKey).map (fun leg => (leg.remoteKey, leg.localKey)) := by
  rw [callerLeg_keys, calleeLeg_keys, negotiateSRTPKeys, negotiateSRTPKeys, c.x25519_comm]

-- A key pair is a byte and 32 copies of it, two of which are multiplied.
def sampleCrypto : Crypto where
  publicKey secret := List.replicate 32 (secret.headD 0)
  x25519 secret publicKey := some [secret.headD 0 * publicKey.headD 0]
  hkdf secret _ _ length := (List.range length).map fun i => UInt8.ofNat i + secret.headD 0
  length_publicKey _ := List.length_replicate
  x25519_comm a b := congrArg (fun byte => some [byte]) (UInt8.mul_comm (a.headD 0) (b.headD 0))

def sampleGenerated (secret : UInt8) : Generated where
  secret := [secret]
  iceUfrag := [117]
  icePwd := [112]
  videoCodec := 0
  secret_ne := List.cons_ne_nil _ _
  iceUfrag_ne := List.cons_ne_nil _ _
  icePwd_ne := List.cons_ne_nil _ _

theorem srtp_keys_crossed_sample : ∃ caller callee,
    callerLeg sampleCrypto (sampleGenerated 3) (sampleGenerated 5) [1] [2] = .ok caller ∧
    calleeLeg sampleCrypto (sampleGenerated 3) (sampleGenerated 5) [1] [2] = .ok callee ∧
    caller.localKey = callee.remoteKey ∧ caller.remoteKey = callee.localKey ∧
    caller.localKey.key.length = 32 ∧ caller.localKey ≠ caller.remoteKey := by
  have hcrossed := srtp_keys_crossed sampleCrypto (sampleGenerated 3) (sampleGenerated 5) [1] [2]
  have hcaller : callerLeg sampleCrypto (sampleGenerated 3) (sampleGenerated 5) [1] [2] = .ok _ := rfl
  have hcallee : calleeLeg sampleCrypto (sampleGenerated 3) (sampleGenerated 5) [1] [2] = .ok _ := rfl
  rw [hcaller, hcallee] at hcrossed
  obtain ⟨hlocal, hremote⟩ := Prod.mk.inj (Except.ok.inj hcrossed)
  exact ⟨_, _, rfl, rfl, hlocal, hremote, by decide, by decide⟩

end MautrixSignal.Calls.Media
