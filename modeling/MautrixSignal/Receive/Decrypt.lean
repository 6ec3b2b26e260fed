import MautrixSignal.Attachments
import MautrixSignal.Padding
import MautrixSignal.Sending.Requests

namespace MautrixSignal.Receive

open Lib

structure Entry where
  op : Op
  ok : Bool

-- The event buffer maps the hash of a ciphertext to a row whose plaintext may be NULL. The log has
-- what was done so far, oldest first.
structure State where
  buffer : Bytes → Option (Option Bytes)
  log : List Entry

def State.push (s : State) (entry : Entry) : State := { s with log := s.log ++ [entry] }

def State.putBufferedEvent (s : State) (hash plaintext : Bytes) : State :=
  { s with buffer := fun h => if h = hash then some (some plaintext) else s.buffer h }

-- UPDATE signalmeow_event_buffer SET plaintext=NULL
def State.clearBufferedEventPlaintext (s : State) (hash : Bytes) : State :=
  { s with buffer := fun h => if h = hash then (s.buffer h).map fun _ => none else s.buffer h }

inductive CiphertextType
  | whisper
  | preKey
  | senderKey
  | plaintext
  | other

inductive ContentHint
  | default
  | resendable
  | implicit
  | other
deriving DecidableEq

-- What the code reads from a sealed sender message with a valid certificate. The phone number and
-- the contents are read after the sender address is known.
structure SealedSender where
  messageType : CiphertextType
  contentHint : ContentHint
  senderUUID : UUID
  senderDeviceID : UInt32
  contents : Except ExternalError (Bytes × Bytes)

inductive Fetch
  | failed
  | lengthOutOfRange
  | body (bytes : Bytes)

inductive AttachmentPath
  | id (id : UInt64)
  | key (key : Bytes)

-- The account, the logger, and how libsignal, the database, the network and the event handler
-- behave while one message is handled. SendState is what a sent receipt finds and changes.
structure Env where
  aci : UUID
  pni : UUID
  deviceID : UInt32
  debugEnabled : Bool
  contextDone : Bool
  parseUUID : Bytes → UUID × Bool
  crypto : Attachments.Crypto
  unmarshalEnvelope : Bytes → Option Envelope
  unmarshalContent : Bytes → Option Content
  unmarshalContactDetails : Bytes → Option ContactDetails
  codec : CallCodec
  newAddress : ServiceID → UInt32 → Bool
  sealedSenderDecrypt : Bytes → UInt64 → Except ExternalError SealedSender
  deserialize : CiphertextType → Bytes → Bool
  decrypt : CiphertextType → Address → Bytes → Except ExternalError Bytes
  getBufferedEventError : Option ExternalError
  decryptionTxnError : Option ExternalError
  succeeds : Op → Bool
  identityFound : ServiceID → Bool → Bool
  blocked : UUID → Bool
  groupIdentifier : Bytes → String
  updateActiveCall : String → Bytes → Bool
  getAttachment : String → AttachmentPath → Fetch
  detectContentType : Bytes → Bytes
  recipient : UUID → Option Sending.Recipient
  SendState : Type
  sendState : SendState
  requests : Requests.Env SendState

namespace Env

variable (env : Env)

def sha256 (data : Bytes) : Bytes := env.crypto.sha256 data

def aciServiceID : ServiceID := newACIServiceID env.aci

def pniServiceID : ServiceID := newPNIServiceID env.pni

-- Whether the device has session, identity and prekey stores for a service ID of its own.
def hasStores (serviceID : ServiceID) : Bool :=
  serviceID = env.aciServiceID || (env.pni ≠ UUID.nil && serviceID = env.pniServiceID)

end Env

variable (env : Env)

-- Every step with an effect outside this code goes through here.
def attempt (op : Op) : Prog Panic State Bool := do
  modify (·.push ⟨op, env.succeeds op⟩)
  pure (env.succeeds op)

def attemptIf (condition : Bool) (op : Op) : Prog Panic State Bool :=
  if condition then attempt env op else pure true

def record (op : Op) (ok : Bool) : Prog Panic State PUnit :=
  modify (·.push ⟨op, ok⟩)

def handleEvent (event : Event) (index : Nat := 0) : Prog Panic State Bool :=
  attempt env (.handleEvent event index)

section Steps

variable {env : Env} {s t : State} {op : Op} {ok : Bool}

@[simp] theorem returns_attempt :
    Returns (attempt env op) s ok t ↔ ok = env.succeeds op ∧ t = s.push ⟨op, env.succeeds op⟩ := by
  simp only [attempt, returns_bind, returns_modify, returns_pure]
  constructor
  · rintro ⟨_, _, rfl, rfl, rfl⟩
    exact ⟨rfl, rfl⟩
  · rintro ⟨rfl, rfl⟩
    exact ⟨⟨⟩, _, rfl, rfl, rfl⟩

theorem attempt_true (h : env.succeeds op = true) : Returns (attempt env op) s true (s.push ⟨op, true⟩) := by
  rw [returns_attempt, h]
  exact ⟨rfl, rfl⟩

@[simp] theorem faults_attempt : ¬ Faults (attempt env op) s := by
  simp [attempt]

@[simp] theorem faults_attemptIf {condition : Bool} : ¬ Faults (attemptIf env condition op) s := by
  cases condition <;> simp [attemptIf]

@[simp] theorem returns_handleEvent {event : Event} {index : Nat} :
    Returns (handleEvent env event index) s ok t ↔
      ok = env.succeeds (.handleEvent event index) ∧
        t = s.push ⟨.handleEvent event index, env.succeeds (.handleEvent event index)⟩ :=
  returns_attempt

@[simp] theorem faults_handleEvent {event : Event} {index : Nat} : ¬ Faults (handleEvent env event index) s :=
  faults_attempt

@[simp] theorem returns_record {u : PUnit} : Returns (record op ok) s u t ↔ t = s.push ⟨op, ok⟩ :=
  returns_modify

theorem record_done : Returns (record op ok) s ⟨⟩ (s.push ⟨op, ok⟩) :=
  returns_record.mpr rfl

@[simp] theorem faults_record : ¬ Faults (record op ok) s :=
  faults_modify

end Steps

def emptyServiceID : ServiceID := newACIServiceID UUID.nil

def ServiceID.isEmpty (serviceID : ServiceID) : Bool := serviceID.uuid = UUID.nil

-- ServiceIDType.String has a name for these types and panics on the others.
def hasName (type : ServiceIDType) : Bool := type = serviceIDTypeACI || type = serviceIDTypePNI

def toUpper (b : UInt8) : UInt8 := if 97 ≤ b ∧ b ≤ 122 then b - 32 else b

def pniPrefix : Bytes := [80, 78, 73, 58]

-- uuid.Parse returns a value with an error too. Most callers look at the error first.
def Parsed.toOption (parsed : UUID × Bool) : Option UUID := if parsed.2 then some parsed.1 else none

def serviceIDFromString (val : Bytes) : Option ServiceID :=
  if val.length < 36 then none
  else if (val.take 4).map toUpper = pniPrefix then
    (Parsed.toOption (env.parseUUID (val.drop 4))).map newPNIServiceID
  else (Parsed.toOption (env.parseUUID val)).map newACIServiceID

def serviceIDFromBytes (bytes : Bytes) : Option ServiceID :=
  if h : bytes.length = 16 then some (newACIServiceID (UUID.ofBytes bytes h))
  else
    match bytes with
    | [] => none
    | type :: rest => if h : rest.length = 16 then some ⟨type, UUID.ofBytes rest h⟩ else none

def parseStringOrBinaryServiceID (str : Bytes) (bytes : Option Bytes) : Option ServiceID :=
  if str ≠ [] then serviceIDFromString env str else bytes.bind serviceIDFromBytes

def parseStringOrBinaryUUID (str : Bytes) (bytes : Option Bytes) : UUID × Bool :=
  if str ≠ [] then env.parseUUID str
  else
    match bytes with
    | none => (UUID.nil, false)
    | some b => if h : b.length = 16 then (UUID.ofBytes b h, true) else (UUID.nil, false)

def address (serviceID : ServiceID) (deviceID : UInt32) : Option Address :=
  if ServiceID.isEmpty serviceID then none
  else if env.newAddress serviceID deviceID then some ⟨serviceID, deviceID⟩
  else none

-- The name of an address with a nameless type is not a service ID.
def Address.nameServiceID (address : Address) : Option ServiceID :=
  if hasName address.serviceID.type then some address.serviceID else none

-- DecryptionResult without the fields that only a retry request reads.
structure DecryptionResult where
  senderAddress : Option Address := none
  ciphertextHash : Option Bytes := none
  content : Option Content := none
  contentHint : ContentHint := .default
  err : Option DecryptionError := none
  unencrypted : Bool := false
  retriable : Bool := false

variable (ciphertext : Bytes)

-- The plaintext comes from the buffer, where NULL stands for an event that was processed, or from
-- a transaction that decrypts the ciphertext and buffers the plaintext.
def bufferedDecryptTxn (decrypt : Except ExternalError Bytes) :
    Prog Panic State (Except DecryptionError Bytes) := do
  match env.getBufferedEventError with
  | some err => pure (.error (.external err))
  | none =>
    match (← get).buffer (env.sha256 ciphertext) with
    | some (some plaintext) => pure (.ok plaintext)
    | some none => pure (.error .eventAlreadyProcessed)
    | none =>
      match decrypt, env.decryptionTxnError with
      | .error err, _ => pure (.error (.external err))
      | .ok _, some err => pure (.error (.external err))
      | .ok plaintext, none => do
        modify (·.putBufferedEvent (env.sha256 ciphertext) plaintext)
        pure (.ok plaintext)

variable (type : CiphertextType) (sender : Address)

def decryptContent (ciphertext : Bytes) :
    Prog Panic State (Except DecryptionError DecryptionResult) := do
  match ← bufferedDecryptTxn env ciphertext (env.decrypt type sender ciphertext) with
  | .error err => pure (.error err)
  | .ok plaintext =>
    match (Padding.stripPadding plaintext).toOption.bind env.unmarshalContent with
    | none => pure (.error (.external .other))
    | some content =>
      pure (.ok {
        senderAddress := some sender
        content := some content
        ciphertextHash := some (env.sha256 ciphertext) })

variable (destination : ServiceID)

def decryptWithSession (sender : Address) (ciphertext : Bytes) :
    Prog Panic State (Except DecryptionError DecryptionResult) :=
  if env.deserialize type ciphertext && env.hasStores destination &&
      (address env destination env.deviceID).isSome then
    decryptContent env type sender ciphertext
  else pure (.error (.external .other))

def prekeyDecrypt : ServiceID → Address → Bytes → Prog Panic State (Except DecryptionError DecryptionResult) :=
  decryptWithSession env .preKey

def decryptCiphertextEnvelope :
    ServiceID → Address → Bytes → Prog Panic State (Except DecryptionError DecryptionResult) :=
  decryptWithSession env .whisper

def decryptSenderKeyMessage : Address → Bytes → Prog Panic State (Except DecryptionError DecryptionResult) :=
  decryptContent env .senderKey

-- An error keeps what is known of the sender. It is retriable if the content hint says so.
def sealedResult (known : DecryptionResult) :
    Except DecryptionError DecryptionResult → DecryptionResult
  | .ok result => result
  | .error err => { known with err := some err, retriable := known.contentHint = .resendable }

def decryptSealedContents (type : CiphertextType) (sender : Address) (contents : Bytes) (known : DecryptionResult) :
    Prog Panic State DecryptionResult :=
  match type with
  | .senderKey => do pure (sealedResult known (← decryptSenderKeyMessage env sender contents))
  | .preKey => do pure (sealedResult known (← prekeyDecrypt env destination sender contents))
  | .whisper => do pure (sealedResult known (← decryptCiphertextEnvelope env destination sender contents))
  | .plaintext =>
    match Padding.stripPadding contents with
    | .error _ => pure { known with err := some (.external .other), unencrypted := true }
    | .ok message =>
      pure { known with
        unencrypted := true, content := some { content := some (.decryptionErrorMessage message) } }
  | .other => pure { known with err := some (.external .other) }

def failedResult (err : ExternalError) : DecryptionResult := { err := some (.external err) }

def decryptUnidentifiedSenderEnvelope (envelope : Envelope) :
    Prog Panic State DecryptionResult :=
  if destination ≠ env.aciServiceID then pure (failedResult .other)
  else
    match env.sealedSenderDecrypt envelope.content envelope.serverTimestamp with
    | .error err => pure (failedResult err)
    | .ok usmc =>
      if usmc.senderUUID = env.aci ∧ usmc.senderDeviceID = env.deviceID then pure (failedResult .other)
      else
        match address env (newACIServiceID usmc.senderUUID) usmc.senderDeviceID with
        | none => pure (failedResult .other)
        | some sender =>
          let known : DecryptionResult := { senderAddress := some sender, contentHint := usmc.contentHint }
          match usmc.contents with
          | .error err => pure { known with err := some (.external err) }
          | .ok (e164, contents) => do
            let _ ← attemptIf env (e164 ≠ [])
              (.updateRecipientE164 (newACIServiceID usmc.senderUUID) e164)
            decryptSealedContents env destination usmc.messageType sender contents known

def identifiedResult : Except DecryptionError DecryptionResult → DecryptionResult
  | .ok result => result
  | .error err => { senderAddress := some sender, err := some err, retriable := true }

def decryptEnvelope (envelope : Envelope) (source destination : ServiceID) :
    Prog Panic State DecryptionResult :=
  if ServiceID.isEmpty destination then pure (failedResult .other)
  else
    match envelope.type with
    -- *envelope.Type
    | none => throw .nilDereference
    | some .unidentifiedSender => decryptUnidentifiedSenderEnvelope env destination envelope
    | some .prekeyMessage =>
      match address env source envelope.sourceDeviceID with
      | none => pure (failedResult .other)
      | some sender => do
        pure (identifiedResult sender (← prekeyDecrypt env destination sender envelope.content))
    | some .doubleRatchet =>
      match address env source envelope.sourceDeviceID with
      | none => pure (failedResult .other)
      | some sender => do
        pure (identifiedResult sender (← decryptCiphertextEnvelope env destination sender envelope.content))
    | some .plaintextContent =>
      match address env source envelope.sourceDeviceID, Padding.stripPadding envelope.content with
      | some sender, .ok content =>
        pure {
          senderAddress := some sender
          unencrypted := true
          content := some { content := some (.decryptionErrorMessage content) } }
      | _, _ => pure (failedResult .other)
    | some .serverDeliveryReceipt => pure (failedResult .other)
    | some .unknown => pure (failedResult .other)
    | some .other => pure (failedResult .other)

end MautrixSignal.Receive
