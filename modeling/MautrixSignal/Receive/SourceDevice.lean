import MautrixSignal.Calls
import MautrixSignal.Receive

namespace MautrixSignal.Receive

open Lib

variable {message : CallMessage} {envelope : Envelope} {content : Content} {destination : ServiceID}
  {sender : Address} {result : DecryptionResult} {s t : State}

section Logs

variable {env : Env} {α β : Type} {m : Prog Panic State α} {k : α → Prog Panic State β}
  {allowed : Op → Prop} {op : Op}

def Logs (allowed : Op → Prop) (m : Prog Panic State α) : Prop :=
  ∀ s a t, Returns m s a t → ∃ entries, t.log = s.log ++ entries ∧ ∀ entry ∈ entries, allowed entry.op

theorem Logs.pure {a : α} : Logs allowed (pure a : Prog Panic State α) := by
  intro s b t h
  obtain ⟨-, rfl⟩ := returns_pure.mp h
  exact ⟨[], by simp, by simp⟩

theorem Logs.bind (hm : Logs allowed m) (hk : ∀ a, Logs allowed (k a)) : Logs allowed (m >>= k) := by
  intro s b u h
  obtain ⟨a, t, ha, hb⟩ := returns_bind.mp h
  obtain ⟨first, hfirst, hall⟩ := hm s a t ha
  obtain ⟨second, hsecond, hall'⟩ := hk a t b u hb
  refine ⟨first ++ second, by rw [hsecond, hfirst, List.append_assoc], ?_⟩
  intro entry hentry
  rcases List.mem_append.mp hentry with h | h
  · exact hall entry h
  · exact hall' entry h

theorem Logs.guard {m : Prog Panic State Bool} {yes no : Prog Panic State β} (hm : Logs allowed m)
    (hyes : Logs allowed yes) (hno : Logs allowed no) : Logs allowed (do if ← m then yes else no) := by
  refine hm.bind fun a => ?_
  split
  · exact hyes
  · exact hno

theorem logs_attempt (h : allowed op) : Logs allowed (attempt env op) := by
  intro s a t hret
  obtain ⟨-, rfl⟩ := returns_attempt.mp hret
  exact ⟨[_], rfl, by simpa using h⟩

theorem logs_attemptIf {condition : Bool} (h : allowed op) : Logs allowed (attemptIf env condition op) := by
  unfold attemptIf
  split
  · exact logs_attempt h
  · exact .pure

theorem logs_record {ok : Bool} (h : allowed op) : Logs allowed (record op ok) := by
  intro s a t hret
  obtain rfl := returns_record.mp hret
  exact ⟨[_], rfl, by simpa using h⟩

end Logs

variable {env : Env}

-- The one-to-one call event that a step hands over. Group call updates have no call message.
def Op.callEvent : Op → Option CallEvent
  | .handleEvent (.call call) _ => if call.message.isSome then some call else none
  | _ => none

def FromDevice (device : UInt32) (op : Op) : Prop :=
  ∀ call, op.callEvent = some call → call.info.sourceDeviceID = device

theorem fromDevice_of_none {device : UInt32} {op : Op} (h : op.callEvent = none) : FromDevice device op := by
  intro call hcall
  rw [h] at hcall
  cases hcall

section

variable {device : UInt32}

theorem logs_other {op : Op} (h : op.callEvent = none) : Logs (FromDevice device) (attempt env op) :=
  logs_attempt (fromDevice_of_none h)

theorem logs_getIdentityKey {serviceID : ServiceID} {afterFetch : Bool} :
    Logs (FromDevice device) (getIdentityKey env serviceID afterFetch) :=
  (logs_other rfl).guard .pure .pure

theorem logs_pniIdentityFound {pni : ServiceID} : Logs (FromDevice device) (pniIdentityFound env pni) := by
  refine logs_getIdentityKey.bind fun found => ?_
  match found with
  | none | some true => exact .pure
  | some false => exact (logs_other rfl).guard (logs_getIdentityKey.bind fun _ => .pure) .pure

theorem logs_handlePNISignature {message : Option PniSignatureMessage} {sender : ServiceID} :
    Logs (FromDevice device) (handlePNISignature env message sender) := by
  unfold handlePNISignature handlePNISignatureMessage
  split
  · exact .pure
  split
  · exact .pure
  split
  · refine logs_pniIdentityFound.guard (logs_getIdentityKey.bind fun found => ?_) .pure
    split
    · exact (logs_other rfl).guard
        ((logs_other rfl).bind fun _ => (logs_other rfl).bind fun _ => .pure) .pure
    · exact .pure
  · exact .pure

theorem logs_prepareSender {sender : ServiceID} :
    Logs (FromDevice device) (prepareSender env content destination sender) :=
  (logs_attemptIf (fromDevice_of_none rfl)).bind fun _ => logs_handlePNISignature.bind fun _ =>
    (logs_other rfl).guard .pure .pure

theorem logs_processSenderKeyDistribution {message : Option Bytes} :
    Logs (FromDevice device) (processSenderKeyDistribution env message sender) := by
  cases message with
  | none => exact .pure
  | some message => exact (logs_other rfl).guard (logs_other rfl) .pure

theorem logs_handleCallEvents {index : Nat} {ok : Bool} {events : List CallEvent}
    (h : ∀ call ∈ events, call.info.sourceDeviceID = device) :
    Logs (FromDevice device) (handleCallEvents env index ok events) := by
  induction events generalizing index ok with
  | nil => exact .pure
  | cons event rest ih =>
    refine (logs_attempt ?_).bind fun _ => ih fun call hcall => h call (List.mem_cons_of_mem _ hcall)
    intro call hcall
    simp only [Op.callEvent, Option.ite_none_right_eq_some, Option.some.injEq] at hcall
    obtain ⟨-, rfl⟩ := hcall
    exact h event List.mem_cons_self

theorem logs_clearPlaintext {ok : Bool} : Logs (FromDevice device) (clearPlaintext env result ok) := by
  unfold clearPlaintext
  split
  · exact .pure
  split
  · refine (logs_other rfl).guard ?_ .pure
    intro s a t h
    obtain rfl := returns_modify.mp h
    exact ⟨[], by simp [State.clearBufferedEventPlaintext], by simp⟩
  · exact .pure

end

section

variable {device : UInt32}

theorem logs_sendDeliveryReceipts {timestamp : UInt64} {aci : UUID} :
    Logs (FromDevice device) (sendDeliveryReceipts env timestamp aci) := by
  unfold sendDeliveryReceipts
  split
  · exact .pure
  · split
    · exact fun s a t h => absurd h returns_throw
    · exact logs_record (fromDevice_of_none rfl)
    · exact logs_record (fromDevice_of_none rfl)

theorem logs_handleDecryptionError {err : DecryptionError} :
    Logs (FromDevice device) (handleDecryptionError env result err envelope sender) := by
  unfold handleDecryptionError
  split
  · exact .pure
  · refine (logs_attemptIf (fromDevice_of_none rfl)).bind fun _ => Logs.bind ?_ fun _ => .pure
    unfold startRetryRequest
    split
    · exact logs_record (fromDevice_of_none rfl)
    · exact .pure

end

theorem parseCallMessage_info {codec : CallCodec} {info : MessageInfo} {timestamp : UInt64} {call : CallEvent}
    (h : call ∈ parseCallMessage codec message info timestamp) : call.info = info := by
  obtain ⟨parsed, -, rfl⟩ := List.mem_map.mp h
  rfl

theorem logs_handleContentMessage {sender : ServiceID} {isBlocked : Bool} :
    Logs (FromDevice envelope.sourceDeviceID)
      (handleContentMessage env envelope sender isBlocked (some (.callMessage message))) := by
  simp only [handleContentMessage]
  split
  · exact .pure
  · refine Logs.bind (logs_handleCallEvents fun call hmem => ?_) fun _ => .pure
    rw [parseCallMessage_info hmem]
    rfl

theorem logs_handleContent (hcall : content.content = some (.callMessage message)) :
    Logs (FromDevice envelope.sourceDeviceID) (handleContent env content envelope destination sender) := by
  refine logs_processSenderKeyDistribution.guard (logs_prepareSender.bind fun isBlocked => ?_) .pure
  rw [hcall]
  refine logs_handleContentMessage.bind fun result => ?_
  split
  · exact logs_sendDeliveryReceipts.bind fun _ => .pure
  · exact .pure

theorem logs_handleResult (hcont : result.content = some content)
    (hcall : content.content = some (.callMessage message)) :
    Logs (FromDevice envelope.sourceDeviceID) (handleResult env result envelope destination) := by
  unfold handleResult
  split
  · exact .pure
  split
  · exact .pure
  split
  · exact .pure
  split
  · exact logs_handleDecryptionError
  · exact .pure
  rename_i other _ hother
  obtain rfl := Option.some.inj (hcont.symm.trans hother)
  unfold handleDecryptedContent
  rw [hcall]
  dsimp only
  split
  · exact .pure
  · exact logs_handleContent hcall

theorem logs_handleDecryptedResult (hcont : result.content = some content)
    (hcall : content.content = some (.callMessage message)) :
    Logs (FromDevice envelope.sourceDeviceID) (handleDecryptedResult env result envelope destination) := by
  unfold handleDecryptedResult
  split
  · exact .pure
  · split
    · exact .pure
    · refine Logs.bind (fun s a t h => ?_) fun _ => logs_clearPlaintext.bind fun _ => .pure
      exact logs_handleResult hcont hcall s a t (returns_onFault.mp h)

variable {type : CiphertextType}

theorem sender_decryptContent {ciphertext : Bytes}
    (h : Returns (decryptContent env type sender ciphertext) s (.ok result) t) :
    result.senderAddress = some sender := by
  obtain ⟨decrypted, u, -, h⟩ := returns_bind.mp h
  split at h
  · cases (returns_pure.mp h).1
  · split at h
    · cases (returns_pure.mp h).1
    · cases (returns_pure.mp h).1
      rfl

theorem sender_decryptWithSession {ciphertext : Bytes}
    (h : Returns (decryptWithSession env type destination sender ciphertext) s (.ok result) t) :
    result.senderAddress = some sender := by
  unfold decryptWithSession at h
  split at h
  · exact sender_decryptContent h
  · cases (returns_pure.mp h).1

variable {decrypted : Except DecryptionError DecryptionResult}

theorem sender_sealedResult {known : DecryptionResult} (hknown : known.senderAddress = some sender)
    (hdecrypted : ∀ ok, decrypted = .ok ok → ok.senderAddress = some sender)
    (h : sealedResult known decrypted = result) : result.senderAddress = some sender := by
  subst h
  cases decrypted with
  | ok result => exact hdecrypted result rfl
  | error err => exact hknown

theorem sender_decryptSealedContents {contents : Bytes} {known : DecryptionResult}
    (hknown : known.senderAddress = some sender)
    (h : Returns (decryptSealedContents env destination type sender contents known) s result t) :
    result.senderAddress = some sender := by
  unfold decryptSealedContents at h
  split at h
  · obtain ⟨decrypted, u, hdecrypted, h⟩ := returns_bind.mp h
    refine sender_sealedResult hknown ?_ (returns_pure.mp h).1
    rintro ok rfl
    exact sender_decryptContent hdecrypted
  · obtain ⟨decrypted, u, hdecrypted, h⟩ := returns_bind.mp h
    refine sender_sealedResult hknown ?_ (returns_pure.mp h).1
    rintro ok rfl
    exact sender_decryptWithSession hdecrypted
  · obtain ⟨decrypted, u, hdecrypted, h⟩ := returns_bind.mp h
    refine sender_sealedResult hknown ?_ (returns_pure.mp h).1
    rintro ok rfl
    exact sender_decryptWithSession hdecrypted
  · split at h
    all_goals
      obtain ⟨rfl, -⟩ := returns_pure.mp h
      exact hknown
  · obtain ⟨rfl, -⟩ := returns_pure.mp h
    exact hknown

theorem address_deviceID {serviceID : ServiceID} {device : UInt32}
    (h : address env serviceID device = some sender) : sender.deviceID = device := by
  unfold address at h
  split at h
  · cases h
  · split at h
    · cases h
      rfl
    · cases h

theorem device_decryptUnidentifiedSenderEnvelope
    (h : Returns (decryptUnidentifiedSenderEnvelope env destination envelope) s result t)
    (hsnd : result.senderAddress = some sender) :
    ∃ usmc, env.sealedSenderDecrypt envelope.content envelope.serverTimestamp = .ok usmc ∧
      usmc.senderDeviceID = sender.deviceID := by
  unfold decryptUnidentifiedSenderEnvelope at h
  have hfail {err : ExternalError} {u : State}
      (h : Returns (pure (failedResult err) : Prog Panic State DecryptionResult) s result u) : False := by
    obtain ⟨rfl, -⟩ := returns_pure.mp h
    cases hsnd
  split at h
  · exact (hfail h).elim
  split at h
  · exact (hfail h).elim
  rename_i usmc husmc
  refine ⟨usmc, husmc, ?_⟩
  split at h
  · exact (hfail h).elim
  split at h
  · exact (hfail h).elim
  rename_i known haddr
  rw [← address_deviceID haddr]
  split at h
  · obtain ⟨rfl, -⟩ := returns_pure.mp h
    rw [Option.some.inj hsnd]
  · obtain ⟨_, u, -, h⟩ := returns_bind.mp h
    have hknown := sender_decryptSealedContents rfl h
    rw [Option.some.inj (hknown.symm.trans hsnd)]

theorem sender_identifiedResult (hdecrypted : ∀ ok, decrypted = .ok ok → ok.senderAddress = some sender)
    (h : identifiedResult sender decrypted = result) : result.senderAddress = some sender := by
  subst h
  cases decrypted with
  | ok result => exact hdecrypted result rfl
  | error err => rfl

theorem device_decryptEnvelope {source : ServiceID}
    (h : Returns (decryptEnvelope env envelope source destination) s result t)
    (hsnd : result.senderAddress = some sender) :
    if envelope.type = some .unidentifiedSender then
      ∃ usmc, env.sealedSenderDecrypt envelope.content envelope.serverTimestamp = .ok usmc ∧
        usmc.senderDeviceID = sender.deviceID
    else sender.deviceID = envelope.sourceDeviceID := by
  unfold decryptEnvelope at h
  have hfail {err : ExternalError} {u : State} {p : Prop}
      (h : Returns (pure (failedResult err) : Prog Panic State DecryptionResult) s result u) : p := by
    obtain ⟨rfl, -⟩ := returns_pure.mp h
    cases hsnd
  have hidentified {known : Address} {type : CiphertextType}
      (haddr : address env source envelope.sourceDeviceID = some known)
      (h : Returns (do pure (identifiedResult known (← decryptWithSession env type destination known
        envelope.content))) s result t) : sender.deviceID = envelope.sourceDeviceID := by
    obtain ⟨decrypted, u, hdecrypted, h⟩ := returns_bind.mp h
    have hknown : result.senderAddress = some known := by
      refine sender_identifiedResult ?_ (returns_pure.mp h).1
      rintro ok rfl
      exact sender_decryptWithSession hdecrypted
    rw [← Option.some.inj (hknown.symm.trans hsnd)]
    exact address_deviceID haddr
  split at h
  · exact hfail h
  split at h
  · exact absurd h returns_throw
  · rename_i htype
    rw [if_pos htype]
    exact device_decryptUnidentifiedSenderEnvelope h hsnd
  · rename_i htype
    rw [if_neg (by simp [htype])]
    split at h
    · exact hfail h
    · exact hidentified ‹_› h
  · rename_i htype
    rw [if_neg (by simp [htype])]
    split at h
    · exact hfail h
    · exact hidentified ‹_› h
  · rename_i htype
    rw [if_neg (by simp [htype])]
    split at h
    · rename_i known _ haddr _
      obtain ⟨rfl, -⟩ := returns_pure.mp h
      rw [← Option.some.inj hsnd]
      exact address_deviceID haddr
    · exact hfail h
  · exact hfail h
  · exact hfail h
  · exact hfail h

def candidateSDP (call : CallEvent) : Bytes :=
  ((call.message.bind (·.iceCandidate)).bind (·.addedV3)).getD []

-- The call bridge takes the event as one from the device: its answer is not dropped, its candidates are
-- kept, and what is sent for an incoming call goes to it.
structure Attributed (device : UInt32) (call : CallEvent) : Prop where
  source : call.info.sourceDeviceID = device
  answer : ∀ (b : Calls.Bridge) i session message, call.message = some message →
    b.activeSession = some (i, session) → session.incoming = false → session.signalID = message.id →
    session.peer.uuid = call.info.sender → device ≠ 0 →
    Calls.findForAnswer b call message = some (.handleRemoteAnswer i call .take)
  taken : ∀ (b : Calls.Bridge) (i : Nat) session ok, b.sessions[i]? = some session →
    session.answering = false → session.cancelled = false →
    ∃ session', (Calls.handleRemoteAnswer b i session call ok .take).state.sessions[i]? = some session' ∧
      session'.sourceDevice = device
  candidate : ∀ (b : Calls.Bridge) (i : Nat) session, session.sourceDevice = device →
    (Calls.handleRemoteICE b i session call).state = b.modifySession i (fun s =>
        { s with pendingICE := s.pendingICE ++ [⟨device, candidateSDP call⟩] }) ∨
      ∃ leg, session.signalLeg = some leg ∧
        (Calls.handleRemoteICE b i session call).state = b.addCandidates leg [candidateSDP call]
  reply : ∀ message portal choice, (Calls.incomingSession call message portal choice).sourceDevice = device

theorem attributed_iff {device : UInt32} {call : CallEvent} :
    Attributed device call ↔ call.info.sourceDeviceID = device := by
  refine ⟨fun h => h.source, fun h => ⟨h, ?_, ?_, ?_, fun _ _ _ => h⟩⟩
  · intro b i session message _ hact hincoming hid hpeer hdev
    simp [Calls.findForAnswer, hact, hincoming, hid, hpeer, h, hdev]
  · intro b i session ok hsess hans hcanc
    have hstate : (Calls.handleRemoteAnswer b i session call ok .take).state = b.modifySession i fun s =>
        { s with answering := true, sourceDevice := call.info.sourceDeviceID, pendingICE := [] } := by
      simp [Calls.handleRemoteAnswer, hans, hcanc]
    rw [hstate]
    refine ⟨{ session with answering := true, sourceDevice := call.info.sourceDeviceID, pendingICE := [] },
      ?_, h⟩
    simp only [Calls.Bridge.modifySession, List.getElem?_modify_eq, hsess]
    rfl
  · intro b i session hsess
    have hmatch : ¬ (session.sourceDevice ≠ 0 ∧ session.sourceDevice ≠ call.info.sourceDeviceID) := by
      rw [hsess, h]
      exact fun hne => hne.2 rfl
    simp only [Calls.handleRemoteICE, if_neg hmatch]
    rw [h]
    split
    · exact .inl rfl
    · split
      · exact .inl rfl
      · exact .inr ⟨_, ‹_›, rfl⟩

-- The certificate of a sealed sender names the device that is also on the outside of the envelope. The
-- server leaves that one out.
def OuterDeviceMatches (env : Env) (envelope : Envelope) : Prop :=
  envelope.type = some .unidentifiedSender → ∀ usmc,
    env.sealedSenderDecrypt envelope.content envelope.serverTimestamp = .ok usmc →
      usmc.senderDeviceID = envelope.sourceDeviceID

-- A call message that was decrypted gives events of the device that sent it, exactly if the device on
-- the outside of a sealed sender envelope is the one in the certificate.
theorem call_events_attributed_iff (env : Env) (envelope : Envelope) (result : DecryptionResult)
    (sender : Address) (content : Content) (message : CallMessage) (s₀ s t : State)
    (err : Option ReturnedError)
    (hdec : Returns (decryptEnvelope env envelope (envelope.source env) (envelope.destination env))
      s₀ result s)
    (hsnd : result.senderAddress = some sender) (hcont : result.content = some content)
    (hcall : content.content = some (.callMessage message))
    (hhandle : Returns (handleDecryptedResult env result envelope (envelope.destination env)) s err t) :
    ∃ entries, t.log = s.log ++ entries ∧ ∀ entry ∈ entries, ∀ call, entry.op.callEvent = some call →
      (Attributed sender.deviceID call ↔ OuterDeviceMatches env envelope) := by
  obtain ⟨entries, hlog, hents⟩ := logs_handleDecryptedResult hcont hcall s err t hhandle
  refine ⟨entries, hlog, fun entry hentry call hevt => ?_⟩
  have hdev := device_decryptEnvelope hdec hsnd
  rw [attributed_iff, hents entry hentry call hevt]
  split at hdev
  · rename_i htype
    obtain ⟨usmc, husmc, hsenderDevice⟩ := hdev
    constructor
    · intro houter _ other hother
      cases husmc.symm.trans hother
      exact hsenderDevice.trans houter.symm
    · intro houter
      exact (houter htype usmc husmc).symm.trans hsenderDevice
  · rename_i htype
    exact ⟨fun _ hsealed => absurd hsealed htype, fun _ => hdev.symm⟩

def answerContent : Content where
  content := some (.callMessage { answer := some ⟨7, [0x22, 0]⟩ })

def identifiedEnvelope : Envelope :=
  { envelopeFor .doubleRatchet with
    sourceServiceIDBinary := some (UUID.ofByte 3).bytes
    sourceDeviceID := 2 }

def decryptedAnswer : DecryptionResult where
  senderAddress := some ⟨newACIServiceID (UUID.ofByte 3), 2⟩
  ciphertextHash := some (List.replicate 32 0)
  content := some answerContent

def answerBuffered : State := State.putBufferedEvent ⟨fun _ => none, []⟩ (List.replicate 32 0) [0x80]

def answerEvent (envelope : Envelope) : CallEvent where
  info := callInfo envelope (newACIServiceID (UUID.ofByte 3))
  timestamp := 0
  isRinging := false
  message := some { id := 7, messageType := .answer, destinationDeviceID := 0, answer := some ⟨some {}⟩ }

theorem call_events_attributed_identified_answer :
    ∃ t, Returns (handleDecryptedResult (workingEnv identifiedEnvelope answerContent) decryptedAnswer
        identifiedEnvelope (newACIServiceID (UUID.ofByte 1))) answerBuffered none t ∧
      ⟨.handleEvent (.call (answerEvent identifiedEnvelope)) 0, true⟩ ∈ t.log ∧
      Attributed 2 (answerEvent identifiedEnvelope) := by
  have hdec : Returns (decryptEnvelope (workingEnv identifiedEnvelope answerContent) identifiedEnvelope
      (identifiedEnvelope.source (workingEnv identifiedEnvelope answerContent))
      (identifiedEnvelope.destination (workingEnv identifiedEnvelope answerContent)))
      ⟨fun _ => none, []⟩ decryptedAnswer answerBuffered := rfl
  have hhandle : Returns (handleDecryptedResult (workingEnv identifiedEnvelope answerContent)
      decryptedAnswer identifiedEnvelope (newACIServiceID (UUID.ofByte 1))) answerBuffered none _ := rfl
  obtain ⟨entries, hlog, hents⟩ :=
    call_events_attributed_iff _ _ _ _ _ _ _ _ _ _ hdec rfl rfl rfl hhandle
  have hmem : ⟨.handleEvent (.call (answerEvent identifiedEnvelope)) 0, true⟩ ∈ entries := by
    have hemp : answerBuffered.log = [] := rfl
    rw [hemp, List.nil_append] at hlog
    rw [← hlog]
    exact List.mem_cons_of_mem _ List.mem_cons_self
  refine ⟨_, hhandle, List.mem_cons_of_mem _ List.mem_cons_self, ?_⟩
  exact (hents _ hmem _ rfl).mpr nofun

-- The same answer in a sealed sender envelope comes from device 0 for the bridge, which drops it.
theorem sealed_answer_dropped :
    Returns (decryptEnvelope (workingEnv (envelopeFor .unidentifiedSender) answerContent)
        (envelopeFor .unidentifiedSender) emptyServiceID (newACIServiceID (UUID.ofByte 1)))
        ⟨fun _ => none, []⟩ decryptedAnswer answerBuffered ∧
      ∃ t, Returns (handleDecryptedResult (workingEnv (envelopeFor .unidentifiedSender) answerContent)
          decryptedAnswer (envelopeFor .unidentifiedSender) (newACIServiceID (UUID.ofByte 1)))
          answerBuffered none t ∧
        ⟨.handleEvent (.call (answerEvent (envelopeFor .unidentifiedSender))) 0, true⟩ ∈ t.log ∧
        (answerEvent (envelopeFor .unidentifiedSender)).info.sourceDeviceID = 0 ∧
        ∀ b message, Calls.findForAnswer b (answerEvent (envelopeFor .unidentifiedSender)) message = none := by
  refine ⟨rfl, _, rfl, List.mem_cons_of_mem _ List.mem_cons_self, rfl, ?_⟩
  intro b message
  unfold Calls.findForAnswer
  split
  · rfl
  · exact if_pos (.inr (.inr (.inr rfl)))

end MautrixSignal.Receive
