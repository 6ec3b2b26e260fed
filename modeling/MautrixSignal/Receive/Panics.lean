import MautrixSignal.Receive
import MautrixSignal.Receive.ContactPanics

namespace MautrixSignal.Receive

open Lib

variable {env : Env} {s t : State} {author : UUID} {profileKey : Option Bytes} {group : Option GroupContextV2}
  {isBlocked : Bool} {chatRecipient destination source : ServiceID} {serverTimestamp : UInt64}
  {envelope : Envelope} {sender : Address} {content : Content} {result : DecryptionResult}
  {ciphertext : Bytes}

@[simp] theorem faults_toArray {length : Nat} {slice : Bytes} :
    Faults (toArray length slice) s ↔ slice.length < length := by
  simp [toArray]

@[simp] theorem returns_toArray {length : Nat} {slice array : Bytes} :
    Returns (toArray length slice) s array t ↔
      length ≤ slice.length ∧ array = slice.take length ∧ t = s := by
  simp only [toArray, returns_ite, returns_throw, returns_pure]
  split <;> grind

@[simp] theorem faults_storeMasterKey {masterKey : Bytes} : ¬ Faults (storeMasterKey env masterKey) s := by
  simp [storeMasterKey]

theorem faults_storyProfileKey :
    Faults (storyProfileKey env author profileKey) s ↔
      ∃ key, profileKey = some key ∧ key.length < profileKeyLength := by
  cases profileKey <;> simp [storyProfileKey]

theorem returns_storyProfileKey_true :
    (∃ t, Returns (storyProfileKey env author profileKey) s true t) ↔
      ∀ key, profileKey = some key → profileKeyLength ≤ key.length ∧
        env.succeeds (.storeProfileKey author (key.take profileKeyLength)) = true := by
  cases profileKey with
  | none | some key => simp [storyProfileKey]

theorem faults_storyChat :
    Faults (storyChat env group isBlocked) s ↔
      ∃ g, group = some g ∧ g.masterKey.length < groupMasterKeyLength := by
  cases group with
  | none => simp [storyChat]
  | some g =>
    simp only [storyChat, faults_bind, faults_toArray, faults_storeMasterKey, false_or,
      Option.some.injEq, exists_eq_left']
    constructor
    · rintro (h | ⟨_, _, _, chat, _, _, h⟩)
      · exact h
      · cases chat <;> exact absurd h faults_pure
    · exact .inl

def StoryCrashes (env : Env) (author : UUID) (story : StoryMessage) : Prop :=
  (∃ key, story.profileKey = some key ∧ key.length < profileKeyLength) ∨
    ((∀ key, story.profileKey = some key →
        env.succeeds (.storeProfileKey author (key.take profileKeyLength)) = true) ∧
      ∃ group, story.group = some group ∧ group.masterKey.length < groupMasterKeyLength)

theorem faults_incomingStoryMessage {story : StoryMessage} {timestamp : UInt64} :
    Faults (incomingStoryMessage env story author chatRecipient timestamp serverTimestamp isBlocked) s ↔
      StoryCrashes env author story := by
  unfold incomingStoryMessage
  rw [faults_bind, faults_storyProfileKey]
  constructor
  · rintro (h | ⟨ok, t, hkey, h⟩)
    · exact .inl h
    · cases ok with
      | false => exact absurd h faults_pure
      | true =>
        have hsaved := returns_storyProfileKey_true.mp ⟨t, hkey⟩
        rw [if_pos rfl, faults_bind, faults_storyChat] at h
        rcases h with h | ⟨chat, u, -, h⟩
        · exact .inr ⟨fun key hk => (hsaved key hk).2, h⟩
        · cases chat with
          | failed | dropped => exact absurd h faults_pure
          | found groupID revision => simp at h
  · rintro (h | ⟨hsaved, h⟩)
    · exact .inl h
    · by_cases hshort : ∃ key, story.profileKey = some key ∧ key.length < profileKeyLength
      · exact .inl hshort
      · obtain ⟨t, ht⟩ := returns_storyProfileKey_true (s := s) |>.mpr
          fun key hk => ⟨Nat.not_lt.mp fun hlt => hshort ⟨key, hk, hlt⟩, hsaved key hk⟩
        refine .inr ⟨true, t, ht, ?_⟩
        rw [if_pos rfl, faults_bind, faults_storyChat]
        exact .inl h

@[simp] theorem faults_messageChat : ¬ Faults (messageChat env group isBlocked) s := by
  unfold messageChat
  split
  · rw [faults_ite]
    split
    · exact faults_pure
    · refine not_faults_bind faults_storeMasterKey fun a t => ?_
      cases a <;> exact faults_pure
  · exact faults_pure

theorem faults_incomingEditMessage {message : EditMessage} {sender : UUID} :
    ¬ Faults (incomingEditMessage env message sender chatRecipient serverTimestamp isBlocked) s := by
  refine not_faults_bind faults_messageChat fun chat t => ?_
  cases chat <;> simp

@[simp] theorem faults_saveProfileKey {sender : UUID} : ¬ Faults (saveProfileKey env sender profileKey) s := by
  cases profileKey <;> simp [saveProfileKey]

theorem faults_incomingDataMessage {message : DataMessage} {sender : UUID} {envelope : Option Envelope} :
    ¬ Faults (incomingDataMessage env message sender chatRecipient serverTimestamp isBlocked envelope) s := by
  refine not_faults_bind faults_saveProfileKey fun ok t => ?_
  cases ok with
  | false => exact faults_pure
  | true =>
    refine not_faults_bind faults_messageChat fun chat u => ?_
    cases chat <;> simp

def InChat (env : Env) (group : Option GroupContextV2) (isBlocked : Bool) (groupID : String)
    (revision : UInt32) : Prop :=
  match group with
  | none => isBlocked = false ∧ groupID = "" ∧ revision = 0
  | some g =>
    g.masterKey.length = groupMasterKeyLength ∧
      env.succeeds (.groupIdentifierFromMasterKey g.masterKey) = true ∧
      env.succeeds (.storeMasterKey (env.groupIdentifier g.masterKey) g.masterKey) = true ∧
      groupID = env.groupIdentifier g.masterKey ∧ revision = g.revision

theorem returns_storeMasterKey_some {masterKey : Bytes} {groupID : String} :
    (∃ t, Returns (storeMasterKey env masterKey) s (some groupID) t) ↔
      env.succeeds (.groupIdentifierFromMasterKey masterKey) = true ∧
        env.succeeds (.storeMasterKey (env.groupIdentifier masterKey) masterKey) = true ∧
        groupID = env.groupIdentifier masterKey := by
  cases h : env.succeeds (.groupIdentifierFromMasterKey masterKey) <;>
    cases h' : env.succeeds (.storeMasterKey (env.groupIdentifier masterKey) masterKey) <;>
      simp [storeMasterKey, h, h', eq_comm]

theorem returns_messageChat_found {groupID : String} {revision : UInt32} :
    (∃ t, Returns (messageChat env group isBlocked) s (.found groupID revision) t) ↔
      InChat env group isBlocked groupID revision := by
  cases group with
  | none => cases isBlocked <;> simp [messageChat, InChat, eq_comm]
  | some g =>
    simp only [messageChat, InChat]
    by_cases hlen : g.masterKey.length = groupMasterKeyLength
    · simp only [hlen, ne_eq, not_true_eq_false, if_false, true_and, returns_bind]
      rw [← and_assoc (a := env.succeeds _ = true), ← and_assoc]
      constructor
      · rintro ⟨t, chat, u, h, h'⟩
        cases chat with
        | none => simp at h'
        | some id =>
          obtain ⟨hid, rfl⟩ := returns_pure.mp h'
          cases hid
          obtain ⟨h1, h2, h3⟩ := returns_storeMasterKey_some.mp ⟨u, h⟩
          exact ⟨⟨⟨h1, h2⟩, h3⟩, rfl⟩
      · rintro ⟨⟨⟨h1, h2⟩, h3⟩, rfl⟩
        obtain ⟨t, h⟩ := returns_storeMasterKey_some.mpr ⟨h1, h2, h3⟩
        exact ⟨t, _, t, h, returns_pure.mpr ⟨rfl, rfl⟩⟩
    · simp [hlen]

@[simp] theorem faults_saveUnidentifiedStatus {index : Nat} {statuses : List UnidentifiedStatus} :
    ¬ Faults (saveUnidentifiedStatus env index statuses) s := by
  induction statuses generalizing index s with
  | nil => exact faults_pure
  | cons status rest ih =>
    unfold saveUnidentifiedStatus
    split
    · rw [faults_ite]
      split
      · exact not_faults_bind faults_attempt fun _ _ => ih
      · exact ih
    · exact ih

theorem faults_handleSyncSentMessage {sent : SentMessage} : ¬ Faults (handleSyncSentMessage env sent envelope) s := by
  refine not_faults_bind faults_attemptIf fun _ t => ?_
  refine not_faults_bind faults_saveUnidentifiedStatus fun _ u => ?_
  split
  · exact faults_pure
  · split
    · exact not_faults_bind faults_incomingDataMessage fun _ _ => faults_pure
    · exact not_faults_bind faults_incomingEditMessage fun _ _ => faults_pure
    · exact faults_pure

def SentStoryCrashes (env : Env) (sent : SentMessage) : Prop :=
  ∃ story, sent.storyMessage = some story ∧ story.group.isSome = true ∧ StoryCrashes env env.aci story

theorem faults_handleSyncSent {sent : SentMessage} :
    Faults (handleSyncSent env sent envelope) s ↔ SentStoryCrashes env sent := by
  unfold handleSyncSent SentStoryCrashes
  cases sent.storyMessage with
  | none =>
    refine iff_of_false ?_ nofun
    dsimp only
    split
    · exact not_faults_bind faults_handleSyncSentMessage fun _ _ => faults_pure
    · exact faults_pure
  | some story =>
    cases hgroup : story.group.isSome with
    | false => simp [hgroup]
    | true => simp [faults_incomingStoryMessage]

@[simp] theorem faults_handleSyncKeys {accountEntropyPool : Bytes} :
    ¬ Faults (handleSyncKeys env accountEntropyPool) s := by
  refine not_faults_bind faults_attemptIf fun _ t => ?_
  simp

@[simp] theorem faults_handleMessageRequestResponse {response : RequestResponse} :
    ¬ Faults (handleMessageRequestResponse env response envelope) s := by
  refine not_faults_bind faults_attemptIf fun _ u => ?_
  simp

def SyncCrashes (env : Env) : SyncContent → Prop
  | .sent sent => SentStoryCrashes env sent
  | .contacts (some blob) => ContactSyncCrashes env blob
  | _ => False

theorem faults_handleSyncMessage {message : SyncMessage} :
    Faults (handleSyncMessage env message envelope) s ↔ SyncCrashes env message.content := by
  unfold handleSyncMessage
  split <;> simp [*, SyncCrashes, faults_handleSyncSent, faults_handleSyncContacts]

@[simp] theorem faults_handleCallEvents {index : Nat} {handlerSuccess : Bool} {events : List CallEvent} :
    ¬ Faults (handleCallEvents env index handlerSuccess events) s := by
  induction events generalizing index handlerSuccess s with
  | nil => exact faults_pure
  | cons event rest ih => exact not_faults_bind faults_handleEvent fun _ _ => ih

def MessageCrashes (env : Env) (sender : ServiceID) : Option ContentMessage → Prop
  | some (.syncMessage message) => sender = env.aciServiceID ∧ SyncCrashes env message.content
  | some (.storyMessage message) => StoryCrashes env sender.uuid message
  | _ => False

theorem faults_handleContentMessage {sender : ServiceID} {content : Option ContentMessage} :
    Faults (handleContentMessage env envelope sender isBlocked content) s ↔
      MessageCrashes env sender content := by
  unfold handleContentMessage MessageCrashes
  split
  · by_cases h : sender = env.aciServiceID <;> simp [faults_handleSyncMessage]
  · exact iff_of_false (not_faults_bind faults_incomingDataMessage fun _ _ => faults_pure) id
  · exact iff_of_false (not_faults_bind faults_incomingEditMessage fun _ _ => faults_pure) id
  · simp
  · simp
  · simp
  · simp [faults_incomingStoryMessage]
  · simp
  · simp
  · simp

def SavesProfileKey (env : Env) (sender : UUID) (profileKey : Option Bytes) : Prop :=
  ∀ key, profileKey = some key → key.length = profileKeyLength →
    env.succeeds (.storeProfileKey sender key) = true

theorem returns_saveProfileKey_true {sender : UUID} :
    (∃ t, Returns (saveProfileKey env sender profileKey) s true t) ↔
      SavesProfileKey env sender profileKey := by
  unfold saveProfileKey SavesProfileKey
  cases profileKey with
  | none => simp
  | some key => by_cases hlen : key.length = profileKeyLength <;> simp [hlen]

def AsksForReceipt (env : Env) (envelope : Envelope) (sender : ServiceID) (isBlocked : Bool) (receipt : UInt64) :
    Option ContentMessage → Prop
  | some (.dataMessage message) =>
    receipt = message.timestamp ∧ SavesProfileKey env sender.uuid message.profileKey ∧ ∃ groupID revision,
      InChat env message.groupV2 isBlocked groupID revision ∧
        env.succeeds (.handleEvent (dataMessageEvent env message groupID (withEnvelope env (some envelope)
          (messageInfo sender.uuid sender groupID revision envelope.serverTimestamp))) 0) = true
  | some (.editMessage message) =>
    receipt = (message.dataMessage.map (·.timestamp)).getD 0 ∧ ∃ groupID revision,
      InChat env (message.dataMessage.bind (·.groupV2)) isBlocked groupID revision ∧
        env.succeeds (.handleEvent (.chatEvent
          (messageInfo sender.uuid sender groupID revision envelope.serverTimestamp) (.edit message)) 0) = true
  | _ => False

theorem returns_chat_receipt {event : String → UInt32 → Event} :
    (∃ t, Returns (do
        match ← messageChat env group isBlocked with
        | .failed => pure (false, false)
        | .dropped => pure (true, false)
        | .found groupID revision => do pure (← handleEvent env (event groupID revision), true)) s (true, true) t) ↔
      ∃ groupID revision, InChat env group isBlocked groupID revision ∧
        env.succeeds (.handleEvent (event groupID revision) 0) = true := by
  constructor
  · rintro ⟨t, h⟩
    obtain ⟨chat, v, hchat, h⟩ := returns_bind.mp h
    cases chat with
    | failed | dropped => simp at h
    | found groupID revision =>
      refine ⟨groupID, revision, returns_messageChat_found.mp ⟨v, hchat⟩, ?_⟩
      obtain ⟨ok, w, hevt, h⟩ := returns_bind.mp h
      rw [returns_pure, Prod.mk.injEq] at h
      rw [← (returns_handleEvent.mp hevt).1, h.1.1]
  · rintro ⟨groupID, revision, hchat, hevt⟩
    obtain ⟨v, hchat⟩ := (returns_messageChat_found (s := s)).mpr hchat
    exact ⟨_, hchat.bind <| (attempt_true hevt).bind <| returns_pure.mpr ⟨rfl, rfl⟩⟩

theorem returns_incomingDataMessage_receipt {message : DataMessage} {sender : UUID}
    {envelope : Option Envelope} :
    (∃ t, Returns (incomingDataMessage env message sender chatRecipient serverTimestamp isBlocked envelope) s
        (true, true) t) ↔
      SavesProfileKey env sender message.profileKey ∧ ∃ groupID revision,
        InChat env message.groupV2 isBlocked groupID revision ∧
          env.succeeds (.handleEvent (dataMessageEvent env message groupID (withEnvelope env envelope
            (messageInfo sender chatRecipient groupID revision serverTimestamp))) 0) = true := by
  constructor
  · rintro ⟨t, h⟩
    obtain ⟨ok, u, hkey, h⟩ := returns_bind.mp h
    cases ok with
    | false => simp at h
    | true => exact ⟨returns_saveProfileKey_true.mp ⟨u, hkey⟩, returns_chat_receipt.mp ⟨t, h⟩⟩
  · rintro ⟨hkey, hchat⟩
    obtain ⟨u, hkey⟩ := (returns_saveProfileKey_true (s := s)).mpr hkey
    obtain ⟨t, hchat⟩ := (returns_chat_receipt (s := u)).mpr hchat
    exact ⟨t, hkey.bind hchat⟩

theorem returns_withReceipt {m : Prog Panic State (Bool × Bool)} {timestamp receipt : UInt64} :
    (∃ t, Returns (do pure (withReceipt timestamp (← m))) s (true, some receipt) t) ↔
      receipt = timestamp ∧ ∃ t, Returns m s (true, true) t := by
  constructor
  · rintro ⟨t, h⟩
    obtain ⟨⟨ok, asks⟩, u, hm, h⟩ := returns_bind.mp h
    obtain ⟨hres, rfl⟩ := returns_pure.mp h
    cases ok <;> cases asks <;> simp_all [withReceipt]
    exact ⟨u, hm⟩
  · rintro ⟨rfl, t, hm⟩
    exact ⟨t, hm.bind (returns_pure.mpr ⟨rfl, rfl⟩)⟩

theorem returns_handleContentMessage_receipt {sender : ServiceID} {content : Option ContentMessage}
    {receipt : UInt64} :
    (∃ t, Returns (handleContentMessage env envelope sender isBlocked content) s (true, some receipt) t) ↔
      AsksForReceipt env envelope sender isBlocked receipt content := by
  unfold handleContentMessage AsksForReceipt
  split
  · simp
  · exact returns_withReceipt.trans (and_congr_right fun _ => returns_incomingDataMessage_receipt)
  · exact returns_withReceipt.trans (and_congr_right fun _ => returns_chat_receipt)
  · simp
  · simp
  · simp
  · simp
  · simp
  · simp
  · simp

def SenderKeyProcessed (env : Env) (message : Option Bytes) (sender : Address) : Prop :=
  ∀ m, message = some m → env.succeeds (.deserializeSenderKeyDistribution m) = true ∧
    env.succeeds (.processSenderKeyDistribution m sender) = true

theorem returns_processSenderKeyDistribution_true {message : Option Bytes} :
    (∃ t, Returns (processSenderKeyDistribution env message sender) s true t) ↔
      SenderKeyProcessed env message sender := by
  unfold processSenderKeyDistribution SenderKeyProcessed
  cases message with
  | none => simp
  | some m =>
    cases h : env.succeeds (.deserializeSenderKeyDistribution m) <;> simp

theorem faults_processSenderKeyDistribution {message : Option Bytes} :
    ¬ Faults (processSenderKeyDistribution env message sender) s := by
  cases message <;> simp [processSenderKeyDistribution]

@[simp] theorem faults_getIdentityKey {serviceID : ServiceID} {afterFetch : Bool} :
    ¬ Faults (getIdentityKey env serviceID afterFetch) s := by
  simp [getIdentityKey]

theorem faults_pniIdentityFound {pni : ServiceID} : ¬ Faults (pniIdentityFound env pni) s := by
  refine not_faults_bind faults_getIdentityKey fun found t => ?_
  match found with
  | none | some true => exact faults_pure
  | some false => simp

theorem faults_handlePNISignature {message : Option PniSignatureMessage} {sender : ServiceID} :
    ¬ Faults (handlePNISignature env message sender) s := by
  unfold handlePNISignature handlePNISignatureMessage
  split
  · exact faults_pure
  rw [faults_ite]
  split
  · exact faults_pure
  · split
    · refine not_faults_bind faults_pniIdentityFound fun _ _ => ?_
      simp
    · exact faults_pure

-- An error of the check counts as not blocked.
def senderBlocked (env : Env) (aci : UUID) : Bool := env.succeeds (.isBlocked aci) && env.blocked aci

theorem prepareSender_returns {sender : ServiceID} :
    ∃ t, Returns (prepareSender env content destination sender) s (senderBlocked env sender.uuid) t := by
  have hsafe : ¬ Faults (prepareSender env content destination sender) s :=
    not_faults_bind faults_attemptIf fun _ _ => not_faults_bind faults_handlePNISignature fun _ _ => by simp
  obtain ⟨isBlocked, t, h⟩ := (returns_or_faults _ _).resolve_right hsafe
  suffices hblocked : isBlocked = senderBlocked env sender.uuid from ⟨t, hblocked ▸ h⟩
  obtain ⟨_, _, -, h⟩ := returns_bind.mp h
  obtain ⟨_, _, -, h⟩ := returns_bind.mp h
  unfold senderBlocked
  cases hok : env.succeeds (.isBlocked sender.uuid) <;> simp_all

-- The receipt is sent, and the server answers one of the requests for it with a malformed response.
def ReceiptCrashes (env : Env) (aci : UUID) (receipt : UInt64) : Prop :=
  (env.recipient aci).any Sending.Recipient.probablyMessageRequest = false ∧
    Requests.MeetsMalformed env.requests (newACIServiceID aci) (deliveredReceiptMessage receipt) 4 true env.sendState

theorem faults_sendDeliveryReceipts {aci : UUID} {receipt : UInt64} :
    Faults (sendDeliveryReceipts env receipt aci) s ↔ ReceiptCrashes env aci receipt := by
  unfold sendDeliveryReceipts ReceiptCrashes Requests.sendContent
  rw [← Requests.sendAttempts_panics]
  cases (env.recipient aci).any Sending.Recipient.probablyMessageRequest with
  | true => simp
  | false =>
    rw [if_neg Bool.false_ne_true]
    split <;> simp [*]

def ContentCrashes (env : Env) (envelope : Envelope) (sender : Address) (content : Content) : Prop :=
  SenderKeyProcessed env content.senderKeyDistributionMessage sender ∧
    (MessageCrashes env sender.serviceID content.content ∨
      ∃ receipt, ReceiptCrashes env sender.serviceID.uuid receipt ∧ AsksForReceipt env envelope sender.serviceID
        (senderBlocked env sender.serviceID.uuid) receipt content.content)

theorem faults_handleContent :
    Faults (handleContent env content envelope destination sender) s ↔
      ContentCrashes env envelope sender content := by
  unfold handleContent ContentCrashes
  obtain ⟨ok, t, hok⟩ := (returns_or_faults (processSenderKeyDistribution env
    content.senderKeyDistributionMessage sender) s).resolve_right faults_processSenderKeyDistribution
  rw [faults_bind_of_returns hok, ← returns_processSenderKeyDistribution_true (s := s)]
  cases ok with
  | false =>
    refine iff_of_false faults_pure ?_
    rintro ⟨⟨u, h⟩, -⟩
    exact absurd (hok.unique h).1 nofun
  | true =>
    obtain ⟨u, hblocked⟩ := prepareSender_returns
    rw [if_pos rfl, faults_bind_of_returns hblocked, faults_bind, faults_handleContentMessage]
    simp only [← returns_handleContentMessage_receipt (s := u)]
    constructor
    · rintro (h | ⟨⟨ok, receipt⟩, v, hcont, h⟩)
      · exact ⟨⟨t, hok⟩, .inl h⟩
      · cases ok <;> cases receipt <;> simp [faults_sendDeliveryReceipts] at h
        exact ⟨⟨t, hok⟩, .inr ⟨_, h, v, hcont⟩⟩
    · rintro ⟨-, h | ⟨receipt, hsend, v, hcont⟩⟩
      · exact .inl h
      · refine .inr ⟨_, v, hcont, ?_⟩
        simp [faults_sendDeliveryReceipts, hsend]

theorem faults_handleDecryptionError {err : DecryptionError} :
    ¬ Faults (handleDecryptionError env result err envelope sender) s := by
  unfold handleDecryptionError
  split
  · exact faults_pure
  · refine not_faults_bind faults_attemptIf fun _ _ => not_faults_bind ?_ fun _ _ => faults_pure
    simp [startRetryRequest]

-- The content of an encrypted message from an account, where nothing went wrong on the way to it.
def ResultCrashes (env : Env) (envelope : Envelope) (result : DecryptionResult) : Prop :=
  ∃ sender content, result.senderAddress = some sender ∧ sender.serviceID.type = serviceIDTypeACI ∧
    result.err = none ∧ result.content = some content ∧ result.unencrypted = false ∧
    ContentCrashes env envelope sender content

theorem faults_handleDecryptedContent :
    Faults (handleDecryptedContent env result content envelope destination sender) s ↔
      result.unencrypted = false ∧ ContentCrashes env envelope sender content := by
  unfold handleDecryptedContent
  split
  · rename_i message hmsg
    refine iff_of_false (by simp) ?_
    rintro ⟨-, -, h⟩
    simp [hmsg, MessageCrashes, AsksForReceipt] at h
  · cases result.unencrypted <;> simp [faults_handleContent]

theorem nameServiceID_of_aci (h : sender.serviceID.type = serviceIDTypeACI) :
    sender.nameServiceID = some sender.serviceID := by
  simp [Address.nameServiceID, hasName, h]

theorem faults_handleResult :
    Faults (handleResult env result envelope destination) s ↔ ResultCrashes env envelope result := by
  unfold handleResult ResultCrashes
  cases result.senderAddress with
  | none => simp
  | some sender =>
    by_cases haci : sender.serviceID.type = serviceIDTypeACI
    · simp only [nameServiceID_of_aci haci]
      cases result.err with
      | some err => simp [faults_handleDecryptionError]
      | none => cases result.content <;> simp [faults_handleDecryptedContent]
    · refine iff_of_false ?_ ?_
      · cases hname : sender.nameServiceID with
        | none => simp [hname]
        | some theirs =>
          have htheirs : theirs = sender.serviceID := by
            unfold Address.nameServiceID at hname
            split at hname <;> cases hname
            rfl
          simp [hname, htheirs, haci]
      · rintro ⟨_, _, hsnd, haci', -⟩
        cases hsnd
        exact haci haci'

@[simp] theorem faults_clearPlaintext {handlerSuccess : Bool} :
    ¬ Faults (clearPlaintext env result handlerSuccess) s := by
  unfold clearPlaintext
  split <;> simp

theorem faults_handleDecryptedResult :
    Faults (handleDecryptedResult env result envelope destination) s ↔
      env.contextDone = false ∧ ResultCrashes env envelope result := by
  unfold handleDecryptedResult
  by_cases hcanceled : result.err = some (.external .canceled)
  · refine iff_of_false (by simp [hcanceled]) ?_
    rintro ⟨-, _, _, -, -, herr, -⟩
    exact absurd (hcanceled.symm.trans herr) nofun
  · cases env.contextDone <;> simp [hcanceled, faults_handleResult]

@[simp] theorem faults_bufferedDecryptTxn {decrypt : Except ExternalError Bytes} :
    ¬ Faults (bufferedDecryptTxn env ciphertext decrypt) s := by
  unfold bufferedDecryptTxn
  split
  · exact faults_pure
  · refine not_faults_bind faults_get fun _ _ => ?_
    split
    · exact faults_pure
    · exact faults_pure
    · split <;> simp

@[simp] theorem faults_decryptContent {type : CiphertextType} :
    ¬ Faults (decryptContent env type sender ciphertext) s := by
  refine not_faults_bind faults_bufferedDecryptTxn fun result _ => ?_
  cases result with
  | error err => exact faults_pure
  | ok plaintext =>
    dsimp only
    split <;> exact faults_pure

@[simp] theorem faults_decryptWithSession {type : CiphertextType} :
    ¬ Faults (decryptWithSession env type destination sender ciphertext) s := by
  simp [decryptWithSession]

theorem faults_decryptUnidentifiedSenderEnvelope :
    ¬ Faults (decryptUnidentifiedSenderEnvelope env destination envelope) s := by
  unfold decryptUnidentifiedSenderEnvelope
  split
  · exact faults_pure
  split
  · exact faults_pure
  rw [faults_ite]
  split
  · exact faults_pure
  split
  · exact faults_pure
  dsimp only
  split
  · exact faults_pure
  · refine not_faults_bind faults_attemptIf fun _ _ => ?_
    unfold decryptSealedContents
    split <;> try simp [decryptSenderKeyMessage, prekeyDecrypt, decryptCiphertextEnvelope]
    split <;> exact faults_pure

theorem faults_decryptEnvelope :
    Faults (decryptEnvelope env envelope source destination) s ↔
      ServiceID.isEmpty destination = false ∧ envelope.type = none := by
  unfold decryptEnvelope
  cases ServiceID.isEmpty destination with
  | true => simp
  | false =>
    rw [if_neg Bool.false_ne_true]
    cases envelope.type with
    | none => exact iff_of_true faults_throw ⟨rfl, rfl⟩
    | some type =>
      refine iff_of_false ?_ nofun
      cases type with
      | unknown | serverDeliveryReceipt | other => exact faults_pure
      | unidentifiedSender => exact faults_decryptUnidentifiedSenderEnvelope
      | prekeyMessage =>
        dsimp only
        split <;> simp [prekeyDecrypt]
      | doubleRatchet =>
        dsimp only
        split <;> simp [decryptCiphertextEnvelope]
      | plaintextContent =>
        dsimp only
        split <;> exact faults_pure

-- The parsed IDs can be logged, the type of the envelope is there where it is read, and what it
-- decrypts to is not one of the crashing contents.
structure Harmless (env : Env) (s : State) (envelope : Envelope) : Prop where
  named : env.debugEnabled = true → hasName (envelope.destination env).type = true ∧
    hasName (envelope.source env).type = true
  typed : ServiceID.isEmpty (envelope.destination env) = false → envelope.type ≠ none
  content : env.contextDone = false → ∀ result t,
    Returns (decryptEnvelope env envelope (envelope.source env) (envelope.destination env)) s result t →
      ¬ ResultCrashes env envelope result

theorem faults_logEnvelope :
    Faults (logEnvelope env source destination) s ↔
      env.debugEnabled = true ∧ ¬ (hasName destination.type = true ∧ hasName source.type = true) := by
  simp only [logEnvelope]
  split <;> simp_all

theorem returns_logEnvelope {u : PUnit} (h : Returns (logEnvelope env source destination) s u t) : t = s := by
  simp only [logEnvelope, returns_ite, returns_throw, returns_pure] at h
  grind

-- Harmless lists every unchecked conversion and dereference on the way.
theorem incomingAPIMessageHandler_returns_iff (env : Env) (s : State) (body : Bytes) :
    (∃ response t, Returns (incomingAPIMessageHandler env body) s response t) ↔
      ∀ envelope, env.unmarshalEnvelope body = some envelope → Harmless env s envelope := by
  unfold incomingAPIMessageHandler
  cases hbody : env.unmarshalEnvelope body with
  | none => exact iff_of_true ⟨_, s, returns_pure.mpr ⟨rfl, rfl⟩⟩ nofun
  | some envelope =>
    constructor
    · rintro ⟨response, t, h⟩ _ ⟨⟩
      obtain ⟨_, u, hlog, hrest⟩ := returns_bind.mp h
      obtain rfl := returns_logEnvelope hlog
      obtain ⟨result, v, hres, hrest⟩ := returns_bind.mp hrest
      obtain ⟨err, w, hhandled, -⟩ := returns_bind.mp hrest
      refine ⟨fun hdebug => ?_, fun hdest htype => ?_, fun hctx result' v' hresult' hcrash => ?_⟩
      · by_contra hnamed
        exact not_faults_of_returns hlog (faults_logEnvelope.mpr ⟨hdebug, hnamed⟩)
      · exact not_faults_of_returns hres (faults_decryptEnvelope.mpr ⟨hdest, htype⟩)
      · obtain ⟨rfl, rfl⟩ := hres.unique hresult'
        exact not_faults_of_returns hhandled (faults_handleDecryptedResult.mpr ⟨hctx, hcrash⟩)
    · intro h
      have hsafe := h envelope rfl
      refine (returns_or_faults _ s).resolve_right fun hfault => ?_
      rcases faults_bind.mp hfault with hcrash | ⟨_, u, hlog, hrest⟩
      · obtain ⟨hdebug, hnamed⟩ := faults_logEnvelope.mp hcrash
        exact hnamed (hsafe.named hdebug)
      obtain rfl := returns_logEnvelope hlog
      rcases faults_bind.mp hrest with hcrash | ⟨result, v, hres, hrest⟩
      · obtain ⟨hdest, htype⟩ := faults_decryptEnvelope.mp hcrash
        exact hsafe.typed hdest htype
      · rcases faults_bind.mp hrest with hcrash | ⟨err, w, -, hrest⟩
        · obtain ⟨hctx, hcrash⟩ := faults_handleDecryptedResult.mp hcrash
          exact hsafe.content hctx result v hres hcrash
        · cases err <;> exact absurd hrest faults_pure

-- A story's profile key becomes a 32-byte array without a check of its length.
theorem short_profile_key_panics :
    ¬ ∃ response t, Returns (incomingAPIMessageHandler (workingEnv (envelopeFor .unidentifiedSender)
      { content := some (.storyMessage { profileKey := some [1, 2, 3, 4, 5] }) }) [])
      ⟨fun _ => none, []⟩ response t := by
  rintro ⟨response, t, h⟩
  exact not_faults_of_returns h ⟨.arrayConversion, _, rfl⟩

end MautrixSignal.Receive
