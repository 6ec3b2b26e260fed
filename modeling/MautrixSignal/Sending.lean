import MautrixSignal.SenderKey.Requested

namespace MautrixSignal.Sending

open SenderKey

abbrev GroupID := ℕ

structure AccountRecord where
  typingIndicators : Bool
  readReceipts : Bool

inductive ReceiptType where
  | delivery
  | read
  | viewed
deriving DecidableEq

inductive SyncMessage where
  | sent (timestamp : ℕ)
  | read (messages : List (UUID × ℕ))
  | viewOnceOpen (sender : UUID) (timestamp : ℕ)
  | other
deriving DecidableEq

-- The content of signalpb.Content. empty is a content with only the other fields.
inductive Body where
  | data (profileKeyUpdate : Bool) (timestamp : ℕ)
  | edit (timestamp : ℕ)
  | typing (started : Bool) (timestamp : ℕ) (groupId : Option GroupID)
  | receipt (type : ReceiptType) (timestamps : List ℕ)
  | sync (message : SyncMessage)
  | null
  | decryptionError
  | call
  | empty
deriving DecidableEq

structure Content where
  body : Body
  senderKeyDistributionMessage : Bool := false
  pniSignatureMessage : Bool := false
deriving DecidableEq

structure Recipient where
  needsPNISignature : Bool := false
  whitelisted : Option Bool := none

structure SendCacheKey where
  recipient : ServiceID
  groupID : Option GroupID
  timestamp : ℕ
deriving DecidableEq

structure Client where
  aci : UUID
  pni : UUID
  accountRecord : Option AccountRecord
  recipients : ServiceID → Recipient
  sendCache : List (SendCacheKey × Content)

-- What one call finds: whether the recipient can be loaded and the PNI signed, whether sendContent gets as far as
-- its request and succeeds, and what happens in a group send.
structure Env where
  now : ℕ
  loadRecipient : ServiceID → Bool
  sign : Bool
  requests : ServiceID → Content → Bool
  succeeds : ServiceID → Content → Bool
  groupMembers : GroupID → Option (List ServiceID)
  groupAnswers : Answers

structure Sent where
  recipient : ServiceID
  content : Content
deriving DecidableEq

namespace Client

def aciServiceID (client : Client) : ServiceID := newACIServiceID client.aci

def addSendCache (client : Client) (recipient : ServiceID) (groupID : Option GroupID) (timestamp : ℕ)
    (content : Content) : Client :=
  { client with sendCache := (⟨recipient, groupID, timestamp⟩, content) :: client.sendCache }

def setRecipient (client : Client) (id : ServiceID) (recipient : Recipient) : Client :=
  { client with recipients := fun other => if other = id then recipient else client.recipients other }

end Client

def Recipient.probablyMessageRequest (recipient : Recipient) : Bool :=
  recipient.needsPNISignature || recipient.whitelisted = some false

def Content.isTyping (content : Content) : Bool :=
  match content.body with
  | .typing .. => true
  | _ => false

def Content.isReadReceipt (content : Content) : Bool :=
  match content.body with
  | .receipt .read _ | .receipt .viewed _ => true
  | _ => false

def Content.isReceipt (content : Content) : Bool :=
  match content.body with
  | .receipt .. => true
  | _ => false

def Content.isTypingOrReceipt (content : Content) : Bool := content.isTyping || content.isReceipt

def Content.isDeliveryReceipt (content : Content) : Bool :=
  match content.body with
  | .receipt .delivery _ => true
  | _ => false

variable (client : Client) (env : Env) (recipient : ServiceID)

-- sendContent up to its request. Nothing is sent to the own PNI.
def sendContent (content : Content) : List Sent :=
  if recipient = newPNIServiceID client.pni then []
  else if env.requests recipient content then [⟨recipient, content⟩]
  else []

def messageTimestamp (content : Content) : ℕ :=
  match content.body with
  | .data _ timestamp => timestamp
  | .edit timestamp => timestamp
  | .typing _ timestamp _ => timestamp
  | _ => env.now

def syncMessageFromReadReceiptMessage (type : ReceiptType) (timestamps : List ℕ) (messageSender : ServiceID) :
    Option Content :=
  if messageSender.type ≠ serviceIDTypeACI then none
  else
    match type, timestamps with
    | .viewed, [timestamp] => some { body := .sync (.viewOnceOpen messageSender.uuid timestamp) }
    | .read, timestamps =>
      some { body := .sync (.read (timestamps.map fun timestamp => (messageSender.uuid, timestamp))) }
    | _, _ => none

def syncContent (content : Content) (recipient : ServiceID) : Option Content :=
  match content.body with
  | .data _ timestamp => some { body := .sync (.sent timestamp) }
  | .edit timestamp => some { body := .sync (.sent timestamp) }
  | .receipt type timestamps => syncMessageFromReadReceiptMessage type timestamps recipient
  | .sync _ => some content
  | _ => none

def sendSyncCopy (content : Content) (recipient : ServiceID) : List Sent :=
  match syncContent content recipient with
  | none => []
  | some copy => sendContent client env client.aciServiceID copy

-- A profile key update accepts the recipient.
def recipientFor (id : ServiceID) (content : Content) : Recipient :=
  match content.body with
  | .data true _ => { client.recipients id with whitelisted := some true }
  | _ => client.recipients id

-- LoadAndUpdateRecipient with the callback of SendMessage. No recipient is an error.
def loadAndUpdateRecipient (id : ServiceID) (content : Content) :
    Client × Option Recipient × Content :=
  let recipient := recipientFor client id content
  let needsPNISignature := id.type = serviceIDTypeACI && recipient.needsPNISignature && client.pni ≠ UUID.nil
  let signed := { recipient with needsPNISignature := false }
  if !env.loadRecipient id then (client, none, content)
  else if needsPNISignature && !content.isTypingOrReceipt && !content.pniSignatureMessage then
    if env.sign then (client.setRecipient id signed, some signed, { content with pniSignatureMessage := true })
    else (client, none, content)
  else if needsPNISignature && content.pniSignatureMessage then
    (client.setRecipient id signed, some signed, content)
  else (client, some recipient, content)

def typingDisabled : Bool := client.accountRecord.any fun record => !record.typingIndicators

def readReceiptsDisabled : Bool := client.accountRecord.any fun record => !record.readReceipts

def sendMessage (recipientID : ServiceID) (content : Content) :
    Client × List Sent :=
  let (client, recipientData, content) := loadAndUpdateRecipient client env recipientID content
  if recipientData.any Recipient.probablyMessageRequest && content.isTypingOrReceipt then
    (client, if content.isReadReceipt then sendSyncCopy client env content recipientID else [])
  else if content.isTyping && typingDisabled client then (client, [])
  else if content.isReadReceipt && readReceiptsDisabled client then
    (client, sendSyncCopy client env content recipientID)
  else if recipientID = client.aciServiceID && !content.isDeliveryReceipt then
    (client, sendSyncCopy client env content recipientID)
  else
    let client := client.addSendCache recipientID none (messageTimestamp env content) content
    let sent := sendContent client env recipientID content
    if env.succeeds recipientID content then (client, sent ++ sendSyncCopy client env content recipientID)
    else (client, sent)

-- sendToGroup. A typing message is never sent on this path.
def sendToGroup (recipients : List ServiceID) (content : Content) : List Sent :=
  if content.isTyping then []
  else
    (recipients.filter (· ≠ client.aciServiceID)).flatMap (sendContent client env · content) ++
      match content.body with
      | .data _ timestamp => sendContent client env client.aciServiceID { body := .sync (.sent timestamp) }
      | .edit timestamp => sendContent client env client.aciServiceID { body := .sync (.sent timestamp) }
      | _ => []

def groupSend (members : List ServiceID) (content : Content) : Send :=
  { recipients := members, timestamp := messageTimestamp env content, phase := .attempting 0 }

def sendToGroupWithSenderKey (members : List ServiceID) (content : Content) :
    List Sent :=
  let send := groupSend env members content
  (distributedDevices client.aciServiceID send env.groupAnswers).map
      (fun device => ⟨device.serviceID, { body := .empty, senderKeyDistributionMessage := true }⟩) ++
    (requestedDevices client.aciServiceID send env.groupAnswers).map
      (fun device => ⟨device.serviceID, content⟩) ++
    sendToGroup client env (fallbackRecipients client.aciServiceID send env.groupAnswers 3 0) content

def withGroup (gid : GroupID) (content : Content) : Content :=
  match content.body with
  | .typing started timestamp _ => { content with body := .typing started timestamp (some gid) }
  | _ => content

def sendGroupMessage (gid : GroupID) (content : Content) : Client × List Sent :=
  match env.groupMembers gid with
  | none => (client, [])
  | some members =>
    let content := withGroup gid content
    let timestamp := messageTimestamp env content
    (members.foldl (fun client member => client.addSendCache member (some gid) timestamp content) client,
      sendToGroupWithSenderKey client env members content)

inductive Portal where
  | user (id : ServiceID)
  | group (id : GroupID)
  | invalid

inductive Message where
  | data (profileKeyUpdate : Bool) (timestamp : ℕ) (pniSignature : Bool)
  | edit (timestamp : ℕ)
  | sync (message : SyncMessage)
  | call

def Message.content : Message → Content
  | .data profileKeyUpdate timestamp pniSignature =>
    { body := .data profileKeyUpdate timestamp, pniSignatureMessage := pniSignature }
  | .edit timestamp => { body := .edit timestamp }
  | .sync message => { body := .sync message }
  | .call => { body := .call }

def sendToPortal (portal : Portal) (content : Content) : Client × List Sent :=
  match portal with
  | .user id => sendMessage client env id content
  | .group id => sendGroupMessage client env id content
  | .invalid => (client, [])

def typingMessage (isTyping : Bool) : Content := { body := .typing isTyping env.now none }

def handleMatrixTyping (portal : Portal) (isTyping : Bool) : Client × List Sent :=
  match portal with
  | .user id =>
    if id.uuid ≠ UUID.nil ∧ id.type = serviceIDTypeACI then
      sendMessage client env id (typingMessage env isTyping)
    else (client, [])
  | .group id => sendGroupMessage client env id (typingMessage env isTyping)
  | .invalid => (client, [])

def handleMatrixReadReceipt (client : Client) (env : Env) : List (UUID × List ℕ) → Client × List Sent
  | [] => (client, [])
  | (destination, messages) :: messagesToRead =>
    let (client, sent) :=
      if destination = client.aci then (client, [])
      else sendMessage client env (newACIServiceID destination) { body := .receipt .read messages }
    let (client, later) := handleMatrixReadReceipt client env messagesToRead
    (client, sent ++ later)

def handleMatrixViewLimitedMedia (sender : UUID) (timestamp : ℕ) :
    Client × List Sent :=
  sendToPortal client env (.user (newACIServiceID sender)) { body := .receipt .viewed [timestamp] }

def sendDeliveryReceipts (deliveredTimestamps : List ℕ) (sender : UUID) :
    Client × List Sent :=
  if deliveredTimestamps = [] then (client, [])
  else sendMessage client env (newACIServiceID sender) { body := .receipt .delivery deliveredTimestamps }

def sendGroupUpdate (gid : GroupID) (recipients : List ServiceID) :
    Client × List Sent :=
  let content : Content := { body := .data false env.now }
  (recipients.foldl (fun client recipient => client.addSendCache recipient (some gid) env.now content) client,
    sendToGroup client env recipients content)

-- A retry receipt. prepared says whether a distribution message is included and whether the session was archived,
-- or that there was an error.
structure RetryReceipt where
  sender : ServiceID
  groupID : Option GroupID
  timestamp : ℕ
  forThisDevice : Bool
  prepared : Option (Bool × Bool)

-- RetryRespondMaxAge in milliseconds.
def retryRespondMaxAge : ℕ := 30 * 24 * 3600 * 1000

variable (receipt : RetryReceipt)

def cachedContent : Option Content :=
  if env.now - receipt.timestamp < retryRespondMaxAge then
    (client.sendCache.find? fun entry =>
      entry.1 = ⟨receipt.sender, receipt.groupID, receipt.timestamp⟩).map Prod.snd
  else none

def retryContent : Option Content :=
  match receipt.prepared with
  | none => none
  | some (skdm, didArchiveSession) =>
    match cachedContent client env receipt with
    | some content => some { content with senderKeyDistributionMessage := skdm }
    | none =>
      if skdm then some { body := .empty, senderKeyDistributionMessage := true }
      else if didArchiveSession then some { body := .null }
      else none

def handleRetryRequest : List Sent :=
  if !receipt.forThisDevice then []
  else (retryContent client env receipt).elim [] (sendContent client env receipt.sender)

def sendRetryRequest (sender : ServiceID) : List Sent :=
  sendContent client env sender { body := .decryptionError }

-- Everything that sends: the handlers of the connector, the receive loop, and the syncs with the own devices.
inductive Call where
  | handleMatrixTyping (portal : Portal) (isTyping : Bool)
  | handleMatrixReadReceipt (messagesToRead : List (UUID × List ℕ))
  | handleMatrixViewLimitedMedia (sender : UUID) (timestamp : ℕ)
  | sendMessage (portal : Portal) (message : Message)
  | sendDeliveryReceipts (deliveredTimestamps : List ℕ) (sender : UUID)
  | sendGroupUpdate (gid : GroupID) (recipients : List ServiceID)
  | handleRetryRequest (receipt : RetryReceipt)
  | sendRetryRequest (sender : ServiceID)
  | sync (message : SyncMessage)

def Call.run : Call → Client × List Sent
  | .handleMatrixTyping portal isTyping => Sending.handleMatrixTyping client env portal isTyping
  | .handleMatrixReadReceipt messagesToRead => Sending.handleMatrixReadReceipt client env messagesToRead
  | .handleMatrixViewLimitedMedia sender timestamp =>
    Sending.handleMatrixViewLimitedMedia client env sender timestamp
  | .sendMessage portal message => sendToPortal client env portal message.content
  | .sendDeliveryReceipts deliveredTimestamps sender =>
    Sending.sendDeliveryReceipts client env deliveredTimestamps sender
  | .sendGroupUpdate gid recipients => Sending.sendGroupUpdate client env gid recipients
  | .handleRetryRequest receipt => (client, Sending.handleRetryRequest client env receipt)
  | .sendRetryRequest sender => (client, Sending.sendRetryRequest client env sender)
  | .sync message => (client, sendContent client env client.aciServiceID { body := .sync message })

-- A typing message or a read receipt that goes to another user although the account record disables it.
def Content.Disabled (content : Content) : Prop :=
  (typingDisabled client = true ∧ content.isTyping = true) ∨
    (readReceiptsDisabled client = true ∧ content.isReadReceipt = true)

def Silent (sent : List Sent) : Prop :=
  ∀ s ∈ sent, s.recipient ≠ client.aciServiceID → ¬ s.content.Disabled client

-- With typing indicators off, no sender key send of a typing message gets as far as its request, and no retry
-- receipt is answered with a content that is disabled now.
def Discreet : Call → Prop
  | .handleMatrixTyping (.group gid) isTyping => typingDisabled client = true →
      ∀ members ∈ env.groupMembers gid, ¬ RequestMade client.aciServiceID
        (groupSend env members (withGroup gid (typingMessage env isTyping))) env.groupAnswers
  | .handleRetryRequest receipt => receipt.sender ≠ client.aciServiceID → receipt.forThisDevice = true →
      ∀ content ∈ cachedContent client env receipt, ∀ prepared ∈ receipt.prepared,
        receipt.sender = newPNIServiceID client.pni ∨
        env.requests receipt.sender { content with senderKeyDistributionMessage := prepared.1 } = false ∨
        ¬ content.Disabled client
  | _ => True

section Silence

variable {client : Client} {env : Env}

theorem silent_nil : Silent client [] := by
  intro s hs
  cases hs

theorem silent_append {sent later : List Sent} :
    Silent client (sent ++ later) ↔ Silent client sent ∧ Silent client later := List.forall_mem_append

theorem silent_sendContent_iff {recipient : ServiceID} {content : Content} :
    Silent client (sendContent client env recipient content) ↔ (recipient ≠ client.aciServiceID →
      recipient = newPNIServiceID client.pni ∨ env.requests recipient content = false ∨
        ¬ content.Disabled client) := by
  unfold sendContent
  split
  · rename_i hpni
    exact iff_of_true silent_nil fun _ => .inl hpni
  rename_i hpni
  split
  · rename_i hreqs
    simp [Silent, hpni, hreqs]
  · rename_i hreqs
    exact iff_of_true silent_nil fun _ => .inr (.inl (by simpa using hreqs))

theorem silent_sendContent_own {content : Content} :
    Silent client (sendContent client env client.aciServiceID content) :=
  silent_sendContent_iff.mpr fun hne => absurd rfl hne

theorem silent_sendContent {recipient : ServiceID} {content : Content} (h : ¬ content.Disabled client) :
    Silent client (sendContent client env recipient content) :=
  silent_sendContent_iff.mpr fun _ => .inr (.inr h)

theorem silent_sendSyncCopy {content : Content} {recipient : ServiceID} :
    Silent client (sendSyncCopy client env content recipient) := by
  unfold sendSyncCopy
  split
  · exact silent_nil
  · exact silent_sendContent_own

structure SameAccount (client client' : Client) : Prop where
  aci : client'.aci = client.aci
  accountRecord : client'.accountRecord = client.accountRecord

theorem SameAccount.silent {client' : Client} (h : SameAccount client client') {sent : List Sent} :
    Silent client' sent ↔ Silent client sent := by
  simp [Silent, Content.Disabled, Client.aciServiceID, typingDisabled, readReceiptsDisabled, h.aci,
    h.accountRecord]

theorem SameAccount.trans {client' client'' : Client} (h : SameAccount client client')
    (h' : SameAccount client' client'') : SameAccount client client'' :=
  ⟨h'.aci.trans h.aci, h'.accountRecord.trans h.accountRecord⟩

theorem loadAndUpdateRecipient_same (client : Client) (env : Env) (id : ServiceID) (content : Content) :
    SameAccount client (loadAndUpdateRecipient client env id content).1 := by
  unfold loadAndUpdateRecipient
  simp only
  split
  · exact ⟨rfl, rfl⟩
  · split
    all_goals
      split <;> exact ⟨rfl, rfl⟩

theorem silent_sendMessage (client : Client) (env : Env) (id : ServiceID) (content : Content) :
    SameAccount client (sendMessage client env id content).1 ∧
      Silent client (sendMessage client env id content).2 := by
  unfold sendMessage
  have hsame := loadAndUpdateRecipient_same client env id content
  generalize loadAndUpdateRecipient client env id content = loaded at hsame
  obtain ⟨client', recipientData, content'⟩ := loaded
  simp only at hsame ⊢
  rw [← hsame.silent]
  split
  · refine ⟨hsame, ?_⟩
    split
    · exact silent_sendSyncCopy
    · exact silent_nil
  split
  · exact ⟨hsame, silent_nil⟩
  rename_i htyp
  split
  · exact ⟨hsame, silent_sendSyncCopy⟩
  rename_i hrcpt
  split
  · exact ⟨hsame, silent_sendSyncCopy⟩
  have hcached : SameAccount client'
      (client'.addSendCache id none (messageTimestamp env content') content') := ⟨rfl, rfl⟩
  have hallow : ¬ content'.Disabled client' := by
    rintro (⟨hdisabled, htyping'⟩ | ⟨hdisabled, hreceipt'⟩)
    · exact htyp (by simp [hdisabled, htyping'])
    · exact hrcpt (by simp [hdisabled, hreceipt'])
  split
  · refine ⟨hsame.trans hcached, hcached.silent.mp (silent_append.mpr ⟨?_, silent_sendSyncCopy⟩)⟩
    exact silent_sendContent hallow
  · exact ⟨hsame.trans hcached, hcached.silent.mp (silent_sendContent hallow)⟩

theorem silent_sendToGroup {recipients : List ServiceID} {content : Content} (h : ¬ content.Disabled client) :
    Silent client (sendToGroup client env recipients content) := by
  unfold sendToGroup
  split
  · exact silent_nil
  apply silent_append.mpr
  constructor
  · intro s hs
    obtain ⟨recipient, -, hs⟩ := List.mem_flatMap.mp hs
    exact silent_sendContent h s hs
  · split
    · exact silent_sendContent_own
    · exact silent_sendContent_own
    · exact silent_nil

theorem not_disabled_of_not {content : Content} (htyp : content.isTyping = false)
    (hrcpt : content.isReadReceipt = false) : ¬ content.Disabled client := by
  rintro (⟨-, h⟩ | ⟨-, h⟩)
  · rw [htyp] at h
    cases h
  · rw [hrcpt] at h
    cases h

theorem silent_sendToGroupWithSenderKey {members : List ServiceID} {content : Content}
    (hrcpt : content.isReadReceipt = false) :
    Silent client (sendToGroupWithSenderKey client env members content) ↔
      (content.isTyping = true → typingDisabled client = true →
        ¬ RequestMade client.aciServiceID (groupSend env members content) env.groupAnswers) := by
  rw [← requestedDevices_ne_nil, ne_eq, not_not]
  unfold sendToGroupWithSenderKey
  rw [silent_append, silent_append]
  have hdistributed : Silent client ((distributedDevices client.aciServiceID (groupSend env members content)
      env.groupAnswers).map
      (fun device => ⟨device.serviceID, { body := .empty, senderKeyDistributionMessage := true }⟩)) := by
    intro s hs _
    obtain ⟨device, -, rfl⟩ := List.mem_map.mp hs
    exact not_disabled_of_not rfl rfl
  have hfallback : ∀ recipients, Silent client (sendToGroup client env recipients content) := by
    intro recipients
    cases htyp : content.isTyping with
    | true =>
      simp only [sendToGroup, htyp]
      exact silent_nil
    | false => exact silent_sendToGroup (not_disabled_of_not htyp hrcpt)
  constructor
  · rintro ⟨⟨-, hrequested⟩, -⟩ htyp hdisabled
    rw [List.eq_nil_iff_forall_not_mem]
    intro device hdev
    exact hrequested ⟨device.serviceID, content⟩ (List.mem_map_of_mem hdev)
      (requestedDevices_ne_own hdev) (.inl ⟨hdisabled, htyp⟩)
  · intro hnone
    refine ⟨⟨hdistributed, ?_⟩, hfallback _⟩
    intro s hs _ hdisabled
    obtain ⟨device, hdev, rfl⟩ := List.mem_map.mp hs
    rcases hdisabled with ⟨hoff, htyp⟩ | ⟨-, hread⟩
    · rw [hnone htyp hoff] at hdev
      cases hdev
    · rw [hrcpt] at hread
      cases hread

theorem silent_handleMatrixReadReceipt (client : Client) (env : Env) (messagesToRead : List (UUID × List ℕ)) :
    Silent client (handleMatrixReadReceipt client env messagesToRead).2 := by
  induction messagesToRead generalizing client with
  | nil => exact silent_nil
  | cons entry messagesToRead ih =>
    obtain ⟨destination, messages⟩ := entry
    simp only [handleMatrixReadReceipt]
    apply silent_append.mpr
    split
    · exact ⟨silent_nil, ih client⟩
    · obtain ⟨hsame, hsilent⟩ := silent_sendMessage client env (newACIServiceID destination)
        { body := .receipt .read messages }
      exact ⟨hsilent, hsame.silent.mp (ih _)⟩

theorem isTyping_withGroup (gid : GroupID) (content : Content) :
    (withGroup gid content).isTyping = content.isTyping ∧
      (withGroup gid content).isReadReceipt = content.isReadReceipt := by
  unfold withGroup
  split
  · rename_i hbody
    simp [Content.isTyping, Content.isReadReceipt, hbody]
  · exact ⟨rfl, rfl⟩

theorem silent_sendGroupMessage {gid : GroupID} {content : Content} (hrcpt : content.isReadReceipt = false) :
    Silent client (sendGroupMessage client env gid content).2 ↔
      (content.isTyping = true → typingDisabled client = true → ∀ members ∈ env.groupMembers gid,
        ¬ RequestMade client.aciServiceID (groupSend env members (withGroup gid content)) env.groupAnswers) := by
  obtain ⟨htyp, hread⟩ := isTyping_withGroup gid content
  unfold sendGroupMessage
  cases hmems : env.groupMembers gid with
  | none => exact iff_of_true silent_nil (by simp)
  | some members =>
    rw [silent_sendToGroupWithSenderKey (hread.trans hrcpt), htyp]
    simp

theorem silent_handleRetryRequest :
    Silent client (handleRetryRequest client env receipt) ↔
      Discreet client env (.handleRetryRequest receipt) := by
  unfold handleRetryRequest retryContent Discreet
  cases hdev : receipt.forThisDevice with
  | false => exact iff_of_true silent_nil (by simp [hdev])
  | true =>
    simp only [hdev, Bool.not_true, Bool.false_eq_true, if_false, forall_const]
    cases hprepared : receipt.prepared with
    | none => exact iff_of_true silent_nil (by simp)
    | some prepared =>
      cases hcached : cachedContent client env receipt with
      | some content =>
        simp only [Option.mem_def, Option.some.injEq, forall_eq']
        exact silent_sendContent_iff
      | none =>
        refine iff_of_true ?_ (by simp)
        simp only
        split
        · exact silent_sendContent (not_disabled_of_not rfl rfl)
        · split
          · exact silent_sendContent (not_disabled_of_not rfl rfl)
          · exact silent_nil

theorem Message.not_disabled (message : Message) :
    message.content.isTyping = false ∧ message.content.isReadReceipt = false := by
  cases message with
  | data | edit | sync | call => exact ⟨rfl, rfl⟩

end Silence

-- Each call is silent exactly under its own condition, and together these make Discreet.
theorem sends_nothing_disabled_iff (client : Client) (env : Env) (call : Call) :
    Silent client (call.run client env).2 ↔ Discreet client env call := by
  cases call with
  | handleMatrixTyping portal isTyping =>
    cases portal with
    | user id =>
      simp only [Call.run, handleMatrixTyping]
      split
      · exact iff_of_true (silent_sendMessage client env id _).2 trivial
      · exact iff_of_true silent_nil trivial
    | group gid =>
      simp only [Call.run, handleMatrixTyping]
      rw [silent_sendGroupMessage rfl]
      exact forall_prop_of_true rfl
    | invalid => exact iff_of_true silent_nil trivial
  | handleMatrixReadReceipt messagesToRead =>
    exact iff_of_true (silent_handleMatrixReadReceipt client env messagesToRead) trivial
  | handleMatrixViewLimitedMedia sender timestamp =>
    exact iff_of_true (silent_sendMessage client env (newACIServiceID sender) _).2 trivial
  | sendMessage portal message =>
    cases portal with
    | user id => exact iff_of_true (silent_sendMessage client env id _).2 trivial
    | group gid =>
      refine iff_of_true ((silent_sendGroupMessage message.not_disabled.2).mpr ?_) trivial
      intro htyp
      rw [message.not_disabled.1] at htyp
      cases htyp
    | invalid => exact iff_of_true silent_nil trivial
  | sendDeliveryReceipts deliveredTimestamps sender =>
    simp only [Call.run, sendDeliveryReceipts]
    split
    · exact iff_of_true silent_nil trivial
    · exact iff_of_true (silent_sendMessage client env (newACIServiceID sender) _).2 trivial
  | sendGroupUpdate gid recipients =>
    have hdata : ¬ Content.Disabled client { body := .data false env.now } := not_disabled_of_not rfl rfl
    exact iff_of_true (silent_sendToGroup hdata) trivial
  | handleRetryRequest receipt => exact silent_handleRetryRequest receipt
  | sendRetryRequest sender => exact iff_of_true (silent_sendContent (not_disabled_of_not rfl rfl)) trivial
  | sync message => exact iff_of_true silent_sendContent_own trivial

def quietClient : Client where
  aci := .ofByte 9
  pni := .ofByte 10
  accountRecord := some { typingIndicators := false, readReceipts := false }
  recipients _ := {}
  sendCache := []

def groupEnv : Env where
  now := 100
  loadRecipient _ := true
  sign := true
  requests _ _ := true
  succeeds _ _ := true
  groupMembers _ := some [selfID, otherMember]
  groupAnswers :=
    { world := fun _ => {}
      attempt := fun _ =>
        { lookup := fun _ => { hasEndorsement := true, profileKey := .found 6, sessions := some [1] }
          newDistributionID := .ofByte 7
          order := [otherMember]
          distribution := fun _ => .sent [1]
          response := .ok [] }
      answer := fun _ => true }

-- A read receipt that was sent while receipts were on, and is asked for again after that.
def receiptClient : Client :=
  { quietClient with sendCache := [(⟨otherMember, none, 90⟩, { body := .receipt .read [80] })] }

def retryForReceipt : RetryReceipt :=
  { sender := otherMember, groupID := none, timestamp := 90, forThisDevice := true
    prepared := some (false, true) }

-- Neither typing in a group nor a receipt that is sent again looks at the settings.
theorem typing_sent_to_group_while_disabled :
    (⟨otherMember, { body := .typing true 100 (some 1) }⟩ ∈
        ((Call.handleMatrixTyping (.group 1) true).run quietClient groupEnv).2 ∧
      ¬ Silent quietClient ((Call.handleMatrixTyping (.group 1) true).run quietClient groupEnv).2) ∧
    (⟨otherMember, { body := .receipt .read [80] }⟩ ∈
        ((Call.handleRetryRequest retryForReceipt).run receiptClient groupEnv).2 ∧
      ¬ Silent receiptClient ((Call.handleRetryRequest retryForReceipt).run receiptClient groupEnv).2) := by
  have htyp : (⟨otherMember, { body := .typing true 100 (some 1) }⟩ : Sent) ∈
      ((Call.handleMatrixTyping (.group 1) true).run quietClient groupEnv).2 := by
    decide
  have hrcpt : (⟨otherMember, { body := .receipt .read [80] }⟩ : Sent) ∈
      ((Call.handleRetryRequest retryForReceipt).run receiptClient groupEnv).2 := by
    decide
  refine ⟨⟨htyp, fun h => ?_⟩, ⟨hrcpt, fun h => ?_⟩⟩
  · exact h _ htyp (by decide) (.inl ⟨rfl, rfl⟩)
  · exact h _ hrcpt (by decide) (.inr ⟨rfl, rfl⟩)

end MautrixSignal.Sending
