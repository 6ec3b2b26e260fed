import MautrixSignal.Recipients.OneIdentifier
import MautrixSignal.Sending

namespace MautrixSignal.MessageRequests

open Recipients
open Sending (Content AccountRecord)

-- SendMessage with the rows of the recipient store, which the sends themselves do not need.

structure Account where
  aci : UUID
  pni : UUID
  accountRecord : Option AccountRecord

-- How a call of sendContent ends. The server may have accepted a message whose answer was lost.
inductive Delivery
  | sent
  | failed (accepted : Bool)
deriving DecidableEq

def Delivery.accepted : Delivery → Bool
  | .sent => true
  | .failed accepted => accepted

structure Env where
  order : RowOrder
  faults : Faults
  signAlternateIdentity : Except String Unit
  deliver : ServiceID → Content → Delivery

structure Sent where
  recipient : ServiceID
  content : Content
  delivery : Delivery
deriving DecidableEq

-- A SendMessageResult has an error only if sending to another recipient failed.
structure Report where
  store : Store
  sent : List Sent
  wasSuccessful : Bool
  failed : Bool

variable (account : Account)

def Account.aciServiceID : ServiceID := newACIServiceID account.aci

variable (env : Env)

-- Nothing is sent to the own PNI.
def sendContent (recipient : ServiceID) (content : Content) :
    Delivery × List Sent :=
  if recipient = newPNIServiceID account.pni then (.failed false, [])
  else (env.deliver recipient content, [⟨recipient, content, env.deliver recipient content⟩])

variable (content : Content)

def sendSyncCopy (recipient : ServiceID) :
    Bool × List Sent :=
  match Sending.syncContent content recipient with
  | none => (false, [])
  | some copy =>
    let (delivery, sent) := sendContent account env account.aciServiceID copy
    (delivery = .sent, sent)

def isProfileKeyUpdate : Bool :=
  match content.body with
  | .data true _ => true
  | _ => false

variable (id : ServiceID) (r : Recipient)

def needsPNISignature : Bool :=
  id.type = serviceIDTypeACI && r.needsPNISignature && account.pni ≠ .nil

-- A profile key update accepts the recipient.
def accept : Recipient :=
  if isProfileKeyUpdate content then { r with whitelisted := some true } else r

-- The function that SendMessage gives to LoadAndUpdateRecipient. Accepting is not reported as a change.
def update (content : Content) (r : Recipient) :
    Recipient × Except String Bool :=
  let r := accept content r
  if needsPNISignature account id r && !content.isTypingOrReceipt && !content.pniSignatureMessage then
    match env.signAlternateIdentity with
    | .error text => (r, .error text)
    | .ok () => ({ r with needsPNISignature := false }, .ok true)
  else if needsPNISignature account id r && content.pniSignatureMessage then
    ({ r with needsPNISignature := false }, .ok true)
  else (r, .ok false)

theorem update_cases (content : Content) (r : Recipient) :
    update account env id content r = ({ accept content r with needsPNISignature := false }, .ok true) ∨
    ((update account env id content r).1 = accept content r ∧
      (update account env id content r).2 ≠ .ok true) := by
  unfold update
  dsimp only
  split
  · split
    · exact .inr ⟨rfl, nofun⟩
    · exact .inl rfl
  · split
    · exact .inl rfl
    · exact .inr ⟨rfl, nofun⟩

theorem accept_identifiers : (accept content r).aci = r.aci ∧ (accept content r).pni = r.pni := by
  unfold accept
  split <;> exact ⟨rfl, rfl⟩

theorem update_identifiers (content : Content) (r : Recipient) :
    (update account env id content r).1.aci = r.aci ∧ (update account env id content r).1.pni = r.pni := by
  rcases update_cases account env id content r with h | ⟨h, -⟩ <;> rw [h] <;> exact accept_identifiers content r

def updater (content : Content) : Updater where
  run := update account env id content
  keeps_aci r := (update_identifiers account env id content r).1
  keeps_pni r := (update_identifiers account env id content r).2

-- The content is signed inside the function, and stays signed if the transaction fails afterwards.
def signedContent (content : Content) :
    Option Recipient → Content
  | none => content
  | some handed =>
    if needsPNISignature account id handed && !content.isTypingOrReceipt && !content.pniSignatureMessage then
      match env.signAlternateIdentity with
      | .error _ => content
      | .ok () => { content with pniSignatureMessage := true }
    else content

def probablyMessageRequest : Bool := r.needsPNISignature || r.whitelisted = some false

def typingDisabled : Bool := account.accountRecord.any fun record => !record.typingIndicators

def readReceiptsDisabled : Bool := account.accountRecord.any fun record => !record.readReceipts

def recipientACI : UUID := if id.type = serviceIDTypeACI then id.uuid else .nil

def recipientPNI : UUID := if id.type = serviceIDTypePNI then id.uuid else .nil

def sendLoaded (store : Store) (recipientData : Option Recipient) (id : ServiceID) (content : Content) : Report :=
  if recipientData.any probablyMessageRequest && content.isTypingOrReceipt then
    ⟨store, if content.isReadReceipt then (sendSyncCopy account env content id).2 else [], true, false⟩
  else if content.isTyping && typingDisabled account then ⟨store, [], true, false⟩
  else if content.isReadReceipt && readReceiptsDisabled account then
    ⟨store, (sendSyncCopy account env content id).2, true, false⟩
  else if id = account.aciServiceID && !content.isDeliveryReceipt then
    let (ok, sent) := sendSyncCopy account env content id
    ⟨store, sent, ok, false⟩
  else
    match sendContent account env id content with
    | (.failed _, sent) => ⟨store, sent, false, true⟩
    | (.sent, sent) => ⟨store, sent ++ (sendSyncCopy account env content id).2, true, false⟩

-- A content without anything to send is a panic.
def supported : Bool :=
  match content.body with
  | .empty => content.senderKeyDistributionMessage || content.pniSignatureMessage
  | _ => true

def load (s : Store) (id : ServiceID) (content : Content) : Outcome :=
  loadAndUpdateRecipient env.order env.faults false s (recipientACI id) (recipientPNI id)
    (updater account env id content)

def sendMessage (s : Store) (id : ServiceID) (content : Content) : Report :=
  if supported content then
    let out := load account env s id content
    sendLoaded account env out.store out.recipient id (signedContent account env id content out.handed)
  else ⟨s, [], false, true⟩

section Clearing

variable {account : Account} {env : Env} {s : Store} {id : ServiceID} {content : Content}

def storedRow (table : Table) (id : ServiceID) : Option Row :=
  if id.type = serviceIDTypeACI then table.byACI id.uuid
  else if id.type = serviceIDTypePNI then table.byPNI id.uuid
  else none

def owesPNISignature (table : Table) (id : ServiceID) : Bool := (storedRow table id).any Row.needsPNISignature

def Signed (env : Env) (content : Content) : Prop :=
  content.pniSignatureMessage = true ∨
    (content.isTypingOrReceipt = false ∧ env.signAlternateIdentity = .ok ())

def Clears (account : Account) (env : Env) (id : ServiceID) (content : Content) : Prop :=
  supported content = true ∧ id.type = serviceIDTypeACI ∧ id.uuid ≠ .nil ∧ account.pni ≠ .nil ∧
    env.faults.Completes ∧ Signed env content

theorem needsPNISignature_accept :
    needsPNISignature account id (accept content r) = needsPNISignature account id r := by
  unfold needsPNISignature accept
  split <;> rfl

theorem update_changed {r : Recipient} :
    (update account env id content r).2 = .ok true ↔
      needsPNISignature account id r = true ∧ Signed env content := by
  unfold update Signed
  dsimp only
  rw [needsPNISignature_accept]
  cases needsPNISignature account id r <;> cases content.isTypingOrReceipt <;>
    cases content.pniSignatureMessage <;> cases env.signAlternateIdentity <;> simp

theorem update_unneeded {r : Recipient} (h : needsPNISignature account id r = false) :
    update account env id content r = (accept content r, .ok false) := by
  unfold update
  dsimp only
  rw [needsPNISignature_accept, h]
  rfl

theorem sendLoaded_store (recipientData : Option Recipient) :
    (sendLoaded account env s recipientData id content).store = s := by
  unfold sendLoaded
  split
  · rfl
  split
  · rfl
  · split
    · rfl
    · split
      · rfl
      · split <;> rfl

theorem sendMessage_store (hsup : supported content = true) :
    (sendMessage account env s id content).store = (load account env s id content).store := by
  rw [sendMessage, if_pos hsup]
  exact sendLoaded_store _

theorem recipientACI_of_aci (htype : id.type = serviceIDTypeACI) :
    recipientACI id = id.uuid ∧ recipientPNI id = .nil := by
  rw [recipientACI, recipientPNI, htype]
  exact ⟨rfl, rfl⟩

theorem load_of_aci (account : Account) (env : Env) (s : Store) (content : Content)
    (htype : id.type = serviceIDTypeACI) :
    load account env s id content =
      loadAndUpdateRecipient env.order env.faults false s id.uuid .nil (updater account env id content) := by
  rw [load, (recipientACI_of_aci htype).1, (recipientACI_of_aci htype).2]

theorem storedRow_of_aci (table : Table) (htype : id.type = serviceIDTypeACI) :
    storedRow table id = table.byACI id.uuid := if_pos htype

theorem recipientOf_of_row {table : Table} {aci : UUID} {row : Row} (h : table.byACI aci = some row) :
    recipientOf table aci = scanRecipient row := by
  rw [recipientOf, h]
  rfl

theorem writes_of_row (account : Account) (env : Env) (content : Content) {row : Row}
    (hrow : s.table.byACI id.uuid = some row) :
    Writes s.table id.uuid (updater account env id content) ↔
      needsPNISignature account id (scanRecipient row) = true ∧ Signed env content := by
  rw [Writes, recipientOf_of_row hrow, hrow]
  simp only [reduceCtorEq, and_false, or_false]
  exact update_changed

theorem load_kept_other {row : Row} (htype : id.type ≠ serviceIDTypeACI)
    (hrow : storedRow s.table id = some row) : (load account env s id content).store.table = s.table := by
  unfold storedRow at hrow
  rw [if_neg htype] at hrow
  by_cases hpni : id.type = serviceIDTypePNI
  · rw [if_pos hpni] at hrow
    have haddr : recipientACI id = .nil ∧ recipientPNI id = id.uuid := by
      rw [recipientACI, recipientPNI, if_neg htype, if_pos hpni]
      exact ⟨rfl, rfl⟩
    rw [load, haddr.1, haddr.2]
    by_cases hnil : id.uuid = .nil
    · rw [loadAndUpdateRecipient, if_pos ⟨rfl, hnil⟩]
    · apply load_onlyPNI_kept _ _ _ _ hnil hrow
      intro hchg
      have hneeds := (update_changed.mp hchg).1
      simp [needsPNISignature, htype] at hneeds
  · rw [if_neg hpni] at hrow
    cases hrow

theorem owes_after_iff (howes : owesPNISignature s.table id = true) :
    owesPNISignature (sendMessage account env s id content).store.table id = false ↔
      Clears account env id content := by
  obtain ⟨row, hrow, hneeds⟩ := (Option.any_eq_true _ _).mp howes
  by_cases hsup : supported content = true
  · rw [sendMessage_store hsup]
    by_cases htype : id.type = serviceIDTypeACI
    · rw [storedRow_of_aci _ htype] at hrow
      by_cases hnil : id.uuid = .nil
      · have hkept : (load account env s id content).store.table = s.table := by
          rw [load_of_aci account env s content htype, loadAndUpdateRecipient, if_pos ⟨hnil, rfl⟩]
        rw [hkept, howes]
        exact iff_of_false (by simp) fun h => h.2.2.1 hnil
      · have hwrites := writes_of_row account env content hrow
        have hclear : (update account env id content (scanRecipient row)).2 = .ok true →
            (update account env id content (scanRecipient row)).1.needsPNISignature = false := by
          intro hchg
          rcases update_cases account env id content (scanRecipient row) with h | ⟨-, h⟩
          · rw [h]
          · exact absurd hchg h
        have hneeds' : needsPNISignature account id (scanRecipient row) = true ↔ account.pni ≠ .nil := by
          simp [needsPNISignature, htype, scanRecipient, hneeds]
        rw [owesPNISignature, storedRow_of_aci _ htype, load_of_aci account env s content htype,
          byACI_load _ _ _ _ hnil]
        by_cases hsaves : env.faults.Completes ∧ Writes s.table id.uuid (updater account env id content)
        · obtain ⟨hneed, hsigned⟩ := hwrites.mp hsaves.2
          have hflag := hclear (update_changed.mpr ⟨hneed, hsigned⟩)
          rw [if_pos ⟨rfl, hsaves⟩, recipientOf_of_row hrow]
          exact ⟨fun _ => ⟨hsup, htype, hnil, hneeds'.mp hneed, hsaves.1, hsigned⟩, fun _ => hflag⟩
        · rw [if_neg (fun h => hsaves h.2), hrow, Option.any_some, hneeds]
          refine iff_of_false (by simp) fun h => ?_
          obtain ⟨-, -, -, hpni, hcomp, hsigned⟩ := h
          exact hsaves ⟨hcomp, hwrites.mpr ⟨hneeds'.mpr hpni, hsigned⟩⟩
    · rw [load_kept_other htype hrow, howes]
      exact iff_of_false (by simp) fun h => htype h.2.1
  · rw [sendMessage, if_neg hsup, howes]
    exact iff_of_false (by simp) fun h => hsup h.1

end Clearing

section Sends

variable {account : Account} {env : Env} {s : Store} {id : ServiceID} {content : Content}

def isSync (content : Content) : Bool :=
  match content.body with
  | .sync _ => true
  | _ => false

def acceptedWithSignature (id : ServiceID) (sent : Sent) : Bool :=
  sent.recipient = id && sent.content.pniSignatureMessage && sent.delivery.accepted

-- Whether the message itself goes to the recipient: typing messages and receipts may be withheld or turned off, and
-- the own devices only get a copy.
def Reaches (account : Account) (id : ServiceID) (content : Content) (whitelisted : Option Bool) : Prop :=
  ¬(whitelisted = some false ∧ content.isTypingOrReceipt = true) ∧
  ¬(content.isTyping = true ∧ typingDisabled account = true) ∧
  ¬(content.isReadReceipt = true ∧ readReceiptsDisabled account = true) ∧
  (id = account.aciServiceID → content.isDeliveryReceipt = true ∨ isSync content = true)

theorem sendContent_of_aci (account : Account) (env : Env) (content : Content)
    (htype : id.type = serviceIDTypeACI) :
    sendContent account env id content =
      (env.deliver id content, [⟨id, content, env.deliver id content⟩]) := by
  have hne : id ≠ newPNIServiceID account.pni := by
    rintro rfl
    have hkinds : serviceIDTypePNI = serviceIDTypeACI := htype
    exact absurd hkinds (by decide)
  rw [sendContent, if_neg hne]

theorem mem_sendSyncCopy {sent : Sent} (h : sent ∈ (sendSyncCopy account env content id).2)
    (hsigned : sent.content.pniSignatureMessage = true) :
    isSync content = true ∧ sent = ⟨account.aciServiceID, content, env.deliver account.aciServiceID content⟩ := by
  unfold sendSyncCopy at h
  split at h
  · cases h
  rename_i copy hsync
  obtain rfl := List.mem_singleton.mp h
  unfold Sending.syncContent at hsync
  split at hsync
  · cases hsync
    cases hsigned
  · cases hsync
    cases hsigned
  · unfold Sending.syncMessageFromReadReceiptMessage at hsync
    split at hsync
    · cases hsync
    · split at hsync <;> cases hsync <;> cases hsigned
  · rename_i hbody
    cases hsync
    refine ⟨?_, rfl⟩
    rw [isSync, hbody]
  · cases hsync

theorem any_sendSyncCopy (account : Account) (env : Env) (id : ServiceID) (hsync : isSync content = false) :
    (sendSyncCopy account env content id).2.any (acceptedWithSignature id) = false := by
  rw [List.any_eq_false]
  intro sent hsent hacc
  simp only [acceptedWithSignature, Bool.and_eq_true] at hacc
  have h := (mem_sendSyncCopy hsent hacc.1.2).1
  rw [hsync] at h
  cases h

theorem isSync_of_typingOrReceipt (h : content.isTypingOrReceipt = true) : isSync content = false := by
  unfold Content.isTypingOrReceipt Content.isTyping Content.isReceipt at h
  unfold isSync
  cases hbody : content.body <;> simp_all

theorem isTypingOrReceipt_of_readReceipt (h : content.isReadReceipt = true) : content.isTypingOrReceipt = true := by
  unfold Content.isReadReceipt at h
  unfold Content.isTypingOrReceipt Content.isTyping Content.isReceipt
  split at h
  · rename_i hbody
    rw [hbody]
    rfl
  · rename_i hbody
    rw [hbody]
    rfl
  · cases h

theorem any_sendSyncCopy_own (hsync : isSync content = true) (hsigned : content.pniSignatureMessage = true) :
    (sendSyncCopy account env content account.aciServiceID).2.any (acceptedWithSignature account.aciServiceID) =
      (env.deliver account.aciServiceID content).accepted := by
  have hcopy : Sending.syncContent content account.aciServiceID = some content := by
    unfold isSync at hsync
    unfold Sending.syncContent
    split at hsync
    · rename_i hbody
      rw [hbody]
    · cases hsync
  rw [sendSyncCopy, hcopy]
  dsimp only
  rw [sendContent_of_aci account env content rfl]
  simp [acceptedWithSignature, hsigned]

theorem any_sent_iff {r : Recipient} (htype : id.type = serviceIDTypeACI)
    (hsigned : content.pniSignatureMessage = true) (hclear : r.needsPNISignature = false) :
    (sendLoaded account env s (some r) id content).sent.any (acceptedWithSignature id) = true ↔
      Reaches account id content r.whitelisted ∧ (env.deliver id content).accepted = true := by
  have hreq : (some r).any probablyMessageRequest = true ↔ r.whitelisted = some false := by
    simp [probablyMessageRequest, hclear]
  have hnoCopy : isSync content = false →
      (sendSyncCopy account env content id).2.any (acceptedWithSignature id) = false :=
    any_sendSyncCopy account env id
  unfold sendLoaded
  by_cases hwithheld : r.whitelisted = some false ∧ content.isTypingOrReceipt = true
  · have hnone := hnoCopy (isSync_of_typingOrReceipt hwithheld.2)
    rw [if_pos (by rw [Bool.and_eq_true, hreq]; exact hwithheld)]
    refine ⟨fun h => ?_, fun h => absurd hwithheld h.1.1⟩
    split at h
    · rw [hnone] at h
      cases h
    · cases h
  rw [if_neg (by rw [Bool.and_eq_true, hreq]; exact hwithheld)]
  by_cases htyp : content.isTyping = true ∧ typingDisabled account = true
  · rw [if_pos (by rw [Bool.and_eq_true]; exact htyp)]
    exact ⟨nofun, fun h => absurd htyp h.1.2.1⟩
  rw [if_neg (by rw [Bool.and_eq_true]; exact htyp)]
  by_cases hrcpt : content.isReadReceipt = true ∧ readReceiptsDisabled account = true
  · have hnone := hnoCopy (isSync_of_typingOrReceipt (isTypingOrReceipt_of_readReceipt hrcpt.1))
    rw [if_pos (by rw [Bool.and_eq_true]; exact hrcpt), hnone]
    exact ⟨nofun, fun h => absurd hrcpt h.1.2.2.1⟩
  rw [if_neg (by rw [Bool.and_eq_true]; exact hrcpt)]
  by_cases hown : id = account.aciServiceID ∧ content.isDeliveryReceipt = false
  · rw [if_pos (by simpa using hown)]
    obtain ⟨rfl, hdelivery⟩ := hown
    cases hsync : isSync content with
    | false =>
      rw [hnoCopy hsync]
      refine ⟨nofun, fun h => ?_⟩
      rcases h.1.2.2.2 rfl with h' | h'
      · rw [hdelivery] at h'
        cases h'
      · rw [hsync] at h'
        cases h'
    | true =>
      rw [any_sendSyncCopy_own hsync hsigned]
      exact ⟨fun h => ⟨⟨hwithheld, htyp, hrcpt, fun _ => .inr hsync⟩, h⟩, fun h => h.2⟩
  rw [if_neg (by simpa using hown), sendContent_of_aci account env content htype]
  have hreaches : Reaches account id content r.whitelisted := by
    refine ⟨hwithheld, htyp, hrcpt, fun heq => .inl ?_⟩
    cases hdelivery : content.isDeliveryReceipt with
    | true => rfl
    | false => exact absurd ⟨heq, hdelivery⟩ hown
  have hfirst : acceptedWithSignature id ⟨id, content, env.deliver id content⟩ =
      (env.deliver id content).accepted := by
    simp [acceptedWithSignature, hsigned]
  cases hdeliver : env.deliver id content with
  | failed accepted =>
    rw [hdeliver] at hfirst
    simp only [List.any_cons, hfirst, List.any_nil, Bool.or_false]
    exact ⟨fun h => ⟨hreaches, h⟩, fun h => h.2⟩
  | sent =>
    rw [hdeliver] at hfirst
    simp only [List.any_append, List.any_cons, hfirst, Delivery.accepted, Bool.true_or]
    exact ⟨fun _ => ⟨hreaches, trivial⟩, fun _ => trivial⟩

end Sends

section Theorem

variable {account : Account} {env : Env} {s : Store} {id : ServiceID} {content : Content}

def withSignature (content : Content) : Content := { content with pniSignatureMessage := true }

theorem signedContent_of_signed {handed : Recipient} (hneeds : needsPNISignature account id handed = true)
    (hsigned : Signed env content) : signedContent account env id content (some handed) = withSignature content := by
  cases h : content.pniSignatureMessage with
  | true =>
    simp only [signedContent, h, Bool.not_true, Bool.and_false, Bool.false_eq_true, if_false]
    rw [withSignature, ← h]
  | false =>
    obtain ⟨htyp, hsign⟩ : content.isTypingOrReceipt = false ∧ env.signAlternateIdentity = .ok () := by
      refine hsigned.resolve_left fun htrue => ?_
      rw [h] at htrue
      cases htrue
    simp only [signedContent, hneeds, htyp, h, hsign]
    rfl

theorem isProfileKeyUpdate_of_typingOrReceipt (h : content.isTypingOrReceipt = true) :
    isProfileKeyUpdate content = false := by
  unfold Content.isTypingOrReceipt Content.isTyping Content.isReceipt at h
  unfold isProfileKeyUpdate
  cases hbody : content.body <;> simp_all

theorem reaches_accept :
    Reaches account id content (accept content r).whitelisted ↔ Reaches account id content r.whitelisted := by
  refine and_congr_left fun _ => not_congr (and_congr_left fun htyp => ?_)
  rw [accept, isProfileKeyUpdate_of_typingOrReceipt htyp]
  rfl

def storedWhitelisted (table : Table) (id : ServiceID) : Option Bool := (storedRow table id).bind Row.whitelisted

theorem any_sendMessage_iff (howes : owesPNISignature s.table id = true) (hclears : Clears account env id content) :
    (sendMessage account env s id content).sent.any (acceptedWithSignature id) = true ↔
      Reaches account id content (storedWhitelisted s.table id) ∧
        (env.deliver id (withSignature content)).accepted = true := by
  obtain ⟨hsup, htype, hnil, hpni, hcomp, hsigned⟩ := hclears
  obtain ⟨row, hrow, hflag⟩ := (Option.any_eq_true _ _).mp howes
  rw [storedWhitelisted, hrow, Option.bind_some]
  rw [storedRow_of_aci _ htype] at hrow
  have hneeds : needsPNISignature account id (scanRecipient row) = true := by
    simp [needsPNISignature, htype, scanRecipient, hflag, hpni]
  obtain ⟨hhanded, hrecipient⟩ := load_reads env.order env.faults s (updater account env id content) hnil
    hcomp.1 hcomp.2.1
  rw [← load_of_aci account env s content htype, recipientOf_of_row hrow] at hhanded hrecipient
  have hupd : (update account env id content (scanRecipient row)).1 =
      { accept content (scanRecipient row) with needsPNISignature := false } := by
    rcases update_cases account env id content (scanRecipient row) with h | ⟨-, h⟩
    · rw [h]
    · exact absurd (update_changed.mpr ⟨hneeds, hsigned⟩) h
  have hdata : (updater account env id content).run (scanRecipient row) =
      update account env id content (scanRecipient row) := rfl
  rw [sendMessage, if_pos hsup]
  dsimp only
  rw [hhanded, hrecipient, hdata, hupd, signedContent_of_signed hneeds hsigned,
    any_sent_iff htype rfl rfl]
  exact and_congr_left fun _ => reaches_accept (scanRecipient row)

-- The flag is cleared before the message is sent, so this depends on what becomes of the message.
theorem clears_only_if_accepted_iff (account : Account) (env : Env) (s : Store) (id : ServiceID)
    (content : Content) :
    (owesPNISignature s.table id = true →
      owesPNISignature (sendMessage account env s id content).store.table id = false →
      (sendMessage account env s id content).sent.any (acceptedWithSignature id) = true) ↔
    (owesPNISignature s.table id = true → Clears account env id content →
      Reaches account id content (storedWhitelisted s.table id) ∧
        (env.deliver id (withSignature content)).accepted = true) := by
  refine forall_congr' fun howes => ?_
  constructor
  · intro h hclears
    exact (any_sendMessage_iff howes hclears).mp (h ((owes_after_iff howes).mpr hclears))
  · intro h hafter
    have hclears := (owes_after_iff howes).mp hafter
    exact (any_sendMessage_iff howes hclears).mpr (h hclears)

end Theorem

def sampleAccount : Account where
  aci := .ofByte 1
  pni := .ofByte 2
  accountRecord := none

def offline : Env where
  order := .stored
  faults := {}
  signAlternateIdentity := .ok ()
  deliver _ _ := .failed false

def owedStore : Store where
  table := ⟨[{ aci := some (.ofByte 3), needsPNISignature := true }], by decide⟩

-- The row is committed before sendContent fails.
theorem flag_cleared_by_failed_send :
    owesPNISignature owedStore.table (newACIServiceID (.ofByte 3)) = true ∧
    owesPNISignature (sendMessage sampleAccount offline owedStore (newACIServiceID (.ofByte 3))
      { body := .data false 7 }).store.table (newACIServiceID (.ofByte 3)) = false ∧
    (sendMessage sampleAccount offline owedStore (newACIServiceID (.ofByte 3)) { body := .data false 7 }).sent =
      [⟨newACIServiceID (.ofByte 3), { body := .data false 7, pniSignatureMessage := true }, .failed false⟩] := by
  decide +kernel

end MautrixSignal.MessageRequests
