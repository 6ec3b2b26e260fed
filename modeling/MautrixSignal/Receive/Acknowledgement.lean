import MautrixSignal.Receive.Panics

namespace MautrixSignal.Receive

open Lib

variable {isBlocked : Bool} {chatRecipient destination : ServiceID} {serverTimestamp : UInt64} {index : Nat}
  {envelope : Envelope} {content : Content} {sender : Address} {result : DecryptionResult} {outcome : Outcome}
  {s t : State}

-- The steps whose failure is meant to keep a message for another delivery. The others only log their
-- errors, or nobody asks for their results.
def Op.required : Op → Bool
  | .handleEvent (.aciFound _ _) _ => false
  | .handleEvent (.chatEvent _ (.typing _)) _ => false
  | .handleEvent _ _ => true
  | .deserializeSenderKeyDistribution _ => true
  | .processSenderKeyDistribution _ _ => true
  | .storeProfileKey _ _ => true
  | .groupIdentifierFromMasterKey _ => true
  | .storeMasterKey _ _ => true
  | .setBlocked _ _ => true
  | _ => false

def State.extend (s : State) (entries : List Entry) : State := { s with log := s.log ++ entries }

@[simp] theorem State.extend_nil (s : State) : s.extend [] = s := by
  simp [State.extend]

@[simp] theorem State.extend_extend (s : State) (first second : List Entry) :
    (s.extend first).extend second = s.extend (first ++ second) := by
  simp [State.extend]

theorem State.push_eq_extend (s : State) (entry : Entry) : s.push entry = s.extend [entry] := rfl

def Clean (entries : List Entry) : Prop := ∀ entry ∈ entries, entry.op.required = true → entry.ok = true

@[simp] theorem clean_nil : Clean [] := by
  simp [Clean]

@[simp] theorem clean_append {first second : List Entry} : Clean (first ++ second) ↔ Clean first ∧ Clean second := by
  simp only [Clean]
  grind

theorem clean_singleton {entry : Entry} : Clean [entry] ↔ (entry.op.required = true → entry.ok = true) := by
  simp [Clean]

section Judges

variable {env : Env} {α β : Type} {m : Prog Panic State α} {k : α → Prog Panic State β}
  {ok : α → Bool} {ok' : β → Bool} {a : α} {op : Op}

-- The program only adds to the log, and its result says whether a required step failed.
def Judges (m : Prog Panic State α) (ok : α → Bool) : Prop :=
  ∀ s a t, Returns m s a t → ∃ entries, t = s.extend entries ∧ (ok a = true ↔ Clean entries)

def Rejects (m : Prog Panic State α) (ok : α → Bool) : Prop :=
  ∀ s a t, Returns m s a t → ok a = false ∧ ∃ entries, t = s.extend entries

theorem Judges.pure (h : ok a = true) : Judges (pure a) ok := by
  intro s b t hret
  obtain ⟨rfl, rfl⟩ := returns_pure.mp hret
  exact ⟨[], by simp, by simp [h]⟩

theorem Rejects.pure (h : ok a = false) : Rejects (pure a) ok := by
  intro s b t hret
  obtain ⟨rfl, rfl⟩ := returns_pure.mp hret
  exact ⟨h, [], by simp⟩

theorem Judges.bind_returned (hm : Judges m ok) (hgood : ∀ s a t, Returns m s a t → ok a = true → Judges (k a) ok')
    (hbad : ∀ s a t, Returns m s a t → ok a = false → Rejects (k a) ok') : Judges (m >>= k) ok' := by
  intro s b u h
  obtain ⟨a, t, ha, hb⟩ := returns_bind.mp h
  obtain ⟨first, rfl, hfirst⟩ := hm s a t ha
  cases hok : ok a with
  | true =>
    obtain ⟨second, rfl, hsecond⟩ := hgood _ _ _ ha hok _ b u hb
    refine ⟨first ++ second, by simp, ?_⟩
    rw [clean_append, ← hfirst, ← hsecond]
    simp [hok]
  | false =>
    obtain ⟨hres, second, rfl⟩ := hbad _ _ _ ha hok _ b u hb
    refine ⟨first ++ second, by simp, ?_⟩
    rw [clean_append, ← hfirst]
    simp [hok, hres]

theorem Judges.bind (hm : Judges m ok) (hgood : ∀ a, ok a = true → Judges (k a) ok')
    (hbad : ∀ a, ok a = false → Rejects (k a) ok') : Judges (m >>= k) ok' :=
  hm.bind_returned (fun _ a _ _ => hgood a) fun _ a _ _ => hbad a

theorem Judges.guard {m : Prog Panic State Bool} {good bad : Prog Panic State β} (hm : Judges m id)
    (hgood : Judges good ok') (hbad : Rejects bad ok') : Judges (do if ← m then good else bad) ok' := by
  refine hm.bind (fun a ha => ?_) (fun a ha => ?_)
  · rw [if_pos (show a = true from ha)]
    exact hgood
  · rw [if_neg (show ¬ a = true from ne_true_of_eq_false ha)]
    exact hbad

theorem Judges.option {m : Prog Panic State (Option α)} {k : Option α → Prog Panic State β}
    (hm : Judges m Option.isSome) (hsome : ∀ a, Judges (k (some a)) ok') (hnone : Rejects (k none) ok') :
    Judges (m >>= k) ok' := by
  refine hm.bind (fun a h => ?_) (fun a h => ?_)
  · cases a with
    | none => cases h
    | some a => exact hsome a
  · cases a with
    | none => exact hnone
    | some a => cases h

def Neutral (m : Prog Panic State α) : Prop := Judges m fun _ => true

theorem Neutral.bind (hm : Neutral m) (hk : ∀ a, Judges (k a) ok') : Judges (m >>= k) ok' :=
  Judges.bind hm (fun a _ => hk a) fun _ h => absurd h nofun

theorem Neutral.bind_rejects (hm : Neutral m) (hk : ∀ a, Rejects (k a) ok') : Rejects (m >>= k) ok' := by
  intro s b u h
  obtain ⟨a, t, ha, hb⟩ := returns_bind.mp h
  obtain ⟨first, rfl, -⟩ := hm s a t ha
  obtain ⟨hres, second, rfl⟩ := hk a _ b u hb
  exact ⟨hres, first ++ second, by simp⟩

theorem Neutral.guard {m : Prog Panic State Bool} {yes no : Prog Panic State β} (hm : Neutral m)
    (hyes : Judges yes ok') (hno : Judges no ok') : Judges (do if ← m then yes else no) ok' := by
  refine hm.bind fun a => ?_
  split
  · exact hyes
  · exact hno

theorem Neutral.pure : Neutral (pure a : Prog Panic State α) := Judges.pure rfl

theorem judges_attempt (h : op.required = true) : Judges (attempt env op) id := by
  intro s a t hret
  obtain ⟨rfl, rfl⟩ := returns_attempt.mp hret
  exact ⟨[_], State.push_eq_extend _ _, by simp [clean_singleton, h]⟩

theorem neutral_attempt (h : op.required = false) : Neutral (attempt env op) := by
  intro s a t hret
  obtain ⟨rfl, rfl⟩ := returns_attempt.mp hret
  exact ⟨[_], State.push_eq_extend _ _, by simp [clean_singleton, h]⟩

theorem neutral_record {result : Bool} (h : op.required = false) : Neutral (record op result) := by
  intro s a t hret
  obtain rfl := returns_record.mp hret
  exact ⟨[_], State.push_eq_extend _ _, by simp [clean_singleton, h]⟩

theorem judges_attemptIf {condition : Bool} (h : op.required = true) : Judges (attemptIf env condition op) id := by
  unfold attemptIf
  split
  · exact judges_attempt h
  · exact Judges.pure rfl

theorem neutral_attemptIf {condition : Bool} (h : op.required = false) : Neutral (attemptIf env condition op) := by
  unfold attemptIf
  split
  · exact neutral_attempt h
  · exact Neutral.pure

end Judges

variable {env : Env} {α β : Type}

theorem judges_storeMasterKey {masterKey : Bytes} : Judges (storeMasterKey env masterKey) Option.isSome :=
  (judges_attempt rfl).guard ((judges_attempt rfl).guard (.pure rfl) (.pure rfl)) (.pure rfl)

def Chat.handled : Chat → Bool
  | .failed => false
  | _ => true

theorem Judges.chat {m : Prog Panic State Chat} {k : Chat → Prog Panic State β} {ok : β → Bool}
    (hm : Judges m Chat.handled) (hfound : ∀ groupID revision, Judges (k (.found groupID revision)) ok)
    (hdropped : Judges (k .dropped) ok) (hfail : Rejects (k .failed) ok) : Judges (m >>= k) ok := by
  refine hm.bind (fun chat h => ?_) (fun chat h => ?_)
  · cases chat with
    | failed => cases h
    | dropped => exact hdropped
    | found groupID revision => exact hfound groupID revision
  · cases chat with
    | failed => exact hfail
    | dropped | found groupID revision => cases h

variable {group : Option GroupContextV2}

theorem judges_messageChat : Judges (messageChat env group isBlocked) Chat.handled := by
  unfold messageChat
  split
  · split
    · exact .pure rfl
    · exact judges_storeMasterKey.option (fun _ => .pure rfl) (.pure rfl)
  · cases isBlocked <;> exact .pure rfl

theorem judges_map {m : Prog Panic State α} {f : α → β} {ok : α → Bool} {ok' : β → Bool}
    (hm : Judges m ok) (hf : ∀ a, ok' (f a) = ok a) : Judges (do pure (f (← m))) ok' := by
  refine hm.bind (fun a ha => ?_) (fun a ha => ?_)
  · exact .pure ((hf a).trans ha)
  · exact .pure ((hf a).trans ha)

theorem judges_incomingEditMessage {message : EditMessage} {sender : UUID} :
    Judges (incomingEditMessage env message sender chatRecipient serverTimestamp isBlocked) Prod.fst :=
  judges_messageChat.chat (fun _ _ => judges_map (judges_attempt rfl) fun _ => rfl) (.pure rfl) (.pure rfl)

theorem judges_saveProfileKey {sender : UUID} {profileKey : Option Bytes} :
    Judges (saveProfileKey env sender profileKey) id := by
  unfold saveProfileKey
  split
  · exact .pure rfl
  · split
    · exact judges_attempt rfl
    · exact .pure rfl

theorem required_dataMessageEvent {message : DataMessage} {groupID : String} {info : MessageInfo} :
    (Op.handleEvent (dataMessageEvent env message groupID info) 0).required = true := by
  unfold dataMessageEvent
  split <;> rfl

theorem judges_incomingDataMessage {message : DataMessage} {sender : UUID} {envelope : Option Envelope} :
    Judges (incomingDataMessage env message sender chatRecipient serverTimestamp isBlocked envelope)
      Prod.fst :=
  judges_saveProfileKey.guard
    (judges_messageChat.chat
      (fun _ _ => judges_map (judges_attempt required_dataMessageEvent) fun _ => rfl) (.pure rfl) (.pure rfl))
    (.pure rfl)

theorem Judges.of_toArray {length : Nat} {slice : Bytes} {k : Bytes → Prog Panic State β} {ok : β → Bool}
    (hk : ∀ array, Judges (k array) ok) : Judges (toArray length slice >>= k) ok := by
  refine Neutral.bind (fun s array t h => ?_) hk
  obtain ⟨-, -, rfl⟩ := returns_toArray.mp h
  exact ⟨[], by simp, by simp⟩

theorem judges_storyProfileKey {author : UUID} {profileKey : Option Bytes} :
    Judges (storyProfileKey env author profileKey) id := by
  cases profileKey with
  | none => exact .pure rfl
  | some key => exact .of_toArray fun _ => judges_attempt rfl

theorem judges_storyChat : Judges (storyChat env group isBlocked) Chat.handled := by
  cases group with
  | none => cases isBlocked <;> exact .pure rfl
  | some group =>
    exact .of_toArray fun _ => judges_storeMasterKey.option (fun _ => .pure rfl) (.pure rfl)

theorem judges_incomingStoryMessage {story : StoryMessage} {author : UUID} {timestamp : UInt64} :
    Judges (incomingStoryMessage env story author chatRecipient timestamp serverTimestamp isBlocked) id := by
  refine judges_storyProfileKey.guard (judges_storyChat.chat (fun groupID revision => ?_) (.pure rfl)
    (.pure rfl)) (.pure rfl)
  dsimp only
  split
  · exact .pure rfl
  · exact judges_attempt rfl

theorem neutral_of_unchanged {m : Prog Panic State α} (h : ∀ s a t, Returns m s a t → t = s) : Neutral m := by
  intro s a t hret
  obtain rfl := h s a t hret
  exact ⟨[], by simp, by simp⟩

theorem neutral_contactAvatar {contact : ContactDetails} {avatar : Option Bytes} :
    Neutral (contactAvatar env contact avatar) := by
  apply neutral_of_unchanged
  intro s a t h
  unfold contactAvatar at h
  split at h
  · exact (returns_pure.mp h).2.symm
  · exact (returns_pure.mp h).2.symm
  split at h
  · exact (returns_pure.mp h).2.symm
  · split at h
    · exact (returns_pure.mp h).2.symm
    · split at h
      · exact (returns_pure.mp h).2.symm
      · exact absurd h returns_throw

theorem neutral_storeContactDetailsAsContact {contact : ContactDetails} {avatar : Option Bytes} :
    Neutral (storeContactDetailsAsContact env index contact avatar) := by
  unfold storeContactDetailsAsContact
  split
  · exact .pure
  · exact (neutral_attempt rfl).guard (neutral_contactAvatar.bind fun _ =>
      (neutral_attempt rfl).guard (.pure rfl) (.pure rfl)) (.pure rfl)

variable {contacts : List (ContactDetails × Option Bytes)}

theorem neutral_storeContacts : Neutral (storeContacts env index contacts) := by
  induction contacts generalizing index with
  | nil => exact .pure
  | cons entry rest ih =>
    unfold storeContacts
    split
    · refine neutral_storeContactDetailsAsContact.bind fun stored => ?_
      cases stored with
      | none => exact .pure rfl
      | some stored =>
        refine ih.bind fun others => ?_
        cases others <;> exact .pure rfl
    · exact ih

theorem neutral_doContactTxn : Neutral (doContactTxn env contacts) := by
  refine (neutral_attempt rfl).guard (neutral_storeContacts.bind fun stored => ?_) (.pure rfl)
  cases stored with
  | none => exact .pure rfl
  | some stored => exact (neutral_attempt rfl).guard (.pure rfl) (.pure rfl)

theorem judges_handleSyncContacts {blob : AttachmentPointer} : Judges (handleSyncContacts env blob) id := by
  have hdownload : Neutral (downloadAttachmentWithPointer env blob none) :=
    neutral_of_unchanged fun s a t h => (returns_downloadAttachmentWithPointer h).1
  refine hdownload.bind fun downloaded => (neutral_record rfl).bind fun _ => ?_
  have hread : Neutral (unmarshalContactDetailsMessages env (downloaded.getD [])) :=
    neutral_of_unchanged fun s a t h => (returns_unmarshalContactDetailsMessages h).1
  refine hread.bind fun contacts => (neutral_record rfl).bind fun _ => neutral_doContactTxn.bind fun stored => ?_
  cases stored with
  | none => exact .pure rfl
  | some stored => exact judges_attempt rfl

theorem judges_handleSyncKeys {accountEntropyPool : Bytes} : Judges (handleSyncKeys env accountEntropyPool) id := by
  refine (neutral_attemptIf rfl).bind fun _ => (neutral_attempt rfl).guard ?_ (.pure rfl)
  exact (neutral_record rfl).bind fun _ => .pure rfl

theorem judges_handleMessageRequestResponse {response : RequestResponse} :
    Judges (handleMessageRequestResponse env response envelope) id :=
  (neutral_attemptIf rfl).bind fun _ => (judges_attemptIf rfl).guard (judges_attempt rfl) (.pure rfl)

-- A required step for a message of the chat fails: the lookup of its group, or the event handler.
def ChatFails (env : Env) (event : String → UInt32 → Event) : Option GroupContextV2 → Prop
  | none => env.succeeds (.handleEvent (event "" 0) 0) = false
  | some group => group.masterKey.length = groupMasterKeyLength ∧
      (env.succeeds (.groupIdentifierFromMasterKey group.masterKey) = false ∨
        env.succeeds (.storeMasterKey (env.groupIdentifier group.masterKey) group.masterKey) = false ∨
        env.succeeds (.handleEvent (event (env.groupIdentifier group.masterKey) group.revision) 0) = false)

theorem returns_chat_handled {event : String → UInt32 → Event} {result : Bool × Bool}
    (h : ¬ ChatFails env event group) (hret : Returns (do
      match ← messageChat env group false with
      | .failed => pure (false, false)
      | .dropped => pure (true, false)
      | .found groupID revision => do pure (← handleEvent env (event groupID revision), true)) s result t) :
    result.1 = true := by
  obtain ⟨chat, u, hchat, hret⟩ := returns_bind.mp hret
  cases chat with
  | dropped =>
    obtain ⟨rfl, -⟩ := returns_pure.mp hret
    rfl
  | found groupID revision =>
    have hfound := returns_messageChat_found.mp ⟨u, hchat⟩
    obtain ⟨ok, v, hevt, hret⟩ := returns_bind.mp hret
    obtain ⟨rfl, -⟩ := returns_handleEvent.mp hevt
    obtain ⟨rfl, -⟩ := returns_pure.mp hret
    cases group with
    | none =>
      obtain ⟨-, rfl, rfl⟩ := hfound
      simpa [ChatFails] using h
    | some group =>
      obtain ⟨hlen, -, -, rfl, rfl⟩ := hfound
      simp only [ChatFails, hlen, true_and, not_or] at h
      simpa using h.2.2
  | failed =>
    -- Only the steps of storeMasterKey can have failed.
    cases group with
    | none => cases (returns_pure.mp hchat).1
    | some group =>
      unfold messageChat at hchat
      dsimp only at hchat
      by_cases hlen : group.masterKey.length = groupMasterKeyLength
      · simp only [ChatFails, hlen, true_and, not_or, Bool.not_eq_false] at h
        obtain ⟨v, hstored⟩ := (returns_storeMasterKey_some (s := s)).mpr ⟨h.1, h.2.1, rfl⟩
        rw [if_neg (not_not.mpr hlen)] at hchat
        obtain ⟨found, w, hkey, hchat⟩ := returns_bind.mp hchat
        obtain ⟨rfl, -⟩ := hkey.unique hstored
        cases (returns_pure.mp hchat).1
      · rw [if_pos hlen] at hchat
        cases (returns_pure.mp hchat).1

section SentCopies

variable (env : Env) (envelope : Envelope) (sent : SentMessage)

variable (groupID : String) (revision : UInt32)

def sentInfo : MessageInfo :=
  messageInfo env.aci (sent.destination env) groupID revision envelope.serverTimestamp

def sentEvent (message : DataMessage) (groupID : String) (revision : UInt32) : Event :=
  dataMessageEvent env message groupID (withEnvelope env none (sentInfo env envelope sent groupID revision))

def sentEdit (edit : EditMessage) (groupID : String) (revision : UInt32) : Event :=
  .chatEvent (sentInfo env envelope sent groupID revision) (.edit edit)

-- The copy of a message or an edit with a chat that it belongs to, and a required step of its handling that fails.
def SentCopyFails : Prop :=
  sent.storyMessage = none ∧
    ¬ (ServiceID.isEmpty (sent.destination env) ∧ sent.message.bind (·.groupV2) = none ∧
      (sent.editMessage.bind (·.dataMessage)).bind (·.groupV2) = none) ∧
    match sent.message, sent.editMessage with
    | some message, _ => ¬ SavesProfileKey env env.aci message.profileKey ∨
        ChatFails env (sentEvent env envelope sent message) message.groupV2
    | none, some edit => ChatFails env (sentEdit env envelope sent edit) (edit.dataMessage.bind (·.groupV2))
    | none, none => False

end SentCopies

theorem Judges.neutral {m : Prog Panic State α} {ok : α → Bool} (hm : Judges m ok)
    (h : ∀ s a t, Returns m s a t → ok a = true) : Neutral m := by
  intro s a t hret
  obtain ⟨entries, rfl, hclean⟩ := hm s a t hret
  exact ⟨entries, rfl, iff_of_true rfl (hclean.mp (h s a _ hret))⟩

theorem neutral_saveUnidentifiedStatus {statuses : List UnidentifiedStatus} :
    Neutral (saveUnidentifiedStatus env index statuses) := by
  induction statuses generalizing index with
  | nil => exact .pure
  | cons status rest ih =>
    unfold saveUnidentifiedStatus
    split
    · split
      · exact (neutral_attempt rfl).bind fun _ => ih
      · exact ih
    · exact ih

theorem neutral_handleSyncSentMessage {sent : SentMessage} (hstory : sent.storyMessage = none)
    (h : ¬ SentCopyFails env envelope sent) : Neutral (handleSyncSentMessage env sent envelope) := by
  refine (neutral_attemptIf rfl).bind fun _ => neutral_saveUnidentifiedStatus.bind fun _ => ?_
  split
  · exact .pure rfl
  rename_i hchat
  split
  · rename_i message hmsg
    have hmatch : ¬ (¬ SavesProfileKey env env.aci message.profileKey ∨
        ChatFails env (sentEvent env envelope sent message) message.groupV2) := by
      intro hfails
      refine h ⟨hstory, hchat, ?_⟩
      rw [hmsg]
      exact hfails
    obtain ⟨hkey, hhandled⟩ := not_or.mp hmatch
    refine (judges_incomingDataMessage.neutral fun s result t hret => ?_).bind fun _ => .pure rfl
    obtain ⟨ok, u, hsaved, hret⟩ := returns_bind.mp hret
    obtain ⟨v, htrue⟩ := (returns_saveProfileKey_true (s := s)).mpr (not_not.mp hkey)
    obtain ⟨rfl, -⟩ := hsaved.unique htrue
    exact returns_chat_handled hhandled hret
  · rename_i edit hmsg hedit
    have hhandled : ¬ ChatFails env (sentEdit env envelope sent edit) (edit.dataMessage.bind (·.groupV2)) := by
      intro hfails
      refine h ⟨hstory, hchat, ?_⟩
      rw [hmsg, hedit]
      exact hfails
    refine (judges_incomingEditMessage.neutral fun s result t hret => ?_).bind fun _ => .pure rfl
    exact returns_chat_handled hhandled hret
  · exact .pure rfl

theorem judges_handleSyncSent {sent : SentMessage} (h : ¬ SentCopyFails env envelope sent) :
    Judges (handleSyncSent env sent envelope) id := by
  unfold handleSyncSent
  cases hstory : sent.storyMessage with
  | none =>
    dsimp only
    split
    · exact (neutral_handleSyncSentMessage hstory h).bind fun _ => .pure rfl
    · exact .pure rfl
  | some story =>
    dsimp only
    split
    · exact judges_incomingStoryMessage
    · exact .pure rfl

theorem judges_handleSyncMessage {message : SyncMessage}
    (h : ∀ sent, message.content = .sent sent → ¬ SentCopyFails env envelope sent) :
    Judges (handleSyncMessage env message envelope) id := by
  unfold handleSyncMessage
  split
  · exact judges_handleSyncKeys
  · split
    · exact (neutral_record rfl).bind fun _ => .pure rfl
    · exact .pure rfl
  · exact judges_handleSyncSent (h _ ‹_›)
  · exact .pure rfl
  · exact judges_handleSyncContacts
  · exact judges_attempt rfl
  · exact judges_attempt rfl
  · exact judges_attempt rfl
  · exact judges_handleMessageRequestResponse
  · split
    · exact judges_attempt rfl
    · exact .pure rfl

theorem judges_handleCallEvents {events : List CallEvent}
    (h : ∀ i event, events[i]? = some event → env.succeeds (.handleEvent (.call event) (index + i)) = true) :
    Judges (handleCallEvents env index true events) id := by
  induction events generalizing index with
  | nil => exact .pure rfl
  | cons event rest ih =>
    have hfirst : env.succeeds (.handleEvent (.call event) index) = true := h 0 event rfl
    intro s ok u hret
    obtain ⟨_, t, hevt, hrest⟩ := returns_bind.mp hret
    obtain ⟨rfl, rfl⟩ := returns_handleEvent.mp hevt
    rw [Bool.or_true] at hrest
    have hothers : ∀ i event, rest[i]? = some event →
        env.succeeds (.handleEvent (.call event) (index + 1 + i)) = true := by
      intro i event hi
      rw [show index + 1 + i = index + (i + 1) by omega]
      exact h (i + 1) event hi
    obtain ⟨entries, rfl, hclean⟩ := ih hothers _ _ _ hrest
    rw [State.push_eq_extend, State.extend_extend]
    refine ⟨_, rfl, ?_⟩
    rw [hclean, clean_append, clean_singleton]
    simp [hfirst]

-- The content's handling drops the result of a failed step, for a call event or the copy of a sent message.
def DropsResult (env : Env) (envelope : Envelope) (sender : ServiceID) : Option ContentMessage → Prop
  | some (.callMessage message) =>
    senderBlocked env sender.uuid = false ∧ ∃ i event,
      (parseCallMessage env.codec message (callInfo envelope sender) envelope.clientTimestamp)[i]? =
          some event ∧
        env.succeeds (.handleEvent (.call event) i) = false
  | some (.syncMessage message) => ∃ sent, message.content = .sent sent ∧ SentCopyFails env envelope sent
  | _ => False

theorem judges_handleContentMessage {sender : ServiceID} {content : Option ContentMessage}
    (h : ¬ DropsResult env envelope sender content) :
    Judges (handleContentMessage env envelope sender (senderBlocked env sender.uuid) content) Prod.fst := by
  unfold handleContentMessage
  split
  · split
    · refine judges_map (judges_handleSyncMessage fun sent hsent hcopy => ?_) fun _ => rfl
      exact h ⟨sent, hsent, hcopy⟩
    · exact .pure rfl
  · exact judges_map judges_incomingDataMessage fun _ => rfl
  · exact judges_map judges_incomingEditMessage fun _ => rfl
  · split
    · exact .pure rfl
    · exact judges_map (judges_attempt rfl) fun _ => rfl
  · exact (neutral_attemptIf rfl).bind fun _ => .pure rfl
  · rename_i message
    split
    · exact .pure rfl
    · rename_i hblocked
      refine judges_map (judges_handleCallEvents fun i event hi => ?_) fun _ => rfl
      rw [Nat.zero_add]
      by_contra hfail
      exact h ⟨Bool.eq_false_iff.mpr hblocked, i, event, hi, Bool.eq_false_iff.mpr hfail⟩
  · exact judges_map judges_incomingStoryMessage fun _ => rfl
  · exact .pure rfl
  · exact .pure rfl
  · exact .pure rfl

theorem neutral_getIdentityKey {serviceID : ServiceID} {afterFetch : Bool} :
    Neutral (getIdentityKey env serviceID afterFetch) :=
  (neutral_attempt rfl).guard (.pure rfl) (.pure rfl)

theorem neutral_pniIdentityFound {pni : ServiceID} : Neutral (pniIdentityFound env pni) := by
  refine neutral_getIdentityKey.bind fun found => ?_
  match found with
  | none | some true => exact .pure rfl
  | some false => exact (neutral_attempt rfl).guard (neutral_getIdentityKey.bind fun _ => .pure rfl) (.pure rfl)

theorem neutral_handlePNISignature {message : Option PniSignatureMessage} {sender : ServiceID} :
    Neutral (handlePNISignature env message sender) := by
  unfold handlePNISignature handlePNISignatureMessage
  split
  · exact .pure
  split
  · exact .pure
  split
  · refine neutral_pniIdentityFound.guard (neutral_getIdentityKey.bind fun found => ?_) (.pure rfl)
    split
    · refine (neutral_attempt rfl).guard ?_ (.pure rfl)
      exact (neutral_attempt rfl).bind fun _ => (neutral_attempt rfl).bind fun _ => .pure rfl
    · exact .pure rfl
  · exact .pure

theorem neutral_prepareSender {sender : ServiceID} : Neutral (prepareSender env content destination sender) :=
  (neutral_attemptIf rfl).bind fun _ => neutral_handlePNISignature.bind fun _ =>
    (neutral_attempt rfl).guard (.pure rfl) (.pure rfl)

theorem judges_processSenderKeyDistribution {message : Option Bytes} :
    Judges (processSenderKeyDistribution env message sender) id := by
  cases message with
  | none => exact .pure rfl
  | some message => exact (judges_attempt rfl).guard (judges_attempt rfl) (.pure rfl)

theorem neutral_sendDeliveryReceipts {timestamp : UInt64} {aci : UUID} :
    Neutral (sendDeliveryReceipts env timestamp aci) := by
  unfold sendDeliveryReceipts
  split
  · exact .pure
  · split
    · exact fun s a t h => absurd h returns_throw
    · exact neutral_record rfl
    · exact neutral_record rfl

-- The places where a failure is lost, or an error is returned without keeping the message.
def LosesFailure (env : Env) (envelope : Envelope) (result : DecryptionResult) : Prop :=
  ∃ sender, result.senderAddress = some sender ∧
    (sender.nameServiceID = none ∨ ∃ content, result.content = some content ∧
      (¬ SenderKeyProcessed env content.senderKeyDistributionMessage sender ∨
        DropsResult env envelope sender.serviceID content.content))

-- The flag alone decides, or the body has turned a false flag into an error already.
def Outcome.Settled (outcome : Outcome) : Prop := outcome.retErr = none ∨ outcome.handlerSuccess = false

theorem Outcome.Settled.isNone_error (h : outcome.Settled) : outcome.error.isNone = outcome.handlerSuccess := by
  obtain ⟨retErr, handlerSuccess⟩ := outcome
  rcases h with rfl | rfl
  · cases handlerSuccess <;> rfl
  · cases retErr <;> rfl

-- Both the flag and the returned error judge the body, because every outcome of it is settled.
section Outcomes

variable {ok : Outcome → Bool} (hflag : ∀ outcome : Outcome, outcome.Settled → ok outcome = outcome.handlerSuccess)

include hflag

theorem judges_handleContent (hkey : SenderKeyProcessed env content.senderKeyDistributionMessage sender)
    (h : ¬ DropsResult env envelope sender.serviceID content.content) :
    Judges (handleContent env content envelope destination sender) ok := by
  refine judges_processSenderKeyDistribution.bind_returned (fun s ok t _ hok => ?_) (fun s ok t hprocess hok => ?_)
  · rw [if_pos (show ok = true from hok)]
    refine Judges.bind_returned neutral_prepareSender (fun s isBlocked t hprep _ => ?_) nofun
    obtain ⟨u, hblocked⟩ := prepareSender_returns
    obtain ⟨rfl, -⟩ := hprep.unique hblocked
    refine (judges_handleContentMessage h).bind (fun result hres => ?_) (fun result hres => ?_)
    · obtain ⟨ok, receipt⟩ := result
      obtain rfl := hres
      cases receipt with
      | none => exact .pure (hflag _ (.inl rfl))
      | some timestamp => exact neutral_sendDeliveryReceipts.bind fun _ => .pure (hflag _ (.inl rfl))
    · obtain ⟨ok, receipt⟩ := result
      obtain rfl := hres
      exact .pure (hflag _ (.inl rfl))
  · obtain ⟨u, htrue⟩ := (returns_processSenderKeyDistribution_true (s := s)).mpr hkey
    obtain ⟨rfl, -⟩ := hprocess.unique htrue
    cases hok

theorem judges_handleDecryptionError {err : DecryptionError} :
    Judges (handleDecryptionError env result err envelope sender) ok := by
  unfold handleDecryptionError
  split
  · exact .pure (hflag _ (.inl rfl))
  have hretry : Neutral (startRetryRequest result envelope sender) := by
    unfold startRetryRequest
    split
    · exact neutral_record rfl
    · exact .pure
  refine (judges_attemptIf rfl).bind ?_ ?_
  · rintro _ rfl
    exact hretry.bind fun _ => .pure (hflag _ (.inl rfl))
  · rintro _ rfl
    exact hretry.bind_rejects fun _ => .pure (hflag _ (.inr rfl))

theorem judges_handleDecryptedContent (hkey : SenderKeyProcessed env content.senderKeyDistributionMessage sender)
    (h : ¬ DropsResult env envelope sender.serviceID content.content) :
    Judges (handleDecryptedContent env result content envelope destination sender) ok := by
  have hpure : Judges (pure {}) ok := .pure (hflag _ (.inl rfl))
  unfold handleDecryptedContent
  split
  · exact (neutral_attempt rfl).guard ((neutral_record rfl).bind fun _ => hpure) hpure
  · split
    · exact hpure
    · exact judges_handleContent hflag hkey h

theorem judges_handleResult (h : ¬ LosesFailure env envelope result) :
    Judges (handleResult env result envelope destination) ok := by
  have hpure : Judges (pure {}) ok := .pure (hflag _ (.inl rfl))
  unfold handleResult
  split
  · exact hpure
  rename_i sender hsnd
  split
  · rename_i hname
    exact absurd ⟨sender, hsnd, .inl hname⟩ h
  split
  · exact hpure
  split
  · exact judges_handleDecryptionError hflag
  · exact hpure
  rename_i content _ hcont
  refine judges_handleDecryptedContent hflag ?_ ?_
  · by_contra hkey
    exact h ⟨sender, hsnd, .inr ⟨content, hcont, .inl hkey⟩⟩
  · intro hdrops
    exact h ⟨sender, hsnd, .inr ⟨content, hcont, .inr hdrops⟩⟩

end Outcomes

theorem returns_clearPlaintext {handlerSuccess : Bool} {u : PUnit}
    (h : Returns (clearPlaintext env result handlerSuccess) s u t) :
    (∃ entries, t.log = s.log ++ entries ∧ Clean entries) ∧
      (handlerSuccess = false → t = s) ∧
      (handlerSuccess = true → ∀ hash, result.ciphertextHash = some hash →
        env.succeeds (.clearBufferedEventPlaintext hash) = true →
          t.buffer = (s.clearBufferedEventPlaintext hash).buffer) := by
  unfold clearPlaintext at h
  cases hhash : result.ciphertextHash with
  | none =>
    rw [hhash] at h
    obtain ⟨-, rfl⟩ := returns_pure.mp h
    exact ⟨⟨[], by simp, clean_nil⟩, fun _ => rfl, nofun⟩
  | some hash =>
    rw [hhash] at h
    cases handlerSuccess with
    | false =>
      obtain ⟨-, rfl⟩ := returns_pure.mp h
      exact ⟨⟨[], by simp, clean_nil⟩, fun _ => rfl, nofun⟩
    | true =>
      obtain ⟨ok, v, hatt, h⟩ := returns_bind.mp h
      obtain ⟨rfl, rfl⟩ := returns_attempt.mp hatt
      cases hok : env.succeeds (.clearBufferedEventPlaintext hash) with
      | false =>
        rw [hok] at h
        obtain ⟨-, rfl⟩ := returns_pure.mp h
        refine ⟨⟨[_], rfl, by simp [clean_singleton, Op.required]⟩, nofun, ?_⟩
        rintro - _ ⟨⟩ hclear
        exact absurd (hclear.symm.trans hok) nofun
      | true =>
        rw [hok] at h
        obtain rfl := returns_modify.mp h
        refine ⟨⟨[_], rfl, by simp [clean_singleton]⟩, nofun, ?_⟩
        rintro - _ ⟨⟩ -
        rfl

theorem bufferedDecryptTxn_of_plaintext {ciphertext plaintext : Bytes} {decrypt : Except ExternalError Bytes}
    (hget : env.getBufferedEventError = none) (h : t.buffer (env.sha256 ciphertext) = some (some plaintext)) :
    Returns (bufferedDecryptTxn env ciphertext decrypt) t (.ok plaintext) t := by
  unfold bufferedDecryptTxn
  rw [hget]
  refine (returns_get.mpr ⟨rfl, rfl⟩).bind ?_
  rw [h]
  exact returns_pure.mpr ⟨rfl, rfl⟩

theorem bufferedDecryptTxn_of_null {ciphertext : Bytes} {decrypt : Except ExternalError Bytes}
    (hget : env.getBufferedEventError = none) (h : t.buffer (env.sha256 ciphertext) = some none) :
    Returns (bufferedDecryptTxn env ciphertext decrypt) t (.error .eventAlreadyProcessed) t := by
  unfold bufferedDecryptTxn
  rw [hget]
  refine (returns_get.mpr ⟨rfl, rfl⟩).bind ?_
  rw [h]
  exact returns_pure.mpr ⟨rfl, rfl⟩

def Interrupted (env : Env) (result : DecryptionResult) : Prop :=
  result.err = some (.external .canceled) ∨ env.contextDone = true

theorem returns_of_interrupted {err : Option ReturnedError} (h : Interrupted env result)
    (hret : Returns (handleDecryptedResult env result envelope destination) s err t) : err ≠ none ∧ t = s := by
  unfold handleDecryptedResult at hret
  split at hret
  · obtain ⟨rfl, rfl⟩ := returns_pure.mp hret
    exact ⟨nofun, rfl⟩
  · rename_i hcanceled
    rw [if_pos (h.resolve_left hcanceled)] at hret
    obtain ⟨rfl, rfl⟩ := returns_pure.mp hret
    exact ⟨nofun, rfl⟩

theorem returns_of_not_interrupted {err : Option ReturnedError} (h : ¬ Interrupted env result)
    (hret : Returns (handleDecryptedResult env result envelope destination) s err t) :
    ∃ outcome u v, Returns (handleResult env result envelope destination) s outcome u ∧
      Returns (clearPlaintext env result outcome.handlerSuccess) u v t ∧ err = outcome.error := by
  unfold handleDecryptedResult at hret
  rw [if_neg fun hcanceled => h (.inl hcanceled), if_neg fun hdone => h (.inr hdone)] at hret
  obtain ⟨outcome, u, hbody, hret⟩ := returns_bind.mp hret
  obtain ⟨v, w, hclear, hret⟩ := returns_bind.mp hret
  obtain ⟨rfl, rfl⟩ := returns_pure.mp hret
  exact ⟨outcome, u, v, returns_onFault.mp hbody, hclear, rfl⟩

-- Where no failure is lost, an error is returned exactly if a required step failed or the handling was
-- interrupted. Then another delivery finds the plaintext again, and otherwise it is skipped.
theorem acknowledged_iff_required_steps_succeeded (env : Env) (result : DecryptionResult)
    (envelope : Envelope) (destination : ServiceID) (s t : State) (err : Option ReturnedError)
    (hret : Returns (handleDecryptedResult env result envelope destination) s err t)
    (hloses : ¬ LosesFailure env envelope result) :
    (∃ entries, t.log = s.log ++ entries ∧
      (err = none ↔ ¬ Interrupted env result ∧ Clean entries)) ∧
    (err ≠ none → ∀ (env' : Env) (ciphertext plaintext : Bytes) (decrypt : Except ExternalError Bytes),
      env'.getBufferedEventError = none → s.buffer (env'.sha256 ciphertext) = some (some plaintext) →
        Returns (bufferedDecryptTxn env' ciphertext decrypt) t (.ok plaintext) t) ∧
    (err = none → ∀ (env' : Env) (ciphertext plaintext : Bytes) (decrypt : Except ExternalError Bytes),
      env'.getBufferedEventError = none → result.ciphertextHash = some (env'.sha256 ciphertext) →
        env.succeeds (.clearBufferedEventPlaintext (env'.sha256 ciphertext)) = true →
        s.buffer (env'.sha256 ciphertext) = some (some plaintext) →
        Returns (bufferedDecryptTxn env' ciphertext decrypt) t (.error .eventAlreadyProcessed) t) := by
  by_cases hintr : Interrupted env result
  · obtain ⟨herr, rfl⟩ := returns_of_interrupted hintr hret
    refine ⟨⟨[], by simp, by simp [herr, hintr]⟩, ?_, fun hnone => absurd hnone herr⟩
    intro _ env' ciphertext plaintext decrypt hget hbuf
    exact bufferedDecryptTxn_of_plaintext hget hbuf
  · obtain ⟨outcome, u, v, hbody, hclear, rfl⟩ := returns_of_not_interrupted hintr hret
    obtain ⟨entries, rfl, hclean⟩ := judges_handleResult (fun _ _ => rfl) hloses _ _ _ hbody
    obtain ⟨entries', heq, hclean'⟩ := judges_handleResult (fun _ h => h.isNone_error) hloses _ _ _ hbody
    obtain rfl : entries = entries' := by simpa [State.extend] using heq
    have hsettled : outcome.error = none ↔ outcome.handlerSuccess = true := by
      rw [hclean, ← hclean', Option.isNone_iff_eq_none]
    obtain ⟨⟨cleared, hlog, hcleared⟩, hkept, hnulled⟩ := returns_clearPlaintext hclear
    refine ⟨⟨entries ++ cleared, ?_, ?_⟩, ?_, ?_⟩
    · rw [hlog, State.extend, List.append_assoc]
    · rw [hsettled, hclean, clean_append]
      simp [hintr, hcleared]
    · intro herr env' ciphertext plaintext decrypt hget hbuf
      rw [ne_eq, hsettled, Bool.not_eq_true] at herr
      obtain rfl := hkept herr
      exact bufferedDecryptTxn_of_plaintext hget hbuf
    · intro herr env' ciphertext plaintext decrypt hget hhash hok hbuf
      have hbuffer' := hnulled (hsettled.mp herr) _ hhash hok
      refine bufferedDecryptTxn_of_null hget ?_
      rw [hbuffer']
      simp [State.clearBufferedEventPlaintext, State.extend, hbuf]

def failingEnv (content : Content) : Env :=
  { workingEnv {} content with
    succeeds := fun op => match op with
      | .handleEvent _ _ => false
      | _ => true }

def decryptedFrom (sender : UUID) (content : Content) : DecryptionResult where
  senderAddress := some ⟨newACIServiceID sender, 2⟩
  ciphertextHash := some (List.replicate 32 0)
  content := some content

def bufferedState : State := ⟨fun _ => some (some [0x80]), []⟩

theorem acknowledged_iff_required_steps_succeeded_data_message :
    ∃ t, Returns (handleDecryptedResult (failingEnv { content := some (.dataMessage {}) })
        (decryptedFrom (UUID.ofByte 3) { content := some (.dataMessage {}) }) {}
        (newACIServiceID (UUID.ofByte 1))) bufferedState (some .handlerFailed) t ∧
      Returns (bufferedDecryptTxn (failingEnv {}) [] (.error .other)) t (.ok [0x80]) t := by
  have hret : Returns (handleDecryptedResult (failingEnv { content := some (.dataMessage {}) })
      (decryptedFrom (UUID.ofByte 3) { content := some (.dataMessage {}) }) {}
      (newACIServiceID (UUID.ofByte 1))) bufferedState (some .handlerFailed) _ := rfl
  refine ⟨_, hret, ?_⟩
  refine (acknowledged_iff_required_steps_succeeded _ _ _ _ _ _ _ hret ?_).2.1 nofun _ _ _ _ rfl rfl
  rintro ⟨sender, hsnd, h⟩
  cases hsnd
  rcases h with hname | ⟨_, ⟨⟩, hkey | hdrops⟩
  · cases hname
  · exact hkey nofun
  · exact hdrops

-- The handler of a typing notification fails, and still the plaintext is cleared and no error returned.
theorem typing_failure_acknowledged :
    ∃ t, Returns (handleDecryptedResult (failingEnv { content := some (.typingMessage {}) })
        (decryptedFrom (UUID.ofByte 3) { content := some (.typingMessage {}) }) {}
        (newACIServiceID (UUID.ofByte 1))) bufferedState none t ∧
      (∃ entry ∈ t.log, ∃ event index, entry.op = .handleEvent event index ∧ entry.ok = false) ∧
      t.buffer (List.replicate 32 0) = some none := by
  refine ⟨_, rfl, ⟨_, List.mem_cons_of_mem _ (List.mem_cons_self ..), _, _, rfl, rfl⟩, ?_⟩
  decide

end MautrixSignal.Receive
