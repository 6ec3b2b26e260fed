import MautrixSignal.Identifiers
import MautrixSignal.Lib.Collect
import MautrixSignal.Lib.Paging
import Mathlib.Data.Int.Order.Basic
import Mathlib.Data.List.Sort

namespace MautrixSignal.Connector.Backfill

open Lib List

inductive DirectionalDetails where
  | incoming (dateServerSent : ℤ) (read : Bool)
  | outgoing
  | directionless
deriving DecidableEq

-- backuppb.ChatItem, as far as FetchMessages reads it. The date is also the message ID of the stored row.
structure ChatItem where
  dateSent : ℤ
  authorId : ℕ
  details : DirectionalDetails
deriving DecidableEq

structure Reaction where
  authorId : ℕ
  sentTimestamp : ℤ
  emoji : List Char

structure BackupChat where
  items : List ChatItem
  totalMessages : ℕ

-- A recipient without an ACI is the nil UUID, and none is a failed lookup. The database sorts by the message
-- ID only, and deletes says whether its deletions succeed.
structure Env (Content : Type) where
  isLoggedIn : Bool
  now : ℤ
  orderDesc : List ChatItem → List ChatItem
  recipientACI : ℕ → Option UUID
  toMatrix : UUID → ChatItem → Option (Content × List Reaction)
  deletes : Bool

structure FetchMessagesParams where
  anchor : Option ℤ
  forward : Bool
  count : ℕ

structure BackfillReaction where
  sender : UUID
  timestamp : ℤ
  emoji : List Char

structure BackfillMessage (Content : Type) where
  content : Content
  sender : UUID
  timestamp : ℤ
  streamOrder : ℤ
  reactions : List BackfillReaction

structure FetchMessagesResponse (Content : Type) where
  messages : List (BackfillMessage Content)
  hasMore : Bool
  forward : Bool
  markRead : Bool
  approxTotalCount : ℕ
  completeCallback : Option BackupChat → Option BackupChat

inductive FetchError where
  | notLoggedIn
  | recipientLookup

section Code

variable {Content : Type} (env : Env Content)

def day : ℤ := 86400000

variable (params : FetchMessagesParams)

def timeBounds : ℤ × ℤ :=
  match params.anchor with
  | none => (0, env.now + day)
  | some anchor => if params.forward then (anchor, env.now + day) else (0, anchor)

variable (chat : BackupChat)

def getBackupChatItems (params : FetchMessagesParams) : List ChatItem :=
  (env.orderDesc (chat.items.filter fun item =>
    (timeBounds env params).1 < item.dateSent && item.dateSent < (timeBounds env params).2)).take params.count

-- A deletion without a time deletes from 0 on.
def deleteBackupChatItems (minTime : Option ℤ) (chat : BackupChat) : BackupChat :=
  if env.deletes then { chat with items := chat.items.filter fun item => item.dateSent < minTime.getD 0 } else chat

def deleteBackupChat : Option BackupChat := if env.deletes then none else some chat

def findNextStreamOrder : List ChatItem → ℤ
  | [] => env.now
  | item :: items =>
    match item.details with
    | .incoming dateServerSent _ => dateServerSent
    | _ => findNextStreamOrder items

def streamOrder (prevStreamOrder : ℤ) (item : ChatItem) (later : List ChatItem) : ℤ × ℤ :=
  match item.details with
  | .incoming dateServerSent _ => (dateServerSent, dateServerSent)
  | .outgoing =>
    (max (min item.dateSent (findNextStreamOrder env later - 1)) (prevStreamOrder + 1), prevStreamOrder)
  | .directionless => (0, prevStreamOrder)

def getRecipientACI (id : ℕ) : Except FetchError UUID :=
  match env.recipientACI id with
  | none => .error .recipientLookup
  | some aci => .ok aci

def convertReactions : List Reaction → Except FetchError (List BackfillReaction)
  | [] => .ok []
  | reaction :: reactions => do
    let sender ← getRecipientACI env reaction.authorId
    let converted ← convertReactions reactions
    if sender = UUID.nil then return converted
    else return ⟨sender, reaction.sentTimestamp, reaction.emoji⟩ :: converted

def convertItems : ℤ → List ChatItem → Except FetchError (List (BackfillMessage Content))
  | _, [] => .ok []
  | prevStreamOrder, item :: items => do
    let (order, prevStreamOrder) := streamOrder env prevStreamOrder item items
    let sender ← getRecipientACI env item.authorId
    match if sender = UUID.nil then none else env.toMatrix sender item with
    | none => convertItems prevStreamOrder items
    | some (content, reactions) => do
      let reactions ← convertReactions env reactions
      let messages ← convertItems prevStreamOrder items
      return { content, sender, timestamp := item.dateSent, streamOrder := order, reactions } :: messages

def isRead : List ChatItem → Bool
  | [] => false
  | item :: items =>
    match item.details with
    | .incoming _ read => read
    | .outgoing => true
    | .directionless => isRead items

-- The list is in reverse chronological order here, so the time from which items are deleted is the latest one.
def minTS (items : List ChatItem) : Option ℤ :=
  match items with
  | [] => params.anchor
  | item :: _ => some item.dateSent

def completeCallback (anyEnabled : Bool) (params : FetchMessagesParams) (items : List ChatItem) :
    Option BackupChat → Option BackupChat
  | none => none
  | some chat =>
    if (!params.forward && items.length < params.count) || !anyEnabled then deleteBackupChat env chat
    else some (deleteBackupChatItems env (minTS params items) chat)

def fetchMessages (anyEnabled : Bool) (chat : Option BackupChat) (params : FetchMessagesParams) :
    Except FetchError (Option (FetchMessagesResponse Content)) :=
  if !env.isLoggedIn then .error .notLoggedIn
  else
    match chat with
    | none => .ok none
    | some chat => do
      let items := getBackupChatItems env chat params
      let messages ← convertItems env 0 items.reverse
      return some {
        messages
        hasMore := items.length ≥ params.count
        forward := params.forward
        markRead := isRead items.reverse
        approxTotalCount := chat.totalMessages
        completeCallback := completeCallback env anyEnabled params items }

end Code

-- Fetching page after page. The anchor moves to the last item that was reached, and a call without a response or
-- with an error ends it.
structure Progress where
  chat : Option BackupChat
  anchor : Option ℤ
  read : List ChatItem := []
  finished : Bool := false

section Driver

variable {Content : Type}

variable (s : Progress)

def Progress.stored : List ChatItem := (s.chat.map BackupChat.items).getD []

variable (forward : Bool)

def lastReached (items : List ChatItem) : Option ChatItem :=
  if forward then items.head? else items.getLast?

variable (count : ℕ)

def Progress.params : FetchMessagesParams :=
  { anchor := s.anchor, forward, count }

def advance (env : Env Content) (anyEnabled forward : Bool) (count : ℕ) (s : Progress) : Progress :=
  if s.finished then s
  else
    match s.chat, fetchMessages env anyEnabled s.chat (s.params forward count) with
    | some chat, .ok (some response) =>
      let items := getBackupChatItems env chat (s.params forward count)
      { chat := response.completeCallback s.chat
        anchor := ((lastReached forward items).map ChatItem.dateSent).or s.anchor
        read := s.read ++ items
        finished := !response.hasMore }
    | _, _ => { s with finished := true }

def after (env : ℕ → Env Content) (anyEnabled forward : Bool) (count : ℕ) : ℕ → Progress → Progress
  | 0, s => s
  | n + 1, s => after (fun k => env (k + 1)) anyEnabled forward count n (advance (env 0) anyEnabled forward count s)

def onSide (anchor : Option ℤ) (item : ChatItem) : Bool :=
  match anchor with
  | none => true
  | some anchor => if forward then anchor < item.dateSent else item.dateSent < anchor

def Progress.side : List ChatItem := s.stored.filter (onSide forward s.anchor)

-- Backwards, items of one date are on one page; forwards, one page takes all items.
def Pageable (items : List ChatItem) : Prop :=
  if forward then items.length ≤ count else Unsplit ChatItem.dateSent count items

structure Env.Works (env : Env Content) : Prop where
  loggedIn : env.isLoggedIn = true
  perm : ∀ items, (env.orderDesc items).Perm items
  descending : ∀ items, Descending ChatItem.dateSent (env.orderDesc items)
  resolves : ∀ id, (env.recipientACI id).isSome = true

-- An item with a date that the queries cover: after 0 and less than a day ahead.
def Env.Covers (env : Env Content) (item : ChatItem) : Prop := 0 < item.dateSent ∧ item.dateSent < env.now + day

end Driver

section Pages

variable {Content : Type} {env : Env Content} {anyEnabled forward : Bool} {count : ℕ} {s : Progress}
  {chat : BackupChat}

theorem convertReactions_ok (h : env.Works) (reactions : List Reaction) :
    ∃ converted, convertReactions env reactions = .ok converted := by
  induction reactions with
  | nil => exact ⟨[], rfl⟩
  | cons reaction reactions ih =>
    obtain ⟨converted, hconv⟩ := ih
    obtain ⟨aci, haci⟩ := Option.isSome_iff_exists.mp (h.resolves reaction.authorId)
    simp only [convertReactions, getRecipientACI, haci, hconv, bind, Except.bind]
    split <;> exact ⟨_, rfl⟩

theorem convertItems_ok (h : env.Works) (prevStreamOrder : ℤ) (items : List ChatItem) :
    ∃ messages, convertItems env prevStreamOrder items = .ok messages := by
  induction items generalizing prevStreamOrder with
  | nil => exact ⟨[], rfl⟩
  | cons item items ih =>
    obtain ⟨messages, hmsgs⟩ := ih (streamOrder env prevStreamOrder item items).2
    obtain ⟨aci, haci⟩ := Option.isSome_iff_exists.mp (h.resolves item.authorId)
    simp only [convertItems, getRecipientACI, haci, bind, Except.bind]
    split
    · exact ⟨messages, hmsgs⟩
    · rename_i reactions _
      obtain ⟨converted, hconv⟩ := convertReactions_ok h reactions
      simp only [hconv, hmsgs]
      exact ⟨_, rfl⟩

theorem getBackupChatItems_eq (hcovers : ∀ item ∈ s.stored, env.Covers item) (hchat : s.chat = some chat) :
    getBackupChatItems env chat (s.params forward count) = (env.orderDesc (s.side forward)).take count := by
  have hstored : s.stored = chat.items := by
    simp [Progress.stored, hchat]
  rw [hstored] at hcovers
  unfold getBackupChatItems Progress.side
  rw [hstored]
  congr 2
  apply filter_congr
  intro item hitem
  obtain ⟨hpos, hahead⟩ := hcovers item hitem
  unfold onSide timeBounds Progress.params
  cases s.anchor with
  | none => simp [hpos, hahead]
  | some anchor =>
    cases forward with
    | true => simp [hahead]
    | false => simp [hpos]

theorem advance_eq (h : env.Works) (hcovers : ∀ item ∈ s.stored, env.Covers item) (hchat : s.chat = some chat)
    (hfinished : s.finished = false) :
    advance env anyEnabled forward count s =
      { chat := completeCallback env anyEnabled (s.params forward count)
          ((env.orderDesc (s.side forward)).take count) s.chat
        anchor := ((lastReached forward ((env.orderDesc (s.side forward)).take count)).map ChatItem.dateSent).or
          s.anchor
        read := s.read ++ (env.orderDesc (s.side forward)).take count
        finished := (env.orderDesc (s.side forward)).length < count } := by
  have hpage : getBackupChatItems env chat (s.params forward count) =
      (env.orderDesc (s.side forward)).take count := getBackupChatItems_eq hcovers hchat
  obtain ⟨messages, hmsgs⟩ := convertItems_ok h 0 ((env.orderDesc (s.side forward)).take count).reverse
  simp only [advance, hfinished, hchat, fetchMessages, h.loggedIn, hpage, hmsgs, bind, Except.bind, pure,
    Except.pure, Bool.not_true, Bool.false_eq_true, if_false]
  simp only [Progress.params]
  by_cases hless : (env.orderDesc (s.side forward)).length < count
  · simp [hless]
  · simp [Nat.not_lt.mp hless]

theorem mem_side {item : ChatItem} :
    item ∈ s.side forward ↔ item ∈ s.stored ∧ onSide forward s.anchor item = true := mem_filter

section

variable (h : env.Works) (hcovers : ∀ item ∈ s.stored, env.Covers item) (hchat : s.chat = some chat)
  (hfinished : s.finished = false)

include h hcovers hchat hfinished

theorem stored_advance (hcount : 0 < count) {first : ChatItem}
    (hfull : count ≤ (env.orderDesc (s.side forward)).length)
    (hfirst : (env.orderDesc (s.side forward)).head? = some first) :
    (advance env true forward count s).stored =
      if env.deletes then s.stored.filter (fun item => item.dateSent < first.dateSent) else s.stored := by
  obtain ⟨rest, hpage⟩ := head?_eq_some_iff.mp hfirst
  have hlen := length_take_of_le hfull
  obtain ⟨n, rfl⟩ : ∃ n, count = n + 1 := ⟨count - 1, by omega⟩
  rw [advance_eq h hcovers hchat hfinished]
  simp only [Progress.stored, hchat, completeCallback, Progress.params, hlen]
  simp only [hpage, take_succ_cons, minTS, deleteBackupChatItems]
  cases env.deletes with
  | true => simp
  | false => simp

theorem advance_full (hfull : count ≤ (env.orderDesc (s.side forward)).length) :
    (∃ chat', (advance env true forward count s).chat = some chat') ∧
      (advance env true forward count s).finished = false := by
  have hlen := length_take_of_le hfull
  rw [advance_eq h hcovers hchat hfinished]
  constructor
  · simp [hchat, completeCallback, Progress.params, hlen]
  · simpa using hfull

end

theorem onSide_trans {anchor : Option ℤ} {a b : ChatItem} (ha : onSide forward anchor a = true)
    (hb : onSide forward (some a.dateSent) b = true) : onSide forward anchor b = true := by
  unfold onSide at ha hb ⊢
  cases anchor with
  | none => rfl
  | some anchor =>
    cases forward with
    | true =>
      simp only [if_true, decide_eq_true_eq] at ha hb ⊢
      exact lt_trans ha hb
    | false =>
      simp only [Bool.false_eq_true, if_false, decide_eq_true_eq] at ha hb ⊢
      exact lt_trans hb ha

theorem first_ge {items : List ChatItem} {first item : ChatItem} (hdesc : Descending ChatItem.dateSent items)
    (hfirst : items.head? = some first) (hitem : item ∈ items) : item.dateSent ≤ first.dateSent := by
  obtain ⟨rest, rfl⟩ := head?_eq_some_iff.mp hfirst
  rcases mem_cons.mp hitem with rfl | hitem
  · exact le_refl _
  · exact (pairwise_cons.mp hdesc).1 item hitem

section

variable (h : env.Works) (hcovers : ∀ item ∈ s.stored, env.Covers item) (hchat : s.chat = some chat)
  (hfinished : s.finished = false) (hcount : 0 < count)

include h hcovers hchat hfinished hcount

theorem side_backward (hpages : Unsplit ChatItem.dateSent count (s.side false))
    (hfull : count ≤ (env.orderDesc (s.side false)).length) :
    ((advance env true false count s).side false).Perm ((env.orderDesc (s.side false)).drop count) := by
  have hdesc := h.descending (s.side false)
  have hperm := h.perm (s.side false)
  have hunsplit := hpages.perm hperm.symm
  obtain ⟨last, hlast⟩ := exists_last_of_full hcount hfull
  have hmem := mem_of_mem_take (mem_of_getLast? hlast)
  obtain ⟨first, hfirst⟩ := isSome_head?.mpr (ne_nil_of_mem hmem) |> Option.isSome_iff_exists.mp
  have hanchor : (advance env true false count s).anchor = some last.dateSent := by
    rw [advance_eq h hcovers hchat hfinished]
    simp [lastReached, hlast]
  have hbef : (advance env true false count s).stored.filter (fun item => item.dateSent < last.dateSent) =
      s.stored.filter fun item => item.dateSent < last.dateSent := by
    rw [stored_advance h hcovers hchat hfinished hcount hfull hfirst]
    split
    · rw [filter_filter]
      apply filter_congr
      intro item _
      have hle := first_ge hdesc hfirst hmem
      by_cases hlt : item.dateSent < last.dateSent
      · simp [lt_of_lt_of_le hlt hle]
      · simp [hlt]
    · rfl
  have hside : (advance env true false count s).side false =
      (s.side false).filter fun item => item.dateSent < last.dateSent := by
    have hfilter : (advance env true false count s).side false =
        (advance env true false count s).stored.filter fun item => item.dateSent < last.dateSent := by
      unfold Progress.side
      rw [hanchor]
      rfl
    rw [hfilter, hbef, Progress.side, filter_filter]
    apply filter_congr
    intro item _
    by_cases hlt : item.dateSent < last.dateSent
    · have honSide : onSide false s.anchor item = true :=
        onSide_trans (mem_side.mp (hperm.mem_iff.mp hmem)).2 (by simp [onSide, hlt])
      simp [honSide]
    · simp [hlt]
  have hrest : (env.orderDesc (s.side false)).filter (fun item => item.dateSent < last.dateSent) =
      (env.orderDesc (s.side false)).drop count := by
    apply filter_eq_rest
    · intro item hitem
      simpa using last_le_of_mem_page hdesc hitem hlast
    · intro item hitem
      simpa using hunsplit.lt_last hdesc hfull hlast hitem
  rw [hside, ← hrest]
  exact (hperm.symm).filter _

theorem side_forward (hfull : count ≤ (env.orderDesc (s.side true)).length) :
    (advance env true true count s).side true = [] := by
  have hdesc := h.descending (s.side true)
  have hperm := h.perm (s.side true)
  have hne : env.orderDesc (s.side true) ≠ [] := ne_nil_of_length_pos (by omega)
  obtain ⟨first, hfirst⟩ := Option.isSome_iff_exists.mp (isSome_head?.mpr hne)
  have hhead : ((env.orderDesc (s.side true)).take count).head? = some first := by
    rw [head?_take, if_neg (by omega), hfirst]
  have hanchor : (advance env true true count s).anchor = some first.dateSent := by
    rw [advance_eq h hcovers hchat hfinished]
    simp [lastReached, hhead]
  apply filter_eq_nil_iff.mpr
  intro item hitem honSide
  rw [hanchor] at honSide
  have hstored : item ∈ s.stored := by
    rw [stored_advance h hcovers hchat hfinished hcount hfull hfirst] at hitem
    split at hitem
    · exact mem_of_mem_filter hitem
    · exact hitem
  have hfirstMem := hperm.mem_iff.mp (mem_of_head? hfirst)
  have hmem := mem_side.mpr ⟨hstored, onSide_trans (mem_side.mp hfirstMem).2 honSide⟩
  have hle := first_ge hdesc hfirst (hperm.mem_iff.mpr hmem)
  simp only [onSide, if_true, decide_eq_true_eq] at honSide
  omega

theorem rest_of_page (hpages : Pageable forward count (s.side forward))
    (hfull : count ≤ (env.orderDesc (s.side forward)).length) :
    ((advance env true forward count s).side forward).Perm ((env.orderDesc (s.side forward)).drop count) ∧
      Pageable forward count ((advance env true forward count s).side forward) := by
  cases forward with
  | true =>
    have hlen := (h.perm (s.side true)).length_eq
    unfold Pageable at hpages
    rw [if_pos rfl] at hpages
    rw [side_forward h hcovers hchat hfinished hcount hfull, drop_eq_nil_of_le (by omega)]
    exact ⟨.refl _, by simp [Pageable]⟩
  | false =>
    have hrest := side_backward h hcovers hchat hfinished hcount hpages hfull
    refine ⟨hrest, ?_⟩
    have hunsplit := Unsplit.perm hpages (h.perm (s.side false)).symm
    exact (hunsplit.drop (h.descending _) hcount hfull).perm hrest.symm

end

end Pages

section Loop

variable {Content : Type} {forward : Bool} {count : ℕ}

theorem mem_of_completeCallback {env : Env Content} {anyEnabled : Bool} {params : FetchMessagesParams}
    {items : List ChatItem} {chat : BackupChat} {item : ChatItem}
    (h : item ∈ ((completeCallback env anyEnabled params items (some chat)).map BackupChat.items).getD []) :
    item ∈ chat.items := by
  simp only [completeCallback] at h
  split at h
  · unfold deleteBackupChat at h
    split at h
    · cases h
    · exact h
  · unfold deleteBackupChatItems at h
    split at h
    · exact mem_of_mem_filter h
    · exact h

theorem read_subset_advance (env : Env Content) (anyEnabled : Bool) (s : Progress) :
    s.read ⊆ (advance env anyEnabled forward count s).read := by
  unfold advance
  split
  · exact List.Subset.refl _
  · split
    · exact subset_append_left _ _
    · exact List.Subset.refl _

theorem stored_advance_subset (env : Env Content) (anyEnabled : Bool) (s : Progress) :
    (advance env anyEnabled forward count s).stored ⊆ s.stored := by
  unfold advance
  split
  · exact List.Subset.refl _
  split
  · rename_i chat response hchat hresp
    have hcb : ∃ items, response.completeCallback =
        completeCallback env anyEnabled (s.params forward count) items := by
      rw [hchat] at hresp
      unfold fetchMessages at hresp
      split at hresp
      · cases hresp
      · obtain ⟨messages, -, hresp⟩ := bind_eq_ok_iff.mp hresp
        obtain rfl := Option.some.inj (Except.ok.inj hresp)
        exact ⟨_, rfl⟩
    obtain ⟨items, hcb⟩ := hcb
    intro item hitem
    simp only [Progress.stored, hcb, hchat] at hitem ⊢
    exact mem_of_completeCallback hitem
  · exact List.Subset.refl _

theorem read_subset_after (env : ℕ → Env Content) (anyEnabled : Bool) (n : ℕ) (s : Progress) :
    s.read ⊆ (after env anyEnabled forward count n s).read := by
  induction n generalizing env s with
  | zero => exact List.Subset.refl _
  | succ n ih => exact List.Subset.trans (read_subset_advance (env 0) anyEnabled s) (ih _ _)

def ReadsSide (env : ℕ → Env Content) (forward : Bool) (count : ℕ) (s : Progress) : Prop :=
  (∃ n, (after env true forward count n s).finished = true ∧
    (after env true forward count n s).read.Perm (s.read ++ s.side forward)) ∧
  ∀ n, ∀ item ∈ s.side forward,
    item ∈ (after env true forward count n s).stored ∨ item ∈ (after env true forward count n s).read

theorem readsSide (hcount : 0 < count) {env : ℕ → Env Content} (hworks : ∀ n, (env n).Works) {s : Progress}
    (hcovers : ∀ n, ∀ item ∈ s.stored, (env n).Covers item) {chat : BackupChat} (hchat : s.chat = some chat)
    (hfinished : s.finished = false) (hpages : Pageable forward count (s.side forward)) :
    ReadsSide env forward count s := by
  induction hlen : (s.side forward).length using Nat.strong_induction_on generalizing env s chat with
  | _ length ih =>
    have hperm := (hworks 0).perm (s.side forward)
    have hread : (advance (env 0) true forward count s).read =
        s.read ++ ((env 0).orderDesc (s.side forward)).take count := by
      rw [advance_eq (hworks 0) (hcovers 0) hchat hfinished]
    by_cases hfull : count ≤ ((env 0).orderDesc (s.side forward)).length
    · obtain ⟨hrest, hpages'⟩ := rest_of_page (hworks 0) (hcovers 0) hchat hfinished hcount hpages hfull
      obtain ⟨⟨chat', hchat'⟩, hfin'⟩ := advance_full (hworks 0) (hcovers 0) hchat hfinished hfull
      have hshorter : ((advance (env 0) true forward count s).side forward).length < length := by
        rw [hrest.length_eq, length_drop, ← hlen, ← hperm.length_eq]
        omega
      obtain ⟨⟨n, hend, hreads⟩, hkept⟩ := ih _ hshorter (fun n => hworks (n + 1))
        (fun n item hitem => hcovers (n + 1) item (stored_advance_subset _ _ _ hitem)) hchat' hfin' hpages' rfl
      constructor
      · refine ⟨n + 1, hend, hreads.trans ?_⟩
        rw [hread, append_assoc]
        apply List.Perm.append_left
        have happend := hrest.append_left (((env 0).orderDesc (s.side forward)).take count)
        rw [take_append_drop] at happend
        exact happend.trans hperm
      · intro m item hitem
        cases m with
        | zero => exact .inl (mem_side.mp hitem).1
        | succ m =>
          have hmem := hperm.mem_iff.mpr hitem
          rw [← take_append_drop count ((env 0).orderDesc (s.side forward))] at hmem
          rcases mem_append.mp hmem with hpage | hlater
          · refine .inr (read_subset_after (fun k => env (k + 1)) true m _ ?_)
            rw [hread]
            exact mem_append_right _ hpage
          · exact hkept m item (hrest.mem_iff.mpr hlater)
    · have htake : ((env 0).orderDesc (s.side forward)).take count = (env 0).orderDesc (s.side forward) :=
        take_of_length_le (by omega)
      rw [htake] at hread
      constructor
      · refine ⟨1, ?_, ?_⟩
        · simp only [after, advance_eq (hworks 0) (hcovers 0) hchat hfinished, decide_eq_true_eq]
          omega
        · simp only [after, hread]
          exact hperm.append_left _
      · intro m item hitem
        cases m with
        | zero => exact .inl (mem_side.mp hitem).1
        | succ m =>
          refine .inr (read_subset_after (fun k => env (k + 1)) true m _ ?_)
          rw [hread]
          exact mem_append_right _ (hperm.mem_iff.mpr hitem)

end Loop

-- With the backfill queue on, fetching page after page from a first anchor ends with every item on that side read
-- once, and an item on that side is deleted only after it was read.
theorem backfill_reads_side_once {Content : Type} {env : ℕ → Env Content} {forward : Bool} {count : ℕ}
    {chat : BackupChat} {anchor : Option ℤ} (hcount : 0 < count) (hworks : ∀ n, (env n).Works)
    (hcovers : ∀ n, ∀ item ∈ chat.items, (env n).Covers item)
    (hpages : Pageable forward count (chat.items.filter (onSide forward anchor))) :
    (∃ n, (after env true forward count n { chat := some chat, anchor }).finished = true ∧
      (after env true forward count n { chat := some chat, anchor }).read.Perm
        (chat.items.filter (onSide forward anchor))) ∧
    ∀ n, ∀ item ∈ chat.items.filter (onSide forward anchor),
      item ∈ (after env true forward count n { chat := some chat, anchor }).stored ∨
      item ∈ (after env true forward count n { chat := some chat, anchor }).read :=
  readsSide (s := { chat := some chat, anchor }) hcount hworks hcovers rfl rfl hpages

def sampleEnv : Env Unit where
  isLoggedIn := true
  now := 1000
  orderDesc := List.insertionSort fun a b => b.dateSent ≤ a.dateSent
  recipientACI _ := some (UUID.ofByte 1)
  toMatrix _ _ := some ((), [])
  deletes := true

theorem sampleEnv_works : sampleEnv.Works where
  loggedIn := rfl
  perm items := perm_insertionSort _ items
  descending items := by
    exact pairwise_insertionSort _ items
  resolves _ := rfl

def received (dateSent : ℤ) (authorId : ℕ) : ChatItem :=
  { dateSent, authorId, details := .incoming dateSent true }

def sampleChat (items : List ChatItem) : BackupChat := { items, totalMessages := items.length }

def fetched (anyEnabled : Bool) (count : ℕ) (anchor : Option ℤ) (items : List ChatItem) (n : ℕ) : Progress :=
  after (fun _ => sampleEnv) anyEnabled false count n { chat := some (sampleChat items), anchor }

def tiedItems : List ChatItem := [received 10 1, received 20 1, received 20 2, received 30 1, received 50 1]

theorem backfill_reads_side_once_tied : ∃ n, (fetched true 3 (some 40) tiedItems n).finished = true ∧
    (fetched true 3 (some 40) tiedItems n).read.Perm [received 10 1, received 20 1, received 20 2, received 30 1] := by
  have hcovers : ∀ item ∈ (sampleChat tiedItems).items, sampleEnv.Covers item := by
    unfold Env.Covers
    decide
  have hpages : Pageable false 3 ((sampleChat tiedItems).items.filter (onSide false (some 40))) := by
    show Unsplit ChatItem.dateSent 3 _
    decide
  exact (backfill_reads_side_once (by decide) (fun _ => sampleEnv_works) (fun _ => hcovers) hpages).1

-- Without the queue the first callback deletes items that are left; with it, the last one deletes those after
-- the anchor; and items without a date or far ahead are not read.
theorem unread_items_deleted :
    (received 10 1 ∉ (fetched false 1 none [received 10 1, received 20 1] 1).stored ∧
      received 10 1 ∉ (fetched false 1 none [received 10 1, received 20 1] 1).read) ∧
    (received 50 1 ∉ (fetched true 2 (some 40) [received 30 1, received 50 1] 1).stored ∧
      received 50 1 ∉ (fetched true 2 (some 40) [received 30 1, received 50 1] 1).read) ∧
    ((fetched true 3 none [received 0 1, received (1000 + day) 1] 1).finished = true ∧
      (fetched true 3 none [received 0 1, received (1000 + day) 1] 1).read = []) := by
  decide +kernel

end MautrixSignal.Connector.Backfill
