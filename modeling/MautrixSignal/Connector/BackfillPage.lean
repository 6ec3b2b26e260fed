import MautrixSignal.Connector.Backfill

namespace MautrixSignal.Connector.Backfill

open DirectionalDetails List

variable {Content : Type}

def DirectionalDetails.seen : DirectionalDetails → Bool
  | .incoming _ read => read
  | .outgoing => true
  | .directionless => false

def firstDirectional (items : List ChatItem) : Option DirectionalDetails :=
  (items.map ChatItem.details).find? (· ≠ .directionless)

theorem isRead_eq (items : List ChatItem) : isRead items = (firstDirectional items).any seen := by
  induction items with
  | nil => rfl
  | cons item items ih =>
    unfold firstDirectional at ih ⊢
    rw [map_cons, find?_cons, isRead]
    cases item.details with
    | incoming dateServerSent read => rfl
    | outgoing => rfl
    | directionless => exact ih

-- The page is reversed before its first item with a direction is looked at. So it is wrongly marked as read
-- if that item is seen and the newest one is not.
theorem markRead_only_if_newest_seen_iff (env : Env Content) (anyEnabled : Bool) (chat : BackupChat)
    (params : FetchMessagesParams) {response : FetchMessagesResponse Content}
    (h : fetchMessages env anyEnabled (some chat) params = .ok (some response)) :
    (response.markRead = true →
      (firstDirectional (getBackupChatItems env chat params)).any seen = true) ↔
    ((firstDirectional (getBackupChatItems env chat params).reverse).any seen = true →
      (firstDirectional (getBackupChatItems env chat params)).any seen = true) := by
  unfold fetchMessages at h
  split at h
  · cases h
  dsimp only at h
  cases hmsgs : convertItems env 0 (getBackupChatItems env chat params).reverse with
  | error error =>
    rw [hmsgs] at h
    cases h
  | ok messages =>
    rw [hmsgs] at h
    cases h
    rw [← isRead_eq (getBackupChatItems env chat params).reverse]

def seenThenUnseen : List ChatItem := [received 10 1, ⟨20, 1, .incoming 20 false⟩]

def seenAroundUnseen : List ChatItem := [received 10 1, ⟨20, 1, .incoming 20 false⟩, received 30 1]

theorem markRead_only_if_newest_seen_received :
    ∃ response, fetchMessages sampleEnv true (some (sampleChat seenAroundUnseen)) ⟨none, false, 5⟩ =
        .ok (some response) ∧
      response.markRead = true ∧ (firstDirectional (getBackupChatItems sampleEnv (sampleChat seenAroundUnseen)
        ⟨none, false, 5⟩)).any seen = true := by
  refine ⟨_, rfl, by decide, (markRead_only_if_newest_seen_iff sampleEnv true _ _ rfl).2 ?_ (by decide)⟩
  decide

-- The oldest item of the page is seen and the newest is not.
theorem unseen_page_marked_read :
    ∃ response, fetchMessages sampleEnv true (some (sampleChat seenThenUnseen)) ⟨none, false, 5⟩ = .ok (some response) ∧
      response.markRead = true ∧ (firstDirectional (getBackupChatItems sampleEnv (sampleChat seenThenUnseen)
        ⟨none, false, 5⟩)).any seen = false :=
  ⟨_, rfl, by decide, by decide⟩

section StreamOrder

variable (clock : ℕ → Env Content)

def assigned : ℕ → ℤ → List ChatItem → List (ChatItem × ℤ)
  | _, _, [] => []
  | i, prevStreamOrder, item :: items =>
    let (order, prevStreamOrder) := streamOrder (clock i) prevStreamOrder item items
    (item, order) :: assigned (i + 1) prevStreamOrder items

def DirectionalDetails.serverSent : DirectionalDetails → Option ℤ
  | .incoming dateServerSent _ => some dateServerSent
  | _ => none

-- The server timestamps of the incoming items increase by at least two, and so does the first one from this on.
def Spaced (prevStreamOrder : ℤ) (items : List ChatItem) : Prop :=
  (prevStreamOrder :: items.filterMap fun item => item.details.serverSent).Pairwise fun a b => a + 2 ≤ b

def Follows (a b : ChatItem × ℤ) : Prop :=
  a.2 ≤ b.2 ∧ ((a.1.details = .outgoing ↔ b.1.details ≠ .outgoing) → a.2 < b.2)

variable {clock} {i : ℕ} {prev : ℤ} {item : ChatItem} {items : List ChatItem}

theorem Spaced.incoming {dateServerSent : ℤ} {read : Bool} (hitem : item.details = .incoming dateServerSent read)
    (h : Spaced prev (item :: items)) : prev + 2 ≤ dateServerSent ∧ Spaced dateServerSent items := by
  simp only [Spaced, filterMap_cons, hitem, serverSent] at h
  exact ⟨rel_of_pairwise_cons h mem_cons_self, h.of_cons⟩

theorem Spaced.outgoing (hitem : item.details = .outgoing) (h : Spaced prev (item :: items)) : Spaced prev items := by
  simpa only [Spaced, filterMap_cons, hitem, serverSent] using h

theorem prev_lt_assigned (hspaced : Spaced prev items) (hdir : ∀ item ∈ items, item.details ≠ .directionless) :
    ∀ a ∈ assigned clock i prev items, prev < a.2 := by
  induction items generalizing i prev with
  | nil => exact fun a ha => nomatch ha
  | cons item items ih =>
    obtain ⟨hitem, hitems⟩ := forall_mem_cons.mp hdir
    rw [assigned, streamOrder, forall_mem_cons]
    cases hdet : item.details with
    | incoming dateServerSent read =>
      obtain ⟨hprev, hrest⟩ := hspaced.incoming hdet
      refine ⟨Int.lt_of_lt_of_le (by omega) hprev, fun a ha => ?_⟩
      have hlater := ih hrest hitems a ha
      omega
    | outgoing => exact ⟨Int.le_max_right _ _, ih (hspaced.outgoing hdet) hitems⟩
    | directionless => exact absurd hdet hitem

theorem findNextStreamOrder_mono {env env' : Env Content} (hclock : env.now ≤ env'.now) (items : List ChatItem) :
    findNextStreamOrder env items ≤ findNextStreamOrder env' items := by
  induction items with
  | nil => exact hclock
  | cons item items ih =>
    unfold findNextStreamOrder
    split
    · exact Int.le_refl _
    · exact ih

-- What an outgoing item before these gets, from its date and the incoming item or the clock it looks ahead to.
theorem outgoing_le_assigned (hclock : ∀ i, (clock i).now ≤ (clock (i + 1)).now) (hspaced : Spaced prev items)
    (hdir : ∀ item ∈ items, item.details ≠ .directionless) {date next : ℤ}
    (hdate : ∀ item ∈ items, date ≤ item.dateSent) (hnext : next ≤ findNextStreamOrder (clock i) items) :
    ∀ a ∈ assigned clock i prev items, max (min date (next - 1)) (prev + 1) ≤ a.2 ∧
      (a.1.details ≠ .outgoing → max (min date (next - 1)) (prev + 1) < a.2) := by
  induction items generalizing i with
  | nil => exact fun a ha => nomatch ha
  | cons item items ih =>
    obtain ⟨hitem, hitems⟩ := forall_mem_cons.mp hdir
    obtain ⟨hlater, hdates⟩ := forall_mem_cons.mp hdate
    rw [assigned, streamOrder, forall_mem_cons]
    cases hdet : item.details with
    | incoming dateServerSent read =>
      obtain ⟨hprev, hrest⟩ := hspaced.incoming hdet
      rw [findNextStreamOrder, hdet] at hnext
      have hlt : max (min date (next - 1)) (prev + 1) < dateServerSent := by
        dsimp only at hnext
        omega
      refine ⟨⟨Int.le_of_lt hlt, fun _ => hlt⟩, fun a ha => ?_⟩
      have hbehind := hlt.trans (prev_lt_assigned hrest hitems a ha)
      exact ⟨Int.le_of_lt hbehind, fun _ => hbehind⟩
    | outgoing =>
      rw [findNextStreamOrder, hdet] at hnext
      have hle : max (min date (next - 1)) (prev + 1) ≤
          max (min item.dateSent (findNextStreamOrder (clock i) items - 1)) (prev + 1) := by
        dsimp only at hnext
        omega
      refine ⟨⟨hle, fun hne => absurd rfl hne⟩, ?_⟩
      exact ih (hspaced.outgoing hdet) hitems hdates
        (hnext.trans (findNextStreamOrder_mono (hclock i) items))
    | directionless => exact absurd hdet hitem

theorem assigned_follows (hclock : ∀ i, (clock i).now ≤ (clock (i + 1)).now) (hspaced : Spaced prev items)
    (hdir : ∀ item ∈ items, item.details ≠ .directionless) (hord : items.Pairwise fun a b => a.dateSent ≤ b.dateSent) :
    (assigned clock i prev items).Pairwise Follows := by
  induction items generalizing i prev with
  | nil => exact List.Pairwise.nil
  | cons item items ih =>
    obtain ⟨hitem, hitems⟩ := forall_mem_cons.mp hdir
    obtain ⟨hdates, hrest⟩ := pairwise_cons.mp hord
    rw [assigned, streamOrder]
    cases hdet : item.details with
    | incoming dateServerSent read =>
      have hlater := (hspaced.incoming hdet).2
      refine pairwise_cons.mpr ⟨fun a ha => ?_, ih hlater hitems hrest⟩
      have hlt := prev_lt_assigned hlater hitems a ha
      exact ⟨Int.le_of_lt hlt, fun _ => hlt⟩
    | outgoing =>
      have hlater := hspaced.outgoing hdet
      refine pairwise_cons.mpr ⟨fun a ha => ?_, ih hlater hitems hrest⟩
      obtain ⟨hle, hlt⟩ := outgoing_le_assigned hclock hlater hitems hdates
        (findNextStreamOrder_mono (hclock i) items) a ha
      exact ⟨hle, fun hother => hlt (hother.mp hdet)⟩
    | directionless => exact absurd hdet hitem

-- With the clock standing still, these are the orders in the response. Items that are not converted are left out.
theorem streamOrders_sublist {env : Env Content} {messages : List (BackfillMessage Content)}
    (h : convertItems env prev items = .ok messages) :
    (messages.map BackfillMessage.streamOrder).Sublist ((assigned (fun _ => env) i prev items).map Prod.snd) := by
  induction items generalizing i prev messages with
  | nil =>
    cases h
    exact List.Sublist.slnil
  | cons item items ih =>
    simp only [convertItems, bind, Except.bind] at h
    split at h
    · cases h
    split at h
    · exact (ih h).cons _
    split at h
    · cases h
    · split at h
      · cases h
      · next hrest =>
          cases h
          exact (ih hrest).cons_cons _

end StreamOrder

end MautrixSignal.Connector.Backfill
