import MautrixSignal.Lib.Run
import MautrixSignal.Websocket

namespace MautrixSignal.Websocket

open Lib World

def World.pending (w : World) : List ℕ :=
  match w.cleanup with
  | .closing channels => channels
  | _ => []

-- What is known about a channel by its place. Whoever has the channel in hand has it alone.
def Located (w : World) (ch : ℕ) (c : Channel) : Prop :=
  match c.place with
  | .offered => c.takenBy = none ∧ c.requestID = none ∧ c.sent = none ∧ c.closes = 0
  | .withdrawn => c.takenBy = none ∧ c.requestID = none ∧ c.sent = none ∧ c.closes = 0
  | .taken n =>
    n = w.conn ∧ w.writeLoop = .took ch ∧ c.takenBy = some n ∧ c.sent = none ∧ c.closes = 0
  | .registered wire =>
    wire.conn = w.conn ∧ w.responseChannels wire.id = some ch ∧ c.takenBy = some wire.conn ∧
      c.requestID = some wire ∧ c.sent = none ∧ c.closes = 0
  | .popped wire =>
    wire.conn = w.conn ∧ ((w.readLoop = .popped ch wire.id ∧ c.sent = none) ∨
      (w.readLoop = .delivered ch ∧ c.sent = some wire)) ∧
      c.takenBy = some wire.conn ∧ c.requestID = some wire ∧ c.closes = 0
  | .swapped wire =>
    wire.conn = w.conn ∧ ch ∈ w.pending ∧ c.takenBy = some wire.conn ∧
      c.requestID = some wire ∧ c.sent = none ∧ c.closes = 0
  | .closed wire =>
    c.takenBy = some wire.conn ∧ c.requestID = some wire ∧ (c.sent = none ∨ c.sent = some wire) ∧
      c.closes = 1

structure Tracked (w : World) (ch : ℕ) (o : Option Channel) : Prop where
  located : ∀ c, o = some c → Located w ch c
  table : ∀ id, w.responseChannels id = some ch → ∃ c, o = some c ∧ c.place = .registered ⟨w.conn, id⟩
  took : w.writeLoop = .took ch → ∃ c, o = some c ∧ c.place = .taken w.conn
  popped : ∀ id, w.readLoop = .popped ch id → ∃ c, o = some c ∧ c.place = .popped ⟨w.conn, id⟩
  delivered : w.readLoop = .delivered ch → ∃ c id, o = some c ∧ c.place = .popped ⟨w.conn, id⟩
  pending : ch ∈ w.pending → ∃ c wire, o = some c ∧ c.place = .swapped wire

structure Inv (w : World) : Prop where
  tracked : ∀ ch, Tracked w ch (w.channels ch)
  fresh : ∀ ch, w.allocated ≤ ch → w.channels ch = none
  nodup : w.pending.Nodup
  swapped : w.cleanup ≠ .waiting → ∀ id, w.responseChannels id = none
  finished : w.cleanup = .finished → w.writeLoop = .exited ∧ w.readLoop = .exited

structure SameHolder (w w' : World) (ch : ℕ) : Prop where
  conn : w'.conn = w.conn
  took : w'.writeLoop = .took ch ↔ w.writeLoop = .took ch
  table : ∀ id, w'.responseChannels id = some ch ↔ w.responseChannels id = some ch
  popped : ∀ id, w'.readLoop = .popped ch id ↔ w.readLoop = .popped ch id
  delivered : w'.readLoop = .delivered ch ↔ w.readLoop = .delivered ch
  pending : ch ∈ w'.pending ↔ ch ∈ w.pending

section Frame

variable {w w' : World} {ch : ℕ}

theorem SameHolder.refl (w : World) (ch : ℕ) : SameHolder w w ch :=
  ⟨rfl, .rfl, fun _ => .rfl, fun _ => .rfl, .rfl, .rfl⟩

theorem Located.frame {c : Channel} (h : Located w ch c) (hs : SameHolder w w' ch) : Located w' ch c := by
  unfold Located at h ⊢
  rw [hs.conn, hs.took, hs.delivered, hs.pending]
  cases hp : c.place with
  | registered wire => simpa only [hp, hs.table] using h
  | popped wire => simpa only [hp, hs.popped] using h
  | _ => simpa only [hp] using h

theorem Tracked.frame {o : Option Channel} (h : Tracked w ch o) (hs : SameHolder w w' ch) : Tracked w' ch o where
  located c hc := (h.located c hc).frame hs
  table id hid := by
    rw [hs.conn]
    exact h.table id ((hs.table id).1 hid)
  took ht := by
    rw [hs.conn]
    exact h.took (hs.took.1 ht)
  popped id hp := by
    rw [hs.conn]
    exact h.popped id ((hs.popped id).1 hp)
  delivered hd := by
    rw [hs.conn]
    exact h.delivered (hs.delivered.1 hd)
  pending hp := h.pending (hs.pending.1 hp)

theorem Inv.handle {c : Channel} (h : Inv w)
    (hchannels : w'.channels = fun x => if x = ch then some c else w.channels x)
    (hown : Tracked w' ch (some c)) (hothers : ∀ x, x ≠ ch → SameHolder w w' x)
    (hfresh : ch < w'.allocated ∧ w.allocated ≤ w'.allocated) (hnodup : w'.pending.Nodup)
    (hswapped : w'.cleanup ≠ .waiting → ∀ id, w'.responseChannels id = none)
    (hfin : w'.cleanup = .finished → w'.writeLoop = .exited ∧ w'.readLoop = .exited) : Inv w' where
  tracked x := by
    rw [hchannels]
    by_cases hx : x = ch
    · subst hx
      simpa using hown
    · simpa [hx] using (h.tracked x).frame (hothers x hx)
  fresh x hx := by
    rw [hchannels]
    have hne : x ≠ ch := by omega
    simpa [hne] using h.fresh x (by omega)
  nodup := hnodup
  swapped := hswapped
  finished := hfin

theorem Inv.idle (h : Inv w) (hchannels : w'.channels = w.channels) (hallocated : w'.allocated = w.allocated)
    (hothers : ∀ x, SameHolder w w' x) (hnodup : w'.pending.Nodup)
    (hswapped : w'.cleanup ≠ .waiting → ∀ id, w'.responseChannels id = none)
    (hfin : w'.cleanup = .finished → w'.writeLoop = .exited ∧ w'.readLoop = .exited) : Inv w' where
  tracked x := by
    rw [hchannels]
    exact (h.tracked x).frame (hothers x)
  fresh x hx := by
    rw [hchannels]
    exact h.fresh x (hallocated ▸ hx)
  nodup := hnodup
  swapped := hswapped
  finished := hfin

theorem Inv.allocated_of_channel {c : Channel} (h : Inv w) (hc : w.channels ch = some c) : ch < w.allocated := by
  by_contra hlt
  rw [h.fresh ch (by omega)] at hc
  cases hc

theorem Inv.tracked_of_channel {c : Channel} (h : Inv w) (hc : w.channels ch = some c) : Tracked w ch (some c) :=
  hc ▸ h.tracked ch

end Frame

-- No request is registered after the cleanup has taken the map, or under an ID that is still in use.
def RegistersInTime (w : World) : Action → Prop
  | .register => w.cleanup = .waiting ∧ w.responseChannels w.nextID = none
  | _ => True

section Callers

variable {w w' : World} {ch : ℕ}

theorem inv_setCaller {c : Channel} {caller : Caller} (h : Inv w) (hc : w.channels ch = some c) :
    Inv (w.setChannel ch { c with caller := caller }) := by
  have hown : Tracked w ch (some { c with caller := caller }) := by
    obtain ⟨h1, h2, h3, h4, h5, h6⟩ := h.tracked_of_channel hc
    constructor
    · intro c' hc'
      cases hc'
      simpa only [Located] using h1 c rfl
    all_goals grind
  exact h.handle rfl (hown.frame { SameHolder.refl w ch with }) (fun x _ => { SameHolder.refl w x with })
    ⟨h.allocated_of_channel hc, le_refl _⟩ h.nodup h.swapped h.finished

theorem inv_makeChannel (owner retryCount : ℕ) (h : Inv w) : Inv (w.makeChannel owner retryCount) := by
  have ht := h.tracked w.allocated
  rw [h.fresh _ (le_refl _)] at ht
  refine h.handle rfl ?_ (fun x _ => { SameHolder.refl w x with })
    ⟨Nat.lt_succ_self _, Nat.le_succ _⟩ h.nodup h.swapped h.finished
  obtain ⟨h1, h2, h3, h4, h5, h6⟩ := ht
  constructor
  · intro c hc
    cases hc
    simp [Located]
  all_goals
    simp only [makeChannel, setChannel, pending] at *
    grind

theorem inv_retry (h : Inv w) (hact : retry w ch = some w') : Inv w' := by
  simp only [retry, Option.bind_eq_bind, Option.bind_eq_some_iff, Option.ite_none_right_eq_some,
    Option.some.injEq] at hact
  obtain ⟨c, hc, -, rfl⟩ := hact
  exact inv_makeChannel _ _ (inv_setCaller h hc)

theorem inv_receive (h : Inv w) (hact : receive w ch = some w') : Inv w' := by
  simp only [receive, Option.bind_eq_bind, Option.bind_eq_some_iff, Option.ite_none_right_eq_some,
    Option.some.injEq] at hact
  obtain ⟨c, hc, -, rfl⟩ := hact
  exact inv_setCaller h hc

theorem inv_withdraw (h : Inv w) (hact : withdraw w ch = some w') : Inv w' := by
  simp only [withdraw, Option.bind_eq_bind, Option.bind_eq_some_iff, Option.ite_none_right_eq_some,
    Option.some.injEq] at hact
  obtain ⟨c, hc, ⟨-, hplace⟩, rfl⟩ := hact
  refine h.handle rfl ?_ (fun x _ => { SameHolder.refl w x with })
    ⟨h.allocated_of_channel hc, le_refl _⟩ h.nodup h.swapped h.finished
  obtain ⟨h1, h2, h3, h4, h5, h6⟩ := h.tracked_of_channel hc
  constructor <;> simp only [setChannel, Located, pending] at * <;> grind

end Callers

section WriteLoop

variable {after : AfterSwap} {w w' : World} {ch : ℕ}

theorem inv_take (h : Inv w) (hact : take w ch = some w') : Inv w' := by
  simp only [take, Option.bind_eq_bind, Option.bind_eq_some_iff, Option.ite_none_right_eq_some,
    Option.some.injEq] at hact
  obtain ⟨c, hc, ⟨hsel, hplace⟩, rfl⟩ := hact
  obtain ⟨h1, h2, h3, h4, h5, h6⟩ := h.tracked_of_channel hc
  refine h.handle rfl ?_ ?_ ⟨h.allocated_of_channel hc, le_refl _⟩ h.nodup h.swapped ?_
  · constructor <;> simp only [setChannel, Located, pending] at * <;> grind
  · intro x hx
    constructor <;> simp only [setChannel] <;> grind [pending]
  · intro hf
    have := h.finished hf
    grind

theorem inv_register (h : Inv w) (hwait : w.cleanup = .waiting) (hfree : w.responseChannels w.nextID = none)
    (hact : register after w = some w') : Inv w' := by
  unfold register at hact
  split at hact
  case h_2 => cases hact
  case h_1 ch htook =>
    simp only [hwait, ne_eq, not_true_eq_false, false_and, if_false, World.modify,
      Option.map_eq_some_iff] at hact
    obtain ⟨_, ⟨c, hc, rfl⟩, rfl⟩ := hact
    obtain ⟨h1, h2, h3, h4, h5, h6⟩ := h.tracked_of_channel hc
    refine h.handle rfl ?_ ?_ ⟨h.allocated_of_channel hc, le_refl _⟩ h.nodup ?_ ?_
    · constructor <;> simp only [setChannel, Located, pending] at * <;> grind
    · intro x hx
      constructor <;> simp only [setChannel] <;> grind [pending]
    · intro hc
      exact absurd hwait hc
    · intro hf
      have hf' : w.cleanup = .finished := hf
      rw [hwait] at hf'
      cases hf'

theorem inv_takeResponse (h : Inv w) (hact : takeResponse w = some w') : Inv w' := by
  simp only [takeResponse, Option.ite_none_right_eq_some, Option.some.injEq] at hact
  obtain ⟨hsel, rfl⟩ := hact
  refine h.idle rfl rfl (fun x => { SameHolder.refl w x with took := by simp [hsel] }) h.nodup h.swapped ?_
  intro hf
  have := (h.finished hf).1
  simp [hsel] at this

theorem inv_wrote (h : Inv w) (hact : wrote w = some w') : Inv w' := by
  simp only [wrote, Option.ite_none_right_eq_some, Option.some.injEq] at hact
  obtain ⟨hwriting, rfl⟩ := hact
  refine h.idle rfl rfl (fun x => { SameHolder.refl w x with took := by simp [hwriting] }) h.nodup h.swapped ?_
  intro hf
  have := (h.finished hf).1
  simp [hwriting] at this

theorem inv_exitWriteLoop (h : Inv w) (hact : exitWriteLoop w = some w') : Inv w' := by
  simp only [exitWriteLoop, Option.ite_none_right_eq_some, Option.some.injEq] at hact
  obtain ⟨hexit, rfl⟩ := hact
  refine h.idle rfl rfl (fun x => { SameHolder.refl w x with took := ?_ }) h.nodup h.swapped
    (fun hf => ⟨rfl, (h.finished hf).2⟩)
  rcases hexit with ⟨hsel, -⟩ | hwriting
  · simp [hsel]
  · simp [hwriting]

end WriteLoop

section ReadLoop

variable {w w' : World} {id : UInt64}

theorem inv_respond (h : Inv w) (hact : respond w id = some w') : Inv w' := by
  simp only [respond, Option.ite_none_right_eq_some] at hact
  obtain ⟨hreading, hact⟩ := hact
  cases hentry : w.responseChannels id with
  | none =>
    simp only [hentry, Option.some.injEq] at hact
    exact hact ▸ h
  | some ch =>
    simp only [hentry, World.modify, Option.map_eq_some_iff] at hact
    obtain ⟨_, ⟨c, hc, rfl⟩, rfl⟩ := hact
    obtain ⟨h1, h2, h3, h4, h5, h6⟩ := h.tracked_of_channel hc
    refine h.handle rfl ?_ ?_ ⟨h.allocated_of_channel hc, le_refl _⟩ h.nodup ?_ ?_
    · constructor <;> simp only [setChannel, Located, pending, Channel.wire] at * <;> grind
    · intro x hx
      constructor <;> simp only [setChannel] <;> grind [pending]
    · intro hc k
      simp [setChannel, h.swapped hc k]
    · intro hf
      have := h.swapped (by simp_all [setChannel]) id
      simp_all

theorem inv_deliver (h : Inv w) (hact : deliver w = some w') : Inv w' := by
  unfold deliver at hact
  split at hact
  case h_2 => cases hact
  case h_1 ch id hpopped =>
    simp only [World.modify, Option.map_eq_some_iff] at hact
    obtain ⟨_, ⟨c, hc, rfl⟩, rfl⟩ := hact
    obtain ⟨h1, h2, h3, h4, h5, h6⟩ := h.tracked_of_channel hc
    refine h.handle rfl ?_ ?_ ⟨h.allocated_of_channel hc, le_refl _⟩ h.nodup h.swapped ?_
    · constructor <;> simp only [setChannel, Located, pending] at * <;> grind
    · intro x hx
      constructor <;> simp only [setChannel] <;> grind [pending]
    · intro hf
      have := h.finished hf
      grind

theorem inv_closeAnswered (h : Inv w) (hact : closeAnswered w = some w') : Inv w' := by
  unfold closeAnswered at hact
  split at hact
  case h_2 => cases hact
  case h_1 ch hdeliv =>
    simp only [World.modify, Option.map_eq_some_iff] at hact
    obtain ⟨_, ⟨c, hc, rfl⟩, rfl⟩ := hact
    obtain ⟨h1, h2, h3, h4, h5, h6⟩ := h.tracked_of_channel hc
    refine h.handle rfl ?_ ?_ ⟨h.allocated_of_channel hc, le_refl _⟩ h.nodup h.swapped ?_
    · constructor <;>
        simp only [setChannel, Located, pending, Channel.close, Channel.wire] at * <;> grind
    · intro x hx
      constructor <;> simp only [setChannel] <;> grind [pending]
    · intro hf
      have := h.finished hf
      grind

theorem inv_exitReadLoop (h : Inv w) (hact : exitReadLoop w = some w') : Inv w' := by
  simp only [exitReadLoop, Option.ite_none_right_eq_some, Option.some.injEq] at hact
  obtain ⟨hreading, rfl⟩ := hact
  exact h.idle rfl rfl
    (fun x => { SameHolder.refl w x with popped := by simp [hreading], delivered := by simp [hreading] })
    h.nodup h.swapped (fun hf => ⟨(h.finished hf).1, rfl⟩)

end ReadLoop

section ConnectLoop

variable {w w' : World}

theorem inv_closeNext (h : Inv w) (hact : closeNext w = some w') : Inv w' := by
  unfold closeNext at hact
  split at hact
  case h_2 => cases hact
  case h_1 ch rest hclosing =>
    simp only [World.modify, Option.map_eq_some_iff] at hact
    obtain ⟨_, ⟨c, hc, rfl⟩, rfl⟩ := hact
    obtain ⟨h1, h2, h3, h4, h5, h6⟩ := h.tracked_of_channel hc
    have hnodup := h.nodup
    simp only [pending, hclosing, List.nodup_cons] at hnodup
    refine h.handle rfl ?_ ?_ ⟨h.allocated_of_channel hc, le_refl _⟩ ?_ ?_ ?_
    · constructor <;>
        simp only [setChannel, Located, pending, Channel.close, Channel.wire] at * <;> grind
    · intro x hx
      constructor <;> simp only [setChannel] <;> grind [pending]
    · exact hnodup.2
    · intro _ k
      exact h.swapped (by simp [hclosing]) k
    · intro hf
      cases hf

theorem inv_swapData {channels : List ℕ} (h : Inv w) (hlists : Lists w channels)
    (hact : swapData w channels = some w') : Inv w' := by
  simp only [swapData, Option.ite_none_right_eq_some, Option.some.injEq] at hact
  obtain ⟨⟨hwait, -⟩, rfl⟩ := hact
  constructor
  · intro ch
    have ht := h.tracked ch
    by_cases hmem : ch ∈ channels
    · obtain ⟨id, hid⟩ := (hlists.2 ch).1 hmem
      obtain ⟨c, hc, hplace⟩ := ht.table id hid
      simp only [markSwapped, hmem, hc, Option.map_some]
      obtain ⟨h1, h2, h3, h4, h5, h6⟩ := ht
      constructor <;> simp only [Located, pending, Channel.wire] at * <;> grind
    · have hne : ∀ id, w.responseChannels id ≠ some ch := fun id hid =>
        hmem ((hlists.2 ch).2 ⟨id, hid⟩)
      simp only [markSwapped, hmem]
      exact ht.frame
        { SameHolder.refl w ch with table := by simp [hne], pending := by simp [World.pending, hwait, hmem] }
  · intro ch hch
    simp [markSwapped, h.fresh ch hch]
  · exact hlists.1
  · intro _ _
    rfl
  · intro hf
    cases hf

theorem inv_join (h : Inv w) (hact : join w = some w') : Inv w' := by
  simp only [join, Option.ite_none_right_eq_some, Option.some.injEq] at hact
  obtain ⟨hclosing, rfl⟩ := hact
  exact h.idle rfl rfl (fun x => { SameHolder.refl w x with pending := by simp [World.pending, hclosing] })
    List.nodup_nil (fun _ => h.swapped (by simp [hclosing])) (fun hf => by cases hf)

theorem inv_finish (h : Inv w) (hact : finish w = some w') : Inv w' := by
  simp only [finish, Option.ite_none_right_eq_some, Option.some.injEq] at hact
  obtain ⟨⟨hjoining, hwrite, hread, -⟩, rfl⟩ := hact
  exact h.idle rfl rfl (fun x => { SameHolder.refl w x with pending := by simp [World.pending, hjoining] })
    List.nodup_nil (fun _ => h.swapped (by simp [hjoining])) (fun _ => ⟨hwrite, hread⟩)

theorem inv_reconnect (h : Inv w) (hact : reconnect w = some w') : Inv w' := by
  simp only [reconnect, Option.ite_none_right_eq_some, Option.some.injEq] at hact
  obtain ⟨hfin, rfl⟩ := hact
  obtain ⟨hwrite, hread⟩ := h.finished hfin
  have htable := h.swapped (by simp [hfin])
  constructor
  · intro ch
    obtain ⟨h1, h2, h3, h4, h5, h6⟩ := h.tracked ch
    constructor
    · intro c hc
      simp only [Located, pending] at *
      grind
    all_goals simp [pending]
  · exact h.fresh
  · simp [pending]
  · intro hc
    exact absurd rfl hc
  · intro hf
    cases hf

end ConnectLoop

theorem inv_step {after : AfterSwap} {w w' : World} {action : Action} (h : Inv w)
    (hstep : Guarded RegistersInTime (Step after) w action w') : Inv w' := by
  obtain ⟨hguard, -, hact, hlists⟩ := hstep
  cases action with
  | push owner =>
    cases hact
    exact inv_makeChannel owner 0 h
  | retry ch => exact inv_retry h hact
  | withdraw ch => exact inv_withdraw h hact
  | receive ch => exact inv_receive h hact
  | take ch => exact inv_take h hact
  | register => exact inv_register h hguard.1 hguard.2 hact
  | respond id => exact inv_respond h hact
  | deliver => exact inv_deliver h hact
  | closeAnswered => exact inv_closeAnswered h hact
  | swapData channels => exact inv_swapData h (hlists channels rfl) hact
  | closeNext => exact inv_closeNext h hact
  | reconnect => exact inv_reconnect h hact
  | takeResponse => exact inv_takeResponse h hact
  | wrote => exact inv_wrote h hact
  | exitWriteLoop => exact inv_exitWriteLoop h hact
  | exitReadLoop => exact inv_exitReadLoop h hact
  | join => exact inv_join h hact
  | finish => exact inv_finish h hact
  | exitPingLoop | cancel =>
    cases hact
    exact h.idle rfl rfl (fun x => { SameHolder.refl w x with })
      h.nodup h.swapped h.finished

theorem inv_initial : Inv {} := by
  constructor
  · intro ch
    constructor <;> simp [pending]
  all_goals simp [pending]

def CleanedUp (w : World) (n : ℕ) : Prop :=
  n < w.conn ∨ (n = w.conn ∧ w.cleanup = .finished)

-- A response is handed over only under the ID of the channel's own request, there is at most one close,
-- and no request that was taken stays open after the cleanup of its connection.
structure Served (w : World) (ch : ℕ) (c : Channel) : Prop where
  own : ∀ wire, c.sent = some wire → c.requestID = some wire
  closedOnce : c.closes ≤ 1
  ended : ∀ n, c.takenBy = some n → CleanedUp w n → c.sent.isSome ∨ c.closes = 1
  notStuck : ∀ n, c.takenBy = some n → CleanedUp w n → c.caller = .waiting → (receive w ch).isSome

theorem Located.ended {w : World} {ch : ℕ} {c : Channel} (h : Inv w) (hl : Located w ch c) {n : ℕ}
    (hn : c.takenBy = some n) (hclean : CleanedUp w n) : c.sent.isSome ∨ c.closes = 1 := by
  -- While the connection is current and its cleanup not finished, nothing is asked.
  have hnot : n = w.conn → w.writeLoop = .exited ∧ w.readLoop = .exited ∧
      (∀ id, w.responseChannels id = none) ∧ w.pending = [] := by
    rintro rfl
    obtain hlt | ⟨-, hfin⟩ := hclean
    · omega
    · obtain ⟨hwrite, hread⟩ := h.finished hfin
      exact ⟨hwrite, hread, h.swapped (by simp [hfin]), by simp [pending, hfin]⟩
  unfold Located at hl
  all_goals grind

theorem Located.served {w : World} {ch : ℕ} {c : Channel} (h : Inv w) (hc : w.channels ch = some c) :
    Served w ch c := by
  have hl := (h.tracked ch).located c hc
  have hended := fun n hn hclean => hl.ended (n := n) h hn hclean
  refine ⟨?_, ?_, hended, ?_⟩
  · intro wire hsent
    unfold Located at hl
    cases hp : c.place <;> simp only [hp] at hl <;> grind
  · unfold Located at hl
    cases hp : c.place <;> simp only [hp] at hl <;> omega
  · intro n hn hclean hwait
    have hready : c.sent.isSome ∨ 0 < c.closes := by
      rcases hended n hn hclean with hsent | hcloses
      · exact .inl hsent
      · exact .inr (by omega)
    simp [receive, hc, hwait, hready]

-- By the invariant of single steps, since each channel is in one place at a time.
theorem every_request_served {after : AfterSwap} {actions : List Action} {w : World}
    (hrun : Run (Guarded RegistersInTime (Step after)) {} actions w) {ch : ℕ} {c : Channel}
    (hc : w.channels ch = some c) : Served w ch c :=
  Located.served (hrun.invariant (fun _ _ _ h hstep => inv_step h hstep) inv_initial) hc

theorem every_request_served_answered_and_closed :
    ∃ actions w c, Run (Guarded RegistersInTime (Step .panics)) {} actions w ∧
      w.channels 1 = some c ∧ c.caller = .waiting ∧ c.takenBy = some 0 ∧ CleanedUp w 0 ∧
      Served w 1 c := by
  have hlists : ∀ w : World,
      (w.responseChannels = fun id => if id = 2 then some 1 else if id = 1 then none
        else if id = 1 then some 0 else none) → Lists w [1] := by
    intro w hw
    refine ⟨by simp, fun ch => ⟨?_, ?_⟩⟩
    · intro hch
      exact ⟨2, by simp_all⟩
    · rintro ⟨id, hid⟩
      grind
  have hrun : ∃ actions w c, Run (Guarded RegistersInTime (Step .panics)) {} actions w ∧
      w.channels 1 = some c ∧ c.caller = .waiting ∧ c.takenBy = some 0 ∧ CleanedUp w 0 := by
    refine ⟨[.push 0, .take 0, .register, .wrote, .respond 1, .deliver, .closeAnswered, .receive 0,
      .push 1, .take 1, .register, .wrote, .cancel, .swapData [1], .closeNext, .join,
      .exitWriteLoop, .exitReadLoop, .exitPingLoop, .finish], _, _,
      .cons ⟨trivial, rfl, rfl, nofun⟩ <| .cons ⟨trivial, rfl, rfl, nofun⟩ <|
      .cons ⟨⟨rfl, rfl⟩, rfl, rfl, nofun⟩ <| .cons ⟨trivial, rfl, rfl, nofun⟩ <|
      .cons ⟨trivial, rfl, rfl, nofun⟩ <| .cons ⟨trivial, rfl, rfl, nofun⟩ <|
      .cons ⟨trivial, rfl, rfl, nofun⟩ <| .cons ⟨trivial, rfl, rfl, nofun⟩ <|
      .cons ⟨trivial, rfl, rfl, nofun⟩ <| .cons ⟨trivial, rfl, rfl, nofun⟩ <|
      .cons ⟨⟨rfl, rfl⟩, rfl, rfl, nofun⟩ <| .cons ⟨trivial, rfl, rfl, nofun⟩ <|
      .cons ⟨trivial, rfl, rfl, nofun⟩ <| .cons ⟨trivial, rfl, rfl, ?_⟩ <|
      .cons ⟨trivial, rfl, rfl, nofun⟩ <| .cons ⟨trivial, rfl, rfl, nofun⟩ <|
      .cons ⟨trivial, rfl, rfl, nofun⟩ <| .cons ⟨trivial, rfl, rfl, nofun⟩ <|
      .cons ⟨trivial, rfl, rfl, nofun⟩ <| .cons ⟨trivial, rfl, rfl, nofun⟩ <| .refl _,
      rfl, rfl, rfl, .inr ⟨rfl, rfl⟩⟩
    rintro channels ⟨⟩
    exact hlists _ rfl
  obtain ⟨actions, w, c, hrun, hc, hwait, htaken, hclean⟩ := hrun
  exact ⟨actions, w, c, hrun, hc, hwait, htaken, hclean, every_request_served hrun hc⟩

-- The select of writeLoop takes a request although ctx is done, and registers it after the
-- cleanup has taken the map. Nobody closes the channel and its caller waits forever.
theorem late_request_never_closed :
    ∃ actions w c, Run (Step .stores) {} actions w ∧ w.channels 0 = some c ∧ c.caller = .waiting ∧
      CleanedUp w 0 ∧ c.takenBy = some 0 ∧ c.sent = none ∧ c.closes = 0 ∧ ¬ Served w 0 c := by
  refine ⟨[.push 0, .cancel, .swapData [], .join, .take 0, .register, .exitWriteLoop,
    .exitReadLoop, .exitPingLoop, .finish], _, _,
    .cons ⟨rfl, rfl, nofun⟩ <| .cons ⟨rfl, rfl, nofun⟩ <| .cons ⟨rfl, rfl, ?_⟩ <|
    .cons ⟨rfl, rfl, nofun⟩ <| .cons ⟨rfl, rfl, nofun⟩ <| .cons ⟨rfl, rfl, nofun⟩ <|
    .cons ⟨rfl, rfl, nofun⟩ <| .cons ⟨rfl, rfl, nofun⟩ <| .cons ⟨rfl, rfl, nofun⟩ <|
    .cons ⟨rfl, rfl, nofun⟩ <| .refl _, rfl, rfl, .inr ⟨rfl, rfl⟩, rfl, rfl, rfl, ?_⟩
  · rintro channels ⟨⟩
    exact ⟨List.nodup_nil, by simp [makeChannel, setChannel]⟩
  · intro h
    have := h.ended 0 rfl (.inr ⟨rfl, rfl⟩)
    simp at this

end MautrixSignal.Websocket
