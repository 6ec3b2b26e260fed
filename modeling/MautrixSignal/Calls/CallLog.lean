import MautrixSignal.Calls.Offers
import MautrixSignal.Calls.Slot
import Mathlib.Data.List.Induction

namespace MautrixSignal.Calls

open Lib List

variable {codec : CallCodec} {choice : Choice} {b : Bridge} {o : CallOutcome} {t u : Task}
  {p p' : Pool Bridge Task} {new journal : List Entry} {call : CallKey} {ε : Type} {id : UInt64}
  {evt : CallEvent} {message : DecodedCallMessage} {i : Nat}

-- calllog.Call, with the chat and the user whose portal key and sender it has.
structure LoggedCall where
  chatID : ChatID
  caller : UUID
  video : Bool
  started : Int64

inductive LogOp
  | start (key : String) (call : LoggedCall)
  | answer (key : String) (time : Int64)
  | decline (key : String) (time : Int64)
  | finish (key : String) (time : Int64)

-- A calllog.Log is not part of the bridge. Its answer is a matter of what it was told before.
abbrev LogLibrary (ε : Type) := List LogOp → LogOp → Option ε

structure CallLogger where
  bridged : List UInt64 := []
  told : List LogOp := []

variable {cl : CallLogger}

def callKey (id : UInt64) : String :=
  id.toNat.repr

def CallLogger.markBridged (cl : CallLogger) (id : UInt64) : CallLogger :=
  { cl with bridged := id :: cl.bridged }

def signalLogOp (evt : CallEvent) (message : DecodedCallMessage) : Option LogOp :=
  let key := callKey message.id
  let time := evt.timestamp.toInt64
  match message.messageType with
  | .offer =>
    some (.start key
      { chatID := evt.info.chatID
        caller := evt.info.sender
        video := message.type = some .video
        started := time })
  | .answer => some (.answer key time)
  | .busy => some (.decline key time)
  | .hangup =>
    match message.hangupType with
    | .accepted => some (.answer key time)
    | .declined | .busy | .needPermission => some (.decline key time)
    | .normal => some (.finish key time)
  | .iceUpdate | .opaqueMessage => none

variable (library : LogLibrary ε)

def CallLogger.fromSignal (cl : CallLogger) (evt : CallEvent) (message : DecodedCallMessage) : CallLogger × List ε :=
  if message.id ∈ cl.bridged then (cl, [])
  else
    match signalLogOp evt message with
    | none => (cl, [])
    | some op => ({ cl with told := cl.told ++ [op] }, (library cl.told op).toList)

-- What handleSignalEvent does for the log with a call event. One without a call message is about a group
-- call and is not logged.
def CallLogger.handleSignalEvent (callBridging : Bool) (cl : CallLogger) (evt : CallEvent) : CallLogger × List ε :=
  match evt.message with
  | none => (cl, [])
  | some message =>
    let marked := if callBridging ∧ isBridgeableOffer message then cl.markBridged message.id else cl
    marked.fromSignal library evt message

def logAfter (journal : List Entry) : CallLogger :=
  journal.foldl (fun cl entry =>
    match entry with
    | .handled _ evt => (cl.handleSignalEvent library true evt).1
    | _ => cl) {}

def OfferedID (journal : List Entry) (id : UInt64) : Prop :=
  ∃ b evt message, .handled b evt ∈ journal ∧ evt.message = some message ∧ message.messageType = .offer ∧
    message.id = id

theorem callKey_injective {id' : UInt64} (h : callKey id = callKey id') : id = id' := by
  have hdigits := String.ofList_injective h
  have hval := congrArg (Nat.ofDigitChars 10 · 0) hdigits
  simp only [Nat.ofDigitChars_toDigits (by decide : 1 < 10) (by decide : 10 ≤ 10)] at hval
  exact UInt64.toNat_inj.mp hval

structure CallLogger.Follows (cl : CallLogger) (journal : List Entry) : Prop where
  bridged : ∀ id ∈ cl.bridged, OfferedID journal id
  told : ∀ key call, .start key call ∈ cl.told → ∃ id, OfferedID journal id ∧ key = callKey id

theorem OfferedID.append (h : OfferedID journal id) (new : List Entry) : OfferedID (journal ++ new) id := by
  obtain ⟨b, evt, message, hmem, hmsg, htype, hid⟩ := h
  exact ⟨b, evt, message, mem_append_left _ hmem, hmsg, htype, hid⟩

theorem CallLogger.Follows.append (h : cl.Follows journal) (new : List Entry) : cl.Follows (journal ++ new) where
  bridged := fun id hid => (h.bridged id hid).append new
  told := fun key call hop => by
    obtain ⟨id, hid, hkey⟩ := h.told key call hop
    exact ⟨id, hid.append new, hkey⟩

theorem CallLogger.Follows.markBridged (h : cl.Follows journal) (hid : OfferedID journal id) :
    (cl.markBridged id).Follows journal where
  bridged := fun id' hmem => by
    rcases mem_cons.mp hmem with rfl | hold
    · exact hid
    · exact h.bridged id' hold
  told := h.told

theorem start_of_signalLogOp {key : String} {call : LoggedCall} (h : signalLogOp evt message = some (.start key call)) :
    message.messageType = .offer ∧ key = callKey message.id := by
  cases htype : message.messageType with
  | offer =>
    simp only [signalLogOp, htype, Option.some.injEq, LogOp.start.injEq] at h
    exact ⟨rfl, h.1.symm⟩
  | hangup =>
    simp only [signalLogOp, htype] at h
    split at h <;> cases h
  | _ => simp [signalLogOp, htype] at h

theorem CallLogger.Follows.fromSignal (h : cl.Follows journal) (library : LogLibrary ε) (evt : CallEvent)
    (hoffered : message.messageType = .offer → OfferedID journal message.id) :
    (cl.fromSignal library evt message).1.Follows journal := by
  unfold CallLogger.fromSignal
  split
  · exact h
  split
  · exact h
  rename_i op hop
  refine ⟨h.bridged, fun key call hmem => ?_⟩
  rcases mem_append.mp hmem with hold | hnew
  · exact h.told key call hold
  · obtain rfl := mem_singleton.mp hnew
    obtain ⟨htype, hkey⟩ := start_of_signalLogOp hop
    exact ⟨message.id, hoffered htype, hkey⟩

theorem follows_handleSignalEvent {library : LogLibrary ε} (h : cl.Follows journal) (b : Bridge) (evt : CallEvent) :
    (cl.handleSignalEvent library true evt).1.Follows (journal ++ [.handled b evt]) := by
  have hstays := h.append [.handled b evt]
  unfold CallLogger.handleSignalEvent
  split
  · exact hstays
  rename_i message hmsg
  have hnow (htype : message.messageType = .offer) : OfferedID (journal ++ [.handled b evt]) message.id :=
    ⟨b, evt, message, by simp, hmsg, htype, rfl⟩
  refine CallLogger.Follows.fromSignal ?_ library evt hnow
  split
  · rename_i hoffer
    simp only [isBridgeableOffer, Bool.and_eq_true, decide_eq_true_eq] at hoffer
    exact hstays.markBridged (hnow hoffer.2.1.1.1)
  · exact hstays

theorem follows_logAfter (journal : List Entry) : (logAfter library journal).Follows journal := by
  induction journal using List.reverseRecOn with
  | nil => exact ⟨fun _ hid => (nomatch hid), fun _ _ hop => (nomatch hop)⟩
  | append_singleton journal entry ih =>
    unfold logAfter
    rw [foldl_append]
    cases entry with
    | handled b evt => exact follows_handleSignalEvent ih b evt
    | _ => exact ih.append _

theorem logged_of_new
    (hlibrary : ∀ told key call, (∀ call', .start key call' ∉ told) → (library told (.start key call)).isSome)
    (hmsg : evt.message = some message) (htype : message.messageType = .offer) (hnew : ¬ OfferedID journal message.id)
    (hbridgeable : isBridgeableOffer message = false) :
    ((logAfter library journal).handleSignalEvent library true evt).2 ≠ [] := by
  have hfollows := follows_logAfter library journal
  have hleft : message.id ∉ (logAfter library journal).bridged := fun hid => hnew (hfollows.bridged _ hid)
  have hstarted (call' : LoggedCall) : .start (callKey message.id) call' ∉ (logAfter library journal).told := by
    intro hop
    obtain ⟨id, hid, hkey⟩ := hfollows.told _ call' hop
    rw [callKey_injective hkey] at hnew
    exact hnew hid
  simp only [CallLogger.handleSignalEvent, hmsg, hbridgeable, CallLogger.fromSignal, Bool.false_eq_true,
    and_false, if_false, hleft, signalLogOp, htype]
  rw [ne_eq, Option.toList_eq_nil_iff, ← ne_eq, ← Option.isSome_iff_ne_none]
  exact hlibrary _ _ _ hstarted

-- The slot is free or holds the call already, the portal and the ghost are found, a video call has a codec, no
-- leg fails and nobody ends the call before the invite.
def ringsThrough : Guard := fun p t choice =>
  match t with
  | .startIncoming evt .check | .startIncoming evt (.claim _) =>
    p.state.activeSession.all fun (_, s) => s.incoming && callOf evt = some s.call
  | .startIncoming evt .lookup =>
    choice.ok && choice.portal.any (· ≠ "") &&
      evt.message.all fun message => message.type ≠ some .video || (signalVideoSelection message).isSome
  | .ringMatrix _ .newLeg | .ringMatrix _ (.createOffer _) | .ringMatrix _ .sendInvite => choice.ok
  | .ringMatrix i (.storeLeg _) | .ringMatrix i .waitGathering =>
    p.state.sessions[i]?.all fun s => !s.cancelled
  | _ => true

def Session.IsIncoming (call : CallKey) (s : Session) : Prop :=
  s.incoming = true ∧ s.call = call

def Bridge.TakenOn (call : CallKey) (b : Bridge) : Prop :=
  ∃ i, b.Has i (Session.IsIncoming call)

theorem Bridge.TakenOn.evolves {b' : Bridge} (h : b.TakenOn call) (hb : b.Evolves b') : b'.TakenOn call := by
  obtain ⟨i, hi⟩ := h
  refine ⟨i, hb.has hi fun s s' hs he => ⟨he.incoming.trans hs.1, ?_⟩⟩
  rw [← hs.2]
  simp [Session.call, he.peer, he.signalID]

theorem takenOn_of_active (hcall : callOf evt = some call)
    (hall : (b.activeSession.all fun (_, s) => s.incoming && callOf evt = some s.call) = true) {s : Session}
    (hact : b.activeSession = some (i, s)) : b.TakenOn call := by
  simp only [hact, Option.all_some, Bool.and_eq_true, decide_eq_true_eq] at hall
  refine ⟨i, s, (Bridge.activeSession_eq_some.mp hact).2, hall.1, ?_⟩
  exact Option.some.inj (hall.2.symm.trans hcall)

theorem takesOn_goesOn (hsound : SoundPool p) (hguard : ringsThrough p t choice = true)
    (h : t.step codec choice p.state = some o) (ht : t.takesOn = some call) :
    o.state.TakenOn call ∨ ∃ u ∈ o.next, u.takesOn = some call := by
  cases t with
  | startIncoming evt place =>
    obtain ⟨message, hmsg, rfl⟩ := Option.map_eq_some_iff.mp h
    cases place with
    | check =>
      cases hact : p.state.activeSession with
      | none =>
        simp only [startIncoming, hact]
        exact .inr ⟨_, Outcome.mem_next_of_goesOn rfl, ht⟩
      | some active =>
        have htaken := takenOn_of_active ht hguard hact
        simp only [startIncoming, hact]
        split <;> exact .inl htaken
    | lookup =>
      simp only [ringsThrough, Bool.and_eq_true, Option.any_eq_true, decide_eq_true_eq, hmsg] at hguard
      obtain ⟨⟨hok, portal, hport, hname⟩, hcodec⟩ := hguard
      have hfound : ¬ (portal = "" ∨ choice.ok = false) := by simp [hname, hok]
      have hshared : ¬ (message.type = some .video ∧ signalVideoSelection message = none) := by
        rintro ⟨hvideo, hnone⟩
        simp [hvideo, hnone] at hcodec
      simp only [startIncoming, hport, if_neg hfound, if_neg hshared]
      exact .inr ⟨_, Outcome.mem_next_of_goesOn rfl, ht⟩
    | claim portal =>
      cases hact : p.state.active with
      | none =>
        simp only [startIncoming, hact]
        refine .inl ⟨p.state.sessions.length, _, Bridge.getElem?_activate_length _ _, rfl, ?_⟩
        have hkey : callOf evt = some call := ht
        simp only [callOf, hmsg, Option.map_some, Option.some.injEq] at hkey
        exact hkey
      | some i =>
        obtain ⟨s, hs, -⟩ := hsound.state.active i hact
        have htaken := takenOn_of_active ht hguard
          (Bridge.activeSession_eq_some.mpr ⟨hact, hs⟩)
        simp only [startIncoming, hact]
        exact .inl htaken
  | _ => cases ht

theorem ringMatrix_goesOn {place : RingStep} (hguard : ringsThrough p (.ringMatrix i place) choice = true)
    (h : (Task.ringMatrix i place).step codec choice p.state = some o) :
    (∃ place', .ringMatrix i place' ∈ o.next) ∨
      .invite i ∈ (Task.ringMatrix i place).entries p.state choice := by
  obtain ⟨s, hs, rfl⟩ := Option.map_eq_some_iff.mp h
  cases place with
  | newLeg | createOffer leg =>
    have hok : choice.ok = true := hguard
    simp only [hok]
    exact .inl ⟨_, Outcome.mem_next_of_goesOn rfl⟩
  | storeLeg leg | waitGathering =>
    have hopen : s.cancelled = false := by simpa [ringsThrough, hs] using hguard
    simp only [ringMatrix, hopen]
    exact .inl ⟨_, Outcome.mem_next_of_goesOn rfl⟩
  | sendInvite =>
    have hok : choice.ok = true := hguard
    exact .inr (by simp [Task.entries, hok])

structure Rings (p : Pool Bridge Task) (journal : List Entry) : Prop where
  taken : ∀ call b evt, .handled b evt ∈ journal → offersCall call evt = true →
    p.Owed (·.TakenOn call) (·.takesOn = some call)
  rung : ∀ (i : Nat) s, p.state.sessions[i]? = some s → s.incoming = true →
    (∃ place, .ringMatrix i place ∈ p.tasks) ∨ .invite i ∈ journal

theorem rings_initial : Rings { state := {} } [] where
  taken := fun _ _ _ hmem => nomatch hmem
  rung := fun _ _ hs => nomatch hs

theorem takesOn_of_offer (h : offersCall call evt = true) :
    ∃ u ∈ (handleSignalCall b evt).next, u.takesOn = some call := by
  simp only [offersCall, Bool.and_eq_true, decide_eq_true_eq, Option.any_eq_true] at h
  obtain ⟨hkey, message, hmsg, hoffer⟩ := h
  refine ⟨.startIncoming evt .check, ?_, hkey⟩
  have htype : message.messageType = .offer := by
    simp only [isBridgeableOffer, Bool.and_eq_true, decide_eq_true_eq] at hoffer
    exact hoffer.1.1.1
  simp [handleSignalCall, hmsg, htype, hoffer, Outcome.next]

theorem ringMatrix_of_new {s : Session} (h : t.step codec choice b = some o)
    (hs : o.state.sessions[i]? = some s) (hnew : b.sessions[i]? = none) (hin : s.incoming = true) :
    .ringMatrix i .newLeg ∈ o.next := by
  obtain ⟨rfl, hout | ⟨evt, message, portal, choice', -, rfl, -⟩⟩ := (Task.changes h).new_session hs hnew
  · cases hout.symm.trans hin
  · obtain ⟨message', -, rfl⟩ := Option.map_eq_some_iff.mp h
    cases hact : b.active with
    | some j =>
      simp only [startIncoming, hact] at hs
      cases hnew.symm.trans hs
    | none =>
      simp only [startIncoming, hact]
      exact Outcome.mem_next_of_goesOn rfl

theorem PoolStep.rings (h : PoolStep codec ringsThrough p p' new) (hsound : SoundPool p)
    (hp : Rings p journal) : Rings p' (journal ++ new) := by
  cases h with
  | gets p' tasks hstate hperm htasks =>
    have hkept {u : Task} (hu : u ∈ p.tasks) : u ∈ p'.tasks :=
      hperm.mem_iff.mpr (mem_append_right _ hu)
    rw [append_nil]
    refine ⟨fun call b evt hmem hoffer => (hp.taken call b evt hmem hoffer).of_tasks hstate fun _ => hkept, ?_⟩
    intro i s hs hin
    refine (hp.rung i s (hstate ▸ hs) hin).imp_left ?_
    rintro ⟨place, hplace⟩
    exact ⟨place, hkept hplace⟩
  | runs place choice t o ht hstep hguard =>
    refine ⟨fun call b evt hmem hoffer => ?_, fun i s hs hin => ?_⟩
    · rcases mem_append.mp hmem with hold | hnow
      · refine (hp.taken call b evt hold hoffer).resume ht ?_ fun htakes =>
          takesOn_goesOn hsound hguard hstep htakes
        exact fun htaken => .inl (htaken.evolves (Task.evolves hstep))
      · obtain ⟨rfl, rfl⟩ := Task.handled_of_entries hnow
        cases hstep
        obtain ⟨u, hu, htakes⟩ := takesOn_of_offer hoffer
        exact .inr ⟨u, Pool.next_mem_tasks_resume ht hu, htakes⟩
    · rw [Pool.state_resume] at hs
      cases hs₀ : p.state.sessions[i]? with
      | none => exact .inl ⟨_, Pool.next_mem_tasks_resume ht (ringMatrix_of_new hstep hs hs₀ hin)⟩
      | some s₀ =>
        obtain ⟨s', hs', he⟩ := Task.evolves hstep i s₀ hs₀
        obtain rfl := Option.some.inj (hs.symm.trans hs')
        rcases hp.rung i s₀ hs₀ (he.incoming.symm.trans hin) with ⟨ring, hring⟩ | hinvite
        · by_cases hthis : t = .ringMatrix i ring
          · subst hthis
            rcases ringMatrix_goesOn hguard hstep with ⟨ring', hnext⟩ | hinvite
            · exact .inl ⟨ring', Pool.next_mem_tasks_resume ht hnext⟩
            · exact .inr (mem_append_right _ hinvite)
          · exact .inl ⟨ring, Pool.stays_mem_tasks_resume ht hring (Ne.symm hthis)⟩
        · exact .inr (mem_append_left _ hinvite)

-- Where an incoming call has what it needs to ring, no offer of a new call goes unseen: it gets an entry in
-- the log, or is on its way to ring, or Matrix has its invite.
theorem offer_rings_or_is_logged (codec : CallCodec) (library : LogLibrary ε)
    (hlibrary : ∀ told key call, (∀ call', .start key call' ∉ told) → (library told (.start key call)).isSome)
    {labels : List Action} {w : World} {journal : List (Node × Entry)}
    (h : Run (Watched codec ringsThrough) (.initial, []) labels (w, journal)) (n : Node)
    {before after : List Entry} {evt : CallEvent} {message : DecodedCallMessage}
    (hents : entriesAt n journal = before ++ .handled b evt :: after)
    (hmsg : evt.message = some message) (htype : message.messageType = .offer)
    (hnew : ¬ OfferedID before message.id) :
    ((logAfter library before).handleSignalEvent library true evt).2 ≠ [] ∨
    (∃ t ∈ (w.devices n).pool.tasks, t.takesOn = some (evt.info.sender, message.id)) ∨
    ∃ i, (w.devices n).pool.state.Has i (Session.IsIncoming (evt.info.sender, message.id)) ∧
      ((∃ place, .ringMatrix i place ∈ (w.devices n).pool.tasks) ∨ .invite i ∈ entriesAt n journal) := by
  obtain ⟨-, hrings⟩ := forall_pools_of_run (fun p journal => SoundPool p ∧ Rings p journal)
    ⟨sound_initial, rings_initial⟩
    (fun p journal p' new hp hstep => ⟨hstep.sound hp.1, hstep.rings hp.1 hp.2⟩) h n
  cases hbridgeable : isBridgeableOffer message with
  | false => exact .inl (logged_of_new library hlibrary hmsg htype hnew hbridgeable)
  | true =>
    have hoffer : offersCall (evt.info.sender, message.id) evt = true := by
      simp [offersCall, callOf, hmsg, hbridgeable]
    refine .inr ?_
    rcases hrings.taken _ b evt (by simp [hents]) hoffer with ⟨i, s, hs, hin⟩ | htakes
    · exact .inr ⟨i, ⟨s, hs, hin⟩, hrings.rung i s hs hin.1⟩
    · exact .inl htakes

def keyedLog : LogLibrary LogOp := fun told op =>
  let started (key : String) := told.any fun
    | .start key' _ => key' = key
    | _ => false
  match op with
  | .start key _ => if started key then none else some op
  | .answer key _ | .decline key _ | .finish key _ => if started key then some op else none

theorem keyedLog_start (told : List LogOp) (key : String) (call : LoggedCall)
    (h : ∀ call', .start key call' ∉ told) : (keyedLog told (.start key call)).isSome := by
  simp only [keyedLog]
  rw [if_neg]
  · rfl
  · simp only [any_eq_true]
    rintro ⟨op, hop, hkey⟩
    split at hkey
    · rename_i key' call'
      exact h call' (of_decide_eq_true hkey ▸ hop)
    · cases hkey

def ringsUnlogged : List Entry → Bool
  | [.handled _ evt, .invite 0] =>
    decide (evt.info.sender = caller.aci ∧ (CallLogger.handleSignalEvent keyedLog true {} evt).2 = []) &&
      evt.message.any fun message => decide (message.messageType = .offer ∧ message.id = 7)
  | _ => false

theorem offer_rings_or_is_logged_ringing :
    ∃ labels w journal b evt after, Run (Watched emptyCodec ringsThrough) (.initial, []) labels (w, journal) ∧
      entriesAt winner journal = [] ++ .handled b evt :: after ∧ callOf evt = some (caller.aci, 7) ∧
      ∃ i, (w.devices winner).pool.state.Has i (Session.IsIncoming (caller.aci, 7)) ∧
        .invite i ∈ entriesAt winner journal := by
  obtain ⟨w, journal, hrun, htasks, hfacts⟩ : ∃ w journal,
      Run (Watched emptyCodec ringsThrough) (.initial, []) (placeCall ++ ringAt winner) (w, journal) ∧
        (w.devices winner).pool.tasks = [.timer 0] ∧ ringsUnlogged (entriesAt winner journal) = true :=
    exists_recorded_run (by decide +kernel)
  unfold ringsUnlogged at hfacts
  split at hfacts
  · rename_i b evt hents
    simp only [Bool.and_eq_true, decide_eq_true_eq, Option.any_eq_true] at hfacts
    obtain ⟨⟨hsnd, hunlogged⟩, message, hmsg, htype, hid⟩ := hfacts
    have hnew : ¬ OfferedID [] message.id := by rintro ⟨_, _, _, ⟨⟩, _⟩
    have hseen := offer_rings_or_is_logged emptyCodec keyedLog keyedLog_start hrun winner hents hmsg
      htype hnew
    rw [hsnd, hid, htasks] at hseen
    refine ⟨_, w, journal, b, evt, _, hrun, hents, by simp [callOf, hmsg, hsnd, hid], ?_⟩
    rcases hseen with hlogged | ⟨t, ht, htakes⟩ | ⟨i, hi, ⟨place, hrings⟩ | hinvite⟩
    · exact absurd hunlogged hlogged
    · rw [mem_singleton.mp ht] at htakes
      cases htakes
    · cases mem_singleton.mp hrings
    · exact ⟨i, hi, hinvite⟩
  · cases hfacts

theorem unlogged_of_bridgeable (cl : CallLogger) (hmsg : evt.message = some message)
    (hbridgeable : isBridgeableOffer message = true) : (cl.handleSignalEvent library true evt).2 = [] := by
  simp [CallLogger.handleSignalEvent, hmsg, hbridgeable, CallLogger.fromSignal, CallLogger.markBridged]

def ringsThenStranger : List Entry → Bool
  | [.handled _ evt₀, .invite 0, .handled _ evt] => evt₀.message.all (·.id ≠ 9) = true ∧ evt = strangerEvent
  | _ => false

-- The call of the stranger comes while another one rings.
theorem second_call_neither_rings_nor_is_logged :
    ∃ labels w journal before b after,
      Run (Watched emptyCodec fun _ _ _ => true) (.initial, []) labels (w, journal) ∧
      entriesAt winner journal = before ++ .handled b strangerEvent :: after ∧
      strangerEvent.message = some strangerMessage ∧ strangerMessage.messageType = .offer ∧
      ¬ OfferedID before strangerMessage.id ∧
      (∀ (ε : Type) (library : LogLibrary ε),
        ((logAfter library before).handleSignalEvent library true strangerEvent).2 = []) ∧
      (w.devices winner).pool.tasks = [.timer 0] ∧
      ∀ s ∈ (w.devices winner).pool.state.sessions, s.call ≠ (stranger.aci, strangerMessage.id) := by
  obtain ⟨w, journal, hrun, htasks, hsessions, hfacts⟩ : ∃ w journal,
      Run (Watched emptyCodec fun _ _ _ => true) (.initial, []) (placeCall ++ ringAt winner ++
        sentToWinner strangerPacket ++ List.replicate 2 (.run winner (.background 1) {})) (w, journal) ∧
      (w.devices winner).pool.tasks = [.timer 0] ∧
      (∀ s ∈ (w.devices winner).pool.state.sessions, s.call ≠ (stranger.aci, strangerMessage.id)) ∧
      ringsThenStranger (entriesAt winner journal) = true := exists_recorded_run (by decide +kernel)
  unfold ringsThenStranger at hfacts
  split at hfacts
  · rename_i b₀ evt₀ b evt hents
    obtain ⟨hother, rfl⟩ := of_decide_eq_true hfacts
    refine ⟨_, w, journal, [.handled b₀ evt₀, .invite 0], b, [], hrun, hents, rfl, rfl, ?_, fun ε library => unlogged_of_bridgeable library _ rfl (by decide), htasks, hsessions⟩
    rintro ⟨b', evt', message, hmem, hmsg, -, hid⟩
    rcases mem_cons.mp hmem with heq | hmem
    · cases heq
      rw [hmsg, Option.all_some, decide_eq_true_eq] at hother
      exact hother hid
    · cases mem_singleton.mp hmem
  · cases hfacts

end MautrixSignal.Calls
