import MautrixSignal.Calls.Runs

namespace MautrixSignal.Calls

open Lib

variable {codec : CallCodec} {choice : Choice} {b : Bridge} {o : CallOutcome} {t : Task}
  {allowed : Ending → Prop} {n : Node} {d : Device} {w w' : World} {a : Action} {s : Session}
  {message : DecodedCallMessage} {i : Nat}

def Session.TookAnswer (hangup : Hangup) (peer : ServiceID) (s : Session) : Prop :=
  s.incoming = false ∧ s.answering = true ∧ s.signalID = hangup.id ∧ s.peer = peer ∧
    s.sourceDevice = hangup.deviceID

theorem Session.TookAnswer.evolves {hangup : Hangup} {peer : ServiceID} {s' : Session}
    (h : s.TookAnswer hangup peer) (he : s.Evolves s') : s'.TookAnswer hangup peer := by
  obtain ⟨hincoming, hans, hid, hpeer, hdev⟩ := h
  obtain ⟨hans', hdev'⟩ := he.answering hans
  exact ⟨he.incoming.trans hincoming, hans', he.signalID.trans hid, he.peer.trans hpeer,
    hdev'.trans hdev⟩

theorem Task.accepted_of_step {send : ServiceID × CallMessage} (h : t.step codec choice b = some o)
    (ht : t.Holds allowed b) (hsend : send ∈ o.sends) {hangup : Hangup}
    (hhangup : send.2.hangup = some hangup) (hacc : hangup.type = .accepted) :
    ∃ i, b.Has i (Session.TookAnswer hangup send.1) := by
  cases Task.sends h hsend with
  | accepted hs =>
    obtain ⟨s, hs', hfits⟩ := ht
    obtain rfl := Option.some.inj (hs.symm.trans hs')
    cases hhangup
    exact ⟨_, _, hs, hfits.1, hfits.2, rfl, rfl, rfl⟩
  | hangup hs =>
    cases hhangup
    cases hacc
  | busy | offer | answer | ice => cases hhangup

-- Every broadcast that dismisses the ringing comes from a session that took the answer of the device it
-- names.
def World.Dismissed (w : World) : Prop :=
  ∀ p ∈ w.network, p.foreign = false → ∀ hangup, p.message.hangup = some hangup →
    hangup.type = .accepted → ∃ i, (w.devices p.source).pool.state.Has i
      (Session.TookAnswer hangup p.destination)

theorem mem_packets {n : Node} {p : Packet} (h : p ∈ Task.packets n o) :
    p.source = n ∧ (p.destination, p.message) ∈ o.sends := by
  obtain ⟨send, hsend, rfl⟩ := List.mem_map.mp h
  exact ⟨rfl, hsend⟩

theorem dismissed_step {allowed : Node → Ending → Prop} (h : Step codec w a w')
    (hsound : ∀ n, (w.devices n).Sound (allowed n)) (hw : w.Dismissed) : w'.Dismissed := by
  intro p hp hforeign hangup hhangup hacc
  -- A session that took an answer keeps the device of the answer.
  suffices hbef : ∃ i, (w.devices p.source).pool.state.Has i
      (Session.TookAnswer hangup p.destination) by
    obtain ⟨i, hi⟩ := hbef
    have hevolves := forall_devices_of_step
      (fun n d => (w.devices n).pool.state.Evolves d.pool.state) h
      (fun n => (Bridge.Works.refl _).evolves) (fun n d sent hd => hd.evolves) p.source
    exact ⟨i, hevolves.has hi fun s s' hs he => hs.evolves he⟩
  cases worldStep_of_step h with
  | elsewhere q hq =>
    rcases List.mem_append.mp hp with hold | hnew
    · exact hw p hold hforeign hangup hhangup hacc
    · rw [List.mem_singleton.mp hnew, hq] at hforeign
      cases hforeign
  | device n d sent hd =>
    have hp' := hp
    rcases List.mem_append.mp hp' with hold | hnew
    · exact hw p hold hforeign hangup hhangup hacc
    cases hd with
    | runs place choice t o ht hstep =>
      obtain ⟨hsource, hsend⟩ := mem_packets hnew
      rw [hsource]
      exact Task.accepted_of_step hstep ((hsound n).task t (Pool.mem_tasks_of_at ht)) hsend hhangup
        hacc
    | receives | getsMail | starts => cases hnew

def Accepted (message : DecodedCallMessage) : Prop :=
  message.messageType = .hangup ∧ message.hangupType = .accepted

instance (message : DecodedCallMessage) : Decidable (Accepted message) :=
  inferInstanceAs (Decidable (_ ∧ _))

def Session.Receives (evt : CallEvent) (message : DecodedCallMessage) (s : Session) : Prop :=
  s.incoming = true ∧ s.signalID = message.id ∧ s.peer.uuid = evt.info.sender

instance (evt : CallEvent) (message : DecodedCallMessage) (s : Session) :
    Decidable (s.Receives evt message) :=
  inferInstanceAs (Decidable (_ ∧ _))

-- A call of end because of a hangup that says that the device itself has accepted the call.
def Ending.ByOwnAcceptance (n : Node) (call : Ending) : Prop :=
  ∃ evt message, call.message = some evt ∧ evt.message = some message ∧ Accepted message ∧
    message.hangupDeviceID = n.device

-- Whenever a device handles a hangup that names it as the one that accepted, the incoming session of
-- that call is no longer active there.
def winnerIsDone (w : World) : Action → Bool
  | .run n place _ =>
    match (w.devices n).pool.at? place with
    | some (.handleSignalCall evt) =>
      evt.message.all fun message =>
        (w.devices n).pool.state.activeSession.all fun (_, s) =>
          ¬ (Accepted message ∧ message.hangupDeviceID = n.device ∧ s.Receives evt message)
    | _ => true
  | _ => true

theorem handleRemoteEnd_accepted (evt : CallEvent) (hacc : Accepted message)
    (hact : b.activeSession = some (i, s)) :
    handleRemoteEnd b evt message =
      if s.Receives evt message then some (i, ⟨.answeredElsewhere, false, some evt⟩) else none := by
  obtain ⟨htype, hhangup⟩ := hacc
  simp only [handleRemoteEnd, hact, htype, hhangup, Session.Receives]
  by_cases hid : s.signalID = message.id
  · by_cases hpeer : s.peer.uuid = evt.info.sender
    · by_cases hin : s.incoming = true <;> simp [hpeer, hin]
    · simp [hpeer]
  · simp [hid]

theorem allows_of_winnerIsDone {place : Place} {t : Task} (hguard : winnerIsDone w (.run n place choice) = true)
    (ht : (w.devices n).pool.at? place = some t) :
    Allows (fun call => ¬ call.ByOwnAcceptance n) (w.devices n).pool.state t := by
  rintro evt message i call rfl hmsg hend ⟨evt', message', hevt, hmsg', hacc, hdev⟩
  obtain ⟨hcall, s, hact, -⟩ := handleRemoteEnd_eq_some hend
  obtain rfl := Option.some.inj (hcall.symm.trans hevt)
  obtain rfl := Option.some.inj (hmsg.symm.trans hmsg')
  have hother : ¬ s.Receives evt message := by
    intro hreceives
    simp only [winnerIsDone, ht, hmsg, hact, Option.all_some, decide_eq_true_eq] at hguard
    exact hguard ⟨hacc, hdev, hreceives⟩
  rw [handleRemoteEnd_accepted evt hacc hact, if_neg hother] at hend
  cases hend

theorem sound_of_run {labels : List Action} (h : Run (Step codec) .initial labels w) :
    ∀ n, (w.devices n).Sound (fun _ => True) ∧ (w.devices n).Ends := by
  refine h.invariant (I := fun w => ∀ n, (w.devices n).Sound (fun _ => True) ∧ (w.devices n).Ends) ?_ ?_
  · intro w a w' hw hstep
    refine forall_devices_of_step (fun _ d => d.Sound (fun _ => True) ∧ d.Ends) hstep hw ?_
    intro n d sent hd
    refine ⟨hd.sound (fun _ _ => trivial) (hw n).1 ?_, hd.ends (hw n).2⟩
    exact fun _ _ _ _ _ _ _ _ _ _ _ _ => trivial
  · exact fun n => ⟨sound_initial, fun i => .inl fun s hs => nomatch hs⟩

theorem endStarted_of_accepted {evt : CallEvent} (hsound : (w.devices n).Sound allowed)
    (hfore : (w.devices n).pool.foreground = some (.handleSignalCall evt))
    (hmsg : evt.message = some message) (hacc : Accepted message)
    (hs : (w.devices n).pool.state.sessions[i]? = some s) (hreceives : s.Receives evt message)
    (hstep : Step codec w (.run n .foreground choice) w') : (w'.devices n).EndStarted i := by
  simp only [Step, World.step, Option.bind_eq_bind, Option.bind_eq_some_iff, Option.pure_def,
    Option.some.injEq] at hstep
  obtain ⟨t, ht, o, ho, rfl⟩ := hstep
  have hat := Option.some.inj (ht.symm.trans hfore)
  subst hat
  simp only [World.setDevice]
  obtain rfl := Option.some.inj ho
  have hdev : (w.devices n).pool.Owed (·.Has i (·.endDone = true)) (Task.IsEnding i) ∨
      (w.devices n).pool.state.activeSession = some (i, s) := by
    cases hdone : s.endDone with
    | true => exact .inl (.inl ⟨s, hs, hdone⟩)
    | false => exact .inr (Bridge.activeSession_eq_some.mpr ⟨hsound.state.held i s hs hdone, hs⟩)
  rcases hdev with howed | hact
  · refine howed.resume ht ?_ ?_
    · exact fun hdone => .inl ((Task.evolves ho).has hdone fun s s' hs he => he.endDone hs)
    · rintro ⟨call, place, hcall⟩
      cases hcall
  · have hend := handleRemoteEnd_accepted evt hacc hact
    rw [if_pos hreceives] at hend
    have hnext : Task.ending i ⟨.answeredElsewhere, false, some evt⟩ .once ∈
        (handleSignalCall (w.devices n).pool.state evt).next := by
      simp [handleSignalCall, hmsg, hacc.1, hend, Outcome.next]
    exact .inr ⟨_, Pool.next_mem_tasks_resume ht hnext, _, _, rfl⟩

-- A call from one bridge to an account with two others, one of which answers.
def caller : Node := ⟨UUID.ofByte 1, 1⟩
def winner : Node := ⟨UUID.ofByte 2, 2⟩
def loser : Node := ⟨UUID.ofByte 2, 3⟩

def offerPacket : Packet where
  source := caller
  destination := newACIServiceID winner.aci
  message := signalOfferMessage emptyCodec 7 .audio (some {})

def answerPacket : Packet where
  source := winner
  destination := newACIServiceID caller.aci
  message := signalAnswerMessage emptyCodec 7 1 (some {})

def acceptedPacket : Packet where
  source := caller
  destination := newACIServiceID winner.aci
  message := signalAcceptedMessage 7 2

def delivered (n : Node) (p : Packet) : List Action :=
  [.deliver n p {}, .receive n, .run n .foreground {}]

def placeCall : List Action :=
  .matrix caller ⟨"!caller", some (newACIServiceID winner.aci)⟩
      { type := .invite, callID := "out", partyID := "user", sdp := "offer" } ::
    .run caller (.background 0) { callID := 7, mxParty := "bridge" } ::
      List.replicate 8 (.run caller (.background 0) {})

def ringAt (n : Node) : List Action :=
  delivered n offerPacket ++
    .run n (.background 0) {} :: .run n (.background 0) { portal := some "!callee" } ::
      .run n (.background 0) { mxCallID := "in", mxParty := "bridge" } ::
        List.replicate 5 (.run n (.background 0) {})

def answerAtWinner : List Action :=
  .matrix winner ⟨"!callee", some (newACIServiceID caller.aci)⟩
      { type := .answer, callID := "in", partyID := "user", sdp := "answer" } ::
    List.replicate 10 (.run winner (.background 1) {})

def takeAnswer : List Action :=
  delivered caller answerPacket ++ List.replicate 6 (.run caller .foreground {})

def acceptedMessage : DecodedCallMessage where
  id := 7
  messageType := .hangup
  destinationDeviceID := 0
  hangupType := .accepted
  hangupDeviceID := 2

def acceptedEvent : CallEvent where
  info := messageInfo acceptedPacket {}
  timestamp := 0
  isRinging := false
  message := some acceptedMessage

-- Where the winner is done when the hangup that names it arrives, a broadcast hangup ends the session
-- of the call on every other device that handles it, and never on the one it names.
theorem accepted_hangup_ends_only_other_devices (codec : CallCodec) {labels : List Action} {w : World}
    (h : Run (Guarded (fun w a => winnerIsDone w a = true) (Step codec)) .initial labels w) :
    w.Dismissed ∧
      (∀ n i, ¬ (w.devices n).pool.state.Has i fun s => ∃ call, s.ended = some call ∧
        call.ByOwnAcceptance n) ∧
      ∀ n evt message i s, (w.devices n).pool.foreground = some (.handleSignalCall evt) →
        evt.message = some message → Accepted message → message.hangupDeviceID ≠ n.device →
        (w.devices n).pool.state.sessions[i]? = some s → s.Receives evt message →
        ∀ choice later u, Run (Step codec) w (.run n .foreground choice :: later) u →
          (u.devices n).Finishing codec i := by
  have hreach := h.mono fun _ _ _ hstep => hstep.2
  have hsafe : w.Dismissed ∧ ∀ n, (w.devices n).Sound fun call => ¬ call.ByOwnAcceptance n := by
    refine h.invariant (I := fun w => w.Dismissed ∧ ∀ n, (w.devices n).Sound fun call =>
      ¬ call.ByOwnAcceptance n) ?_ ⟨fun p hp => (nomatch hp), fun n => sound_initial⟩
    rintro w a w' ⟨hdismissed, hsound⟩ ⟨hguard, hstep⟩
    refine ⟨?_, ?_⟩
    · exact dismissed_step hstep hsound hdismissed
    · refine forall_devices_of_step (fun n d => d.Sound fun call => ¬ call.ByOwnAcceptance n) hstep hsound ?_
      intro n d sent hd
      refine hd.sound ?_ (hsound n) ?_
      · rintro call hnone ⟨evt, -, hsome, -⟩
        rw [hnone] at hsome
        cases hsome
      · rintro place choice t rfl ht
        exact allows_of_winnerIsDone hguard ht
  refine ⟨hsafe.1, ?_, ?_⟩
  · rintro n i ⟨s, hs, call, hcall, hown⟩
    exact (hsafe.2 n).state.ended i s call hs hcall hown
  · intro n evt message i s hfore hmsg hacc _ hs hreceives choice later u hrun
    obtain ⟨w', hstep, hlater⟩ := hrun.cons_inv
    have hstarted := endStarted_of_accepted (sound_of_run hreach n).1 hfore hmsg hacc hs
      hreceives hstep
    have hstays : (u.devices n).EndStarted i := by
      refine hlater.invariant (I := fun w => (w.devices n).EndStarted i) ?_ hstarted
      intro w a w' hw hstep
      refine forall_devices_of_step (fun m d => m = n → d.EndStarted i) hstep ?_ ?_ n rfl
      · exact fun m hm => hm ▸ hw
      · rintro m d sent hd rfl
        exact hd.endStarted hw
    obtain ⟨hsound, hends⟩ := sound_of_run (hreach.trans hrun) n
    exact hstays.finishing hsound hends

theorem accepted_hangup_ends_only_other_devices_ringing :
    ∃ labels w u, Run (Guarded (fun w a => winnerIsDone w a = true) (Step emptyCodec)) .initial labels w ∧
      acceptedPacket ∈ w.network ∧ w.Dismissed ∧
      (w.devices loser).pool.state.Has 0 (fun s => s.ended = none) ∧
      Step emptyCodec w (.run loser .foreground {}) u ∧ (u.devices loser).Finishing emptyCodec 0 := by
  have hcheck : (runThrough winnerIsDone (World.step emptyCodec) .initial
      (placeCall ++ ringAt winner ++ ringAt loser ++ answerAtWinner ++ takeAnswer ++
        [.deliver loser acceptedPacket {}, .receive loser])).any (fun w => acceptedPacket ∈ w.network ∧
      (w.devices loser).pool.foreground = some (.handleSignalCall acceptedEvent) ∧
      (w.devices loser).pool.state.Has 0 (fun s => s.Receives acceptedEvent acceptedMessage ∧ s.ended = none) ∧
      (w.step emptyCodec (.run loser .foreground {})).isSome) = true := by
    decide +kernel
  obtain ⟨w, hrun, hpacket, hfore, ⟨s, hs, hreceives, hopen⟩, hstep⟩ := exists_run hcheck
  obtain ⟨u, hu⟩ := Option.isSome_iff_exists.mp hstep
  obtain ⟨hdismissed, -, hothers⟩ := accepted_hangup_ends_only_other_devices emptyCodec hrun
  refine ⟨_, w, u, hrun, hpacket, hdismissed, ⟨s, hs, hopen⟩, hu, ?_⟩
  exact hothers loser acceptedEvent acceptedMessage 0 s hfore rfl ⟨rfl, rfl⟩ (by decide) hs hreceives
    {} [] u (.single hu)

-- handleRemoteEnd does not compare the device that the hangup names with its own.
theorem accepted_hangup_ends_winner :
    ∃ labels w, Run (Step emptyCodec) .initial labels w ∧ acceptedPacket ∈ w.network ∧
      (w.devices caller).pool.state.Has 0
        (Session.TookAnswer ⟨7, .accepted, winner.device⟩ (newACIServiceID winner.aci)) ∧
      (w.devices winner).pool.state.Has 0 fun s => ∃ call, s.ended = some call ∧
        call.ByOwnAcceptance winner := by
  have hcheck : (runThrough (fun _ _ => true) (World.step emptyCodec) .initial
      (placeCall ++ ringAt winner ++ answerAtWinner ++ takeAnswer ++ delivered winner acceptedPacket ++
        [.run winner (.background 3) {}])).any (fun w => acceptedPacket ∈ w.network ∧
      (w.devices caller).pool.state.Has 0 (fun s => s.incoming = false ∧ s.answering = true ∧ s.signalID = 7 ∧
        s.peer = newACIServiceID winner.aci ∧ s.sourceDevice = winner.device) ∧
      (w.devices winner).pool.state.Has 0 fun s =>
        s.ended = some ⟨.answeredElsewhere, false, some acceptedEvent⟩) = true := by
    decide +kernel
  obtain ⟨w, hrun, hpacket, htook, s, hs, hended⟩ := exists_free_run hcheck
  refine ⟨_, w, hrun, hpacket, htook, s, hs, _, hended, ?_⟩
  exact ⟨acceptedEvent, acceptedMessage, rfl, rfl, ⟨rfl, rfl⟩, rfl⟩

end MautrixSignal.Calls
