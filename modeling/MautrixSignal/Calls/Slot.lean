import MautrixSignal.Calls.Accepted

namespace MautrixSignal.Calls

open Lib

variable {codec : CallCodec} {choice : Choice} {b b' : Bridge} {o : CallOutcome} {t u : Task} {n : Node}
  {d d' : Device} {w w' : World} {a : Action} {sent : List Packet}

def OtherCall (peer : ServiceID) (callID : UInt64) (s : Session) : Prop :=
  s.signalID ≠ callID ∨ s.peer ≠ peer

instance (peer : ServiceID) (callID : UInt64) (s : Session) : Decidable (OtherCall peer callID s) :=
  inferInstanceAs (Decidable (_ ∨ _))

theorem Task.Changes.active {i : Nat} (h : t.Changes b b') (hi : b.active = some i) :
    b'.active = some i ∨ ∃ call, t = .ending i call .clearActive := by
  by_cases hend : ∃ j call place, t = .ending j call place
  · obtain ⟨j, call, place, rfl⟩ := hend
    cases h with
    | rests | ends | cancels => exact .inl hi
    | makes ht => exact nomatch ht
    | closes => exact .inl ((Bridge.works_closeLegs b _ _).active.trans hi)
    | clears =>
      by_cases hji : j = i
      · exact .inr ⟨call, hji ▸ rfl⟩
      · refine .inl ?_
        change (if b.active = some j then none else b.active) = some i
        rw [if_neg (by rw [hi]; exact fun heq => hji (Option.some.inj heq).symm), hi]
  · push Not at hend
    rcases h.works hend with hworks | ⟨session, hfree, -, -⟩
    · exact .inl (hworks.active.trans hi)
    · exact nomatch hfree.symm.trans hi

theorem active_of_worldStep {i : Nat} (h : Step codec w a w') (hi : (w.devices n).pool.state.active = some i)
    (hclear : (w'.devices n).pool.state.active ≠ some i) :
    ∃ place choice call, a = .run n place choice ∧
      (w.devices n).pool.at? place = some (.ending i call .clearActive) := by
  cases worldStep_of_step h with
  | elsewhere p _ => exact absurd hi hclear
  | device m d sent hd =>
    simp only [World.setDevice] at hclear
    split at hclear
    · rename_i hnm
      subst hnm
      cases hd with
      | runs place choice t o ht hstep =>
        simp only [Pool.state_resume] at hclear
        rcases (Task.changes hstep).active hi with hstays | ⟨call, rfl⟩
        · exact absurd hstays hclear
        · exact ⟨place, choice, call, rfl, ht⟩
      | receives | getsMail | starts => exact absurd hi hclear
    · exact absurd hi hclear

theorem Task.busy_of_step {send : ServiceID × CallMessage} {callID : UInt64}
    (h : t.step codec choice b = some o) (hsend : send ∈ o.sends) (hbusy : send.2.busy = some callID) :
    t = .sendBusy send.1 callID := by
  cases Task.sends h hsend with
  | busy =>
    cases hbusy
    rfl
  | accepted | offer | answer | ice | hangup => cases hbusy

-- When startIncoming looks at the slot again, it does not find the session of the very call it is about.
def secondLookFindsOther (w : World) : Action → Bool
  | .run n place _ =>
    match (w.devices n).pool.at? place with
    | some (.startIncoming evt (.claim _)) =>
      evt.message.all fun message => (w.devices n).pool.state.activeSession.all fun (_, s) =>
        OtherCall (newACIServiceID evt.info.sender) message.id s
    | _ => true
  | _ => true

def Task.isSendBusy : Task → Bool
  | .sendBusy _ _ => true
  | _ => false

-- A session that turned a call away does not leave the slot before Busy has been sent for that call.
def heldUntilBusySent (w : World) : Action → Bool
  | .run n place _ =>
    match (w.devices n).pool.at? place with
    | some (.ending i _ .clearActive) =>
      (w.devices n).pool.state.active ≠ some i || (w.devices n).pool.tasks.all fun t => !t.isSendBusy
    | _ => true
  | _ => true

def busyInTime (w : World) (a : Action) : Bool := secondLookFindsOther w a && heldUntilBusySent w a

def Task.TurnsAway (b : Bridge) : Task → Prop
  | .sendBusy peer callID => ∃ i s, b.activeSession = some (i, s) ∧ OtherCall peer callID s
  | _ => True

theorem busy_of_next {peer : ServiceID} {callID : UInt64} (hb : b.Inv fun _ => True)
    (hsecond : ∀ evt portal message i s, t = .startIncoming evt (.claim portal) → evt.message = some message →
      b.activeSession = some (i, s) → OtherCall (newACIServiceID evt.info.sender) message.id s)
    (h : t.step codec choice b = some o) (hu : Task.sendBusy peer callID ∈ o.next) :
    (Task.sendBusy peer callID).TurnsAway b := by
  cases Task.leads h hu with
  | busy =>
    rename_i evt step
    obtain ⟨message, hmsg, rfl⟩ := Option.map_eq_some_iff.mp h
    cases step with
    | check =>
      simp only [startIncoming] at hu
      split at hu
      · rename_i i s hact
        split at hu
        · rename_i hother
          obtain ⟨rfl, rfl⟩ : peer = newACIServiceID evt.info.sender ∧ callID = message.id := by
            simpa [Outcome.next] using hu
          exact ⟨i, s, hact, hother⟩
        · simp [Outcome.next] at hu
      · simp [Outcome.next] at hu
    | lookup =>
      simp only [startIncoming] at hu
      split at hu
      · simp [Outcome.next] at hu
      · split at hu
        · simp [Outcome.next] at hu
        · split at hu <;> simp [Outcome.next] at hu
    | claim portal =>
      simp only [startIncoming] at hu
      split at hu
      · rename_i i hi
        obtain ⟨rfl, rfl⟩ : peer = newACIServiceID evt.info.sender ∧ callID = message.id := by
          simpa [Outcome.next] using hu
        obtain ⟨s, hs, -⟩ := hb.active i hi
        have hact := Bridge.activeSession_eq_some.mpr ⟨hi, hs⟩
        exact ⟨i, s, hact, hsecond evt portal message i s rfl hmsg hact⟩
      · simp [Outcome.next] at hu

theorem Task.TurnsAway.changes (h : u.TurnsAway b) (hstep : t.step codec choice b = some o)
    (hheld : ∀ i call, t = .ending i call .clearActive → b.active = some i → u.isSendBusy = false) :
    u.TurnsAway o.state := by
  cases u with
  | sendBusy peer callID =>
    obtain ⟨i, s, hact, hother⟩ := h
    obtain ⟨hi, hs⟩ := Bridge.activeSession_eq_some.mp hact
    obtain ⟨s', hs', hevolves⟩ := Task.evolves hstep i s hs
    rcases (Task.changes hstep).active hi with hstays | ⟨call, rfl⟩
    · refine ⟨i, s', Bridge.activeSession_eq_some.mpr ⟨hstays, hs'⟩, ?_⟩
      rw [OtherCall, hevolves.signalID, hevolves.peer]
      exact hother
    · exact nomatch hheld i call rfl hi
  | _ => trivial

theorem turnsAway_of_external (h : u.External b) : u.TurnsAway b := by
  cases h <;> trivial

-- The slot still holds another call when Busy is about to be sent.
def Device.TurnsAway (d : Device) : Prop :=
  d.pool.Annotated (fun _ => True) Task.TurnsAway

theorem DeviceStep.turnsAway (h : DeviceStep codec n (w.devices n) a d' sent) (hguard : busyInTime w a = true)
    (hinv : (w.devices n).pool.state.Inv fun _ => True) (hd : (w.devices n).TurnsAway) : d'.TurnsAway := by
  cases h with
  | runs place choice t o ht hstep =>
    obtain ⟨hsecond, hheld⟩ := Bool.and_eq_true_iff.mp hguard
    refine hd.resume ht trivial (fun u hu => ?_) fun u hu hold => hold.changes hstep ?_
    · cases u with
      | sendBusy peer callID =>
        have hbef : (Task.sendBusy peer callID).TurnsAway (w.devices n).pool.state := by
          refine busy_of_next hinv ?_ hstep hu
          rintro evt portal message i s rfl hmsg hact
          simpa [secondLookFindsOther, ht, hmsg, hact] using hsecond
        refine hbef.changes hstep ?_
        rintro i call rfl -
        cases Task.leads hstep hu
      | _ => trivial
    · rintro i call rfl hi
      have hnone : ∀ t ∈ (w.devices n).pool.tasks, t.isSendBusy = false := by
        simpa [heldUntilBusySent, ht, hi] using hheld
      exact hnone u hu
  | receives a evt inbox hidle =>
    refine hd.of_tasks rfl fun u hu => ?_
    rcases (mem_tasks_receive hidle).mp hu with rfl | hold
    · exact .inr trivial
    · exact .inl hold
  | getsMail => exact hd
  | starts a tasks hstarts =>
    refine hd.of_tasks rfl fun u hu => ?_
    exact (mem_tasks_start.mp hu).imp_right fun hnew => turnsAway_of_external (hstarts u hnew)

theorem turnsAway_of_run {labels : List Action}
    (h : Run (Guarded (fun w a => busyInTime w a = true) (Step codec)) .initial labels w) :
    ∀ n, (w.devices n).TurnsAway := by
  induction h with
  | refl => exact fun n => ⟨trivial, fun t ht => nomatch ht⟩
  | snoc hrun hstep ih =>
    have hbef := hrun.mono fun _ _ _ hstep => hstep.2
    exact forall_devices_of_step (fun _ d => d.TurnsAway) hstep.2 ih fun n d sent hd =>
      hd.turnsAway hstep.1 (sound_of_run hbef n).1.state (ih n)

-- One session at a time holds the slot, from its start to its end. Busy is sent for a call only while another one is
-- active, where no offer finds the session of its own call at the second look and no session that turned an offer away
-- leaves the slot before the Busy for it is out.
theorem busy_only_during_another_call (codec : CallCodec) {labels : List Action} {w : World}
    (h : Run (Guarded (fun w a => busyInTime w a = true) (Step codec)) .initial labels w) (n : Node) :
    (∀ i, (w.devices n).pool.state.active = some i ↔
      (w.devices n).pool.state.Has i fun s => s.endDone = false) ∧
    ∀ a w', Step codec w a w' →
      (∀ i, (w.devices n).pool.state.active = some i → (w'.devices n).pool.state.active ≠ some i →
        ∃ place choice call, a = .run n place choice ∧
          (w.devices n).pool.at? place = some (.ending i call .clearActive)) ∧
      ∀ place choice t o, a = .run n place choice → (w.devices n).pool.at? place = some t →
        t.step codec choice (w.devices n).pool.state = some o →
        ∀ send ∈ o.sends, ∀ callID, send.2.busy = some callID →
          ∃ i s, (w.devices n).pool.state.activeSession = some (i, s) ∧ OtherCall send.1 callID s := by
  have hinv := (sound_of_run (h.mono fun _ _ _ hstep => hstep.2) n).1.state
  refine ⟨fun i => ⟨hinv.active i, ?_⟩, fun a w' hworld => ⟨fun i => active_of_worldStep hworld, ?_⟩⟩
  · rintro ⟨s, hs, hopen⟩
    exact hinv.held i s hs hopen
  · rintro place choice t o rfl ht hstep send hsend callID hbusy
    obtain rfl := Task.busy_of_step hstep hsend hbusy
    exact (turnsAway_of_run h n).task _ (Pool.mem_tasks_of_at ht)

def stranger : Node := ⟨UUID.ofByte 3, 1⟩

def strangerPacket : Packet where
  source := stranger
  destination := newACIServiceID winner.aci
  message := signalOfferMessage emptyCodec 9 .audio (some {})
  foreign := true

def strangerMessage : DecodedCallMessage where
  id := 9
  messageType := .offer
  type := some .audio
  destinationDeviceID := 0
  offer := some ⟨some {}⟩

def strangerEvent : CallEvent where
  info := messageInfo strangerPacket {}
  timestamp := 0
  isRinging := true
  message := some strangerMessage

def busyPacket : Packet where
  source := winner
  destination := newACIServiceID caller.aci
  message := signalBusyMessage 7

def ringTwice : List Action :=
  delivered winner offerPacket ++ delivered winner offerPacket ++
    List.replicate 2 (.run winner (.background 0) {}) ++
      List.replicate 2 (.run winner (.background 0) { portal := some "!callee" }) ++
        [.run winner (.background 0) { mxCallID := "in", mxParty := "bridge" },
          .run winner (.background 0) {}, .run winner (.background 1) {}]

def strangerBusy : Packet where
  source := winner
  destination := newACIServiceID stranger.aci
  message := signalBusyMessage 9

def strangerCalls : List Action :=
  placeCall ++ ringAt winner ++ .sendForeign strangerPacket :: delivered winner strangerPacket ++
    [.run winner (.background 1) {}]

theorem busy_only_during_another_call_stranger :
    ∃ labels w w', Run (Guarded (fun w a => busyInTime w a = true) (Step emptyCodec)) .initial labels w ∧
      Step emptyCodec w (.run winner (.background 1) {}) w' ∧ strangerBusy ∈ w'.network ∧
      ∃ i s, (w.devices winner).pool.state.activeSession = some (i, s) ∧
        OtherCall (newACIServiceID stranger.aci) 9 s := by
  have hcheck : (runThrough busyInTime (World.step emptyCodec) .initial strangerCalls).any (fun w =>
      (w.devices winner).pool.at? (.background 1) = some (.sendBusy (newACIServiceID stranger.aci) 9) ∧
      ∃ w', w.step emptyCodec (.run winner (.background 1) {}) = some w' ∧ strangerBusy ∈ w'.network) = true := by
    decide +kernel
  obtain ⟨w, hrun, ht, w', hw', hbusy⟩ := exists_run hcheck
  obtain ⟨-, hsteps⟩ := busy_only_during_another_call emptyCodec hrun winner
  obtain ⟨-, hbusies⟩ := hsteps _ w' hw'
  exact ⟨_, w, w', hrun, hw', hbusy, hbusies _ _ _ _ rfl ht rfl _ (List.mem_singleton_self _) 9 rfl⟩

-- Busy is sent for the call that rings, and, after a second look that did find another call, when that one is over.
theorem busy_sent_for_active_call :
    (∃ labels w, Run (Step emptyCodec) .initial labels w ∧ busyPacket ∈ w.network ∧
      (w.devices winner).pool.state.activeSession.isSome ∧
      ∀ s ∈ (w.devices winner).pool.state.sessions, s.peer = busyPacket.destination ∧ s.signalID = 7) ∧
    ∃ labels w w', Run (Guarded (fun w a => secondLookFindsOther w a = true) (Step emptyCodec)) .initial labels w ∧
      (w.devices winner).pool.state.active = none ∧ strangerBusy ∉ w.network ∧
      Step emptyCodec w (.run winner (.background 1) {}) w' ∧ strangerBusy ∈ w'.network := by
  constructor
  · exact ⟨placeCall ++ ringTwice, exists_free_run (by decide +kernel)⟩
  · have hcheck : (runThrough secondLookFindsOther (World.step emptyCodec) .initial
        (strangerCalls ++ .stop winner :: List.replicate 5 (.run winner (.background 2) {}))).any (fun w =>
        (w.devices winner).pool.state.active = none ∧ strangerBusy ∉ w.network ∧
        ∃ w', w.step emptyCodec (.run winner (.background 1) {}) = some w' ∧ strangerBusy ∈ w'.network) = true := by
      decide +kernel
    obtain ⟨w, hrun, hnone, hnot, w', hw', hbusy⟩ := exists_run hcheck
    exact ⟨_, w, w', hrun, hnone, hnot, hw', hbusy⟩

end MautrixSignal.Calls
