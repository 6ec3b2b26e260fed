import MautrixSignal.Calls.Accepted
import MautrixSignal.Calls.Candidates

namespace MautrixSignal.Calls

open Lib Calls.Task

variable {codec : CallCodec} {choice : Choice} {b b' : Bridge} {o : CallOutcome} {t u : Task}
  {guard : Guard} {p p' : Pool Bridge Task} {new journal : List Entry} {call : CallKey} {i : Nat}
  {s : Session} {evt : CallEvent}

-- An offer that startIncoming is started for, and the messages of the caller after it.
def offersCall (call : CallKey) (evt : CallEvent) : Bool :=
  callOf evt = some call && evt.message.any isBridgeableOffer

def cancelsCall (evt : CallEvent) : Bool :=
  evt.message.any fun message => message.messageType = .hangup || message.messageType = .busy

def followsOffer (call : CallKey) (evt : CallEvent) : Bool :=
  callOf evt = some call &&
    (cancelsCall evt || evt.message.any fun message => message.messageType = .iceUpdate)

def addMessage (call : CallKey) (messages : List (Bridge × CallEvent)) : Entry → List (Bridge × CallEvent)
  | .handled b evt =>
    if offersCall call evt then [] else if followsOffer call evt then messages ++ [(b, evt)] else messages
  | _ => messages

def messagesSince (call : CallKey) (journal : List Entry) : List (Bridge × CallEvent) :=
  journal.foldl (addMessage call) []

def ringAfter (i : Nat) (rings : Bool) : Entry → Bool
  | .handled _ _ => rings
  | .invite j => rings || j = i
  | .hangup j => rings && j ≠ i

def ringing (i : Nat) (journal : List Entry) : Bool :=
  journal.foldl (ringAfter i) false

def Task.takesOn : Task → Option CallKey
  | .startIncoming evt _ => callOf evt
  | _ => none

-- A candidate or a hangup is not handled while startIncoming is still at work on the offer of its call, and
-- the invite does not come after the hangup in Matrix.
def offerIsTaken : Guard := fun p t choice =>
  match t with
  | .handleSignalCall evt => p.tasks.all fun u => u.takesOn.all fun call => !followsOffer call evt
  | .ringMatrix i .sendInvite => !choice.ok || p.state.sessions[i]?.all fun s => !s.cancelled
  | _ => true

theorem Task.takesOn_of_next (h : t.step codec choice b = some o) (hu : u ∈ o.next) (hcall : u.takesOn = some call) :
    (∃ evt, t = .handleSignalCall evt ∧ offersCall call evt = true) ∨ t.takesOn = some call := by
  cases leads h hu with
  | offer hmsg hoffer =>
    have hkey : callOf _ = some call := hcall
    exact .inl ⟨_, rfl, by simp [offersCall, hkey, hmsg, hoffer]⟩
  | lookup | claim => exact .inr hcall
  | _ => cases hcall

theorem Task.Changes.incoming_session (h : t.Changes b b') (hs : b'.sessions[i]? = some s) (hin : s.incoming = true) :
    t.takesOn = some s.call ∨ ∃ s₀, b.sessions[i]? = some s₀ ∧ s₀.incoming = true ∧ s₀.call = s.call := by
  cases hs₀ : b.sessions[i]? with
  | none =>
    obtain ⟨-, hfalse | ⟨evt, message, portal, choice, hmsg, rfl, rfl⟩⟩ := h.new_session hs hs₀
    · exact nomatch hfalse.symm.trans hin
    · simp [takesOn, callOf, hmsg, Session.call, incomingSession, newACIServiceID]
  | some s₀ =>
    obtain ⟨s', hs', he⟩ := h.evolves i s₀ hs₀
    obtain rfl := Option.some.inj (hs.symm.trans hs')
    refine .inr ⟨s₀, rfl, he.incoming.symm.trans hin, ?_⟩
    simp [Session.call, he.peer, he.signalID]

theorem PoolStep.endStarted (h : PoolStep codec guard p p' new)
    (hp : p.Owed (·.Has i (·.endDone = true)) (IsEnding i)) :
    p'.Owed (·.Has i (·.endDone = true)) (IsEnding i) := by
  cases h with
  | runs place choice t o ht hstep _ =>
    refine hp.resume ht ?_ ?_
    · intro hdone
      exact .inl ((evolves hstep).has hdone fun s s' hs he => he.endDone hs)
    · rintro ⟨call, place, rfl⟩
      refine (ending_goesOn hstep).imp_right ?_
      rintro ⟨u, hu, call', place', rfl, -⟩
      exact ⟨_, hu, call', place', rfl⟩
  | gets p' tasks hstate hperm _ =>
    exact hp.of_tasks hstate fun u hu => hperm.mem_iff.mpr (List.mem_append_right _ hu)

theorem handleRemoteEnd_incoming {message : DecodedCallMessage} (hact : b.activeSession = some (i, s))
    (hin : s.incoming = true) (hid : s.signalID = message.id) (hpeer : s.peer.uuid = evt.info.sender) :
    ∃ call, handleRemoteEnd b evt message = some (i, call) := by
  have hmatch : ¬ (s.signalID ≠ message.id ∨ s.peer.uuid ≠ evt.info.sender) := by simp [hid, hpeer]
  simp only [handleRemoteEnd, hact, if_neg hmatch]
  split
  · exact ⟨_, rfl⟩
  · split
    · exact ⟨_, rfl⟩
    · rw [if_neg fun h => h.1 hin]
      exact ⟨_, rfl⟩

theorem ending_of_cancels (hact : b.activeSession = some (i, s)) (hin : s.incoming = true)
    (hcall : callOf evt = some s.call) (hcancels : cancelsCall evt = true) :
    ∃ u ∈ (handleSignalCall b evt).next, u.IsEnding i := by
  obtain ⟨message, hmsg, hkey⟩ := Option.map_eq_some_iff.mp hcall
  obtain ⟨hsnd, hid⟩ := Prod.mk.inj hkey
  obtain ⟨call, hend⟩ := handleRemoteEnd_incoming hact hin hid.symm hsnd.symm
  simp only [cancelsCall, hmsg, Option.any_some, Bool.or_eq_true, decide_eq_true_eq] at hcancels
  refine ⟨.ending i call .once, ?_, call, .once, rfl⟩
  rcases hcancels with htype | htype <;> simp [handleSignalCall, hmsg, htype, hend, Outcome.next]

-- A message of a call found its session in the slot, or over, and a hangup has the end of it started. Nobody
-- is about to take the call on again.
structure Heard (p : Pool Bridge Task) (call : CallKey) (m : Bridge × CallEvent) : Prop where
  tasks : ∀ u ∈ p.tasks, u.takesOn ≠ some call
  found : ∀ (i : Nat) s, p.state.sessions[i]? = some s → s.incoming = true → s.call = call →
    m.1.active = some i ∨ m.1.Has i (·.endDone = true)
  ends : ∀ (i : Nat) s, p.state.sessions[i]? = some s → s.incoming = true → s.call = call →
    cancelsCall m.2 = true → p.Owed (·.Has i (·.endDone = true)) (IsEnding i)

theorem Heard.step {m : Bridge × CallEvent} (hm : Heard p call m) (h : PoolStep codec guard p p' new)
    (hnew : ∀ b evt, .handled b evt ∈ new → offersCall call evt = false) : Heard p' call m := by
  have hends (i : Nat) (hp : p.Owed (·.Has i (·.endDone = true)) (IsEnding i)) := h.endStarted hp
  cases h with
  | runs place choice t o ht hstep _ =>
    have htakes := hm.tasks t (Pool.mem_tasks_of_at ht)
    have hold {i : Nat} {s : Session} (hs : (p.resume o place).state.sessions[i]? = some s)
        (hin : s.incoming = true) (hcall : s.call = call) :
        ∃ s₀, p.state.sessions[i]? = some s₀ ∧ s₀.incoming = true ∧ s₀.call = call := by
      rw [Pool.state_resume] at hs
      rcases (changes hstep).incoming_session hs hin with hnow | ⟨s₀, hs₀, hin₀, hcall₀⟩
      · exact absurd (hnow.trans (congrArg some hcall)) htakes
      · exact ⟨s₀, hs₀, hin₀, hcall₀.trans hcall⟩
    refine ⟨fun u hu hcall => ?_, fun i s hs hin hcall => ?_, fun i s hs hin hcall hcancels => ?_⟩
    · rcases Pool.mem_tasks_resume ht hu with hnext | hrest
      · rcases takesOn_of_next hstep hnext hcall with ⟨evt, rfl, hoffer⟩ | hnow
        · exact nomatch hoffer.symm.trans (hnew _ evt List.mem_cons_self)
        · exact htakes hnow
      · exact hm.tasks u hrest hcall
    · obtain ⟨s₀, hs₀, hin₀, hcall₀⟩ := hold hs hin hcall
      exact hm.found i s₀ hs₀ hin₀ hcall₀
    · obtain ⟨s₀, hs₀, hin₀, hcall₀⟩ := hold hs hin hcall
      exact hends i (hm.ends i s₀ hs₀ hin₀ hcall₀ hcancels)
  | gets p' tasks hstate hperm htasks =>
    refine ⟨fun u hu hcall => ?_, hstate ▸ hm.found, fun i s hs hin hcall hcancels => ?_⟩
    · rcases List.mem_append.mp (hperm.mem_iff.mp hu) with hstarted | hrest
      · rcases htasks u hstarted with ⟨evt, rfl⟩ | hexternal
        · cases hcall
        · cases hexternal <;> cases hcall
      · exact hm.tasks u hrest hcall
    · exact hends i (hm.ends i s (hstate ▸ hs) hin hcall hcancels)

theorem heard_handleSignalCall {place : Place} (hsound : SoundPool p)
    (ht : p.at? place = some (.handleSignalCall evt)) (hfollows : followsOffer call evt = true)
    (hoffer : offersCall call evt = false) (hguard : offerIsTaken p (.handleSignalCall evt) choice = true) :
    Heard (p.resume (handleSignalCall p.state evt) place) call (p.state, evt) := by
  have hstep : (Task.handleSignalCall evt).step emptyCodec choice p.state =
      some (handleSignalCall p.state evt) := rfl
  have hkey : callOf evt = some call := by
    simp only [followsOffer, Bool.and_eq_true, decide_eq_true_eq] at hfollows
    exact hfollows.1
  refine ⟨fun u hu hcall => ?_, fun i s hs hin hcall => ?_, fun i s hs hin hcall hcancels => ?_⟩
  · rcases Pool.mem_tasks_resume ht hu with hnext | hrest
    · rcases takesOn_of_next hstep hnext hcall with ⟨evt', heq, hoffer'⟩ | hnow
      · cases heq
        exact nomatch hoffer.symm.trans hoffer'
      · cases hnow
    · have hu := List.all_eq_true.mp hguard u hrest
      simp [hcall, hfollows] at hu
  · rw [Pool.state_resume, state_handleSignalCall] at hs
    cases hdone : s.endDone with
    | true => exact .inr ⟨s, hs, hdone⟩
    | false => exact .inl (hsound.state.held i s hs hdone)
  · rw [Pool.state_resume, state_handleSignalCall] at hs
    cases hdone : s.endDone with
    | true =>
      refine .inl ⟨s, ?_, hdone⟩
      rw [Pool.state_resume, state_handleSignalCall]
      exact hs
    | false =>
      have hact := Bridge.activeSession_eq_some.mpr ⟨hsound.state.held i s hs hdone, hs⟩
      obtain ⟨u, hu, hending⟩ := ending_of_cancels hact hin (hcall ▸ hkey) hcancels
      exact .inr ⟨u, Pool.next_mem_tasks_resume ht hu, hending⟩

theorem messagesSince_append (call : CallKey) (journal new : List Entry) :
    messagesSince call (journal ++ new) = new.foldl (addMessage call) (messagesSince call journal) :=
  List.foldl_append

theorem ringing_append (i : Nat) (journal new : List Entry) :
    ringing i (journal ++ new) = new.foldl (ringAfter i) (ringing i journal) :=
  List.foldl_append

theorem messagesSince_entries (ht : ∀ evt, t ≠ .handleSignalCall evt) (call : CallKey) :
    messagesSince call (journal ++ t.entries b choice) = messagesSince call journal := by
  rw [messagesSince_append]
  unfold entries
  split
  · exact absurd rfl (ht _)
  · split <;> rfl
  · split <;> rfl
  · rfl


def Heeds (p : Pool Bridge Task) (journal : List Entry) : Prop :=
  ∀ call, ∀ m ∈ messagesSince call journal, Heard p call m

theorem PoolStep.heeds (h : PoolStep codec offerIsTaken p p' new) (hsound : SoundPool p)
    (hp : Heeds p journal) : Heeds p' (journal ++ new) := by
  intro call m hm
  have hsteps {m : Bridge × CallEvent} (hold : m ∈ messagesSince call journal)
      (hnew : ∀ b evt, .handled b evt ∈ new → offersCall call evt = false) : Heard p' call m :=
    (hp call m hold).step h hnew
  cases h with
  | gets p' tasks hstate hperm htasks =>
    rw [List.append_nil] at hm
    exact hsteps hm fun _ _ hentry => nomatch hentry
  | runs place choice t o ht hstep hguard =>
    by_cases hcall : ∃ evt, t = .handleSignalCall evt
    · obtain ⟨evt, rfl⟩ := hcall
      cases hstep
      rw [messagesSince_append] at hm
      simp only [entries, List.foldl_cons, addMessage] at hm
      split at hm
      · cases hm
      rename_i hoffer
      have hoffer := Bool.eq_false_iff.mpr hoffer
      have hnew (b : Bridge) (evt' : CallEvent)
          (hentry : .handled b evt' ∈ (Task.handleSignalCall evt).entries p.state choice) :
          offersCall call evt' = false := by
        obtain rfl := Task.handleSignalCall.inj (handled_of_entries hentry).1
        exact hoffer
      split at hm
      · rename_i hfollows
        rcases List.mem_append.mp hm with hold | hnow
        · exact hsteps hold hnew
        · obtain rfl := List.mem_singleton.mp hnow
          exact heard_handleSignalCall hsound ht hfollows hoffer hguard
      · exact hsteps hm hnew
    · push Not at hcall
      rw [messagesSince_entries hcall] at hm
      exact hsteps hm fun b evt hentry => absurd (handled_of_entries hentry).1 (hcall evt)

-- Once the context of a session is done, Matrix does not ring for it, unless it was declined there.
def Hushed (p : Pool Bridge Task) (journal : List Entry) : Prop :=
  ∀ (i : Nat) s, p.state.sessions[i]? = some s → s.cancelled = true →
    ∃ call, s.ended = some call ∧ (call.reason = .localDecline ∨ ringing i journal = false)

theorem ringing_entries (h : ringing i journal = false) (ht : ¬ (t = .ringMatrix i .sendInvite ∧ choice.ok = true)) :
    ringing i (journal ++ t.entries b choice) = false := by
  rw [ringing_append]
  unfold entries
  split
  · exact h
  · rename_i j
    split
    · rename_i hok
      have hji : j ≠ i := fun heq => ht ⟨heq ▸ rfl, hok⟩
      simp [ringAfter, h, hji]
    · exact h
  · split
    · exact h
    · simp [ringAfter, h]
  · exact h

theorem PoolStep.hushed (h : PoolStep codec offerIsTaken p p' new) (hsound : SoundPool p)
    (hp : Hushed p journal) : Hushed p' (journal ++ new) := by
  cases h with
  | gets p' tasks hstate hperm htasks =>
    rw [List.append_nil]
    unfold Hushed
    rw [hstate]
    exact hp
  | runs place choice t o ht hstep hguard =>
    intro i s' hs' hcanc
    rw [Pool.state_resume] at hs'
    have hchanges := changes hstep
    have hended {s : Session} (hs : p.state.sessions[i]? = some s) {call : Ending}
        (hcall : s.ended = some call) : s'.ended = some call := by
      obtain ⟨s'', hs'', he⟩ := hchanges.evolves i s hs
      obtain rfl := Option.some.inj (hs'.symm.trans hs'')
      exact he.ended call hcall
    have hkept {s : Session} (hs : p.state.sessions[i]? = some s) (hold : s.cancelled = true) :
        ∃ call, s'.ended = some call ∧ (call.reason = .localDecline ∨
          ringing i (journal ++ t.entries p.state choice) = false) := by
      obtain ⟨call, hcall, hreason⟩ := hp i s hs hold
      refine ⟨call, hended hs hcall, hreason.imp_right fun hquiet => ringing_entries hquiet ?_⟩
      rintro ⟨rfl, hok⟩
      simp [offerIsTaken, hok, hs, hold] at hguard
    rcases hchanges.has_before ⟨s', hs', hcanc⟩ (fun s s' hw hs' => hw.cancelled.symm.trans hs')
      fun s hnew hs => (nomatch hnew.cancelled.symm.trans hs) with ⟨s, hs, hold⟩ | ⟨s, call, hs, hends⟩
    · exact hkept hs hold
    · rcases hends with ⟨-, hold⟩ | ⟨rfl, -⟩ | ⟨-, hold⟩
      · exact hkept hs hold
      · obtain ⟨-, s₁, hs₁, hfits⟩ := hsound.task _ (Pool.mem_tasks_of_at ht)
        refine ⟨call, hended hs₁ hfits, ?_⟩
        by_cases hreason : call.reason = .localDecline
        · exact .inl hreason
        · exact .inr (by simp [ringing_append, entries, hreason, ringAfter])
      · exact hkept hs hold

-- Where the session of an offer is there before what follows it, no message is lost: candidates end up on
-- the Signal leg, each once, and a hangup ends the session and leaves Matrix quiet.
theorem no_message_lost_after_offer (codec : CallCodec) {labels : List Action} {w : World}
    {journal : List (Node × Entry)}
    (h : Run (Watched codec offerIsTaken) (.initial, []) labels (w, journal)) (n : Node) (i : Nat) (s : Session)
    (hs : (w.devices n).pool.state.sessions[i]? = some s) (hin : s.incoming = true) :
    (∀ m ∈ messagesSince s.call (entriesAt n journal),
      m.1.active = some i ∨ m.1.Has i (·.endDone = true)) ∧
    (∀ leg, s.signalLeg = some leg →
      (∀ t ∈ (w.devices n).pool.tasks, t.candidates i s.sourceDevice = []) →
      ∃ l others, (w.devices n).pool.state.legs[leg]? = some l ∧
        l.candidates.Perm (deliveredTo i s (entriesAt n journal) ++ others) ∧
        (s.sourceDevice ≠ 0 → others = [])) ∧
    ∀ m ∈ messagesSince s.call (entriesAt n journal), cancelsCall m.2 = true →
      (w.devices n).Finishing codec i ∧
      ((∀ t ∈ (w.devices n).pool.tasks, ¬ t.IsEnding i) → s.endDone = true ∧
        ∃ call, s.ended = some call ∧
          (call.reason = .localDecline ∨ ringing i (entriesAt n journal) = false)) := by
  obtain ⟨hsound, htakes, hheeds, hhushed⟩ := forall_pools_of_run
    (fun p journal => SoundPool p ∧ TakesCandidates p journal ∧ Heeds p journal ∧ Hushed p journal)
    ⟨sound_initial, takesCandidates_initial, fun _ _ hm => (nomatch hm), fun _ _ hs => (nomatch hs)⟩
    (fun p journal p' new hp hstep => ⟨hstep.sound hp.1, hstep.takesCandidates hp.1 hp.2.1,
      hstep.heeds hp.1 hp.2.2.1, hstep.hushed hp.1 hp.2.2.2⟩) h n
  refine ⟨fun m hm => (hheeds s.call m hm).found i s hs hin rfl, ?_, ?_⟩
  · exact fun leg hleg hquiet => htakes.candidates_of_leg hs hin hleg hquiet
  · intro m hm hcancels
    have hstarted := (hheeds s.call m hm).ends i s hs hin rfl hcancels
    have hrun := h.of_recorded.mono fun _ _ _ hstep => hstep.2
    obtain ⟨hdev, hends⟩ := sound_of_run hrun n
    refine ⟨Device.EndStarted.finishing hstarted hdev hends, fun hreturned => ?_⟩
    rcases hstarted with ⟨s', hs', hdone⟩ | ⟨t, ht, hending⟩
    · obtain rfl := Option.some.inj (hs.symm.trans hs')
      exact ⟨hdone, hhushed i s hs (hsound.state.done i s hs hdone).2⟩
    · exact absurd hending (hreturned t ht)

def icePacket : Packet where
  source := caller
  destination := newACIServiceID winner.aci
  message := signalICEMessage emptyCodec 7 0 []
  foreign := true

def hangupPacket : Packet where
  source := caller
  destination := newACIServiceID winner.aci
  message := signalHangupMessage 7
  foreign := true

def sentToWinner (packet : Packet) : List Action :=
  .sendForeign packet :: delivered winner packet

def hangUpAnswered : List Action :=
  placeCall ++ ringAt winner ++ sentToWinner icePacket ++ .run winner .foreground {} :: answerAtWinner ++
    sentToWinner hangupPacket ++ List.replicate 5 (.run winner (.background 3) {})

def hangUpEarly : List Action :=
  placeCall ++ delivered winner offerPacket ++ .run winner (.background 0) {} :: sentToWinner hangupPacket ++
    .run winner (.background 0) { portal := some "!callee" } ::
      .run winner (.background 0) { mxCallID := "in", mxParty := "bridge" } ::
        List.replicate 5 (.run winner (.background 0) {})

theorem no_message_lost_after_offer_answered :
    ∃ labels w journal s, Run (Watched emptyCodec offerIsTaken) (.initial, []) labels (w, journal) ∧
      (w.devices winner).pool.state.sessions[0]? = some s ∧ s.incoming = true ∧
      (messagesSince s.call (entriesAt winner journal)).length = 2 ∧
      (∃ leg l, s.signalLeg = some leg ∧ (w.devices winner).pool.state.legs[leg]? = some l ∧
        l.candidates.Perm [[]]) ∧
      s.endDone = true ∧ ringing 0 (entriesAt winner journal) = false := by
  obtain ⟨w, journal, hrun, htasks, s, hs, hin, hleg, hdev, hreason, hlen, ⟨m, hm, hcancels⟩, hdeliv⟩ :
      ∃ w journal, Run (Watched emptyCodec offerIsTaken) (.initial, []) hangUpAnswered (w, journal) ∧
        (w.devices winner).pool.tasks = [.timer 0, .relay 0, .relay 0] ∧
        (w.devices winner).pool.state.Has 0 fun s => s.incoming = true ∧ s.signalLeg = some 1 ∧ s.sourceDevice ≠ 0 ∧
          (∃ call, s.ended = some call ∧ call.reason ≠ .localDecline) ∧
          (messagesSince s.call (entriesAt winner journal)).length = 2 ∧
          (∃ m ∈ messagesSince s.call (entriesAt winner journal), cancelsCall m.2 = true) ∧
          deliveredTo 0 s (entriesAt winner journal) = [[]] := exists_recorded_run (by decide +kernel)
  obtain ⟨-, hcandidates, hhangup⟩ := no_message_lost_after_offer emptyCodec hrun winner 0 s hs hin
  obtain ⟨l, others, hl, hperm, hothers⟩ := hcandidates 1 hleg (by rw [htasks]; simp [candidates])
  obtain ⟨hdone, call, hcall, hquiet⟩ := (hhangup m hm hcancels).2 (by rw [htasks]; simp [IsEnding])
  rw [hothers hdev, hdeliv, List.append_nil] at hperm
  refine ⟨_, w, journal, s, hrun, hs, hin, hlen, ⟨1, l, hleg, hl, hperm⟩, hdone, hquiet.resolve_left ?_⟩
  obtain ⟨call', hcall', hne⟩ := hreason
  rw [Option.some.inj (hcall.symm.trans hcall')]
  exact hne

-- The hangup comes while startIncoming looks up the portal, finds no active session and is dropped.
theorem matrix_left_ringing_after_hangup :
    ∃ labels w journal, Run (Watched emptyCodec fun _ _ _ => true) (.initial, []) labels (w, journal) ∧
      ((w.devices winner).pool.state.Has 0 fun s => s.incoming = true ∧ s.ended = none ∧
        (messagesSince s.call (entriesAt winner journal)).any (fun m => cancelsCall m.2) = true) ∧
      (w.devices winner).pool.tasks = [.timer 0] ∧ ringing 0 (entriesAt winner journal) = true := by
  exact ⟨hangUpEarly, exists_recorded_run (by decide +kernel)⟩

end MautrixSignal.Calls
