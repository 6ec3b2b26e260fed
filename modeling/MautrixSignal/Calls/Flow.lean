import MautrixSignal.Calls.Changes

namespace MautrixSignal.Calls

open Lib List

variable {codec : CallCodec} {choice : Choice} {b b' : Bridge} {o : CallOutcome} {t u : Task}

theorem Task.session_of_step {i : Nat} (h : t.step codec choice b = some o) (ht : t.session = some i) :
    ∃ s, b.sessions[i]? = some s := by
  cases t with
  | handleSignalCall | startIncoming | sendBusy | startOutgoing => cases ht
  | ending j call place =>
    cases ht
    obtain ⟨s, hs, -⟩ := Option.bind_eq_some_iff.mp h
    exact ⟨s, hs⟩
  | _ =>
    cases ht
    obtain ⟨s, hs, -⟩ := Option.map_eq_some_iff.mp h
    exact ⟨s, hs⟩

section Functions

variable {i : Nat} {s : Session} {ok : Bool} {evt : CallEvent} {message : DecodedCallMessage}

theorem findForICE_eq_some (h : findForICE b evt message = some u) : ∃ i s, b.activeSession = some (i, s) ∧
      s.signalID = message.id ∧ s.peer.uuid = evt.info.sender ∧
      message.iceCandidate.bind (·.addedV3) ≠ none ∧ u = .handleRemoteICE i evt := by
  unfold findForICE at h
  split at h
  · cases h
  · rename_i i s hact
    simp only [Option.ite_none_left_eq_some, Option.some.injEq, not_or, not_not] at h
    obtain ⟨⟨hid, hpeer, hsdp⟩, rfl⟩ := h
    exact ⟨i, s, hact, hid, hpeer, hsdp, rfl⟩

theorem findForAnswer_eq_some (h : findForAnswer b evt message = some u) :
    ∃ i s, b.activeSession = some (i, s) ∧ s.incoming = false ∧ u = .handleRemoteAnswer i evt .take := by
  unfold findForAnswer at h
  split at h
  · cases h
  · rename_i i s hact
    simp only [Option.ite_none_left_eq_some, Option.some.injEq, not_or] at h
    exact ⟨i, s, hact, Bool.eq_false_iff.mpr h.1.1, h.2.symm⟩

theorem handleRemoteEnd_eq_some {call : Ending} (h : handleRemoteEnd b evt message = some (i, call)) :
    call.message = some evt ∧ ∃ s, b.activeSession = some (i, s) ∧ s.signalID = message.id ∧
      s.peer.uuid = evt.info.sender := by
  unfold handleRemoteEnd at h
  split at h
  · cases h
  rename_i j s hact
  split at h
  · cases h
  rename_i hmatch
  push Not at hmatch
  have hone {reason : EndReason} (h : some (j, (⟨reason, false, some evt⟩ : Ending)) = some (i, call)) :
      call.message = some evt ∧ ∃ s, b.activeSession = some (i, s) ∧ s.signalID = message.id ∧
        s.peer.uuid = evt.info.sender := by
    obtain ⟨rfl, rfl⟩ := Prod.mk.inj (Option.some.inj h)
    exact ⟨rfl, s, hact, hmatch⟩
  split at h
  · exact hone h
  · split at h
    · exact hone h
    · split at h
      · cases h
      · exact hone h

theorem next_handleSignalCall (hu : u ∈ (handleSignalCall b evt).next) :
    ∃ message, evt.message = some message ∧
      (isBridgeableOffer message = true ∧ u = .startIncoming evt .check ∨
        message.messageType = .iceUpdate ∧ message.parseError = "" ∧ findForICE b evt message = some u ∨
        message.messageType = .answer ∧ findForAnswer b evt message = some u ∨
        (message.messageType = .hangup ∨ message.messageType = .busy) ∧
          ∃ i call, handleRemoteEnd b evt message = some (i, call) ∧ u = .ending i call .once) := by
  unfold handleSignalCall at hu
  split at hu
  · simp [Outcome.next] at hu
  rename_i message hmsg
  refine ⟨message, hmsg, ?_⟩
  have hended (hu : u ∈ (handleRemoteEnd b evt message).toList.map
      fun ended => Task.ending ended.1 ended.2 .once) :
      ∃ i call, handleRemoteEnd b evt message = some (i, call) ∧ u = .ending i call .once := by
    obtain ⟨⟨i, call⟩, hcall, rfl⟩ := mem_map.mp hu
    exact ⟨i, call, Option.mem_toList.mp hcall, rfl⟩
  cases htype : message.messageType with
  | offer =>
    simp only [htype] at hu
    have hmem := hu
    split at hmem
    · rename_i hoffer
      exact .inl ⟨hoffer, mem_singleton.mp hmem⟩
    · cases hmem
  | iceUpdate =>
    simp only [htype] at hu
    have hgoes : (if message.iceCandidate.isSome ∧ message.parseError = "" then
        findForICE b evt message else none) = some u := by simpa [Outcome.next] using hu
    split at hgoes
    · rename_i hparsed
      exact .inr (.inl ⟨rfl, hparsed.2, hgoes⟩)
    · cases hgoes
  | answer =>
    simp only [htype] at hu
    have hgoes : (if (message.answer.bind (·.v4)).isSome ∧ message.parseError = "" then
        findForAnswer b evt message else none) = some u := by simpa [Outcome.next] using hu
    split at hgoes
    · exact .inr (.inr (.inl ⟨rfl, hgoes⟩))
    · cases hgoes
  | hangup =>
    simp only [htype] at hu
    exact .inr (.inr (.inr ⟨.inl rfl, hended hu⟩))
  | busy =>
    simp only [htype] at hu
    exact .inr (.inr (.inr ⟨.inr rfl, hended hu⟩))
  | opaqueMessage =>
    simp only [htype] at hu
    cases hu

theorem leads_handleSignalCall (hu : u ∈ (handleSignalCall b evt).next) : (Task.handleSignalCall evt).Leads u := by
  obtain ⟨message, hmsg, ⟨hoffer, rfl⟩ | ⟨-, -, hice⟩ | ⟨-, hanswer⟩ | ⟨-, i, call, -, rfl⟩⟩ :=
    next_handleSignalCall hu
  · exact .offer hmsg hoffer
  · obtain ⟨i, -, -, -, -, -, rfl⟩ := findForICE_eq_some hice
    exact .ice
  · obtain ⟨i, -, -, -, rfl⟩ := findForAnswer_eq_some hanswer
    exact .answer
  · exact .remoteEnd

theorem state_handleSignalCall (b : Bridge) (evt : CallEvent) : (handleSignalCall b evt).state = b := by
  unfold handleSignalCall
  split
  · rfl
  · split <;> rfl

theorem yields_handleSignalCall : (Task.handleSignalCall evt).Yields codec b (handleSignalCall b evt) where
  changes := by
    rw [state_handleSignalCall]
    exact .rests rfl
  leads _ hu := leads_handleSignalCall hu
  sends send hsend := by
    unfold handleSignalCall at hsend
    split at hsend
    · cases hsend
    · split at hsend <;> cases hsend

theorem yields_stop (h : t.Changes b b') : t.Yields codec b { state := b' } :=
  ⟨h, forall_mem_nil _, forall_mem_nil _⟩

theorem yields_sends {next : Task} {sends : List (ServiceID × CallMessage)} (h : t.Changes b b') (hnext : t.Leads next)
    (hsends : ∀ send ∈ sends, t.Sends codec b send) :
    t.Yields codec b { state := b', goesOn := some next, sends := sends } := by
  refine ⟨h, fun u hu => ?_, hsends⟩
  obtain rfl : u = next := by simpa [Outcome.next] using hu
  exact hnext

theorem yields_goesOn {next : Task} (h : t.Changes b b') (hnext : t.Leads next) :
    t.Yields codec b { state := b', goesOn := some next } :=
  yields_sends h hnext (forall_mem_nil _)

theorem yields_endNow {reason : EndReason} {notify : Bool} (h : t.Changes b b') (ht : t.session = some i) :
    t.Yields codec b (endNow b' i reason notify) :=
  yields_goesOn h (.fails ht rfl)

theorem yields_timer (hmoves : t.movesCandidates = false) (ht : t.session = some i) :
    t.Yields codec b { state := b, starts := [.timer i] } := by
  refine ⟨.rests hmoves, fun u hu => ?_, forall_mem_nil _⟩
  obtain rfl : u = .timer i := by simpa [Outcome.next] using hu
  exact .timer ht

theorem yields_startRelays (hmoves : t.movesCandidates = false) (ht : t.session = some i) :
    t.Yields codec b (startRelays b i s ok) := by
  cases ok with
  | false => exact yields_endNow (.rests hmoves) ht
  | true =>
    refine ⟨.rests hmoves, fun u hu => ?_, forall_mem_nil _⟩
    have hmem := hu
    rw [eq_of_mem_replicate hmem]
    exact .relay ht

theorem yields_handleRemoteICE (hs : b.sessions[i]? = some s) (evt : CallEvent) :
    (Task.handleRemoteICE i evt).Yields codec b (handleRemoteICE b i s evt) := by
  simp only [handleRemoteICE]
  split
  · rename_i hother
    exact yields_stop (.ignores hs hother.1 hother.2)
  rename_i hdev
  split
  · rename_i hleg
    exact yields_stop (.queues hs fun _ => hleg)
  rename_i leg hleg
  split
  · rename_i hout
    exact yields_stop (.queues hs fun hin => nomatch hin.symm.trans hout.1)
  · rename_i hin
    refine yields_stop (.adds hs hleg ?_)
    by_cases hzero : s.sourceDevice = 0
    · exact .inl ⟨Bool.not_eq_false _ |>.mp fun hout => hin ⟨hout, hzero⟩, hzero⟩
    · exact .inr (not_not.mp fun hother => hdev ⟨hzero, hother⟩)

theorem yields_handleRemoteAnswer (hs : b.sessions[i]? = some s) (evt : CallEvent) (place : RemoteAnswerStep) :
    (Task.handleRemoteAnswer i evt place).Yields codec b (handleRemoteAnswer b i s evt ok place) := by
  cases place with
  | take =>
    simp only [handleRemoteAnswer]
    split
    · exact yields_stop (.rests rfl)
    · rename_i hfree
      exact yields_goesOn (.takes hs (Bool.eq_false_iff.mpr fun ha => hfree (.inl ha))) (.remoteAnswer nofun)
  | setRemoteAnswer leg pending =>
    simp only [handleRemoteAnswer]
    split
    · exact yields_goesOn (.rests rfl) (.remoteAnswer nofun)
    · exact yields_endNow (.rests rfl) rfl
  | addPending leg pending => exact yields_goesOn (.addsTaken hs) (.remoteAnswer nofun)
  | sendAccepted =>
    refine yields_sends (.rests rfl) (.remoteAnswer nofun) fun send hsend => ?_
    split at hsend
    · rw [mem_singleton.mp hsend]
      exact .accepted hs
    · cases hsend
  | connect | waitAccepted | sendMatrixAnswer =>
    cases ok with
    | true => exact yields_goesOn (.rests rfl) (.remoteAnswer nofun)
    | false => exact yields_endNow (.rests rfl) rfl
  | startRelays => exact yields_startRelays rfl rfl

theorem yields_startIncoming (hmsg : evt.message = some message) (place : IncomingStep) :
    (Task.startIncoming evt place).Yields codec b (startIncoming b evt message choice place) := by
  cases place with
  | check =>
    simp only [startIncoming]
    split
    · split
      · exact yields_goesOn (.rests rfl) .busy
      · exact yields_stop (.rests rfl)
    · exact yields_goesOn (.rests rfl) .lookup
  | lookup =>
    simp only [startIncoming]
    split
    · exact yields_stop (.rests rfl)
    · split
      · exact yields_stop (.rests rfl)
      · split
        · exact yields_stop (.rests rfl)
        · exact yields_goesOn (.rests rfl) .claim
  | claim portal =>
    simp only [startIncoming]
    split
    · exact yields_goesOn (.rests rfl) .busy
    · rename_i hfree
      exact yields_goesOn (.claims hmsg hfree) .ring

theorem yields_ringMatrix (hs : b.sessions[i]? = some s) (place : RingStep) :
    (Task.ringMatrix i place).Yields codec b (ringMatrix b i s ok place) := by
  cases place with
  | newLeg =>
    cases ok with
    | true => exact yields_goesOn (.makes rfl) (.rings nofun)
    | false => exact yields_endNow (.rests rfl) rfl
  | storeLeg leg =>
    simp only [ringMatrix]
    split
    · exact yields_endNow .drops rfl
    · exact yields_goesOn (.storesRinging hs) (.rings nofun)
  | createOffer leg =>
    cases ok with
    | true => exact yields_goesOn (.rests rfl) (.rings nofun)
    | false => exact yields_endNow .drops rfl
  | waitGathering =>
    simp only [ringMatrix]
    split
    · exact yields_endNow (.rests rfl) rfl
    · exact yields_goesOn (.rests rfl) (.rings nofun)
  | sendInvite =>
    cases ok with
    | true => exact yields_timer rfl rfl
    | false => exact yields_endNow (.rests rfl) rfl

theorem yields_addMatrixCandidates (hs : b.sessions[i]? = some s) (candidates : List MatrixCandidate) :
    (Task.addMatrixCandidates i candidates).Yields codec b (addMatrixCandidates b s candidates) := by
  unfold addMatrixCandidates
  split
  · exact yields_stop (.rests rfl)
  · rename_i leg hleg
    exact yields_stop (.addsMatrix hs hleg)

theorem yields_startOutgoing (portal : Portal) (invite : MatrixCall) :
    (Task.startOutgoing portal invite).Yields codec b (startOutgoing b portal invite choice) := by
  unfold startOutgoing
  split
  · rename_i hfree
    split
    · exact yields_stop (.rests rfl)
    · exact yields_goesOn (.calls hfree) .call
  · exact yields_stop (.rests rfl)

theorem yields_outgoing (hs : b.sessions[i]? = some s) (place : OutgoingStep) :
    (Task.outgoing i place).Yields codec b (outgoing codec b i s choice place) := by
  cases place with
  | storeLeg leg => exact yields_goesOn (.storesCalling hs) (.calls nofun)
  | storeSignalLeg leg => exact yields_goesOn (.storesSignal hs) (.calls nofun)
  | newLeg | newSignalLeg =>
    simp only [outgoing]
    split
    · exact yields_goesOn (.makes rfl) (.calls nofun)
    · exact yields_endNow (.rests rfl) rfl
  | answerOffer =>
    simp only [outgoing]
    split
    · exact yields_goesOn (.rests rfl) (.calls nofun)
    · exact yields_endNow (.rests rfl) rfl
  | waitGathering =>
    simp only [outgoing]
    split
    · exact yields_stop (.rests rfl)
    · exact yields_goesOn (.rests rfl) (.calls nofun)
  | sendOffer leg =>
    simp only [outgoing]
    split
    · refine yields_sends (.rests rfl) (.calls nofun) fun send hsend => ?_
      rw [mem_singleton.mp hsend]
      exact .offer hs
    · exact yields_endNow (.rests rfl) rfl
  | gather =>
    simp only [outgoing]
    split
    · exact yields_timer rfl rfl
    · exact yields_endNow (.rests rfl) rfl

theorem yields_answerIncoming (hs : b.sessions[i]? = some s) (place : AnswerStep) :
    (Task.answerIncoming i place).Yields codec b (answerIncoming codec b i s choice place) := by
  cases place with
  | start =>
    simp only [answerIncoming]
    split
    · exact yields_stop (.rests rfl)
    · split
      · exact yields_endNow (.answers hs) rfl
      · exact yields_goesOn (.answers hs) (.answers nofun)
  | newSignalLeg =>
    simp only [answerIncoming]
    split
    · exact yields_goesOn (.makes rfl) (.answers nofun)
    · exact yields_endNow (.rests rfl) rfl
  | storeSignalLeg leg => exact yields_goesOn (.storesAnswering hs) (.answers nofun)
  | addPending leg pending => exact yields_goesOn (.addsPending hs) (.answers nofun)
  | sendAnswer leg =>
    simp only [answerIncoming]
    split
    · refine yields_sends (.rests rfl) (.answers nofun) fun send hsend => ?_
      rw [mem_singleton.mp hsend]
      exact .answer hs
    · exact yields_endNow (.rests rfl) rfl
  | setAnswer | gather | connect | sendAccepted =>
    simp only [answerIncoming]
    split
    · exact yields_goesOn (.rests rfl) (.answers nofun)
    · exact yields_endNow (.rests rfl) rfl
  | startRelays => exact yields_startRelays rfl rfl

theorem yields_endSession {call : Ending} {place : EndStep} (hs : b.sessions[i]? = some s)
    (h : endSession b i s call ok place = some o) : (Task.ending i call place).Yields codec b o := by
  cases place with
  | once =>
    simp only [endSession] at h
    split at h
    · simp only [Option.ite_none_right_eq_some, Option.some.injEq] at h
      obtain ⟨-, rfl⟩ := h
      exact yields_stop (.rests rfl)
    · rename_i hended
      cases h
      exact yields_goesOn (.ends hs hended) (.ends rfl)
  | notifySignal =>
    cases h
    refine yields_sends (.rests rfl) (.ends rfl) fun send hsend => ?_
    split at hsend
    · rw [mem_singleton.mp hsend]
      exact .hangup hs
    · cases hsend
  | cancel =>
    cases h
    exact yields_goesOn (.cancels hs) (.ends rfl)
  | closeLegs =>
    cases h
    exact yields_goesOn (.closes hs) (.ends rfl)
  | clearActive =>
    cases h
    exact yields_stop (.clears hs)

end Functions

theorem Task.yields (h : t.step codec choice b = some o) : t.Yields codec b o := by
  cases t with
  | handleSignalCall evt =>
    cases h
    exact yields_handleSignalCall
  | handleRemoteICE i evt =>
    obtain ⟨s, hs, rfl⟩ := Option.map_eq_some_iff.mp h
    exact yields_handleRemoteICE hs evt
  | handleRemoteAnswer i evt place =>
    obtain ⟨s, hs, rfl⟩ := Option.map_eq_some_iff.mp h
    exact yields_handleRemoteAnswer hs evt place
  | startIncoming evt place =>
    obtain ⟨message, hmsg, rfl⟩ := Option.map_eq_some_iff.mp h
    exact yields_startIncoming hmsg place
  | sendBusy peer callID =>
    cases h
    refine ⟨.rests rfl, forall_mem_nil _, fun send hsend => ?_⟩
    split at hsend
    · rw [mem_singleton.mp hsend]
      exact .busy
    · cases hsend
  | ringMatrix i place =>
    obtain ⟨s, hs, rfl⟩ := Option.map_eq_some_iff.mp h
    exact yields_ringMatrix hs place
  | addMatrixCandidates i candidates =>
    obtain ⟨s, hs, rfl⟩ := Option.map_eq_some_iff.mp h
    exact yields_addMatrixCandidates hs candidates
  | startOutgoing portal invite =>
    cases h
    exact yields_startOutgoing portal invite
  | outgoing i place =>
    obtain ⟨s, hs, rfl⟩ := Option.map_eq_some_iff.mp h
    exact yields_outgoing hs place
  | answerIncoming i place =>
    obtain ⟨s, hs, rfl⟩ := Option.map_eq_some_iff.mp h
    exact yields_answerIncoming hs place
  | onLocalSignalCandidate i candidate =>
    obtain ⟨s, hs, rfl⟩ := Option.map_eq_some_iff.mp h
    refine ⟨.rests rfl, forall_mem_nil _, fun send hsend => ?_⟩
    simp only [sendSignalICE] at hsend
    split at hsend
    · rw [mem_singleton.mp hsend]
      exact .ice hs
    · cases hsend
  | timer i | relay i =>
    obtain ⟨s, -, rfl⟩ := Option.map_eq_some_iff.mp h
    split
    · exact yields_stop (.rests rfl)
    · exact yields_endNow (.rests rfl) rfl
  | ending i call place =>
    obtain ⟨s, hs, hstep⟩ := Option.bind_eq_some_iff.mp h
    exact yields_endSession hs hstep

theorem Task.changes (h : t.step codec choice b = some o) : t.Changes b o.state := (Task.yields h).changes

theorem Task.leads (h : t.step codec choice b = some o) (hu : u ∈ o.next) : t.Leads u := (Task.yields h).leads u hu

theorem Task.sends {send : ServiceID × CallMessage} (h : t.step codec choice b = some o) (hsend : send ∈ o.sends) :
    t.Sends codec b send :=
  (Task.yields h).sends send hsend

end MautrixSignal.Calls
