import MautrixSignal.Calls.Candidates
import MautrixSignal.Calls.Slot

namespace MautrixSignal.Calls

open Lib

variable {codec : CallCodec} {guard : Guard} {p p' : Pool Bridge Task} {new : List Entry} {i : Nat}
  {call : Ending} {evt : CallEvent}

-- A busy or hangup message for an outgoing call that has been answered is from the device that answered it.
-- A hangup that dismisses the ringing elsewhere can be from any device.
def endsFromAnswerer : Guard
  | p, .handleSignalCall evt, _ =>
    evt.message.all fun message => p.state.activeSession.all fun (_, s) =>
      decide (s.incoming = false → s.answering = true → callOf evt = some s.call →
        message.messageType = .hangup ∨ message.messageType = .busy → ¬ Accepted message →
        evt.info.sourceDeviceID = s.sourceDevice)
  | _, _, _ => true

def EndsBy (p : Pool Bridge Task) (i : Nat) (call : Ending) : Prop :=
  p.state.Has i (·.ended = some call) ∨ ∃ place, .ending i call place ∈ p.tasks

theorem PoolStep.endsBy (h : PoolStep codec guard p p' new) (hends : EndsBy p' i call)
    (hevt : call.message = some evt) :
    EndsBy p i call ∨ ∃ choice message, guard p (.handleSignalCall evt) choice = true ∧
      evt.message = some message ∧ (message.messageType = .hangup ∨ message.messageType = .busy) ∧
      handleRemoteEnd p.state evt message = some (i, call) := by
  cases h with
  | runs place choice t o ht hstep hguard =>
    have hmem := Pool.mem_tasks_of_at ht
    rcases hends with hended | ⟨place', hending⟩
    · rw [Pool.state_resume] at hended
      rcases (Task.changes hstep).has_before hended (fun _ _ hw he => hw.ended.symm.trans he)
        (fun _ hfresh he => nomatch hfresh.ended.symm.trans he) with
        hold | ⟨s, call', hs, ⟨rfl, he⟩ | ⟨-, he⟩ | ⟨-, he⟩⟩
      · exact .inl (.inl hold)
      · cases he
        exact .inl (.inr ⟨_, hmem⟩)
      · exact .inl (.inl ⟨s, hs, he⟩)
      · exact .inl (.inl ⟨s, hs, he⟩)
    · rcases Pool.mem_tasks_resume ht hending with hnext | hold
      · cases Task.leads hstep hnext with
        | remoteEnd =>
          cases hstep
          obtain ⟨message, hmsg, ⟨-, heq⟩ | ⟨-, -, hfind⟩ | ⟨-, hfind⟩ | ⟨htype, j, call', hend, heq⟩⟩ :=
            next_handleSignalCall hnext
          · cases heq
          · obtain ⟨_, _, -, -, -, -, heq⟩ := findForICE_eq_some hfind
            cases heq
          · obtain ⟨_, _, -, -, heq⟩ := findForAnswer_eq_some hfind
            cases heq
          · obtain ⟨rfl, rfl, -⟩ := Task.ending.inj heq
            obtain rfl := Option.some.inj ((handleRemoteEnd_eq_some hend).1.symm.trans hevt)
            exact .inr ⟨choice, message, hguard, hmsg, htype, hend⟩
        | fails _ hcall => exact nomatch hcall.symm.trans hevt
        | ends => exact .inl (.inr ⟨_, hmem⟩)
      · exact .inl (.inr ⟨place', hold⟩)
  | gets p' tasks hstate hperm htasks =>
    rcases hends with hended | ⟨place, hending⟩
    · exact .inl (.inl (hstate ▸ hended))
    rcases List.mem_append.mp (hperm.mem_iff.mp hending) with hnew | hold
    · rcases htasks _ hnew with ⟨_, heq⟩ | hexternal
      · cases heq
      · cases hexternal with
        | ends _ _ _ hcall => exact nomatch hcall.symm.trans hevt
    · exact .inl (.inr ⟨place, hold⟩)

theorem PoolStep.evolves (h : PoolStep codec guard p p' new) : p.state.Evolves p'.state := by
  cases h with
  | runs place choice t o ht hstep _ => exact Pool.state_resume .. ▸ Task.evolves hstep
  | gets p' tasks hstate _ _ => exact hstate ▸ (Bridge.Works.refl _).evolves

-- A device whose outgoing session has taken an answer, after some steps. An end that was not there before
-- comes with a message of the device that answered.
structure AnsweredBy (device : UInt32) (i : Nat) (p₀ p : Pool Bridge Task) : Prop where
  taken : p.state.Has i fun s => s.incoming = false ∧ s.answering = true ∧ s.sourceDevice = device
  ends : ∀ call evt, EndsBy p i call → call.message = some evt →
    EndsBy p₀ i call ∨ evt.info.sourceDeviceID = device

theorem PoolStep.answeredBy {device : UInt32} {p₀ : Pool Bridge Task}
    (h : PoolStep codec endsFromAnswerer p p' new) (hp : AnsweredBy device i p₀ p) : AnsweredBy device i p₀ p' := by
  obtain ⟨htaken, hends⟩ := hp
  refine ⟨h.evolves.has htaken ?_, fun call evt hends' hevt => ?_⟩
  · rintro s s' ⟨hin, hans, hdev⟩ he
    obtain ⟨hans', hdev'⟩ := he.answering hans
    exact ⟨he.incoming.trans hin, hans', hdev'.trans hdev⟩
  · rcases h.endsBy hends' hevt with hold | ⟨choice, message, hguard, hmsg, htype, hend⟩
    · exact hends call evt hold hevt
    obtain ⟨-, s, hact, hmatch⟩ := handleRemoteEnd_eq_some hend
    obtain ⟨s', hs', hout, hanswering, hdev⟩ := htaken
    obtain rfl := Option.some.inj ((Bridge.activeSession_eq_some.mp hact).2.symm.trans hs')
    simp only [endsFromAnswerer, hmsg, hact, Option.all_some, decide_eq_true_eq] at hguard
    refine .inr ((hguard hout hanswering ((callOf_eq_iff hmsg).mpr hmatch) htype ?_).trans hdev)
    intro hacc
    have hignored : ¬ s.Receives evt message := fun hreceives => nomatch hreceives.1.symm.trans hout
    rw [handleRemoteEnd_accepted evt hacc hact, if_neg hignored] at hend
    cases hend

-- Where only the device that answered sends busy and hangup, only its messages end an answered outgoing
-- call, and only its candidates get on the Signal leg.
theorem only_answerer_ends_or_adds_candidates (codec : CallCodec) {labels later : List Action} {w u : World}
    {before journal : List (Node × Entry)}
    (h : Run (Watched codec endsFromAnswerer) (.initial, []) labels (w, before))
    (hlater : Run (Watched codec endsFromAnswerer) (w, before) later (u, journal)) (n : Node) (i : Nat)
    (s : Session) (hs : (w.devices n).pool.state.sessions[i]? = some s) (hout : s.incoming = false)
    (hanswering : s.answering = true) :
    (∀ call evt, EndsBy (u.devices n).pool i call → call.message = some evt →
      EndsBy (w.devices n).pool i call ∨ evt.info.sourceDeviceID = s.sourceDevice) ∧
    ∀ place choice t o leg, (u.devices n).pool.at? place = some t →
      t.step codec choice (u.devices n).pool.state = some o →
      (u.devices n).pool.state.Has i (·.signalLeg = some leg) →
      o.state.candidates leg = (u.devices n).pool.state.candidates leg ∨
        ∃ sdps, o.state.candidates leg = (u.devices n).pool.state.candidates leg ++ sdps ∧
          ((∃ evt, t = .handleRemoteICE i evt ∧ sdps = [remoteSDP evt] ∧
              evt.info.sourceDeviceID = s.sourceDevice) ∨
            ∃ pending, sdps = queuedFrom s.sourceDevice pending ∧
              ((∃ evt, t = .handleRemoteAnswer i evt (.addPending leg pending)) ∨
                t = .answerIncoming i (.addPending leg pending))) := by
  have hans : AnsweredBy s.sourceDevice i (w.devices n).pool (u.devices n).pool := by
    refine hlater.invariant (I := fun r => AnsweredBy s.sourceDevice i (w.devices n).pool (r.1.devices n).pool)
      ?_ ⟨⟨s, hs, hout, hanswering, rfl⟩, fun call evt hends _ => .inl hends⟩
    exact fun _ _ _ hp hstep => (poolStep_of_step hstep.1.1 hstep.1.2 n).answeredBy hp
  obtain ⟨-, htakes⟩ := forall_pools_of_run (fun p journal => SoundPool p ∧ TakesCandidates p journal)
    ⟨sound_initial, takesCandidates_initial⟩
    (fun p journal p' new hp hstep => ⟨hstep.sound hp.1, hstep.takesCandidates hp.1 hp.2⟩) (h.trans hlater) n
  refine ⟨hans.ends, ?_⟩
  rintro place choice t o leg ht hstep ⟨s₁, hs₁, hleg⟩
  obtain ⟨s₂, hs₂, hout₂, -, hdev⟩ := hans.taken
  obtain rfl := Option.some.inj (hs₁.symm.trans hs₂)
  rw [← hdev]
  refine ((Task.changes hstep).signalLeg_cases (htakes.feeds.task t (Pool.mem_tasks_of_at ht))
    htakes.fits.state hs₁ hleg).imp_right ?_
  rintro ⟨sdps, hadd, ⟨evt, htask, hsdps, hunknown | hsame⟩ | hqueued⟩
  · exact nomatch hunknown.1.symm.trans hout₂
  · exact ⟨sdps, hadd, .inl ⟨evt, htask, hsdps, hsame.symm⟩⟩
  · exact ⟨sdps, hadd, .inr hqueued⟩

structure BusyRun (guard : Guard) where
  labels : List Action
  later : List Action
  w : World
  u : World
  before : List (Node × Entry)
  journal : List (Node × Entry)
  s : Session
  call : Ending
  evt : CallEvent
  run : Run (Watched emptyCodec guard) (.initial, []) labels (w, before)
  rest : Run (Watched emptyCodec guard) (w, before) later (u, journal)
  session : (w.devices caller).pool.state.sessions[0]? = some s
  outgoing : s.incoming = false
  answered : s.answering = true
  goingOn : ¬ EndsBy (w.devices caller).pool 0 call
  ends : EndsBy (u.devices caller).pool 0 call
  message : call.message = some evt

def busyFrom (n : Node) : Packet :=
  { busyPacket with source := n, foreign := true }

def answeredCall : List Action :=
  placeCall ++ ringAt winner ++ answerAtWinner ++ takeAnswer ++ List.replicate 2 (.run caller .foreground {})

def busyAtCaller (n : Node) : List Action :=
  .sendForeign (busyFrom n) :: delivered caller (busyFrom n) ++ [.run caller (.background 3) {}]

theorem exists_busyRun (guard : Guard) (n : Node) (hcheck : (runThrough (fun s a => World.meets guard s.1 a)
        (recordThrough World.entries (World.step emptyCodec)) (.initial, []) answeredCall).any (fun r =>
      (r.1.devices caller).pool.tasks = [.timer 0, .relay 0, .relay 0] ∧
      (r.1.devices caller).pool.state.Has 0 (fun s => s.incoming = false ∧ s.answering = true ∧
        s.sourceDevice = winner.device ∧ s.ended = none) ∧
      (runThrough (fun s a => World.meets guard s.1 a) (recordThrough World.entries (World.step emptyCodec)) r
        (busyAtCaller n)).any (fun r => (r.1.devices caller).pool.state.Has 0 fun s => ∃ call, s.ended = some call ∧
          ∃ evt, call.message = some evt ∧ evt.info.sourceDeviceID = n.device) = true) = true) :
    ∃ r : BusyRun guard, r.s.sourceDevice = winner.device ∧ r.evt.info.sourceDeviceID = n.device := by
  obtain ⟨⟨w, before⟩, hw, hfacts⟩ := (Option.any_eq_true _ _).mp hcheck
  obtain ⟨htasks, ⟨s, hs, hout, hans, hdev, hopen⟩, hrest⟩ := of_decide_eq_true hfacts
  obtain ⟨⟨u, journal⟩, hu, hlast⟩ := (Option.any_eq_true _ _).mp hrest
  obtain ⟨s', hs', call, hcall, evt, hevt, hfrom⟩ := of_decide_eq_true hlast
  refine ⟨⟨_, _, w, u, before, journal, s, call, evt, recorded_of_runThrough hw, recorded_of_runThrough hu, hs,
    hout, hans, ?_, .inl ⟨s', hs', hcall⟩, hevt⟩, hdev, hfrom⟩
  rintro (⟨s₁, hs₁, hended⟩ | ⟨place, hending⟩)
  · rw [← Option.some.inj (hs.symm.trans hs₁), hopen] at hended
    cases hended
  · simp [htasks] at hending

theorem only_answerer_ends_or_adds_candidates_busy :
    ∃ r : BusyRun endsFromAnswerer, r.evt.info.sourceDeviceID = r.s.sourceDevice := by
  obtain ⟨r, -⟩ := exists_busyRun endsFromAnswerer winner (by decide +kernel)
  have hfrom := only_answerer_ends_or_adds_candidates emptyCodec r.run r.rest caller 0 r.s r.session r.outgoing
    r.answered
  exact ⟨r, (hfrom.1 r.call r.evt r.ends r.message).resolve_left r.goingOn⟩

-- handleRemoteEnd compares the call and the account, but not the device.
theorem other_device_ends_answered_call :
    ∃ r : BusyRun fun _ _ _ => true, r.evt.info.sourceDeviceID ≠ r.s.sourceDevice := by
  obtain ⟨r, hdev, hfrom⟩ := exists_busyRun (fun _ _ _ => true) loser (by decide +kernel)
  refine ⟨r, ?_⟩
  rw [hfrom, hdev]
  decide

end MautrixSignal.Calls
