import MautrixSignal.Calls.Sessions

namespace MautrixSignal.Calls

open Lib

variable {codec : CallCodec} {choice : Choice} {b b' : Bridge} {o : CallOutcome} {t u : Task}
  {allowed : Ending → Prop} {i : Nat} {s : Session} {call : Ending} {ok : Bool} {place : EndStep}
  {evt : CallEvent}

def RemoteAnswerStep.Fits (session : Session) : RemoteAnswerStep → Prop
  | .take => session.incoming = false
  | _ => session.incoming = false ∧ session.answering = true

def EndStep.Fits (call : Ending) (session : Session) : EndStep → Prop
  | .once => True
  | .notifySignal | .cancel => session.ended = some call
  | .closeLegs | .clearActive => session.ended = some call ∧ session.cancelled = true

def Task.Holds (allowed : Ending → Prop) (b : Bridge) : Task → Prop
  | .handleRemoteAnswer i _ place => b.Has i place.Fits
  | .ending i call place => allowed call ∧ b.Has i (place.Fits call)
  | _ => True

theorem Task.Holds.evolves (h : u.Holds allowed b) (hb : b.Evolves b') : u.Holds allowed b' := by
  cases u with
  | handleRemoteAnswer i evt place =>
    refine hb.has h ?_
    intro s s' hs he
    cases place with
    | take => exact he.incoming.trans hs
    | _ => exact ⟨he.incoming.trans hs.1, (he.answering hs.2).1⟩
  | ending i call place =>
    refine ⟨h.1, hb.has h.2 ?_⟩
    intro s s' hs he
    cases place with
    | once => trivial
    | notifySignal | cancel => exact he.ended call hs
    | closeLegs | clearActive => exact ⟨he.ended call hs.1, he.cancelled hs.2⟩
  | _ => trivial

-- The slot has the one session whose end has not returned, if there is one.
structure Bridge.Inv (allowed : Ending → Prop) (b : Bridge) : Prop where
  active : ∀ i, b.active = some i → b.Has i fun s => s.endDone = false
  held : ∀ (i : Nat) s, b.sessions[i]? = some s → s.endDone = false → b.active = some i
  ended : ∀ (i : Nat) s call, b.sessions[i]? = some s → s.ended = some call → allowed call
  done : ∀ (i : Nat) s, b.sessions[i]? = some s → s.endDone = true → s.ended.isSome ∧ s.cancelled = true

theorem Bridge.Inv.works (h : b.Inv allowed) (hw : b.Works b') : b'.Inv allowed where
  active := by
    intro i hi
    obtain ⟨s, hs, hdone⟩ := h.active i (hw.active ▸ hi)
    obtain ⟨s', hs', hws⟩ := hw.has hs
    exact ⟨s', hs', hws.endDone.trans hdone⟩
  held := by
    intro i s' hs' hdone
    obtain ⟨s, hs, hws⟩ := hw.of_some hs'
    rw [hw.active]
    exact h.held i s hs (hws.endDone.symm.trans hdone)
  ended := by
    intro i s' call hs' hcall
    obtain ⟨s, hs, hws⟩ := hw.of_some hs'
    exact h.ended i s call hs (hws.ended.symm.trans hcall)
  done := by
    intro i s' hs' hdone
    obtain ⟨s, hs, hws⟩ := hw.of_some hs'
    obtain ⟨he, hc⟩ := h.done i s hs (hws.endDone.symm.trans hdone)
    exact ⟨hws.ended.symm ▸ he, hws.cancelled.trans hc⟩

theorem Bridge.Inv.activate {session : Session} (h : b.Inv allowed) (hfree : b.active = none)
    (hfresh : session.Fresh) : (b.activate session).Inv allowed where
  active := by
    intro i hi
    obtain rfl := Option.some.inj hi
    exact ⟨session, b.getElem?_activate_length session, hfresh.endDone⟩
  held := by
    intro i s hs hdone
    rcases getElem?_activate hs with hold | ⟨rfl, rfl⟩
    · exact absurd (h.held i s hold hdone) (by simp [hfree])
    · rfl
  ended := by
    intro i s call hs hcall
    rcases getElem?_activate hs with hold | ⟨rfl, rfl⟩
    · exact h.ended i s call hold hcall
    · exact absurd (hfresh.ended.symm.trans hcall) (by simp)
  done := by
    intro i s hs hdone
    rcases getElem?_activate hs with hold | ⟨rfl, rfl⟩
    · exact h.done i s hold hdone
    · exact absurd (hfresh.endDone.symm.trans hdone) (by simp)

theorem Bridge.Inv.advances (h : b.Inv allowed) (ha : Advances b o) : o.state.Inv allowed := by
  cases ha with
  | works hw => exact h.works hw
  | activates session hfree hfresh heq =>
    rw [heq]
    exact h.activate hfree hfresh

theorem Bridge.Inv.modifySession {f : Session → Session} (h : b.Inv allowed) (hs : b.sessions[i]? = some s)
    (hended : ∀ call, (f s).ended = some call → allowed call) (hdone : (f s).endDone = s.endDone)
    (hstays : s.ended.isSome ∧ s.cancelled = true → (f s).ended.isSome ∧ (f s).cancelled = true) :
    (b.modifySession i f).Inv allowed := by
  have hget (j : Nat) (s' : Session) (hs' : (b.modifySession i f).sessions[j]? = some s') :
      (i = j ∧ s' = f s) ∨ b.sessions[j]? = some s' := by
    rw [getElem?_modifySession] at hs'
    split at hs'
    · rename_i hij
      subst hij
      rw [hs] at hs'
      exact .inl ⟨rfl, (Option.some.inj hs').symm⟩
    · exact .inr hs'
  refine ⟨?_, ?_, ?_, ?_⟩
  · intro j hj
    obtain ⟨s', hs', hd⟩ := h.active j hj
    by_cases hij : i = j
    · subst hij
      obtain rfl := Option.some.inj (hs.symm.trans hs')
      exact has_modifySession hs (hdone.trans hd)
    · exact ⟨s', by rw [getElem?_modifySession, if_neg hij, hs'], hd⟩
  · intro j s' hs' hd
    rcases hget j s' hs' with ⟨rfl, rfl⟩ | hold
    · exact h.held i s hs (hdone.symm.trans hd)
    · exact h.held j s' hold hd
  · intro j s' call hs' hcall
    rcases hget j s' hs' with ⟨rfl, rfl⟩ | hold
    · exact hended call hcall
    · exact h.ended j s' call hold hcall
  · intro j s' hs' hd
    rcases hget j s' hs' with ⟨rfl, rfl⟩ | hold
    · exact hstays (h.done i s hs (hdone.symm.trans hd))
    · exact h.done j s' hold hd

theorem Bridge.Inv.clear (h : b.Inv allowed) (hs : b.sessions[i]? = some s) (hended : s.ended.isSome)
    (hcanc : s.cancelled = true) :
    (Bridge.modifySession { b with active := if b.active = some i then none else b.active } i
      fun s => { s with endDone := true }).Inv allowed := by
  have hget (j : Nat) (s' : Session) (hs' : (b.modifySession i fun s => { s with endDone := true }).sessions[j]?
      = some s') : (i = j ∧ s' = { s with endDone := true }) ∨ (i ≠ j ∧ b.sessions[j]? = some s') := by
    rw [getElem?_modifySession] at hs'
    split at hs'
    · rename_i hij
      subst hij
      rw [hs] at hs'
      exact .inl ⟨rfl, (Option.some.inj hs').symm⟩
    · rename_i hij
      exact .inr ⟨hij, hs'⟩
  refine ⟨?_, ?_, ?_, ?_⟩
  · intro j hj
    have hj' := hj
    split at hj'
    · cases hj'
    · rename_i hne
      obtain ⟨s', hs', hd⟩ := h.active j hj'
      have hij : i ≠ j := fun hij => hne (hij ▸ hj')
      exact ⟨s', by rw [getElem?_modifySession, if_neg hij]; exact hs', hd⟩
  · intro j s' hs' hd
    rcases hget j s' hs' with ⟨rfl, rfl⟩ | ⟨hij, hold⟩
    · cases hd
    · have hact := h.held j s' hold hd
      have hne : b.active ≠ some i := fun heq => hij (Option.some.inj (heq.symm.trans hact))
      exact (if_neg hne).trans hact
  · intro j s' call hs' hcall
    rcases hget j s' hs' with ⟨rfl, rfl⟩ | ⟨-, hold⟩
    · exact h.ended i s call hs hcall
    · exact h.ended j s' call hold hcall
  · intro j s' hs' hd
    rcases hget j s' hs' with ⟨rfl, rfl⟩ | ⟨-, hold⟩
    · exact ⟨hended, hcanc⟩
    · exact h.done j s' hold hd

theorem endSession_spec (h : b.Inv allowed) (hs : b.sessions[i]? = some s) (hcall : allowed call)
    (hfits : place.Fits call s) (hstep : endSession b i s call ok place = some o) :
    o.state.Inv allowed ∧ ∀ u ∈ o.next, u.Holds allowed o.state := by
  cases place with
  | once =>
    cases hended : s.ended with
    | none =>
      simp only [endSession, hended, Option.some.injEq] at hstep
      subst hstep
      refine ⟨h.modifySession hs ?_ rfl ?_, ?_⟩
      · intro other hother
        obtain rfl := Option.some.inj hother
        exact hcall
      · exact fun hold => ⟨rfl, hold.2⟩
      · intro u hu
        obtain rfl : u = .ending i call .notifySignal := by simpa [Outcome.next] using hu
        exact ⟨hcall, Bridge.has_modifySession hs rfl⟩
    | some other =>
      simp only [endSession, hended, Option.ite_none_right_eq_some, Option.some.injEq] at hstep
      obtain ⟨-, rfl⟩ := hstep
      exact ⟨h, fun u hu => absurd hu (by simp [Outcome.next])⟩
  | notifySignal =>
    cases hstep
    refine ⟨h, fun u hu => ?_⟩
    obtain rfl : u = .ending i call .cancel := by simpa [Outcome.next] using hu
    exact ⟨hcall, s, hs, hfits⟩
  | cancel =>
    cases hstep
    refine ⟨h.modifySession hs ?_ rfl ?_, ?_⟩
    · exact fun other hother => h.ended i s other hs hother
    · exact fun hold => ⟨hold.1, rfl⟩
    · intro u hu
      obtain rfl : u = .ending i call .closeLegs := by simpa [Outcome.next] using hu
      exact ⟨hcall, Bridge.has_modifySession hs ⟨hfits, rfl⟩⟩
  | closeLegs =>
    cases hstep
    have hworks := Bridge.works_closeLegs b s.mxLeg s.signalLeg
    refine ⟨h.works hworks, fun u hu => ?_⟩
    obtain rfl : u = .ending i call .clearActive := by simpa [Outcome.next] using hu
    have hnow : Task.Holds allowed b (.ending i call .clearActive) := ⟨hcall, s, hs, hfits⟩
    exact hnow.evolves hworks.evolves
  | clearActive =>
    cases hstep
    refine ⟨h.clear hs ?_ hfits.2, fun u hu => absurd hu (by simp [Outcome.next])⟩
    rw [hfits.1]
    rfl

def Task.Plain (i : Nat) : Task → Prop
  | .ending j call place => j = i ∧ call.message = none ∧ place = .once
  | .handleRemoteAnswer _ _ _ => False
  | _ => True

theorem Task.Plain.holds (h : u.Plain i) (hallow : ∀ call, call.message = none → allowed call)
    (hb : b.Has i fun _ => True) : u.Holds allowed b := by
  cases u with
  | ending j call place =>
    obtain ⟨rfl, hcall, rfl⟩ := h
    exact ⟨hallow call hcall, hb⟩
  | _ => trivial

theorem Task.holds_of_plain (h : ∀ i, u.Plain i) : u.Holds allowed b := by
  cases u with
  | handleRemoteAnswer => exact (h 0).elim
  | ending i call place =>
    have hi := (h (i + 1)).1
    omega
  | _ => trivial

theorem holds_handleRemoteAnswer (codec : CallCodec) {place : RemoteAnswerStep}
    (hallow : ∀ call, call.message = none → allowed call) (hs : b.sessions[i]? = some s)
    (hfits : place.Fits s) :
    ∀ u ∈ (handleRemoteAnswer b i s evt ok place).next,
      u.Holds allowed (handleRemoteAnswer b i s evt ok place).state := by
  intro u hu
  have hyields : (Task.handleRemoteAnswer i evt place).Yields codec b (handleRemoteAnswer b i s evt ok place) :=
    yields_handleRemoteAnswer hs evt place
  obtain ⟨s', hs', he⟩ := hyields.changes.evolves i s hs
  cases hyields.leads u hu with
  | remoteAnswer hne =>
    rename_i place'
    have hans : (handleRemoteAnswer b i s evt ok place).state.Has i fun s =>
        s.incoming = false ∧ s.answering = true := by
      cases place with
      | take =>
        simp only [handleRemoteAnswer] at hu ⊢
        split at hu
        · simp [Outcome.next] at hu
        · rename_i hfree
          rw [if_neg hfree]
          exact Bridge.has_modifySession hs ⟨hfits, rfl⟩
      | _ => exact ⟨s', hs', he.incoming.trans hfits.1, (he.answering hfits.2).1⟩
    cases place' with
    | take => exact absurd rfl hne
    | _ => exact hans
  | timer | relay => trivial
  | fails ht hcall =>
    cases ht
    exact ⟨hallow _ hcall, s', hs', trivial⟩

theorem holds_handleSignalCall (hend : ∀ message i call, evt.message = some message →
      handleRemoteEnd b evt message = some (i, call) → allowed call) :
    ∀ u ∈ (handleSignalCall b evt).next, u.Holds allowed (handleSignalCall b evt).state := by
  intro u hu
  rw [state_handleSignalCall]
  obtain ⟨message, hmsg, ⟨-, rfl⟩ | ⟨-, -, hice⟩ | ⟨-, hanswer⟩ | ⟨-, i, call, hcall, rfl⟩⟩ :=
    next_handleSignalCall hu
  · trivial
  · obtain ⟨i, -, -, -, -, -, rfl⟩ := findForICE_eq_some hice
    trivial
  · obtain ⟨i, s, hact, hin, rfl⟩ := findForAnswer_eq_some hanswer
    exact ⟨s, (Bridge.activeSession_eq_some.mp hact).2, hin⟩
  · obtain ⟨-, s, hact, -⟩ := handleRemoteEnd_eq_some hcall
    exact ⟨hend message i call hmsg hcall, s, (Bridge.activeSession_eq_some.mp hact).2, trivial⟩

def Allows (allowed : Ending → Prop) (b : Bridge) (t : Task) : Prop :=
  ∀ evt message i call, t = .handleSignalCall evt → evt.message = some message →
    handleRemoteEnd b evt message = some (i, call) → allowed call

theorem Task.holds_next (hallow : ∀ call, call.message = none → allowed call)
    (h : t.step codec choice b = some o) (ht : t.Holds allowed b) (hends : Allows allowed b t)
    (hend : ∀ i call place, t ≠ .ending i call place) : ∀ u ∈ o.next, u.Holds allowed o.state := by
  by_cases hanswer : ∃ i evt place, t = .handleRemoteAnswer i evt place
  · obtain ⟨i, evt, place, rfl⟩ := hanswer
    obtain ⟨s, hs, rfl⟩ := Option.map_eq_some_iff.mp h
    obtain ⟨s', hs', hfits⟩ := ht
    obtain rfl := Option.some.inj (hs.symm.trans hs')
    exact holds_handleRemoteAnswer codec hallow hs hfits
  by_cases hcall : ∃ evt, t = .handleSignalCall evt
  · obtain ⟨evt, rfl⟩ := hcall
    cases h
    exact holds_handleSignalCall fun message i call => hends evt message i call rfl
  intro u hu
  cases Task.leads h hu with
  | fails hsess hmsg =>
    obtain ⟨s, hs⟩ := Task.session_of_step h hsess
    obtain ⟨s', hs', -⟩ := Task.evolves h _ s hs
    exact ⟨hallow _ hmsg, s', hs', trivial⟩
  | ends => exact absurd rfl (hend _ _ _)
  | remoteAnswer => exact absurd ⟨_, _, _, rfl⟩ hanswer
  | answer | remoteEnd => exact absurd ⟨_, rfl⟩ hcall
  | _ => trivial

theorem Task.sound (hallow : ∀ call, call.message = none → allowed call)
    (h : t.step codec choice b = some o) (hb : b.Inv allowed) (ht : t.Holds allowed b)
    (hends : Allows allowed b t) : o.state.Inv allowed ∧ ∀ u ∈ o.next, u.Holds allowed o.state := by
  by_cases hend : ∃ i call place, t = .ending i call place
  · obtain ⟨i, call, place, rfl⟩ := hend
    obtain ⟨s, hs, hstep⟩ := Option.bind_eq_some_iff.mp h
    obtain ⟨hcall, s', hs', hfits⟩ := ht
    obtain rfl := Option.some.inj (hs.symm.trans hs')
    exact endSession_spec hb hs hcall hfits hstep
  · push Not at hend
    exact ⟨hb.advances (Task.advances h hend), Task.holds_next hallow h ht hends hend⟩

theorem endSession_goesOn (hs : b.sessions[i]? = some s) (hstep : endSession b i s call ok place = some o) :
    (∃ place', place' ≠ .once ∧ Task.ending i call place' ∈ o.next) ∨ o.state.Has i (·.endDone = true) := by
  cases place with
  | once =>
    cases hended : s.ended with
    | none =>
      simp only [endSession, hended, Option.some.injEq] at hstep
      subst hstep
      exact .inl ⟨.notifySignal, by simp, by simp [Outcome.next]⟩
    | some other =>
      simp only [endSession, hended, Option.ite_none_right_eq_some, Option.some.injEq] at hstep
      obtain ⟨hdone, rfl⟩ := hstep
      exact .inr ⟨s, hs, hdone⟩
  | notifySignal =>
    cases hstep
    exact .inl ⟨.cancel, by simp, by simp [Outcome.next]⟩
  | cancel =>
    cases hstep
    exact .inl ⟨.closeLegs, by simp, by simp [Outcome.next]⟩
  | closeLegs =>
    cases hstep
    exact .inl ⟨.clearActive, by simp, by simp [Outcome.next]⟩
  | clearActive =>
    cases hstep
    exact .inr (Bridge.has_modifySession (b := { b with active := _ }) hs rfl)

theorem Task.Changes.sessions_of_ending {j : Nat} (h : (Task.ending i call place).Changes b b') (hij : i ≠ j) :
    b'.sessions[j]? = b.sessions[j]? := by
  have hmod (b : Bridge) (f : Session → Session) : (b.modifySession i f).sessions[j]? = b.sessions[j]? := by
    rw [Bridge.getElem?_modifySession, if_neg hij]
  cases h with
  | rests => rfl
  | makes ht => exact nomatch ht
  | ends | cancels => exact hmod b _
  | closes =>
    rename_i s _
    cases s.mxLeg <;> cases s.signalLeg <;> rfl
  | clears => exact hmod _ _

def Task.PastOnce (i : Nat) (t : Task) : Prop :=
  ∃ call place, t = .ending i call place ∧ place ≠ .once

def Bridge.Settled (i : Nat) (b : Bridge) : Prop :=
  ∀ s, b.sessions[i]? = some s → s.ended.isSome → s.endDone = true

theorem Advances.settled (h : Advances b o) (hb : b.Settled i) : o.state.Settled i := by
  cases h with
  | works hw =>
    intro s' hs' hended
    obtain ⟨s, hs, hws⟩ := hw.of_some hs'
    exact hws.endDone.trans (hb s hs (hws.ended ▸ hended))
  | activates session _ hfresh heq =>
    rw [heq]
    intro s hs hended
    rcases Bridge.getElem?_activate hs with hold | ⟨-, rfl⟩
    · exact hb s hold hended
    · rw [hfresh.ended] at hended
      cases hended

theorem Task.ending_goesOn (h : (Task.ending i call place).step codec choice b = some o) :
    o.state.Has i (·.endDone = true) ∨ ∃ u ∈ o.next, u.PastOnce i := by
  obtain ⟨s, hs, hstep⟩ := Option.bind_eq_some_iff.mp h
  rcases endSession_goesOn hs hstep with ⟨place', hne, hmem⟩ | hdone
  · exact .inr ⟨_, hmem, call, place', rfl, hne⟩
  · exact .inl hdone

theorem Bridge.Has.settled (h : b.Has i (·.endDone = true)) : b.Settled i := by
  obtain ⟨s, hs, hdone⟩ := h
  intro s' hs' _
  rw [Option.some.inj (hs'.symm.trans hs)]
  exact hdone

theorem Task.settled (h : t.step codec choice b = some o) (hb : b.Settled i) :
    o.state.Settled i ∨ ∃ u ∈ o.next, u.PastOnce i := by
  by_cases hend : ∃ j call place, t = .ending j call place
  · obtain ⟨j, call, place, rfl⟩ := hend
    by_cases hij : j = i
    · subst hij
      exact (Task.ending_goesOn h).imp_left Bridge.Has.settled
    · refine .inl fun s' hs' => ?_
      rw [(Task.changes h).sessions_of_ending hij] at hs'
      exact hb s' hs'
  · push Not at hend
    exact .inl ((Task.advances h hend).settled hb)

end MautrixSignal.Calls
