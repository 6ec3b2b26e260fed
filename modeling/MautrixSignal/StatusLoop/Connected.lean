import MautrixSignal.StatusLoop

namespace MautrixSignal.StatusLoop

open Lib

variable {w w' : World} {action : Action}

structure Faithful (w : World) : Prop where
  remembered : w.loop.running = true → w.last = w.latest
  connected : w.loop = .receiving → bothConnected w.latest →
    (w.put.getLast?).map ConnectionStatus.event = some .connected

-- The loops are not started while the client's last status is Connected, and a closed status channel is only
-- received from while the remembered status is the zero one.
def careful (w : World) : Action → Bool
  | .start => w.lastConnectionStatus.event ≠ .connected
  | .receiveClosed side => w.last side = {}
  | _ => true

-- lastConnectionStatus is what was last put on the current channel, or is from before it and not Connected.
structure Valid (w : World) : Prop where
  remembered : w.loop.running = true → w.last = w.latest
  sent : w.loop.running = true → w.put.getLast? = some w.lastConnectionStatus ∨
    (w.put = [] ∧ w.lastConnectionStatus.event ≠ .connected)
  receiving : w.loop = .receiving → bothConnected w.last → w.lastConnectionStatus.event = .connected
  sending : ∀ status, w.loop = .sending status → bothConnected w.last → status.event = .connected

theorem Valid.faithful (h : Valid w) : Faithful w := by
  refine ⟨h.remembered, fun hloop hboth => ?_⟩
  have hrunning : w.loop.running = true := by rw [hloop]; rfl
  rw [← h.remembered hrunning] at hboth
  have hconnected := h.receiving hloop hboth
  obtain hlast | ⟨-, hother⟩ := h.sent hrunning
  · rw [hlast]
    exact congrArg some hconnected
  · exact absurd hconnected hother

theorem Valid.of_not_running (h : w.loop.running = false) : Valid w := by
  constructor
  · intro hrunning
    rw [h] at hrunning
    cases hrunning
  · intro hrunning
    rw [h] at hrunning
    cases hrunning
  · intro hloop
    rw [hloop] at h
    cases h
  · intro status hloop
    rw [hloop] at h
    cases h

structure SameLoop (w w' : World) : Prop where
  loop : w'.loop = w.loop
  last : w'.last = w.last
  latest : w'.latest = w.latest
  put : w'.put = w.put
  lastConnectionStatus : w'.lastConnectionStatus = w.lastConnectionStatus

theorem Valid.of_sameLoop (h : Valid w) (hsame : SameLoop w w') : Valid w' := by
  obtain ⟨hloop, hlast, hlatest, hput, hstat⟩ := hsame
  constructor
  · rw [hloop, hlast, hlatest]
    exact h.remembered
  · rw [hloop, hput, hstat]
    exact h.sent
  · rw [hloop, hlast, hstat]
    exact h.receiving
  · rw [hloop, hlast]
    exact h.sending

theorem statusToSend_connected {last : Side → SocketStatus} (h : bothConnected last) (current : SocketStatus) :
    statusToSend last current = { event := .connected } :=
  if_pos h

theorem Valid.receive (h : Valid w) (hloop : w.loop = .receiving) (side : Side) (status : SocketStatus)
    {latest : Side → SocketStatus} (hlatest : Function.update w.last side status = latest) :
    Valid { StatusLoop.receive w side status with latest := latest } := by
  have hrunning : w.loop.running = true := by rw [hloop]; rfl
  constructor
  · intro _
    exact hlatest
  · intro _
    exact h.sent hrunning
  · intro hreceiving hboth
    simp only [StatusLoop.receive] at hreceiving hboth
    rw [statusToSend_connected hboth] at hreceiving
    by_contra hother
    rw [if_pos ⟨by decide, fun heq => hother heq.symm⟩] at hreceiving
    cases hreceiving
  · intro next hsending hboth
    simp only [StatusLoop.receive] at hsending hboth
    rw [statusToSend_connected hboth] at hsending
    split at hsending
    · cases hsending
      rfl
    · cases hsending

theorem Valid.start (hcare : careful w .start = true) (h : start w = some w') : Valid w' := by
  simp only [StatusLoop.start, Option.ite_none_left_eq_some, Option.some.injEq] at h
  obtain ⟨-, rfl⟩ := h
  have hother := of_decide_eq_true hcare
  exact ⟨fun _ => rfl, fun _ => .inr ⟨rfl, hother⟩, fun _ hboth => (nomatch hboth .auth), nofun⟩

theorem Valid.deliver (hvalid : Valid w) {side : Side} (h : deliver w side = some w') : Valid w' := by
  unfold StatusLoop.deliver at h
  split at h
  · rename_i status next hloop hpushing
    cases h
    have hrunning : w.loop.running = true := by rw [hloop]; rfl
    have hmoved : Valid (setSocket w side ((w.sockets side).pushed next)) :=
      hvalid.of_sameLoop ⟨rfl, rfl, rfl, rfl, rfl⟩
    refine hmoved.receive hloop side status ?_
    rw [← hvalid.remembered hrunning]
    rfl
  · cases h

theorem Valid.receiveClosed (hvalid : Valid w) {side : Side}
    (hcare : careful w (.receiveClosed side) = true) (h : receiveClosed w side = some w') : Valid w' := by
  unfold StatusLoop.receiveClosed at h
  split at h
  · rename_i hloop hended
    cases h
    have hrunning : w.loop.running = true := by rw [hloop]; rfl
    have hzero := of_decide_eq_true hcare
    refine hvalid.receive hloop side {} ?_
    rw [← hzero, Function.update_eq_self]
    exact hvalid.remembered hrunning
  · cases h

theorem Valid.send (hvalid : Valid w) (h : send w = some w') : Valid w' := by
  unfold StatusLoop.send at h
  split at h
  · rename_i status hloop
    have hrunning : w.loop.running = true := by rw [hloop]; rfl
    simp only [Option.ite_none_right_eq_some, Option.some.injEq] at h
    obtain ⟨-, rfl⟩ := h
    refine ⟨fun _ => hvalid.remembered hrunning, fun _ => .inl ?_, fun _ hboth => ?_, nofun⟩
    · exact List.getLast?_concat
    · exact hvalid.sending status hloop hboth
  · cases h

def quiet : Action → Bool
  | .start | .deliver _ | .receiveClosed _ | .send => false
  | _ => true

theorem sameLoop_or_ended (hquiet : quiet action = true) (h : act w action = some w') :
    SameLoop w w' ∨ w'.loop.running = false := by
  cases action with
  | start | deliver _ | receiveClosed _ | send => cases hquiet
  | socket side action =>
    simp only [act, actSocket, Option.ite_none_right_eq_some, Option.map_eq_some_iff] at h
    obtain ⟨-, socket, -, rfl⟩ := h
    exact .inl ⟨rfl, rfl, rfl, rfl, rfl⟩
  | giveUp side =>
    simp only [act, giveUp] at h
    split at h
    · cases h
      exact .inl ⟨rfl, rfl, rfl, rfl, rfl⟩
    · cases h
  | read | cancelContext | close side | cancelLoops =>
    simp only [act, read, cancelContext, close, cancelLoops, Option.ite_none_right_eq_some,
      Option.some.injEq] at h
    obtain ⟨-, rfl⟩ := h
    exact .inl ⟨rfl, rfl, rfl, rfl, rfl⟩
  | exit | stop =>
    simp only [act, exit, stop, Option.ite_none_right_eq_some, Option.some.injEq] at h
    obtain ⟨-, rfl⟩ := h
    exact .inr rfl

theorem Valid.of_quiet (hvalid : Valid w) (hquiet : quiet action = true) (h : act w action = some w') : Valid w' := by
  obtain hsame | hended := sameLoop_or_ended hquiet h
  · exact hvalid.of_sameLoop hsame
  · exact .of_not_running hended

theorem Valid.step (hvalid : Valid w) (hcare : careful w action = true) (h : act w action = some w') : Valid w' := by
  cases action with
  | start => exact .start hcare h
  | deliver side => exact hvalid.deliver h
  | receiveClosed side => exact hvalid.receiveClosed hcare h
  | send => exact hvalid.send h
  | socket _ _ | giveUp _ | read | exit | cancelContext | close _ | cancelLoops | stop => exact hvalid.of_quiet rfl h

abbrev Step (w : World) (action : Action) (w' : World) : Prop := act w action = some w'

-- In every run of the loops, sockets, stops and starts whose steps are careful.
theorem faithful_of_careful {labels : List Action} {w : World}
    (h : Run (Guarded (fun w action => careful w action = true) Step) {} labels w) : Faithful w := by
  refine Valid.faithful (h.invariant (I := Valid) ?_ (.of_not_running rfl))
  intro w action w' hvalid hstep
  exact hvalid.step hstep.1 hstep.2

def connect (side : Side) : List Action := [.socket side .opened, .deliver side]

def connectBoth : List Action := .start :: connect .auth ++ connect .unauth

def reconnected : List Action :=
  connectBoth ++ [.send, .socket .unauth (.lost (some "eof") false false), .deliver .unauth, .send] ++
    connect .unauth ++ [.send]

theorem faithful_reconnected :
    ∃ w, Run (Guarded (fun w action => careful w action = true) Step) {} reconnected w ∧
      w.loop = .receiving ∧ bothConnected w.latest ∧ Faithful w := by
  have hcheck : (runThrough careful act {} reconnected).any
      (fun w => decide (w.loop = .receiving ∧ bothConnected w.latest)) = true := by decide +kernel
  obtain ⟨w, hrun, hloop, hboth⟩ := exists_run hcheck
  exact ⟨w, hrun, hloop, hboth, faithful_of_careful hrun⟩

def shutDown (side : Side) : List Action :=
  [.close side, .socket side (.lost none false false), .giveUp side, .socket side .stopped]

def restarted : List Action :=
  connectBoth ++ [.send] ++ shutDown .auth ++ shutDown .unauth ++ [.cancelLoops, .exit, .stop] ++ connectBoth

def loggedOut : List Action :=
  [.start, .socket .auth (.refused 403 "Forbidden"), .deliver .auth, .send, .receiveClosed .auth]

-- lastConnectionStatus outlives a restart, and a receive from a closed channel gives the zero status.
theorem connected_not_put_and_status_forgotten :
    (∃ w, Run Step {} restarted w ∧ w.loop = .receiving ∧ bothConnected w.latest ∧ w.put = []) ∧
    (∃ w, Run Step {} loggedOut w ∧ w.loop = .receiving ∧ (w.latest .auth).event = .loggedOut ∧
      (w.last .auth).event = .connecting) := by
  constructor
  · exact exists_free_run (by decide +kernel)
  · exact exists_free_run (by decide +kernel)

end MautrixSignal.StatusLoop
