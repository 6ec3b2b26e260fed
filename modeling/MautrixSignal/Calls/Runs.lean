import MautrixSignal.Calls.Ending

namespace MautrixSignal.Calls

open Lib Calls.Task

variable {codec : CallCodec} {choice : Choice} {b : Bridge} {o : CallOutcome} {t u : Task}
  {allowed : Ending → Prop} {n : Node} {d d' : Device} {w w' : World} {a : Action} {sent : List Packet}

inductive Task.External (b : Bridge) : Task → Prop
  | invite (portal : Portal) (evt : MatrixCall) : External b (.startOutgoing portal evt)
  | answer (i : Nat) (hi : b.active = some i) (hin : b.Has i (·.incoming = true)) :
      External b (.answerIncoming i .start)
  | candidates (i : Nat) (candidates : List MatrixCandidate) (hi : b.active = some i) :
      External b (.addMatrixCandidates i candidates)
  | localCandidate (i : Nat) (sdp : Bytes) : External b (.onLocalSignalCandidate i sdp)
  | ends (i : Nat) (call : Ending) (hi : b.active = some i) (hcall : call.message = none) :
      External b (.ending i call .once)

theorem Task.External.plain (h : u.External b) : (∀ i, u.Plain i) ∨ ∃ i, b.active = some i ∧ u.Plain i := by
  cases h with
  | invite | localCandidate => exact .inl fun _ => trivial
  | answer i hi _ | candidates i _ hi => exact .inr ⟨i, hi, trivial⟩
  | ends i call hi hcall => exact .inr ⟨i, hi, rfl, hcall, rfl⟩

inductive DeviceStep (codec : CallCodec) (n : Node) (d : Device) : Action → Device → List Packet → Prop
  | runs (place : Place) (choice : Choice) (t : Task) (o : CallOutcome) (ht : d.pool.at? place = some t)
      (hstep : t.step codec choice d.pool.state = some o) :
      DeviceStep codec n d (.run n place choice) { d with pool := d.pool.resume o place } (packets n o)
  | receives (a : Action) (evt : CallEvent) (inbox : List CallEvent) (hidle : d.pool.foreground = none) :
      DeviceStep codec n d a { pool := { d.pool with foreground := some (.handleSignalCall evt) }, inbox } []
  | getsMail (a : Action) (inbox : List CallEvent) : DeviceStep codec n d a { d with inbox } []
  | starts (a : Action) (tasks : List Task) (hstarts : ∀ u ∈ tasks, u.External d.pool.state) :
      DeviceStep codec n d a (d.start tasks) []

inductive WorldStep (codec : CallCodec) (w : World) (a : Action) : World → Prop
  | device (n : Node) (d : Device) (sent : List Packet) (h : DeviceStep codec n (w.devices n) a d sent) :
      WorldStep codec w a ({ w with network := w.network ++ sent }.setDevice n d)
  | elsewhere (p : Packet) (hp : p.foreign = true) : WorldStep codec w a { w with network := w.network ++ [p] }

theorem external_handleMatrixEvent {portal : Portal} {evt : MatrixCall}
    (hu : u ∈ handleMatrixEvent b portal evt) : u.External b := by
  unfold handleMatrixEvent at hu
  split at hu
  · rw [List.mem_singleton.mp hu]
    exact .invite portal evt
  split at hu
  · cases hu
  rename_i i s hact
  obtain ⟨hi, hs⟩ := Bridge.activeSession_eq_some.mp hact
  have hone {next : Task} (hu : u ∈ [next]) (hnext : next.External b) : u.External b :=
    List.mem_singleton.mp hu ▸ hnext
  split at hu
  · cases hu
  split at hu
  · exact hone hu (.ends i _ hi rfl)
  · exact hone hu (.ends i _ hi rfl)
  · split at hu
    · cases hu
    · rename_i hin
      split at hu
      · exact hone hu (.ends i _ hi rfl)
      · exact hone hu (.answer i hi ⟨s, hs, Bool.of_not_eq_false hin⟩)
  · exact hone hu (.candidates i _ hi)
  all_goals cases hu

theorem external_stop (hu : u ∈ stop b) : u.External b := by
  obtain ⟨i, hi, rfl⟩ := List.mem_map.mp hu
  exact .ends i _ (Option.mem_toList.mp hi) rfl

theorem worldStep_of_step (h : Step codec w a w') : WorldStep codec w a w' := by
  cases a with
  | run n place choice =>
    simp only [Step, World.step, Option.bind_eq_bind, Option.bind_eq_some_iff, Option.pure_def,
      Option.some.injEq] at h
    obtain ⟨t, ht, o, ho, rfl⟩ := h
    exact .device n _ _ (.runs place choice t o ht ho)
  | receive n =>
    simp only [Step, World.step] at h
    split at h
    · rename_i evt inbox hidle _
      cases h
      simpa using WorldStep.device n _ _ (.receives (.receive n) evt inbox hidle)
    · cases h
  | deliver n p delivery =>
    simp only [Step, World.step, Option.ite_none_right_eq_some, Option.some.injEq] at h
    obtain ⟨-, rfl⟩ := h
    simpa using WorldStep.device n _ _ (.getsMail (.deliver n p delivery) _)
  | matrix n portal evt =>
    cases h
    simpa using WorldStep.device n _ _ (.starts (.matrix n portal evt) _ fun u => external_handleMatrixEvent)
  | candidate n i sdp =>
    simp only [Step, World.step] at h
    split at h
    · cases h
      have hstarts : ∀ u ∈ [onLocalSignalCandidate i sdp], u.External (w.devices n).pool.state := by
        intro u hu
        rw [List.mem_singleton.mp hu]
        exact .localCandidate i sdp
      simpa using WorldStep.device n _ _ (.starts (.candidate n i sdp) _ hstarts)
    · cases h
  | stop n =>
    cases h
    simpa using WorldStep.device n _ _ (.starts (.stop n) _ fun u => external_stop)
  | sendForeign p =>
    simp only [Step, World.step, Option.ite_none_right_eq_some, Option.some.injEq] at h
    obtain ⟨hp, rfl⟩ := h
    exact .elsewhere p hp

theorem forall_devices_of_step (property : Node → Device → Prop) (h : Step codec w a w')
    (hall : ∀ n, property n (w.devices n))
    (hstep : ∀ n d sent, DeviceStep codec n (w.devices n) a d sent → property n d) :
    ∀ n, property n (w'.devices n) := by
  intro m
  cases worldStep_of_step h with
  | elsewhere p _ => exact hall m
  | device n d sent hd =>
    simp only [World.setDevice]
    split
    · rename_i hmn
      rw [hmn]
      exact hstep n d sent hd
    · exact hall m

theorem mem_tasks_start {tasks : List Task} : u ∈ (d.start tasks).pool.tasks ↔ u ∈ d.pool.tasks ∨ u ∈ tasks := by
  simp [Device.start, Pool.tasks, ← List.append_assoc]

theorem mem_tasks_receive {evt : CallEvent} (hidle : d.pool.foreground = none) :
    u ∈ ({ d.pool with foreground := some (.handleSignalCall evt) } : Pool Bridge Task).tasks ↔
      u = .handleSignalCall evt ∨ u ∈ d.pool.tasks := by
  simp [Pool.tasks, hidle]

theorem DeviceStep.evolves (h : DeviceStep codec n d a d' sent) : d.pool.state.Evolves d'.pool.state := by
  cases h with
  | runs place choice t o ht hstep =>
    rw [Pool.state_resume]
    exact Task.evolves hstep
  | receives | getsMail | starts => exact (Bridge.Works.refl _).evolves

theorem DeviceStep.owed {done : Bridge → Prop} {owes : Task → Prop}
    (h : DeviceStep codec n d a d' sent) (hd : d.pool.Owed done owes)
    (hdone : ∀ choice t o, t ∈ d.pool.tasks → step codec choice d.pool.state t = some o →
      done d.pool.state → done o.state ∨ ∃ u ∈ o.next, owes u)
    (howes : ∀ choice t o, t ∈ d.pool.tasks → step codec choice d.pool.state t = some o → owes t →
      done o.state ∨ ∃ u ∈ o.next, owes u) : d'.pool.Owed done owes := by
  cases h with
  | runs place choice t o ht hstep =>
    have hmem := Pool.mem_tasks_of_at ht
    exact hd.resume ht (hdone choice t o hmem hstep) (howes choice t o hmem hstep)
  | receives a evt inbox hidle =>
    exact hd.of_tasks rfl fun u hu => (mem_tasks_receive hidle).mpr (.inr hu)
  | getsMail => exact hd
  | starts a tasks _ => exact hd.of_tasks rfl fun u hu => mem_tasks_start.mpr (.inl hu)

def Device.Sound (allowed : Ending → Prop) (d : Device) : Prop :=
  d.pool.Annotated (Bridge.Inv allowed) (Holds allowed)

theorem sound_initial : Device.Sound allowed {} := by
  refine ⟨⟨?_, ?_, ?_, ?_⟩, ?_⟩
  · exact fun i hi => nomatch hi
  · exact fun i s hs => nomatch hs
  · exact fun i s call hs => nomatch hs
  · exact fun i s hs => nomatch hs
  · exact fun t ht => nomatch ht

theorem DeviceStep.sound (hallow : ∀ call, call.message = none → allowed call)
    (h : DeviceStep codec n d a d' sent) (hd : d.Sound allowed)
    (hends : ∀ place choice t, a = .run n place choice → d.pool.at? place = some t →
      Allows allowed d.pool.state t) : d'.Sound allowed := by
  cases h with
  | runs place choice t o ht hstep =>
    obtain ⟨hinv, hnext⟩ := sound hallow hstep hd.state (hd.task t (Pool.mem_tasks_of_at ht))
      (hends place choice t rfl ht)
    exact hd.resume ht hinv hnext fun u _ hu => hu.evolves (Task.evolves hstep)
  | receives a evt inbox hidle =>
    refine hd.of_tasks rfl fun u hu => ?_
    rcases (mem_tasks_receive hidle).mp hu with rfl | hold
    · exact .inr trivial
    · exact .inl hold
  | getsMail => exact hd
  | starts a tasks hstarts =>
    refine hd.of_tasks rfl fun u hu => ?_
    rcases mem_tasks_start.mp hu with hold | hnew
    · exact .inl hold
    · rcases (hstarts u hnew).plain with hfree | ⟨i, hi, hu⟩
      · exact .inr (holds_of_plain hfree)
      · obtain ⟨s, hs, -⟩ := hd.state.active i hi
        exact .inr (hu.holds hallow ⟨s, hs, trivial⟩)

def Device.Ends (d : Device) : Prop :=
  ∀ i, d.pool.Owed (Bridge.Settled i) (PastOnce i)

theorem DeviceStep.ends (h : DeviceStep codec n d a d' sent) (hd : d.Ends) : d'.Ends := by
  intro i
  refine h.owed (hd i) ?_ ?_
  · exact fun choice t o _ hstep hb => settled hstep hb
  · rintro choice t o - hstep ⟨call, place, rfl, -⟩
    exact (ending_goesOn hstep).imp_left Bridge.Has.settled

def Task.IsEnding (i : Nat) (t : Task) : Prop :=
  ∃ call place, t = .ending i call place

-- The session has ended for good, or an end of it is under way and can take its next step.
def Device.Finishing (codec : CallCodec) (d : Device) (i : Nat) : Prop :=
  (d.pool.state.Has i fun s => s.endDone = true ∧ s.ended.isSome ∧ s.cancelled = true) ∧
      d.pool.state.active ≠ some i ∨
    ∃ t ∈ d.pool.tasks, t.IsEnding i ∧ ∀ choice, (t.step codec choice d.pool.state).isSome

-- Once an end of the session has been started, it stays started until it is done.
def Device.EndStarted (d : Device) (i : Nat) : Prop :=
  d.pool.Owed (·.Has i (·.endDone = true)) (IsEnding i)

theorem DeviceStep.endStarted {i : Nat} (h : DeviceStep codec n d a d' sent) (hd : d.EndStarted i) :
    d'.EndStarted i := by
  refine h.owed hd ?_ ?_
  · intro choice t o _ hstep hdone
    exact .inl ((Task.evolves hstep).has hdone fun s s' hs he => he.endDone hs)
  · rintro choice t o - hstep ⟨call, place, rfl⟩
    refine (ending_goesOn hstep).imp_right ?_
    rintro ⟨u, hu, call', place', rfl, -⟩
    exact ⟨_, hu, call', place', rfl⟩

theorem Device.EndStarted.finishing {i : Nat} (h : d.EndStarted i) (hsound : d.Sound allowed)
    (hends : d.Ends) : d.Finishing codec i := by
  have hfin (hdone : d.pool.state.Has i (·.endDone = true)) : d.Finishing codec i := by
    obtain ⟨s, hs, hdone⟩ := hdone
    obtain ⟨hended, hcanc⟩ := hsound.state.done i s hs hdone
    refine .inl ⟨⟨s, hs, hdone, hended, hcanc⟩, fun hact => ?_⟩
    obtain ⟨s', hs', hopen⟩ := hsound.state.active i hact
    rw [Option.some.inj (hs.symm.trans hs')] at hdone
    exact absurd (hdone.symm.trans hopen) (by simp)
  rcases h with hdone | ⟨t, ht, call, place, rfl⟩
  · exact hfin hdone
  obtain ⟨hcall, s, hs, hfits⟩ := hsound.task _ ht
  have hsteps {call' : Ending} {place' : EndStep} (hne : place' ≠ .once) (choice : Choice) :
      ((ending i call' place').step codec choice d.pool.state).isSome := by
    simp only [step, hs]
    cases place' with
    | once => exact absurd rfl hne
    | _ => rfl
  cases hended : s.ended with
  | none =>
    -- Nothing has taken endOnce yet, so the task is about to.
    refine .inr ⟨_, ht, ⟨call, place, rfl⟩, fun choice => ?_⟩
    by_cases honce : place = .once
    · subst honce
      simp [step, hs, endSession, hended]
    · exact hsteps honce choice
  | some other =>
    rcases hends i with hsettled | ⟨u, hu, call', place', rfl, hne⟩
    · exact hfin ⟨s, hs, hsettled s hs (by rw [hended]; rfl)⟩
    · exact .inr ⟨_, hu, ⟨call', place', rfl⟩, hsteps hne⟩

end MautrixSignal.Calls
