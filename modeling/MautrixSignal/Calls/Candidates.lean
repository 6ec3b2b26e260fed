import MautrixSignal.Calls.Legs
import Mathlib.Algebra.Order.Group.Multiset

namespace MautrixSignal.Calls

open Lib Calls.Task Outcome

variable {codec : CallCodec} {choice : Choice} {b b' : Bridge} {o : CallOutcome} {t u : Task}
  {guard : Guard} {p p' : Pool Bridge Task} {new : List Entry} {i leg : Nat} {device : UInt32} {s : Session}
  {evt : CallEvent} {journal : List Entry} {place : Place}

abbrev CallKey := UUID × UInt64

def callOf (evt : CallEvent) : Option CallKey :=
  evt.message.map fun message => (evt.info.sender, message.id)

def Session.call (s : Session) : CallKey :=
  (s.peer.uuid, s.signalID)

def candidateFrom (device : UInt32) (evt : CallEvent) : Option Bytes :=
  evt.message.bind fun message =>
    if message.messageType = .iceUpdate ∧ message.parseError = "" ∧ evt.info.sourceDeviceID = device then
      message.iceCandidate.bind (·.addedV3)
    else none

def Entry.candidate (i : Nat) (call : CallKey) (device : UInt32) : Entry → Option Bytes
  | .handled b evt => if b.active = some i ∧ callOf evt = some call then candidateFrom device evt else none
  | _ => none

def deliveredTo (i : Nat) (s : Session) (journal : List Entry) : List Bytes :=
  journal.filterMap (Entry.candidate i s.call s.sourceDevice)

def Task.candidates (i : Nat) (device : UInt32) : Task → List Bytes
  | .handleRemoteICE j evt => if j = i ∧ evt.info.sourceDeviceID = device then [remoteSDP evt] else []
  | .answerIncoming j (.addPending _ pending) => if j = i then queuedFrom device pending else []
  | _ => []

def Task.bag (i : Nat) (device : UInt32) (t : Task) : Multiset Bytes :=
  t.candidates i device

theorem sum_bag_eq_zero {tasks : List Task} (h : ∀ u ∈ tasks, u.candidates i device = []) :
    (tasks.map (bag i device)).sum = 0 := by
  induction tasks with
  | nil => rfl
  | cons u tasks ih =>
    rw [List.map_cons, List.sum_cons, ih fun v hv => h v (List.mem_cons_of_mem u hv), bag,
      h u List.mem_cons_self]
    rfl

namespace Bridge

variable {leg : Nat}

def candidates (b : Bridge) (leg : Nat) : List Bytes :=
  (b.legs[leg]?.map (·.candidates)).getD []

def received (b : Bridge) (s : Session) : Multiset Bytes :=
  (s.signalLeg.elim [] b.candidates : List Bytes) + (queuedFrom s.sourceDevice s.pendingICE : Multiset Bytes)

theorem candidates_addCandidates (b : Bridge) (leg other : Nat) (sdps : List Bytes) (hother : leg ≠ other) :
    (b.addCandidates leg sdps).candidates other = b.candidates other := by
  simp [candidates, addCandidates, hother]

theorem candidates_addCandidates_self (hleg : leg < b.legs.length) (sdps : List Bytes) :
    (b.addCandidates leg sdps).candidates leg = b.candidates leg ++ sdps := by
  simp [candidates, addCandidates, hleg]

theorem candidates_closeLeg (b : Bridge) (leg : Option Nat) (other : Nat) :
    (b.closeLeg leg).candidates other = b.candidates other := by
  cases leg with
  | none => rfl
  | some leg =>
    by_cases hother : leg = other
    · subst hother
      cases hl : b.legs[leg]? <;> simp [candidates, closeLeg, hl]
    · simp [candidates, closeLeg, hother]

theorem candidates_newLeg (hleg : leg < b.legs.length) (new : Leg) :
    (b.newLeg new).candidates leg = b.candidates leg := by
  simp [candidates, newLeg, List.getElem?_append_left hleg]

theorem Made.lt {i : Nat} {matrix : Bool} (h : b.Made leg i matrix) : leg < b.legs.length := by
  obtain ⟨l, hl, -⟩ := h
  exact (List.getElem?_eq_some_iff.mp hl).1

end Bridge

def Task.Feeds (b : Bridge) : Task → Prop
  | .handleRemoteICE i _ => b.Has i fun _ => True
  | .handleRemoteAnswer i _ (.setRemoteAnswer (some leg) _) => b.Has i (·.signalLeg = some leg)
  | .handleRemoteAnswer i _ (.addPending leg _) => b.Has i (·.signalLeg = some leg)
  | .outgoing i _ => b.Has i (·.incoming = false)
  | .answerIncoming i (.addPending leg _) => b.Has i (·.signalLeg = some leg)
  | _ => True

def Task.CarriesEmpty (b : Bridge) (t : Task) : Prop :=
  ∀ i leg, t.carries = some (i, leg) → b.candidates leg = []

def Bridge.Flushed (b : Bridge) : Prop :=
  ∀ (i : Nat) s, b.sessions[i]? = some s → s.incoming = true → s.signalLeg.isSome → s.pendingICE = []

theorem Task.Changes.candidates (h : t.Changes b b') (ht : t.Feeds b) (hleg : leg < b.legs.length) :
    b'.candidates leg = b.candidates leg ∨
      ∃ (i : Nat) (s : Session), b.sessions[i]? = some s ∧ s.HoldsLeg leg := by
  have hadds {leg' i : Nat} {s : Session} (sdps : List Bytes) (hs : b.sessions[i]? = some s)
      (hholds : s.HoldsLeg leg') : (b.addCandidates leg' sdps).candidates leg = b.candidates leg ∨
      ∃ (i : Nat) (s : Session), b.sessions[i]? = some s ∧ s.HoldsLeg leg := by
    by_cases heq : leg' = leg
    · exact .inr ⟨i, s, hs, heq ▸ hholds⟩
    · exact .inl (b.candidates_addCandidates leg' leg sdps heq)
  cases h with
  | adds hs hsig => exact hadds _ hs (.inr hsig)
  | addsTaken | addsPending =>
    obtain ⟨s', hs', hsig⟩ := ht
    exact hadds _ hs' (.inr hsig)
  | addsMatrix hs hmx => exact hadds _ hs (.inl hmx)
  | makes => exact .inl (Bridge.candidates_newLeg hleg _)
  | drops => exact .inl (b.candidates_closeLeg _ leg)
  | closes =>
    refine .inl ?_
    rw [Bridge.candidates_closeLeg, Bridge.candidates_closeLeg]
  | _ => exact .inl rfl

theorem Task.Changes.flushed (h : t.Changes b b') (ht : t.Feeds b) (hb : b.Flushed) : b'.Flushed := by
  have hmod {j : Nat} {f : Session → Session}
      (hf : ∀ s, b.sessions[j]? = some s → (f s).incoming = true → (f s).signalLeg.isSome →
        (f s).pendingICE = []) : (b.modifySession j f).Flushed := by
    intro i s' hs' hin hleg
    rw [Bridge.getElem?_modifySession] at hs'
    split at hs'
    · rename_i hji
      subst hji
      obtain ⟨s, hs, rfl⟩ := Option.map_eq_some_iff.mp hs'
      exact hf s hs hin hleg
    · exact hb i s' hs' hin hleg
  have hactivate {session : Session} (hsess : session.signalLeg = none) :
      (b.activate session).Flushed := by
    intro i s' hs' hin hleg
    rcases Bridge.getElem?_activate hs' with hold | ⟨-, rfl⟩
    · exact hb i s' hold hin hleg
    · rw [hsess] at hleg
      cases hleg
  cases h with
  | queues hs hleg =>
    refine hmod fun s' hs' hin hsome => ?_
    obtain rfl := Option.some.inj (hs.symm.trans hs')
    rw [hleg hin] at hsome
    cases hsome
  | takes | storesAnswering => exact hmod fun _ _ _ _ => rfl
  | claims | calls => exact hactivate rfl
  | storesRinging | storesCalling | answers | ends | cancels => exact hmod fun s hs => hb _ s hs
  | storesSignal hs =>
    refine hmod fun s' hs' hin _ => ?_
    obtain ⟨s'', hs'', hout⟩ := ht
    obtain rfl := Option.some.inj (hs'.symm.trans hs'')
    exact nomatch hout.symm.trans hin
  | closes =>
    intro i s' hs'
    rw [Bridge.sessions_closeLeg, Bridge.sessions_closeLeg] at hs'
    exact hb i s' hs'
  | clears => exact hmod (f := fun s => { s with endDone := true }) fun s hs => hb _ s hs
  | _ => exact hb

-- What a step of the device adds to the Signal leg of a session comes with an ICE message that the session
-- takes, or was queued by the device the session talks to.
theorem Task.Changes.signalLeg_cases (h : t.Changes b b') (ht : t.Feeds b) (hlegs : b.LegsFit)
    (hs : b.sessions[i]? = some s) (hleg : s.signalLeg = some leg) :
    b'.candidates leg = b.candidates leg ∨ ∃ sdps, b'.candidates leg = b.candidates leg ++ sdps ∧
      ((∃ evt, t = .handleRemoteICE i evt ∧ sdps = [remoteSDP evt] ∧
          (s.incoming = true ∧ s.sourceDevice = 0 ∨ s.sourceDevice = evt.info.sourceDeviceID)) ∨
        ∃ pending, sdps = queuedFrom s.sourceDevice pending ∧
          ((∃ evt, t = .handleRemoteAnswer i evt (.addPending leg pending)) ∨
            t = .answerIncoming i (.addPending leg pending))) := by
  have hadds {j leg' : Nat} {s' : Session} (sdps : List Bytes) (hs' : b.sessions[j]? = some s')
      (hleg' : s'.signalLeg = some leg') :
      (b.addCandidates leg' sdps).candidates leg = b.candidates leg ∨ j = i ∧ leg' = leg ∧
        (b.addCandidates leg' sdps).candidates leg = b.candidates leg ++ sdps := by
    by_cases heq : leg' = leg
    · subst heq
      have hmade := (hlegs i s leg' hs).2 hleg
      exact .inr ⟨(((hlegs j s' leg' hs').2 hleg').unique hmade).1, rfl,
        Bridge.candidates_addCandidates_self hmade.lt sdps⟩
    · exact .inl (b.candidates_addCandidates leg' leg sdps heq)
  cases h with
  | adds hs' hleg' hdev =>
    refine (hadds _ hs' hleg').imp_right ?_
    rintro ⟨rfl, rfl, hadd⟩
    obtain rfl := Option.some.inj (hs.symm.trans hs')
    exact ⟨_, hadd, .inl ⟨_, rfl, rfl, hdev⟩⟩
  | addsTaken hs' =>
    obtain ⟨s', hs'', hleg'⟩ := ht
    refine (hadds _ hs'' hleg').imp_right ?_
    rintro ⟨rfl, rfl, hadd⟩
    obtain rfl := Option.some.inj (hs.symm.trans hs')
    exact ⟨_, hadd, .inr ⟨_, rfl, .inl ⟨_, rfl⟩⟩⟩
  | addsPending hs' =>
    obtain ⟨s', hs'', hleg'⟩ := ht
    refine (hadds _ hs'' hleg').imp_right ?_
    rintro ⟨rfl, rfl, hadd⟩
    obtain rfl := Option.some.inj (hs.symm.trans hs')
    exact ⟨_, hadd, .inr ⟨_, rfl, .inr rfl⟩⟩
  | addsMatrix hs' hleg' =>
    refine .inl (b.candidates_addCandidates _ leg _ ?_)
    rintro rfl
    exact nomatch (((hlegs i s _ hs).2 hleg).unique ((hlegs _ _ _ hs').1 hleg')).2
  | makes => exact .inl (Bridge.candidates_newLeg ((hlegs i s leg hs).2 hleg).lt _)
  | drops => exact .inl (b.candidates_closeLeg _ leg)
  | closes =>
    refine .inl ?_
    rw [Bridge.candidates_closeLeg, Bridge.candidates_closeLeg]
  | _ => exact .inl rfl

def Session.SameQueue (s s' : Session) : Prop :=
  s'.incoming = s.incoming ∧ s'.call = s.call ∧ s'.sourceDevice = s.sourceDevice ∧
    s'.signalLeg = s.signalLeg ∧ s'.pendingICE = s.pendingICE

structure Bridge.Keeps (b b' : Bridge) (i : Nat) (s : Session) : Prop where
  has : b'.Has i s.SameQueue
  leg : ∀ leg, s.signalLeg = some leg → b'.candidates leg = b.candidates leg

theorem Bridge.sameQueue_modifySession {j : Nat} {f : Session → Session} (hs : b.sessions[i]? = some s)
    (hf : j = i → s.SameQueue (f s)) : (b.modifySession j f).Has i s.SameQueue := by
  by_cases hji : j = i
  · subst hji
    exact has_modifySession hs (hf rfl)
  · refine ⟨s, ?_, rfl, rfl, rfl, rfl, rfl⟩
    rw [getElem?_modifySession, if_neg hji]
    exact hs

theorem Task.Changes.keeps (h : t.Changes b b') (ht : t.Feeds b) (hholds : t.Holds (fun _ => True) b)
    (hlegs : b.LegsFit) (hs : b.sessions[i]? = some s) (hin : s.incoming = true)
    (hmoves : t.movesCandidates = true → t.session ≠ some i) : b.Keeps b' i s := by
  have hout {j : Nat} (hj : b.Has j (·.incoming = false)) : j ≠ i := by
    rintro rfl
    obtain ⟨s', hs', hfalse⟩ := hj
    rw [Option.some.inj (hs'.symm.trans hs), hin] at hfalse
    cases hfalse
  refine ⟨?_, fun leg hleg => ?_⟩
  · have hsame : s.SameQueue s := ⟨rfl, rfl, rfl, rfl, rfl⟩
    have hother {j : Nat} {s' : Session} (hj : t.session = some j) (hm : t.movesCandidates = true)
        (hji : j = i) : s.SameQueue s' := absurd (hji ▸ hj) (hmoves hm)
    cases h with
    | queues | storesAnswering => exact Bridge.sameQueue_modifySession hs (hother rfl rfl)
    | takes => exact Bridge.sameQueue_modifySession hs fun hji => absurd hji (hout hholds)
    | storesSignal => exact Bridge.sameQueue_modifySession hs fun hji => absurd hji (hout ht)
    | claims | calls => exact ⟨s, Bridge.getElem?_activate_of_some hs _, hsame⟩
    | storesRinging | storesCalling | answers | ends | cancels =>
      exact Bridge.sameQueue_modifySession hs fun _ => ⟨rfl, rfl, rfl, rfl, rfl⟩
    | closes =>
      refine ⟨s, ?_, hsame⟩
      rw [Bridge.sessions_closeLeg, Bridge.sessions_closeLeg]
      exact hs
    | clears =>
      exact Bridge.sameQueue_modifySession (f := fun s => { s with endDone := true }) hs
        fun _ => ⟨rfl, rfl, rfl, rfl, rfl⟩
    | _ => exact ⟨s, hs, hsame⟩
  · rcases h.signalLeg_cases ht hlegs hs hleg with hsame | ⟨_, _, ⟨_, rfl, _⟩ | ⟨_, _, ⟨_, rfl⟩ | rfl⟩⟩
    · exact hsame
    · exact absurd rfl (hmoves rfl)
    · obtain ⟨s', hs', hfalse, -⟩ := hholds
      exact absurd rfl (hout ⟨s', hs', hfalse⟩)
    · exact absurd rfl (hmoves rfl)

def Bridge.Moves (b b' : Bridge) (i : Nat) (s : Session) (gets gives : Multiset Bytes) : Prop :=
  b'.Has i fun s' => s'.incoming = s.incoming ∧ s'.call = s.call ∧ s'.sourceDevice = s.sourceDevice ∧
    b'.received s' + gives = b.received s + gets

theorem Bridge.Keeps.moves (h : b.Keeps b' i s) : b.Moves b' i s 0 0 := by
  obtain ⟨⟨s', hs', hin, hcall, hdev, hsig, hpend⟩, hleg⟩ := h
  refine ⟨s', hs', hin, hcall, hdev, ?_⟩
  unfold Bridge.received
  rw [hsig, hpend, hdev]
  cases hleg' : s.signalLeg with
  | none => rfl
  | some leg => simp only [Option.elim_some, hleg leg hleg']

theorem addPending_of_next {place : AnswerStep} {pending : List RemoteCandidate}
    (hu : .answerIncoming i (.addPending leg pending) ∈ (answerIncoming codec b i s choice place).next) :
    place = .storeSignalLeg leg ∧ pending = s.pendingICE := by
  cases place with
  | storeSignalLeg leg' =>
    obtain ⟨rfl, rfl⟩ : leg = leg' ∧ pending = s.pendingICE := by
      simpa [answerIncoming, next] using hu
    exact ⟨rfl, rfl⟩
  | addPending => simp [answerIncoming, next] at hu
  | startRelays => cases hok : choice.ok <;> simp [answerIncoming, startRelays, hok, endNow, next] at hu
  | _ =>
    simp only [answerIncoming] at hu
    split_ifs at hu <;> simp [endNow, next] at hu

theorem Task.candidates_of_session (hi : u.session ≠ some i) : u.candidates i device = [] := by
  unfold candidates
  split
  · have hji := fun heq => hi (congrArg some heq)
    rw [if_neg fun h => hji h.1]
  · have hji := fun heq => hi (congrArg some heq)
    rw [if_neg hji]
  · rfl

theorem Task.candidates_next (h : t.step codec choice b = some o) (ht : ∀ evt, t ≠ .handleSignalCall evt)
    (hstore : ∀ leg, t ≠ .answerIncoming i (.storeSignalLeg leg)) (hu : u ∈ o.next) : u.candidates i device = [] := by
  cases leads h hu with
  | ice => exact absurd rfl (ht _)
  | answers =>
    rename_i j place place' _
    obtain ⟨s, -, rfl⟩ := Option.map_eq_some_iff.mp h
    cases place' with
    | addPending leg pending =>
      obtain ⟨rfl, -⟩ := addPending_of_next hu
      refine candidates_of_session fun hj => hstore leg ?_
      rw [Option.some.inj hj]
    | _ => rfl
  | _ => rfl

theorem candidateFrom_eq_some {sdp : Bytes} :
    candidateFrom device evt = some sdp ↔ ∃ message, evt.message = some message ∧
      message.messageType = .iceUpdate ∧ message.parseError = "" ∧ evt.info.sourceDeviceID = device ∧
      message.iceCandidate.bind (·.addedV3) = some sdp := by
  simp [candidateFrom, Option.bind_eq_some_iff, and_assoc]

theorem callOf_eq_iff {message : DecodedCallMessage} (hmsg : evt.message = some message) :
    callOf evt = some s.call ↔ s.signalID = message.id ∧ s.peer.uuid = evt.info.sender := by
  simp only [callOf, hmsg, Option.map_some, Option.some.injEq, Session.call, Prod.mk.injEq]
  exact ⟨fun h => ⟨h.2.symm, h.1.symm⟩, fun h => ⟨h.2.symm, h.1.symm⟩⟩

theorem next_of_candidate {sdp : Bytes} (hs : b.sessions[i]? = some s)
    (h : (Entry.handled b evt).candidate i s.call device = some sdp) :
    (handleSignalCall b evt).next = [.handleRemoteICE i evt] ∧ evt.info.sourceDeviceID = device ∧
      remoteSDP evt = sdp := by
  simp only [Entry.candidate, Option.ite_none_right_eq_some] at h
  obtain ⟨⟨hact, hcall⟩, hfrom⟩ := h
  obtain ⟨message, hmsg, hice, hparse, hdev, hadd⟩ := candidateFrom_eq_some.mp hfrom
  obtain ⟨candidate, hcandidate, haddedV3⟩ := Option.bind_eq_some_iff.mp hadd
  obtain ⟨hid, hpeer⟩ := (callOf_eq_iff hmsg).mp hcall
  have hsess := Bridge.activeSession_eq_some.mpr ⟨hact, hs⟩
  refine ⟨?_, hdev, by simp [remoteSDP, hmsg, hcandidate, haddedV3]⟩
  simp [handleSignalCall, hmsg, hice, hparse, hcandidate, haddedV3, findForICE, hsess, hid, hpeer,
    next]

theorem candidate_of_next {evt' : CallEvent} (hs : b.sessions[i]? = some s)
    (hu : .handleRemoteICE i evt' ∈ (handleSignalCall b evt).next) :
    evt' = evt ∧ ((Entry.handled b evt).candidate i s.call evt.info.sourceDeviceID).isSome := by
  obtain ⟨message, hmsg, ⟨-, heq⟩ | ⟨hice, hparse, hfind⟩ | ⟨-, hfind⟩ | ⟨-, _, _, -, heq⟩⟩ :=
    next_handleSignalCall hu
  · cases heq
  · obtain ⟨j, s', hsess, hid, hpeer, hadd, heq⟩ := findForICE_eq_some hfind
    cases heq
    obtain ⟨hact, hs'⟩ := Bridge.activeSession_eq_some.mp hsess
    obtain rfl := Option.some.inj (hs.symm.trans hs')
    refine ⟨rfl, ?_⟩
    rw [Entry.candidate, if_pos ⟨hact, (callOf_eq_iff hmsg).mpr ⟨hid, hpeer⟩⟩]
    obtain ⟨sdp, hsdp⟩ := Option.ne_none_iff_exists'.mp hadd
    exact Option.isSome_iff_exists.mpr
      ⟨sdp, candidateFrom_eq_some.mpr ⟨message, hmsg, hice, hparse, rfl, hsdp⟩⟩
  · obtain ⟨_, _, -, -, heq⟩ := findForAnswer_eq_some hfind
    cases heq
  · cases heq

theorem bag_handleSignalCall (hs : b.sessions[i]? = some s) (evt : CallEvent) :
    ((handleSignalCall b evt).next.map (bag i s.sourceDevice)).sum =
      deliveredTo i s [.handled b evt] := by
  cases hentry : (Entry.handled b evt).candidate i s.call s.sourceDevice with
  | some sdp =>
    obtain ⟨hnext, hdev, rfl⟩ := next_of_candidate hs hentry
    simp [hnext, bag, candidates, deliveredTo, hentry, hdev]
  | none =>
    have hnothing : ∀ u ∈ (handleSignalCall b evt).next, u.candidates i s.sourceDevice = [] := by
      intro u hu
      cases u with
      | handleRemoteICE j evt' =>
        refine if_neg ?_
        rintro ⟨rfl, hdev⟩
        obtain ⟨rfl, hsome⟩ := candidate_of_next hs hu
        rw [hdev, hentry] at hsome
        cases hsome
      | answerIncoming =>
        cases leads_handleSignalCall hu
      | _ => rfl
    rw [deliveredTo, List.filterMap_cons_none hentry, sum_bag_eq_zero hnothing]
    rfl

theorem queuedFrom_append (device : UInt32) (pending : List RemoteCandidate) (candidate : RemoteCandidate) :
    queuedFrom device (pending ++ [candidate]) =
      queuedFrom device pending ++ if candidate.device = device then [candidate.sdp] else [] := by
  simp only [queuedFrom]
  by_cases hdev : candidate.device = device <;> simp [hdev]

theorem received_addCandidates (hleg : s.signalLeg = some leg) (hmade : b.Made leg i false) (sdps : List Bytes) :
    (b.addCandidates leg sdps).received s = b.received s + sdps := by
  simp only [Bridge.received, hleg, Option.elim_some, Bridge.candidates_addCandidates_self hmade.lt]
  rw [← Multiset.coe_add]
  abel

theorem moves_handleRemoteICE (hs : b.sessions[i]? = some s) (hin : s.incoming = true) (hlegs : b.LegsFit)
    (h : (Task.handleRemoteICE i evt).Changes b b') :
    ∃ others, b.Moves b' i s ((Task.handleRemoteICE i evt).bag i s.sourceDevice + others) 0 ∧
      (s.sourceDevice ≠ 0 → others = 0) := by
  have hbag : (Task.handleRemoteICE i evt).bag i s.sourceDevice =
      ((if evt.info.sourceDeviceID = s.sourceDevice then [remoteSDP evt] else [] : List Bytes) :
        Multiset Bytes) := by
    simp [bag, candidates]
  rw [hbag]
  cases h with
  | rests ht | makes ht => exact nomatch ht
  | ignores hs' hzero hother =>
    obtain rfl := Option.some.inj (hs.symm.trans hs')
    refine ⟨0, ⟨s, hs, rfl, rfl, rfl, ?_⟩, fun _ => rfl⟩
    rw [if_neg (Ne.symm hother)]
    simp
  | queues hs' hleg =>
    obtain rfl := Option.some.inj (hs.symm.trans hs')
    refine ⟨0, ⟨_, Bridge.getElem?_modifySession_self hs, rfl, rfl, rfl, ?_⟩, fun _ => rfl⟩
    simp only [Bridge.received, hleg hin, queuedFrom_append]
    simp
  | adds hs' hleg hdev =>
    obtain rfl := Option.some.inj (hs.symm.trans hs')
    have hmade := (hlegs i s _ hs).2 hleg
    by_cases hsame : evt.info.sourceDeviceID = s.sourceDevice
    · refine ⟨0, ⟨s, hs, rfl, rfl, rfl, ?_⟩, fun _ => rfl⟩
      rw [received_addCandidates hleg hmade, if_pos hsame]
      simp
    · refine ⟨[remoteSDP evt], ⟨s, hs, rfl, rfl, rfl, ?_⟩, fun hzero => ?_⟩
      · rw [received_addCandidates hleg hmade, if_neg hsame]
        simp
      · rcases hdev with hdev | hdev
        · exact absurd hdev.2 hzero
        · exact absurd hdev.symm hsame

theorem moves_storeSignalLeg (hs : b.sessions[i]? = some s) (hnone : s.signalLeg = none)
    (hemp : b.candidates leg = []) (h : (Task.answerIncoming i (.storeSignalLeg leg)).Changes b b') :
    b.Moves b' i s 0 (queuedFrom s.sourceDevice s.pendingICE) := by
  cases h with
  | rests ht | makes ht => exact nomatch ht
  | storesAnswering hs' =>
    refine ⟨_, Bridge.getElem?_modifySession_self hs, rfl, rfl, rfl, ?_⟩
    have hlegs : (b.modifySession i fun s => { s with signalLeg := some leg, pendingICE := [] }).candidates leg =
        [] := hemp
    simp [Bridge.received, hlegs, hnone, queuedFrom]

theorem moves_addPending {pending : List RemoteCandidate} (hs : b.sessions[i]? = some s)
    (hleg : s.signalLeg = some leg) (hlegs : b.LegsFit)
    (h : (Task.answerIncoming i (.addPending leg pending)).Changes b b') :
    b.Moves b' i s ((Task.answerIncoming i (.addPending leg pending)).bag i s.sourceDevice) 0 := by
  cases h with
  | rests ht | makes ht => exact nomatch ht
  | addsPending hs' =>
    obtain rfl := Option.some.inj (hs.symm.trans hs')
    refine ⟨s, hs, rfl, rfl, rfl, ?_⟩
    rw [received_addCandidates hleg ((hlegs i s leg hs).2 hleg)]
    simp [bag, candidates]

theorem feeds_handleRemoteAnswer {ok : Bool} {place place' : RemoteAnswerStep} (hs : b.sessions[i]? = some s)
    (ht : (Task.handleRemoteAnswer i evt place).Feeds b)
    (hu : .handleRemoteAnswer i evt place' ∈ (handleRemoteAnswer b i s evt ok place).next) :
    (Task.handleRemoteAnswer i evt place').Feeds (handleRemoteAnswer b i s evt ok place).state := by
  cases place with
  | take =>
    simp only [handleRemoteAnswer] at hu ⊢
    split at hu
    · simp [next] at hu
    rename_i hfree
    rw [if_neg hfree]
    obtain rfl : place' = .setRemoteAnswer s.signalLeg s.pendingICE := by
      simpa [next] using hu
    cases hleg : s.signalLeg with
    | none => trivial
    | some leg => exact Bridge.has_modifySession hs hleg
  | setRemoteAnswer leg pending =>
    simp only [handleRemoteAnswer] at hu ⊢
    split at hu
    · obtain rfl : place' = .addPending _ pending := by simpa [next] using hu
      exact ht
    · simp [endNow, next] at hu
  | addPending leg pending =>
    obtain rfl : place' = .connect := by simpa [handleRemoteAnswer, next] using hu
    trivial
  | connect | waitAccepted | sendMatrixAnswer =>
    cases ok <;> simp [handleRemoteAnswer, endNow, next] at hu
    subst hu
    trivial
  | sendAccepted =>
    obtain rfl : place' = .sendMatrixAnswer := by simpa [handleRemoteAnswer, next] using hu
    trivial
  | startRelays => cases ok <;> simp [handleRemoteAnswer, startRelays, endNow, next] at hu

theorem feeds_startOutgoing {portal : Portal} {invite : MatrixCall} {place : OutgoingStep}
    (hu : .outgoing i place ∈ (startOutgoing b portal invite choice).next) :
    (startOutgoing b portal invite choice).state.Has i (·.incoming = false) := by
  unfold startOutgoing at hu ⊢
  split at hu
  · split at hu
    · simp [next] at hu
    · rename_i hok
      obtain ⟨rfl, -⟩ : i = b.sessions.length ∧ place = .newLeg := by simpa [next] using hu
      simp only [if_neg hok]
      exact ⟨_, b.getElem?_activate_length _, rfl⟩
  · simp [next] at hu

theorem Task.feeds_next (h : t.step codec choice b = some o) (ht : t.Feeds b) (hu : u ∈ o.next) : u.Feeds o.state := by
  cases leads h hu with
  | ice =>
    cases h
    rw [state_handleSignalCall]
    obtain ⟨message, -, ⟨-, heq⟩ | ⟨-, -, hfind⟩ | ⟨-, hfind⟩ | ⟨-, _, _, -, heq⟩⟩ := next_handleSignalCall hu
    · cases heq
    · obtain ⟨j, s, hact, -, -, -, heq⟩ := findForICE_eq_some hfind
      cases heq
      exact ⟨s, (Bridge.activeSession_eq_some.mp hact).2, trivial⟩
    · obtain ⟨j, s, -, -, heq⟩ := findForAnswer_eq_some hfind
      cases heq
    · cases heq
  | remoteAnswer =>
    obtain ⟨s, hs, rfl⟩ := Option.map_eq_some_iff.mp h
    exact feeds_handleRemoteAnswer hs ht hu
  | call =>
    cases h
    exact feeds_startOutgoing hu
  | calls => exact (evolves h).has ht fun s s' hs he => he.incoming.trans hs
  | answers =>
    rename_i i place place' _
    obtain ⟨s, hs, rfl⟩ := Option.map_eq_some_iff.mp h
    cases place' with
    | addPending leg pending =>
      obtain ⟨rfl, -⟩ := addPending_of_next hu
      exact Bridge.has_modifySession hs rfl
    | _ => trivial
  | _ => trivial

theorem Task.Feeds.step (hu : u.Feeds b) (he : b.Evolves b')
    (hstays : ∀ i leg, b.Has i (·.signalLeg = some leg) → b'.Has i (·.signalLeg = some leg)) : u.Feeds b' := by
  cases u with
  | handleRemoteICE i evt => exact he.has hu fun _ _ _ _ => trivial
  | handleRemoteAnswer i evt place =>
    cases place with
    | setRemoteAnswer leg pending =>
      cases leg with
      | none => trivial
      | some leg => exact hstays i leg hu
    | addPending leg pending => exact hstays i leg hu
    | _ => trivial
  | outgoing i place => exact he.has hu fun s s' hs he => he.incoming.trans hs
  | answerIncoming i place =>
    cases place with
    | addPending leg pending => exact hstays i leg hu
    | _ => trivial
  | _ => trivial

-- The candidates of a caller are on the Signal leg, in the queue or on their way there, each as often as it
-- was delivered.
structure TakesCandidates (p : Pool Bridge Task) (journal : List Entry) : Prop extends PlacesLegs p where
  feeds : p.Annotated Bridge.Flushed Feeds
  empty : ∀ t ∈ p.tasks, t.CarriesEmpty p.state
  known : ∀ b evt i, .handled b evt ∈ journal → b.active = some i → i < p.state.sessions.length
  balanced : ∀ (i : Nat) s, p.state.sessions[i]? = some s → s.incoming = true →
    ∃ others, p.state.received s + p.total (bag i s.sourceDevice) = deliveredTo i s journal + others ∧
      (s.sourceDevice ≠ 0 → others = 0)

theorem takesCandidates_initial : TakesCandidates { state := {} } [] where
  toPlacesLegs := placesLegs_initial
  feeds := ⟨fun _ _ hs => (nomatch hs), fun _ ht => (nomatch ht)⟩
  empty := fun _ ht => nomatch ht
  known := fun _ _ _ hmem => nomatch hmem
  balanced := fun _ _ hs => nomatch hs

theorem deliveredTo_entries (ht : ∀ evt, t ≠ .handleSignalCall evt) : deliveredTo i s (t.entries b choice) = [] := by
  refine List.filterMap_eq_nil_iff.mpr fun entry hentry => ?_
  cases entry with
  | handled b' evt => exact absurd (handled_of_entries hentry).1 (ht evt)
  | _ => rfl

theorem Task.bag_eq_zero (hmoves : t.movesCandidates = true → t.session ≠ some i) : t.bag i device = 0 := by
  have hnone : t.candidates i device = [] := by
    cases hm : t.movesCandidates with
    | true => exact candidates_of_session (hmoves hm)
    | false =>
      unfold candidates
      split
      · cases hm
      · cases hm
      · rfl
  unfold bag
  rw [hnone]
  rfl

theorem TakesCandidates.step_balanced (hp : TakesCandidates p journal) (hsound : SoundPool p)
    (ht : t ∈ p.tasks) (hstep : t.step codec choice p.state = some o) (hs : p.state.sessions[i]? = some s)
    (hin : s.incoming = true) :
    ∃ s' others, o.state.sessions[i]? = some s' ∧ s'.incoming = s.incoming ∧ s'.call = s.call ∧
      s'.sourceDevice = s.sourceDevice ∧ (s.sourceDevice ≠ 0 → others = 0) ∧
      o.state.received s' + (o.next.map (bag i s.sourceDevice)).sum =
        p.state.received s + t.bag i s.sourceDevice +
          (deliveredTo i s (t.entries p.state choice) + others) := by
  have hfeeds := hp.feeds.task t ht
  have hchanges := changes hstep
  by_cases hcall : ∃ evt, t = .handleSignalCall evt
  · obtain ⟨evt, rfl⟩ := hcall
    cases hstep
    have hnothing : (Task.handleSignalCall evt).bag i s.sourceDevice = 0 := rfl
    rw [bag_handleSignalCall hs, hnothing, state_handleSignalCall]
    exact ⟨s, 0, hs, rfl, rfl, rfl, fun _ => rfl, by simp [entries]⟩
  push Not at hcall
  rw [deliveredTo_entries hcall]
  have hquiet (hstore : ∀ leg, t ≠ .answerIncoming i (.storeSignalLeg leg)) :
      (o.next.map (bag i s.sourceDevice)).sum = 0 :=
    sum_bag_eq_zero fun u hu => candidates_next hstep hcall hstore hu
  by_cases hmoves : t.movesCandidates = true → t.session ≠ some i
  · obtain ⟨s', hs', hsame, hkey, hdev, heq⟩ :=
      (hchanges.keeps hfeeds (hsound.task t ht) hp.fits.state hs hin hmoves).moves
    refine ⟨s', 0, hs', hsame, hkey, hdev, fun _ => rfl, ?_⟩
    have hstore (leg : Nat) : t ≠ .answerIncoming i (.storeSignalLeg leg) := by
      rintro rfl
      exact hmoves rfl rfl
    rw [hquiet hstore, bag_eq_zero hmoves, heq, Multiset.coe_nil, add_zero, add_zero, add_zero]
  push Not at hmoves
  obtain ⟨hmoves, hsess⟩ := hmoves
  cases t with
  | handleRemoteICE j evt =>
    cases hsess
    obtain ⟨others, ⟨s', hs', hsame, hkey, hdev, heq⟩, hothers⟩ :=
      moves_handleRemoteICE hs hin hp.fits.state hchanges
    refine ⟨s', others, hs', hsame, hkey, hdev, hothers, ?_⟩
    rw [hquiet (by simp), heq, Multiset.coe_nil, zero_add, add_assoc]
  | answerIncoming j place =>
    obtain rfl := Option.some.inj hsess
    cases place with
    | storeSignalLeg leg =>
      have hcredit := (hp.signal j).credit_eq_zero ht (decide_eq_true rfl)
      have hnone : s.signalLeg = none := by
        cases hleg : s.signalLeg with
        | none => rfl
        | some leg' => simp [Ticket.credit, signalTicket, hs, hleg] at hcredit
      obtain ⟨s', hs', hsame, hkey, hdev, heq⟩ :=
        moves_storeSignalLeg hs hnone (hp.empty _ ht j leg rfl) hchanges
      refine ⟨s', 0, hs', hsame, hkey, hdev, fun _ => rfl, ?_⟩
      obtain ⟨s₁, hs₁, rfl⟩ := Option.map_eq_some_iff.mp hstep
      obtain rfl := Option.some.inj (hs.symm.trans hs₁)
      have hnext : ((answerIncoming codec p.state j s choice (.storeSignalLeg leg)).next.map
          (bag j s.sourceDevice)).sum = queuedFrom s.sourceDevice s.pendingICE := by
        simp [answerIncoming, next, bag, candidates]
      have hnothing : (Task.answerIncoming j (.storeSignalLeg leg)).bag j s.sourceDevice = 0 := rfl
      rw [hnext, heq, hnothing, Multiset.coe_nil, add_zero, add_zero, add_zero]
    | addPending leg pending =>
      obtain ⟨s₁, hs₁, hleg⟩ := hfeeds
      obtain rfl := Option.some.inj (hs.symm.trans hs₁)
      obtain ⟨s', hs', hsame, hkey, hdev, heq⟩ := moves_addPending hs hleg hp.fits.state hchanges
      refine ⟨s', 0, hs', hsame, hkey, hdev, fun _ => rfl, ?_⟩
      rw [hquiet (by simp), heq, Multiset.coe_nil, add_zero, add_zero]
    | _ => cases hmoves
  | _ => cases hmoves

theorem TakesCandidates.empty_step (hp : TakesCandidates p journal) (ht : t ∈ p.tasks)
    (hstep : t.step codec choice p.state = some o) (hu : u ∈ p.tasks) : u.CarriesEmpty o.state := by
  intro i leg hcarries
  have hmade := (hp.fits.task u hu).1 i leg hcarries
  rcases (changes hstep).candidates (hp.feeds.task t ht) hmade.lt with hsame | ⟨j, s, hs, hholds⟩
  · rw [hsame]
    exact hp.empty u hu i leg hcarries
  · exact absurd hholds (hp.not_holdsLeg hu hcarries hs)

theorem LegStep.carriesEmpty (h : LegStep b t o) (hu : u ∈ o.next) : u.CarriesEmpty o.state := by
  intro i leg hcarries
  rcases h.next_cases hu with hfree | ⟨_, _, hb, -, -, hemp, hmade⟩
  · exact nomatch hfree.1.symm.trans hcarries
  · obtain ⟨-, rfl⟩ := Prod.mk.inj (Option.some.inj (hmade.symm.trans hcarries))
    rw [hb]
    simp [Bridge.candidates, Bridge.newLeg, hemp]

theorem Task.Feeds.candidates_eq_nil (hu : u.Feeds b) (hi : b.sessions.length ≤ i) (device : UInt32) :
    u.candidates i device = [] := by
  have hlt {j : Nat} {property : Session → Prop} (hj : b.Has j property) : j ≠ i := by
    rintro rfl
    obtain ⟨s, hs, -⟩ := hj
    exact absurd (List.getElem?_eq_some_iff.mp hs).1 (Nat.not_lt.mpr hi)
  unfold candidates
  split
  · exact if_neg fun h => hlt hu h.1
  · exact if_neg (hlt hu)
  · rfl

theorem TakesCandidates.deliveredTo_eq_nil (hp : TakesCandidates p journal) (hi : p.state.sessions.length ≤ i)
    (s : Session) : deliveredTo i s journal = [] := by
  refine List.filterMap_eq_nil_iff.mpr fun entry hentry => ?_
  cases entry with
  | handled b evt =>
    refine if_neg fun h => ?_
    exact absurd (hp.known b evt i hentry h.1) (Nat.not_lt.mpr hi)
  | _ => rfl

theorem deliveredTo_append {s' : Session} (hcall : s'.call = s.call)
    (hdev : s'.sourceDevice = s.sourceDevice) (journal new : List Entry) :
    deliveredTo i s' (journal ++ new) = deliveredTo i s journal ++ deliveredTo i s new := by
  unfold deliveredTo
  rw [hcall, hdev, List.filterMap_append]

theorem TakesCandidates.balanced_resume (hp : TakesCandidates p journal) (hsound : SoundPool p)
    (ht : p.at? place = some t) (hstep : t.step codec choice p.state = some o) {s' : Session}
    (hs : p.state.sessions[i]? = some s) (hs' : o.state.sessions[i]? = some s') (hin : s'.incoming = true) :
    ∃ others, o.state.received s' + (p.resume o place).total (bag i s'.sourceDevice) =
      deliveredTo i s' (journal ++ t.entries p.state choice) + others ∧ (s'.sourceDevice ≠ 0 → others = 0) := by
  obtain ⟨s'', hs'', he⟩ := evolves hstep i s hs
  obtain rfl := Option.some.inj (hs'.symm.trans hs'')
  have hin' := he.incoming.symm.trans hin
  obtain ⟨others, heq, hothers⟩ := hp.balanced i s hs hin'
  obtain ⟨s'', others', hs'', -, hcall, hdev, hothers', hmoved⟩ :=
    hp.step_balanced hsound (Pool.mem_tasks_of_at ht) hstep hs hin'
  obtain rfl := Option.some.inj (hs'.symm.trans hs'')
  refine ⟨others + others', ?_, fun hzero => ?_⟩
  · rw [hdev, Pool.balance_resume ht hmoved, heq, deliveredTo_append hcall hdev, ← Multiset.coe_add]
    abel
  · rw [hdev] at hzero
    rw [hothers hzero, hothers' hzero, add_zero]

theorem TakesCandidates.balanced_new (hp : TakesCandidates p journal) {message : DecodedCallMessage}
    {portal : String} {choice' : Choice} (ht : p.at? place = some (.startIncoming evt (.claim portal)))
    (hstep : (Task.startIncoming evt (.claim portal)).step codec choice p.state = some o) :
    o.state.received (incomingSession evt message portal choice') +
        (p.resume o place).total (bag p.state.sessions.length evt.info.sourceDeviceID) =
      deliveredTo p.state.sessions.length (incomingSession evt message portal choice')
        (journal ++ (Task.startIncoming evt (.claim portal)).entries p.state choice) + 0 := by
  have hnone : (p.resume o place).total (bag p.state.sessions.length evt.info.sourceDeviceID) = 0 := by
    refine sum_bag_eq_zero fun u hu => ?_
    rcases Pool.mem_tasks_resume ht hu with hnext | hold
    · exact candidates_next hstep (fun _ => Task.noConfusion) (fun _ => Task.noConfusion) hnext
    · exact (hp.feeds.task u hold).candidates_eq_nil (Nat.le_refl _) _
  rw [deliveredTo_append rfl rfl, hp.deliveredTo_eq_nil (Nat.le_refl _), hnone]
  rfl

theorem TakesCandidates.resume (hp : TakesCandidates p journal) (hsound : SoundPool p)
    (ht : p.at? place = some t) (hstep : t.step codec choice p.state = some o)
    (hplaces : PlacesLegs (p.resume o place)) :
    TakesCandidates (p.resume o place) (journal ++ t.entries p.state choice) := by
  have hmem := Pool.mem_tasks_of_at ht
  have hfeeds := hp.feeds.task t hmem
  have hchanges := changes hstep
  refine ⟨hplaces, ?_, ?_, ?_, ?_⟩
  · refine hp.feeds.resume ht (hchanges.flushed hfeeds hp.feeds.state) ?_ ?_
    · exact fun u hu => feeds_next hstep hfeeds hu
    · exact fun u _ hu => hu.step hchanges.evolves fun i leg => hp.signalLeg_stays hmem (legStep hstep)
  · intro u hu
    rw [Pool.state_resume]
    rcases Pool.mem_tasks_resume ht hu with hnext | hold
    · exact (legStep hstep).carriesEmpty hnext
    · exact hp.empty_step hmem hstep hold
  · intro b evt i hentry hi
    rw [Pool.state_resume]
    refine Nat.lt_of_lt_of_le ?_ hchanges.evolves.length_le
    rcases List.mem_append.mp hentry with hold | hnew
    · exact hp.known b evt i hold hi
    · obtain ⟨-, rfl⟩ := handled_of_entries hnew
      obtain ⟨s, hs, -⟩ := hsound.state.active i hi
      exact (List.getElem?_eq_some_iff.mp hs).1
  · intro i s' hs' hin
    rw [Pool.state_resume] at hs' ⊢
    cases hs : p.state.sessions[i]? with
    | some s => exact hp.balanced_resume hsound ht hstep hs hs' hin
    | none =>
      obtain ⟨rfl, hfalse | ⟨evt, message, portal, choice', -, rfl, rfl⟩⟩ := hchanges.new_session hs' hs
      · exact nomatch hfalse.symm.trans hin
      · exact ⟨0, hp.balanced_new ht hstep, fun _ => rfl⟩

theorem PoolStep.takesCandidates (h : PoolStep codec guard p p' new) (hsound : SoundPool p)
    (hp : TakesCandidates p journal) : TakesCandidates p' (journal ++ new) := by
  have hplaces := h.placesLegs hp.toPlacesLegs
  cases h with
  | runs place choice t o ht hstep _ => exact hp.resume hsound ht hstep hplaces
  | gets p' tasks hstate hperm htasks =>
    rw [List.append_nil]
    refine ⟨hplaces, ?_, ?_, hstate ▸ hp.known, ?_⟩
    · refine hp.feeds.of_tasks hstate fun u hu => ?_
      rcases List.mem_append.mp (hperm.mem_iff.mp hu) with hnew | hold
      · refine .inr ?_
        rcases htasks u hnew with ⟨evt, rfl⟩ | hexternal
        · trivial
        · cases hexternal <;> trivial
      · exact .inl hold
    · intro u hu i leg hcarries
      rw [hstate]
      rcases List.mem_append.mp (hperm.mem_iff.mp hu) with hnew | hold
      · rcases htasks u hnew with ⟨evt, rfl⟩ | hexternal
        · cases hcarries
        · cases hexternal <;> cases hcarries
      · exact hp.empty u hold i leg hcarries
    · rw [hstate]
      intro i s hs hin
      obtain ⟨others, heq, hothers⟩ := hp.balanced i s hs hin
      refine ⟨others, ?_, hothers⟩
      rw [Pool.total_of_perm _ hperm, sum_bag_eq_zero fun u hu => ?_, zero_add, heq]
      rcases htasks u hu with ⟨evt, rfl⟩ | hexternal
      · rfl
      · cases hexternal <;> rfl

theorem TakesCandidates.candidates_of_leg (hp : TakesCandidates p journal)
    (hs : p.state.sessions[i]? = some s) (hin : s.incoming = true) (hleg : s.signalLeg = some leg)
    (hquiet : ∀ t ∈ p.tasks, t.candidates i s.sourceDevice = []) :
    ∃ l others, p.state.legs[leg]? = some l ∧ l.candidates.Perm (deliveredTo i s journal ++ others) ∧
      (s.sourceDevice ≠ 0 → others = []) := by
  obtain ⟨l, hl, -⟩ := (hp.fits.state i s leg hs).2 hleg
  obtain ⟨others, heq, hothers⟩ := hp.balanced i s hs hin
  obtain ⟨others, rfl⟩ := Quot.exists_rep others
  have htotal : p.total (bag i s.sourceDevice) = 0 := sum_bag_eq_zero hquiet
  have hrecv : p.state.received s = l.candidates := by
    have hflushed := hp.feeds.state i s hs hin (by rw [hleg]; rfl)
    simp [Bridge.received, hleg, hflushed, Bridge.candidates, hl, queuedFrom]
  refine ⟨l, others, hl, ?_, fun hzero => (Multiset.coe_eq_zero _).mp (hothers hzero)⟩
  rw [htotal, add_zero, hrecv] at heq
  exact Multiset.coe_eq_coe.mp heq

end MautrixSignal.Calls
