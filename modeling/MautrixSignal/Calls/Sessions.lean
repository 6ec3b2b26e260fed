import MautrixSignal.Calls.Flow
import MautrixSignal.Calls.Network
import Mathlib.Data.Option.Basic

namespace MautrixSignal.Calls

open Lib Bridge

variable {codec : CallCodec} {choice : Choice} {b b' : Bridge} {o : CallOutcome} {t : Task} {s : Session}

-- What every step of every task leaves of a session. The device of an answered call stays the one that
-- was taken, and nothing of the end of a session is taken back.
structure Session.Evolves (s s' : Session) : Prop where
  peer : s'.peer = s.peer
  signalID : s'.signalID = s.signalID
  incoming : s'.incoming = s.incoming
  answering : s.answering = true → s'.answering = true ∧ s'.sourceDevice = s.sourceDevice
  ended : ∀ call, s.ended = some call → s'.ended = some call
  cancelled : s.cancelled = true → s'.cancelled = true
  endDone : s.endDone = true → s'.endDone = true

structure Session.Works (s s' : Session) : Prop where
  peer : s'.peer = s.peer
  signalID : s'.signalID = s.signalID
  incoming : s'.incoming = s.incoming
  answering : s.answering = true → s'.answering = true ∧ s'.sourceDevice = s.sourceDevice
  ended : s'.ended = s.ended
  cancelled : s'.cancelled = s.cancelled
  endDone : s'.endDone = s.endDone

theorem Session.Works.refl (s : Session) : s.Works s :=
  ⟨rfl, rfl, rfl, fun h => ⟨h, rfl⟩, rfl, rfl, rfl⟩

theorem Session.Works.evolves {s' : Session} (h : s.Works s') : s.Evolves s' where
  peer := h.peer
  signalID := h.signalID
  incoming := h.incoming
  answering := h.answering
  ended := fun _ hcall => h.ended.trans hcall
  cancelled := fun hcanc => h.cancelled.trans hcanc
  endDone := fun hdone => h.endDone.trans hdone

theorem Session.Evolves.refl (s : Session) : s.Evolves s :=
  (Session.Works.refl s).evolves

namespace Bridge

variable {i : Nat} {property : Session → Prop} {f : Session → Session} {s : Session}

def Has (b : Bridge) (i : Nat) (property : Session → Prop) : Prop :=
  ∃ session, b.sessions[i]? = some session ∧ property session

instance (b : Bridge) (i : Nat) (property : Session → Prop) [DecidablePred property] : Decidable (b.Has i property) :=
  inferInstanceAs (Decidable (∃ session, b.sessions[i]? = some session ∧ property session))

def Evolves (b b' : Bridge) : Prop :=
  ∀ i session, b.sessions[i]? = some session → b'.Has i session.Evolves

theorem Evolves.has (h : b.Evolves b') {property' : Session → Prop} (hb : b.Has i property)
    (himp : ∀ s s', property s → s.Evolves s' → property' s') : b'.Has i property' := by
  obtain ⟨s, hs, hp⟩ := hb
  obtain ⟨s', hs', he⟩ := h i s hs
  exact ⟨s', hs', himp s s' hp he⟩

theorem Evolves.length_le (h : b.Evolves b') : b.sessions.length ≤ b'.sessions.length := by
  by_contra hlt
  push Not at hlt
  obtain ⟨s, hs, -⟩ := h _ _ (List.getElem?_eq_getElem hlt)
  exact absurd (List.getElem?_eq_some_iff.mp hs).1 (Nat.lt_irrefl _)

section Rel

variable {α : Type} {r : α → α → Prop} {x y z : Option α} {a : α}

theorem rel_refl (h : ∀ a, r a a) : Option.Rel r x x := by
  cases x with
  | none => exact .none
  | some a => exact .some (h a)

theorem rel_trans (h : ∀ {a b c}, r a b → r b c → r a c) (hxy : Option.Rel r x y) (hyz : Option.Rel r y z) :
    Option.Rel r x z := by
  cases hxy with
  | none => exact hyz
  | some hab =>
    cases hyz with
    | some hbc => exact .some (h hab hbc)

theorem exists_of_rel_left (h : Option.Rel r x y) (hx : x = some a) : ∃ b, y = some b ∧ r a b := by
  subst hx
  cases h with
  | some hab => exact ⟨_, rfl, hab⟩

theorem exists_of_rel_right (h : Option.Rel r x y) (hy : y = some a) : ∃ b, x = some b ∧ r b a := by
  subst hy
  cases h with
  | some hab => exact ⟨_, rfl, hab⟩

end Rel

structure Works (b b' : Bridge) : Prop where
  active : b'.active = b.active
  sessions : ∀ i : Nat, Option.Rel Session.Works b.sessions[i]? b'.sessions[i]?

theorem works_of_eq (hsessions : b'.sessions = b.sessions) (hact : b'.active = b.active) : b.Works b' := by
  refine ⟨hact, fun i => ?_⟩
  rw [hsessions]
  exact rel_refl .refl

theorem Works.refl (b : Bridge) : b.Works b :=
  works_of_eq rfl rfl

theorem sessions_closeLeg (b : Bridge) (leg : Option Nat) : (b.closeLeg leg).sessions = b.sessions := by
  cases leg <;> rfl

theorem works_closeLegs (b : Bridge) (leg leg' : Option Nat) : b.Works ((b.closeLeg leg).closeLeg leg') := by
  cases leg <;> cases leg' <;> exact works_of_eq rfl rfl

theorem getElem?_modifySession (b : Bridge) (i j : Nat) (f : Session → Session) :
    (b.modifySession i f).sessions[j]? = if i = j then b.sessions[j]?.map f else b.sessions[j]? := by
  by_cases hij : i = j <;> simp [modifySession, hij]

theorem getElem?_modifySession_self (hs : b.sessions[i]? = some s) :
    (b.modifySession i f).sessions[i]? = some (f s) := by
  rw [getElem?_modifySession, if_pos rfl, hs, Option.map_some]

theorem has_modifySession (hs : b.sessions[i]? = some s) (hf : property (f s)) : (b.modifySession i f).Has i property :=
  ⟨f s, getElem?_modifySession_self hs, hf⟩

theorem Has.of_modifySession {j : Nat} (h : (b.modifySession i f).Has j property)
    (hf : ∀ s, property (f s) → property s) : b.Has j property := by
  obtain ⟨s', hs', hp⟩ := h
  rw [getElem?_modifySession] at hs'
  split at hs'
  · obtain ⟨s, hs, rfl⟩ := Option.map_eq_some_iff.mp hs'
    exact ⟨s, hs, hf s hp⟩
  · exact ⟨s', hs', hp⟩

theorem rel_modifySession {r : Session → Session → Prop} (h : ∀ s, r s s) (hs : b.sessions[i]? = some s)
    (hf : r s (f s)) (j : Nat) : Option.Rel r b.sessions[j]? (b.modifySession i f).sessions[j]? := by
  rw [getElem?_modifySession]
  by_cases hij : i = j
  · subst hij
    rw [if_pos rfl, hs]
    exact .some hf
  · rw [if_neg hij]
    exact rel_refl h

theorem works_modifySession (hs : b.sessions[i]? = some s) (hf : s.Works (f s)) : b.Works (b.modifySession i f) :=
  ⟨rfl, rel_modifySession .refl hs hf⟩

theorem Works.of_some (h : b.Works b') {s' : Session} (hs' : b'.sessions[i]? = some s') :
    ∃ s, b.sessions[i]? = some s ∧ s.Works s' :=
  exists_of_rel_right (h.sessions i) hs'

theorem Works.has (h : b.Works b') (hs : b.sessions[i]? = some s) : b'.Has i s.Works :=
  exists_of_rel_left (h.sessions i) hs

theorem Works.evolves (h : b.Works b') : b.Evolves b' := by
  intro i s hs
  obtain ⟨s', hs', hw⟩ := h.has hs
  exact ⟨s', hs', hw.evolves⟩

theorem getElem?_activate_of_some (hs : b.sessions[i]? = some s) (session : Session) :
    (b.activate session).sessions[i]? = some s := by
  simp only [activate]
  rw [List.getElem?_append_left (List.getElem?_eq_some_iff.mp hs).1]
  exact hs

theorem getElem?_activate {session : Session} (h : (b.activate session).sessions[i]? = some s) :
    b.sessions[i]? = some s ∨ i = b.sessions.length ∧ s = session := by
  simp only [activate, List.getElem?_append] at h
  split at h
  · exact .inl h
  have hi : i - b.sessions.length = 0 := by
    have hlt := (List.getElem?_eq_some_iff.mp h).1
    simp only [List.length_singleton] at hlt
    omega
  rw [hi] at h
  exact .inr ⟨by omega, (Option.some.inj h).symm⟩

theorem getElem?_activate_length (b : Bridge) (session : Session) :
    (b.activate session).sessions[b.sessions.length]? = some session := by
  simp [activate]

theorem evolves_modifySession (hs : b.sessions[i]? = some s) (hf : s.Evolves (f s)) :
    b.Evolves (b.modifySession i f) := by
  intro j s' hs'
  by_cases hij : i = j
  · subst hij
    obtain rfl := Option.some.inj (hs.symm.trans hs')
    exact has_modifySession hs hf
  · exact ⟨s', by rw [getElem?_modifySession, if_neg hij, hs'], .refl s'⟩

theorem activeSession_eq_some : b.activeSession = some (i, s) ↔ b.active = some i ∧ b.sessions[i]? = some s := by
  constructor
  · intro h
    obtain ⟨j, hj, hmap⟩ := Option.bind_eq_some_iff.mp h
    obtain ⟨s', hs', heq⟩ := Option.map_eq_some_iff.mp hmap
    cases heq
    exact ⟨hj, hs'⟩
  · rintro ⟨hi, hs⟩
    simp [activeSession, hi, hs]

end Bridge

structure Session.Fresh (s : Session) : Prop where
  answering : s.answering = false
  cancelled : s.cancelled = false
  ended : s.ended = none
  endDone : s.endDone = false

inductive Advances (b : Bridge) (o : CallOutcome) : Prop
  | works (h : b.Works o.state)
  | activates (session : Session) (hfree : b.active = none) (hfresh : session.Fresh)
      (h : o.state = b.activate session)

theorem Task.Changes.works (h : t.Changes b b') (hend : ∀ i call place, t ≠ .ending i call place) :
    b.Works b' ∨ ∃ session, b.active = none ∧ session.Fresh ∧ b' = b.activate session := by
  cases h with
  | rests | ignores => exact .inl (.refl b)
  | queues hs _ | storesRinging hs | storesCalling hs | storesSignal hs | storesAnswering hs =>
    exact .inl (works_modifySession hs ⟨rfl, rfl, rfl, fun ha => ⟨ha, rfl⟩, rfl, rfl, rfl⟩)
  | takes hs hfree =>
    refine .inl (works_modifySession hs ⟨rfl, rfl, rfl, fun ha => ?_, rfl, rfl, rfl⟩)
    exact nomatch ha.symm.trans hfree
  | answers hs =>
    exact .inl (works_modifySession hs ⟨rfl, rfl, rfl, fun _ => ⟨rfl, rfl⟩, rfl, rfl, rfl⟩)
  | claims _ hfree | calls hfree => exact .inr ⟨_, hfree, ⟨rfl, rfl, rfl, rfl⟩, rfl⟩
  | adds | addsTaken | addsPending | addsMatrix | makes | drops => exact .inl (works_of_eq rfl rfl)
  | ends | cancels | closes | clears => exact absurd rfl (hend _ _ _)

theorem Task.Changes.has_before {i : Nat} {property : Session → Prop} (h : t.Changes b b')
    (hb' : b'.Has i property) (hworks : ∀ s s', s.Works s' → property s' → property s)
    (hfresh : ∀ s, s.Fresh → ¬ property s) :
    b.Has i property ∨ ∃ s call, b.sessions[i]? = some s ∧
      (t = .ending i call .once ∧ property { s with ended := some call } ∨
        t = .ending i call .cancel ∧ property { s with cancelled := true } ∨
        t = .ending i call .clearActive ∧ property { s with endDone := true }) := by
  have hwork {b' : Bridge} (hb' : b'.Has i property) (hbw : b.Works b') : b.Has i property := by
    obtain ⟨s', hs', hp⟩ := hb'
    obtain ⟨s, hs, hw⟩ := hbw.of_some hs'
    exact ⟨s, hs, hworks s s' hw hp⟩
  have hmod {j : Nat} {f : Session → Session} (hb' : (b.modifySession j f).Has i property) :
      b.Has i property ∨ j = i ∧ ∃ s, b.sessions[i]? = some s ∧ property (f s) := by
    obtain ⟨s', hs', hp⟩ := hb'
    rw [getElem?_modifySession] at hs'
    split at hs'
    · obtain ⟨s, hs, rfl⟩ := Option.map_eq_some_iff.mp hs'
      exact .inr ⟨‹j = i›, s, hs, hp⟩
    · exact .inl ⟨s', hs', hp⟩
  by_cases hend : ∃ j call place, t = .ending j call place
  · obtain ⟨j, call, place, rfl⟩ := hend
    cases h with
    | rests => exact .inl hb'
    | makes ht => exact nomatch ht
    | closes => exact .inl (hwork hb' (works_closeLegs b _ _))
    | ends =>
      rcases hmod hb' with hold | ⟨rfl, s, hs, hp⟩
      · exact .inl hold
      · exact .inr ⟨s, call, hs, .inl ⟨rfl, hp⟩⟩
    | cancels =>
      rcases hmod hb' with hold | ⟨rfl, s, hs, hp⟩
      · exact .inl hold
      · exact .inr ⟨s, call, hs, .inr (.inl ⟨rfl, hp⟩)⟩
    | clears =>
      rcases hmod (f := fun s => { s with endDone := true }) hb' with hold | ⟨rfl, s, hs, hp⟩
      · exact .inl hold
      · exact .inr ⟨s, call, hs, .inr (.inr ⟨rfl, hp⟩)⟩
  · push Not at hend
    rcases h.works hend with hbw | ⟨session, -, hnew, rfl⟩
    · exact .inl (hwork hb' hbw)
    · obtain ⟨s', hs', hp⟩ := hb'
      rcases getElem?_activate hs' with hold | ⟨-, rfl⟩
      · exact .inl ⟨s', hold, hp⟩
      · exact absurd hp (hfresh _ hnew)

theorem Task.advances (h : t.step codec choice b = some o) (hend : ∀ i call place, t ≠ .ending i call place) :
    Advances b o := by
  rcases (Task.changes h).works hend with hworks | ⟨session, hfree, hfresh, hactivate⟩
  · exact .works hworks
  · exact .activates session hfree hfresh hactivate

theorem Task.Changes.new_session {i : Nat} (h : t.Changes b b') (hs : b'.sessions[i]? = some s)
    (hnew : b.sessions[i]? = none) :
    i = b.sessions.length ∧ (s.incoming = false ∨ ∃ evt message portal choice, evt.message = some message ∧
      t = .startIncoming evt (.claim portal) ∧ s = incomingSession evt message portal choice) := by
  have hmod {j : Nat} {f : Session → Session} (hs : (b.modifySession j f).sessions[i]? = some s) : False := by
    have hhas : (b.modifySession j f).Has i fun _ => True := ⟨s, hs, trivial⟩
    obtain ⟨s', hs', -⟩ := hhas.of_modifySession fun _ _ => trivial
    exact nomatch hnew.symm.trans hs'
  have hactivated {session : Session} (hs : (b.activate session).sessions[i]? = some s) :
      i = b.sessions.length ∧ s = session :=
    (getElem?_activate hs).resolve_left fun hold => nomatch hnew.symm.trans hold
  cases h with
  | claims hmsg _ =>
    obtain ⟨rfl, rfl⟩ := hactivated hs
    exact ⟨rfl, .inr ⟨_, _, _, _, hmsg, rfl, rfl⟩⟩
  | calls =>
    obtain ⟨rfl, rfl⟩ := hactivated hs
    exact ⟨rfl, .inl rfl⟩
  | queues | takes | storesRinging | storesCalling | storesSignal | storesAnswering | answers | ends | cancels =>
    exact (hmod hs).elim
  | clears => exact (hmod (f := fun s => { s with endDone := true }) hs).elim
  | closes =>
    rw [sessions_closeLeg, sessions_closeLeg, hnew] at hs
    cases hs
  | _ =>
    have hold := hs
    exact nomatch hnew.symm.trans hold

theorem Task.Changes.evolves (h : t.Changes b b') : b.Evolves b' := by
  by_cases hend : ∃ i call place, t = .ending i call place
  · obtain ⟨i, call, place, rfl⟩ := hend
    cases h with
    | rests => exact (Works.refl b).evolves
    | makes ht => exact nomatch ht
    | ends hs hended =>
      refine evolves_modifySession hs ⟨rfl, rfl, rfl, fun ha => ⟨ha, rfl⟩, fun other he => ?_, id, id⟩
      exact nomatch hended.symm.trans he
    | cancels hs =>
      exact evolves_modifySession hs
        ⟨rfl, rfl, rfl, fun ha => ⟨ha, rfl⟩, fun _ he => he, fun _ => rfl, id⟩
    | closes => exact (works_closeLegs b _ _).evolves
    | clears hs =>
      exact evolves_modifySession (b := { b with active := _ }) hs
        ⟨rfl, rfl, rfl, fun ha => ⟨ha, rfl⟩, fun _ he => he, id, fun _ => rfl⟩
  · push Not at hend
    rcases h.works hend with hworks | ⟨session, -, -, rfl⟩
    · exact hworks.evolves
    · exact fun _ s hs => ⟨s, getElem?_activate_of_some hs session, .refl s⟩

theorem Task.evolves (h : t.step codec choice b = some o) : b.Evolves o.state :=
  (Task.changes h).evolves

end MautrixSignal.Calls
