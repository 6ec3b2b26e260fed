import MautrixSignal.Calls.Journal

namespace MautrixSignal.Calls

open Lib Bridge Calls.Task List

variable {codec : CallCodec} {choice : Choice} {b b' : Bridge} {o : CallOutcome} {t u : Task}
  {guard : Guard} {p p' : Pool Bridge Task} {new : List Entry} {s' : Session}

def Task.carries : Task → Option (Nat × Nat)
  | .ringMatrix i (.storeLeg leg) | .outgoing i (.storeLeg leg) => some (i, leg)
  | .outgoing i (.storeSignalLeg leg) | .answerIncoming i (.storeSignalLeg leg) => some (i, leg)
  | _ => none

def Task.storesMatrix (i : Nat) : Task → Bool
  | .ringMatrix j .newLeg | .ringMatrix j (.storeLeg _) => j = i
  | .outgoing j .newLeg | .outgoing j (.storeLeg _) => j = i
  | _ => false

def Task.storesSignal (i : Nat) : Task → Bool
  | .outgoing _ (.sendOffer _) | .outgoing _ .gather => false
  | .outgoing j _ => j = i
  | .answerIncoming j .setAnswer | .answerIncoming j .newSignalLeg => j = i
  | .answerIncoming j (.storeSignalLeg _) => j = i
  | _ => false

def Task.LegFree : Task → Prop
  | .ringMatrix _ _ | .outgoing _ _ | .answerIncoming _ _ => False
  | _ => True

theorem Task.LegFree.stores (h : u.LegFree) (i : Nat) : u.storesMatrix i = false ∧ u.storesSignal i = false := by
  cases u with
  | ringMatrix | outgoing | answerIncoming => exact h.elim
  | _ => exact ⟨rfl, rfl⟩

def Task.Unladen (t : Task) : Prop :=
  t.carries = none ∧ ∀ i, t ≠ .answerIncoming i .start

-- The one right to store a leg. A session starts with it, and an incoming session can give out the one
-- for the Signal leg once, when it is answered.
structure Ticket where
  left : Session → Nat
  holder : Nat → Task → Bool

def matrixTicket : Ticket where
  left := fun s => if s.mxLeg.isSome then 1 else 0
  holder := storesMatrix

def signalTicket : Ticket where
  left := fun s =>
    (if s.signalLeg.isSome then 1 else 0) + if s.incoming = true ∧ s.answering = false then 1 else 0
  holder := storesSignal

def Ticket.credit (ticket : Ticket) (i : Nat) (b : Bridge) : Nat :=
  (b.sessions[i]?.map ticket.left).getD 1

def Ticket.Pays (ticket : Ticket) (b : Bridge) (t : Task) (o : CallOutcome) : Prop :=
  ∀ i, ticket.credit i o.state + o.next.countP (ticket.holder i) ≤
    ticket.credit i b + if ticket.holder i t then 1 else 0

structure Session.Rests (s s' : Session) : Prop where
  mxLeg : s'.mxLeg = s.mxLeg
  signalLeg : s'.signalLeg = s.signalLeg
  incoming : s'.incoming = s.incoming
  answering : s.answering = true → s'.answering = true

theorem Session.Rests.refl (s : Session) : s.Rests s :=
  ⟨rfl, rfl, rfl, id⟩

theorem Session.Rests.left_le {s : Session} (h : s.Rests s') :
    matrixTicket.left s' ≤ matrixTicket.left s ∧ signalTicket.left s' ≤ signalTicket.left s := by
  have hunanswered : (if s'.incoming = true ∧ s'.answering = false then 1 else 0) ≤
      if s.incoming = true ∧ s.answering = false then 1 else 0 := by
    by_cases hs : s.incoming = true ∧ s.answering = false
    · split <;> omega
    have hs' : ¬ (s'.incoming = true ∧ s'.answering = false) := by
      rintro ⟨hin, ha⟩
      refine hs ⟨h.incoming ▸ hin, Bool.eq_false_iff.mpr fun hold => ?_⟩
      exact absurd ((h.answering hold).symm.trans ha) (by simp)
    rw [if_neg hs']
    exact Nat.zero_le _
  refine ⟨?_, ?_⟩
  · simp [matrixTicket, h.mxLeg]
  · simp only [signalTicket, h.signalLeg]
    omega

structure Leg.Lasts (leg leg' : Leg) : Prop where
  session : leg'.session = leg.session
  parameters : leg'.parameters = leg.parameters
  closed : leg.closed = true → leg'.closed = true

theorem Leg.Lasts.refl (leg : Leg) : leg.Lasts leg :=
  ⟨rfl, rfl, id⟩

namespace Bridge

structure Rests (b b' : Bridge) : Prop where
  sessions : ∀ i : Nat, Option.Rel Session.Rests b.sessions[i]? b'.sessions[i]?
  legs : ∀ leg : Nat, Option.Rel Leg.Lasts b.legs[leg]? b'.legs[leg]?

theorem Rests.refl (b : Bridge) : b.Rests b :=
  ⟨fun _ => rel_refl .refl, fun _ => rel_refl .refl⟩

theorem rests_modifySession {i : Nat} {f : Session → Session} {s : Session}
    (hs : b.sessions[i]? = some s) (hf : s.Rests (f s)) : b.Rests (b.modifySession i f) :=
  ⟨rel_modifySession .refl hs hf, fun _ => rel_refl .refl⟩

theorem rests_modifyLeg (leg : Nat) (f : Leg → Leg) (hf : ∀ l : Leg, l.Lasts (f l)) :
    b.Rests { b with legs := b.legs.modify leg f } := by
  refine ⟨fun _ => rel_refl .refl, fun j => ?_⟩
  simp only [getElem?_modify]
  cases b.legs[j]? with
  | none => exact .none
  | some l =>
    by_cases hij : leg = j
    · simp only [hij]
      exact .some (hf l)
    · simp only [hij]
      exact .some (.refl l)

theorem rests_addCandidates (b : Bridge) (leg : Nat) (sdps : List Bytes) : b.Rests (b.addCandidates leg sdps) :=
  rests_modifyLeg leg _ fun _ => ⟨rfl, rfl, id⟩

theorem rests_closeLeg (b : Bridge) (leg : Option Nat) : b.Rests (b.closeLeg leg) := by
  cases leg with
  | none => exact .refl b
  | some leg => exact rests_modifyLeg leg _ fun _ => ⟨rfl, rfl, fun _ => rfl⟩

theorem Rests.trans {b'' : Bridge} (h : b.Rests b') (h' : b'.Rests b'') : b.Rests b'' := by
  refine ⟨fun i => rel_trans (fun hs hs' => ?_) (h.sessions i) (h'.sessions i),
    fun leg => rel_trans (fun hl hl' => ?_) (h.legs leg) (h'.legs leg)⟩
  · exact ⟨hs'.mxLeg.trans hs.mxLeg, hs'.signalLeg.trans hs.signalLeg, hs'.incoming.trans hs.incoming,
      fun ha => hs'.answering (hs.answering ha)⟩
  · exact ⟨hl'.session.trans hl.session, hl'.parameters.trans hl.parameters, fun hc => hl'.closed (hl.closed hc)⟩

end Bridge

theorem Bridge.Rests.credit_le (h : b.Rests b') (i : Nat) :
    matrixTicket.credit i b' ≤ matrixTicket.credit i b ∧
      signalTicket.credit i b' ≤ signalTicket.credit i b := by
  have hrel := h.sessions i
  unfold Ticket.credit
  generalize b.sessions[i]? = x at hrel ⊢
  generalize b'.sessions[i]? = y at hrel ⊢
  cases hrel with
  | none => exact ⟨Nat.le_refl _, Nat.le_refl _⟩
  | some hs => exact hs.left_le

section Functions

variable {i : Nat} {s : Session} {ok : Bool} {sends : List (ServiceID × CallMessage)}

def Aside (b : Bridge) (o : CallOutcome) : Prop :=
  b.Rests o.state ∧ ∀ u ∈ o.next, u.LegFree

theorem aside_stop (h : b.Rests b') : Aside b { state := b', sends := sends } :=
  ⟨h, fun _ hu => (nomatch hu)⟩

theorem aside_goesOn {next : Task} (h : b.Rests b') (hnext : next.LegFree) :
    Aside b { state := b', goesOn := some next, sends := sends } := by
  refine ⟨h, fun u hu => ?_⟩
  obtain rfl : u = next := by simpa [Outcome.next] using hu
  exact hnext

theorem aside_endNow {reason : EndReason} {notify : Bool} (h : b.Rests b') : Aside b (endNow b' i reason notify) :=
  aside_goesOn h trivial

theorem aside_startRelays : Aside b (startRelays b i s ok) := by
  cases ok with
  | false => exact aside_endNow (.refl b)
  | true =>
    refine ⟨.refl b, fun u hu => ?_⟩
    have hmem := hu
    rw [eq_of_mem_replicate hmem]
    trivial

theorem Ticket.credit_modifySession (ticket : Ticket) {f : Session → Session} (hs : b.sessions[i]? = some s) (j : Nat) :
    ticket.credit j (b.modifySession i f) = if i = j then ticket.left (f s) else ticket.credit j b := by
  unfold credit
  rw [getElem?_modifySession]
  split
  · rename_i hij
    subst hij
    rw [hs]
    rfl
  · rfl

theorem Ticket.credit_activate (ticket : Ticket) (session : Session) (j : Nat) :
    ticket.credit j (b.activate session) =
      if j = b.sessions.length then ticket.left session else ticket.credit j b := by
  unfold credit activate
  simp only [getElem?_append]
  split
  · rw [if_neg (by omega)]
  split
  · rename_i heq
    simp [heq]
  · have hold : b.sessions[j]? = none := getElem?_eq_none (by omega)
    have hnew : [session][j - b.sessions.length]? = none :=
      getElem?_eq_none (by simp only [length_singleton]; omega)
    rw [hold, hnew]

section Pays

variable {ticket : Ticket} {next : Task} {sends : List (ServiceID × CallMessage)}

theorem countP_goesOn (holder : Task → Bool) :
    ({ state := b, goesOn := some next, sends := sends } : CallOutcome).next.countP holder =
      if holder next then 1 else 0 := by
  simp [Outcome.next]

theorem Ticket.pays_goesOn (hcredit : ∀ i, ticket.credit i b' ≤ ticket.credit i b)
    (hnext : ∀ i, ticket.holder i next = true → ticket.holder i t = true) :
    ticket.Pays b t { state := b', goesOn := some next, sends := sends } := by
  intro i
  rw [countP_goesOn]
  have hi := hcredit i
  have hn := hnext i
  by_cases hholder : ticket.holder i next = true
  · rw [if_pos hholder, if_pos (hn hholder)]
    exact Nat.add_le_add_right hi 1
  · rw [if_neg hholder]
    exact Nat.le_add_right_of_le hi

theorem Ticket.pays_modifySession {f : Session → Session} (hs : b.sessions[i]? = some s)
    (hleft : ticket.left (f s) + (if ticket.holder i next then 1 else 0) ≤
      ticket.left s + if ticket.holder i t then 1 else 0)
    (hothers : ∀ j, i ≠ j → ticket.holder j next = false) :
    ticket.Pays b t { state := b.modifySession i f, goesOn := some next, sends := sends } := by
  intro j
  rw [countP_goesOn, ticket.credit_modifySession hs]
  by_cases hij : i = j
  · subst hij
    rw [if_pos rfl]
    simpa only [credit, hs, Option.map_some, Option.getD_some] using hleft
  · rw [if_neg hij, hothers j hij]
    exact Nat.le_add_right _ _

theorem Ticket.pays_activate {session : Session}
    (hleft : ticket.left session + (if ticket.holder b.sessions.length next then 1 else 0) ≤ 1)
    (hothers : ∀ j, j ≠ b.sessions.length → ticket.holder j next = false) :
    ticket.Pays b t { state := b.activate session, goesOn := some next, sends := sends } := by
  intro j
  rw [countP_goesOn, ticket.credit_activate]
  by_cases hj : j = b.sessions.length
  · subst hj
    have hone : ticket.credit b.sessions.length b = 1 := by simp [credit]
    rw [if_pos rfl, hone]
    omega
  · rw [if_neg hj, hothers j hj]
    exact Nat.le_add_right _ _

def Pays (b : Bridge) (t : Task) (o : CallOutcome) : Prop :=
  matrixTicket.Pays b t o ∧ signalTicket.Pays b t o

theorem Aside.pays (h : Aside b o) : Pays b t o := by
  obtain ⟨hb, hnext⟩ := h
  refine ⟨fun i => ?_, fun i => ?_⟩
  · have hnone : o.next.countP (matrixTicket.holder i) = 0 :=
      countP_eq_zero.mpr fun u hu => by simp [matrixTicket, ((hnext u hu).stores i).1]
    rw [hnone]
    exact Nat.le_add_right_of_le (hb.credit_le i).1
  · have hnone : o.next.countP (signalTicket.holder i) = 0 :=
      countP_eq_zero.mpr fun u hu => by simp [signalTicket, ((hnext u hu).stores i).2]
    rw [hnone]
    exact Nat.le_add_right_of_le (hb.credit_le i).2

theorem pays_goesOn (hb : b'.sessions = b.sessions) (hmx : ∀ i, next.storesMatrix i = true → t.storesMatrix i = true)
    (hsig : ∀ i, next.storesSignal i = true → t.storesSignal i = true) :
    Pays b t { state := b', goesOn := some next, sends := sends } := by
  have hcredit (ticket : Ticket) (i : Nat) : ticket.credit i b' ≤ ticket.credit i b := by
    simp [Ticket.credit, hb]
  exact ⟨Ticket.pays_goesOn (hcredit _) hmx, Ticket.pays_goesOn (hcredit _) hsig⟩

end Pays

theorem Aside.unladen (h : Aside b o) : ∀ u ∈ o.next, u.Unladen := by
  intro u hu
  have hfree := h.2 u hu
  cases u with
  | ringMatrix | outgoing | answerIncoming => exact hfree.elim
  | _ => exact ⟨rfl, nofun⟩

end Functions

-- The session that a task stores a leg in without a look at its context.
def Task.storesUnchecked : Task → Option Nat
  | .outgoing i (.storeLeg _) | .outgoing i (.storeSignalLeg _) => some i
  | .answerIncoming i (.storeSignalLeg _) => some i
  | _ => none

def Session.HoldsLeg (s : Session) (leg : Nat) : Prop :=
  s.mxLeg = some leg ∨ s.signalLeg = some leg

inductive LegStep (b : Bridge) (t : Task) (o : CallOutcome) : Prop
  | rests (hb : b.Rests o.state) (hnext : ∀ u ∈ o.next, u.Unladen)
      (hdrops : ∀ i leg l, t.carries = some (i, leg) → o.state.legs[leg]? = some l → l.closed = true)
  | activates (session : Session) (hb : o.state = b.activate session)
      (hlegs : ∀ leg, ¬ session.HoldsLeg leg) (hnext : ∀ u ∈ o.next, u.Unladen)
      (ht : t.carries = none)
  | makes (i : Nat) (leg : Leg) (next : Task) (hb : o.state = b.newLeg leg) (hleg : leg.session = i)
      (hnext : o.next = [next]) (hkind : leg.parameters.isNone = next.storesMatrix i)
      (hempty : leg.candidates = []) (hcarries : next.carries = some (i, b.legs.length)) (ht : t.carries = none)
  | stores (i leg : Nat) (s : Session) (f : Session → Session) (hs : b.sessions[i]? = some s)
      (ht : t.carries = some (i, leg)) (hb : o.state = b.modifySession i f)
      (hstored : t.storesMatrix i = true ∧ (f s).mxLeg = some leg ∧ (f s).signalLeg = s.signalLeg ∨
        t.storesMatrix i = false ∧ t.storesSignal i = true ∧ (f s).signalLeg = some leg ∧
          (f s).mxLeg = s.mxLeg)
      (hchecked : s.cancelled = false ∨ t.storesUnchecked = some i)
      (hnext : ∀ u ∈ o.next, u.Unladen)

def Bridge.Made (b : Bridge) (leg i : Nat) (matrix : Bool) : Prop :=
  ∃ l, b.legs[leg]? = some l ∧ l.session = i ∧ l.parameters.isNone = matrix

-- What a task can rely on: the leg it carries was made for its session, and only an incoming session is
-- answered in Matrix.
def Task.LegFits (b : Bridge) (t : Task) : Prop :=
  (∀ i leg, t.carries = some (i, leg) → b.Made leg i (t.storesMatrix i)) ∧
    ∀ i, t = .answerIncoming i .start → b.Has i (·.incoming = true)

section LegSteps

variable {i : Nat} {s : Session} {ok : Bool} {next : Task} {sends : List (ServiceID × CallMessage)}

def MovesLegs (b : Bridge) (t : Task) (o : CallOutcome) : Prop :=
  LegStep b t o ∧ (t.LegFits b → Pays b t o)

theorem Aside.movesLegs (h : Aside b o) (ht : t.carries = none) : MovesLegs b t o := by
  refine ⟨.rests h.1 h.unladen fun i leg l hcarries => ?_, fun _ => h.pays⟩
  rw [ht] at hcarries
  cases hcarries

theorem legStep_goesOn (hb : b.Rests b') (hnext : next.Unladen) (ht : t.carries = none) :
    LegStep b t { state := b', goesOn := some next, sends := sends } := by
  refine .rests hb (fun u hu => ?_) fun i leg l hcarries => ?_
  · obtain rfl : u = next := by simpa [Outcome.next] using hu
    exact hnext
  · rw [ht] at hcarries
    cases hcarries

theorem movesLegs_goesOn (ht : t.carries = none) (hnext : next.Unladen)
    (hmx : ∀ i, next.storesMatrix i = true → t.storesMatrix i = true)
    (hsig : ∀ i, next.storesSignal i = true → t.storesSignal i = true) :
    MovesLegs b t { state := b, goesOn := some next, sends := sends } :=
  ⟨legStep_goesOn (.refl b) hnext ht, fun _ => pays_goesOn rfl hmx hsig⟩

theorem unladen_goesOn (hu : u ∈ ({ state := b, goesOn := some next, sends := sends } : CallOutcome).next)
    (hnext : next.Unladen) : u.Unladen := by
  obtain rfl : u = next := by simpa [Outcome.next] using hu
  exact hnext

theorem aside_timer : Aside b { state := b, starts := [.timer i] } := by
  refine ⟨.refl b, fun u hu => ?_⟩
  obtain rfl : u = .timer i := by simpa [Outcome.next] using hu
  trivial

theorem closed_closeLeg {leg : Nat} {l : Leg} (h : (b.closeLeg (some leg)).legs[leg]? = some l) : l.closed = true := by
  simp only [closeLeg, getElem?_modify_eq, Option.map_eq_map, Option.map_eq_some_iff] at h
  obtain ⟨l', -, rfl⟩ := h
  rfl

theorem signalTicket_stored {leg : Nat} (hleg : s'.signalLeg = some leg) (hin : s'.incoming = s.incoming)
    (hans : s'.answering = s.answering) (hu : ∀ i, u.storesSignal i = false) (ht : t.storesSignal i = true) :
    signalTicket.left s' + (if signalTicket.holder i u then 1 else 0) ≤
      signalTicket.left s + if signalTicket.holder i t then 1 else 0 := by
  have hholder : signalTicket.holder i u = false := hu i
  have hholder' : signalTicket.holder i t = true := ht
  rw [hholder, hholder']
  simp only [signalTicket, hleg, hin, hans, Option.isSome_some, Bool.false_eq_true, if_false]
  omega

theorem movesLegs_ringMatrix (hs : b.sessions[i]? = some s) (place : RingStep) :
    MovesLegs b (.ringMatrix i place) (ringMatrix b i s ok place) := by
  cases place with
  | newLeg =>
    cases ok with
    | true => exact ⟨.makes i _ _ rfl rfl rfl (by simp [storesMatrix]) rfl rfl rfl,
        fun _ => pays_goesOn rfl (fun _ h => h) fun _ h => h⟩
    | false => exact (aside_endNow (.refl b)).movesLegs rfl
  | storeLeg leg =>
    simp only [ringMatrix]
    split
    · have haside : Aside b (endNow (b.closeLeg (some leg)) i .failed true) :=
        aside_endNow (rests_closeLeg b _)
      refine ⟨.rests haside.1 haside.unladen ?_, fun _ => haside.pays⟩
      intro j leg' l hcarries hl
      obtain ⟨rfl, rfl⟩ := Prod.mk.inj (Option.some.inj hcarries)
      exact closed_closeLeg hl
    · rename_i hcanc
      refine ⟨.stores i leg s _ hs rfl rfl (.inl ⟨decide_eq_true rfl, rfl, rfl⟩)
        (.inl (Bool.eq_false_iff.mpr hcanc)) fun u hu => unladen_goesOn hu ⟨rfl, by simp⟩, fun _ => ?_⟩
      refine ⟨Ticket.pays_modifySession hs ?_ fun _ _ => rfl,
        Ticket.pays_modifySession hs (Nat.le_refl _) fun _ _ => rfl⟩
      simp [matrixTicket, storesMatrix]
  | createOffer leg =>
    cases ok with
    | true => exact movesLegs_goesOn rfl ⟨rfl, by simp⟩ (fun _ h => by cases h) fun _ h => h
    | false => exact (aside_endNow (rests_closeLeg b _)).movesLegs rfl
  | waitGathering =>
    simp only [ringMatrix]
    split
    · exact (aside_endNow (.refl b)).movesLegs rfl
    · exact movesLegs_goesOn rfl ⟨rfl, by simp⟩ (fun _ h => h) fun _ h => h
  | sendInvite =>
    cases ok with
    | true => exact aside_timer.movesLegs rfl
    | false => exact (aside_endNow (.refl b)).movesLegs rfl

theorem movesLegs_outgoing (hs : b.sessions[i]? = some s) (place : OutgoingStep) :
    MovesLegs b (.outgoing i place) (outgoing codec b i s choice place) := by
  cases place with
  | newLeg | newSignalLeg =>
    simp only [outgoing]
    split
    · exact ⟨.makes i _ _ rfl rfl rfl (by simp [storesMatrix]) rfl rfl rfl,
        fun _ => pays_goesOn rfl (fun _ h => h) fun _ h => h⟩
    · exact (aside_endNow (.refl b)).movesLegs rfl
  | storeLeg leg =>
    refine ⟨.stores i leg s _ hs rfl rfl (.inl ⟨decide_eq_true rfl, rfl, rfl⟩) (.inr rfl)
      fun u hu => unladen_goesOn hu ⟨rfl, by simp⟩, fun _ => ?_⟩
    refine ⟨Ticket.pays_modifySession hs ?_ fun _ _ => rfl, Ticket.pays_modifySession hs (Nat.le_refl _)
      fun j hj => decide_eq_false hj⟩
    simp [matrixTicket, storesMatrix]
  | storeSignalLeg leg =>
    refine ⟨.stores i leg s _ hs rfl rfl (.inr ⟨rfl, decide_eq_true rfl, rfl, rfl⟩) (.inr rfl)
      fun u hu => unladen_goesOn hu ⟨rfl, by simp⟩, fun _ => ?_⟩
    exact ⟨Ticket.pays_modifySession hs (Nat.le_refl _) fun _ _ => rfl, Ticket.pays_modifySession hs
      (signalTicket_stored rfl rfl rfl (fun _ => rfl) (decide_eq_true rfl)) fun _ _ => rfl⟩
  | answerOffer | sendOffer leg =>
    simp only [outgoing]
    split
    · exact movesLegs_goesOn rfl ⟨rfl, by simp⟩ (fun _ h => h) fun _ h => h
    · exact (aside_endNow (.refl b)).movesLegs rfl
  | waitGathering =>
    simp only [outgoing]
    split
    · exact (aside_stop (.refl b)).movesLegs rfl
    · exact movesLegs_goesOn rfl ⟨rfl, by simp⟩ (fun _ h => h) fun _ h => h
  | gather =>
    simp only [outgoing]
    split
    · exact aside_timer.movesLegs rfl
    · exact (aside_endNow (.refl b)).movesLegs rfl

theorem movesLegs_answerIncoming (hs : b.sessions[i]? = some s) (place : AnswerStep) :
    MovesLegs b (.answerIncoming i place) (answerIncoming codec b i s choice place) := by
  cases place with
  | start =>
    have hans : b.Rests (b.modifySession i fun s => { s with answering := true }) :=
      rests_modifySession hs ⟨rfl, rfl, rfl, fun _ => rfl⟩
    simp only [answerIncoming]
    split
    · exact (aside_stop (.refl b)).movesLegs rfl
    rename_i hfree
    push Not at hfree
    split
    · exact (aside_endNow hans).movesLegs rfl
    refine ⟨legStep_goesOn hans ⟨rfl, by simp⟩ rfl, fun ht => ?_⟩
    refine ⟨Ticket.pays_modifySession hs (Nat.le_refl _) fun _ _ => rfl,
      Ticket.pays_modifySession hs ?_ fun j hj => decide_eq_false hj⟩
    obtain ⟨s', hs', hin⟩ := ht.2 i rfl
    rw [← Option.some.inj (hs.symm.trans hs')] at hin
    have hidle := Bool.eq_false_iff.mpr hfree.1
    simp [signalTicket, storesSignal, hin, hidle]
  | newSignalLeg =>
    simp only [answerIncoming]
    split
    · exact ⟨.makes i _ _ rfl rfl rfl (by simp [storesMatrix]) rfl rfl rfl,
        fun _ => pays_goesOn rfl (fun _ h => h) fun _ h => h⟩
    · exact (aside_endNow (.refl b)).movesLegs rfl
  | storeSignalLeg leg =>
    refine ⟨.stores i leg s _ hs rfl rfl (.inr ⟨rfl, decide_eq_true rfl, rfl, rfl⟩) (.inr rfl)
      fun u hu => unladen_goesOn hu ⟨rfl, by simp⟩, fun _ => ?_⟩
    exact ⟨Ticket.pays_modifySession hs (Nat.le_refl _) fun _ _ => rfl, Ticket.pays_modifySession hs
      (signalTicket_stored rfl rfl rfl (fun _ => rfl) (decide_eq_true rfl)) fun _ _ => rfl⟩
  | addPending leg pending =>
    exact ⟨legStep_goesOn (rests_addCandidates b _ _) ⟨rfl, by simp⟩ rfl,
      fun _ => pays_goesOn rfl (fun _ h => h) fun _ h => h⟩
  | setAnswer | sendAnswer leg | gather | connect | sendAccepted =>
    simp only [answerIncoming]
    split
    · exact movesLegs_goesOn rfl ⟨rfl, by simp⟩ (fun _ h => h) fun _ h => h
    · exact (aside_endNow (.refl b)).movesLegs rfl
  | startRelays => exact aside_startRelays.movesLegs rfl

theorem legStep_activate {session : Session} (hmx : session.mxLeg = none)
    (hsig : session.signalLeg = none) (hnext : next.Unladen) (ht : t.carries = none) :
    LegStep b t { state := b.activate session, goesOn := some next } := by
  refine .activates session rfl ?_ (fun u hu => unladen_goesOn hu hnext) ht
  rintro leg (h | h)
  · exact nomatch hmx.symm.trans h
  · exact nomatch hsig.symm.trans h

theorem movesLegs_startIncoming (evt : CallEvent) (message : DecodedCallMessage) (place : IncomingStep) :
    MovesLegs b (.startIncoming evt place) (startIncoming b evt message choice place) := by
  cases place with
  | check =>
    simp only [startIncoming]
    split
    · split
      · exact (aside_goesOn (.refl b) (by trivial)).movesLegs rfl
      · exact (aside_stop (.refl b)).movesLegs rfl
    · exact (aside_goesOn (.refl b) (by trivial)).movesLegs rfl
  | lookup =>
    simp only [startIncoming]
    split
    · exact (aside_stop (.refl b)).movesLegs rfl
    · split
      · exact (aside_stop (.refl b)).movesLegs rfl
      · split
        · exact (aside_stop (.refl b)).movesLegs rfl
        · exact (aside_goesOn (.refl b) (by trivial)).movesLegs rfl
  | claim portal =>
    simp only [startIncoming]
    split
    · exact (aside_goesOn (.refl b) (by trivial)).movesLegs rfl
    · refine ⟨legStep_activate rfl rfl ⟨rfl, by simp⟩ rfl, fun _ => ⟨Ticket.pays_activate ?_ fun j hj =>
        decide_eq_false hj.symm, Ticket.pays_activate ?_ fun _ _ => rfl⟩⟩
      · simp [matrixTicket, incomingSession, storesMatrix]
      · simp [signalTicket, incomingSession, storesSignal]

theorem movesLegs_startOutgoing (portal : Portal) (invite : MatrixCall) :
    MovesLegs b (.startOutgoing portal invite) (startOutgoing b portal invite choice) := by
  unfold startOutgoing
  split
  · split
    · exact (aside_stop (.refl b)).movesLegs rfl
    · refine ⟨legStep_activate rfl rfl ⟨rfl, by simp⟩ rfl, fun _ => ⟨Ticket.pays_activate ?_ fun j hj =>
        decide_eq_false hj.symm, Ticket.pays_activate ?_ fun j hj => decide_eq_false hj.symm⟩⟩
      · simp [matrixTicket, outgoingSession, storesMatrix]
      · simp [signalTicket, outgoingSession, storesSignal]
  · exact (aside_stop (.refl b)).movesLegs rfl

end LegSteps

def Task.MakesLegs : Task → Prop
  | .startIncoming _ _ | .ringMatrix _ _ | .startOutgoing _ _ | .outgoing _ _ | .answerIncoming _ _ => True
  | _ => False

theorem Task.Changes.rests_of_not_makesLegs (h : t.Changes b b') (ht : ¬ t.MakesLegs) : b.Rests b' := by
  cases h with
  | rests | ignores => exact .refl b
  | queues hs _ | ends hs _ | cancels hs => exact rests_modifySession hs ⟨rfl, rfl, rfl, id⟩
  | takes hs => exact rests_modifySession hs ⟨rfl, rfl, rfl, fun _ => rfl⟩
  | adds | addsTaken | addsMatrix => exact rests_addCandidates b _ _
  | closes => exact (rests_closeLeg b _).trans (rests_closeLeg _ _)
  | clears hs =>
    rename_i i call s
    have hclear : b.Rests { b with active := if b.active = some i then none else b.active } :=
      ⟨fun _ => rel_refl .refl, fun _ => rel_refl .refl⟩
    exact hclear.trans (rests_modifySession hs ⟨rfl, rfl, rfl, id⟩)
  | makes hmakes =>
    cases t with
    | ringMatrix | outgoing | answerIncoming => exact absurd trivial ht
    | _ => exact nomatch hmakes
  | claims | calls | storesRinging | storesCalling | storesSignal | storesAnswering | drops | answers
    | addsPending => exact absurd trivial ht

theorem Task.Leads.legFree (h : t.Leads u) (ht : ¬ t.MakesLegs) : u.LegFree := by
  cases h with
  | ring | rings | call | calls | answers => exact absurd trivial ht
  | _ => trivial

theorem Task.movesLegs (h : t.step codec choice b = some o) : MovesLegs b t o := by
  cases t with
  | startIncoming evt place =>
    obtain ⟨m, -, rfl⟩ := Option.map_eq_some_iff.mp h
    exact movesLegs_startIncoming evt m place
  | ringMatrix i place =>
    obtain ⟨s, hs, rfl⟩ := Option.map_eq_some_iff.mp h
    exact movesLegs_ringMatrix hs place
  | startOutgoing portal invite =>
    cases h
    exact movesLegs_startOutgoing portal invite
  | outgoing i place =>
    obtain ⟨s, hs, rfl⟩ := Option.map_eq_some_iff.mp h
    exact movesLegs_outgoing hs place
  | answerIncoming i place =>
    obtain ⟨s, hs, rfl⟩ := Option.map_eq_some_iff.mp h
    exact movesLegs_answerIncoming hs place
  | _ =>
    have haside : Aside b o :=
      ⟨(changes h).rests_of_not_makesLegs id, fun _ hu => (leads h hu).legFree id⟩
    exact haside.movesLegs rfl

theorem Task.legStep (h : t.step codec choice b = some o) : LegStep b t o :=
  (movesLegs h).1

def Bridge.LegsFit (b : Bridge) : Prop :=
  ∀ (i : Nat) s leg, b.sessions[i]? = some s →
    (s.mxLeg = some leg → b.Made leg i true) ∧ (s.signalLeg = some leg → b.Made leg i false)

variable {leg : Nat}

theorem Session.Rests.holdsLeg {s : Session} (h : s.Rests s') : s'.HoldsLeg leg ↔ s.HoldsLeg leg := by
  unfold HoldsLeg
  rw [h.mxLeg, h.signalLeg]

theorem LegStep.legs (h : LegStep b t o) {l : Leg} (hl : b.legs[leg]? = some l) :
    ∃ l', o.state.legs[leg]? = some l' ∧ l.Lasts l' := by
  cases h with
  | rests hb _ _ => exact exists_of_rel_left (hb.legs leg) hl
  | activates session hb =>
    rw [hb]
    exact ⟨l, hl, .refl l⟩
  | makes i new next hb =>
    rw [hb]
    refine ⟨l, ?_, .refl l⟩
    simp only [newLeg]
    rw [List.getElem?_append_left (List.getElem?_eq_some_iff.mp hl).1]
    exact hl
  | stores i leg' s f _ _ hb =>
    rw [hb]
    exact ⟨l, hl, .refl l⟩

variable {i : Nat}

theorem LegStep.made (h : LegStep b t o) {matrix : Bool} (hb : b.Made leg i matrix) : o.state.Made leg i matrix := by
  obtain ⟨l, hl, hsess, hkind⟩ := hb
  obtain ⟨l', hl', hlasts⟩ := h.legs hl
  exact ⟨l', hl', hlasts.session.trans hsess, hlasts.parameters ▸ hkind⟩

def Task.Stores (b : Bridge) (t : Task) (i leg : Nat) : Prop :=
  t.carries = some (i, leg) ∧ ∃ s, b.sessions[i]? = some s ∧
    (s.cancelled = false ∨ t.storesUnchecked = some i)

theorem LegStep.session (h : LegStep b t o) (hs' : o.state.sessions[i]? = some s') :
    (∀ leg, ¬ s'.HoldsLeg leg) ∨ ∃ s, b.sessions[i]? = some s ∧
      (s'.mxLeg = s.mxLeg ∧ s'.signalLeg = s.signalLeg ∨ ∃ leg, t.Stores b i leg ∧
        (t.storesMatrix i = true ∧ s'.mxLeg = some leg ∧ s'.signalLeg = s.signalLeg ∨
          t.storesMatrix i = false ∧ s'.signalLeg = some leg ∧ s'.mxLeg = s.mxLeg)) := by
  cases h with
  | rests hb _ _ =>
    obtain ⟨s, hs, hrests⟩ := exists_of_rel_right (hb.sessions i) hs'
    exact .inr ⟨s, hs, .inl ⟨hrests.mxLeg, hrests.signalLeg⟩⟩
  | activates session hb hlegs =>
    rw [hb] at hs'
    rcases getElem?_activate hs' with hold | ⟨-, rfl⟩
    · exact .inr ⟨s', hold, .inl ⟨rfl, rfl⟩⟩
    · exact .inl hlegs
  | makes j new next hb =>
    rw [hb] at hs'
    exact .inr ⟨s', hs', .inl ⟨rfl, rfl⟩⟩
  | stores j leg s f hs ht hb hstored hchecked _ =>
    rw [hb, getElem?_modifySession] at hs'
    split at hs'
    · rename_i hji
      subst hji
      rw [hs] at hs'
      cases hs'
      refine .inr ⟨s, hs, .inr ⟨leg, ⟨ht, s, hs, hchecked⟩, ?_⟩⟩
      exact hstored.imp id fun ⟨hmx, _, hsig⟩ => ⟨hmx, hsig⟩
    · exact .inr ⟨s', hs', .inl ⟨rfl, rfl⟩⟩

theorem LegStep.holdsLeg (h : LegStep b t o) (hs' : o.state.sessions[i]? = some s') (hleg : s'.HoldsLeg leg) :
    (∃ s, b.sessions[i]? = some s ∧ s.HoldsLeg leg) ∨ t.Stores b i leg := by
  unfold Session.HoldsLeg at hleg
  rcases h.session hs' with hnone | ⟨s, hs, ⟨hm, hg⟩ | ⟨leg', hstores, ⟨-, hm, hg⟩ | ⟨-, hg, hm⟩⟩⟩
  · exact absurd hleg (hnone leg)
  · rw [hm, hg] at hleg
    exact .inl ⟨s, hs, hleg⟩
  · rw [hm, hg] at hleg
    rcases hleg with hleg | hleg
    · exact .inr (Option.some.inj hleg ▸ hstores)
    · exact .inl ⟨s, hs, .inr hleg⟩
  · rw [hm, hg] at hleg
    rcases hleg with hleg | hleg
    · exact .inl ⟨s, hs, .inl hleg⟩
    · exact .inr (Option.some.inj hleg ▸ hstores)

theorem LegStep.legsFit (h : LegStep b t o) (hb : b.LegsFit) (ht : t.LegFits b) : o.state.LegsFit := by
  intro i s' leg hs'
  rcases h.session hs' with hnone | ⟨s, hs, ⟨hm, hg⟩ | ⟨leg', hstores, ⟨hkind, hm, hg⟩ | ⟨hkind, hg, hm⟩⟩⟩
  · exact ⟨fun hleg => absurd (.inl hleg) (hnone leg), fun hleg => absurd (.inr hleg) (hnone leg)⟩
  all_goals
    rw [hm, hg]
    obtain ⟨hmx, hsig⟩ := hb i s leg hs
  · exact ⟨fun hleg => h.made (hmx hleg), fun hleg => h.made (hsig hleg)⟩
  · refine ⟨fun hleg => h.made ?_, fun hleg => h.made (hsig hleg)⟩
    exact Option.some.inj hleg ▸ hkind ▸ ht.1 i leg' hstores.1
  · refine ⟨fun hleg => h.made (hmx hleg), fun hleg => h.made ?_⟩
    exact Option.some.inj hleg ▸ hkind ▸ ht.1 i leg' hstores.1

theorem LegStep.next_cases (h : LegStep b t o) (hu : u ∈ o.next) :
    u.Unladen ∨ ∃ i leg, o.state = b.newLeg leg ∧ leg.session = i ∧ leg.parameters.isNone = u.storesMatrix i ∧
      leg.candidates = [] ∧ u.carries = some (i, b.legs.length) := by
  cases h with
  | rests _ hnext _ | activates _ _ _ hnext _ | stores _ _ _ _ _ _ _ _ _ hnext => exact .inl (hnext u hu)
  | makes i new next hb hsess hnext hkind hemp hmade _ =>
    rw [hnext] at hu
    obtain rfl := mem_singleton.mp hu
    exact .inr ⟨i, new, hb, hsess, hkind, hemp, hmade⟩

theorem LegStep.carries (h : LegStep b t o) (hu : u ∈ o.next) (hcarries : u.carries = some (i, leg)) :
    o.state.Made leg i (u.storesMatrix i) := by
  rcases h.next_cases hu with hfree | ⟨j, new, hb, hsess, hkind, -, hmade⟩
  · exact nomatch hfree.1.symm.trans hcarries
  · obtain ⟨rfl, rfl⟩ := Prod.mk.inj (Option.some.inj (hmade.symm.trans hcarries))
    rw [hb]
    exact ⟨new, by simp [newLeg], hsess, hkind⟩

theorem LegStep.not_start (h : LegStep b t o) (hu : u ∈ o.next) (i : Nat) : u ≠ .answerIncoming i .start := by
  rcases h.next_cases hu with hfree | ⟨_, _, -, -, -, -, hmade⟩
  · exact hfree.2 i
  · rintro rfl
    cases hmade

theorem Task.stores_of_carries (h : u.carries = some (i, leg)) :
    u.storesMatrix i = true ∨ u.storesMatrix i = false ∧ u.storesSignal i = true := by
  unfold carries at h
  split at h
  all_goals cases h
  · exact .inl (decide_eq_true rfl)
  · exact .inl (decide_eq_true rfl)
  · exact .inr ⟨rfl, decide_eq_true rfl⟩
  · exact .inr ⟨rfl, decide_eq_true rfl⟩

-- Every leg is where it belongs, and a session gets one leg of each kind.
structure PlacesLegs (p : Pool Bridge Task) : Prop where
  fits : p.Annotated LegsFit LegFits
  matrix : ∀ i, p.Exclusive (matrixTicket.credit i) (storesMatrix i)
  signal : ∀ i, p.Exclusive (signalTicket.credit i) (storesSignal i)

theorem placesLegs_initial : PlacesLegs { state := {} } where
  fits := ⟨fun _ _ _ hs => (nomatch hs), fun _ ht => (nomatch ht)⟩
  matrix := fun _ => Nat.le_refl 1
  signal := fun _ => Nat.le_refl 1

theorem PoolStep.placesLegs (h : PoolStep codec guard p p' new) (hp : PlacesLegs p) : PlacesLegs p' := by
  cases h with
  | runs place choice t o ht hstep _ =>
    have hfits := hp.fits.task t (Pool.mem_tasks_of_at ht)
    have hlegs := legStep hstep
    obtain ⟨hmx, hsig⟩ := (movesLegs hstep).2 hfits
    refine ⟨?_, fun i => (hp.matrix i).resume ht (hmx i), fun i => (hp.signal i).resume ht (hsig i)⟩
    refine hp.fits.resume ht (hlegs.legsFit hp.fits.state hfits) (fun u hu => ?_) fun u _ hu => ?_
    · exact ⟨fun i leg => hlegs.carries hu, fun i heq => absurd heq (hlegs.not_start hu i)⟩
    · refine ⟨fun i leg hcarries => hlegs.made (hu.1 i leg hcarries), fun i heq => ?_⟩
      exact (evolves hstep).has (hu.2 i heq) fun s s' hs he => he.incoming.trans hs
  | gets p' tasks hstate hperm htasks =>
    have hload (holds : Task → Bool) (hnone : ∀ u ∈ tasks, holds u = false) :
        p'.load holds ≤ p.load holds := by
      have hzero : tasks.countP holds = 0 := countP_eq_zero.mpr fun u hu => by simp [hnone u hu]
      have hcount := hperm.countP_eq holds
      rw [countP_append] at hcount
      unfold Pool.load
      omega
    have hstores (u : Task) (hu : u ∈ tasks) (i : Nat) :
        u.storesMatrix i = false ∧ u.storesSignal i = false := by
      rcases htasks u hu with ⟨evt, rfl⟩ | hexternal
      · exact ⟨rfl, rfl⟩
      · cases hexternal <;> exact ⟨rfl, rfl⟩
    refine ⟨?_, fun i => ?_, fun i => ?_⟩
    · refine hp.fits.of_tasks hstate fun u hu => ?_
      rcases mem_append.mp (hperm.mem_iff.mp hu) with hnew | hold
      · rcases htasks u hnew with ⟨evt, rfl⟩ | hexternal
        · exact .inr ⟨nofun, nofun⟩
        · refine .inr ⟨fun i leg hcarries => ?_, fun i hstart => ?_⟩
          · cases hexternal <;> cases hcarries
          · subst hstart
            cases hexternal with
            | answer _ _ hin => exact hin
      · exact .inl hold
    · exact (hp.matrix i).of_tasks hstate (hload _ fun u hu => (hstores u hu i).1)
    · exact (hp.signal i).of_tasks hstate (hload _ fun u hu => (hstores u hu i).2)

theorem Bridge.Made.unique {j : Nat} {matrix matrix' : Bool} (h : b.Made leg i matrix) (h' : b.Made leg j matrix') :
    i = j ∧ matrix = matrix' := by
  obtain ⟨l, hl, rfl, rfl⟩ := h
  obtain ⟨l', hl', rfl, rfl⟩ := h'
  obtain rfl := Option.some.inj (hl.symm.trans hl')
  exact ⟨rfl, rfl⟩

theorem PlacesLegs.not_holdsLeg (hp : PlacesLegs p) (ht : t ∈ p.tasks) {j : Nat} {s : Session}
    (hcarries : t.carries = some (i, leg)) (hs : p.state.sessions[j]? = some s) : ¬ s.HoldsLeg leg := by
  have hmade := (hp.fits.task t ht).1 i leg hcarries
  rintro (hleg | hleg)
  · obtain ⟨rfl, hkind⟩ := hmade.unique ((hp.fits.state j s leg hs).1 hleg)
    have hcredit := (hp.matrix i).credit_eq_zero ht hkind
    simp [Ticket.credit, matrixTicket, hs, hleg] at hcredit
  · obtain ⟨rfl, hkind⟩ := hmade.unique ((hp.fits.state j s leg hs).2 hleg)
    rcases stores_of_carries hcarries with hmx | ⟨-, hsig⟩
    · exact nomatch hmx.symm.trans hkind
    · have hcredit := (hp.signal i).credit_eq_zero ht hsig
      simp [Ticket.credit, signalTicket, hs, hleg] at hcredit

theorem PlacesLegs.signalLeg_stays (hp : PlacesLegs p) (ht : t ∈ p.tasks) (hstep : LegStep p.state t o)
    (h : p.state.Has i (·.signalLeg = some leg)) : o.state.Has i (·.signalLeg = some leg) := by
  obtain ⟨s, hs, hleg⟩ := h
  cases hstep with
  | rests hb _ _ =>
    have hrel := hb.sessions i
    rw [hs] at hrel
    generalize hs' : o.state.sessions[i]? = new at hrel
    cases hrel with
    | some hrests => exact ⟨_, hs', hrests.signalLeg.trans hleg⟩
  | activates session hb =>
    rw [hb]
    exact ⟨s, getElem?_activate_of_some hs session, hleg⟩
  | makes j new next hb =>
    rw [hb]
    exact ⟨s, hs, hleg⟩
  | stores j leg' s' f hs' hcarries hb hstored =>
    rw [hb]
    by_cases hji : j = i
    · subst hji
      obtain rfl := Option.some.inj (hs.symm.trans hs')
      rcases hstored with ⟨-, -, hsig⟩ | ⟨-, hholder, -, -⟩
      · exact has_modifySession hs (hsig.trans hleg)
      · have hcredit := (hp.signal j).credit_eq_zero ht hholder
        simp [Ticket.credit, signalTicket, hs, hleg] at hcredit
    · exact ⟨s, by rw [getElem?_modifySession, if_neg hji]; exact hs, hleg⟩

end MautrixSignal.Calls
