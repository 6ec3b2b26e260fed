import MautrixSignal.Calls.Accepted
import MautrixSignal.Calls.Legs

namespace MautrixSignal.Calls

open Lib

variable {codec : CallCodec} {choice : Choice} {b b' : Bridge} {o : CallOutcome} {t u : Task} {n : Node}
  {guard : Guard} {p p' : Pool Bridge Task} {new : List Entry} {w : World} {i leg : Nat}

def Task.clears (i : Nat) : Task → Bool
  | .ending j _ .clearActive => j = i
  | _ => false

def legsRead (p : Pool Bridge Task) (i : Nat) : Bool :=
  p.state.sessions[i]?.any (·.endDone) || p.tasks.any (Task.clears i)

theorem legsRead_iff :
    legsRead p i = true ↔
      (p.state.Has i (·.endDone = true)) ∨ ∃ call, Task.ending i call .clearActive ∈ p.tasks := by
  simp only [legsRead, Bool.or_eq_true, Option.any_eq_true, List.any_eq_true]
  refine or_congr Iff.rfl ?_
  constructor
  · rintro ⟨u, hu, hclears⟩
    unfold Task.clears at hclears
    split at hclears
    · rename_i j call
      obtain rfl := of_decide_eq_true hclears
      exact ⟨call, hu⟩
    · cases hclears
  · rintro ⟨call, hu⟩
    exact ⟨_, hu, decide_eq_true rfl⟩

theorem Task.Changes.endDone (h : t.Changes b b') (hdone : b'.Has i (·.endDone = true)) :
    b.Has i (·.endDone = true) ∨ ∃ call, t = .ending i call .clearActive := by
  rcases h.has_before hdone (fun s s' hw hs' => hw.endDone.symm.trans hs')
    fun s hnew hs => (nomatch hnew.endDone.symm.trans hs) with hold | ⟨s, call, hs, hends⟩
  · exact .inl hold
  · rcases hends with ⟨-, hold⟩ | ⟨-, hold⟩ | ⟨rfl, -⟩
    · exact .inl ⟨s, hs, hold⟩
    · exact .inl ⟨s, hs, hold⟩
    · exact .inr ⟨call, rfl⟩

theorem legsRead_of_resume {place : Place} (ht : p.at? place = some t)
    (h : t.step codec choice p.state = some o) (hread : legsRead (p.resume o place) i = true) :
    legsRead p i = true ∨ ∃ call, t = .ending i call .closeLegs := by
  have hmem := Pool.mem_tasks_of_at ht
  rcases legsRead_iff.mp hread with hdone | ⟨call, hclear⟩
  · simp only [Pool.state_resume] at hdone
    rcases (Task.changes h).endDone hdone with hold | ⟨call, rfl⟩
    · exact .inl (legsRead_iff.mpr (.inl hold))
    · exact .inl (legsRead_iff.mpr (.inr ⟨call, hmem⟩))
  · rcases Pool.mem_tasks_resume ht hclear with hnew | hold
    · cases Task.leads h hnew with
      | ends hplace =>
        rename_i place
        refine .inr ⟨call, ?_⟩
        cases place with
        | closeLegs => rfl
        | _ => cases hplace
    · exact .inl (legsRead_iff.mpr (.inr ⟨call, hold⟩))

def Bridge.LegsClosed (b : Bridge) (i : Nat) : Prop :=
  ∀ s leg, b.sessions[i]? = some s → s.HoldsLeg leg → ∃ l, b.legs[leg]? = some l ∧ l.closed = true

def Bridge.KeepsLeg (i leg : Nat) (b : Bridge) : Prop :=
  ∀ l, b.legs[leg]? = some l → l.session = i → l.closed = true ∨ b.Has i (·.HoldsLeg leg)

theorem getElem?_closeLeg (b : Bridge) (closed : Option Nat) (leg : Nat) :
    (b.closeLeg closed).legs[leg]? =
      b.legs[leg]?.map fun l => if closed = some leg then { l with closed := true } else l := by
  cases closed with
  | none => simp [Bridge.closeLeg]
  | some j =>
    simp only [Bridge.closeLeg]
    by_cases hj : j = leg <;> simp [hj]

theorem legsClosed_closeLegs {s : Session} {call : Ending} {ok : Bool} (hfit : b.LegsFit)
    (hs : b.sessions[i]? = some s) (h : endSession b i s call ok .closeLegs = some o) : o.state.LegsClosed i := by
  cases h
  have hclose (b : Bridge) (leg : Option Nat) : (b.closeLeg leg).sessions = b.sessions := by
    cases leg <;> rfl
  intro s' leg hs' hleg
  simp only [hclose, hs, Option.some.injEq] at hs'
  subst hs'
  obtain ⟨l, hl⟩ : ∃ l, b.legs[leg]? = some l := by
    rcases hleg with hleg | hleg
    · exact ((hfit i s leg hs).1 hleg).imp fun _ h => h.1
    · exact ((hfit i s leg hs).2 hleg).imp fun _ h => h.1
  simp only [getElem?_closeLeg, hl, Option.map_some, Option.some.injEq, exists_eq_left']
  rcases hleg with hleg | hleg
  · split <;> rfl
  · simp [hleg]

theorem LegStep.legsClosed (h : LegStep b t o) (hb : b.LegsClosed i)
    (hstores : ∀ s, b.sessions[i]? = some s → t.storesUnchecked ≠ some i ∧ s.cancelled = true) :
    o.state.LegsClosed i := by
  intro s' leg hs' hleg
  rcases h.holdsLeg hs' hleg with ⟨s, hs, hold⟩ | ⟨-, s, hs, hfree | hunchecked⟩
  · obtain ⟨l, hl, hclosed⟩ := hb s leg hs hold
    obtain ⟨l', hl', hlasts⟩ := h.legs hl
    exact ⟨l', hl', hlasts.closed hclosed⟩
  · exact nomatch hfree.symm.trans (hstores s hs).2
  · exact absurd hunchecked (hstores s hs).1

theorem LegStep.leg_of_state {l' : Leg} (h : LegStep b t o) (hl' : o.state.legs[leg]? = some l') :
    (∃ l, b.legs[leg]? = some l ∧ l.Lasts l') ∨ ∃ u ∈ o.next, u.carries = some (l'.session, leg) := by
  cases h with
  | rests hb _ _ => exact .inl (Bridge.exists_of_rel_right (hb.legs _) hl')
  | activates _ hb _ _ _ | stores _ _ _ _ _ _ hb _ _ _ =>
    rw [hb] at hl'
    exact .inl ⟨l', hl', .refl l'⟩
  | makes j new next hb hsess hnext _ _ hcarries _ =>
    rw [hb] at hl'
    simp only [Bridge.newLeg, List.getElem?_append] at hl'
    split at hl'
    · exact .inl ⟨l', hl', .refl l'⟩
    have hleg : leg = b.legs.length := by
      have hlt := (List.getElem?_eq_some_iff.mp hl').1
      simp only [List.length_singleton] at hlt
      omega
    subst hleg
    rw [Nat.sub_self, List.getElem?_cons_zero, Option.some.injEq] at hl'
    subst hl'
    exact .inr ⟨next, by simp [hnext], hsess ▸ hcarries⟩

section

variable (h : LegStep b t o) (hmatrix : ∀ j, t.storesMatrix j = true → matrixTicket.credit j b = 0)
  (hsignal : ∀ j, t.storesSignal j = true → signalTicket.credit j b = 0)

include h hmatrix hsignal

theorem LegStep.holds (hb : b.Has i (·.HoldsLeg leg)) : o.state.Has i (·.HoldsLeg leg) := by
  obtain ⟨s, hs, hleg⟩ := hb
  cases h with
  | rests hb _ _ =>
    have hrel := hb.sessions i
    rw [hs] at hrel
    generalize hs' : o.state.sessions[i]? = new at hrel
    cases hrel with
    | some hrests => exact ⟨_, hs', hrests.holdsLeg.mpr hleg⟩
  | activates session hb _ _ _ =>
    rw [hb]
    refine ⟨s, ?_, hleg⟩
    simp only [Bridge.activate]
    rw [List.getElem?_append_left (List.getElem?_eq_some_iff.mp hs).1]
    exact hs
  | makes _ _ _ hb _ _ _ _ _ _ =>
    rw [hb]
    exact ⟨s, hs, hleg⟩
  | stores j stored s' f hs' _ hb hstored _ _ =>
    rw [hb]
    by_cases hij : j = i
    · subst hij
      obtain rfl := Option.some.inj (hs.symm.trans hs')
      refine Bridge.has_modifySession hs ?_
      rcases hstored with ⟨hholder, -, hkept⟩ | ⟨-, hholder, -, hkept⟩ <;> rcases hleg with hleg | hleg
      · have hcredit := hmatrix j hholder
        simp [Ticket.credit, matrixTicket, hs, hleg] at hcredit
      · exact .inr (hkept.trans hleg)
      · exact .inl (hkept.trans hleg)
      · have hcredit := hsignal j hholder
        simp [Ticket.credit, signalTicket, hs, hleg] at hcredit
    · exact ⟨s, by rw [Bridge.getElem?_modifySession, if_neg hij, hs], hleg⟩

theorem LegStep.keepsLeg (hb : b.KeepsLeg i leg) :
    o.state.KeepsLeg i leg ∨ ∃ u ∈ o.next, u.carries = some (i, leg) := by
  by_cases hmade : ∃ u ∈ o.next, u.carries = some (i, leg)
  · exact .inr hmade
  refine .inl fun l' hl' hsess => ?_
  rcases h.leg_of_state hl' with ⟨l, hl, hlasts⟩ | hnew
  · rcases hb l hl (hlasts.session.symm.trans hsess) with hclosed | hholds
    · exact .inl (hlasts.closed hclosed)
    · exact .inr (h.holds hmatrix hsignal hholds)
  · exact absurd (hsess ▸ hnew) hmade

end

theorem LegStep.keepsLeg_of_carries (h : LegStep b t o) (ht : t.carries = some (i, leg)) : o.state.KeepsLeg i leg := by
  cases h with
  | rests _ _ hdrops => exact fun l hl _ => .inl (hdrops i leg l ht hl)
  | activates _ _ _ _ hnone | makes _ _ _ _ _ _ _ _ _ hnone => exact nomatch hnone.symm.trans ht
  | stores j leg' s f hs hcarries hb hstored _ _ =>
    obtain ⟨rfl, rfl⟩ := Prod.mk.inj (Option.some.inj (hcarries.symm.trans ht))
    intro l _ _
    rw [hb]
    refine .inr (Bridge.has_modifySession hs ?_)
    rcases hstored with ⟨-, hstored, -⟩ | ⟨-, -, hstored, -⟩
    · exact .inl hstored
    · exact .inr hstored

-- No leg gets lost, and the end of a session misses none that is in its place when it looks.
structure KeepsLegs (p : Pool Bridge Task) : Prop extends PlacesLegs p where
  kept : ∀ i leg, p.Owed (Bridge.KeepsLeg i leg) (·.carries = some (i, leg))
  read : ∀ i, legsRead p i = true → p.state.LegsClosed i

theorem keepsLegs_initial : KeepsLegs { state := {} } where
  toPlacesLegs := placesLegs_initial
  kept := fun _ _ => .inl fun _ hl => nomatch hl
  read := fun _ hread => nomatch hread

theorem SoundPool.cancelled_of_legsRead (h : SoundPool p) (hread : legsRead p i = true) :
    p.state.Has i (·.cancelled = true) := by
  rcases legsRead_iff.mp hread with ⟨s, hs, hdone⟩ | ⟨call, hclear⟩
  · exact ⟨s, hs, (h.state.done i s hs hdone).2⟩
  · obtain ⟨-, s, hs, hfits⟩ := h.task _ hclear
    exact ⟨s, hs, hfits.2⟩

-- Whenever a leg is stored without a look at the context, the end of the session has not yet read the legs.
def storesInTime : Guard :=
  fun p t _ => t.storesUnchecked.all fun i => legsRead p i = false

theorem PoolStep.keepsLegs (h : PoolStep codec storesInTime p p' new) (hsound : SoundPool p)
    (hp : KeepsLegs p) : KeepsLegs p' := by
  refine ⟨h.placesLegs hp.toPlacesLegs, ?_, ?_⟩
  · intro i leg
    cases h with
    | runs place choice t o ht hstep _ =>
      have hmem := Pool.mem_tasks_of_at ht
      have hlegs := Task.legStep hstep
      refine (hp.kept i leg).resume ht ?_ fun hcarries => .inl (hlegs.keepsLeg_of_carries hcarries)
      refine hlegs.keepsLeg ?_ ?_
      · exact fun j hholder => (hp.matrix j).credit_eq_zero hmem hholder
      · exact fun j hholder => (hp.signal j).credit_eq_zero hmem hholder
    | gets p' tasks hstate hperm _ =>
      exact (hp.kept i leg).of_tasks hstate fun u hu => hperm.mem_iff.mpr (List.mem_append_right _ hu)
  · intro i hread
    cases h with
    | runs place choice t o ht hstep hguard =>
      rw [Pool.state_resume]
      rcases legsRead_of_resume ht hstep hread with hold | ⟨call, rfl⟩
      · refine (Task.legStep hstep).legsClosed (hp.read i hold) fun s hs => ⟨fun hunchecked => ?_, ?_⟩
        · have hunread : legsRead p i = false := by simpa [storesInTime, hunchecked] using hguard
          exact nomatch hold.symm.trans hunread
        · obtain ⟨s', hs', hcanc⟩ := hsound.cancelled_of_legsRead hold
          rw [Option.some.inj (hs.symm.trans hs')]
          exact hcanc
      · obtain ⟨s, hs, hend⟩ := Option.bind_eq_some_iff.mp hstep
        exact legsClosed_closeLegs hp.fits.state hs hend
    | gets p' tasks hstate hperm htasks =>
      rw [hstate]
      refine hp.read i (legsRead_iff.mpr ?_)
      rcases legsRead_iff.mp hread with hdone | ⟨call, hclear⟩
      · exact .inl (hstate ▸ hdone)
      · rcases List.mem_append.mp (hperm.mem_iff.mp hclear) with hnew | hold
        · rcases htasks _ hnew with ⟨evt, heq⟩ | hexternal
          · cases heq
          · cases hexternal
        · exact .inr ⟨call, hold⟩

theorem keepsLegs_of_run {labels : List Action}
    (h : Run (Guarded (fun w a => World.meets storesInTime w a = true) (Step codec)) .initial labels w)
    (n : Node) : KeepsLegs (w.devices n).pool := by
  obtain ⟨journal, hwatched⟩ := h.exists_recorded World.entries []
  refine (forall_pools_of_run (fun p _ => SoundPool p ∧ KeepsLegs p) ⟨sound_initial, keepsLegs_initial⟩ ?_
    hwatched n).2
  rintro p entries p' new ⟨hsound, hkeeps⟩ hstep
  exact ⟨hstep.sound hsound, hstep.keepsLegs hsound hkeeps⟩

-- Where no leg is stored behind the back of end, a session that has ended and whose tasks have returned
-- leaves no leg open.
theorem legs_closed_after_end (codec : CallCodec) {labels : List Action} {w : World}
    (h : Run (Guarded (fun w a => World.meets storesInTime w a = true) (Step codec)) .initial labels w)
    (n : Node) (i : Nat) (hended : (w.devices n).pool.state.Has i (·.endDone = true))
    (hreturned : ∀ t ∈ (w.devices n).pool.tasks, t.session ≠ some i) :
    ∀ leg ∈ (w.devices n).pool.state.legs, leg.session = i → leg.closed = true := by
  intro l hl hsess
  obtain ⟨leg, hlt, hget⟩ := List.mem_iff_getElem.mp hl
  have hl' := List.getElem?_eq_some_iff.mpr ⟨hlt, hget⟩
  have hkeeps := keepsLegs_of_run h n
  rcases hkeeps.kept i leg with hkept | ⟨t, ht, hcarries⟩
  · rcases hkept l hl' hsess with hclosed | ⟨s, hs, hholds⟩
    · exact hclosed
    · obtain ⟨l', hl'', hclosed⟩ := hkeeps.read i (legsRead_iff.mpr (.inl hended)) s leg hs hholds
      rw [Option.some.inj (hl'.symm.trans hl'')]
      exact hclosed
  · refine absurd ?_ (hreturned t ht)
    unfold Task.carries at hcarries
    split at hcarries
    all_goals cases hcarries
    all_goals rfl

def hangUpInMatrix (place : Place) : List Action :=
  .matrix caller ⟨"!caller", some (newACIServiceID winner.aci)⟩
      { type := .hangup, callID := "out", partyID := "user" } ::
    List.replicate 5 (.run caller place {})

theorem legs_closed_after_end_hang_up :
    ∃ labels w, Run (Guarded (fun w a => World.meets storesInTime w a = true) (Step emptyCodec)) .initial
      labels w ∧
      (w.devices caller).pool.state.legs.length = 2 ∧
      ∀ leg ∈ (w.devices caller).pool.state.legs, leg.session = 0 → leg.closed = true := by
  have hcheck : (runThrough (World.meets storesInTime) (World.step emptyCodec) .initial
      (placeCall ++ hangUpInMatrix (.background 1) ++ [.run caller (.background 0) {}])).any (fun w =>
      (w.devices caller).pool.state.legs.length = 2 ∧ (w.devices caller).pool.tasks = [] ∧
      (w.devices caller).pool.state.Has 0 (·.endDone = true)) = true := by
    decide +kernel
  obtain ⟨w, hrun, hlegs, htasks, hdone⟩ := exists_run hcheck
  refine ⟨_, w, hrun, hlegs, legs_closed_after_end emptyCodec hrun caller 0 hdone ?_⟩
  rw [htasks]
  exact fun t ht => nomatch ht

-- startOutgoing stores the leg after end has read the legs of the session.
theorem leg_left_open_after_hang_up :
    ∃ labels w, Run (Step emptyCodec) .initial labels w ∧
      (w.devices caller).pool.state.Has 0 (·.endDone = true) ∧ (w.devices caller).pool.tasks = [] ∧
      ∃ leg ∈ (w.devices caller).pool.state.legs, leg.session = 0 ∧ leg.closed = false := by
  refine ⟨placeCall.take 3 ++ hangUpInMatrix (.background 1) ++ List.replicate 3 (.run caller (.background 0) {}), ?_⟩
  exact exists_free_run (by decide +kernel)

end MautrixSignal.Calls
