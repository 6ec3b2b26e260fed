import MautrixSignal.Calls.Runs

namespace MautrixSignal.Calls

open Lib

variable {codec : CallCodec} {choice : Choice} {b : Bridge} {o : CallOutcome} {t u : Task} {n : Node}
  {w w' : World} {a : Action} {p p' : Pool Bridge Task} {new : List Entry}

-- What a device does in a run: the call events it handles, with the bridge as it is then, and its invites
-- and hangups in Matrix. A hangup is there whether or not it can be sent.
inductive Entry
  | handled (b : Bridge) (evt : CallEvent)
  | invite (session : Nat)
  | hangup (session : Nat)

def Task.entries (b : Bridge) (choice : Choice) : Task → List Entry
  | .handleSignalCall evt => [.handled b evt]
  | .ringMatrix i .sendInvite => if choice.ok then [.invite i] else []
  | .ending i call .cancel => if call.reason = .localDecline then [] else [.hangup i]
  | _ => []

theorem Task.handled_of_entries {b' : Bridge} {evt : CallEvent}
    (h : .handled b' evt ∈ t.entries b choice) : t = .handleSignalCall evt ∧ b' = b := by
  unfold Task.entries at h
  split at h
  · obtain ⟨rfl, rfl⟩ := Entry.handled.inj (List.mem_singleton.mp h)
    exact ⟨rfl, rfl⟩
  · split at h <;> simp at h
  · split at h <;> simp at h
  · cases h

def World.entries (w : World) : Action → List (Node × Entry)
  | .run n place choice =>
    match (w.devices n).pool.at? place with
    | some t => (t.entries (w.devices n).pool.state choice).map fun entry => (n, entry)
    | none => []
  | _ => []

def entriesAt (n : Node) (journal : List (Node × Entry)) : List Entry :=
  journal.filterMap fun (m, entry) => if m = n then some entry else none

theorem entriesAt_map_self (n : Node) (entries : List Entry) :
    entriesAt n (entries.map fun entry => (n, entry)) = entries := by
  simp [entriesAt]

theorem entriesAt_map_other {m : Node} (hm : m ≠ n) (entries : List Entry) :
    entriesAt n (entries.map fun entry => (m, entry)) = [] := by
  simp [entriesAt, hm]

abbrev Guard := Pool Bridge Task → Task → Choice → Bool

variable {guard : Guard}

def World.meets (guard : Guard) (w : World) : Action → Bool
  | .run n place choice =>
    match (w.devices n).pool.at? place with
    | some t => guard (w.devices n).pool t choice
    | none => true
  | _ => true

inductive PoolStep (codec : CallCodec) (guard : Guard) (p : Pool Bridge Task) :
    Pool Bridge Task → List Entry → Prop
  | runs (place : Place) (choice : Choice) (t : Task) (o : CallOutcome) (ht : p.at? place = some t)
      (hstep : t.step codec choice p.state = some o) (hguard : guard p t choice = true) :
      PoolStep codec guard p (p.resume o place) (t.entries p.state choice)
  | gets (p' : Pool Bridge Task) (tasks : List Task) (hstate : p'.state = p.state)
      (hperm : p'.tasks.Perm (tasks ++ p.tasks))
      (htasks : ∀ u ∈ tasks, (∃ evt, u = .handleSignalCall evt) ∨ u.External p.state) :
      PoolStep codec guard p p' []

theorem PoolStep.refl (p : Pool Bridge Task) : PoolStep codec guard p p [] :=
  .gets p [] rfl (.refl _) fun _ hu => nomatch hu

theorem poolStep_start {d : Device} {tasks : List Task} (h : ∀ u ∈ tasks, u.External d.pool.state) :
    PoolStep codec guard d.pool (d.start tasks).pool [] := by
  refine .gets _ tasks rfl ?_ fun u hu => .inr (h u hu)
  have hsplit : (d.start tasks).pool.tasks = d.pool.tasks ++ tasks := by simp [Device.start, Pool.tasks]
  exact hsplit ▸ List.perm_append_comm

theorem poolStep_setDevice {d : Device} (entries : List (Node × Entry)) {m : Node}
    (hself : PoolStep codec guard (w.devices m).pool d.pool (entriesAt m entries))
    (hothers : ∀ k, m ≠ k → entriesAt k entries = []) (n : Node) (network : List Packet) :
    PoolStep codec guard (w.devices n).pool ((({ w with network } : World).setDevice m d).devices n).pool
      (entriesAt n entries) := by
  by_cases hnm : m = n
  · subst hnm
    simpa [World.setDevice] using hself
  · have hsame : (({ w with network } : World).setDevice m d).devices n = w.devices n := by
      simp [World.setDevice, Ne.symm hnm]
    rw [hsame, hothers n hnm]
    exact .refl _

theorem poolStep_of_step (hguard : w.meets guard a = true) (h : Step codec w a w') (n : Node) :
    PoolStep codec guard (w.devices n).pool (w'.devices n).pool (entriesAt n (w.entries a)) := by
  have hquiet : ∀ k : Node, entriesAt k [] = [] := fun _ => rfl
  cases a with
  | run m place choice =>
    simp only [Step, World.step, Option.bind_eq_bind, Option.bind_eq_some_iff, Option.pure_def,
      Option.some.injEq] at h
    obtain ⟨t, ht, o, ho, rfl⟩ := h
    simp only [World.meets, ht] at hguard
    simp only [World.entries, ht]
    refine poolStep_setDevice _ ?_ (fun k hk => entriesAt_map_other hk _) n _
    rw [entriesAt_map_self]
    exact .runs place choice t o ht ho hguard
  | receive m =>
    simp only [Step, World.step] at h
    split at h
    · rename_i evt inbox hidle _
      cases h
      refine poolStep_setDevice [] ?_ (fun k _ => hquiet k) n w.network
      refine .gets _ [.handleSignalCall evt] rfl ?_ ?_
      · simp [Pool.tasks, hidle]
      · exact fun u hu => .inl ⟨evt, List.mem_singleton.mp hu⟩
    · cases h
  | deliver m packet delivery =>
    simp only [Step, World.step, Option.ite_none_right_eq_some, Option.some.injEq] at h
    obtain ⟨-, rfl⟩ := h
    refine poolStep_setDevice [] ?_ (fun k _ => hquiet k) n w.network
    exact .refl _
  | matrix m portal evt =>
    cases h
    exact poolStep_setDevice [] (poolStep_start fun u => external_handleMatrixEvent) (fun k _ => hquiet k)
      n w.network
  | candidate m i sdp =>
    simp only [Step, World.step] at h
    split at h
    · cases h
      refine poolStep_setDevice [] (poolStep_start fun u hu => ?_) (fun k _ => hquiet k) n w.network
      rw [List.mem_singleton.mp hu]
      exact .localCandidate i sdp
    · cases h
  | stop m =>
    cases h
    exact poolStep_setDevice [] (poolStep_start fun u => external_stop) (fun k _ => hquiet k) n w.network
  | sendForeign packet =>
    simp only [Step, World.step, Option.ite_none_right_eq_some, Option.some.injEq] at h
    obtain ⟨-, rfl⟩ := h
    exact .refl _

-- A run of the world in which every step meets a condition, with what is seen of it.
abbrev Watched (codec : CallCodec) (guard : Guard) :=
  Recorded World.entries (Guarded (fun w a => World.meets guard w a = true) (Step codec))

theorem forall_pools_of_run (I : Pool Bridge Task → List Entry → Prop) (hinit : I { state := {} } [])
    (hstep : ∀ p entries p' new, I p entries → PoolStep codec guard p p' new → I p' (entries ++ new))
    {labels : List Action} {journal : List (Node × Entry)}
    (h : Run (Watched codec guard) (.initial, []) labels (w, journal)) (n : Node) :
    I (w.devices n).pool (entriesAt n journal) := by
  refine h.invariant (I := fun s => I (s.1.devices n).pool (entriesAt n s.2)) ?_ hinit
  rintro ⟨w, journal⟩ a ⟨w', journal'⟩ hI ⟨⟨hguard, hw⟩, hjournal⟩
  rw [hjournal, entriesAt, List.filterMap_append]
  exact hstep _ _ _ _ hI (poolStep_of_step hguard hw n)

def SoundPool (p : Pool Bridge Task) : Prop :=
  p.Annotated (Bridge.Inv fun _ => True) (Task.Holds fun _ => True)

theorem PoolStep.sound (h : PoolStep codec guard p p' new) (hp : SoundPool p) : SoundPool p' := by
  cases h with
  | runs place choice t o ht hstep _ =>
    obtain ⟨hinv, hnext⟩ := Task.sound (fun _ _ => trivial) hstep hp.state
      (hp.task t (Pool.mem_tasks_of_at ht)) fun _ _ _ _ _ _ _ => trivial
    exact hp.resume ht hinv hnext fun u _ hu => hu.evolves (Task.evolves hstep)
  | gets p' tasks hstate hperm htasks =>
    refine hp.of_tasks hstate fun u hu => ?_
    rcases List.mem_append.mp (hperm.mem_iff.mp hu) with hnew | hold
    · refine .inr ?_
      rcases htasks u hnew with ⟨evt, rfl⟩ | hexternal
      · trivial
      · rcases hexternal.plain with hfree | ⟨i, hi, hplain⟩
        · exact Task.holds_of_plain hfree
        · obtain ⟨s, hs, -⟩ := hp.state.active i hi
          exact hplain.holds (fun _ _ => trivial) ⟨s, hs, trivial⟩
    · exact .inl hold

end MautrixSignal.Calls
