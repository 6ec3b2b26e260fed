import MautrixSignal.Receive.EventBuffer

namespace MautrixSignal.EventBuffer

open Lib World List

def RequestLoop.request : RequestLoop → Option Request
  | .selecting => none
  | .decrypting request => some request
  | .handling request _ => some request
  | .pushing request => some request

def WriteLoop.request : WriteLoop → Option Request
  | .exited => none
  | .selecting => none
  | .took request => some request
  | .writing request _ => some request

def World.pending (w : World) : List Request :=
  w.writeLoop.request.toList ++ (w.requestLoop.request.toList ++ w.incomingRequestChan)

def World.pendingEnvelopes (w : World) : List EnvelopeID := w.pending.filterMap Request.envelope

def World.leftBehind (w : World) : Bool :=
  match w.requestLoop with
  | .decrypting { envelope := some (.ciphertext hash), .. } =>
    (w.buffer hash).any fun event => event.plaintext.isSome
  | _ => false

-- No connection and no process ends with an unanswered request, no envelope is delivered twice at a time, no
-- plaintext is cleared without an answer, and none that was left behind is handled while an earlier response is
-- not yet counted.
def undisturbed (w : World) : Action → Bool
  | .disconnect => w.pending = []
  | .restart => w.pending = []
  | .deliver (some envelope) => envelope ∉ w.pendingEnvelopes
  | .decrypt _ => !w.leftBehind || w.writeLoop.request.isNone && w.writeCallbackCounter.isNone
  | .handle handled => handled ≠ .lost
  | _ => true

def UndisturbedStep : World → Action → World → Prop := Guarded (fun w action => undisturbed w action = true) Step

section Places

variable (w : World) (hash : Bytes)

def World.Pushes : Prop := ∃ request, w.requestLoop = .pushing request ∧ request.envelope = some (.ciphertext hash)

def World.Writes : Prop :=
  ∃ request, w.writeLoop.request = some request ∧ request.envelope = some (.ciphertext hash)

def World.Holds (event : BufferedEvent) : Prop :=
  (∃ request, w.requestLoop = .handling request (some hash)) ∨ event.plaintext = none ∧ w.Pushes hash

end Places

structure Queue (w : World) : Prop where
  current : ∀ request ∈ w.pending, request.conn = w.conn ∧ w.writeLoop ≠ .exited
  unacknowledged : ∀ envelope ∈ w.pendingEnvelopes, envelope ∉ w.acknowledged
  nodup : w.pendingEnvelopes.Nodup

-- A row without a plaintext is acknowledged, or its response is on the way and the row is not older than the time
-- that the callback loop compares with, which is from a write that was finished before.
structure Settled (w : World) : Prop where
  queue : Queue w
  null : ∀ hash event, w.buffer hash = some event → event.plaintext = none →
    .ciphertext hash ∈ w.acknowledged ∨ w.Pushes hash ∨ w.Writes hash
  fresh : w.writeLoop.request ≠ none → ∀ hash event, w.buffer hash = some event → w.Holds hash event →
    unixMilli w.writeCallbackTimer ≤ event.insertTimestamp ∧
      ∀ time, w.writeCallbackCounter = some time → unixMilli time ≤ event.insertTimestamp
  young : w.writeCallbackCounter ≠ none → ∀ hash event, w.buffer hash = some event →
    w.Holds hash event ∨ event.plaintext = none ∧ w.Writes hash →
      unixMilli w.writeCallbackTimer ≤ event.insertTimestamp
  deleted : ∀ hash, w.deleted hash = true → .ciphertext hash ∈ w.acknowledged

theorem settled_init (start : ℕ) : Settled (init start) where
  queue := ⟨nofun, nofun, nodup_nil⟩
  null := nofun
  fresh := fun h => absurd rfl h
  young := fun h => absurd rfl h
  deleted := nofun

namespace Queue

variable {w w' : World}

theorem of_pending_nil (h : w.pending = []) : Queue w where
  current := by simp [h]
  unacknowledged := by simp [pendingEnvelopes, h]
  nodup := by simp [pendingEnvelopes, h]

theorem sublist (hw : Queue w) (hpend : w'.pending.Sublist w.pending) (hconn : w'.conn = w.conn)
    (hopen : w.writeLoop ≠ .exited → w'.writeLoop ≠ .exited) (hsrv : w'.acknowledged = w.acknowledged) : Queue w' where
  current := by
    intro request hreq
    obtain ⟨hsame, hwrite⟩ := hw.current request (hpend.subset hreq)
    exact ⟨hsame.trans hconn.symm, hopen hwrite⟩
  unacknowledged := by
    intro envelope henv
    rw [hsrv]
    exact hw.unacknowledged envelope ((hpend.filterMap _).subset henv)
  nodup := hw.nodup.sublist (hpend.filterMap _)

theorem deliver (hw : Queue w) {envelope : Option EnvelopeID} (hquiet : undisturbed w (.deliver envelope) = true)
    (hopen : w.writeLoop ≠ .exited) (hsrv : ∀ e ∈ envelope, e ∉ w.acknowledged) :
    Queue { w with incomingRequestChan := w.incomingRequestChan ++ [⟨w.conn, envelope⟩] } := by
  have hpend : pending { w with incomingRequestChan := w.incomingRequestChan ++ [⟨w.conn, envelope⟩] } =
      w.pending ++ [⟨w.conn, envelope⟩] := by
    simp [pending]
  have henvelopes : pendingEnvelopes
      { w with incomingRequestChan := w.incomingRequestChan ++ [⟨w.conn, envelope⟩] } =
      w.pendingEnvelopes ++ envelope.toList := by
    cases envelope <;> simp [pendingEnvelopes, hpend]
  refine ⟨?_, ?_, ?_⟩
  · intro request hreq
    rw [hpend] at hreq
    rcases mem_append.mp hreq with hreq | hreq
    · exact hw.current request hreq
    · obtain rfl := mem_singleton.mp hreq
      exact ⟨rfl, hopen⟩
  · intro e he
    rw [henvelopes] at he
    rcases mem_append.mp he with he | he
    · exact hw.unacknowledged e he
    · exact hsrv e (Option.mem_toList.mp he)
  · rw [henvelopes]
    cases envelope with
    | none => simpa using hw.nodup
    | some e =>
      refine hw.nodup.append (nodup_singleton e) ?_
      intro e' he' hmem
      obtain rfl := mem_singleton.mp hmem
      exact of_decide_eq_true hquiet he'

theorem answer (hw : Queue w) {request : Request} (hwrite : w.writeLoop.request = some request)
    (hopen : w'.writeLoop = .selecting) (hloop : w'.requestLoop = w.requestLoop)
    (hchan : w'.incomingRequestChan = w.incomingRequestChan) (hconn : w'.conn = w.conn)
    (hsrv : w'.acknowledged = request.envelope.toList ++ w.acknowledged) : Queue w' := by
  have hpend : w.pending = request :: w'.pending := by
    rw [pending, pending, hwrite, hopen, hloop, hchan]
    rfl
  have henvelopes : w.pendingEnvelopes = request.envelope.toList ++ w'.pendingEnvelopes := by
    rw [pendingEnvelopes, pendingEnvelopes, hpend]
    cases henv : request.envelope <;> simp [henv]
  have hnodup := hw.nodup
  rw [henvelopes, nodup_append'] at hnodup
  obtain ⟨-, hrest, hdisjoint⟩ := hnodup
  refine ⟨?_, ?_, hrest⟩
  · intro request' hreq
    obtain ⟨hsame, -⟩ := hw.current request' (by rw [hpend]; exact mem_cons_of_mem _ hreq)
    exact ⟨hsame.trans hconn.symm, by rw [hopen]; nofun⟩
  · intro envelope henv
    rw [hsrv, mem_append, not_or]
    refine ⟨fun hmem => hdisjoint hmem henv, hw.unacknowledged envelope ?_⟩
    rw [henvelopes]
    exact mem_append_right _ henv

end Queue

namespace Settled

variable {w w' : World} {event : BufferedEvent}

theorem takeRequest (hw : Settled w) (h : takeRequest w = some w') : Settled w' := by
  obtain ⟨request, rest, hloop, hchan, rfl⟩ := takeRequest_inv h
  have hnull := hw.null
  refine ⟨hw.queue.sublist ?_ rfl id rfl, ?_, ?_, ?_, hw.deleted⟩
  · simp only [pending, hloop, hchan]
    split <;> exact .refl _
  · intro hash event hevt hplain
    have := hnull hash event hevt hplain
    simp only [Pushes, Writes] at this ⊢
    grind
  · simp only [Holds, Pushes]
    grind
  · have := hw.young
    simp only [Holds, Pushes, Writes] at this ⊢
    grind

theorem idle_of_leftBehind {decryption : Decryption} (hquiet : undisturbed w (.decrypt decryption) = true)
    {request : Request} {hash : Bytes} (hloop : w.requestLoop = .decrypting request)
    (henv : request.envelope = some (.ciphertext hash)) (hrow : w.buffer hash = some event)
    (hplain : event.plaintext ≠ none) : w.writeLoop.request = none ∧ w.writeCallbackCounter = none := by
  have hleft : w.leftBehind = true := by
    obtain ⟨conn, envelope⟩ := request
    obtain rfl := henv
    simp [leftBehind, hloop, hrow, Option.isSome_iff_ne_none.mpr hplain]
  simpa [undisturbed, hleft] using hquiet

section

variable (hw : Settled w)

include hw

theorem decrypt (hvalid : Valid w) {decryption : Decryption}
    (hquiet : undisturbed w (.decrypt decryption) = true) (h : decrypt w decryption = some w') : Settled w' := by
  obtain ⟨request, hloop, hnext⟩ := decrypt_inv h
  have hnull := hw.null
  have hyoung := hw.young
  simp only [Pushes, Writes] at hnull hyoung
  have hqueue : ∀ buffer found, Queue { w with buffer, requestLoop := .handling request found } := by
    intro buffer found
    refine hw.queue.sublist ?_ rfl id rfl
    simp only [pending, hloop]
    exact .refl _
  rcases hnext with ⟨hash, buffer, found, henv, hlooked, rfl⟩ | rfl
  · cases hlooked with
    | nothing =>
      refine ⟨hqueue _ _, ?_, ?_, ?_, hw.deleted⟩ <;>
      simp only [Holds, Pushes, Writes] <;> grind
    | found hrow hplain =>
      obtain ⟨hidle, hcb⟩ := idle_of_leftBehind hquiet hloop henv hrow hplain
      refine ⟨hqueue _ _, ?_, fun hbusy => absurd hidle hbusy, fun hwait => absurd hcb hwait, hw.deleted⟩
      grind
    | decrypted hrow hfound =>
      have htimer := unixMilli_le hvalid.timer_le
      have hcb := fun time htime => unixMilli_le (hvalid.callback_le time htime)
      refine ⟨hqueue _ _, ?_, ?_, ?_, hw.deleted⟩
      · simp only [Writes, putBufferedEvent]
        grind
      · simp only [Holds, Pushes, putBufferedEvent]
        grind
      · simp only [Holds, Pushes, Writes, putBufferedEvent]
        grind
  · refine ⟨hqueue _ _, ?_, ?_, ?_, hw.deleted⟩ <;>
        simp only [Holds, Pushes, Writes] <;> grind

theorem not_null_of_handling {request : Request} {found : Option Bytes} {hash : Bytes}
    (hloop : w.requestLoop = .handling request found) (henv : request.envelope = some (.ciphertext hash))
    (hrow : w.buffer hash = some event) : event.plaintext ≠ none := by
  intro hplain
  rcases hw.null hash event hrow hplain with hsrv | ⟨other, hpush, -⟩ | ⟨other, hwrite, hother⟩
  · refine hw.queue.unacknowledged _ ?_ hsrv
    simp [pendingEnvelopes, pending, hloop, RequestLoop.request, henv]
  · rw [hloop] at hpush
    cases hpush
  · have hnodup := hw.queue.nodup
    rw [pendingEnvelopes, pending, hloop, hwrite] at hnodup
    simp [RequestLoop.request, henv, hother] at hnodup

theorem handle (hvalid : Valid w) {handled : Handled}
    (hquiet : undisturbed w (.handle handled) = true) (h : handle w handled = some w') : Settled w' := by
  obtain ⟨request, found, hloop, rfl⟩ := handle_inv h
  have hnull := hw.null
  have hfresh := hw.fresh
  have hyoung := hw.young
  simp only [Pushes, Holds, Writes, hloop] at hnull hfresh hyoung
  -- A row that has no plaintext now had none before, or is the one that was handled.
  have hrow : ∀ hash event, finish w.buffer found handled hash = some event →
      ∃ before, w.buffer hash = some before ∧ event.insertTimestamp = before.insertTimestamp ∧
        (event.plaintext = before.plaintext ∨ found = some hash ∧ handled.answers = true) := by
    intro hash event hevt
    obtain ⟨before, hbef, htime, hplain⟩ := handled_eq_some hevt
    refine ⟨before, hbef, htime, hplain.imp_right fun hclear => ⟨hclear.1, ?_⟩⟩
    cases handled with
    | answered _ => rfl
    | failed => cases hclear.2
    | lost => cases hquiet
  have hheld : ∀ hash event, finish w.buffer found handled hash = some event →
      event.plaintext = none → request.envelope = some (.ciphertext hash) → found = some hash := by
    intro hash event hevt hplain henv
    obtain ⟨before, hbef, -, hsame | ⟨hfound, -⟩⟩ := hrow hash event hevt
    · exact absurd (hsame ▸ hplain) (hw.not_null_of_handling hloop henv hbef)
    · exact hfound
  have hfound : ∀ hash, found = some hash → request.envelope = some (.ciphertext hash) := by
    rintro hash rfl
    exact (hvalid.handled request hash hloop).1
  refine ⟨hw.queue.sublist ?_ rfl id rfl, ?_, ?_, ?_, hw.deleted⟩
  · simp only [pending, hloop]
    cases handled.answers
    · exact List.Sublist.append_left (sublist_cons_self _ _) _
    · exact .refl _
  · simp only
    intro hash event hevt hplain
    obtain ⟨before, hbef, -, hsame | ⟨hhash, hanswers⟩⟩ := hrow hash event hevt
    · rcases hnull hash before hbef (hsame ▸ hplain) with hsrv | ⟨_, hpush, -⟩ | hwrite
      · exact .inl hsrv
      · cases hpush
      · exact .inr (.inr hwrite)
    · exact .inr (.inl ⟨request, by rw [if_pos hanswers], hfound hash hhash⟩)
  · simp only [Holds, Pushes]
    grind
  · simp only [Holds, Pushes, Writes]
    grind

theorem handOver (h : handOver w = some w') : Settled w' := by
  obtain ⟨request, hloop, hwrite, rfl⟩ := handOver_inv h
  have hnull := hw.null
  have hyoung := hw.young
  simp only [Pushes, Holds, Writes, WriteLoop.request] at hnull hyoung
  refine ⟨hw.queue.sublist ?_ rfl nofun rfl, ?_, ?_, ?_, hw.deleted⟩
  · simp only [pending, hloop, hwrite]
    exact .refl _
  · simp only [Writes, WriteLoop.request]
    grind
  · simp only [Holds, Pushes]
    grind
  · simp only [Holds, Pushes, Writes, WriteLoop.request]
    grind

theorem startWrite (h : startWrite w = some w') : Settled w' := by
  obtain ⟨request, hwrite, rfl⟩ := startWrite_inv h
  have hnull := hw.null
  have hfresh := hw.fresh
  have hyoung := hw.young
  simp only [Writes, hwrite] at hnull hfresh hyoung
  refine ⟨hw.queue.sublist ?_ rfl nofun rfl, hnull, hfresh, hyoung, hw.deleted⟩
  simp only [pending, hwrite]
  exact .refl _

theorem wrote (h : wrote w = some w') : Settled w' := by
  obtain ⟨request, time, hwrite, hnext⟩ := wrote_inv h
  have hreq : w.writeLoop.request = some request := by
    rw [hwrite]
    rfl
  have hpend : request ∈ w.pending := by
    simp [pending, hreq]
  obtain ⟨hconn, -⟩ := hw.queue.current request hpend
  have hnull := hw.null
  have hfresh := hw.fresh
  have hyoung := hw.young
  simp only [Pushes, Holds, Writes] at hnull hfresh hyoung
  rcases hnext with ⟨envelope, henv, rfl⟩ | ⟨henv, rfl⟩
  · refine ⟨hw.queue.answer hreq rfl rfl rfl rfl ?_, ?_, fun hbusy => absurd rfl hbusy, ?_, ?_⟩
    · dsimp only
      rw [if_pos hconn, henv]
      rfl
    · simp only [Pushes]
      grind
    · simp only [Holds, Pushes, Writes, WriteLoop.request]
      grind
    · intro hash hdel
      rw [if_pos hconn]
      exact mem_cons_of_mem _ (hw.deleted hash hdel)
  · refine ⟨hw.queue.answer hreq rfl rfl rfl rfl ?_, ?_, fun hbusy => absurd rfl hbusy, ?_, hw.deleted⟩
    · rw [henv]
      rfl
    · simp only [Pushes]
      grind
    · simp only [Holds, Pushes, Writes, WriteLoop.request]
      grind

theorem acknowledged_of_idle (hidle : w.pending = []) {hash : Bytes}
    (hrow : w.buffer hash = some event) (hplain : event.plaintext = none) : .ciphertext hash ∈ w.acknowledged := by
  obtain ⟨hwrite, hrest⟩ := append_eq_nil_iff.mp hidle
  obtain ⟨hloop, -⟩ := append_eq_nil_iff.mp hrest
  rcases hw.null hash event hrow hplain with hsrv | ⟨request, hpush, -⟩ | ⟨request, hwrites, -⟩
  · exact hsrv
  · rw [hpush] at hloop
    cases hloop
  · rw [hwrites] at hwrite
    cases hwrite

theorem disconnect (hquiet : undisturbed w .disconnect = true) (h : disconnect w = some w') : Settled w' := by
  obtain ⟨hopen, rfl⟩ := eq_of_guard h
  have hidle := of_decide_eq_true hquiet
  obtain ⟨hwrite, hrest⟩ := append_eq_nil_iff.mp hidle
  refine ⟨.of_pending_nil ?_, ?_, fun hbusy => absurd rfl hbusy, ?_, hw.deleted⟩
  · exact hrest
  · intro hash event hrow hplain
    exact .inl (hw.acknowledged_of_idle hidle hrow hplain)
  · have hyoung := hw.young
    simp only [Holds, Pushes, Writes, WriteLoop.request] at hyoung ⊢
    grind

theorem connect (h : connect w = some w') : Settled w' := by
  obtain ⟨hexited, rfl⟩ := eq_of_guard h
  have hidle : w.pending = [] := by
    refine eq_nil_iff_forall_not_mem.mpr fun request hreq => ?_
    exact (hw.queue.current request hreq).2 hexited
  have hyoung := hw.young
  simp only [Writes, hexited] at hyoung
  refine ⟨.of_pending_nil ?_, ?_, fun hbusy => absurd rfl hbusy, hyoung, hw.deleted⟩
  · rw [pending, hexited] at hidle
    exact hidle
  · intro hash event hrow hplain
    exact .inl (hw.acknowledged_of_idle hidle hrow hplain)

theorem acknowledged_of_deleted {action : Action} (h : Step w action w') {hash : Bytes}
    (hrow : w.buffer hash = some event) (hgone : w'.buffer hash = none) : .ciphertext hash ∈ w.acknowledged := by
  obtain ⟨nextTS, hcb, -, -, hold⟩ := step_deletes h hrow hgone
  obtain ⟨hbef, hplain⟩ := olderThan_iff.mp hold
  have hwait : w.writeCallbackCounter ≠ none := by
    rw [hcb]
    nofun
  by_contra hsrv
  refine Nat.not_le.mpr hbef (hw.young hwait hash event hrow ?_)
  rcases hw.null hash event hrow hplain with hmem | hpush | hwrite
  · exact absurd hmem hsrv
  · exact .inl (.inr ⟨hplain, hpush⟩)
  · exact .inr ⟨hplain, hwrite⟩

theorem takeCallback (h : Step w .takeCallback w') : Settled w' := by
  have hdeletes : ∀ hash event, w.buffer hash = some event → w'.buffer hash = none →
      .ciphertext hash ∈ w.acknowledged :=
    fun hash event => hw.acknowledged_of_deleted h
  obtain ⟨nextTS, hcb, ⟨-, -, rfl⟩ | rfl⟩ := takeCallback_inv h
  · refine ⟨hw.queue.sublist (.refl _) rfl id rfl, ?_, ?_, fun hwait => absurd rfl hwait, ?_⟩
    · intro hash event hevt hplain
      exact hw.null hash event (delete_eq_some.mp hevt).1 hplain
    · intro hbusy hash event hevt hholds
      exact ⟨(hw.fresh hbusy hash event (delete_eq_some.mp hevt).1 hholds).2 nextTS hcb, nofun⟩
    · intro hash hdel
      rcases Bool.or_eq_true_iff.mp hdel with hbef | hnow
      · exact hw.deleted hash hbef
      · obtain ⟨hsome, hnone⟩ := Bool.and_eq_true_iff.mp hnow
        obtain ⟨event, hevt⟩ := Option.isSome_iff_exists.mp hsome
        exact hdeletes hash event hevt (Option.isNone_iff_eq_none.mp hnone)
  · refine ⟨hw.queue.sublist (.refl _) rfl id rfl, hw.null, ?_, fun hwait => absurd rfl hwait,
      hw.deleted⟩
    intro hbusy hash event hevt hholds
    exact ⟨(hw.fresh hbusy hash event hevt hholds).1, nofun⟩

theorem restart (hquiet : undisturbed w .restart = true) (h : restart w = some w') : Settled w' := by
  cases h
  have hidle := of_decide_eq_true hquiet
  refine ⟨.of_pending_nil rfl, ?_, fun hbusy => absurd rfl hbusy, fun hwait => absurd rfl hwait, hw.deleted⟩
  intro hash event hrow hplain
  exact .inl (hw.acknowledged_of_idle hidle hrow hplain)

theorem step (hvalid : Valid w) {action : Action} (hquiet : undisturbed w action = true)
    (h : Step w action w') : Settled w' := by
  cases action with
  | tick elapsed =>
    cases h
    exact { hw with queue := hw.queue.sublist (.refl _) rfl id rfl }
  | deliver envelope =>
    obtain ⟨⟨hopen, -, hsrv⟩, rfl⟩ := eq_of_guard h
    exact { hw with queue := hw.queue.deliver hquiet hopen hsrv }
  | takeRequest => exact hw.takeRequest h
  | decrypt decryption => exact hw.decrypt hvalid hquiet h
  | handle handled => exact hw.handle hvalid hquiet h
  | handOver => exact hw.handOver h
  | startWrite => exact hw.startWrite h
  | wrote => exact hw.wrote h
  | connect => exact hw.connect h
  | disconnect => exact hw.disconnect hquiet h
  | openFailed | reportStatus | dropStatus | resetCount =>
    obtain ⟨-, rfl⟩ := eq_of_guard h
    exact { hw with queue := hw.queue.sublist (.refl _) rfl id rfl }
  | takeCallback => exact hw.takeCallback h
  | restart => exact hw.restart hquiet h

end

end Settled

theorem settled_of_run {start : ℕ} {w : World} {labels : List Action}
    (h : Run UndisturbedStep (init start) labels w) : Valid w ∧ Settled w := by
  refine h.invariant (I := fun w => Valid w ∧ Settled w) ?_ ⟨valid_init start, settled_init start⟩
  rintro w action w' ⟨hvalid, hw⟩ ⟨hquiet, hstep⟩
  exact ⟨hvalid.step hstep, hw.step hvalid hquiet hstep⟩

-- A hash is deleted by the age of its row and the number of answers, whatever envelopes were answered. In an
-- undisturbed run these are enough: its own envelope was acknowledged.
theorem hash_deleted_by_age (start : ℕ) :
    (∀ labels w action w', Run Step (init start) labels w → Step w action w' → ∀ hash,
      (∀ event, w.buffer hash = some event → w'.buffer hash = none →
        hash ∈ w.processed ∧ event.plaintext = none ∧
          (event.insertTimestamp + 1) * millisecond + minute < w.now ∧ 5 ≤ w.answered) ∧
      (HandsToDecryption w action hash → hash ∈ w.processed → w.deleted hash = true)) ∧
    (∀ labels w action w', Run UndisturbedStep (init start) labels w →
      UndisturbedStep w action w' → ∀ hash,
        (w.buffer hash ≠ none → w'.buffer hash = none → .ciphertext hash ∈ w.acknowledged) ∧
        (HandsToDecryption w action hash → hash ∉ w.processed)) := by
  constructor
  · intro labels w action w' hrun hstep hash
    have hvalid := valid_of_run hrun
    constructor
    · intro event hrow hgone
      obtain ⟨nextTS, hcb, hcount, hdue, hold⟩ := step_deletes hstep hrow hgone
      obtain ⟨hbef, hplain⟩ := olderThan_iff.mp hold
      refine ⟨hvalid.processed hash event hrow hplain, hplain, ?_, ?_⟩
      · have hinserted : (event.insertTimestamp + 1) * millisecond ≤ w.writeCallbackTimer :=
          (Nat.le_div_iff_mul_le (by decide)).mp hbef
        omega
      · have hcounted := hvalid.counted
        rw [hcb] at hcounted
        exact Nat.le_trans (Nat.succ_le_succ hcount) hcounted
    · rintro ⟨-, -, hrow⟩ hproc
      refine (hvalid.kept hash hproc).resolve_left ?_
      rw [hrow]
      nofun
  · rintro labels w action w' hrun ⟨hquiet, hstep⟩ hash
    obtain ⟨hvalid, hw⟩ := settled_of_run hrun
    constructor
    · intro hrow hgone
      obtain ⟨event, hevt⟩ := Option.ne_none_iff_exists'.mp hrow
      exact hw.acknowledged_of_deleted hstep hevt hgone
    · rintro ⟨⟨request, hloop, henv⟩, -, hrow⟩ hproc
      have hdel := (hvalid.kept hash hproc).resolve_left (by rw [hrow]; nofun)
      refine hw.queue.unacknowledged (.ciphertext hash) ?_ (hw.deleted hash hdel)
      simp [pendingEnvelopes, pending, hloop, RequestLoop.request, henv]

def processing (hash : Bytes) : List Action :=
  [.deliver (some (.ciphertext hash)), .takeRequest, .decrypt (.lookedUp (some [0x80]) true),
    .handle (.answered true)]

def answering (hash : Bytes) : List Action := processing hash ++ [.handOver, .startWrite, .wrote]

def counting (hash : Bytes) : List Action := answering hash ++ [.takeCallback]

def sampleHash (b : UInt8) : Bytes := List.replicate 32 b

def fourAnswers : List Action := ([1, 2, 3, 4].map fun b => counting (sampleHash b)).flatten

theorem hash_deleted_by_age_six_answers :
    ∃ labels w w', Run UndisturbedStep (init 0) labels w ∧ UndisturbedStep w .takeCallback w' ∧
      w.buffer (sampleHash 1) ≠ none ∧ w'.buffer (sampleHash 1) = none ∧
      .ciphertext (sampleHash 1) ∈ w.acknowledged := by
  have hcheck : (runThrough undisturbed step (init 0)
      (.connect :: fourAnswers ++ [.tick (minute + 1)] ++ counting (sampleHash 5) ++ [.tick (minute + 1)] ++
        answering (sampleHash 6))).any (fun w => w.buffer (sampleHash 1) ≠ none ∧
      ∃ w', step w .takeCallback = some w' ∧ w'.buffer (sampleHash 1) = none) = true := by
    decide +kernel
  obtain ⟨w, hrun, hrow, w', hstep, hgone⟩ := exists_run hcheck
  have hlast : UndisturbedStep w .takeCallback w' := ⟨rfl, hstep⟩
  have hsrv := ((hash_deleted_by_age 0).2 _ w _ w' hrun hlast (sampleHash 1)).1 hrow hgone
  exact ⟨_, w, w', hrun, hlast, hrow, hgone, hsrv⟩

-- A message is processed, and the process stops before the response is written. Five others are answered after
-- that, and only then the server delivers the first one again.
theorem unacknowledged_hash_deleted :
    ∃ labels w w', Run Step (init 0) labels w ∧ Step w .takeCallback w' ∧
      w.buffer (sampleHash 0) ≠ none ∧ w'.buffer (sampleHash 0) = none ∧
      .ciphertext (sampleHash 0) ∉ w.acknowledged ∧
      ∃ labels' w'' action, Run Step w' labels' w'' ∧ HandsToDecryption w'' action (sampleHash 0) ∧
        sampleHash 0 ∈ w''.processed := by
  have hcheck : (runThrough (fun _ _ => true) step (init 0)
      (.connect :: processing (sampleHash 0) ++ [.tick millisecond, .restart, .connect] ++ fourAnswers ++
        [.tick (minute + 1)] ++ answering (sampleHash 5))).any (fun w => w.buffer (sampleHash 0) ≠ none ∧
      .ciphertext (sampleHash 0) ∉ w.acknowledged ∧
      ∃ w', step w .takeCallback = some w' ∧ w'.buffer (sampleHash 0) = none ∧
        (runThrough (fun _ _ => true) step w' [.deliver (some (.ciphertext (sampleHash 0))), .takeRequest]).any
          (fun w => w.buffer (sampleHash 0) = none ∧ sampleHash 0 ∈ w.processed ∧
            w.requestLoop = .decrypting ⟨2, some (.ciphertext (sampleHash 0))⟩) = true) = true := by
    decide +kernel
  obtain ⟨w, hrun, hrow, hsrv, w', hstep, hgone, hagain⟩ := exists_free_run hcheck
  obtain ⟨w'', hrun', hnone, hproc, hloop⟩ := exists_free_run hagain
  refine ⟨_, w, w', hrun, hstep, hrow, hgone, hsrv, _, w'', .decrypt (.lookedUp none true), hrun', ?_, hproc⟩
  exact ⟨⟨_, hloop, rfl⟩, ⟨_, _, rfl⟩, hnone⟩

end MautrixSignal.EventBuffer
