import MautrixSignal.Lib.Run
import MautrixSignal.Receive.Acknowledgement
import Mathlib.Data.List.Nodup

namespace MautrixSignal.EventBuffer

open Lib

-- Times are in nanoseconds.
def millisecond : ℕ := 1000000

def minute : ℕ := 60000 * millisecond

def unixMilli (time : ℕ) : ℕ := time / millisecond

theorem unixMilli_le {first second : ℕ} (h : first ≤ second) : unixMilli first ≤ unixMilli second :=
  Nat.div_le_div_right h

-- A row of signalmeow_event_buffer. The plaintext of an event that was processed is NULL.
structure BufferedEvent where
  plaintext : Option Bytes
  insertTimestamp : ℕ

abbrev Buffer := Bytes → Option BufferedEvent

section Rows

variable (buffer : Buffer)

def putBufferedEvent (hash plaintext : Bytes) (now : ℕ) : Buffer := fun h =>
  if h = hash then some { plaintext := some plaintext, insertTimestamp := unixMilli now } else buffer h

def clearBufferedEventPlaintext (hash : Bytes) : Buffer := fun h =>
  if h = hash then (buffer h).map fun event => { event with plaintext := none } else buffer h

def BufferedEvent.olderThan (event : BufferedEvent) (maxTS : ℕ) : Bool :=
  event.insertTimestamp < unixMilli maxTS && event.plaintext.isNone

def deleteBufferedEventsOlderThan (maxTS : ℕ) : Buffer := fun h =>
  (buffer h).filter fun event => !event.olderThan maxTS

end Rows

-- What a decryption meets: a failure before the look into the buffer, or a ciphertext that decrypts or not, with a
-- content in it or not.
inductive Decryption
  | failed
  | lookedUp (decrypted : Option Bytes) (readable : Bool)

-- The rows after a decryption, and the hash in its result. Only a plaintext that can be read comes with one.
def lookUp (buffer : Buffer) (now : ℕ) (hash : Bytes) : Decryption → Buffer × Option Bytes
  | .failed => (buffer, none)
  | .lookedUp decrypted readable =>
    let found := if readable then some hash else none
    match buffer hash, decrypted with
    | some { plaintext := none, .. }, _ => (buffer, none)
    | some { plaintext := some _, .. }, _ => (buffer, found)
    | none, some plaintext => (putBufferedEvent buffer hash plaintext now, found)
    | none, none => (buffer, none)

-- How the handling of a result ends: without an error, where clearing the plaintext may have failed, with an error
-- that keeps the plaintext, or with one that does not.
inductive Handled
  | answered (cleared : Bool)
  | failed
  | lost
deriving DecidableEq

def Handled.clears : Handled → Bool
  | .answered cleared => cleared
  | .failed => false
  | .lost => true

def Handled.answers : Handled → Bool
  | .answered _ => true
  | _ => false

def finish (buffer : Buffer) (ciphertextHash : Option Bytes) (handled : Handled) : Buffer :=
  match ciphertextHash with
  | some hash => if handled.clears then clearBufferedEventPlaintext buffer hash else buffer
  | none => buffer

section Refinement

open Receive

variable {buffer : Buffer} {env : Env} {result : DecryptionResult} {s t : State}

-- What the handlers of a message see of the rows.
def Buffer.plaintexts (buffer : Buffer) (hash : Bytes) : Option (Option Bytes) :=
  (buffer hash).map BufferedEvent.plaintext

theorem plaintexts_putBufferedEvent (h : buffer.plaintexts = s.buffer) (hash plaintext : Bytes) (now : ℕ) :
    Buffer.plaintexts (putBufferedEvent buffer hash plaintext now) = (s.putBufferedEvent hash plaintext).buffer := by
  funext other
  simp only [State.putBufferedEvent, ← h, Buffer.plaintexts, putBufferedEvent]
  split <;> rfl

theorem plaintexts_clearBufferedEventPlaintext (h : buffer.plaintexts = s.buffer) (hash : Bytes) :
    Buffer.plaintexts (clearBufferedEventPlaintext buffer hash) = (s.clearBufferedEventPlaintext hash).buffer := by
  funext other
  simp only [State.clearBufferedEventPlaintext, ← h, Buffer.plaintexts, clearBufferedEventPlaintext]
  split
  · rw [Option.map_map, Option.map_map]
    rfl
  · rfl

theorem lookUp_of_bufferedDecryptTxn {ciphertext : Bytes} {decrypt : Except ExternalError Bytes}
    {found : Except DecryptionError Bytes} (hrows : buffer.plaintexts = s.buffer)
    (h : Returns (bufferedDecryptTxn env ciphertext decrypt) s found t) (now : ℕ) (readable : Bool) :
    ∃ decryption after, lookUp buffer now (env.sha256 ciphertext) decryption =
        (after, if readable && found.isOk then some (env.sha256 ciphertext) else none) ∧
      after.plaintexts = t.buffer := by
  have hfails {err : DecryptionError} (h : Returns (pure (.error err) : Prog Panic _ _) s found t) :
      ∃ decryption after, lookUp buffer now (env.sha256 ciphertext) decryption =
          (after, if readable && found.isOk then some (env.sha256 ciphertext) else none) ∧
        after.plaintexts = t.buffer := by
    obtain ⟨rfl, rfl⟩ := returns_pure.mp h
    exact ⟨.failed, buffer, by simp [lookUp, Except.isOk, Except.toBool], hrows⟩
  unfold bufferedDecryptTxn at h
  split at h
  · exact hfails h
  obtain ⟨_, _, hget, hfound⟩ := returns_bind.mp h
  obtain ⟨rfl, rfl⟩ := returns_get.mp hget
  clear h
  rw [← hrows] at hfound
  split at hfound
  · rename_i plaintext hplain
    obtain ⟨event, hrow, hevt⟩ := Option.map_eq_some_iff.mp hplain
    obtain ⟨rfl, rfl⟩ := returns_pure.mp hfound
    refine ⟨.lookedUp none readable, buffer, ?_, hrows⟩
    obtain ⟨_, time⟩ := event
    obtain rfl := hevt
    simp [lookUp, hrow, Except.isOk, Except.toBool]
  · exact hfails hfound
  rename_i hplain
  have hrow : buffer (env.sha256 ciphertext) = none := Option.map_eq_none_iff.mp hplain
  split at hfound
  · exact hfails hfound
  · exact hfails hfound
  · rename_i plaintext _
    obtain ⟨_, _, hput, hfound⟩ := returns_bind.mp hfound
    obtain rfl := returns_modify.mp hput
    obtain ⟨rfl, rfl⟩ := returns_pure.mp hfound
    refine ⟨.lookedUp (some plaintext) readable, _, ?_, plaintexts_putBufferedEvent hrows _ plaintext now⟩
    simp [lookUp, hrow, Except.isOk, Except.toBool]

-- Every ciphertext is decrypted by decryptContent, which looks its hash up in this way.
theorem lookUp_of_decryptContent {type : CiphertextType} {sender : Address} {ciphertext : Bytes}
    {decrypted : Except DecryptionError DecryptionResult} (hrows : buffer.plaintexts = s.buffer)
    (h : Returns (decryptContent env type sender ciphertext) s decrypted t) (now : ℕ) :
    ∃ decryption after, lookUp buffer now (env.sha256 ciphertext) decryption =
        (after, decrypted.toOption.bind DecryptionResult.ciphertextHash) ∧
      after.plaintexts = t.buffer := by
  obtain ⟨found, u, htxn, h⟩ := returns_bind.mp h
  have hlookUp := lookUp_of_bufferedDecryptTxn hrows htxn now
  split at h
  · obtain ⟨rfl, rfl⟩ := returns_pure.mp h
    exact hlookUp false
  · split at h
    · obtain ⟨rfl, rfl⟩ := returns_pure.mp h
      exact hlookUp false
    · obtain ⟨rfl, rfl⟩ := returns_pure.mp h
      exact hlookUp true

theorem finish_of_clearPlaintext {u : PUnit} (hrows : buffer.plaintexts = s.buffer)
    (h : Returns (clearPlaintext env result true) s u t) :
    ∃ cleared, (finish buffer result.ciphertextHash (.answered cleared)).plaintexts = t.buffer := by
  unfold clearPlaintext at h
  cases hhash : result.ciphertextHash with
  | none =>
    rw [hhash] at h
    obtain ⟨-, rfl⟩ := returns_pure.mp h
    exact ⟨false, hrows⟩
  | some hash =>
    rw [hhash] at h
    obtain ⟨ok, v, hatt, h⟩ := returns_bind.mp h
    obtain ⟨rfl, rfl⟩ := returns_attempt.mp hatt
    split at h
    · obtain rfl := returns_modify.mp h
      exact ⟨true, plaintexts_clearBufferedEventPlaintext hrows hash⟩
    · obtain ⟨-, rfl⟩ := returns_pure.mp h
      exact ⟨false, hrows⟩

-- Where no failure is lost, the handlers leave the rows alone, and the plaintext stays exactly if no answer follows
-- or clearing it failed.
theorem finish_of_handleDecryptedResult {envelope : Envelope} {destination : ServiceID}
    {err : Option ReturnedError} (hrows : buffer.plaintexts = s.buffer)
    (hloses : ¬ LosesFailure env envelope result)
    (h : Returns (handleDecryptedResult env result envelope destination) s err t) :
    ∃ handled : Handled, handled.answers = err.isNone ∧
      (finish buffer result.ciphertextHash handled).plaintexts = t.buffer := by
  have hkept : (finish buffer result.ciphertextHash .failed).plaintexts = s.buffer := by
    rw [← hrows]
    cases result.ciphertextHash <;> rfl
  by_cases hintr : Interrupted env result
  · obtain ⟨herr, rfl⟩ := returns_of_interrupted hintr h
    exact ⟨.failed, (Option.isNone_eq_false_iff.mpr (Option.isSome_iff_ne_none.mpr herr)).symm, hkept⟩
  · obtain ⟨outcome, u, v, hbody, hclear, rfl⟩ := returns_of_not_interrupted hintr h
    obtain ⟨entries, rfl, hclean⟩ := judges_handleResult (fun _ _ => rfl) hloses _ _ _ hbody
    obtain ⟨entries', heq, hclean'⟩ := judges_handleResult (fun _ h => h.isNone_error) hloses _ _ _ hbody
    obtain rfl : entries = entries' := by simpa [State.extend] using heq
    have hsettled : outcome.error.isNone = outcome.handlerSuccess := Bool.eq_iff_iff.mpr (hclean'.trans hclean.symm)
    cases hsucc : outcome.handlerSuccess with
    | true =>
      rw [hsucc] at hclear
      have hsame : buffer.plaintexts = (s.extend entries).buffer := hrows
      obtain ⟨cleared, hcleared⟩ := finish_of_clearPlaintext hsame hclear
      exact ⟨.answered cleared, (hsettled.trans hsucc).symm, hcleared⟩
    | false =>
      obtain rfl := (returns_clearPlaintext hclear).2.1 hsucc
      exact ⟨.failed, (hsettled.trans hsucc).symm, hkept⟩

end Refinement

inductive EnvelopeID
  | ciphertext (hash : Bytes)
  | unencrypted (id : ℕ)
deriving DecidableEq

-- A request of the server, with the connection that it came on. Those without an envelope are notices.
structure Request where
  conn : ℕ
  envelope : Option EnvelopeID
deriving DecidableEq

inductive RequestLoop
  | selecting
  | decrypting (request : Request)
  | handling (request : Request) (ciphertextHash : Option Bytes)
  | pushing (request : Request)
deriving DecidableEq

inductive WriteLoop
  | exited
  | selecting
  | took (request : Request)
  | writing (request : Request) (writeStartTime : ℕ)
deriving DecidableEq

-- The client, its database and the server. The last four fields say what happened so far: acknowledged
-- envelopes, answers since the start, hashes of processed ciphertexts and of deleted rows.
structure World where
  now : ℕ
  buffer : Buffer := fun _ => none
  conn : ℕ := 0
  incomingRequestChan : List Request := []
  requestLoop : RequestLoop := .selecting
  writeLoop : WriteLoop := .exited
  writeCallbackCounter : Option ℕ := none
  statuses : ℕ := 0
  resetWriteCount : Bool := false
  writeCallbackTimer : ℕ
  callbackCount : ℕ := 0
  acknowledged : List EnvelopeID := []
  answered : ℕ := 0
  processed : List Bytes := []
  deleted : Bytes → Bool := fun _ => false

def init (start : ℕ) : World := { now := start, writeCallbackTimer := start }

inductive Action
  | tick (elapsed : ℕ)
  | deliver (envelope : Option EnvelopeID)
  | takeRequest
  | decrypt (decryption : Decryption)
  | handle (handled : Handled)
  | handOver
  | startWrite
  | wrote
  | openFailed
  | connect
  | disconnect
  | reportStatus
  | dropStatus
  | resetCount
  | takeCallback
  | restart

section Steps

variable (w : World)

def deliver (envelope : Option EnvelopeID) : Option World :=
  if w.writeLoop ≠ .exited ∧ w.incomingRequestChan.length < 256 ∧ ∀ e ∈ envelope, e ∉ w.acknowledged then
    some { w with incomingRequestChan := w.incomingRequestChan ++ [⟨w.conn, envelope⟩] }
  else none

-- A notice is answered at once.
def takeRequest : Option World :=
  match w.requestLoop, w.incomingRequestChan with
  | .selecting, request :: rest =>
    some { w with
      incomingRequestChan := rest
      requestLoop := if request.envelope.isSome then .decrypting request else .pushing request }
  | _, _ => none

def decrypt (decryption : Decryption) : Option World :=
  match w.requestLoop with
  | .decrypting request =>
    match request.envelope with
    | some (.ciphertext hash) =>
      let (buffer, found) := lookUp w.buffer w.now hash decryption
      some { w with buffer, requestLoop := .handling request found }
    | _ => some { w with requestLoop := .handling request none }
  | _ => none

def handle (handled : Handled) : Option World :=
  match w.requestLoop with
  | .handling request found =>
    some { w with
      buffer := finish w.buffer found handled
      requestLoop := if handled.answers then .pushing request else .selecting
      processed := if handled = .failed then w.processed else found.toList ++ w.processed }
  | _ => none

def handOver : Option World :=
  match w.requestLoop, w.writeLoop with
  | .pushing request, .selecting => some { w with requestLoop := .selecting, writeLoop := .took request }
  | _, _ => none

def startWrite : Option World :=
  match w.writeLoop with
  | .took request => some { w with writeLoop := .writing request w.now }
  | _ => none

-- A response acknowledges an envelope only on the connection that its request came on. The callback drops the time
-- if another one is waiting.
def wrote : Option World :=
  match w.writeLoop with
  | .writing request writeStartTime =>
    match request.envelope with
    | some envelope =>
      some { w with
        writeLoop := .selecting
        writeCallbackCounter := w.writeCallbackCounter.or (some writeStartTime)
        acknowledged := if request.conn = w.conn then envelope :: w.acknowledged else w.acknowledged
        answered := w.answered + 1 }
    | none => some { w with writeLoop := .selecting }
  | _ => none

def openFailed : Option World :=
  if w.writeLoop = .exited then some { w with statuses := w.statuses + 1 } else none

def connect : Option World :=
  if w.writeLoop = .exited then some { w with conn := w.conn + 1, writeLoop := .selecting } else none

-- What the writeLoop had taken is gone. The requests that were read stay.
def disconnect : Option World :=
  if w.writeLoop ≠ .exited then some { w with writeLoop := .exited, statuses := w.statuses + 1 } else none

def reportStatus : Option World :=
  if 0 < w.statuses then some { w with statuses := w.statuses - 1, resetWriteCount := true } else none

-- pushStatus gives up after five seconds.
def dropStatus : Option World :=
  if 0 < w.statuses then some { w with statuses := w.statuses - 1 } else none

def resetCount : Option World :=
  if w.resetWriteCount then some { w with resetWriteCount := false, callbackCount := 0 } else none

def takeCallback : Option World :=
  match w.writeCallbackCounter with
  | some nextTS =>
    if 4 ≤ w.callbackCount ∧ minute < w.now - w.writeCallbackTimer then
      let buffer := deleteBufferedEventsOlderThan w.buffer w.writeCallbackTimer
      some { w with
        buffer
        writeCallbackCounter := none
        writeCallbackTimer := nextTS
        deleted := fun h => w.deleted h || ((w.buffer h).isSome && (buffer h).isNone) }
    else some { w with writeCallbackCounter := none, callbackCount := w.callbackCount + 1 }
  | none => none

-- The database and the server are all that is left. The loops are started before the first connection is up.
def restart : Option World :=
  some { now := w.now, buffer := w.buffer, conn := w.conn, writeCallbackTimer := w.now,
         acknowledged := w.acknowledged, processed := w.processed, deleted := w.deleted }

def step : Action → Option World
  | .tick elapsed => some { w with now := w.now + elapsed }
  | .deliver envelope => deliver w envelope
  | .takeRequest => takeRequest w
  | .decrypt decryption => decrypt w decryption
  | .handle handled => handle w handled
  | .handOver => handOver w
  | .startWrite => startWrite w
  | .wrote => wrote w
  | .openFailed => openFailed w
  | .connect => connect w
  | .disconnect => disconnect w
  | .reportStatus => reportStatus w
  | .dropStatus => dropStatus w
  | .resetCount => resetCount w
  | .takeCallback => takeCallback w
  | .restart => restart w

end Steps

def Step (w : World) (action : Action) (w' : World) : Prop := step w action = some w'

section Rows

variable {buffer : Buffer} {hash : Bytes} {event : BufferedEvent}

theorem handled_eq_some {found : Option Bytes} {handled : Handled}
    (h : finish buffer found handled hash = some event) :
    ∃ before, buffer hash = some before ∧ event.insertTimestamp = before.insertTimestamp ∧
      (event.plaintext = before.plaintext ∨ found = some hash ∧ handled.clears = true) := by
  unfold finish at h
  split at h
  · split at h
    · rename_i hclears
      unfold clearBufferedEventPlaintext at h
      split at h
      · rename_i heq
        obtain ⟨before, hbef, rfl⟩ := Option.map_eq_some_iff.mp h
        exact ⟨before, hbef, rfl, .inr ⟨congrArg some heq.symm, hclears⟩⟩
      · exact ⟨event, h, rfl, .inl rfl⟩
    · exact ⟨event, h, rfl, .inl rfl⟩
  · exact ⟨event, h, rfl, .inl rfl⟩

theorem handled_isSome {found : Option Bytes} {handled : Handled} :
    (finish buffer found handled hash).isSome = (buffer hash).isSome := by
  unfold finish
  split
  · split
    · unfold clearBufferedEventPlaintext
      split <;> simp
    · rfl
  · rfl

theorem delete_eq_some {maxTS : ℕ} :
    deleteBufferedEventsOlderThan buffer maxTS hash = some event ↔
      buffer hash = some event ∧ event.olderThan maxTS = false := by
  simp [deleteBufferedEventsOlderThan]

theorem olderThan_iff {maxTS : ℕ} :
    event.olderThan maxTS = true ↔ event.insertTimestamp < unixMilli maxTS ∧ event.plaintext = none := by
  simp [BufferedEvent.olderThan]

theorem olderThan_of_deleted {maxTS : ℕ} (h : buffer hash = some event)
    (hdel : deleteBufferedEventsOlderThan buffer maxTS hash = none) : event.olderThan maxTS = true := by
  cases hold : event.olderThan maxTS with
  | true => rfl
  | false =>
    rw [delete_eq_some.mpr ⟨h, hold⟩] at hdel
    cases hdel

end Rows

inductive Looked (buffer : Buffer) (now : ℕ) (hash : Bytes) : Buffer × Option Bytes → Prop
  | nothing : Looked buffer now hash (buffer, none)
  | found {event : BufferedEvent} : buffer hash = some event → event.plaintext ≠ none →
      Looked buffer now hash (buffer, some hash)
  | decrypted {plaintext : Bytes} {found : Option Bytes} : buffer hash = none → found = some hash ∨ found = none →
      Looked buffer now hash (putBufferedEvent buffer hash plaintext now, found)

theorem looked_lookUp (buffer : Buffer) (now : ℕ) (hash : Bytes) (decryption : Decryption) :
    Looked buffer now hash (lookUp buffer now hash decryption) := by
  cases decryption with
  | failed => exact .nothing
  | lookedUp decrypted readable =>
    unfold lookUp
    dsimp only
    split
    · exact .nothing
    · rename_i plaintext _ heq
      cases readable with
      | true => exact .found heq nofun
      | false => exact .nothing
    · rename_i heq
      refine .decrypted heq ?_
      cases readable with
      | true => exact .inl rfl
      | false => exact .inr rfl
    · exact .nothing

section Inversion

variable {w w' : World}

theorem eq_of_guard {p : Prop} [Decidable p] {next : World} (h : (if p then some next else none) = some w') :
    p ∧ w' = next := by
  obtain ⟨hp, hnext⟩ := Option.ite_none_right_eq_some.mp h
  exact ⟨hp, (Option.some.inj hnext).symm⟩

theorem takeRequest_inv (h : takeRequest w = some w') :
    ∃ request rest, w.requestLoop = .selecting ∧ w.incomingRequestChan = request :: rest ∧
      w' = { w with
        incomingRequestChan := rest
        requestLoop := if request.envelope.isSome then .decrypting request else .pushing request } := by
  unfold takeRequest at h
  split at h
  · rename_i request rest hloop hchan
    exact ⟨request, rest, hloop, hchan, (Option.some.inj h).symm⟩
  · cases h

theorem decrypt_inv {decryption : Decryption} (h : decrypt w decryption = some w') :
    ∃ request, w.requestLoop = .decrypting request ∧
      ((∃ hash buffer found, request.envelope = some (.ciphertext hash) ∧
          Looked w.buffer w.now hash (buffer, found) ∧
          w' = { w with buffer, requestLoop := .handling request found }) ∨
        w' = { w with requestLoop := .handling request none }) := by
  unfold decrypt at h
  split at h
  · rename_i request hloop
    refine ⟨request, hloop, ?_⟩
    split at h
    · rename_i hash henv
      exact .inl ⟨hash, _, _, henv, looked_lookUp _ _ _ decryption, (Option.some.inj h).symm⟩
    · exact .inr (Option.some.inj h).symm
  · cases h

theorem handle_inv {handled : Handled} (h : handle w handled = some w') :
    ∃ request found, w.requestLoop = .handling request found ∧
      w' = { w with
        buffer := finish w.buffer found handled
        requestLoop := if handled.answers then .pushing request else .selecting
        processed := if handled = .failed then w.processed else found.toList ++ w.processed } := by
  unfold handle at h
  split at h
  · rename_i request found hloop
    exact ⟨request, found, hloop, (Option.some.inj h).symm⟩
  · cases h

theorem handOver_inv (h : handOver w = some w') :
    ∃ request, w.requestLoop = .pushing request ∧ w.writeLoop = .selecting ∧
      w' = { w with requestLoop := .selecting, writeLoop := .took request } := by
  unfold handOver at h
  split at h
  · rename_i request hloop hwrite
    exact ⟨request, hloop, hwrite, (Option.some.inj h).symm⟩
  · cases h

theorem startWrite_inv (h : startWrite w = some w') :
    ∃ request, w.writeLoop = .took request ∧ w' = { w with writeLoop := .writing request w.now } := by
  unfold startWrite at h
  split at h
  · rename_i request hwrite
    exact ⟨request, hwrite, (Option.some.inj h).symm⟩
  · cases h

theorem wrote_inv (h : wrote w = some w') :
    ∃ request writeStartTime, w.writeLoop = .writing request writeStartTime ∧
      ((∃ envelope, request.envelope = some envelope ∧ w' = { w with
          writeLoop := .selecting
          writeCallbackCounter := w.writeCallbackCounter.or (some writeStartTime)
          acknowledged := if request.conn = w.conn then envelope :: w.acknowledged else w.acknowledged
          answered := w.answered + 1 }) ∨
        request.envelope = none ∧ w' = { w with writeLoop := .selecting }) := by
  unfold wrote at h
  split at h
  · rename_i request time hwrite
    refine ⟨request, time, hwrite, ?_⟩
    split at h
    · rename_i envelope henv
      exact .inl ⟨envelope, henv, (Option.some.inj h).symm⟩
    · rename_i henv
      exact .inr ⟨henv, (Option.some.inj h).symm⟩
  · cases h

theorem takeCallback_inv (h : takeCallback w = some w') :
    ∃ nextTS, w.writeCallbackCounter = some nextTS ∧
      (4 ≤ w.callbackCount ∧ minute < w.now - w.writeCallbackTimer ∧ w' = { w with
          buffer := deleteBufferedEventsOlderThan w.buffer w.writeCallbackTimer
          writeCallbackCounter := none
          writeCallbackTimer := nextTS
          deleted := fun h => w.deleted h || ((w.buffer h).isSome &&
            (deleteBufferedEventsOlderThan w.buffer w.writeCallbackTimer h).isNone) } ∨
        w' = { w with writeCallbackCounter := none, callbackCount := w.callbackCount + 1 }) := by
  unfold takeCallback at h
  split at h
  · rename_i nextTS hcb
    refine ⟨nextTS, hcb, ?_⟩
    split at h
    · rename_i hdue
      exact .inl ⟨hdue.1, hdue.2, (Option.some.inj h).symm⟩
    · exact .inr (Option.some.inj h).symm
  · cases h

end Inversion

-- What holds in every run. The row of a plaintext that is being handled cannot be deleted, because only the
-- request loop clears plaintexts.
structure Valid (w : World) : Prop where
  handled : ∀ request hash, w.requestLoop = .handling request (some hash) →
    request.envelope = some (.ciphertext hash) ∧ ∃ event, w.buffer hash = some event ∧ event.plaintext ≠ none
  processed : ∀ hash event, w.buffer hash = some event → event.plaintext = none → hash ∈ w.processed
  kept : ∀ hash ∈ w.processed, (w.buffer hash).isSome = true ∨ w.deleted hash = true
  counted : w.callbackCount + w.writeCallbackCounter.toList.length ≤ w.answered
  timer_le : w.writeCallbackTimer ≤ w.now
  callback_le : ∀ time, w.writeCallbackCounter = some time → time ≤ w.now
  writing_le : ∀ request time, w.writeLoop = .writing request time → time ≤ w.now

theorem valid_init (start : ℕ) : Valid (init start) where
  handled := nofun
  processed := nofun
  kept := nofun
  counted := Nat.le_refl 0
  timer_le := Nat.le_refl start
  callback_le := nofun
  writing_le := nofun

namespace Valid

variable {w w' : World}

theorem decrypt (hw : Valid w) {decryption : Decryption} (h : decrypt w decryption = some w') : Valid w' := by
  obtain ⟨request, hloop, ⟨hash, buffer, found, henv, hlooked, rfl⟩ | rfl⟩ := decrypt_inv h
  · cases hlooked with
    | nothing => exact { hw with handled := nofun }
    | found hrow hplain =>
      refine { hw with handled := ?_ }
      rintro _ _ ⟨⟩
      exact ⟨henv, _, hrow, hplain⟩
    | decrypted hrow hfound =>
      refine { hw with handled := ?_, processed := ?_, kept := ?_ }
      · intro request' hash' hloop'
        cases hloop'
        obtain rfl := Option.some.inj (hfound.resolve_right nofun)
        exact ⟨henv, _, if_pos rfl, nofun⟩
      · intro hash' event hevt hnull
        dsimp only [putBufferedEvent] at hevt
        split at hevt
        · cases hevt
          cases hnull
        · exact hw.processed hash' event hevt hnull
      · intro hash' hmem
        dsimp only [putBufferedEvent]
        split
        · exact .inl rfl
        · exact hw.kept hash' hmem
  · exact { hw with handled := nofun }

theorem handle (hw : Valid w) {handled : Handled} (h : handle w handled = some w') : Valid w' := by
  obtain ⟨request, found, hloop, rfl⟩ := handle_inv h
  refine { hw with handled := ?_, processed := ?_, kept := ?_ }
  · intro request' hash' hloop'
    split at hloop' <;> cases hloop'
  · intro hash event hevt hnull
    obtain ⟨before, hbef, -, hplain | ⟨rfl, hclears⟩⟩ := handled_eq_some hevt
    · have hmem := hw.processed hash before hbef (hplain ▸ hnull)
      dsimp only
      split <;> simp [hmem]
    · have hfail : handled ≠ .failed := by
        rintro rfl
        cases hclears
      simp [hfail]
  · intro hash hmem
    dsimp only at hmem ⊢
    rw [handled_isSome]
    split at hmem
    · exact hw.kept hash hmem
    · rcases List.mem_append.mp hmem with hfound | hmem
      · obtain ⟨-, event, hevt, -⟩ := hw.handled request hash (by rw [hloop, Option.mem_toList.mp hfound])
        exact .inl (Option.isSome_of_eq_some hevt)
      · exact hw.kept hash hmem

theorem wrote (hw : Valid w) (h : wrote w = some w') : Valid w' := by
  obtain ⟨request, time, hwrite, ⟨envelope, -, rfl⟩ | ⟨-, rfl⟩⟩ := wrote_inv h
  · have hcounted := hw.counted
    cases hcb : w.writeCallbackCounter with
    | none =>
      rw [hcb] at hcounted
      refine { hw with counted := ?_, callback_le := ?_, writing_le := nofun }
      · simpa using hcounted
      · rintro _ ⟨⟩
        exact hw.writing_le _ _ hwrite
    | some waiting =>
      rw [hcb] at hcounted
      refine { hw with counted := ?_, callback_le := ?_, writing_le := nofun }
      · exact Nat.le_succ_of_le hcounted
      · rintro _ ⟨⟩
        exact hw.callback_le _ hcb
  · exact { hw with writing_le := nofun }

theorem takeCallback (hw : Valid w) (h : takeCallback w = some w') : Valid w' := by
  obtain ⟨nextTS, hcb, ⟨-, -, rfl⟩ | rfl⟩ := takeCallback_inv h
  · refine { hw with
      handled := ?_, processed := ?_, kept := ?_, counted := ?_, timer_le := hw.callback_le _ hcb,
      callback_le := nofun }
    · intro request hash hloop
      obtain ⟨henv, event, hevt, hplain⟩ := hw.handled request hash hloop
      refine ⟨henv, event, delete_eq_some.mpr ⟨hevt, ?_⟩, hplain⟩
      rw [← Bool.not_eq_true, olderThan_iff]
      exact fun hold => hplain hold.2
    · intro hash event hevt hnull
      exact hw.processed hash event (delete_eq_some.mp hevt).1 hnull
    · intro hash hmem
      dsimp only
      rcases hw.kept hash hmem with hkept | hdel
      · cases hafter : deleteBufferedEventsOlderThan w.buffer w.writeCallbackTimer hash with
        | none => simp [hkept]
        | some event => simp
      · simp [hdel]
    · exact Nat.le_trans (Nat.le_add_right _ _) hw.counted
  · refine { hw with counted := ?_, callback_le := nofun }
    have hcounted := hw.counted
    rw [hcb] at hcounted
    exact hcounted

theorem step (hw : Valid w) {action : Action} (h : Step w action w') : Valid w' := by
  cases action with
  | tick elapsed =>
    cases h
    exact { hw with
      timer_le := Nat.le_add_right_of_le hw.timer_le
      callback_le := fun time htime => Nat.le_add_right_of_le (hw.callback_le time htime)
      writing_le := fun request time hloop => Nat.le_add_right_of_le (hw.writing_le request time hloop) }
  | takeRequest =>
    obtain ⟨request, rest, -, -, rfl⟩ := takeRequest_inv h
    refine { hw with handled := ?_ }
    intro request' hash hloop
    split at hloop <;> cases hloop
  | decrypt decryption => exact hw.decrypt h
  | handle handled => exact hw.handle h
  | handOver =>
    obtain ⟨request, -, -, rfl⟩ := handOver_inv h
    exact { hw with handled := nofun, writing_le := nofun }
  | startWrite =>
    obtain ⟨request, -, rfl⟩ := startWrite_inv h
    refine { hw with writing_le := ?_ }
    rintro _ _ ⟨⟩
    exact Nat.le_refl _
  | wrote => exact hw.wrote h
  | deliver _ | openFailed | reportStatus | dropStatus =>
    obtain ⟨-, rfl⟩ := eq_of_guard h
    exact { hw with }
  | connect | disconnect =>
    obtain ⟨-, rfl⟩ := eq_of_guard h
    exact { hw with writing_le := nofun }
  | resetCount =>
    obtain ⟨-, rfl⟩ := eq_of_guard h
    have hcounted := hw.counted
    exact { hw with counted := by dsimp only; omega }
  | takeCallback => exact hw.takeCallback h
  | restart =>
    cases h
    exact { hw with
      handled := nofun, counted := Nat.le_refl 0, timer_le := Nat.le_refl _, callback_le := nofun,
      writing_le := nofun }

end Valid

theorem valid_of_run {start : ℕ} {w : World} {labels : List Action} (h : Run Step (init start) labels w) : Valid w :=
  h.invariant (fun _ _ _ hw hstep => hw.step hstep) (valid_init start)

def HandsToDecryption (w : World) (action : Action) (hash : Bytes) : Prop :=
  (∃ request, w.requestLoop = .decrypting request ∧ request.envelope = some (.ciphertext hash)) ∧
    (∃ decrypted readable, action = .decrypt (.lookedUp decrypted readable)) ∧ w.buffer hash = none

theorem step_deletes {w w' : World} {action : Action} (h : Step w action w') {hash : Bytes} {event : BufferedEvent}
    (hrow : w.buffer hash = some event) (hgone : w'.buffer hash = none) :
    ∃ nextTS, w.writeCallbackCounter = some nextTS ∧ 4 ≤ w.callbackCount ∧
      minute < w.now - w.writeCallbackTimer ∧ event.olderThan w.writeCallbackTimer = true := by
  have hsame : w'.buffer ≠ w.buffer := by
    intro heq
    rw [heq, hrow] at hgone
    cases hgone
  cases action with
  | tick _ | restart =>
    cases h
    exact absurd rfl hsame
  | deliver _ | openFailed | connect | disconnect | reportStatus | dropStatus | resetCount =>
    obtain ⟨-, rfl⟩ := eq_of_guard h
    exact absurd rfl hsame
  | takeRequest =>
    obtain ⟨request, rest, -, -, rfl⟩ := takeRequest_inv h
    exact absurd rfl hsame
  | decrypt decryption =>
    obtain ⟨request, -, ⟨hash', buffer, found, -, hlooked, rfl⟩ | rfl⟩ := decrypt_inv h
    · cases hlooked with
      | nothing | found _ _ => exact absurd rfl hsame
      | decrypted hnone _ =>
        dsimp only [putBufferedEvent] at hgone
        split at hgone
        · cases hgone
        · rw [hrow] at hgone
          cases hgone
    · exact absurd rfl hsame
  | handle handled =>
    obtain ⟨request, found, -, rfl⟩ := handle_inv h
    have hkept : (finish w.buffer found handled hash).isSome = (w.buffer hash).isSome :=
      handled_isSome
    rw [show finish w.buffer found handled hash = none from hgone, hrow] at hkept
    cases hkept
  | handOver =>
    obtain ⟨request, -, -, rfl⟩ := handOver_inv h
    exact absurd rfl hsame
  | startWrite =>
    obtain ⟨request, -, rfl⟩ := startWrite_inv h
    exact absurd rfl hsame
  | wrote =>
    obtain ⟨request, time, -, ⟨envelope, -, rfl⟩ | ⟨-, rfl⟩⟩ := wrote_inv h
    · exact absurd rfl hsame
    · exact absurd rfl hsame
  | takeCallback =>
    obtain ⟨nextTS, hcb, ⟨hcount, hdue, rfl⟩ | rfl⟩ := takeCallback_inv h
    · exact ⟨nextTS, hcb, hcount, hdue, olderThan_of_deleted hrow hgone⟩
    · exact absurd rfl hsame

end MautrixSignal.EventBuffer
