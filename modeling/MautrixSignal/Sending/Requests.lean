import MautrixSignal.Lib.Slice
import MautrixSignal.Lib.Transaction
import MautrixSignal.Sending

namespace MautrixSignal.Requests

open Lib
open Sending (Content)

structure SingleRecipient409410Response where
  missingDevices : List ℕ := []
  extraDevices : List ℕ := []
  staleDevices : List ℕ := []

-- signalpb.WebSocketResponseMessage with the id of its request. A body is given as json.Unmarshal reads it for the
-- status, and a header as its first two parts between colons.
structure Response where
  status : Option UInt32
  devices : Except String SingleRecipient409410Response := .ok {}
  body : Except String Unit := .ok ()
  headers : List (String × Option String) := []

structure MessageRequest where
  recipient : ServiceID
  content : Content
  unidentified : Bool
deriving DecidableEq

-- What sendContent calls: the stores, libsignal and the server. The sessions and the server's state are σ. ParseUint
-- returns a number beside an error too.
structure Env (σ : Type) where
  aci : UUID
  pni : UUID
  profileKeyForSignalID : UUID → Prog String σ (Option Bytes)
  deriveAccessKey : Bytes → Except String Bytes
  buildMessagesToSend : ServiceID → Content → Bool → Bool → Prog String σ (List Bytes)
  isSessionNotFound : String → Bool
  marshal : List Bytes → Except String Bytes
  sendRequest : MessageRequest → Bytes → Prog String σ Response
  address : ServiceID → ℕ → Except String Bytes
  removeSession : Bytes → Prog String σ Unit
  removeAllSessionsForServiceID : ServiceID → Prog String σ Unit
  fetchAndProcessPreKey : ServiceID → ℕ → Prog String σ Unit
  parseUint : String → UInt64
  markUnregistered : ServiceID → Prog String σ Unit

inductive Fault
  | error (text : String)
  | panic (panic : Panic)
deriving DecidableEq

structure Result (σ : Type) where
  sentUnidentified : Bool
  error : Option Fault
  state : σ
  requests : List (MessageRequest × Option UInt32) := []

section Code

variable {σ : Type} (env : Env σ) (recipient : ServiceID) (content : Content)

def ofExcept {α : Type} : Except String α → Prog String σ α
  | .ok a => pure a
  | .error text => throw text

def removeDevice (device : ℕ) : Prog String σ Unit := do
  let address ← ofExcept (env.address recipient device)
  env.removeSession address

def handle409410 (body : SingleRecipient409410Response) : Prog String σ Unit := do
  for staleDevice in body.staleDevices do
    removeDevice env recipient staleDevice
    env.fetchAndProcessPreKey recipient staleDevice
  for missingDevice in body.missingDevices do
    env.fetchAndProcessPreKey recipient missingDevice
  for extraDevice in body.extraDevices do
    removeDevice env recipient extraDevice

def retryAfterSeconds : UInt64 → List (String × Option String) → Except Panic UInt64
  | seconds, [] => .ok seconds
  -- strings.Split(header, ":")[1]
  | _, (_, none) :: _ => .error .indexOutOfRange
  | seconds, (key, some value) :: headers =>
    retryAfterSeconds (if key = "Retry-After" then env.parseUint value else seconds) headers

variable (response : Response)

def handle428 : Fault :=
  match response.body with
  | .error text => .error text
  | .ok () =>
    match retryAfterSeconds env 0 response.headers with
    | .error panic => .panic panic
    | .ok seconds => .error ("rate limited (send returned 428, retry after " ++ toString seconds ++ "s)")

variable (useUnidentifiedSender : Bool)

def sealedSender : Prog String σ Bool := do
  if recipient = newPNIServiceID env.pni then throw "can't send to own PNI"
  else if recipient = newACIServiceID env.aci ∨ recipient.type = serviceIDTypePNI then return false
  else if useUnidentifiedSender then
    match ← env.profileKeyForSignalID recipient.uuid with
    | none => return false
    | some profileKey => return (env.deriveAccessKey profileKey).isOk
  else return false

def buildMessages (unidentified : Bool) : Prog String σ (List Bytes) :=
  tryCatch (env.buildMessagesToSend recipient content unidentified false) fun text =>
    if env.isSessionNotFound text then env.buildMessagesToSend recipient content unidentified true
    else throw text

def prepareRequest : Prog String σ (MessageRequest × Bytes) := do
  let unidentified ← sealedSender env recipient useUnidentifiedSender
  if unidentified = false ∧ content.senderKeyDistributionMessage = true then
    throw "won't send sender key distribution message without sealed sender"
  else do
    let messages ← buildMessages env recipient content unidentified
    let json ← ofExcept (env.marshal messages)
    return (⟨recipient, content, unidentified⟩, json)

inductive AfterResponse
  | done
  | fail (sentUnidentified : Bool) (fault : Fault)
  | again (useUnidentifiedSender : Bool)

def retryableStatuses : List UInt32 := [409, 410, 428, 500, 503]

variable (request : MessageRequest)

def handleRetryable (response : Response) (status : UInt32) (s : σ) : AfterResponse × σ :=
  if status = 409 ∨ status = 410 then
    match (do handle409410 env recipient (← ofExcept response.devices) : Prog String σ Unit) s with
    | .error text s => (.fail false (.error text), s)
    | .ok () s =>
      if content.senderKeyDistributionMessage then (.fail false (.error "devices changed"), s)
      else (.again request.unidentified, s)
  else if status = 428 then (.fail false (handle428 env response), s)
  else (.again request.unidentified, s)

def handleStatus (status : UInt32) (s : σ) : AfterResponse × σ :=
  if status = 401 ∧ request.unidentified = true then
    if content.senderKeyDistributionMessage then
      (.fail true (.error "unauthorized to send sender key distribution message via sealed sender"), s)
    else (.again false, s)
  else if status = 404 then
    (.fail request.unidentified (.error "unregistered user (send returned 404)"),
      finalState (env.markUnregistered recipient) (finalState (env.removeAllSessionsForServiceID recipient) s))
  else if status = 413 ∨ status = 429 then
    (.fail request.unidentified (.error ("rate limited (send returned " ++ toString status ++ ")")), s)
  else if status ≠ 200 then
    (.fail request.unidentified (.error ("unexpected status code while sending: " ++ toString status)), s)
  else (.done, s)

def handleResponse (response : Response) (s : σ) : AfterResponse × σ :=
  match response.status with
  -- *response.Status
  | none => (.fail false (.panic .nilDereference), s)
  | some status =>
    if status ∈ retryableStatuses then handleRetryable env recipient content request response status s
    else handleStatus env recipient content request status s

def sendAttempts : ℕ → Bool → σ → Result σ
  | 0, _, s => ⟨false, some (.error "too many retries"), s, []⟩
  | attempts + 1, useUnidentifiedSender, s =>
    match prepareRequest env recipient content useUnidentifiedSender s with
    | .error text s => ⟨false, some (.error text), s, []⟩
    | .ok (request, json) s =>
      match env.sendRequest request json s with
      | .error text s => ⟨request.unidentified, some (.error text), s, [(request, none)]⟩
      | .ok response s =>
        match handleResponse env recipient content request response s with
        | (.done, s) => ⟨request.unidentified, none, s, [(request, response.status)]⟩
        | (.fail sentUnidentified fault, s) => ⟨sentUnidentified, some fault, s, [(request, response.status)]⟩
        | (.again use, s) =>
          let rest := sendAttempts attempts use s
          { rest with requests := (request, response.status) :: rest.requests }

-- The callers start with a retry count of 0, and a fourth retry is refused.
def sendContent (s : σ) : Result σ :=
  sendAttempts env recipient content 4 useUnidentifiedSender s

end Code

structure Reports (attempts : ℕ) {σ : Type} (r : Result σ) : Prop where
  requests : r.requests.length ≤ attempts
  distribution : ∀ asked ∈ r.requests, asked.1.unidentified = false →
    asked.1.content.senderKeyDistributionMessage = false
  success : r.error = none ↔ ∃ request, r.requests.getLast? = some (request, some 200)
  unidentified : r.sentUnidentified = true → ∃ asked, r.requests.getLast? = some asked ∧ asked.1.unidentified = true
  exact : r.error = none → ∀ asked, r.requests.getLast? = some asked → r.sentUnidentified = asked.1.unidentified

section Theorems

variable {σ : Type} {env : Env σ} {recipient : ServiceID} {content : Content} {attempts : ℕ}
  {request : MessageRequest} {json : Bytes} {s t : σ} {response : Response}

theorem prepareRequest_spec {use : Bool} (h : prepareRequest env recipient content use s = .ok (request, json) t) :
    request.unidentified = false → request.content.senderKeyDistributionMessage = false := by
  obtain ⟨unidentified, u, -, h⟩ := returns_bind.mp h
  split at h
  · cases h
  · rename_i hsealed
    obtain ⟨messages, v, -, h⟩ := returns_bind.mp h
    obtain ⟨json', x, -, h⟩ := returns_bind.mp h
    obtain ⟨rfl, -⟩ := Prod.mk.inj (returns_pure.mp h).1
    simpa using hsealed

-- A panic is like an error here: it is not an answer of 200.
def AfterResponse.Follows (request : MessageRequest) (status : Option UInt32) : AfterResponse → Prop
  | .done => status = some 200
  | .fail sent _ => status ≠ some 200 ∧ (sent = true → request.unidentified = true)
  | .again _ => status ≠ some 200

theorem handleRetryable_follows {status : UInt32} (hstat : some status ≠ some 200) :
    (handleRetryable env recipient content request response status s).1.Follows request (some status) := by
  unfold handleRetryable
  split
  · split
    · exact ⟨hstat, nofun⟩
    · split
      · exact ⟨hstat, nofun⟩
      · exact hstat
  · split
    · exact ⟨hstat, nofun⟩
    · exact hstat

theorem handleStatus_follows {status : UInt32} :
    (handleStatus env recipient content request status s).1.Follows request (some status) := by
  unfold handleStatus
  split
  · rename_i hunauthorized
    have hstat : some status ≠ some 200 := by
      rw [hunauthorized.1]
      decide
    split
    · exact ⟨hstat, fun _ => hunauthorized.2⟩
    · exact hstat
  · split
    · rename_i hunregistered
      exact ⟨by rw [hunregistered]; decide, id⟩
    · split
      · rename_i hlimited
        exact ⟨by rcases hlimited with hlimited | hlimited <;> rw [hlimited] <;> decide, id⟩
      · split
        · exact ⟨fun h => absurd (Option.some.inj h) ‹_›, id⟩
        · exact congrArg some (not_not.mp ‹_›)

theorem handleResponse_follows :
    (handleResponse env recipient content request response s).1.Follows request response.status := by
  unfold handleResponse
  cases response.status with
  | none => exact ⟨nofun, nofun⟩
  | some status =>
    dsimp only
    split
    · rename_i hretryable
      apply handleRetryable_follows
      rintro ⟨⟩
      exact absurd hretryable (by decide)
    · exact handleStatus_follows

theorem Reports.single {sent : Bool} {error : Option Fault} {status : Option UInt32}
    (hreq : request.unidentified = false → request.content.senderKeyDistributionMessage = false)
    (herr : error = none ↔ status = some 200) (hsent : sent = true → request.unidentified = true)
    (hexact : error = none → sent = request.unidentified) :
    Reports (attempts + 1) ⟨sent, error, s, [(request, status)]⟩ where
  requests := by simp
  distribution := by simpa using hreq
  success := by simp [herr]
  unidentified := by simpa using hsent
  exact := by simpa using hexact

theorem Reports.again {rest : Result σ} (h : Reports attempts rest)
    (hreq : request.unidentified = false → request.content.senderKeyDistributionMessage = false)
    {status : Option UInt32} (hstat : status ≠ some 200) :
    Reports (attempts + 1) { rest with requests := (request, status) :: rest.requests } := by
  have hlast : ∀ asked, rest.requests.getLast? = some asked →
      ((request, status) :: rest.requests).getLast? = some asked := by
    intro asked hasked
    rw [List.getLast?_cons, hasked, Option.getD_some]
  refine ⟨Nat.succ_le_succ h.requests, ?_, ⟨fun herr => ?_, fun ⟨last, hlast'⟩ => ?_⟩, fun hsent => ?_,
    fun herr asked hasked => ?_⟩
  · simpa using ⟨hreq, fun request status hasked => h.distribution (request, status) hasked⟩
  · obtain ⟨last, hans⟩ := h.success.mp herr
    exact ⟨last, hlast _ hans⟩
  · cases hrest : rest.requests.getLast? with
    | none => simp [List.getLast?_cons, hrest, hstat] at hlast'
    | some asked =>
      rw [hlast asked hrest] at hlast'
      exact h.success.mpr ⟨last, hrest.trans hlast'⟩
  · obtain ⟨asked, hasked, hunidentified⟩ := h.unidentified hsent
    exact ⟨asked, hlast asked hasked, hunidentified⟩
  · obtain ⟨last, hans⟩ := h.success.mp herr
    obtain rfl := Option.some.inj ((hlast _ hans).symm.trans hasked)
    exact h.exact herr _ hans

theorem reports_sendAttempts (use : Bool) (s : σ) :
    Reports attempts (sendAttempts env recipient content attempts use s) := by
  induction attempts generalizing use s with
  | zero => constructor <;> simp [sendAttempts]
  | succ attempts ih =>
    unfold sendAttempts
    split
    · constructor <;> simp
    rename_i request json t hprep
    have hreq := prepareRequest_spec hprep
    split
    · exact .single hreq (by simp) id (nofun)
    rename_i response u hresp
    have hfollows : (handleResponse env recipient content request response u).1.Follows request response.status :=
      handleResponse_follows
    split <;> rename_i hhandle <;> rw [hhandle] at hfollows
    · exact .single hreq (iff_of_true rfl hfollows) id fun _ => rfl
    · exact .single hreq (iff_of_false nofun hfollows.1) hfollows.2 nofun
    · exact (ih _ _).again hreq hfollows

-- An answer without a status, or one of 428 with a header that has no colon.
def Response.Malformed (response : Response) : Prop :=
  response.status = none ∨
    response.status = some 428 ∧ response.body = .ok () ∧ ∃ header ∈ response.headers, header.2 = none

def AfterResponse.panics : AfterResponse → Prop
  | .fail _ (.panic _) => True
  | _ => False

theorem retryAfterSeconds_isOk {seconds : UInt64} {headers : List (String × Option String)} :
    (retryAfterSeconds env seconds headers).isOk ↔ ∀ header ∈ headers, header.2 ≠ none := by
  induction headers generalizing seconds with
  | nil => simp [retryAfterSeconds, Except.isOk, Except.toBool]
  | cons header headers ih =>
    obtain ⟨key, value⟩ := header
    cases value with
    | none => simp [retryAfterSeconds, Except.isOk, Except.toBool]
    | some value => simpa [retryAfterSeconds] using ih

theorem handle428_panics :
    (AfterResponse.fail false (handle428 env response)).panics ↔
      response.body = .ok () ∧ ∃ header ∈ response.headers, header.2 = none := by
  have hheaders : (retryAfterSeconds env 0 response.headers).isOk ↔ ∀ header ∈ response.headers, header.2 ≠ none :=
    retryAfterSeconds_isOk
  unfold handle428
  cases response.body with
  | error text => simp [AfterResponse.panics]
  | ok _ =>
    cases hseconds : retryAfterSeconds env 0 response.headers with
    | error panic => simpa [AfterResponse.panics, hseconds, Except.isOk, Except.toBool] using hheaders
    | ok seconds =>
      have hcolons := hheaders.mp (by simp [hseconds, Except.isOk, Except.toBool])
      refine iff_of_false (by simp [AfterResponse.panics]) ?_
      rintro ⟨-, header, hheader, hnone⟩
      exact hcolons header hheader hnone

theorem handleResponse_panics :
    (handleResponse env recipient content request response s).1.panics ↔ response.Malformed := by
  unfold handleResponse Response.Malformed
  cases response.status with
  | none => simp [AfterResponse.panics]
  | some status =>
    dsimp only
    split
    · unfold handleRetryable
      split
      · rename_i hdevs
        have hother : status ≠ 428 := by
          rcases hdevs with rfl | rfl <;> decide
        split
        · simp [AfterResponse.panics, hother]
        · split <;> simp [AfterResponse.panics, hother]
      · split
        · rename_i hlimited
          simp [handle428_panics, hlimited]
        · rename_i hother
          simp [AfterResponse.panics, hother]
    · rename_i hretryable
      have hother : status ≠ 428 := by
        rintro rfl
        exact hretryable (by decide)
      unfold handleStatus
      split_ifs <;> simp [AfterResponse.panics, hother]

-- Some attempt is answered with a malformed response.
inductive MeetsMalformed (env : Env σ) (recipient : ServiceID) (content : Content) : ℕ → Bool → σ → Prop
  | here {attempts : ℕ} {use : Bool} {s t u : σ} {request : MessageRequest} {json : Bytes} {response : Response} :
      prepareRequest env recipient content use s = .ok (request, json) t →
      env.sendRequest request json t = .ok response u → response.Malformed →
      MeetsMalformed env recipient content (attempts + 1) use s
  | later {attempts : ℕ} {use again : Bool} {s t u v : σ} {request : MessageRequest} {json : Bytes}
      {response : Response} :
      prepareRequest env recipient content use s = .ok (request, json) t →
      env.sendRequest request json t = .ok response u →
      handleResponse env recipient content request response u = (.again again, v) →
      MeetsMalformed env recipient content attempts again v →
      MeetsMalformed env recipient content (attempts + 1) use s

theorem sendAttempts_panics {use : Bool} :
    (∃ panic, (sendAttempts env recipient content attempts use s).error = some (.panic panic)) ↔
      MeetsMalformed env recipient content attempts use s := by
  induction attempts generalizing use s with
  | zero => exact ⟨fun ⟨_, h⟩ => by simp [sendAttempts] at h, fun h => by cases h⟩
  | succ attempts ih =>
    unfold sendAttempts
    cases hprep : prepareRequest env recipient content use s with
    | error text t =>
      refine iff_of_false (by simp) fun h => ?_
      cases h <;> simp_all
    | ok prepared t =>
      obtain ⟨request, json⟩ := prepared
      dsimp only
      cases hsend : env.sendRequest request json t with
      | error text u =>
        refine iff_of_false (by simp) fun h => ?_
        cases h <;> simp_all
      | ok response u =>
        have hpanics : (handleResponse env recipient content request response u).1.panics ↔ response.Malformed :=
          handleResponse_panics
        have hcases : MeetsMalformed env recipient content (attempts + 1) use s ↔ response.Malformed ∨
            ∃ again v, handleResponse env recipient content request response u = (.again again, v) ∧
              MeetsMalformed env recipient content attempts again v := by
          constructor
          · intro h
            cases h with
            | here hprep' hsend' h =>
              cases hprep.symm.trans hprep'
              cases hsend.symm.trans hsend'
              exact .inl h
            | later hprep' hsend' hagain h =>
              cases hprep.symm.trans hprep'
              cases hsend.symm.trans hsend'
              exact .inr ⟨_, _, hagain, h⟩
          · rintro (h | ⟨again, v, hagain, h⟩)
            · exact .here hprep hsend h
            · exact .later hprep hsend hagain h
        rw [hcases, ← hpanics]
        rcases hhandle : handleResponse env recipient content request response u with ⟨_ | ⟨sent, fault⟩ | again, v⟩
        · simp [AfterResponse.panics, hhandle]
        · cases fault <;> simp [AfterResponse.panics, hhandle]
        · simp [AfterResponse.panics, hhandle, ih]

end Theorems

-- The number of requests, the error, the flag and the sealing of key distributions, whatever the server answers.
theorem sendContent_reports {σ : Type} (env : Env σ) (recipient : ServiceID) (content : Content)
    (useUnidentifiedSender : Bool) (s : σ) : Reports 4 (sendContent env recipient content useUnidentifiedSender s) :=
  reports_sendAttempts useUnidentifiedSender s

def failingServer : Env Unit where
  aci := .ofByte 9
  pni := .ofByte 8
  profileKeyForSignalID _ := pure (some [])
  deriveAccessKey _ := .ok []
  buildMessagesToSend _ _ _ _ := pure [[]]
  isSessionNotFound _ := false
  marshal _ := .ok []
  sendRequest _ _ := pure { status := some 500 }
  address _ _ := .ok []
  removeSession _ := pure ()
  removeAllSessionsForServiceID _ := pure ()
  fetchAndProcessPreKey _ _ := pure ()
  parseUint _ := 0
  markUnregistered _ := pure ()

-- Four sealed requests are answered with 500, and false is returned for the use of sealed sender.
theorem sealed_sender_use_not_reported :
    let r := sendContent failingServer (newACIServiceID (.ofByte 1)) ⟨.null, false, false⟩ true ()
    r.sentUnidentified = false ∧ r.error = some (.error "too many retries") ∧
      r.requests = List.replicate 4 (⟨newACIServiceID (.ofByte 1), ⟨.null, false, false⟩, true⟩, some 500) := by
  decide +kernel

end MautrixSignal.Requests
