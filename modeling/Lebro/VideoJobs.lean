import Lebro.MediaRequests

set_option autoImplicit false

namespace Lebro.VideoJobs

open EffectProgram RuntimeTypes RuntimeRecords MemoryStore MediaRequests

inductive MediaJobState where
 | submitting
 | contacting
 | ambiguous
 | queued
 | running
 | succeeded
 | failed
 | cancelled
 | expired
 | other (text : String)
deriving DecidableEq

def MediaJobState.terminal : MediaJobState → Bool
 | .succeeded | .failed | .cancelled | .expired => true
 | _ => false

structure MediaAsset where
 id : String
 locator : String
deriving DecidableEq

structure MediaResultInfo where
 operation : MediaOperation
 provider : String := ""
 model : String := ""
 providerRequestID : String := ""
 units : StringMap := []
 costUSD : Option String := none
deriving DecidableEq

structure VideoJob where
 requestHash : String := ""
 info : MediaResultInfo
 providerJobID : String := ""
 state : MediaJobState
 providerStatus : String := ""
 outputCount : Int := 0
 assets : List MediaAsset := []
 createdAt : Time
 updatedAt : Time
 revision : Int
deriving DecidableEq

variable (o : MediaOperation) (job : VideoJob) (j : VideoJob)

def VideoJob.key : JobKey := j.info.operation.key

/-- Stored jobs have positive revisions and lie under their own keys. -/
structure JobStore where
 jobs : JobKey → Option VideoJob
 keyed : ∀ k j, jobs k = some j → j.key = k
 positive : ∀ k j, jobs k = some j → 0 < j.revision

def JobStore.empty : JobStore where
 jobs _ := none
 keyed _ _ h := by cases h
 positive _ _ h := by cases h

def JobStore.put (s : JobStore) (j : VideoJob) (hj : 0 < j.revision) : JobStore where
 jobs k := if k = j.key then some j else s.jobs k
 keyed := by
  intro k i hi
  split at hi
  · rename_i hk
    cases hi
    exact hk.symm
  · exact s.keyed k i hi
 positive := by
  intro k i hi
  split at hi
  · cases hi
    exact hj
  · exact s.positive k i hi

def zeroTime : Time := -62135596800000000000

def containsAny (s : String) (cs : List Char) : Bool := s.toList.any fun c => cs.contains c

def containsText (s text : String) : Bool :=
 s.toList.tails.any fun rest => text.toList.isPrefixOf rest

def MediaAsset.durable (a : MediaAsset) : Bool :=
 a.id ≠ "" && a.locator ≠ "" && !containsText a.locator "://" &&
  !containsAny a.locator ['?', '#']

/-- `validateVideoRecord`, apart from its context and the size of the encoded record. -/
def validateVideoRecord (expected : Int) : Option MediaErr :=
 match j.info.operation.validate with
 | some e => some e
 | none =>
  if expected < 0 ∨ j.revision ≠ expected + 1 ∨ j.createdAt = zeroTime ∨
    j.updatedAt < j.createdAt then
   some (mediaInvalid "invalid job revision or timestamps")
  else
   match j.state with
   | .other _ => some (mediaInvalid "invalid job state")
   | _ =>
    if 256 < j.providerJobID.utf8ByteSize ∨
      containsAny j.providerJobID ['/', '?', '#', '\r', '\n'] then
     some (mediaInvalid "invalid provider job identity")
    else if j.assets.any fun a => !a.durable then
     some (mediaInvalid "persist only durable asset keys")
    else none

def expects (old : Option VideoJob) (expected : Int) : Bool :=
 match old with
 | some prior => prior.revision = expected && !prior.state.terminal
 | none => expected = 0

def saveVideoJob (s : JobStore) (j : VideoJob) (expected : Int) : Except MediaErr JobStore :=
 match validateVideoRecord j expected with
 | some e => .error e
 | none =>
  if hj : 0 < j.revision ∧ expects (s.jobs j.key) expected then .ok (s.put j hj.1)
  else .error ⟨errConflict, none⟩

inductive MediaAction where
 | generate
 | read
 | cancel

inductive VideoOp where
 | ctxErr
 | contextScope
 | authorize (action : MediaAction) (o : MediaOperation)
 | now
 | getVideoJob (scope : RuntimeScope) (id : String)
 | saveVideoJob (j : VideoJob) (expected : Int)
 | submitVideo (r : VideoRequest)
 | getVideo (j : VideoJob)
 | cancelVideo (j : VideoJob)
 | record (j : VideoJob)

@[reducible] def VideoOp.Reply : VideoOp → Type
  | .ctxErr => Option MediaErr
  | .contextScope => Option RuntimeScope
  | .authorize _ _ => Option MediaErr
  | .now => Time
  | .getVideoJob _ _ => Except MediaErr VideoJob
  | .saveVideoJob _ _ => Except MediaErr Unit
  | .submitVideo _ => Except MediaErr VideoJob
  | .getVideo _ => Except MediaErr VideoJob
  | .cancelVideo _ => Except MediaErr VideoJob
  | .record _ => Option MediaErr

abbrev VideoSig : Sig := ⟨VideoOp, VideoOp.Reply⟩

abbrev VideoProg := Prog VideoSig

def videoOp (o : VideoOp) : VideoProg o.Reply := Prog.perform (S := VideoSig) o

structure VideoOutcome where
 job : Option VideoJob
 error : Option MediaErr := none

def failed (e : MediaErr) : VideoOutcome := ⟨none, some e⟩

def checkScope (action : MediaAction) : VideoProg (Option MediaErr) := do
 let scope ← videoOp .contextScope
 if scope.any fun scope => scope ≠ o.scope then
  .ret (some (mediaError .authorization "media scope mismatch"))
 else videoOp (.authorize action o)

def check (action : MediaAction) : VideoProg (Option MediaErr) := do
 let ended ← videoOp .ctxErr
 match ended with
 | some e => .ret (some e)
 | none =>
  match o.validate with
  | some e => .ret (some e)
  | none => checkScope o action

def load : VideoProg (Except MediaErr VideoJob) := videoOp (.getVideoJob o.scope o.id)

def reload : VideoProg VideoOutcome := do
 let job ← load o
 match job with
 | .error e => .ret (failed e)
 | .ok job => .ret ⟨some job, none⟩

def errReconcile : MediaErr :=
 mediaError .ambiguous "operation requires reconciliation; do not resubmit"

variable (r : VideoRequest) (hash : String)

def sameVideoRequest : VideoOutcome :=
 if job.requestHash ≠ hash then ⟨some job, some ⟨errConflict, none⟩⟩
 else if job.state = .submitting ∨ job.state = .contacting ∨ job.state = .ambiguous then
  ⟨some job, some errReconcile⟩
 else ⟨some job, none⟩

def resumableReservation : Bool :=
 job.requestHash = hash && job.state = .submitting && job.providerJobID = ""

def definite : Option MediaErrorKind → Bool
 | some .validation | some .unsupported | some .authentication | some .authorization
 | some .refusal | some .quota | some .rateLimit => true
 | _ => false

def errNoIdentity : MediaErr := mediaError .ambiguous "submission returned no job identity"

def answeredJob : Except MediaErr VideoJob → VideoJob × Option MediaErr
 | .error e => ({ job with state := if definite e.kind then .failed else .ambiguous }, some e)
 | .ok received =>
  ({ job with
    info := { received.info with operation := r.operation }
    providerJobID := received.providerJobID
    state := if received.providerJobID = "" then .ambiguous else received.state
    providerStatus := received.providerStatus
    outputCount := received.outputCount },
   if received.providerJobID = "" then some errNoIdentity else none)

def errUnsaved (cause : Err) : MediaErr :=
 mediaError .ambiguous "submission outcome could not be persisted; retain returned handle"
  (some cause)

/-- The attempt of a job that has ended is recorded; a failure to do so is not reported. -/
def recordEnded (error : Option MediaErr) : VideoProg VideoOutcome :=
 if job.state.terminal then do
  let _ ← videoOp (.record job)
  .ret ⟨some job, error⟩
 else .ret ⟨some job, error⟩

def settledJob (marked : VideoJob) (r : VideoRequest) (answer : Except MediaErr VideoJob)
  (now : Time) : VideoJob :=
 { (answeredJob marked r answer).1 with revision := marked.revision + 1, updatedAt := now }

def settle (marked : VideoJob) (r : VideoRequest) (answer : Except MediaErr VideoJob) :
  VideoProg VideoOutcome := do
 let now ← videoOp .now
 let saved ← videoOp (.saveVideoJob (settledJob marked r answer now) marked.revision)
 match saved with
 | .error e => .ret ⟨some (settledJob marked r answer now), some (errUnsaved e.err)⟩
 | .ok () => recordEnded (settledJob marked r answer now) (answeredJob marked r answer).2

def contacted (e : MediaErr) : VideoProg VideoOutcome :=
 if e.err.is .conflict then do
  let current ← load job.info.operation
  match current with
  | .error e => .ret (failed e)
  | .ok current => .ret (sameVideoRequest current job.requestHash)
 else .ret (failed e)

def markedJob (reserved : VideoJob) (now : Time) : VideoJob :=
 { reserved with revision := reserved.revision + 1, updatedAt := now, state := .contacting }

def contact (reserved : VideoJob) (r : VideoRequest) : VideoProg VideoOutcome := do
 let now ← videoOp .now
 let saved ← videoOp (.saveVideoJob (markedJob reserved now) reserved.revision)
 match saved with
 | .error e => contacted (markedJob reserved now) e
 | .ok () => do
  let answer ← videoOp (.submitVideo r)
  settle (markedJob reserved now) r answer

def resubmit (r : VideoRequest) : VideoProg VideoOutcome :=
 if resumableReservation job hash then contact job r else .ret (sameVideoRequest job hash)

variable (answer : VideoJob) (now : Time)

def reservation : VideoJob where
 info := { operation := r.operation }
 state := .submitting
 createdAt := now
 updatedAt := now
 revision := 1
 requestHash := hash

def reserve : VideoProg VideoOutcome := do
 let now ← videoOp .now
 let saved ← videoOp (.saveVideoJob (reservation r hash now) 0)
 match saved with
 | .ok () => contact (reservation r hash now) r
 | .error e =>
  if e.err.is .conflict then do
   let old ← load r.operation
   match old with
   | .error e => .ret (failed e)
   | .ok old => resubmit old hash r
  else .ret (failed e)

def submitLoaded : Except MediaErr VideoJob → VideoProg VideoOutcome
 | .ok old => resubmit old hash r
 | .error e => if e.err.is .notFound then reserve r hash else .ret (failed e)

/-- `Submit`, where `digest` is the hexadecimal hash of an encoded request. -/
def submit (digest : List UInt8 → String) (r : VideoRequest) : VideoProg VideoOutcome := do
 let denial ← check r.operation .generate
 match denial with
 | some e => .ret (failed e)
 | none => do
  let old ← load r.operation
  submitLoaded r (digest (requestBody r)) old

def sameIdentity : Bool :=
 answer.providerJobID = job.providerJobID && answer.info.provider = job.info.provider &&
  answer.info.model = job.info.model

/-- What a provider answered, under the identity and the next revision of the stored job. -/
def observed : VideoJob :=
 { answer with
   info := { answer.info with operation := job.info.operation }
   createdAt := job.createdAt
   requestHash := job.requestHash
   revision := job.revision + 1
   updatedAt := now }

def errNoProviderJob : MediaErr :=
 mediaError .ambiguous "operation has no confirmed provider job ID"

def saveObserved : VideoProg VideoOutcome := do
 let now ← videoOp .now
 let saved ← videoOp (.saveVideoJob (observed job answer now) job.revision)
 match saved with
 | .error e => if e.err.is .conflict then reload o else .ret ⟨some job, some e⟩
 | .ok () =>
  if answer.state.terminal then do
   let err ← videoOp (.record (observed job answer now))
   .ret ⟨some (observed job answer now), err⟩
  else .ret ⟨some (observed job answer now), none⟩

def refresh : VideoProg VideoOutcome := do
 let answer ← videoOp (.getVideo job)
 match answer with
 | .error e => .ret ⟨some job, some e⟩
 | .ok answer =>
  if ¬ sameIdentity job answer then
   .ret ⟨some job, some (mediaError .malformed "provider changed job identity")⟩
  else if job.state = .running ∧ answer.state = .queued then .ret ⟨some job, none⟩
  else saveObserved o job answer

def getLoaded : VideoProg VideoOutcome :=
 if job.state.terminal then do
  let err ← videoOp (.record job)
  .ret ⟨some job, err⟩
 else if job.providerJobID = "" then .ret ⟨some job, some errNoProviderJob⟩
 else refresh o job

def get : VideoProg VideoOutcome := do
 let denial ← check o .read
 match denial with
 | some e => .ret (failed e)
 | none => do
  let job ← load o
  match job with
  | .error e => .ret (failed e)
  | .ok job => getLoaded o job

def saveCancelled : VideoProg VideoOutcome := do
 let now ← videoOp .now
 let saved ← videoOp (.saveVideoJob (observed job answer now) job.revision)
 match saved with
 | .error e =>
  if e.err.is .conflict then reload o else .ret ⟨some (observed job answer now), some e⟩
 | .ok () => .ret ⟨some (observed job answer now), none⟩

def cancelRemote : VideoProg VideoOutcome := do
 let answer ← videoOp (.cancelVideo job)
 match answer with
 | .error e => .ret ⟨some job, some e⟩
 | .ok answer =>
  if ¬ sameIdentity job answer then
   .ret ⟨some job, some (mediaError .malformed "provider changed job identity during cancellation")⟩
  else if answer.state ≠ .cancelled ∧ answer.state ≠ .succeeded then
   .ret ⟨some job, some (mediaError .malformed "remote cancellation was not confirmed")⟩
  else saveCancelled o job answer

def cancelLoaded : VideoProg VideoOutcome :=
 if job.state.terminal then .ret ⟨some job, none⟩
 else if job.providerJobID = "" ∨ job.state = .submitting ∨ job.state = .ambiguous then
  .ret ⟨some job, some errNoProviderJob⟩
 else cancelRemote o job

/-- `Cancel`, of a generator that may not support it. -/
def cancel (supported : Bool) (o : MediaOperation) : VideoProg VideoOutcome := do
 let denial ← check o .cancel
 match denial with
 | some e => .ret (failed e)
 | none =>
  if ¬ supported then
   .ret (failed (mediaError .unsupported
    "remote cancellation is unsupported; local waits can be cancelled"))
  else do
   let job ← load o
   match job with
   | .error e => .ret (failed e)
   | .ok job => cancelLoaded o job

inductive VideoCall where
 | submit (r : VideoRequest)
 | get (o : MediaOperation)
 | cancel (supported : Bool) (o : MediaOperation)

def VideoCall.prog (digest : List UInt8 → String) : VideoCall → VideoProg VideoOutcome
 | .submit r => VideoJobs.submit digest r
 | .get o => VideoJobs.get o
 | .cancel supported o => VideoJobs.cancel supported o

/-- Reads and writes of the repository are atomic and may fail; everything else may have any
reply. -/
def videoStep (s : JobStore) : (o : VideoOp) → o.Reply → JobStore → Prop
 | .getVideoJob scope id, .ok j, u => u = s ∧ s.jobs (scope, id) = some j
 | .getVideoJob scope id, .error e, u =>
  u = s ∧ (e.err.is .notFound = true → s.jobs (scope, id) = none)
 | .saveVideoJob j expected, .ok _, u => saveVideoJob s j expected = .ok u
 | _, _, u => u = s

def videoWorld : Monitor VideoSig JobStore where
 demand _ _ := True
 step := videoStep

end Lebro.VideoJobs
