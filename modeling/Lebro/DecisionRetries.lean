import Lebro.EffectProgram
import Mathlib.Algebra.Group.Nat.Defs

set_option autoImplicit false

/-! The exchanges of one decision request. The context, the provider and the timers answer as they
like; durations are nanoseconds. -/
namespace Lebro.DecisionRetries

open EffectProgram

inductive DecisionErrorKind where
 | invalidRequest
 | unsupportedCapability
 | authentication
 | permissionDenied
 | rateLimited
 | unavailable
 | timeout
 | cancelled
 | transport
 | malformedResponse
 | unknown

def DecisionErrorKind.retryable : DecisionErrorKind → Bool
 | .rateLimited | .unavailable | .timeout | .transport => true
 | _ => false

structure DecisionError where
 kind : DecisionErrorKind
 provider : String
 message : String

inductive ContextError where
 | canceled
 | deadlineExceeded

/-- What `errors.Is` and `errors.As` find in an error of the HTTP client. -/
structure TransportError where
 deadlineExceeded : Bool
 urlTimeout : Bool
 redirectRefused : Bool

/-- `retryAfter` is what `parseRetryAfter` makes of the header when the response is read. -/
structure Response where
 status : ℕ
 header : String → String
 body : List UInt8
 retryAfter : Int

/-- An exchange fails without a response, or when the body of the response cannot be read. -/
inductive Exchange where
 | unbuilt
 | failed (err : TransportError)
 | response (r : Response)

inductive PostOp where
 | ctxErr
 | exchange (body : List UInt8)
 | sleep (delay : Int)

def PostOp.Reply : PostOp → Type
 | .ctxErr | .sleep _ => Option ContextError
 | .exchange _ => Exchange

def PostSig : Sig := ⟨PostOp, PostOp.Reply⟩

abbrev PostProg := Prog PostSig

def postOp (o : PostOp) : PostProg o.Reply := .perform (S := PostSig) o

/-- `newDecisionClient` raises a negative number of retries to zero. -/
structure DecisionClient where
 provider : String := ""
 timeout : Int := 60000000000
 maxRetries : ℕ := 2
 retryBackoff : Int := 500000000

structure DecisionResult where
 status : ℕ := 0
 body : List UInt8 := []
 attempts : ℕ
 requestID : String := ""
 retryAfter : Int := 0

def maxResponseBytes : ℕ := 8388608

/-- The first of the named headers that has a value. -/
def requestID (header : String → String) : List String → String
 | [] => ""
 | name :: names => if header name ≠ "" then header name else requestID header names

variable (c : DecisionClient) (requestIDHeaders : List String) (retryableStatus : List ℕ)
 (body : List UInt8)

def failure (kind : DecisionErrorKind) (message : String) : DecisionError :=
 ⟨kind, c.provider, message⟩

def cancellation : ContextError → DecisionError
 | .deadlineExceeded => failure c .timeout "lebro: the decision request deadline was exceeded"
 | .canceled => failure c .cancelled "lebro: the decision request was cancelled"

def classify (err : TransportError) : DecisionError :=
 if err.deadlineExceeded || err.urlTimeout then
  failure c .timeout "lebro: the provider request timed out"
 else if err.redirectRefused then
  failure c .transport "lebro: the provider refused a redirect"
 else failure c .transport "lebro: the provider request failed"

def transportFailure (err : TransportError) : PostProg DecisionError := do
 let ended ← postOp .ctxErr
 match ended with
 | some e => .ret (cancellation c e)
 | none => .ret (classify c err)

def attempt : PostProg (Except DecisionError Response) := do
 let outcome ← postOp (.exchange body)
 match outcome with
 | .unbuilt => .ret (.error (failure c .invalidRequest "lebro: build request"))
 | .failed err => do
  let e ← transportFailure c err
  .ret (.error e)
 | .response r => .ret (.ok { r with body := r.body.take maxResponseBytes })

def wait (delay : Int) : PostProg (Option DecisionError) :=
 if delay ≤ 0 then .ret none
 else do
  let ended ← postOp (.sleep delay)
  .ret (ended.map (cancellation c))

def backoff (attempt : ℕ) : Int :=
 Nat.repeat (fun delay => Int.bmod (delay * 2) (2 ^ 64)) attempt c.retryBackoff

def retried (r : Response) : Bool := 400 ≤ r.status && retryableStatus.contains r.status

/-- The loop of `post` from attempt number `n`, with the attempts that are left. -/
def postFrom : ℕ → ℕ → ℕ → PostProg (DecisionResult × Option DecisionError)
 | _, attempts, 0 =>
  .ret ({ attempts }, some (failure c .unavailable "lebro: the provider did not answer"))
 | n, attempts, left + 1 => do
  let ended ← postOp .ctxErr
  match ended with
  | some e => .ret ({ attempts }, some (cancellation c e))
  | none => do
   let attempts := attempts + 1
   let outcome ← attempt c body
   match outcome with
   | .error err => do
    let ended ← postOp .ctxErr
    match ended with
    | some e => .ret ({ attempts }, some (cancellation c e))
    | none =>
     if left ≠ 0 ∧ err.kind.retryable then do
      let waitErr ← wait c (backoff c n)
      match waitErr with
      | some e => .ret ({ attempts }, some e)
      | none => postFrom (n + 1) attempts left
     else .ret ({ attempts }, some err)
   | .ok r =>
    if retried retryableStatus r ∧ left ≠ 0 then
     let delay := max (backoff c n) r.retryAfter
     if c.timeout < delay then
      .ret ({ status := r.status, body := r.body, attempts, retryAfter := r.retryAfter }, none)
     else do
      let waitErr ← wait c delay
      match waitErr with
      | some e => .ret ({ attempts }, some e)
      | none => postFrom (n + 1) attempts left
    else
     .ret (⟨r.status, r.body, attempts, requestID r.header requestIDHeaders, r.retryAfter⟩, none)

def post : PostProg (DecisionResult × Option DecisionError) :=
 postFrom c requestIDHeaders retryableStatus body 0 0 (c.maxRetries + 1)

/-- The exchanges so far, the last one first, and whether the context was just found alive. -/
structure Log where
 exchanges : List Exchange := []
 alive : Bool := false

def Log.next (log : Log) : (o : PostOp) → o.Reply → Log
 | .ctxErr, ended => { log with alive := ended.isNone }
 | .exchange _, outcome => ⟨outcome :: log.exchanges, false⟩
 | .sleep _, _ => { log with alive := false }

def Retryable : Exchange → Prop
 | .unbuilt => False
 | .failed err => (classify c err).kind.retryable
 | .response r => retried retryableStatus r

/-- An exchange is asked for at most once more than there are retries, of a context that is alive,
and after an exchange that is worth another attempt. -/
def exchangeLog : Monitor PostSig Log :=
 .ghost (fun log o => match o with
  | .exchange _ => log.alive ∧ log.exchanges.length ≤ c.maxRetries ∧
   ∀ last ∈ log.exchanges.head?, Retryable c retryableStatus last
  | _ => True) Log.next

def Carried (result : DecisionResult) (log : Log) : Prop :=
 ∃ r earlier, log.exchanges = .response r :: earlier ∧
  result = ⟨r.status, r.body.take maxResponseBytes, log.exchanges.length,
   requestID r.header requestIDHeaders, r.retryAfter⟩

/-- A response that is to be retried after a longer wait than one attempt may take has no request
ID; `n` exchanges came before it. -/
def Unidentified (n : ℕ) (r : Response) : Prop :=
 retried retryableStatus r → n < c.maxRetries → c.timeout < max (backoff c n) r.retryAfter →
  requestID r.header requestIDHeaders = ""

section

variable {c requestIDHeaders retryableStatus body} {log : Log}

lemma classify_retryable (err) : (classify c err).kind.retryable=true := by
 unfold classify
 split
 · rfl
 split <;> rfl

def Attempted (c : DecisionClient) (retryableStatus : List ℕ) (log : Log) :
  Except DecisionError Response → Log → Prop
 | .error err, u => ∃ last, u.exchanges = last :: log.exchanges ∧
  (err.kind.retryable → Retryable c retryableStatus last)
 | .ok r, u => ∃ r', u.exchanges = .response r' :: log.exchanges ∧
  r = { r' with body := r'.body.take maxResponseBytes }

lemma wp_attempt (halive : log.alive) (hlength : log.exchanges.length ≤ c.maxRetries)
  (hlast : ∀ last ∈ log.exchanges.head?,Retryable c retryableStatus last) :
  wp (exchangeLog c retryableStatus) (attempt c body) (Attempted c retryableStatus log) log := by
 refine ⟨⟨halive,hlength,hlast⟩,?_⟩
 rintro outcome _ rfl
 cases outcome with
 | unbuilt => exact ⟨_,rfl,nofun⟩
 | response r => exact ⟨r,rfl,rfl⟩
 | failed err =>
  refine ⟨trivial,?_⟩
  rintro ended _ rfl
  cases ended with
  | some e | none => exact ⟨_,rfl,fun _ => classify_retryable err⟩

lemma wp_wait (delay) :
  wp (exchangeLog c retryableStatus) (wait c delay)
   (fun _ u => u.exchanges=log.exchanges) log := by
 unfold wait
 split
 · rfl
 · refine ⟨trivial,?_⟩
   rintro ended _ rfl
   rfl

/-- A result without an error describes the last exchange but for the request ID, and that one too
exactly if the response is not one of the kind that loses it. -/
def Posted (c : DecisionClient) (requestIDHeaders : List String) (retryableStatus : List ℕ) :
  DecisionResult × Option DecisionError → Log → Prop
 | (_, some _), _ => True
 | (result, none), log => ∃ r earlier, log.exchanges = .response r :: earlier ∧
  { result with requestID := "" } = (⟨r.status, r.body.take maxResponseBytes,
   log.exchanges.length, "", r.retryAfter⟩ : DecisionResult) ∧
  (Carried requestIDHeaders result log ↔
   Unidentified c requestIDHeaders retryableStatus earlier.length r)

-- Each round asks for one exchange, so the exchanges and the rounds left always add up.
lemma wp_postFrom {n left} (hleft : n+left=c.maxRetries+1) (hn : log.exchanges.length=n)
  (hlast : ∀ last ∈ log.exchanges.head?,Retryable c retryableStatus last) :
  wp (exchangeLog c retryableStatus) (postFrom c requestIDHeaders retryableStatus body n n left)
   (Posted c requestIDHeaders retryableStatus) log := by
 induction left generalizing n log with
 | zero => trivial
 | succ left ih =>
  have hagain {last u} (hu : u.exchanges=last :: log.exchanges)
    (h : Retryable c retryableStatus last) (delay) :
    wp (exchangeLog c retryableStatus) (wait c delay >>= fun
     | some e => .ret ({ attempts := n+1 },some e)
     | none => postFrom c requestIDHeaders retryableStatus body (n+1) (n+1) left)
     (Posted c requestIDHeaders retryableStatus) u := by
   refine wp_seq (wp_wait delay) ?_
   intro waitErr v hv
   rw [hu] at hv
   cases waitErr with
   | some e => trivial
   | none => exact ih (by omega) (by simp [hv,hn]) (by simpa [hv] using h)
  refine ⟨trivial,?_⟩
  rintro ended _ rfl
  cases ended with
  | some e => trivial
  | none =>
   change wp _ (attempt c body >>= _) _ (log.next .ctxErr none)
   refine wp_seq (wp_attempt rfl ?_ hlast) ?_
   · change log.exchanges.length ≤ _
     omega
   intro outcome u hu
   cases outcome with
   | error err =>
    obtain ⟨last,hu,hretry⟩ := hu
    refine ⟨trivial,?_⟩
    rintro ended _ rfl
    cases ended with
    | some e => trivial
    | none =>
     change wp _ (if left ≠ 0 ∧ err.kind.retryable then _ else _) _ _
     split
     · next h => exact hagain (u := u.next .ctxErr none) hu (hretry h.2) _
     · trivial
   | ok r =>
    obtain ⟨r',hu,rfl⟩ := hu
    change u.exchanges=_ :: log.exchanges at hu
    dsimp only
    split
    · next h =>
      split
      · next hdelay =>
        refine ⟨r',_,hu,by simp [hu,hn],?_,?_⟩
        · rintro ⟨r,earlier,hr,hresult⟩ - - -
          rw [hu] at hr
          cases hr
          exact (congrArg DecisionResult.requestID hresult).symm
        · intro hid
          have hempty:=hid h.1 (by omega) (by rwa [hn])
          exact ⟨r',_,hu,by simp [hu,hn,hempty]⟩
      · exact hagain hu h.1 _
    · next h =>
      refine ⟨r',_,hu,by simp [hu,hn],fun _ hretried hmore=>?_,fun _=>⟨r',_,hu,by simp [hu,hn]⟩⟩
      exact absurd ⟨hretried,by omega⟩ h

end

def busy : Response where
 status := 503
 header _ := "request-7"
 body := []
 retryAfter := 61000000000

end Lebro.DecisionRetries
