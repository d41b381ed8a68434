import Lebro.MemoryStore

set_option autoImplicit false

namespace Lebro.MediaRequests

open RuntimeTypes RuntimeRecords

inductive MediaErrorKind where
 | validation
 | unsupported
 | authentication
 | authorization
 | rateLimit
 | quota
 | refusal
 | timeout
 | cancelled
 | transport
 | malformed
 | remote
 | ambiguous
 | expired
deriving DecidableEq

def MediaErrorKind.text : MediaErrorKind → String
 | .validation => "validation"
 | .unsupported => "unsupported"
 | .authentication => "authentication"
 | .authorization => "authorization"
 | .rateLimit => "rate_limit"
 | .quota => "quota"
 | .refusal => "refusal"
 | .timeout => "timeout"
 | .cancelled => "cancelled"
 | .transport => "transport"
 | .malformed => "malformed_response"
 | .remote => "remote_failure"
 | .ambiguous => "ambiguous_submission"
 | .expired => "expired"

structure MediaErr where
 err : Err
 kind : Option MediaErrorKind := none

/-- A media error; its cause is matched but not shown. -/
def mediaError (kind : MediaErrorKind) (message : String) (cause : Option Err := none) :
  MediaErr where
 err := {
  message := "lebro media: " ++ kind.text ++ ": " ++ message
  matching := (cause.map Err.matching).getD []
  suspend := none }
 kind := some kind

def mediaInvalid (message : String) : MediaErr := mediaError .validation message

structure MediaOperation where
 id : String
 scope : RuntimeScope := {}
 runID : RunID := ""
 threadID : ThreadID := ""
 workflowID : WorkflowID := ""
 toolCallID : String := ""
deriving DecidableEq

abbrev JobKey := RuntimeScope × String

def MediaOperation.key (o : MediaOperation) : JobKey := (o.scope, o.id)

/-- The white space that `strings.TrimSpace` cuts. -/
def isSpace (c : Char) : Bool :=
 c.toNat ∈ [0x09, 0x0A, 0x0B, 0x0C, 0x0D, 0x20, 0x85, 0xA0, 0x1680, 0x2028, 0x2029, 0x202F, 0x205F,
  0x3000] || (0x2000 ≤ c.toNat && c.toNat ≤ 0x200A)

def invalidIdentity (s : String) : Bool :=
 256 < s.utf8ByteSize || s.toList.any fun c => c = '\r' || c = '\n' || c.toNat = 0

def MediaOperation.validate (o : MediaOperation) : Option MediaErr :=
 if [o.id, o.scope.ns, o.scope.ownerID, o.runID, o.threadID, o.workflowID, o.toolCallID].any
     invalidIdentity then
  some (mediaInvalid "invalid operation identity")
 else if o.id.toList.all isSpace then some (mediaInvalid "operation ID is required")
 else none

structure VideoRequest where
 operation : MediaOperation
 prompt : List UInt8
 durationSeconds : Int := 0
 size : List UInt8 := []
 resolution : List UInt8 := []
 aspectRatio : List UInt8 := []
deriving DecidableEq

def continuation (b : UInt8) : Bool := 0x80 ≤ b && b ≤ 0xBF

def runeSize : List UInt8 → Nat
 | [] => 0
 | b :: bs =>
  if b < 0x80 then 1
  else
   match bs with
   | [] => 0
   | c :: cs =>
    if 0xC2 ≤ b && b ≤ 0xDF then if continuation c then 2 else 0
    else if 0xE0 ≤ b && b ≤ 0xEF then if secondOf3 b c && cs.head?.any continuation then 3 else 0
    else if 0xF0 ≤ b && b ≤ 0xF4 then
     if secondOf4 b c && cs.head?.any continuation && cs.tail.head?.any continuation then 4
     else 0
    else 0
where
 secondOf3 (b c : UInt8) : Bool :=
  continuation c && (b ≠ 0xE0 || 0xA0 ≤ c) && (b ≠ 0xED || c ≤ 0x9F)
 secondOf4 (b c : UInt8) : Bool :=
  continuation c && (b ≠ 0xF0 || 0x90 ≤ c) && (b ≠ 0xF4 || c ≤ 0x8F)

def ascii (s : String) : List UInt8 := s.toList.map fun c => c.toNat.toUInt8

def hexDigit (n : UInt8) : UInt8 := if n < 10 then 0x30 + n else 0x57 + n

def escapeByte (b : UInt8) : List UInt8 :=
 if b = 0x22 || b = 0x5C then [0x5C, b]
 else if b = 0x08 then ascii "\\b"
 else if b = 0x0C then ascii "\\f"
 else if b = 0x0A then ascii "\\n"
 else if b = 0x0D then ascii "\\r"
 else if b = 0x09 then ascii "\\t"
 else if b < 0x20 || b = 0x3C || b = 0x3E || b = 0x26 then
  ascii "\\u00" ++ [hexDigit (b >>> 4), hexDigit (b &&& 0xF)]
 else [b]

def escapeRune (rune : List UInt8) : List UInt8 :=
 if rune = [0xE2, 0x80, 0xA8] then ascii "\\u2028"
 else if rune = [0xE2, 0x80, 0xA9] then ascii "\\u2029"
 else rune

/-- The inside of a JSON string; a byte that starts no UTF-8 sequence is replaced. -/
def escaped : Nat → List UInt8 → List UInt8
 | 0, _ => []
 | _, [] => []
 | n + 1, b :: bs =>
  if b < 0x80 then escapeByte b ++ escaped n bs
  else
   match runeSize (b :: bs) with
   | 0 => ascii "\\ufffd" ++ escaped n bs
   | size => escapeRune ((b :: bs).take size) ++ escaped n ((b :: bs).drop size)

def jsonBytes (s : List UInt8) : List UInt8 := ascii "\"" ++ escaped s.length s ++ ascii "\""

def jsonText (s : String) : List UInt8 := jsonBytes (s.toList.flatMap String.utf8EncodeChar)

def optionalField (name s : String) : List (List UInt8) :=
 if s = "" then [] else [ascii ("\"" ++ name ++ "\":") ++ jsonText s]

def jsonObject (fields : List (List UInt8)) : List UInt8 :=
 ascii "\x7b" ++ (fields.intersperse (ascii ",")).flatten ++ ascii "\x7d"

def operationBody (o : MediaOperation) : List UInt8 :=
 jsonObject ([ascii "\"id\":" ++ jsonText o.id,
  ascii "\"scope\":" ++ jsonObject (optionalField "namespace" o.scope.ns ++
   optionalField "owner_id" o.scope.ownerID)] ++
  optionalField "run_id" o.runID ++ optionalField "thread_id" o.threadID ++
  optionalField "workflow_id" o.workflowID ++ optionalField "tool_call_id" o.toolCallID)

/-- `json.Marshal` of a request. -/
def requestBody (r : VideoRequest) : List UInt8 :=
 jsonObject [ascii "\"Operation\":" ++ operationBody r.operation,
  ascii "\"Prompt\":" ++ jsonBytes r.prompt,
  ascii ("\"DurationSeconds\":" ++ toString r.durationSeconds),
  ascii "\"Size\":" ++ jsonBytes r.size,
  ascii "\"Resolution\":" ++ jsonBytes r.resolution,
  ascii "\"AspectRatio\":" ++ jsonBytes r.aspectRatio]

end Lebro.MediaRequests
