import Lebro.RuntimeRecords
import Mathlib.Algebra.Group.Int.Defs

set_option autoImplicit false

/-! Number literals go through `number`, the text that is written for the nearest 64-bit float;
`none` when there is none. -/
namespace Lebro.JsonCodec

open RuntimeTypes RuntimeRecords

/-- Objects decoded into maps have one entry per key, and are encoded in key order. -/
def insertField (key : String) (value : Json) : List (String × Json) → List (String × Json)
 | [] => [(key, value)]
 | (k, v) :: fs => if key < k then (key, value) :: (k, v) :: fs else (k, v) :: insertField key value fs

mutual

/-- The value that decoding leaves in an `any`; a number out of range leaves nil. -/
def decodeAny (number : String → Option String) : Json → Json
 | .null => .null
 | .bool b => .bool b
 | .num literal => ((number literal).map Json.num).getD .null
 | .str s => .str s
 | .arr items => .arr (decodeItems number items)
 | .obj fields => .obj (decodeFields number fields)

def decodeItems (number : String → Option String) : List Json → List Json
 | [] => []
 | v :: vs => decodeAny number v :: decodeItems number vs

def decodeFields (number : String → Option String) : List (String × Json) → List (String × Json)
 | [] => []
 | (k, v) :: fs =>
  let rest := decodeFields number fs
  if rest.any fun f => f.1 = k then rest else insertField k (decodeAny number v) rest

end

/-! Fields of structs are found without regard to case; null leaves them as they are. -/

/-- Decoding into a string; null leaves it empty. -/
def decodeString : Json → Option String
 | .str s => some s
 | .null => some ""
 | _ => none

def decodeInt : Json → Option Int
 | .num literal => literal.toInt?.filter fun n => -2 ^ 63 ≤ n ∧ n < 2 ^ 63
 | .null => some 0
 | _ => none

def namedField (name : String) (fields : List (String × Json)) : Option Json :=
 (fields.reverse.find? fun f => f.1.toList.map Char.toLower = name.toList).map Prod.snd

mutual

def decodable (number : String → Option String) : Json → Bool
 | .num literal => (number literal).isSome
 | .arr items => itemsDecodable number items
 | .obj fields => fieldsDecodable number fields
 | _ => true

def itemsDecodable (number : String → Option String) : List Json → Bool
 | [] => true
 | v :: vs => decodable number v && itemsDecodable number vs

def fieldsDecodable (number : String → Option String) : List (String × Json) → Bool
 | [] => true
 | (_, v) :: fs => decodable number v && fieldsDecodable number fs

end

mutual

def jsonEq : Json → Json → Bool
 | .null, .null => true
 | .bool a, .bool b => a = b
 | .num a, .num b => a = b
 | .str a, .str b => a = b
 | .arr a, .arr b => itemsEq a b
 | .obj a, .obj b => fieldsEq a b
 | _, _ => false

def itemsEq : List Json → List Json → Bool
 | [], [] => true
 | v :: vs, w :: ws => jsonEq v w && itemsEq vs ws
 | _, _ => false

def fieldsEq : List (String × Json) → List (String × Json) → Bool
 | [], [] => true
 | (k, v) :: fs, (l, w) :: gs => (k = l) && jsonEq v w && fieldsEq fs gs
 | _, _ => false

end

mutual

lemma jsonEq_iff : (a b : Json) → (jsonEq a b=true ↔ a=b)
 | .null, b => by cases b <;> simp [jsonEq]
 | .bool x, b => by cases b <;> simp [jsonEq]
 | .num x, b => by cases b <;> simp [jsonEq]
 | .str x, b => by cases b <;> simp [jsonEq]
 | .arr xs, b => by
  cases b with
  | arr ys => simp [jsonEq,itemsEq_iff xs ys]
  | _ => simp [jsonEq]
 | .obj fs, b => by
  cases b with
  | obj gs => simp [jsonEq,fieldsEq_iff fs gs]
  | _ => simp [jsonEq]

lemma itemsEq_iff : (a b : List Json) → (itemsEq a b=true ↔ a=b)
 | [], b => by cases b <;> simp [itemsEq]
 | v :: vs, b => by
  cases b with
  | nil => simp [itemsEq]
  | cons w ws => simp [itemsEq,jsonEq_iff v w,itemsEq_iff vs ws]

lemma fieldsEq_iff : (a b : List (String × Json)) → (fieldsEq a b=true ↔ a=b)
 | [], b => by cases b <;> simp [fieldsEq]
 | (k,v) :: fs, b => by
  cases b with
  | nil => simp [fieldsEq]
  | cons g gs =>
   obtain ⟨l,w⟩ := g
   simp [fieldsEq,jsonEq_iff v w,fieldsEq_iff fs gs]

end

instance : DecidableEq Json := fun a b => decidable_of_iff _ (jsonEq_iff a b)

def rawJSONEqual (number : String → Option String) : RawMessage → RawMessage → Bool
 | .json a, .json b =>
  decodable number a && decodable number b && jsonEq (decodeAny number a) (decodeAny number b)
 | .empty, .empty => true
 | _, _ => false

def encodeElement : RawMessage → Option Json
 | .json v => some v
 | .empty => some .null
 | .malformed _ => none

def encodeElements : List RawMessage → Option (List Json)
 | [] => some []
 | r :: rs =>
  match encodeElement r, encodeElements rs with
  | some v, some vs => some (v :: vs)
  | _, _ => none

def errMarshal : Err := .new "json: error calling MarshalJSON for type json.RawMessage"

/-- The raw messages of an envelope other than its list of outputs; they are omitted when empty. -/
def envelopeStorable (env : WorkflowSnapshotEnvelope) : Bool :=
 env.output.storable &&
  env.suspend.all (fun s => s.contract.storable && s.payload.storable) &&
  env.fanOut.all (fun j => j.branches.all fun b => b.output.storable) &&
  env.forEach.all (fun f => f.items.all fun i => i.output.storable) &&
  env.loops.all fun l => l.output.storable

def encodeEnvelope (env : WorkflowSnapshotEnvelope) : Except Err WorkflowSnapshotEnvelope :=
 match encodeElements env.outputs with
 | none => .error errMarshal
 | some vs =>
  if envelopeStorable env then .ok { env with outputs := vs.map RawMessage.json }
  else .error errMarshal

lemma encodeElements_isSome (outputs : List RawMessage) :
  (encodeElements outputs).isSome=outputs.all RawMessage.storable := by
 induction outputs with
 | nil => rfl
 | cons r rs ih =>
  rw [encodeElements,List.all_cons,← ih]
  cases r with
  | malformed text => rfl
  | empty | json v => cases encodeElements rs <;> rfl

lemma encodeEnvelope_eq_ok {env state} (h : encodeEnvelope env = .ok state) :
  env.outputs.all RawMessage.storable=true ∧ envelopeStorable env=true ∧
   ∃ values : List Json,state = { env with outputs := values.map RawMessage.json } := by
 unfold encodeEnvelope at h
 cases hv : encodeElements env.outputs with
 | none =>
  rw [hv] at h
  cases h
 | some values =>
  rw [hv] at h
  dsimp only at h
  split at h
  · rename_i hstorable
    cases h
    refine ⟨?_,hstorable,values,rfl⟩
    rw [← encodeElements_isSome,hv]
    rfl
  · cases h

end Lebro.JsonCodec
