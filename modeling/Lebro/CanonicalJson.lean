import Lebro.AgentEffects
import Mathlib.Data.String.Basic

set_option autoImplicit false

namespace Lebro.CanonicalJson

open RuntimeTypes RuntimeRecords JsonCodec AgentEffects List

variable {calls:List ModelToolCall} {key:String} {fields:List (String × Json)}

abbrev Ordered (fields : List (String × Json)) : Prop := fields.Pairwise fun f g => f.1 < g.1

lemma mem_insertField {value f} (h:f ∈ insertField key value fields) :
  f=(key,value) ∨ f ∈ fields := by
 induction fields with
 | nil => exact .inl (mem_singleton.mp h)
 | cons g fields ih =>
  rw [insertField] at h
  split at h
  · exact mem_cons.mp h
  rcases mem_cons.mp h with rfl | h
  · exact .inr mem_cons_self
  · exact (ih h).imp_right (mem_cons_of_mem _)

lemma insertField_ordered (value:Json) (h:Ordered fields) (hnew:∀ f ∈ fields,f.1 ≠ key) :
  Ordered (insertField key value fields) := by
 induction fields with
 | nil => exact pairwise_singleton _ _
 | cons g fields ih =>
  obtain ⟨hfirst,htail⟩:=pairwise_cons.mp h
  rw [insertField]
  split
  · rename_i hlt
    refine pairwise_cons.mpr ⟨?_,h⟩
    intro f hf
    rcases mem_cons.mp hf with rfl | hf
    · exact hlt
    · exact hlt.trans (hfirst f hf)
  · rename_i hge
    have hlt:g.1 < key := lt_of_le_of_ne (not_lt.mp hge) (hnew g mem_cons_self)
    refine pairwise_cons.mpr ⟨?_,ih htail fun f hf=>hnew f (mem_cons_of_mem _ hf)⟩
    intro f hf
    rcases mem_insertField hf with rfl | hf
    · exact hlt
    · exact hfirst f hf

lemma not_any_key (h:(fields.any fun f=>f.1=key)=false) : ∀ f ∈ fields,f.1 ≠ key := by
 simpa using h

lemma decodeFields_ordered (number:String → Option String) (fields:List (String × Json)) :
  Ordered (decodeFields number fields) := by
 induction fields with
 | nil =>
  rw [decodeFields]
  exact List.Pairwise.nil
 | cons f fields ih =>
  obtain ⟨key,value⟩:=f
  rw [decodeFields]
  split
  · exact ih
  · rename_i hnew
    exact insertField_ordered _ ih (not_any_key (Bool.eq_false_iff.mpr hnew))

def Encoded (calls : List ModelToolCall) : Prop :=
 ∀ call ∈ calls, ModelToolCall.validate call = none ∧ canonicalJSON call.arguments = call.arguments

lemma checkToolCalls_none {i seen} :
  checkToolCalls i seen calls=none ↔
   (∀ call ∈ calls,ModelToolCall.validate call=none) ∧
    (calls.map ModelToolCall.id).Nodup ∧ ∀ call ∈ calls,call.id ∉ seen := by
 induction calls generalizing i seen with
 | nil => simp [checkToolCalls]
 | cons call calls ih =>
  rw [checkToolCalls]
  cases hvalid : ModelToolCall.validate call with
  | some e => simp [hvalid]
  | none =>
   dsimp only
   split
   · rename_i hseen
     simp [hseen]
   · rename_i hunseen
     rw [ih,map_cons,nodup_cons,mem_map]
     grind

lemma newModelToolCalls_of_encoded (h:Encoded calls)
  (hnodup:(calls.map ModelToolCall.id).Nodup) : newModelToolCalls calls = .ok calls := by
 have hcheck:checkToolCalls 0 [] calls=none :=
  checkToolCalls_none.mpr ⟨fun call hcall=>(h call hcall).1,hnodup,fun _ _=>not_mem_nil⟩
 have hmap:calls.map (fun call=>{ call with arguments := canonicalJSON call.arguments }) =
   calls.map id := by
  refine map_congr_left ?_
  intro call hcall
  rw [(h call hcall).2]
  rfl
 rw [newModelToolCalls,hcheck,hmap,map_id]

end Lebro.CanonicalJson
