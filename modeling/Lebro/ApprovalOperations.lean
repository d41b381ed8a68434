import Lebro.AgentApprovals
import Lebro.AgentOperations

set_option autoImplicit false


namespace Lebro.ApprovalOperations

open EffectProgram EffectRuns RuntimeTypes RuntimeRecords AgentEffects AgentLoop AgentApprovals
open AgentOperations

variable {P : AgentOp → Prop} (hplain : ∀ o, Plain o → P o) (hruntime : ∀ o, P (.runtime o))

include hruntime

lemma asks_scanApprovals {a runID n cursor best} :
  Asks P (scanApprovals a runID n cursor best) := by
 induction n generalizing cursor best with
 | zero => exact asks_ask (hruntime _) fun r => Empty.elim r
 | succ n ih =>
  apply asks_perform (hruntime _)
  intro page
  cases page with
  | error e => exact asks_ret
  | ok page =>
   dsimp only
   split
   · exact asks_ret
   · exact ih

lemma asks_loadToolApproval {a runID} : Asks P (loadToolApproval a runID) := by
 unfold loadToolApproval
 split
 · exact asks_ret
 apply asks_perform (hruntime _)
 intro run
 cases run with
 | error e => exact asks_ret
 | ok run =>
  dsimp only
  split
  · exact asks_ret
  apply asks_bind (asks_scanApprovals hruntime)
  intro found
  split <;> exact asks_ret

lemma asks_transitionAttempts {a runID requestID decision status next failure n}
  {state} : Asks P (transitionAttempts a runID requestID decision status next failure n state) := by
 induction n generalizing state with
 | zero => exact asks_ret
 | succ n ih =>
  apply asks_perform (hruntime _)
  intro now
  apply asks_perform (hruntime _)
  intro committed
  cases committed with
  | ok _ => exact asks_ret
  | error e =>
   dsimp only
   split
   · exact asks_ret
   apply asks_bind (asks_loadToolApproval hruntime)
   intro loaded
   cases loaded with
   | error e => exact asks_ret
   | ok loaded =>
    dsimp only
    split
    · exact asks_ret
    · exact ih

lemma asks_persistApprovalRunTerminal {a state out} :
  Asks P (persistApprovalRunTerminal a state out) := by
 unfold persistApprovalRunTerminal
 split
 · exact asks_ret
 · exact asks_perform (hruntime _) fun _ => asks_perform (hruntime _) fun _ => asks_ret

include hplain

lemma asks_endApprovalResume (a state) (type : RunEventType) (reported out) :
  Asks P (endApprovalResume a state type reported out) := by
 apply asks_perform (hruntime _)
 intro _
 apply asks_bind (asks_flushDiagnostics hplain)
 intro _
 exact asks_bind (asks_persistApprovalRunTerminal hruntime) fun _ => asks_ret

lemma asks_suspendAgain {a state i transcript call resolution}
  (hsequence : P .emitterSequence) :
  Asks P (suspendAgain a state i transcript call resolution) := by
 apply asks_perform (hruntime _)
 intro now
 apply asks_perform hsequence
 intro sequence
 refine asks_bind (asks_persistToolApproval hplain fun _ _ => hruntime _) ?_
 intro persisted
 cases persisted with
 | error e => exact asks_ret
 | ok _ =>
  apply asks_perform (hruntime _)
  intro _
  exact asks_bind (asks_flushDiagnostics hplain) fun _ => asks_ret

lemma asks_rejectToolApproval {a state decision kind next}
  (hresume : ∀ sequence, P (.resumeEmitter sequence)) :
  Asks P (rejectToolApproval a state decision kind next) := by
 apply asks_bind (asks_transitionAttempts hruntime)
 intro committed
 cases committed with
 | error e => exact asks_ret
 | ok _ =>
  apply asks_perform (hresume _)
  intro _
  apply asks_perform (hruntime _)
  intro _
  exact asks_bind (asks_flushDiagnostics hplain) fun _ => asks_ret

end Lebro.ApprovalOperations
