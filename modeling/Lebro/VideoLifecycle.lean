import Lebro.EffectPool
import Lebro.EffectAnswers
import Lebro.VideoJobs

set_option autoImplicit false

namespace Lebro.VideoLifecycle

open EffectProgram EffectRuns EffectPool EffectAnswers RuntimeTypes MemoryStore MediaRequests
open VideoJobs

def rank : MediaJobState → Nat
 | .submitting | .other _ => 0
 | .contacting => 1
 | .ambiguous => 2
 | .queued => 3
 | .running => 4
 | .succeeded | .failed | .cancelled | .expired => 5

/-- Answers that say that a job is queued, is running, or has ended. -/
def Steady : (o : VideoOp) → o.Reply → Prop
 | .submitVideo _, .ok j => 3 ≤ rank j.state
 | .getVideo _, .ok j => 3 ≤ rank j.state
 | _, _ => True

/-- What a later state of a job keeps of an earlier one; the order of the states is kept when the
provider's answers are steady. -/
structure Forward (steady : Prop) (j i : VideoJob) : Prop where
 revision : i = j ∨ j.revision < i.revision
 requestHash : i.requestHash = j.requestHash
 createdAt : i.createdAt = j.createdAt
 providerJobID : j.providerJobID ≠ "" → i.providerJobID = j.providerJobID
 terminal : j.state.terminal = true → i = j
 state : steady → rank j.state ≤ rank i.state

variable {steady:Prop} {j job answer:VideoJob} {s m u:JobStore} {k:JobKey}
 {r:VideoRequest}

lemma Forward.refl (j) : Forward steady j j :=
 ⟨.inl rfl,rfl,rfl,fun _=>rfl,fun _=>rfl,fun _=>Nat.le_refl _⟩

lemma Forward.trans {i l:VideoJob} (h:Forward steady j i) (h':Forward steady i l) :
  Forward steady j l where
 revision := by
  rcases h'.revision with rfl | hlt
  · exact h.revision
  · rcases h.revision with rfl | hlt'
    · exact .inr hlt
    · exact .inr (Int.lt_trans hlt' hlt)
 requestHash := h'.requestHash.trans h.requestHash
 createdAt := h'.createdAt.trans h.createdAt
 providerJobID hj := by
  have hi:=h.providerJobID hj
  exact (h'.providerJobID (hi ▸ hj)).trans hi
 terminal hj := by
  obtain rfl := h.terminal hj
  exact h'.terminal hj
 state hsteady := Nat.le_trans (h.state hsteady) (h'.state hsteady)

def Later (steady : Prop) (s u : JobStore) : Prop :=
 ∀ k j, s.jobs k = some j → ∃ i, u.jobs k = some i ∧ Forward steady j i

lemma Later.refl (s) : Later steady s s := fun _ j hj=>⟨j,hj,.refl j⟩

lemma Later.trans (h:Later steady s m) (h':Later steady m u) : Later steady s u := by
 intro k j hj
 obtain ⟨i,hi,hji⟩:=h k j hj
 obtain ⟨l,hl,hil⟩:=h' k i hi
 exact ⟨l,hl,hji.trans hil⟩

def unsubmitted (j : VideoJob) : Bool := j.state = .submitting && j.providerJobID = ""

def marker (j : VideoJob) : Bool := j.state = .contacting && j.providerJobID = ""

/-- A write reserves a job or moves one forward; only a reservation is marked, and no job becomes a
reservation again. -/
def Moves (steady : Prop) (old : Option VideoJob) (j : VideoJob) : Prop :=
 match old with
 | none => unsubmitted j = true
 | some old => Forward steady old j ∧ unsubmitted j = false ∧
   (marker j = true → unsubmitted old = true)

def Reserved (digest : List UInt8 → String) (s : JobStore) (r : VideoRequest) : Prop :=
 ∃ j, s.jobs r.operation.key = some j ∧ j.requestHash = digest (requestBody r)

/-- The steps of a call: its writes move jobs, and it submits what its operation has reserved. -/
def Sound (steady : Prop) (digest : List UInt8 → String) (s : JobStore) :
  (o : VideoOp) → o.Reply → JobStore → Prop
 | .saveVideoJob j _, .ok _, _ => Moves steady (s.jobs j.key) j
 | .submitVideo r, _, _ => Reserved digest s r
 | _, _, _ => True

def Fair (steady : Prop) (o : VideoOp) (r : o.Reply) : Prop := steady → Steady o r

def world (steady : Prop) : Monitor VideoSig JobStore :=
 guarded videoWorld fun _ o r _ => Fair steady o r

variable {ps:List (VideoProg VideoOutcome)}

lemma run_fair {qs es} (h:PoolRun videoWorld s ps es u qs)
  (hes:∀ e ∈ es,Fair steady e.2.1 e.2.2) : PoolRun (world steady) s ps es u qs :=
 h.of_forall_mem hes

lemma saveVideoJob_eq_ok {expected} (h:saveVideoJob s j expected = .ok u) :
  expects (s.jobs j.key) expected=true ∧ j.revision=expected+1 ∧ ∃ hj,u=s.put j hj := by
 unfold saveVideoJob at h
 split at h
 · cases h
 rename_i hvalid
 split at h
 · rename_i hj
   cases h
   refine ⟨hj.2,?_,hj.1,rfl⟩
   unfold validateVideoRecord at hvalid
   split at hvalid
   · cases hvalid
   split at hvalid
   · cases hvalid
   · omega
 · cases h

lemma put_self (s:JobStore) (j:VideoJob) (hj:0 < j.revision) :
  (s.put j hj).jobs j.key=some j := if_pos rfl
lemma put_ne {hj : 0 < j.revision} (hk : k ≠ j.key) : (s.put j hj).jobs k=s.jobs k := if_neg hk

variable {o:VideoOp}

lemma later_of_sound {digest r} (h:(world steady).step s o r u)
  (hsound:Sound steady digest s o r u) : Later steady s u :=
  by
 have hstep:videoStep s o r u:=h.1
 cases o with
 | saveVideoJob j expected =>
  cases r with
  | error e =>
   obtain rfl : u=s := hstep
   exact .refl u
  | ok _ =>
   obtain ⟨-,-,hj,rfl⟩:=saveVideoJob_eq_ok hstep
   intro k i hi
   by_cases hk : k=j.key
   · subst hk
     have hmoves:Moves steady (s.jobs j.key) j:=hsound
     rw [hi] at hmoves
     exact ⟨j,put_self s j hj,hmoves.1⟩
   · exact ⟨i,(put_ne hk).trans hi,.refl i⟩
 | getVideoJob scope id =>
  have hu:u=s:=by cases r <;> exact hstep.1
  exact hu ▸ .refl u
 | _ =>
  obtain rfl : u=s := hstep
  exact .refl u

variable {β:Type}

section

variable {digest:List UInt8 → String}

abbrev among (steady : Prop) (digest : List UInt8 → String) : Monitor VideoSig JobStore :=
 relying (world steady) (Later steady) (Sound steady digest)

variable {Q:VideoOutcome → JobStore → Prop}

def Outside : VideoOp → Prop
 | .getVideoJob _ _ | .saveVideoJob _ _ | .submitVideo _ => False
 | _ => True

lemma wp_outside {f:o.Reply → VideoProg β} {Q} (ho:Outside o)
  (h:∀ r m,Later steady s m → (steady → Steady o r) → wp (among steady digest) (f r) Q m) :
  wp (among steady digest) (videoOp o >>= f) Q s := by
 refine ⟨?_,?_⟩
 · intro m r u _ _
   cases o with
   | getVideoJob | saveVideoJob | submitVideo => exact ho.elim
   | _ => trivial
 · rintro r u ⟨m,hm,hstep,hsteady⟩
   have hu:u=m:=by
    cases o with
    | getVideoJob | saveVideoJob | submitVideo => exact ho.elim
    | _ => exact hstep
   subst hu
   exact h r u hm hsteady

lemma wp_load {o:MediaOperation} {f:Except MediaErr VideoJob → VideoProg β} {Q}
  (herror:∀ e m,Later steady s m → wp (among steady digest) (f (.error e)) Q m)
  (hok:∀ j m,Later steady s m → m.jobs o.key=some j →
   wp (among steady digest) (f (.ok j)) Q m) :
  wp (among steady digest) (load o >>= f) Q s := by
 refine ⟨fun _ _ _ _ _=>trivial,?_⟩
 rintro r u ⟨m,hm,hstep,-⟩
 cases r with
 | error e =>
  obtain ⟨rfl,-⟩:=hstep
  exact herror e u hm
 | ok j =>
  obtain ⟨rfl,hj⟩:=hstep
  exact hok j u hm hj

variable {f:Except MediaErr Unit → VideoProg β}

lemma wp_save {expected Q}
  (hmoves:∀ m,Later steady s m → expects (m.jobs j.key) expected=true →
   Moves steady (m.jobs j.key) j)
  (herror:∀ e m,Later steady s m → wp (among steady digest) (f (.error e)) Q m)
  (hok:∀ u,u.jobs j.key=some j → wp (among steady digest) (f (.ok ())) Q u) :
  wp (among steady digest) (videoOp (.saveVideoJob j expected) >>= f) Q s := by
 refine ⟨?_,?_⟩
 · rintro m r u hm ⟨hstep,-⟩
   cases r with
   | error e => trivial
   | ok _ => exact hmoves m hm (saveVideoJob_eq_ok hstep).1
 · rintro r u ⟨m,hm,hstep,-⟩
   cases r with
   | error e =>
    obtain rfl : u=m := hstep
    exact herror e u hm
   | ok _ =>
    obtain ⟨-,-,hj,rfl⟩:=saveVideoJob_eq_ok hstep
    exact hok _ (put_self m j hj)

def Known (steady : Prop) (s : JobStore) (j : VideoJob) : Prop :=
 ∃ i, s.jobs j.key = some i ∧ Forward steady j i

lemma Known.of_stored (hj:s.jobs k=some j) : Known steady s j :=
 ⟨j,by rw [s.keyed k j hj,hj],.refl j⟩

lemma Known.later (hj:Known steady s j) (h:Later steady s m) : Known steady m j := by
 obtain ⟨i,hi,hji⟩:=hj
 obtain ⟨l,hl,hil⟩:=h _ i hi
 exact ⟨l,hl,hji.trans hil⟩

lemma Known.current (hj:Known steady s j)
  (hexpects:expects (s.jobs j.key) j.revision=true) : s.jobs j.key=some j := by
 obtain ⟨i,hi,hji⟩:=hj
 rw [hi] at hexpects ⊢
 simp only [expects,Bool.and_eq_true,decide_eq_true_eq] at hexpects
 rcases hji.revision with rfl | hlt
 · rfl
 · omega

lemma Known.reserved (hj:Known steady s j) (hkey:j.key=r.operation.key)
  (hhash:j.requestHash=digest (requestBody r)) : Reserved digest s r := by
 obtain ⟨i,hi,hji⟩:=hj
 exact ⟨i,hkey ▸ hi,hji.requestHash.trans hhash⟩

lemma Reserved.later (hr:Reserved digest s r) (h:Later steady s m) : Reserved digest m r := by
 obtain ⟨j,hj,hhash⟩:=hr
 obtain ⟨i,hi,hji⟩:=h _ j hj
 exact ⟨i,hi,hji.requestHash.trans hhash⟩

def Accepted (digest : List UInt8 → String) (r : VideoRequest) (out : VideoOutcome)
  (u : JobStore) : Prop :=
 out.error = none → Reserved digest u r

lemma accepted_same (hjob:s.jobs r.operation.key=some job) :
  Accepted digest r (sameVideoRequest job (digest (requestBody r))) s := by
 intro herror
 unfold sameVideoRequest at herror
 split at herror
 · cases herror
 · rename_i hhash
   exact ⟨job,hjob,not_not.mp hhash⟩

variable {marked:VideoJob}

lemma moves_settled {answer now} (hmarked:marker marked=true)
  (hsteady:steady → ∀ j,answer = .ok j → 3 ≤ rank j.state) :
  Moves steady (some marked) (settledJob marked r answer now) := by
 obtain ⟨hstate,hid⟩ : marked.state = .contacting ∧ marked.providerJobID = "" := by
  simpa [marker] using hmarked
 have hrank:rank marked.state=1:=by rw [hstate]; rfl
 have hopen:marked.state.terminal=true → False:=by rw [hstate]; exact fun h=>by cases h
 cases answer with
 | error e =>
  have hjob:∀ b : Bool,(if b then MediaJobState.failed else .ambiguous) ≠ .submitting ∧
    (if b then MediaJobState.failed else .ambiguous) ≠ .contacting ∧
    1 ≤ rank (if b then MediaJobState.failed else .ambiguous) := by decide
  obtain ⟨hsubmitting,hcontacting,hle⟩:=hjob (definite e.kind)
  refine ⟨⟨.inr (Int.lt_succ _),rfl,rfl,fun h=>absurd hid h,fun h=>(hopen h).elim,
   fun _=>hrank ▸ hle⟩,?_,?_⟩
  · simp [unsubmitted,settledJob,answeredJob,hsubmitting]
  · intro h
    simp [marker,settledJob,answeredJob,hcontacting] at h
 | ok received =>
  refine ⟨⟨.inr (Int.lt_succ _),rfl,rfl,fun h=>absurd hid h,fun h=>(hopen h).elim,?_⟩,
   ?_,?_⟩
  · intro h
    have hreceived:=hsteady h received rfl
    rw [hrank]
    dsimp only [settledJob,answeredJob]
    split
    · decide
    · omega
  · by_cases hempty : received.providerJobID = "" <;>
     simp [unsubmitted,settledJob,answeredJob,hempty]
  · intro h
    by_cases hempty : received.providerJobID = "" <;>
     simp [marker,settledJob,answeredJob,hempty] at h

lemma wp_recordEnded {error} (hjob:Reserved digest s r) :
  wp (among steady digest) (recordEnded job error) (Accepted digest r) s := by
 unfold recordEnded
 split
 · refine wp_outside trivial ?_
   intro _ m hm _ _
   exact hjob.later hm
 · exact fun _=>hjob

lemma settledJob_key (hkey:marked.key=r.operation.key) (answer now) :
  (settledJob marked r answer now).key=marked.key := by
 cases answer with
 | error e => rfl
 | ok received => exact hkey.symm

lemma settledJob_requestHash (marked r answer now) :
  (settledJob marked r answer now).requestHash=marked.requestHash := by
 cases answer <;> rfl

lemma wp_settle {answer} (hmarked:marker marked=true) (hkey:marked.key=r.operation.key)
  (hhash:marked.requestHash=digest (requestBody r)) (hknown:Known steady s marked)
  (hsteady:steady → ∀ j,answer = .ok j → 3 ≤ rank j.state) :
  wp (among steady digest) (settle marked r answer) (Accepted digest r) s := by
 refine wp_outside trivial ?_
 intro now m hm _
 have hsettled:=settledJob_key hkey answer now
 refine wp_save ?_ ?_ ?_
 · intro v hv hexpects
   rw [hsettled] at hexpects ⊢
   rw [(hknown.later (hm.trans hv)).current hexpects]
   exact moves_settled hmarked hsteady
 · intro e v _ herror
   cases herror
 · intro u hu
   rw [hsettled,hkey] at hu
   exact wp_recordEnded ⟨_,hu,(settledJob_requestHash marked r answer now).trans hhash⟩

lemma wp_contacted {e} (hkey:job.key=r.operation.key)
  (hhash:job.requestHash=digest (requestBody r)) :
  wp (among steady digest) (contacted job e) (Accepted digest r) s := by
 unfold contacted
 split
 · refine wp_load (fun e m _ h=>by cases h) ?_
   intro current m _ hcurrent
   rw [hhash]
   exact accepted_same (hkey ▸ hcurrent)
 · exact fun h=>by cases h

lemma wp_contact {reserved} (hreserved:unsubmitted reserved=true)
  (hkey:reserved.key=r.operation.key) (hhash:reserved.requestHash=digest (requestBody r))
  (hknown:Known steady s reserved) :
  wp (among steady digest) (contact reserved r) (Accepted digest r) s := by
 refine wp_outside trivial ?_
 intro now m hm _
 obtain ⟨hstate,hid⟩ : reserved.state = .submitting ∧ reserved.providerJobID = "" := by
  simpa [unsubmitted] using hreserved
 refine wp_save ?_ ?_ ?_
 · intro v hv hexpects
   have hcurrent:v.jobs (markedJob reserved now).key=some reserved:=
    (hknown.later (hm.trans hv)).current hexpects
   rw [hcurrent]
   refine ⟨⟨.inr (Int.lt_succ _),rfl,rfl,fun h=>absurd hid h,?_,?_⟩,?_,fun _=>hreserved⟩
   · rw [hstate]
     exact fun h=>by cases h
   · rw [hstate]
     exact fun _=>Nat.zero_le _
   · simp [unsubmitted,markedJob]
 · intro e v _
   exact wp_contacted hkey hhash
 · intro u hu
   have hmarked:Known steady u (markedJob reserved now):=.of_stored hu
   refine ⟨?_,?_⟩
   · intro v _ w hv _
     exact (hmarked.later hv).reserved hkey hhash
   · rintro answer w ⟨v,hv,hstep,hsteady⟩
     obtain rfl : w=v := hstep
     refine wp_settle (by simp [marker,markedJob,hid]) hkey hhash (hmarked.later hv) ?_
     rintro h j rfl
     exact hsteady h

lemma wp_resubmit (hjob:s.jobs r.operation.key=some job) :
  wp (among steady digest) (resubmit job (digest (requestBody r)) r) (Accepted digest r) s := by
 unfold resubmit
 split
 · rename_i hresumable
   obtain ⟨⟨hhash,hstate⟩,hid⟩ : (job.requestHash=digest (requestBody r) ∧
     job.state = .submitting) ∧ job.providerJobID = "" := by
    simpa [resumableReservation] using hresumable
   exact wp_contact (by simp [unsubmitted,hstate,hid]) (s.keyed _ _ hjob) hhash (.of_stored hjob)
 · exact accepted_same hjob

lemma wp_reserve {r} :
  wp (among steady digest) (reserve r (digest (requestBody r))) (Accepted digest r) s := by
 refine wp_outside trivial ?_
 intro now m hm _
 refine wp_save ?_ ?_ ?_
 · intro v _ hexpects
   cases hold : v.jobs (reservation r (digest (requestBody r)) now).key with
   | none => simp [Moves,unsubmitted,reservation]
   | some old =>
    have hpositive:=v.positive _ _ hold
    rw [hold] at hexpects
    simp only [expects,Bool.and_eq_true,decide_eq_true_eq] at hexpects
    omega
 · intro e v _
   dsimp only
   split
   · refine wp_load (fun e m _ h=>by cases h) ?_
     intro old w _ hold
     exact wp_resubmit hold
   · exact fun h=>by cases h
 · intro u hu
   exact wp_contact (by simp [unsubmitted,reservation]) rfl rfl (.of_stored hu)

lemma wp_check {o action} :
  wp (among steady digest) (check o action) (fun _ u=>Later steady s u) s := by
 refine wp_outside trivial ?_
 intro ended m hm _
 cases ended with
 | some e => exact hm
 | none =>
  dsimp only
  split
  · exact hm
  refine wp_outside trivial ?_
  intro scope v hv _
  split
  · exact hm.trans hv
  refine wp_outside (o := .authorize action o) (f := .ret) trivial ?_
  intro _ w hw _
  exact (hm.trans hv).trans hw

lemma wp_submit {r} : wp (among steady digest) (submit digest r) (Accepted digest r) s := by
 apply wp_seq wp_check
 intro denial m _
 cases denial with
 | some e => exact fun h=>by cases h
 | none =>
  refine wp_load ?_ ?_
  · intro e v _
    dsimp only [submitLoaded]
    split
    · exact wp_reserve
    · exact fun h=>by cases h
  · intro old v _ hold
    exact wp_resubmit hold

lemma moves_observed {now} (hid:job.providerJobID ≠ "") (hopen:job.state.terminal=false)
  (hsame:sameIdentity job answer=true) (hstate:steady → rank job.state ≤ rank answer.state) :
  Moves steady (some job) (observed job answer now) := by
 obtain ⟨⟨hanswer,-⟩,-⟩ : (answer.providerJobID=job.providerJobID ∧
   answer.info.provider=job.info.provider) ∧ answer.info.model=job.info.model := by
  simpa [sameIdentity] using hsame
 have hset:answer.providerJobID ≠ "":=hanswer ▸ hid
 refine ⟨⟨.inr (Int.lt_succ _),rfl,rfl,fun _=>hanswer,?_,hstate⟩,?_,?_⟩
 · intro h
   rw [hopen] at h
   cases h
 · simp [unsubmitted,observed,hset]
 · simp [marker,observed,hset]

lemma wp_observed {now} (hid:job.providerJobID ≠ "") (hopen:job.state.terminal=false)
  (hsame:sameIdentity job answer=true) (hstate:steady → rank job.state ≤ rank answer.state)
  (hknown:Known steady s job) (hf:∀ r m,wp (among steady digest) (f r) (fun _ _=>True) m) :
  wp (among steady digest) (videoOp (.saveVideoJob (observed job answer now) job.revision) >>= f)
   (fun _ _=>True) s := by
 refine wp_save ?_ (fun e m _=>hf _ m) fun u _=>hf _ u
 intro m hm hexpects
 have hcurrent:m.jobs (observed job answer now).key=some job:=
  (hknown.later hm).current hexpects
 rw [hcurrent]
 exact moves_observed hid hopen hsame hstate

lemma wp_reload {o} : wp (among steady digest) (reload o) (fun _ _=>True) s :=
 wp_load (fun _ _ _=>trivial) fun _ _ _ _=>trivial

lemma rank_le_answer (hopen:job.state.terminal=false) (hanswer:3 ≤ rank answer.state)
  (hregress:¬ (job.state = .running ∧ answer.state = .queued)) :
  rank job.state ≤ rank answer.state := by
 generalize job.state=a at *
 generalize answer.state=b at *
 cases a <;> cases b <;> simp_all [rank,MediaJobState.terminal]

lemma wp_refresh {o} (hid:job.providerJobID ≠ "") (hopen:job.state.terminal=false)
  (hknown:Known steady s job) : wp (among steady digest) (refresh o job) (fun _ _=>True) s := by
 refine wp_outside trivial ?_
 intro answer m hm hsteady
 cases answer with
 | error e => trivial
 | ok answer =>
  dsimp only
  split
  · trivial
  rename_i hsame
  split
  · trivial
  rename_i hregress
  refine wp_outside trivial ?_
  intro now v hv _
  refine wp_observed hid hopen (not_not.mp hsame)
   (fun h=>rank_le_answer hopen (hsteady h) hregress) (hknown.later (hm.trans hv)) ?_
  intro r w
  cases r with
  | error e =>
   dsimp only
   split
   · exact wp_reload
   · trivial
  | ok _ =>
   dsimp only
   split
   · exact wp_outside trivial fun _ _ _ _=>trivial
   · trivial

lemma wp_get {o} : wp (among steady digest) (get o) (fun _ _=>True) s := by
 refine wp_seq wp_check ?_
 intro denial m _
 cases denial with
 | some e => trivial
 | none =>
  refine wp_load (fun _ _ _=>trivial) ?_
  intro job v _ hjob
  dsimp only [getLoaded]
  split
  · exact wp_outside trivial fun _ _ _ _=>trivial
  rename_i hopen
  split
  · trivial
  · rename_i hid
    exact wp_refresh hid (Bool.eq_false_iff.mpr hopen) (.of_stored hjob)

lemma wp_cancelRemote {o} (hid:job.providerJobID ≠ "") (hopen:job.state.terminal=false)
  (hknown:Known steady s job) :
  wp (among steady digest) (cancelRemote o job) (fun _ _=>True) s := by
 refine wp_outside trivial ?_
 intro answer m hm _
 cases answer with
 | error e => trivial
 | ok answer =>
  dsimp only
  split
  · trivial
  rename_i hsame
  split
  · trivial
  rename_i hconfirmed
  have hended:rank answer.state=5:=by
   by_cases hcancelled : answer.state = .cancelled
   · rw [hcancelled]
     rfl
   · rw [not_not.mp fun h=>hconfirmed ⟨hcancelled,h⟩]
     rfl
  have hle:rank job.state ≤ 5:=by cases job.state <;> simp [rank]
  refine wp_outside trivial ?_
  intro now v hv _
  refine wp_observed hid hopen (not_not.mp hsame) (fun _=>hended ▸ hle)
   (hknown.later (hm.trans hv)) ?_
  intro r w
  cases r with
  | error e =>
   dsimp only
   split
   · exact wp_reload
   · trivial
  | ok _ => trivial

lemma wp_cancel {supported o} :
  wp (among steady digest) (cancel supported o) (fun _ _=>True) s := by
 refine wp_seq wp_check ?_
 intro denial m _
 cases denial with
 | some e => trivial
 | none =>
  dsimp only
  split
  · trivial
  refine wp_load (fun _ _ _=>trivial) ?_
  intro job v _ hjob
  dsimp only [cancelLoaded]
  split
  · trivial
  rename_i hopen
  split
  · trivial
  rename_i hid
  exact wp_cancelRemote (fun h=>hid (.inl h)) (Bool.eq_false_iff.mpr hopen)
   (.of_stored hjob)

def CallPost (digest : List UInt8 → String) (call : Option VideoCall) (out : VideoOutcome)
  (u : JobStore) : Prop :=
 match call with
 | some (.submit r) => Accepted digest r out u
 | _ => True

lemma wp_call {call} :
  wp (among steady digest) (call.prog digest) (CallPost digest (some call)) s := by
 cases call with
 | submit r => exact wp_submit
 | get o => exact wp_get
 | cancel supported o => exact wp_cancel

end

section

variable {digest:List UInt8 → String} {calls:List VideoCall}
 {es:List (PoolEvent VideoSig)} {qs:List (VideoProg VideoOutcome)}

lemma calls_guarantee (h:PoolRun (world steady) s (calls.map (VideoCall.prog digest)) es u qs) :
  PoolRun (guarded (world steady) (Sound steady digest)) s (calls.map (VideoCall.prog digest)) es
    u qs ∧ Later steady s u ∧
   ∀ (i:Nat) q,qs[i]? = some q →
    ∃ v,Later steady v u ∧ wp (among steady digest) q (CallPost digest calls[i]?) v := by
 apply h.guarantees Later.refl (fun _ _ _=>Later.trans) (fun _ _ _ _=>later_of_sound)
 intro i p hp
 rw [List.getElem?_map] at hp
 cases hcall : calls[i]? with
 | none =>
  rw [hcall] at hp
  cases hp
 | some call =>
  rw [hcall] at hp
  cases hp
  exact ⟨s,.refl s,wp_call⟩

def submits (k : JobKey) : VideoOp → Bool
 | .submitVideo r => r.operation.key = k
 | _ => false

def marks (k : JobKey) : Event VideoSig → Bool
 | ⟨.saveVideoJob j _, .ok _⟩ => j.key = k && marker j
 | _ => false

def Spent (s : JobStore) (k : JobKey) : Prop := ∃ j, s.jobs k = some j ∧ unsubmitted j = false

lemma marks_eq_true {r} (h:marks k ⟨o,r⟩ = true) :
  ∃ j expected,o = .saveVideoJob j expected ∧ HEq r (.ok () : Except MediaErr Unit) ∧
   j.key=k ∧ marker j=true := by
 cases o with
 | saveVideoJob j expected =>
  cases r with
  | error e => cases h
  | ok _ =>
   obtain ⟨hkey,hmarker⟩ : j.key=k ∧ marker j=true := by simpa [marks] using h
   exact ⟨j,expected,rfl,.rfl,hkey,hmarker⟩
 | _ => cases h

lemma Sound.marks {r} (hstep:(world steady).step s o r m) (hsound:Sound steady digest s o r m)
  (h:marks k ⟨o,r⟩ = true) : ¬ Spent s k ∧ Spent m k := by
 obtain ⟨j,expected,rfl,hr,rfl,hmarker⟩:=marks_eq_true h
 cases hr
 obtain ⟨hexpects,hrevision,hj,rfl⟩:=saveVideoJob_eq_ok hstep.1
 have hmoves:Moves steady (s.jobs j.key) j:=hsound
 obtain ⟨hstate,hid⟩ : j.state = .contacting ∧ j.providerJobID = "" := by
  simpa [marker] using hmarker
 refine ⟨?_,j,put_self s j hj,by simp [unsubmitted,hstate]⟩
 rintro ⟨old,hold,hspent⟩
 rw [hold] at hmoves
 rw [hmoves.2.2 hmarker] at hspent
 cases hspent

lemma Sound.spent {r} (hstep:(world steady).step s o r m) (hsound:Sound steady digest s o r m)
  (h:Spent s k) : Spent m k := by
 obtain ⟨old,hold,hspent⟩:=h
 have hvideo:videoStep s o r m:=hstep.1
 cases o with
 | saveVideoJob j expected =>
  cases r with
  | error e => exact (show m=s from hvideo) ▸ ⟨old,hold,hspent⟩
  | ok _ =>
   obtain ⟨-,-,hj,rfl⟩:=saveVideoJob_eq_ok hvideo
   by_cases hk : k=j.key
   · subst hk
     have hmoves:Moves steady (s.jobs j.key) j:=hsound
     rw [hold] at hmoves
     exact ⟨j,put_self s j hj,hmoves.2.1⟩
   · exact ⟨old,(put_ne hk).trans hold,hspent⟩
 | getVideoJob scope id =>
  have hm:m=s:=by cases r <;> exact hvideo.1
  exact hm ▸ ⟨old,hold,hspent⟩
 | _ => exact (show m=s from hvideo) ▸ ⟨old,hold,hspent⟩

lemma marks_le_one {es} (k) (h:(guarded (world steady) (Sound steady digest)).Follows s es u) :
  es.countP (marks k) ≤ 1 ∧ (Spent s k → es.countP (marks k)=0) := by
 induction h with
 | nil s => exact ⟨Nat.zero_le _,fun _=>rfl⟩
 | @cons s m u o r es hstep _ ih =>
  obtain ⟨hone,hnone⟩:=ih
  cases hmarks : marks k ⟨o,r⟩ with
  | false =>
   rw [List.countP_cons_of_neg (by simp [hmarks])]
   exact ⟨hone,fun hs=>hnone (hstep.2.spent hstep.1 hs)⟩
  | true =>
   obtain ⟨hfresh,hspent⟩:=hstep.2.marks hstep.1 hmarks
   rw [List.countP_cons_of_pos hmarks,hnone hspent]
   exact ⟨Nat.le_refl 1,fun hs=>absurd hs hfresh⟩

def Keyed : (o : VideoOp) → o.Reply → Prop
 | .getVideoJob scope id, .ok j => j.key = (scope, id)
 | _, _ => True

lemma keyed_of_step {r} (h:videoStep s o r u) : Keyed o r := by
 cases o with
 | getVideoJob scope id =>
  cases r with
  | error e => trivial
  | ok j => exact s.keyed _ _ h.2
 | _ => cases r <;> trivial

def Quiet (o : VideoOp) : Prop := ∀ r, o ≠ .submitVideo r

lemma asks_check {o action} : Asks Quiet (check o action) := by
 refine asks_perform nofun fun ended=>?_
 cases ended with
 | some e => exact asks_ret
 | none =>
  dsimp only
  split
  · exact asks_ret
  refine asks_perform nofun fun scope=>?_
  split
  · exact asks_ret
  · exact asks_perform nofun fun _=>asks_ret

lemma asks_reload {o} : Asks Quiet (reload o) := by
 refine asks_perform nofun fun job=>?_
 cases job <;> exact asks_ret

lemma asks_settle (marked r answer) : Asks Quiet (settle marked r answer) := by
 refine asks_perform nofun fun now=>asks_perform nofun fun saved=>?_
 cases saved with
 | error e => exact asks_ret
 | ok _ =>
  dsimp only [recordEnded]
  split
  · exact asks_perform nofun fun _=>asks_ret
  · exact asks_ret

lemma asks_contacted {job e} : Asks Quiet (contacted job e) := by
 unfold contacted
 split
 · refine asks_perform nofun fun current=>?_
   cases current <;> exact asks_ret
 · exact asks_ret

lemma asks_saveObserved {o} {job answer} : Asks Quiet (saveObserved o job answer) := by
 refine asks_perform nofun fun now=>asks_perform nofun fun saved=>?_
 cases saved with
 | error e =>
  dsimp only
  split
  · exact asks_reload
  · exact asks_ret
 | ok _ =>
  dsimp only
  split
  · exact asks_perform nofun fun _=>asks_ret
  · exact asks_ret

lemma asks_refresh {o job} : Asks Quiet (refresh o job) := by
 refine asks_perform nofun fun answer=>?_
 cases answer with
 | error e => exact asks_ret
 | ok answer =>
  dsimp only
  split
  · exact asks_ret
  split
  · exact asks_ret
  · exact asks_saveObserved

lemma asks_get {o} : Asks Quiet (get o) := by
 refine asks_bind asks_check fun denial=>?_
 cases denial with
 | some e => exact asks_ret
 | none =>
  refine asks_perform nofun fun job=>?_
  cases job with
  | error e => exact asks_ret
  | ok job =>
   dsimp only [getLoaded]
   split
   · exact asks_perform nofun fun _=>asks_ret
   split
   · exact asks_ret
   · exact asks_refresh

lemma asks_saveCancelled {o} {job answer} : Asks Quiet (saveCancelled o job answer) := by
 refine asks_perform nofun fun now=>asks_perform nofun fun saved=>?_
 cases saved with
 | error e =>
  dsimp only
  split
  · exact asks_reload
  · exact asks_ret
 | ok _ => exact asks_ret

lemma asks_cancelRemote {o job} : Asks Quiet (cancelRemote o job) := by
 refine asks_perform nofun fun answer=>?_
 cases answer with
 | error e => exact asks_ret
 | ok answer =>
  dsimp only
  split
  · exact asks_ret
  split
  · exact asks_ret
  · exact asks_saveCancelled

lemma asks_cancel {supported o} : Asks Quiet (cancel supported o) := by
 refine asks_bind asks_check fun denial=>?_
 cases denial with
 | some e => exact asks_ret
 | none =>
  dsimp only
  split
  · exact asks_ret
  refine asks_perform nofun fun job=>?_
  cases job with
  | error e => exact asks_ret
  | ok job =>
   dsimp only [cancelLoaded]
   split
   · exact asks_ret
   split
   · exact asks_ret
   · exact asks_cancelRemote

abbrev marked (k : JobKey) : Monitor VideoSig Nat := tokens Keyed (marks k) (submits k)

lemma wp_quiet {α:Type} {p:VideoProg α} (hp:Asks Quiet p) (k n) :
  wp (marked k) p (fun _ _=>True) n := by
 refine hp.wp (fun _=>True) ?_ trivial
 intro n o ho _
 refine ⟨?_,fun _ _ _=>trivial⟩
 intro h
 cases o with
 | submitVideo r => exact absurd rfl (ho r)
 | _ => cases h

lemma wp_op {f:o.Reply → VideoProg β} {n} (ho:Quiet o)
  (h:∀ r m,Keyed o r → wp (marked k) (f r) (fun _ _=>True) m) :
  wp (marked k) (videoOp o >>= f) (fun _ _=>True) n := by
 refine ⟨?_,fun r m hr=>h r m hr.1⟩
 intro h
 cases o with
 | submitVideo r => exact absurd rfl (ho r)
 | _ => cases h

lemma wp_contact_marked {reserved} (hkey:reserved.key=r.operation.key)
  (hid:reserved.providerJobID = "") {n} :
  wp (marked k) (contact reserved r) (fun _ _=>True) n := by
 refine wp_op nofun fun now m _=>⟨nofun,?_⟩
 rintro saved l ⟨-,hl⟩
 cases saved with
 | error e => exact wp_quiet asks_contacted k l
 | ok _ =>
  refine ⟨?_,fun answer _ _=>wp_quiet (asks_settle _ r answer) k _⟩
  intro hsubmits
  have hk:r.operation.key=k:=by simpa [submits] using hsubmits
  have hmarks:marks k ⟨.saveVideoJob (markedJob reserved now) reserved.revision,.ok ()⟩ =
    true := by
   have hmarked:(markedJob reserved now).key=k:=hkey.trans hk
   have hmarker:marker (markedJob reserved now)=true:=by simp [marker,markedJob,hid]
   simp [marks,hmarked,hmarker]
  have hcount:l=m+1:=by simpa [hmarks,submits] using hl
  omega

lemma wp_resubmit_marked {hash:String} (hkey:job.key=r.operation.key) {n} :
  wp (marked k) (resubmit job hash r) (fun _ _=>True) n := by
 unfold resubmit
 split
 · rename_i hresumable
   have hid:job.providerJobID = "":=by
    simp [resumableReservation] at hresumable
    exact hresumable.2
   exact wp_contact_marked hkey hid
 · trivial

lemma wp_submit_marked {k r n} : wp (marked k) (submit digest r) (fun _ _=>True) n := by
 apply wp_seq (wp_quiet asks_check k n)
 intro denial m _
 cases denial with
 | some e => trivial
 | none =>
  refine wp_op nofun fun old l hold=>?_
  cases old with
  | ok old => exact wp_resubmit_marked hold
  | error e =>
   dsimp only [submitLoaded]
   split
   · refine wp_op nofun fun now l _=>wp_op nofun fun saved l _=>?_
     cases saved with
     | ok _ => exact wp_contact_marked rfl rfl
     | error e =>
      dsimp only
      split
      · refine wp_op nofun fun old l hold=>?_
        cases old with
        | error e => trivial
        | ok old => exact wp_resubmit_marked hold
      · trivial
   · trivial

lemma wp_call_marked {k} {call:VideoCall} :
  wp (marked k) (call.prog digest) (fun _ _=>True) 0 := by
 cases call with
 | submit r => exact wp_submit_marked
 | get o => exact wp_quiet asks_get k 0
 | cancel supported o => exact wp_quiet asks_cancel k 0

def Own (r : VideoRequest) (o : VideoOp) : Prop := ∀ r', o = .submitVideo r' → r' = r

lemma Quiet.own (h:Quiet o) : Own r o := fun r' hr'=>absurd hr' (h r')

lemma asks_contact {reserved r} : Asks (Own r) (contact reserved r) := by
 refine asks_perform nofun fun now=>asks_perform nofun fun saved=>?_
 cases saved with
 | error e => exact asks_contacted.mono fun _=>Quiet.own
 | ok _ =>
  exact asks_perform (fun r' h=>(VideoOp.submitVideo.inj h).symm) fun answer =>
   (asks_settle _ r answer).mono fun _=>Quiet.own

lemma asks_resubmit {job} (hash:String) {r} : Asks (Own r) (resubmit job hash r) := by
 unfold resubmit
 split
 · exact asks_contact
 · exact asks_ret

lemma asks_submit {r} : Asks (Own r) (submit digest r) := by
 refine asks_bind (asks_check.mono fun _=>Quiet.own) fun denial=>?_
 cases denial with
 | some e => exact asks_ret
 | none =>
  refine asks_perform nofun fun old=>?_
  cases old with
  | ok old => exact asks_resubmit _
  | error e =>
   dsimp only [submitLoaded]
   split
   · refine asks_perform nofun fun now=>asks_perform nofun fun saved=>?_
     cases saved with
     | ok _ => exact asks_contact
     | error e =>
      dsimp only
      split
      · refine asks_perform nofun fun old=>?_
        cases old with
        | error e => exact asks_ret
        | ok old => exact asks_resubmit _
      · exact asks_ret
   · exact asks_ret

lemma submitted_reserved
  (h:PoolRun (guarded (world steady) (Sound steady digest)) s ps es u qs) :
  ∀ e ∈ es,∀ r,e.2.1 = .submitVideo r → Reserved digest u r := by
 refine h.invariant
  (fun tr v _=>∀ e ∈ tr,∀ r,e.2.1=VideoOp.submitVideo r → Reserved digest v r)
  (fun e he=>by cases he) ?_
 intro tr v _ i o _ reply w hI _ hstep e he r hr
 have hlater:Later steady v w:=later_of_sound hstep.1 hstep.2
 rcases List.mem_append.mp he with he | he
 · exact (hI e he r hr).later hlater
 · obtain rfl := List.mem_singleton.mp he
   obtain rfl : o = .submitVideo r := hr
   exact Reserved.later (s := v) hstep.2 hlater

end

/-- Each operation is submitted to the provider at most once, and a call with another digest does
not contact it. -/
theorem video_submitted_once (digest : List UInt8 → String) (calls : List VideoCall)
  (s u : JobStore) (es : List (PoolEvent VideoSig)) (qs : List (VideoProg VideoOutcome))
  (h : PoolRun videoWorld s (calls.map (VideoCall.prog digest)) es u qs) :
  (∀ k, es.countP (fun e => submits k e.2.1) ≤ 1) ∧
   ∀ (i : Nat) r j, calls[i]? = some (.submit r) → u.jobs r.operation.key = some j →
    j.requestHash ≠ digest (requestBody r) →
     (∀ e ∈ threadEvents i es, ∀ r', e.1 ≠ .submitVideo r') ∧
      ∀ out, qs[i]? = some (.ret out) → out.error ≠ none := by
 have hworld:PoolRun (world False) s (calls.map (VideoCall.prog digest)) es u qs :=
  run_fair h fun _ _ hfalse=>hfalse.elim
 obtain ⟨hsound,-,hposts⟩:=calls_guarantee hworld
 refine ⟨?_,?_⟩
 · intro k
   have hspent:es.countP (fun e=>submits k e.2.1) ≤ es.countP fun e=>marks k e.2 := by
    apply h.countP_spend_le (P := Keyed) (fun _ _ _ _ hstep=>keyed_of_step hstep)
    intro p hp
    obtain ⟨call,-,rfl⟩:=List.mem_map.mp hp
    exact wp_call_marked
   have hmarks:=(marks_le_one k hsound.follows).1
   rw [List.countP_map] at hmarks
   exact hspent.trans hmarks
 · intro i r j hcall hj hhash
   have hother:¬ Reserved digest u r := by
    rintro ⟨i,hi,hreserved⟩
    cases hj.symm.trans hi
    exact hhash hreserved
   refine ⟨?_,?_⟩
   · intro e he r' hr'
     have hprog:(calls.map (VideoCall.prog digest))[i]? = some (submit digest r) := by
      rw [List.getElem?_map,hcall]
      rfl
     obtain ⟨q,-,htrace⟩:=h.trace hprog
     obtain rfl : r' = r := asks_submit.of_trace htrace e he r' hr'
     exact hother (submitted_reserved hsound (i,e) (mem_threadEvents.mp he) r' hr')
   · intro out hout herror
     obtain ⟨v,hv,hpost⟩:=hposts i _ hout
     rw [hcall] at hpost
     exact hother ((show Accepted digest r out v from hpost) herror |>.later hv)

def serving (answer : VideoJob) : (o : VideoOp) → JobStore → Option (o.Reply × JobStore)
 | .ctxErr, s => some (none, s)
 | .contextScope, s => some (none, s)
 | .authorize _ _, s => some (none, s)
 | .now, s => some ((1 : Time), s)
 | .getVideoJob scope id, s =>
  match s.jobs (scope, id) with
  | some j => some (.ok j, s)
  | none => some (.error ⟨errNotFound, none⟩, s)
 | .saveVideoJob j expected, s =>
  match VideoJobs.saveVideoJob s j expected with
  | .ok u => some (.ok (), u)
  | .error e => some (.error e, s)
 | .submitVideo _, s => some (.ok answer, s)
 | .getVideo _, s => some (.ok answer, s)
 | .cancelVideo _, s => some (.ok answer, s)
 | .record _, s => some (none, s)

lemma serving_step {r} (h:serving answer o s=some (r,u)) : videoStep s o r u := by
 cases o with
 | getVideoJob scope id =>
  dsimp only [serving] at h
  split at h
  · rename_i j hj
    cases h
    exact ⟨rfl,hj⟩
  · rename_i hnone
    cases h
    exact ⟨rfl,fun _=>hnone⟩
 | saveVideoJob j expected =>
  dsimp only [serving] at h
  split at h
  · rename_i v hv
    cases h
    exact hv
  · cases h
    rfl
 | _ =>
  cases h
  rfl

lemma served {p out i} (h:p.answer (serving answer) s=some (out,u)) (hi:ps[i]? = some p) :
  PoolRun videoWorld s ps ((p.answered (serving answer) s).map (i,·)) u
   (ps.set i (.ret out)) := by
 obtain ⟨htrace,hfollows⟩ :=
  Monitor.follows_answered (M := videoWorld) (fun _ _ _ _=>serving_step) h
 exact .solo htrace hfollows hi

def wholeBody (body : List UInt8) : String := String.ofList (body.map fun b => Char.ofNat b.toNat)

lemma wholeBody_injective : Function.Injective wholeBody := by
 intro a b hab
 have hmap:=String.ofList_injective hab
 have hbyte:∀ n < 256,(Char.ofNat n).toNat=n:=by decide +kernel
 refine List.map_injective_iff.mpr ?_ hmap
 intro b c hbc
 have htoNat:(Char.ofNat b.toNat).toNat=(Char.ofNat c.toNat).toNat:=congrArg Char.toNat hbc
 rw [hbyte _ b.toNat_lt,hbyte _ c.toNat_lt] at htoNat
 exact UInt8.toNat_inj.mp htoNat

def clip (prompt : List UInt8) : VideoRequest where
 operation := { id := "clip" }
 prompt := prompt

def reports (state : MediaJobState) : VideoJob where
 info := { operation := { id := "clip" } }
 providerJobID := "job"
 state := state
 createdAt := 1
 updatedAt := 1
 revision := 0

def serve (answers : Nat → MediaJobState) (threads : List Nat) (s : JobStore)
  (ps : List (VideoProg VideoOutcome)) :=
 schedule (fun i => serving (reports (answers i))) (threads.flatMap (List.replicate 12)) s ps

lemma serve_run {answers:Nat → MediaJobState} {threads s ps} :
  PoolRun videoWorld s ps (serve answers threads s ps).1 (serve answers threads s ps).2.1
   (serve answers threads s ps).2.2 :=
 schedule_run (fun _ _ _ _ _=>serving_step) _ s ps

lemma submit_again (digest:List UInt8 → String) (r) (answer job) (s)
  (hvalid:r.operation.validate=none) (hjob:s.jobs r.operation.key=some job)
  (hstate:job.state = .queued) :
  (submit digest r).answer (serving answer) s =
   some (sameVideoRequest job (digest (requestBody r)),s) := by
 have hresubmit:resubmit job (digest (requestBody r)) r =
   .ret (sameVideoRequest job (digest (requestBody r))) := by
  simp [resubmit,resumableReservation,hstate]
 have hload:serving answer (.getVideoJob r.operation.scope r.operation.id) s =
   some (.ok job,s) := by
  simp only [serving]
  rw [show s.jobs (r.operation.scope,r.operation.id)=some job from hjob]
 have hloaded:(load r.operation >>= submitLoaded r (digest (requestBody r))).answer
   (serving answer) s=some (sameVideoRequest job (digest (requestBody r)),s) := by
  apply (answer_ask (S := VideoSig) hload).trans
  show (resubmit job (digest (requestBody r)) r).answer (serving answer) s=_
  rw [hresubmit]
  rfl
 unfold submit check
 simp only [Prog.bind_assoc]
 rw [hvalid]
 exact hloaded

def twoPrompts (a b : UInt8) : List VideoCall := [.submit (clip [a]), .submit (clip [b])]

def FirstQueued (a : UInt8) (u : JobStore) (job : VideoJob) : Prop :=
 (submit wholeBody (clip [a])).answer (serving (reports .queued)) .empty =
   some (⟨some job, none⟩, u) ∧
  u.jobs ({}, "clip") = some job ∧ job.requestHash = wholeBody (requestBody (clip [a])) ∧
   job.state = .queued

lemma twoPrompts_run {a} (h:FirstQueued a u job) (b) : ∃ es,
  PoolRun videoWorld .empty ((twoPrompts a b).map (VideoCall.prog wholeBody)) es u
   [.ret ⟨some job,none⟩,.ret (sameVideoRequest job (wholeBody (requestBody (clip [b]))))] := by
 obtain ⟨hanswer,hjob,-,hstate⟩:=h
 have hagain:=submit_again wholeBody (clip [b]) (reports .queued) job u
  (show (clip []).operation.validate=none by decide) hjob hstate
 have hfirst:((twoPrompts a b).map (VideoCall.prog wholeBody))[0]? =
   some (submit wholeBody (clip [a])) := rfl
 exact ⟨_,(served hanswer hfirst).trans (served (i := 1) hagain rfl)⟩

theorem second_prompt_rejected : ∃ es u out, PoolRun videoWorld .empty
  ((twoPrompts 0x61 0x62).map (VideoCall.prog wholeBody)) es u out ∧
   es.countP (fun e => submits ({}, "clip") e.2.1) ≤ 1 ∧
    ∀ o, out[1]? = some (.ret o) → o.error ≠ none := by
 obtain ⟨u,job,hfirst⟩ : ∃ u job, FirstQueued 0x61 u job := ⟨_,_,rfl,rfl,rfl,rfl⟩
 obtain ⟨es,hrun⟩:=twoPrompts_run hfirst 0x62
 obtain ⟨-,hjob,hhash,-⟩:=hfirst
 obtain ⟨honce,hreject⟩:=video_submitted_once wholeBody (twoPrompts 0x61 0x62) _ _ _ _ hrun
 have hother:job.requestHash ≠ wholeBody (requestBody (clip [0x62])) := by
  rw [hhash]
  exact wholeBody_injective.ne (by decide)
 exact ⟨es,u,_,hrun,honce _,(hreject 1 (clip [0x62]) job rfl hjob hother).2⟩

/-- Two prompts that differ in a byte that is not UTF-8 count as the same request: both submissions
of the operation are accepted. -/
theorem replaced_bytes_accepted :
  clip [0xFF] ≠ clip [0xFE] ∧ (clip [0xFF]).operation = (clip [0xFE]).operation ∧
   ∃ es u job, PoolRun videoWorld .empty
    ((twoPrompts 0xFF 0xFE).map (VideoCall.prog wholeBody)) es u
    [.ret ⟨some job, none⟩, .ret ⟨some job, none⟩] := by
 refine ⟨by decide,rfl,?_⟩
 obtain ⟨u,job,hfirst⟩ : ∃ u job, FirstQueued 0xFF u job := ⟨_,_,rfl,rfl,rfl,rfl⟩
 obtain ⟨es,hrun⟩:=twoPrompts_run hfirst 0xFE
 obtain ⟨-,-,hhash,hstate⟩:=hfirst
 have hsame:requestBody (clip [0xFF]) = requestBody (clip [0xFE]) := rfl
 have haccepted:sameVideoRequest job (wholeBody (requestBody (clip [0xFE]))) =
   ⟨some job,none⟩ := by
  simp [sameVideoRequest,hhash,hsame,hstate]
 rw [haccepted] at hrun
 exact ⟨es,u,job,hrun⟩

/-- A stored job keeps its request hash, its creation time and its provider's ID, does not change
once it has ended, and goes back only when the provider says so. -/
theorem video_job_moves_forward (digest : List UInt8 → String) (calls : List VideoCall)
  (s v u : JobStore) (before after : List (PoolEvent VideoSig))
  (ps qs : List (VideoProg VideoOutcome))
  (hbefore : PoolRun videoWorld s (calls.map (VideoCall.prog digest)) before v ps)
  (hafter : PoolRun videoWorld v ps after u qs) (k : JobKey) (j : VideoJob)
  (hj : v.jobs k = some j) :
  ∃ i, u.jobs k = some i ∧ i.requestHash = j.requestHash ∧ i.createdAt = j.createdAt ∧
   (j.providerJobID ≠ "" → i.providerJobID = j.providerJobID) ∧
   (j.state.terminal = true → i = j) ∧
   ((∀ e ∈ before ++ after, Steady e.2.1 e.2.2) → rank j.state ≤ rank i.state) := by
 obtain ⟨-,-,hps⟩:=calls_guarantee (run_fair hbefore
  fun e he (hsteady : ∀ e ∈ before ++ after, Steady e.2.1 e.2.2) =>
   hsteady e (List.mem_append_left _ he))
 obtain ⟨-,hlater,-⟩:=(run_fair hafter
  fun e he (hsteady : ∀ e ∈ before ++ after, Steady e.2.1 e.2.2) =>
   hsteady e (List.mem_append_right _ he)).guarantees Later.refl (fun _ _ _=>Later.trans)
    (fun _ _ _ _=>later_of_sound) hps
 obtain ⟨i,hi,hforward⟩:=hlater k j hj
 exact ⟨i,hi,hforward.requestHash,hforward.createdAt,hforward.providerJobID,
  hforward.terminal,hforward.state⟩

def oneClip : List VideoCall := [.submit (clip []), .get { id := "clip" }, .get { id := "clip" }]

def submitted (answers : Nat → MediaJobState) :=
 serve answers [0] .empty (oneClip.map (VideoCall.prog wholeBody))

def readTwice (answers : Nat → MediaJobState) :=
 serve answers [1, 2] (submitted answers).2.1 (submitted answers).2.2

def steadyAnswers (n : Nat) : MediaJobState := [.queued, .running, .succeeded].getD n .succeeded

def ambiguousAnswer (n : Nat) : MediaJobState := [.running, .ambiguous, .queued].getD n .queued

lemma serve_steady {answers} (hanswers:∀ i,3 ≤ rank (answers i)) {threads s ps} :
  ∀ e ∈ (serve answers threads s ps).1,Steady e.2.1 e.2.2 := by
 have hrun:=schedule_run (W := world True) (h := fun i=>serving (reports (answers i)))
  (fun i o v r w hw=>⟨serving_step hw,fun _=>?_⟩)
  (threads.flatMap (List.replicate 12)) s ps
 · intro e he
   exact Monitor.Follows.forall_mem (M := world True) (P := Steady)
    (fun _ _ _ _ h=>h.2 trivial) hrun.follows e.2 (List.mem_map_of_mem he)
 · cases o with
   | submitVideo _ | getVideo _ =>
    cases hw
    exact hanswers i
   | _ => cases r <;> trivial

theorem queued_job_ends :
  ∃ i, (readTwice steadyAnswers).2.1.jobs ({}, "clip") = some i ∧ rank .queued ≤ rank i.state := by
 have hstored:∃ j, (submitted steadyAnswers).2.1.jobs ({},"clip") = some j ∧
   j.state = .queued := ⟨_,rfl,rfl⟩
 obtain ⟨j,hj,hstate⟩:=hstored
 have hsteady:∀ i, 3 ≤ rank (steadyAnswers i)
  | 0 | 1 | 2 => by decide
  | _ + 3 => show 3 ≤ 5 by decide
 obtain ⟨i,hi,-,-,-,-,hrank⟩:=video_job_moves_forward wholeBody oneClip .empty _ _ _ _ _ _
  (serve_run) (serve_run) ({},"clip") j hj
 refine ⟨i,hi,hstate ▸ hrank ?_⟩
 exact List.forall_mem_append.mpr ⟨serve_steady hsteady,serve_steady hsteady⟩

/-- A running job whose status is once reported as ambiguous can be queued again. -/
theorem running_job_requeued :
  ∃ j i, PoolRun videoWorld .empty (oneClip.map (VideoCall.prog wholeBody))
    (submitted ambiguousAnswer).1 (submitted ambiguousAnswer).2.1
    (submitted ambiguousAnswer).2.2 ∧
   PoolRun videoWorld (submitted ambiguousAnswer).2.1 (submitted ambiguousAnswer).2.2
    (readTwice ambiguousAnswer).1 (readTwice ambiguousAnswer).2.1
    (readTwice ambiguousAnswer).2.2 ∧
   (submitted ambiguousAnswer).2.1.jobs ({}, "clip") = some j ∧ j.state = .running ∧
   (readTwice ambiguousAnswer).2.1.jobs ({}, "clip") = some i ∧ i.state = .queued :=
 ⟨_,_,serve_run,serve_run,rfl,rfl,rfl,rfl⟩

/-- Every request that was sent to the provider is that of a job in the store. -/
def SubmissionsStored (digest : List UInt8 → String) (s : JobStore)
  (ps : List (VideoProg VideoOutcome)) : Prop :=
 ∀ es u qs, PoolRun videoWorld s ps es u qs →
  ∀ e ∈ es, ∀ r, e.2.1 = .submitVideo r → Reserved digest u r

theorem video_submissions_stored (digest : List UInt8 → String) (calls : List VideoCall)
  (s : JobStore) : SubmissionsStored digest s (calls.map (VideoCall.prog digest)) := by
 intro es u qs h
 have hworld:PoolRun (world False) s _ es u qs := run_fair h fun _ _ hfalse=>hfalse.elim
 exact submitted_reserved (calls_guarantee hworld).1

end Lebro.VideoLifecycle
