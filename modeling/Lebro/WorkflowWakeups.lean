import Lebro.EffectPool
import Lebro.WorkflowBoundaries
import Lebro.WorkflowProgress

set_option autoImplicit false

namespace Lebro.WorkflowWakeups

open EffectProgram EffectPool EffectRuns RuntimeTypes RuntimeRecords RuntimeEffects MemoryStore
open WorkflowSteps WorkflowPersistence WorkflowExecution WorkflowRuns WorkflowBoundaries
open WorkflowProgress WorkflowUserCode LatestEntry List

variable {runID:RunID} {s u:RuntimeState} {token:String} {w:LinearWorkflow}
 {es:List (Event RuntimeSig)} {records:List WorkflowSnapshotRecord}
 {q:RuntimeProg RunOutcome} {m:MemoryState} {α:Type} {record:WorkflowRunRecord}
 {faulty:Prop} {v x:WorkflowSnapshotRecord} {b:Nat × WorkflowSnapshotEnvelope}

inductive Call where
 | run (w : LinearWorkflow) (input : WorkflowRunInput)
 | resume (w : LinearWorkflow) (input : WorkflowResumeInput)
 | wake (w : LinearWorkflow) (runID : RunID) (token : String)

def Call.prog : Call → RuntimeProg RunOutcome
 | .run w input => WorkflowRuns.run w input
 | .resume w input => WorkflowRuns.resume w input
 | .wake w runID token => resumeWake w runID token

lemma asks_call {call:Call} : Asks CallOp call.prog := by
 cases call with
 | run w input => exact asks_run w input
 | resume w input => exact asks_resume w input
 | wake w runID token => exact (asks_resumeWake w runID token).mono fun _=>callOp_of_bodyOp

def Issues (runID : RunID) (v : WorkflowSnapshotRecord) : Prop :=
 ∀ t, boundaryToken v = some t →
  ∃ position, v.id = snapshotID runID position ∧ t = wakeToken runID position

structure Tokened (runID : RunID) (records : List WorkflowSnapshotRecord) : Prop where
 ids : (records.map WorkflowSnapshotRecord.id).Nodup
 issued : ∀ v ∈ records, Issues runID v

lemma append_left_cancel {a b c:String} (h:a++b=a++c) : b=c := by
 have hlist:=congrArg String.toList h
 rw [String.toList_append,String.toList_append] at hlist
 exact String.toList_inj.mp (append_cancel_left hlist)

lemma snapshotID_eq_of_wakeToken {p q} (h:wakeToken runID p=wakeToken runID q) :
  snapshotID runID p=snapshotID runID q := by
 have hpos:toString p=toString q:=append_left_cancel h
 unfold snapshotID
 rw [hpos]

lemma Tokened.unique (h:Tokened runID records) {w t} (hv:v ∈ records) (hw:w ∈ records)
  (htv:boundaryToken v=some t) (htw:boundaryToken w=some t) : v=w := by
 obtain ⟨p,hvid,hp⟩:=h.issued v hv t htv
 obtain ⟨q,hwid,hq⟩:=h.issued w hw t htw
 have hid:v.id=w.id:=by
  rw [hvid,hwid]
  exact snapshotID_eq_of_wakeToken (hp.symm.trans hq)
 exact inj_on_of_nodup_map h.ids hv hw hid

lemma Tokened.pairwise (h:Tokened runID records) :
  records.Pairwise fun v w=>∀ t,boundaryToken v=some t → boundaryToken w ≠ some t := by
 have hids:records.Pairwise fun v w=>v.id ≠ w.id:=pairwise_map.mp h.ids
 apply hids.imp_of_mem
 intro v w hv hw hid t htv htw
 exact hid (congrArg WorkflowSnapshotRecord.id (h.unique hv hw htv htw))

lemma Tokened.insert (h:Tokened runID records) (hfresh:∀ w ∈ records,w.id ≠ v.id)
  (hv:Issues runID v) : Tokened runID (insertSnapshot v records) where
 ids := by
  refine ((insertSnapshot_perm v records).map _).nodup_iff.mpr ?_
  refine nodup_cons.mpr ⟨?_,h.ids⟩
  intro hmem
  obtain ⟨w,hw,hid⟩:=mem_map.mp hmem
  exact hfresh w hw hid
 issued := by
  intro w hw
  rcases mem_insertSnapshot hw with rfl | hw
  · exact hv
  · exact h.issued w hw

lemma mem_drop_insertSnapshot {n} (h:x ∈ records.drop n) :
  x ∈ (insertSnapshot v records).drop n := by
 induction records generalizing n with
 | nil => simp at h
 | cons w ws ih =>
  rw [insertSnapshot]
  split
  · cases n with
    | zero =>
     rcases mem_cons.mp h with rfl | h
     · exact mem_cons_self
     · exact mem_cons_of_mem w (ih (n := 0) h)
    | succ n => exact ih h
  · cases n with
    | zero => exact mem_cons_of_mem v h
    | succ n => exact (drop_sublist_drop_left (w :: ws) (Nat.le_succ n)).subset h

lemma boundary_inserts {body} (h:Boundary body) {m runID} :
  (transaction body m).2.snapshots runID=m.snapshots runID ∨
   ∃ v,(∀ w ∈ m.snapshots runID,w.id ≠ v.id) ∧ Issues runID v ∧
    (transaction body m).2.snapshots runID=insertSnapshot v (m.snapshots runID) := by
 have hsaves:∃ snapshot record,Saves snapshot record body ∧ Issues snapshot.runID snapshot:=by
  cases h with
  | step snapshot record hstatus htoken =>
   refine ⟨snapshot,record,.boundary,?_⟩
   intro t ht
   rw [htoken] at ht
   cases ht
  | sleep snapshot record wakeup hstatus position hid htoken =>
   refine ⟨snapshot,record,.sleep wakeup,?_⟩
   intro t ht
   rw [htoken] at ht
   cases ht
   exact ⟨position,hid,rfl⟩
 obtain ⟨snapshot,record,hsaves,hissues⟩:=hsaves
 rcases hsaves.transaction m with ⟨e,he⟩ | ⟨u,hu,hcommitted⟩
 · exact .inl (by rw [he])
 · rw [hu,hcommitted.snapshots]
   by_cases hid : runID=snapshot.runID
   · subst hid
     exact .inr ⟨snapshot,fun w hw=>(hcommitted.fresh w hw).1,hissues,if_pos rfl⟩
   · exact .inl (if_neg hid)

structure Grown (runID : RunID) (s u : RuntimeState) : Prop where
 drop : ∀ n x, x ∈ (s.store.snapshots runID).drop n → x ∈ (u.store.snapshots runID).drop n
 tokened : Tokened runID (s.store.snapshots runID) → Tokened runID (u.store.snapshots runID)

lemma Grown.refl (runID s) : Grown runID s s := ⟨fun _ _ h=>h,fun h=>h⟩
lemma Grown.trans {v} (h : Grown runID s u) (h' : Grown runID u v) : Grown runID s v :=
 ⟨fun n x hx=>h'.drop n x (h.drop n x hx),fun hs=>h'.tokened (h.tokened hs)⟩
lemma Grown.mem (h : Grown runID s u) (hx : x ∈ s.store.snapshots runID) :
  x ∈ u.store.snapshots runID := h.drop 0 x hx

lemma grown_of_snapshots (h:u.store.snapshots runID=s.store.snapshots runID) :
  Grown runID s u := by
 constructor
 · rw [h]
   exact fun _ _ hx=>hx
 · rw [h]
   exact fun hs=>hs

lemma runtimeStep_grown {runID s o r u} (ho:CallOp o) (h:runtimeStep faulty s o r u) :
  Grown runID s u := by
 cases o with
 | transaction body =>
  rcases h with ⟨hstore,_⟩ | ⟨_,_,rfl⟩
  · have hu:u.store=(transaction body s.store).2:=congrArg Prod.snd hstore
    rcases boundary_inserts ho with hsame | ⟨v,hfresh,hissues,hinsert⟩
    · apply grown_of_snapshots
      rw [hu,hsame]
    · constructor
      · rw [hu,hinsert]
        exact fun n x hx=>mem_drop_insertSnapshot hx
      · rw [hu,hinsert]
        exact fun hs=>hs.insert hfresh hissues
  · exact .refl runID u
 | repo o =>
  rcases h with ⟨hstore,_⟩ | ⟨_,_,rfl⟩
  · have hu:u.store=(applyRepo o s.store).2:=congrArg Prod.snd hstore
    apply grown_of_snapshots
    rw [hu]
    cases o with
    | saveWorkflowSnapshot v | saveSchedule v => exact ho.elim
    | getWorkflowRun id => rfl
    | listWorkflowSnapshots id page => rfl
    | saveWorkflowRun record =>
     dsimp only [applyRepo]
     cases hsave : saveWorkflowRun s.store record with
     | error e => rfl
     | ok m =>
      dsimp only [written]
      rw [saveWorkflowRun_eq_ok hsave]
  · exact .refl runID u
 | claim x id => exact grown_of_snapshots (congrArg (fun m=>m.snapshots runID) h.2.1)
 | release x id => exact grown_of_snapshots (congrArg (fun m=>m.snapshots runID) h.1)
 | _ =>
  obtain rfl : u=s := h
  exact .refl runID u

lemma runtimeStep_inspects {o r} (h:runtimeStep faulty s o r u) (ho:Inspects o) : u=s := by
 cases o with
 | repo o =>
  rcases h with ⟨hstore,hclaims⟩ | ⟨_,_,rfl⟩
  · have hu:u.store=s.store:=by
     cases o with
     | getWorkflowRun id | listWorkflowSnapshots id page => exact congrArg Prod.snd hstore
     | _ => exact ho.elim
    cases u
    cases s
    cases hu
    cases hclaims
    rfl
  · rfl
 | transaction body | claim x id | release x id => exact ho.elim
 | _ => exact h

/-- What a scan up to the cursor knows: no suspend snapshot of `first` that it has passed is later
than the best one, and the best one is stored. -/
structure Scanned (runID : RunID) (first : List WorkflowSnapshotRecord) (cursor : Nat)
  (best : Option (Nat × WorkflowSnapshotEnvelope)) (s : RuntimeState) : Prop where
 passed : ∀ y ∈ first, isSuspend y = true →
  y ∈ (s.store.snapshots runID).drop cursor ∨ ∃ b ∈ best, y.sequence ≤ b.1
 found : ∀ b ∈ best, ∃ v ∈ s.store.snapshots runID, v.sequence = b.1 ∧ v.state = .workflow b.2
 tokened : Tokened runID (s.store.snapshots runID)

section

variable {runID:RunID} {first:List WorkflowSnapshotRecord} {cursor:Option Nat}
variable {best:Option (Nat × WorkflowSnapshotEnvelope)} {s u:RuntimeState}

lemma Scanned.grown {n:Nat} (h:Scanned runID first n best s) (hg:Grown runID s u) :
  Scanned runID first n best u where
 passed := by
  intro y hy hs
  exact (h.passed y hy hs).imp_left (hg.drop n y)
 found := by
  intro b hb
  obtain ⟨v,hv,hvb⟩:=h.found b hb
  exact ⟨v,hg.mem hv,hvb⟩
 tokened := hg.tokened h.tokened

lemma Scanned.page (h:Scanned runID first (cursor.getD 0) best s) :
  Scanned runID first (cursor.getD 0+1000)
   ((paginate (s.store.snapshots runID) ⟨cursor,1000⟩).records.foldl laterSuspend best) s where
 passed := by
  intro y hy hs
  rcases h.passed y hy hs with hdrop | ⟨b,hb,hle⟩
  · rw [← take_append_drop 1000 (List.drop _ _)] at hdrop
    rcases mem_append.mp hdrop with htake | hrest
    · rw [laterSuspend_eq]
      have hpick:(suspendOf y).isSome=true:=(suspendOf_isSome y).trans hs
      obtain ⟨b,hb⟩:=foldl_later_isSome (.inr ⟨y,htake,hpick⟩)
      exact .inr ⟨b,hb,(foldl_later_eq_some hb).2.2 y htake hpick⟩
    · rw [drop_drop] at hrest
      exact .inl hrest
  · rw [laterSuspend_eq]
    obtain ⟨c,hc⟩:=foldl_later_isSome (.inl (Option.isSome_of_mem hb))
    exact .inr ⟨c,hc,Nat.le_trans hle ((foldl_later_eq_some hc).2.1 b hb)⟩
 found := by
  intro b hb
  rw [laterSuspend_eq] at hb
  rcases (foldl_later_eq_some hb).1 with hb | ⟨v,hv,hpick,hn⟩
  · exact h.found b hb
  · exact ⟨v,mem_of_mem_drop (mem_of_mem_take hv),hn,suspendOf_eq_some hpick⟩
 tokened := h.tokened

lemma paginate_nextCursor {next} (h:(paginate records ⟨cursor,1000⟩).nextCursor=next) :
  next=some (cursor.getD 0+1000) ∨
   next=none ∧ records.drop (cursor.getD 0+1000)=[] := by
 subst h
 unfold paginate
 dsimp only
 rw [if_neg (show ¬ (1000=0) by decide)]
 split
 · exact .inl rfl
 · next hle =>
    refine .inr ⟨rfl,?_⟩
    rw [drop_eq_nil_iff]
    rw [length_drop] at hle
    omega

end

lemma listed_page {page listed}
  (h:runtimeStep faulty s (.repo (.listWorkflowSnapshots runID page)) (.ok listed) u) :
  listed=paginate (s.store.snapshots runID) page := by
 rcases h with ⟨hstore,_⟩ | ⟨_,⟨e,he⟩,_⟩
 · have hreply:Except.ok listed=listWorkflowSnapshots s.store runID page:=
    congrArg Prod.fst hstore
   unfold listWorkflowSnapshots at hreply
   split at hreply
   · cases hreply
   · cases hreply
     rfl
 · cases he

lemma found_run (h:runtimeStep faulty s (.repo (.getWorkflowRun runID)) (.ok record) u) :
  s.store.runs runID=some record := by
 rcases h with ⟨hstore,_⟩ | ⟨_,⟨e,he,_⟩,_⟩
 · have hreply:Except.ok record=getWorkflowRun s.store runID:=congrArg Prod.fst hstore
   unfold getWorkflowRun at hreply
   split at hreply
   · next v hv =>
      cases hreply
      exact hv
   · cases hreply
 · cases he

def inspecting (faulty : Prop) : Monitor RuntimeSig RuntimeState where
 demand _ o := Inspects o
 step s o r u := runtimeStep faulty s o r u

section

variable {faulty:Prop} {runID:RunID} {R:RuntimeState → RuntimeState → Prop}
variable {s u:RuntimeState} (hR:∀ s u, R s u → Grown runID s u)
variable (htrans:∀ s u v, R s u → R u v → R s v)

lemma wp_inspectOp {o:RuntimeOp} {f:o.Reply → RuntimeProg α} {Q} (ho:Inspects o)
  (hf:∀ r m,R s m → runtimeStep faulty m o r m → wp (under (inspecting faulty) R) (f r) Q m) :
  wp (under (inspecting faulty) R) (runtimeOp o >>= f) Q s := by
 rw [wp_runtimeOp]
 refine ⟨ho,?_⟩
 rintro r u ⟨m,hm,hstep⟩
 obtain rfl : u=m := runtimeStep_inspects hstep ho
 exact hf r u hm hstep

include hR htrans in
lemma wp_scanSuspendSnapshots {first} (pages:Nat) (cursor best) (hs:R s u)
  (h:Scanned runID first (cursor.getD 0) best u) :
  wp (under (inspecting faulty) R) (scanSuspendSnapshots runID pages cursor best)
   (fun res v=>R s v ∧ ∀ b,res = .ok (some b) → ∃ x ∈ v.store.snapshots runID,
    x.state = .workflow b.2 ∧ ∀ y ∈ first,isSuspend y=true → y.sequence ≤ x.sequence) u := by
 induction pages generalizing cursor best u with
 | zero => exact ⟨trivial,fun r=>r.elim⟩
 | succ n ih =>
  refine wp_inspectOp trivial ?_
  intro page x hm hstep
  have hsx:=htrans _ _ _ hs hm
  cases page with
  | error e => exact ⟨hsx,nofun⟩
  | ok page =>
   have hpage:=listed_page hstep
   have hscan:=(h.grown (hR _ _ hm)).page
   rw [← hpage] at hscan
   dsimp only
   split
   · exact ⟨hsx,nofun⟩
   rcases paginate_nextCursor (congrArg SnapshotPage.nextCursor hpage.symm) with
    hnext | ⟨hnext,hdrop⟩
   · rw [hnext]
     exact ih _ _ hsx hscan
   · rw [hnext]
     refine ⟨hsx,?_⟩
     intro b hb
     have hbest:b ∈ page.records.foldl laterSuspend best:=Except.ok.inj hb
     obtain ⟨v,hv,hvb⟩:=hscan.found b hbest
     refine ⟨v,hv,hvb.2,?_⟩
     intro y hy hys
     rcases hscan.passed y hy hys with hrest | ⟨c,hc,hle⟩
     · rw [hdrop] at hrest
       cases hrest
     · obtain rfl : b=c := Option.some.inj (hbest.symm.trans hc)
       rw [hvb.1]
       exact hle

include hR htrans in
lemma wp_loadSuspendSnapshot {w} (hs:R s u) (htokened:Tokened runID (s.store.snapshots runID)) :
  wp (under (inspecting faulty) R) (loadSuspendSnapshot w runID)
   (fun loaded v=>R s v ∧ ∀ env,loaded = .ok env → ∃ x ∈ v.store.snapshots runID,
    x.state = .workflow env ∧ ∀ y ∈ s.store.snapshots runID,
     isSuspend y=true → y.sequence ≤ x.sequence) u := by
 have hscan:Scanned runID (s.store.snapshots runID) 0 none u:=by
  refine ⟨?_,nofun,(hR _ _ hs).tokened htokened⟩
  intro y hy _
  exact .inl ((hR _ _ hs).mem hy)
 apply wp_seq (wp_scanSuspendSnapshots hR htrans w.pages none none hs hscan)
 rintro found v ⟨hv,hfound⟩
 rcases found with e | best
 · exact ⟨hv,nofun⟩
 · cases best with
   | none => exact ⟨hv,nofun⟩
   | some b =>
    refine ⟨hv,?_⟩
    intro env henv
    cases henv
    exact hfound b rfl

lemma stale_of_envelopeToken {env} (h:envelopeToken env ≠ some token) :
  (env.suspend.getD {}).wake.all fun wake=>wake.token ≠ token := by
 unfold envelopeToken at h
 cases hsuspend : env.suspend with
 | none => rfl
 | some suspend =>
  cases hwake : suspend.wake with
  | none => simp [hwake]
  | some wake =>
   have hne:wake.token ≠ token:=by simpa [hsuspend,hwake] using h
   simpa [hwake] using hne

include hR htrans in
lemma wp_wakeSuspended (hs:R s u) (htokened:Tokened runID (s.store.snapshots runID))
  (hfence:∀ v x,R s v → x ∈ v.store.snapshots runID → boundaryToken x=some token →
   ¬ ∀ y ∈ s.store.snapshots runID,isSuspend y=true → y.sequence ≤ x.sequence) :
  wp (under (inspecting faulty) R) (wakeSuspended w runID token record) (fun _ v=>R s v) u := by
 apply wp_seq (wp_loadSuspendSnapshot hR htrans hs htokened)
 rintro loaded v ⟨hv,hloaded⟩
 cases loaded with
 | error e => exact hv
 | ok env =>
  obtain ⟨x,hx,hstate,hlatest⟩:=hloaded env rfl
  have htoken:boundaryToken x=envelopeToken env:=by
   unfold boundaryToken
   rw [hstate]
  have hne:envelopeToken env ≠ some token:=by
   rw [← htoken]
   intro htaken
   exact hfence v x hv hx htaken hlatest
  dsimp only
  rw [if_pos (stale_of_envelopeToken hne)]
  exact hv

include hR htrans in
lemma wp_resumeWake (hrefl:∀ s,R s s) (w token)
  (htokened:Tokened runID (s.store.snapshots runID)) (hfence:∀ u v record x,R s u →
  u.store.runs runID=some record → record.status = .suspended → R s v → x ∈ v.store.snapshots
  runID → boundaryToken x=some token → ¬ ∀ y ∈ s.store.snapshots runID,isSuspend y=true →
  y.sequence ≤ x.sequence) :
  wp (under (inspecting faulty) R) (resumeWake w runID token) (fun _ v=>R s v) s := by
 unfold resumeWake
 split
 · refine wp_inspectOp trivial ?_
   intro err a ha _
   cases err with
   | some e => exact ha
   | none =>
    refine wp_inspectOp trivial ?_
    intro found b hb hread
    have hsb:R s b:=htrans _ _ _ ha hb
    cases found with
    | error e => exact hsb
    | ok record =>
     dsimp only
     split
     · exact hsb
     · next hstatus =>
        have hsuspended:record.status = .suspended:=by
         by_contra hne
         exact hstatus (.inr hne)
        refine wp_wakeSuspended hR htrans hsb htokened ?_
        intro v x hv hx htoken
        exact hfence b v record x hsb (found_run hread) hsuspended hv hx htoken
 · exact hrefl s

include hR htrans in
lemma inspects_of_trace (hrefl:∀ s,R s s) (htrace:Trace (resumeWake w runID token) es q)
  (hfollows:(under (runtimeWorld faulty) R).Follows s es u)
  (htokened:Tokened runID (s.store.snapshots runID))
  (hfence:∀ u v record x,R s u → u.store.runs runID=some record →
   record.status = .suspended → R s v → x ∈ v.store.snapshots runID →
   boundaryToken x=some token → ¬ ∀ y ∈ s.store.snapshots runID,isSuspend y=true →
   y.sequence ≤ x.sequence) :
  ∀ e ∈ es,Inspects e.1 := by
 have hwp:wp (under (inspecting faulty) R) (resumeWake w runID token) (fun _ v=>R s v) s:=
  wp_resumeWake hR htrans hrefl w token htokened hfence
 have hunder:(under (inspecting faulty) R).Follows s es u:=by
  apply hfollows.mono
  intro a o r b hstep
  exact hstep
 intro e he
 obtain ⟨_,hdemand⟩:=htrace.demands hunder hwp e he
 exact hdemand

end

def listedBy : (o : RuntimeOp) → o.Reply → List WorkflowSnapshotRecord
 | .repo (.listWorkflowSnapshots _ _), .ok page => page.records
 | _, _ => []

def latestListed (es : List (Event RuntimeSig)) : Option (Nat × WorkflowSnapshotEnvelope) :=
 (es.flatMap fun e => listedBy e.1 e.2).foldl laterSuspend none

def Admits (runID : RunID) (token : String) (es : List (Event RuntimeSig)) : Prop :=
 (∃ record : WorkflowRunRecord, ⟨.repo (.getWorkflowRun runID), .ok record⟩ ∈ es ∧
  record.status = .suspended) ∧
 (latestListed es).bind (fun b => envelopeToken b.2) = some token

def Admitted (runID : RunID) (token : String) (es : List (Event RuntimeSig)) : Prop :=
 ∃ before, before <+: es ∧ Admits runID token before

def admitting (runID : RunID) (token : String) : Monitor RuntimeSig (List (Event RuntimeSig)) :=
 Monitor.ghost (fun es o => Inspects o ∨ Admitted runID token es) fun es o r => es ++ [⟨o, r⟩]

lemma latestListed_append (es o r) :
  latestListed (es ++ [⟨o,r⟩])=(listedBy o r).foldl laterSuspend (latestListed es) := by
 unfold latestListed
 rw [flatMap_append,foldl_append,flatMap_singleton]

section

variable {runID:RunID} {token:String} {es:List (Event RuntimeSig)}

lemma wp_reads {p:RuntimeProg α} (h:Asks Inspects p) :
  wp (admitting runID token) p (fun _ fs=>es <+: fs) es := by
 refine h.wp (fun fs=>es <+: fs) ?_ prefix_rfl
 intro fs o ho hfs
 refine ⟨.inl ho,?_⟩
 rintro r _ rfl
 exact hfs.trans (prefix_append fs _)

lemma wp_admitted {p:RuntimeProg α} (hp:Asks CallOp p) (h:Admitted runID token es) :
  wp (admitting runID token) p (fun _ _=>True) es := by
 refine wp_mono (hp.wp (fun fs=>Admitted runID token fs) ?_ h) fun _ _ _=>trivial
 intro fs o _ hfs
 refine ⟨.inr hfs,?_⟩
 rintro r _ rfl
 obtain ⟨before,hbefore,hadmits⟩:=hfs
 exact ⟨before,hbefore.trans (prefix_append fs _),hadmits⟩

lemma wp_listing (pages:Nat) (cursor best) (h:latestListed es=best) :
  wp (admitting runID token) (scanSuspendSnapshots runID pages cursor best)
   (fun res fs=>es <+: fs ∧ ∀ b,res = .ok b → latestListed fs=b) es := by
 induction pages generalizing cursor best es with
 | zero => exact ⟨.inl trivial,fun r=>r.elim⟩
 | succ n ih =>
  rw [scanSuspendSnapshots,wp_runtimeOp]
  refine ⟨.inl trivial,?_⟩
  rintro page _ rfl
  have hes:=prefix_append es
   [(⟨.repo (.listWorkflowSnapshots runID ⟨cursor,1000⟩),page⟩ : Event RuntimeSig)]
  have hlisted:=latestListed_append es (.repo (.listWorkflowSnapshots runID ⟨cursor,1000⟩)) page
  rw [h] at hlisted
  cases page with
  | error e => exact ⟨hes,nofun⟩
  | ok page =>
   dsimp only
   split
   · exact ⟨hes,nofun⟩
   split
   · refine ⟨hes,?_⟩
     intro b hb
     cases hb
     exact hlisted
   · exact wp_mono (ih _ _ hlisted) fun res fs hfs=>⟨hes.trans hfs.1,hfs.2⟩

lemma wp_wakeSuspended_admitting {w record}
  (hread:⟨.repo (.getWorkflowRun runID),.ok record⟩ ∈ es)
  (hsuspended:record.status = .suspended) (hlisted:latestListed es=none) :
  wp (admitting runID token) (wakeSuspended w runID token record) (fun _ _=>True) es := by
 unfold wakeSuspended loadSuspendSnapshot
 rw [Prog.bind_assoc]
 apply wp_seq (wp_listing w.pages none none hlisted)
 rintro found fs ⟨hfs,hfound⟩
 rcases found with e | best
 · trivial
 · cases best with
   | none => trivial
   | some b =>
    dsimp only [Prog.ret_bind]
    by_cases htoken : envelopeToken b.2=some token
    · have hadmits:Admits runID token fs:=by
       refine ⟨⟨record,hfs.subset hread,hsuspended⟩,?_⟩
       rw [hfound _ rfl]
       exact htoken
      split
      · trivial
      apply wp_seq (wp_reads (asks_authorizeRun w))
      intro denial gs hgs
      cases denial with
      | some e => trivial
      | none =>
       dsimp only
       split
       · trivial
       · next frames hframes =>
          exact wp_admitted (asks_continueRun hsuspended hframes) ⟨fs,hgs,hadmits⟩
    · rw [if_pos (stale_of_envelopeToken htoken)]
      trivial

lemma wp_resumeWake_admitting {w} :
  wp (admitting runID token) (resumeWake w runID token) (fun _ _=>True) [] := by
 unfold resumeWake
 split
 · rw [wp_ctxErr]
   refine ⟨.inl trivial,?_⟩
   rintro err _ rfl
   cases err with
   | some e => trivial
   | none =>
    dsimp only
    rw [wp_runtimeOp]
    refine ⟨.inl trivial,?_⟩
    rintro found _ rfl
    cases found with
    | error e => trivial
    | ok record =>
     dsimp only
     split
     · trivial
     · next hstatus =>
        have hsuspended:record.status = .suspended:=by
         by_contra hne
         exact hstatus (.inr hne)
        exact wp_wakeSuspended_admitting (by simp) hsuspended rfl
 · trivial

lemma admitted_of_trace (h:Trace (resumeWake w runID token) es q) {before after e}
  (hes:es=before++e :: after) (he:¬ Inspects e.1) : Admitted runID token before := by
 have hdemand:=h.demand_at wp_resumeWake_admitting hes
 have hfold:before.foldl (fun fs e=>fs ++ [(⟨e.1,e.2⟩ : Event RuntimeSig)]) []=before:=by
  rw [foldl_append_eq_append,nil_append,← flatMap_def]
  exact flatMap_singleton' before
 rw [hfold] at hdemand
 exact hdemand.resolve_left he

end

def WaitsAt (runID : RunID) (token : String) (m : MemoryState) : Prop :=
 (∃ record, m.runs runID = some record ∧ record.status = .suspended) ∧
 ∃ x ∈ m.snapshots runID, boundaryToken x = some token ∧
  ∀ y ∈ m.snapshots runID, isSuspend y = true → y.sequence ≤ x.sequence

section

variable {faulty:Prop} {runID:RunID} {s u v:RuntimeState} {token:String}
variable {w:LinearWorkflow}

lemma tokened_of_run {calls:List Call} {es ps} (hnew:s.store.snapshots runID=[])
  (hrun:PoolRun (runtimeWorld faulty) s (calls.map Call.prog) es u ps) :
  Tokened runID (u.store.snapshots runID) := by
 refine hrun.keeps (P := CallOp) (A := fun u=>Tokened runID (u.store.snapshots runID)) ?_ ?_ ?_
 · intro s o r u ho hs hstep
   exact (runtimeStep_grown ho hstep).tokened hs
 · intro p hp
   obtain ⟨call,_,rfl⟩:=mem_map.mp hp
   exact asks_call
 · rw [hnew]
   exact ⟨nodup_nil,fun x hx=>by cases hx⟩

lemma follows_inspects (h:(runtimeWorld faulty).Follows s es v) (hes:∀ e ∈ es,Inspects e.1) :
  v=s := by
 induction h with
 | nil _ => rfl
 | cons hstep _ ih =>
  have hv:=ih fun e he=>hes e (mem_cons_of_mem _ he)
  exact hv.trans (runtimeStep_inspects hstep (hes _ mem_cons_self))

lemma alone_inspects (htokened:Tokened runID (s.store.snapshots runID))
  (h:¬ WaitsAt runID token s.store) (htrace:Trace (resumeWake w runID token) es q)
  (hfollows:(runtimeWorld faulty).Follows s es v) : v=s ∧ ∀ e ∈ es,Inspects e.1 := by
 have hR:∀ s u : RuntimeState,s=u → Grown runID s u:=by
  rintro s _ rfl
  exact .refl runID s
 have hunder:(under (runtimeWorld faulty) Eq).Follows s es v:=by
  apply hfollows.mono
  intro a o r b hstep
  exact ⟨a,rfl,hstep⟩
 have hall:∀ e ∈ es,Inspects e.1:=by
  apply inspects_of_trace hR (fun _ _ _=>Eq.trans) (fun _=>rfl) htrace hunder htokened
  rintro _ _ record x rfl hrecord hsuspended rfl hx htoken hlatest
  exact h ⟨⟨record,hrecord,hsuspended⟩,x,hx,htoken,hlatest⟩
 exact ⟨follows_inspects hfollows hall,hall⟩

lemma passed_inspects {ps qs es} (htokened:Tokened runID (s.store.snapshots runID))
  (hps:∀ p ∈ ps,Asks CallOp p) {y} (hx:x ∈ s.store.snapshots runID)
  (htoken:boundaryToken x=some token) (hy:y ∈ s.store.snapshots runID)
  (hsuspend:isSuspend y=true) (hlt:x.sequence < y.sequence)
  (h:PoolRun (runtimeWorld faulty) s (ps ++ [resumeWake w runID token]) es v qs) :
  ∀ e ∈ threadEvents ps.length es,Inspects e.1 := by
 have hfollows:=h.rely (i := ps.length) (P := CallOp) (R := Grown runID) (.refl runID)
  (fun _ _ _=>Grown.trans) (fun s o r u ho hstep=>runtimeStep_grown ho hstep)
  (by
   intro j p hj hp
   rw [List.getElem?_append] at hp
   split at hp
   · exact hps p (mem_of_getElem? hp)
   · next hle =>
      rw [List.getElem?_singleton,if_neg (by omega)] at hp
      cases hp)
 obtain ⟨z,hfollows,_⟩:=hfollows
 obtain ⟨q,_,htrace⟩:=h.trace (i := ps.length) (p := resumeWake w runID token) (by simp)
 refine inspects_of_trace (fun _ _ h=>h) (fun _ _ _=>Grown.trans) (.refl runID) htrace hfollows
  htokened ?_
 intro a b record x' _ _ _ hb hx' htoken' hlatest
 have heq:x'=x:=(hb.tokened htokened).unique hx' (hb.mem hx) htoken' htoken
 have hle:=hlatest y hy hsuspend
 rw [heq] at hle
 omega

/-- The tokens of the sleep boundaries of a run are different, and a wake-up only reads unless it
has read that the run is suspended at the boundary with its token. -/
theorem wakeups_fenced {calls : List Call} {es : List (PoolEvent RuntimeSig)}
  {ps : List (RuntimeProg RunOutcome)} (hnew : s.store.snapshots runID = [])
  (hrun : PoolRun (runtimeWorld faulty) s (calls.map Call.prog) es u ps) :
  (u.store.snapshots runID).Pairwise
   (fun x y => ∀ t, boundaryToken x = some t → boundaryToken y ≠ some t) ∧
  (∀ i w token before e after, calls[i]? = some (.wake w runID token) →
   threadEvents i es = before ++ e :: after → ¬ Inspects e.1 →
   Admitted runID token before) ∧
  (∀ a o r b, (runtimeWorld faulty).step a o r b → Inspects o → b = a) ∧
  (∀ w token fs q v, Trace (resumeWake w runID token) fs q →
   (runtimeWorld faulty).Follows u fs v → ¬ WaitsAt runID token u.store →
   v = u ∧ ∀ e ∈ fs, Inspects e.1) ∧
  ∀ w token x y fs v qs, x ∈ u.store.snapshots runID → boundaryToken x = some token →
   y ∈ u.store.snapshots runID → isSuspend y = true → x.sequence < y.sequence →
   PoolRun (runtimeWorld faulty) u (ps ++ [resumeWake w runID token]) fs v qs →
   ∀ e ∈ threadEvents ps.length fs, Inspects e.1 := by
 have htokened:=tokened_of_run hnew hrun
 have hps:∀ p ∈ ps, Asks CallOp p := by
  apply hrun.asks
  intro p hp
  obtain ⟨call,_,rfl⟩:=mem_map.mp hp
  exact asks_call
 refine ⟨htokened.pairwise,?_,?_,?_,?_⟩
 · intro i w token before e after hi hes he
   have hp:(calls.map Call.prog)[i]? = some (resumeWake w runID token) := by
    rw [List.getElem?_map,hi]
    rfl
   obtain ⟨q,_,htrace⟩:=hrun.trace hp
   exact admitted_of_trace htrace hes he
 · intro a o r b hstep ho
   exact runtimeStep_inspects hstep ho
 · intro w token fs q v htrace hfollows hwaits
   exact alone_inspects htokened hwaits htrace hfollows
 · intro w token x y fs v qs hx htoken hy hsuspend hlt h
   exact passed_inspects htokened hps hx htoken hy hsuspend hlt h

end

def napWorkflow : LinearWorkflow where
 definition := { id := "naps" }
 steps := [⟨"nap", false, none, none, none, none, .sleep 5⟩,
  ⟨"rest", false, none, none, none, none, .sleep 5⟩]
 store := true
 policy := true
 executor := 0
 number := some
 pages := 1

def napCalls : List Call :=
 [.run napWorkflow { input := .json .null, runID := "run" },
  .wake napWorkflow "run" (wakeToken "run" 1)]

/-- The run is started and woken once, and then waits at its second sleep: the token of the first
one has no effect any more. -/
theorem naps_fenced : ∃ es u ps x y,
  PoolRun (runtimeWorld False) .empty (napCalls.map Call.prog) es u ps ∧
  x ∈ u.store.snapshots "run" ∧ boundaryToken x = some (wakeToken "run" 1) ∧
  y ∈ u.store.snapshots "run" ∧ boundaryToken y = some (wakeToken "run" 2) ∧
  isSuspend y = true ∧ x.sequence < y.sequence ∧
  ∀ fs v qs, PoolRun (runtimeWorld False) u
    (ps ++ [resumeWake napWorkflow "run" (wakeToken "run" 1)]) fs v qs →
   ∀ e ∈ threadEvents ps.length fs, Inspects e.1 := by
 have hcalls:∃ es u ps x y,
   schedule (fun _=>answerWith (UserCode.reply reviewUser))
    (List.replicate 20 0 ++ List.replicate 20 1) .empty (napCalls.map Call.prog) = (es,u,ps) ∧
   u.store.snapshots "run" = [x,y] ∧ boundaryToken x = some (wakeToken "run" 1) ∧
   boundaryToken y = some (wakeToken "run" 2) ∧ isSuspend y = true ∧
   decide (x.sequence < y.sequence) = true :=
  ⟨_,_,_,_,_,rfl,rfl,rfl,rfl,rfl,rfl⟩
 obtain ⟨es,u,ps,x,y,hschedule,hsnapshots,hx,hy,hsuspend,hlt⟩:=hcalls
 have hrun:=PoolRun.of_schedule (W := runtimeWorld False)
  (fun _ _ _ _ _ h=>answerWith_step h) hschedule
 have hmem:x ∈ u.store.snapshots "run" ∧ y ∈ u.store.snapshots "run" := by
  rw [hsnapshots]
  simp
 have hlt:=of_decide_eq_true hlt
 exact ⟨es,u,ps,x,y,hrun,hmem.1,hx,hmem.2,hy,hsuspend,hlt,fun fs v qs h =>
  (wakeups_fenced rfl hrun).2.2.2.2 napWorkflow _ x y fs v qs hmem.1 hx hmem.2 hsuspend hlt h⟩

end Lebro.WorkflowWakeups
