import Lebro.WorkflowOutputs
import Lebro.WorkflowRoutes

set_option autoImplicit false

namespace Lebro.WorkflowPaths

open EffectProgram EffectRuns RuntimeTypes RuntimeRecords RuntimeEffects MemoryStore WorkflowSteps
open WorkflowPersistence WorkflowExecution WorkflowRuns WorkflowUserCode WorkflowAcceptance
open WorkflowFrames WorkflowBoundaries WorkflowOutputs WorkflowWakeups WorkflowStages WorkflowRoutes
open List

variable {stepID:StepID} {w:LinearWorkflow} {o:RuntimeOp}
 {input:WorkflowRunInput} {α:Type} {record:WorkflowRunRecord}

structure Track where
 runtime : RuntimeState
 route : Route

/-- The stored path stands for the route that was kept, and a suspended run has it in its latest
suspend snapshot. -/
structure Recorded (w : LinearWorkflow) (runID : RunID) (t : Track) : Prop where
 named : ∀ record, t.runtime.store.runs runID = some record → record.id = runID
 kept : ∀ record, t.runtime.store.runs runID = some record →
  List.Forall₂ (Selects w) t.route.kept record.path
 latest : ∀ record, t.runtime.store.runs runID = some record → record.status = .suspended →
  ∀ n env, (t.runtime.store.snapshots runID).foldl laterSuspend none = some (n, env) →
   env.path = record.path ∧ SuspendsUpTo runID env.step t.runtime.store

structure Extends (w : LinearWorkflow) (runID : RunID) (t : Track) (path : List StepID) : Prop where
 route : List.Forall₂ (Selects w) t.route.taken path
 grows : ∀ record, t.runtime.store.runs runID = some record → record.path <+: path

def Identifies (runID : RunID) : (o : RuntimeOp) → o.Reply → Prop
 | .newRunID, id => id = runID
 | _, _ => True

def tracking (w : LinearWorkflow) (faulty : Prop) (runID : RunID) : Monitor RuntimeSig Track where
 demand t o := Recorded w runID t ∧ Carries (Extends w runID t) o
 step t o r u := runtimeStep faulty t.runtime o r u.runtime ∧ Identifies runID o r ∧
  t.route.Next o r u.route ∧ Straight t.route o

structure At (w : LinearWorkflow) (runID : RunID) (path : List StepID) (position : Nat)
  (t : Track) : Prop where
 saves : Extends w runID t path
 recorded : Recorded w runID t
 suspends : SuspendsUpTo runID position t.runtime.store

structure BoundaryAt (runID : RunID) (path : List StepID) (position : Nat)
  (snapshot : WorkflowSnapshotRecord) (record : WorkflowRunRecord) : Prop where
 run : snapshot.runID = runID
 named : record.id = runID
 recordPath : record.path = path
 state : ∃ env, snapshot.state = .workflow env ∧ env.path = path ∧ env.step = position ∧
  (env.suspend.isSome = true ∧ snapshot.sequence = workflowTerminalSnapshotSequence position ∨
   env.suspend.isSome = false ∧ record.status ≠ .suspended)

def Still : RuntimeOp → Prop
 | .step (.emit e) => e.type ≠ .branchSelected ∧ e.type ≠ .resumed
 | .transaction _ => False
 | .repo (.getWorkflowRun _) => True
 | .repo (.listWorkflowSnapshots _ _) => True
 | .repo _ => False
 | _ => True

variable {e:RunEvent} {snapshot:WorkflowSnapshotRecord} {P:List StepID → Prop}
 {body:RepoProg (Except Err Unit)}

section

variable {w:LinearWorkflow} {faulty:Prop} {runID:RunID} {path:List StepID}
variable {position:Nat} {t u:Track}

lemma Recorded.congr (h:Recorded w runID t) (hstore:u.runtime.store=t.runtime.store)
  (hkept:u.route.kept=t.route.kept) : Recorded w runID u := by
 constructor
 · rw [hstore]
   exact h.named
 · rw [hstore,hkept]
   exact h.kept
 · rw [hstore]
   exact h.latest

lemma At.congr (h:At w runID path position t) (hstore:u.runtime.store=t.runtime.store)
  (hroute:u.route=t.route) : At w runID path position u := by
 refine ⟨⟨?_,?_⟩,h.recorded.congr hstore (congrArg Route.kept hroute),?_⟩
 · rw [hroute]
   exact h.saves.route
 · rw [hstore]
   exact h.saves.grows
 · rw [hstore]
   exact h.suspends

lemma At.mono {q} (h:At w runID path position t) (hq:position ≤ q) : At w runID path q t :=
 ⟨h.saves,h.recorded,h.suspends.mono hq⟩

lemma Route.emitted_eq {g:Route} (hbranch:e.type ≠ .branchSelected)
  (hresumed:e.type ≠ .resumed) : g.emitted e=g := by
 unfold Route.emitted selection
 rw [if_neg hresumed,if_neg hbranch,Option.toList_none,append_nil]

lemma At.stored (h:At w runID path position t) (hid:record.id=runID)
  (hpath:record.path=path) (hruns:u.runtime.store.runs runID=some record)
  (hroute:u.route = { t.route with kept := t.route.taken })
  (hsuspends : SuspendsUpTo runID position u.runtime.store)
  (hlatest : record.status = .suspended → ∀ n env,
   (u.runtime.store.snapshots runID).foldl laterSuspend none=some (n,env) → env.path=path ∧
   env.step=position) : At w runID path position u := by
 have hfound:∀ found,u.runtime.store.runs runID=some found → found=record:=
  fun found hfound=>Option.some.inj (hfound.symm.trans hruns)
 refine ⟨⟨?_,?_⟩,⟨?_,?_,?_⟩,hsuspends⟩
 · rw [hroute]
   exact h.saves.route
 · intro found hrun
   rw [hfound found hrun,hpath]
 · intro found hrun
   rw [hfound found hrun,hid]
 · intro found hrun
   rw [hfound found hrun,hpath,hroute]
   exact h.saves.route
 · intro found hrun hsuspended n env henv
   rw [hfound found hrun] at hsuspended ⊢
   obtain ⟨hsame,hstep⟩:=hlatest hsuspended n env henv
   rw [hsame,hpath,hstep]
   exact ⟨rfl,hsuspends⟩

lemma At.saved (h:At w runID path position t) (hid:record.id=runID)
  (hpath:record.path=path) (hstatus:record.status ≠ .suspended)
  (hstore:u.runtime.store = { t.runtime.store with
   runs := fun id=>if id=record.id then some record else t.runtime.store.runs id })
  (hroute : u.route = { t.route with kept := t.route.taken }) : At w runID path position u := by
 refine h.stored hid hpath ?_ hroute ?_ fun hsuspended=>absurd hsuspended hstatus
 · rw [hstore]
   exact if_pos hid.symm
 · rw [hstore]
   exact h.suspends

lemma At.committed (h:At w runID path position t)
  (hb:BoundaryAt runID path position snapshot record)
  (hstore:Committed snapshot record t.runtime.store u.runtime.store)
  (hroute:u.route = { t.route with kept := t.route.taken }) : At w runID path position u := by
 obtain ⟨env,hstate,henv,hstep,hkind⟩:=hb.state
 have hruns:u.runtime.store.runs runID=some record:=by
  rw [hstore.runs]
  exact stored_runs hb.named
 have hsnapshots:u.runtime.store.snapshots runID =
   insertSnapshot snapshot (t.runtime.store.snapshots runID) := by
  rw [hstore.snapshots]
  exact stored_snapshots hb.run
 refine h.stored hb.named hb.recordPath hruns hroute ?_ ?_
 · intro v hv hsuspend
   rw [hsnapshots] at hv
   rcases mem_insertSnapshot hv with rfl | hv
   · rcases hkind with ⟨_,hsequence⟩ | ⟨hnone,_⟩
     · exact hsequence.le
     · unfold isSuspend at hsuspend
       rw [hstate] at hsuspend
       dsimp only at hsuspend
       rw [hnone] at hsuspend
       cases hsuspend
   · exact h.suspends v hv hsuspend
 · intro hsuspended n found hlatest
   rcases hkind with ⟨hsuspend,hsequence⟩ | ⟨_,hstatus⟩
   · have hlater:∀ x ∈ t.runtime.store.snapshots runID,isSuspend x=true →
       x.sequence < snapshot.sequence := by
      intro x hx hxs
      have hle:=h.suspends x hx hxs
      have hne:=(hstore.fresh x (hb.run.symm ▸ hx)).2
      omega
     rw [hsnapshots] at hlatest
     cases foldl_laterSuspend_insert hstate hsuspend hlater hlatest
     exact ⟨henv,hstep⟩
   · exact absurd hsuspended hstatus

lemma Still.carries (h:Still o) : Carries P o := by
 cases o with
 | repo o =>
  cases o with
  | getWorkflowRun id => trivial
  | listWorkflowSnapshots id page => trivial
  | _ => exact h.elim
 | transaction body => exact h.elim
 | _ => trivial

lemma Still.keeps {r} (ho:Still o) (h:(tracking w faulty runID).step t o r u) :
  u.runtime.store=t.runtime.store ∧ u.route=t.route := by
 obtain ⟨hruntime,_,hroute,hstraight⟩:=h
 cases o with
 | step o =>
  refine ⟨congrArg RuntimeState.store hruntime,?_⟩
  cases o with
  | emit e => exact Eq.trans hroute (Route.emitted_eq ho.1 ho.2)
  | _ => exact hroute
 | fanOut call =>
  obtain ⟨within,hwithin,hroute⟩:=hroute
  obtain rfl : within=[] := eq_nil_iff_forall_not_mem.mpr fun s hs=>hstraight s (hwithin s hs)
  rw [append_nil] at hroute
  exact ⟨congrArg RuntimeState.store hruntime,hroute⟩
 | claim x id => exact ⟨hruntime.2.1,hroute⟩
 | release x id => exact ⟨hruntime.1,hroute⟩
 | repo o =>
  cases o with
  | getWorkflowRun id | listWorkflowSnapshots id page =>
   exact ⟨congrArg RuntimeState.store (runtimeStep_inspects hruntime trivial),hroute⟩
  | _ => exact ho.elim
 | transaction body => exact ho.elim
 | _ => exact ⟨congrArg RuntimeState.store hruntime,hroute⟩

lemma At.save (h:At w runID path position t) (hid:record.id=runID)
  (hpath:record.path=path) (hstatus:record.status ≠ .suspended) :
  wp (tracking w faulty runID) (runtimeOp (.repo (.saveWorkflowRun record)))
   (fun _ u=>At w runID path position u) t := by
 have hcarries:Extends w runID t record.path:=hpath.symm ▸ h.saves
 refine ⟨⟨h.recorded,hcarries⟩,?_⟩
 rintro r u ⟨hruntime,_,hroute,_⟩
 rcases hruntime with ⟨hstore,_⟩ | ⟨_,⟨e,rfl⟩,hruntime⟩
 · rw [applyRepo] at hstore
   cases hsave : saveWorkflowRun t.runtime.store record with
   | error e =>
    rw [hsave] at hstore
    obtain rfl : r = .error e := congrArg Prod.fst hstore
    exact h.congr (congrArg Prod.snd hstore) hroute
   | ok m =>
    rw [hsave] at hstore
    obtain rfl : r = .ok () := congrArg Prod.fst hstore
    have hu:u.runtime.store=m:=congrArg Prod.snd hstore
    exact h.saved hid hpath hstatus (hu.trans (saveWorkflowRun_eq_ok hsave)) hroute
 · exact h.congr (congrArg RuntimeState.store hruntime) hroute

lemma At.commit (h:At w runID path position t)
  (hb:BoundaryAt runID path position snapshot record) (hsaves:Saves snapshot record body) :
  wp (tracking w faulty runID) (runtimeOp (.transaction body))
   (fun _ u=>At w runID path position u) t := by
 have hcarries:Carries (Extends w runID t) (.transaction body):=by
  apply saves_carries hsaves (hb.recordPath.symm ▸ h.saves)
  intro env henv
  obtain ⟨env',hstate,hpath,_⟩:=hb.state
  cases henv.symm.trans hstate
  exact hpath.symm ▸ h.saves
 refine ⟨⟨h.recorded,hcarries⟩,?_⟩
 rintro r u ⟨hruntime,_,hroute,_⟩
 rcases hruntime with ⟨hstore,_⟩ | ⟨_,⟨e,rfl⟩,hruntime⟩
 · rcases hsaves.transaction t.runtime.store with ⟨e,he⟩ | ⟨m,hm,hcommitted⟩
   · rw [he] at hstore
     obtain rfl : r = .error e := congrArg Prod.fst hstore
     exact h.congr (congrArg Prod.snd hstore) hroute
   · rw [hm] at hstore
     obtain rfl : r = .ok () := congrArg Prod.fst hstore
     have hu:u.runtime.store=m:=congrArg Prod.snd hstore
     exact h.committed hb (hu.symm ▸ hcommitted) hroute
 · exact h.congr (congrArg RuntimeState.store hruntime) hroute

end

lemma still_of_regionOp {position} (h:RegionOp position o) : Still o := by
 cases o with
 | step o =>
  cases o with
  | emit e =>
   have hevent:StepEvent e:=h
   constructor
   · intro hbranch
     rcases hevent with h | h | h | h
     all_goals cases hbranch.symm.trans h
   · intro hresumed
     rcases hevent with h | h | h | h
     all_goals cases hresumed.symm.trans h
  | _ => trivial
 | fanOut call => trivial
 | forEach call => trivial
 | _ => exact h.elim

lemma forall₂_concat {β:Type} {R:α → β → Prop} {xs ys x y} (h:List.Forall₂ R xs ys)
  (hxy:R x y) : List.Forall₂ R (xs ++ [x]) (ys ++ [y]) :=
 rel_append h (.cons hxy .nil)

def Leads (w : LinearWorkflow) (step : CompiledStep) : Prop :=
 ∀ branches defaultBranch, step.control = .branches branches defaultBranch → ∀ b ∈ branches,
  Selects w (step.id, b.name) b.entryID ∧ Within w b.steps

structure Going (w : LinearWorkflow) (runID id : RunID) (pl : Place) (t : Track) : Prop where
 named : id = runID
 current : At w runID pl.path pl.position t
 within : ∀ f ∈ pl.frames, Within w f.steps

structure Looking (w : LinearWorkflow) (runID id : RunID) (t : Track) : Prop where
 named : id = runID
 recorded : Recorded w runID t

def Walks (w : LinearWorkflow) (runID id : RunID) : Stage → Place → Track → Prop
 | .idle, pl, t => Going w runID id pl t ∧ pl.path = []
 | .reading, _, t => Looking w runID id t
 | .found record, _, t => Looking w runID id t ∧ t.runtime.store.runs runID = some record
 | .loaded record env, _, t => Looking w runID id t ∧ t.runtime.store.runs runID = some record ∧
   ∃ n, (t.runtime.store.snapshots runID).foldl laterSuspend none = some (n, env)
 | .within step _, pl, t => Going w runID id pl t ∧ Leads w step
 | .looping step _, pl, t => Going w runID id pl t ∧ Leads w step ∧ pl.path = []
 | .checked step _, pl, t => Going w runID id pl t ∧ Leads w step
 | _, pl, t => Going w runID id pl t

section

variable {σ:Type} {M:Monitor RuntimeSig σ} {store:σ → MemoryState} {A:σ → Prop}
variable {runID:RunID}

lemma wp_scanned
  (hlist:∀ s page,A s → wp M (runtimeOp (.repo (.listWorkflowSnapshots runID page)))
   (fun (r:Except Err SnapshotPage) u=>A u ∧ store u=store s ∧ ∀ p,r = .ok p →
   p=paginate ((store s).snapshots runID) page) s) (hhang:∀ s,A s → M.demand s .hang)
  (pages:Nat) (cursor best) {s} (h:A s) :
  wp M (scanSuspendSnapshots runID pages cursor best) (fun res u=>(A u ∧ store u=store s) ∧
   ∀ b,res = .ok b →
    b=(((store s).snapshots runID).drop (cursor.getD 0)).foldl laterSuspend best) s := by
 induction pages generalizing cursor best s with
 | zero => exact ⟨hhang s h,fun r=>r.elim⟩
 | succ n ih =>
  apply wp_seq (hlist s _ h)
  rintro page u ⟨hu,hstore,hpages⟩
  cases page with
  | error e => exact ⟨⟨hu,hstore⟩,nofun⟩
  | ok page =>
   have hpage:=hpages page rfl
   have hrecords:page.records =
     (((store s).snapshots runID).drop (cursor.getD 0)).take 1000 := by
    rw [hpage]
    rfl
   have hsplit:(((store s).snapshots runID).drop (cursor.getD 0)).foldl
     laterSuspend best=(((store s).snapshots runID).drop
      (cursor.getD 0+1000)).foldl laterSuspend (page.records.foldl laterSuspend best) := by
    rw [hrecords,← foldl_append,← drop_drop,take_append_drop]
   dsimp only
   split
   · exact ⟨⟨hu,hstore⟩,nofun⟩
   rcases paginate_nextCursor (congrArg SnapshotPage.nextCursor hpage.symm) with
    hnext | ⟨hnext,hdrop⟩
   · rw [hnext]
     apply wp_mono (ih _ _ hu)
     rintro res v ⟨⟨hv,hsame⟩,hres⟩
     refine ⟨⟨hv,hsame.trans hstore⟩,?_⟩
     intro b hb
     rw [hres b hb,hsplit,hstore]
     rfl
   · rw [hnext]
     refine ⟨⟨hu,hstore⟩,?_⟩
     rintro b ⟨⟩
     rw [hsplit,hdrop]
     rfl

lemma wp_loaded {store:σ → MemoryState}
  (hlist:∀ s page,A s → wp M (runtimeOp (.repo (.listWorkflowSnapshots runID page)))
   (fun (r:Except Err SnapshotPage) u=>A u ∧ store u=store s ∧ ∀ p,r = .ok p →
   p=paginate ((store s).snapshots runID) page) s) (hhang:∀ s,A s → M.demand s .hang) {s}
  (h:A s) :
  wp M (loadSuspendSnapshot w runID) (fun loaded u=>A u ∧ ∀ env,loaded = .ok env →
   ∃ n,((store u).snapshots runID).foldl laterSuspend none=some (n,env)) s := by
 apply wp_seq (wp_scanned hlist hhang w.pages none none h)
 rintro found u ⟨⟨hu,hstore⟩,hfound⟩
 rcases found with e | best
 · exact ⟨hu,nofun⟩
 · cases best with
   | none => exact ⟨hu,nofun⟩
   | some b =>
    refine ⟨hu,?_⟩
    rintro env ⟨⟩
    rw [hstore]
    exact ⟨b.1,(hfound (some b) rfl).symm⟩

end

section

variable {w:LinearWorkflow} {faulty:Prop} {runID id:RunID} {t u:Track} {k k' kf:Stage}
variable {pl pl':Place}

lemma Going.congr (h:Going w runID id pl t) (hstore:u.runtime.store=t.runtime.store)
  (hroute:u.route=t.route) : Going w runID id pl u :=
 ⟨h.named,h.current.congr hstore hroute,h.within⟩
lemma Looking.congr (h : Looking w runID id t) (hstore : u.runtime.store=t.runtime.store)
  (hroute : u.route=t.route) : Looking w runID id u :=
 ⟨h.named,h.recorded.congr hstore (congrArg Route.kept hroute)⟩

section

variable (h:Walks w runID id k pl t)

include h

lemma Walks.congr (hstore:u.runtime.store=t.runtime.store)
  (hroute:u.route=t.route) : Walks w runID id k pl u := by
 cases k with
 | reading => exact Looking.congr h hstore hroute
 | found record | loaded record env => exact ⟨h.1.congr hstore hroute,hstore ▸ h.2⟩
 | idle | within step n | looping step n | checked step n => exact ⟨h.1.congr hstore hroute,h.2⟩
 | _ => exact Going.congr h hstore hroute

lemma Walks.recorded : Recorded w runID t := by
 cases k with
 | reading => exact Looking.recorded h
 | found record | loaded record env => exact h.1.recorded
 | idle | within step n | looping step n | checked step n => exact h.1.current.recorded
 | _ => exact (Going.current h).recorded

lemma Walks.still {p:RuntimeProg α} (hp:Asks Still p) :
  wp (tracking w faulty runID) p (fun _ u=>Walks w runID id k pl u) t := by
 refine hp.wp (fun u=>Walks w runID id k pl u) ?_ h
 intro u o ho hu
 refine ⟨⟨hu.recorded,ho.carries⟩,?_⟩
 intro r v hv
 obtain ⟨hstore,hroute⟩:=ho.keeps hv
 exact hu.congr hstore hroute

lemma Walks.glance (ho:Glances w id o) :
  wp (tracking w faulty runID) (runtimeOp o) (fun _ u=>Walks w runID id k pl u) t := by
 refine h.still (asks_ask ?_ fun _=>asks_ret)
 cases ho with
 | _ => trivial

lemma Walks.emitStill (he:e.type ≠ .branchSelected ∧ e.type ≠ .resumed)
  (hnext:∀ u,Walks w runID id k pl u → Walks w runID id k' pl' u) :
  wp (tracking w faulty runID) (emitRun e) (fun _ u=>Walks w runID id k' pl' u) t := by
 have hasks:Asks Still (emitRun e):=asks_ask he fun _=>asks_ret
 exact wp_mono (h.still hasks) fun _ u hu=>hnext u hu

end

lemma Walks.select {step b branches defaultBranch} (h:Walks w runID id (.within step 0) pl t)
  (hc:step.control = .branches branches defaultBranch) (hb:b ∈ branches) :
  wp (tracking w faulty runID) (emitRun
   { type := .branchSelected, runID := id, step := pl.position, stepID := step.id,
     branch := b.name }) (fun _ u=>Walks w runID id (.passed step) (pl.select b) u) t := by
 obtain ⟨hgoing,hleads⟩:=h
 obtain ⟨hselects,hwithin⟩:=hleads _ _ hc b hb
 refine ⟨⟨hgoing.current.recorded,trivial⟩,?_⟩
 rintro r v ⟨hruntime,_,hroute,_⟩
 have hstore:v.runtime.store=t.runtime.store:=congrArg RuntimeState.store hruntime
 have hv:v.route = { t.route with taken:=t.route.taken ++ [(step.id,b.name)] } := hroute
 refine ⟨hgoing.named,⟨⟨?_,?_⟩,hgoing.current.recorded.congr hstore (by rw [hv]),?_⟩,?_⟩
 · rw [hv]
   exact forall₂_concat hgoing.current.saves.route hselects
 · rw [hstore]
   intro record hrecord
   exact (hgoing.current.saves.grows record hrecord).trans (prefix_append _ _)
 · rw [hstore]
   exact hgoing.current.suspends
 · intro f hf
   rcases mem_cons.mp hf with rfl | hf
   · exact hwithin
   · exact hgoing.within f hf

lemma Walks.startIteration {step n m} (h:Walks w runID id (.within step n) pl t)
  (he:e.type = .loopIterationStarted) :
  wp (tracking w faulty runID) (emitRun e) (fun _ u=>Walks w runID id (.looping step m) pl u)
   t := by
 have hstill:Still (.step (.emit e)):=by
  rw [Still,he]
  exact ⟨by decide,by decide⟩
 refine ⟨⟨h.recorded,trivial⟩,?_⟩
 intro r u hu
 obtain ⟨hstore,hroute⟩:=hstill.keeps hu
 refine ⟨h.1.congr hstore hroute,h.2,?_⟩
 have htaken:=h.1.current.saves.route
 rw [hu.2.2.2 he] at htaken
 exact forall₂_nil_left_iff.mp htaken

lemma Walks.emit (h:Walks w runID id k pl t) (he:Emits id k pl e k' pl') :
  wp (tracking w faulty runID) (emitRun e) (fun _ u=>Walks w runID id k' pl' u) t := by
 cases he with
 | started => exact h.emitStill ⟨nofun,nofun⟩ fun _ hu=>hu.1
 | @stepStarted _ f fs step hframes hf =>
  refine h.emitStill ⟨nofun,nofun⟩ ?_
  intro u hu
  obtain ⟨hnamed,hcurrent,hwithin⟩:=hu
  refine ⟨⟨hnamed,hcurrent.mono (Nat.le_succ _),hwithin⟩,?_⟩
  intro branches defaultBranch hc b hb
  exact (hwithin f (hframes ▸ mem_cons_self)).branch (mem_of_getElem? hf) hc hb
 | branchSelected hc hb => exact h.select hc hb
 | iterationStarted hc hn => exact h.startIteration rfl
 | iterationFinished hk =>
  refine h.emitStill ⟨nofun,nofun⟩ ?_
  intro u hu
  rcases hk with rfl | rfl
  · exact ⟨hu.1,hu.2.1⟩
  · exact hu
 | stepFailed => exact h.emitStill ⟨nofun,nofun⟩ fun _ hu=>hu.1
 | @refused _ k e hk hid he =>
  refine h.emitStill ?_ ?_
  · rcases he with ⟨he,_⟩ | ⟨he,_⟩
    · rw [he]
      exact ⟨by decide,by decide⟩
    · rw [he]
      exact ⟨by decide,by decide⟩
  · intro u hu
    cases k with
    | idle => exact hu.1
    | resting => exact hu
    | failing => exact hu
    | _ => exact hk.elim
 | unsaved hid he =>
  refine h.emitStill ?_ fun _ hu=>hu
  rcases he with ⟨he,_⟩ | ⟨he,_⟩
  · rw [he]
    exact ⟨by decide,by decide⟩
  · rw [he]
    exact ⟨by decide,by decide⟩
 | _ => exact h.emitStill ⟨nofun,nofun⟩ fun _ hu=>hu

lemma Going.complete (h:Going w runID id pl t) (stepID) :
  Going w runID id (pl.complete stepID) t :=
 ⟨h.named,h.current,forall_advanceTop h.within⟩

lemma Going.boundary {stepID name sequence status suspend} (h:Going w runID id pl t)
  (hb:BoundaryOf id pl.position stepID pl.path name sequence status suspend snapshot record)
  (hkind:suspend.isSome=true ∧ sequence=workflowTerminalSnapshotSequence pl.position ∨ suspend
   = none ∧ status = .running) (hsaves:Saves snapshot record body) :
  wp (tracking w faulty runID) (runtimeOp (.transaction body))
   (fun _ u=>Going w runID id pl u) t := by
 have hat:BoundaryAt runID pl.path pl.position snapshot record:=by
  obtain ⟨env,hstate,hstep,_,hpath,hsuspend⟩:=hb.state
  refine ⟨hb.run.trans h.named,hb.named.trans h.named,hb.recordPath,env,hstate,hpath,hstep,
   ?_⟩
  rcases hkind with ⟨hsome,hsequence⟩ | ⟨hnone,hstatus⟩
  · exact .inl ⟨hsuspend ▸ hsome,hb.sequence.trans hsequence⟩
  · refine .inr ⟨by rw [hsuspend,hnone]; rfl,?_⟩
    rw [hb.recordStatus,hstatus]
    decide
 exact wp_mono (h.current.commit hat hsaves) fun _ _ hu=>⟨h.named,hu,h.within⟩

lemma Going.terminal (h:Going w runID id pl t) (hr:TerminalOf id pl record) :
  wp (tracking w faulty runID) (runtimeOp (.repo (.saveWorkflowRun record)))
   (fun _ u=>Going w runID id pl u) t := by
 have hstatus:record.status ≠ .suspended:=by
  intro hsuspended
  have hterminal:=hr.status
  rw [hsuspended] at hterminal
  cases hterminal
 exact wp_mono (h.current.save (hr.named.trans h.named) hr.path hstatus)
  fun _ _ hu=>⟨h.named,hu,h.within⟩

lemma Walks.write (h:Walks w runID id k pl t) (ho:Writes w id k pl o kf k' pl') :
  wp (tracking w faulty runID) (runtimeOp o) (Settles (Walks w runID) id pl kf k' pl' o) t := by
 cases ho with
 | start hid =>
  refine wp_mono (h.1.current.save (hid.trans h.1.named) h.2.symm nofun) ?_
  rintro (e | _) u hu
  · exact ⟨⟨h.1.named,hu,h.1.within⟩,h.2⟩
  · exact ⟨⟨h.1.named,hu,h.1.within⟩,h.2⟩
 | step hb =>
  refine wp_mono (h.1.boundary hb (.inr ⟨rfl,rfl⟩) .boundary) ?_
  rintro (e | _) u hu
  · exact ⟨hu,h.2⟩
  · exact hu.complete _
 | checkpoint hb =>
  refine wp_mono (h.1.boundary (h.2.2.symm ▸ hb) (.inr ⟨rfl,rfl⟩) .boundary) ?_
  rintro (e | _) u hu
  · exact ⟨hu,h.2⟩
  · exact ⟨hu,h.2.1⟩
 | suspend hwake hb =>
  refine wp_mono (h.1.boundary hb (.inl ⟨rfl,rfl⟩) .boundary) ?_
  rintro (e | _) u hu
  · exact ⟨hu,h.2⟩
  · exact hu
 | sleep hb =>
  refine wp_mono (h.1.boundary hb (.inl ⟨rfl,rfl⟩) (.sleep _)) ?_
  rintro (e | _) u hu
  · exact ⟨hu,h.2⟩
  · exact hu
 | terminal hr | success _ hr =>
  refine wp_mono (Going.terminal h hr) ?_
  rintro (e | _) u hu
  · exact hu
  · exact hu

lemma Walks.skip (h:Walks w runID id k pl t) (ho:Writes w id k pl o kf k' pl') :
  Walks w runID id k' pl' t := by
 cases ho with
 | start hid => exact h
 | step hb => exact h.1.complete _
 | checkpoint hb => exact ⟨h.1,h.2.1⟩
 | suspend hwake hb => exact h.1
 | sleep hb => exact h.1
 | terminal hr => exact h
 | success _ hr => exact h

lemma Walks.find {pl} (h:Walks w runID id .reading pl t) :
  wp (tracking w faulty runID) (runtimeOp (.repo (.getWorkflowRun id)))
   (fun (r:Except Err WorkflowRunRecord) u=>match r with
    | .ok record => Walks w runID id (.found record) pl u
    | .error _ => Walks w runID id .reading pl u) t := by
 have hstill:Still (.repo (.getWorkflowRun id)):=trivial
 refine ⟨⟨h.recorded,trivial⟩,?_⟩
 rintro (e | record) u hu
 · obtain ⟨hstore,hroute⟩:=hstill.keeps hu
   exact Looking.congr h hstore hroute
 · obtain ⟨hstore,hroute⟩:=hstill.keeps hu
   refine ⟨Looking.congr h hstore hroute,?_⟩
   rw [hstore,← h.named]
   exact found_run hu.1

lemma Walks.load {pl} (h:Walks w runID id (.found record) pl t) :
  wp (tracking w faulty runID) (loadSuspendSnapshot w id) (fun r u=>match r with
   | .ok env => Walks w runID id (.loaded record env) pl u
   | .error _ => Walks w runID id (.found record) pl u) t := by
 have hlist:∀ t page,Walks w runID id (.found record) pl t → wp (tracking w faulty runID)
   (runtimeOp (.repo (.listWorkflowSnapshots id page)))
   (fun (r : Except Err SnapshotPage) u=>Walks w runID id (.found record) pl u ∧
    u.runtime.store=t.runtime.store ∧
    ∀ p,r = .ok p → p=paginate (t.runtime.store.snapshots id) page) t := by
  intro t page ht
  have hstill:Still (.repo (.listWorkflowSnapshots id page)):=trivial
  refine ⟨⟨ht.recorded,trivial⟩,?_⟩
  intro r u hu
  obtain ⟨hstore,hroute⟩:=hstill.keeps hu
  refine ⟨ht.congr hstore hroute,hstore,?_⟩
  rintro p rfl
  exact listed_page hu.1
 refine wp_mono (wp_loaded hlist
  (fun u hu=>⟨hu.recorded,trivial⟩) h) ?_
 rintro (e | env) u ⟨hu,hloaded⟩
 · exact hu
 · exact ⟨hu.1,hu.2,h.1.named ▸ hloaded env rfl⟩

lemma Walks.resumed {pl env frames} (h:Walks w runID id (.loaded record env) pl t)
  (hsuspended:record.status = .suspended)
  (hframes:resumeFrames w env.path env.stepID=some frames) :
  wp (tracking w faulty runID) (emitRun
   { type := .resumed, runID := record.id, step := env.step+1, stepID := nextStepID frames })
   (fun _ u=>Walks w runID record.id .resting (resumedPlace env frames) u) t := by
 obtain ⟨⟨_,h⟩,hrecord,n,hlatest⟩:=h
 obtain ⟨hpath,hsuspends⟩:=h.latest record hrecord hsuspended n env hlatest
 refine ⟨⟨h,trivial⟩,?_⟩
 rintro r u ⟨hruntime,_,hroute,_⟩
 have hstore:u.runtime.store=t.runtime.store:=congrArg RuntimeState.store hruntime
 have hu:u.route = { t.route with taken:=t.route.kept } := hroute
 refine ⟨h.named record hrecord,⟨⟨?_,?_⟩,h.congr hstore (by rw [hu]),?_⟩,?_⟩
 · rw [hu,resumedPlace,hpath]
   exact h.kept record hrecord
 · rw [hstore,resumedPlace,hpath]
   intro found hfound
   rw [Option.some.inj (hfound.symm.trans hrecord)]
 · rw [hstore]
   exact hsuspends
 · refine (inherited_within w).resumeFramesFrom _ _ _ frames ?_ hframes
   intro f hf
   rw [mem_singleton.mp hf]
   exact List.Subset.refl _

lemma conduct_paths (w:LinearWorkflow) (faulty:Prop) (runID:RunID) :
  CallConduct (tracking w faulty runID) w (Walks w runID) where
 glance h ho := h.glance ho
 region h hp := h.still (hp.asks.mono fun _=>still_of_regionOp)
 emit h he := h.emit he
 write h _ ho := h.write ho
 skip h _ ho := h.skip ho
 pop h hframes _ := ⟨h.named,h.current,forall_advanceTop fun g hg =>
  h.within g (hframes ▸ mem_cons_of_mem _ hg)⟩
 peek h := h.still (asks_ask trivial fun _=>asks_ret)
 find h := h.find
 load h _ := h.load
 resumed h hsuspended hframes := h.resumed hsuspended hframes

lemma Done.recorded (h:Done (Walks w runID) t) : Recorded w runID t := by
 obtain ⟨id,k,pl,_,h⟩:=h
 exact h.recorded

lemma wp_run_tracking {input} (hid:input.runID=runID ∨ input.runID = "")
  (h:At w runID [] 0 t) :
  wp (tracking w faulty runID) (run w input) (fun _ u=>Recorded w runID u) t := by
 have hidle:∀ u,At w runID [] 0 u → Walks w runID runID .idle (startPlace w) u:=by
  intro u hu
  refine ⟨⟨rfl,hu,?_⟩,rfl⟩
  intro f hf
  rw [mem_singleton.mp hf]
  exact List.Subset.refl _
 refine wp_mono (wp_run (conduct_paths w faulty runID) ?_ ?_) fun _ _ hu=>Done.recorded hu
 · intro _
   refine ⟨⟨h.recorded,trivial⟩,?_⟩
   intro id u hu
   have hstill:Still .newRunID:=trivial
   obtain ⟨hstore,hroute⟩:=hstill.keeps hu
   obtain rfl : id=runID := hu.2.1
   exact hidle u (h.congr hstore hroute)
 · intro hne
   rw [hid.resolve_right hne]
   exact hidle t h

end

inductive Continues (w : LinearWorkflow) (runID : RunID) : RuntimeProg RunOutcome → Prop where
 | resume (input : WorkflowResumeInput) (h : input.runID = runID) :
   Continues w runID (WorkflowRuns.resume w input)
 | wake (token : String) : Continues w runID (resumeWake w runID token)

/-- A run over any number of calls, each of which may stop anywhere: the state reached, and what is
left of the current call. -/
inductive Life (w : LinearWorkflow) (allowed : Route → RuntimeOp → Prop) (faulty : Prop)
  (runID : RunID) (s : RuntimeState) : Track → RuntimeProg RunOutcome → Prop where
 | start (input : WorkflowRunInput) (hid : input.runID = runID ∨ input.runID = "") :
   Life w allowed faulty runID s ⟨s, {}⟩ (run w input)
 | step {t u : Track} {o : RuntimeOp} {k : o.Reply → RuntimeProg RunOutcome} {r : o.Reply}
   (h : Life w allowed faulty runID s t (.ask o k)) (hallowed : allowed t.route o)
   (hruntime : runtimeStep faulty t.runtime o r u.runtime) (hid : Identifies runID o r)
   (hroute : t.route.Next o r u.route) : Life w allowed faulty runID s u (k r)
 | next {t u : Track} {q p : RuntimeProg RunOutcome} (h : Life w allowed faulty runID s t q)
   (hstore : u.runtime.store = t.runtime.store) (hroute : u.route = t.route)
   (hp : Continues w runID p) : Life w allowed faulty runID s u p

def PathOf (w : LinearWorkflow) (route : List Selection) (path : List StepID) : Prop :=
 List.Forall₂ (Selects w) route path ∧ ∀ other, List.Forall₂ (Selects w) other path → other = route

lemma RepoCarries.mono {Q} (hPQ:∀ path,P path → Q path) {o} (h:RepoCarries P o) :
  RepoCarries Q o := by
 cases o with
 | saveWorkflowRun record => exact hPQ _ h
 | saveWorkflowSnapshot snapshot => exact fun env henv=>hPQ _ (h env henv)
 | _ => trivial

lemma Carries.mono {Q} (hPQ:∀ path,P path → Q path) (h:Carries P o) : Carries Q o := by
 cases o with
 | repo o => exact RepoCarries.mono hPQ h
 | transaction body =>
  have hbody:Asks (S:=RepoSig) (RepoCarries P) body := h
  exact hbody.mono fun _=>RepoCarries.mono hPQ
 | _ => trivial

section

variable {w:LinearWorkflow} {faulty:Prop} {runID:RunID} {s:RuntimeState} {t:Track}
variable {q:RuntimeProg RunOutcome}

lemma recorded_of_wp (h:wp (tracking w faulty runID) q (fun _ u=>Recorded w runID u) t) :
  Recorded w runID t := by
 cases q with
 | ret out => exact h
 | ask o k => exact h.1.1

lemma Life.tracked (h:Life w Straight faulty runID s t q) (hruns:s.store.runs runID=none)
  (hsnapshots:s.store.snapshots runID=[]) :
  wp (tracking w faulty runID) q (fun _ u=>Recorded w runID u) t := by
 induction h with
 | start input hid =>
  have hnone:∀ record,s.store.runs runID ≠ some record:=by
   intro record hrecord
   rw [hruns] at hrecord
   cases hrecord
  refine wp_run_tracking hid ⟨⟨.nil,?_⟩,⟨?_,?_,?_⟩,?_⟩
  · exact fun record hrecord=>absurd hrecord (hnone record)
  · exact fun record hrecord=>absurd hrecord (hnone record)
  · exact fun record hrecord=>absurd hrecord (hnone record)
  · exact fun record hrecord=>absurd hrecord (hnone record)
  · intro v hv
    rw [hsnapshots] at hv
    cases hv
 | step _ hallowed hruntime hid hroute ih => exact ih.2 _ _ ⟨hruntime,hid,hroute,hallowed⟩
 | next _ hstore hroute hp ih =>
  have hrecorded:=(recorded_of_wp ih).congr hstore (congrArg Route.kept hroute)
  have C:=conduct_paths w faulty runID
  cases hp with
  | resume input hinput =>
   exact wp_mono (wp_resume C {} ⟨hinput,hrecorded⟩) fun _ _ hu=>Done.recorded hu
  | wake token => exact wp_mono (wp_resumeWake C {} ⟨rfl,hrecorded⟩) fun _ _ hu=>Done.recorded hu

/-- As long as no loop iteration has started after a branch was selected and no fan-out could select
one, the stored path is that of the branches selected when it was stored. -/
theorem stored_paths_follow_route {config : LinearWorkflowConfig} {executor : Nat}
  {number : String → Option String} {pages : Nat}
  (hw : newLinearWorkflow config executor number pages = .ok w)
  (hruns : s.store.runs runID = none) (hsnapshots : s.store.snapshots runID = [])
  (h : Life w Straight faulty runID s t q) :
  (∀ record, t.runtime.store.runs runID = some record → PathOf w t.route.kept record.path) ∧
  ∀ o k, q = .ask o k → Carries (fun path => PathOf w t.route.taken path ∧
   ∀ record, t.runtime.store.runs runID = some record → record.path <+: path) o := by
 obtain ⟨_,hshape,hnodup⟩:=newLinearWorkflow_shape hw
 have hunique:=selects_leftUnique hshape hnodup
 have hpath:∀ route path, List.Forall₂ (Selects w) route path → PathOf w route path :=
  fun route path hroute=>⟨hroute,fun other hother=>left_unique_forall₂' hunique hother hroute⟩
 have htracked:=h.tracked hruns hsnapshots
 refine ⟨?_,?_⟩
 · intro record hrecord
   exact hpath _ _ ((recorded_of_wp htracked).kept record hrecord)
 · rintro o k rfl
   refine Carries.mono ?_ htracked.1.2
   intro path hsaved
   exact ⟨hpath _ _ hsaved.route,hsaved.grows⟩

end

def walk (allowed : Route → RuntimeOp → Bool) (stop : RuntimeOp → Bool)
  (user : (o : RuntimeOp) → Option o.Reply) :
  Nat → Track → RuntimeProg RunOutcome → Option (Track × RuntimeProg RunOutcome)
 | _, t, .ret out => some (t, .ret out)
 | 0, _, .ask _ _ => none
 | n + 1, t, .ask o k =>
  if stop o then some (t, .ask o k)
  else if allowed t.route o then
   match answerWith user o t.runtime with
   | some (r, u) => walk allowed stop user n ⟨u, t.route.next o r⟩ (k r)
   | none => none
  else none

def Traced : RuntimeOp → Prop
 | .fanOut _ => False
 | .newRunID => False
 | _ => True

lemma life_walk {allowed} {faulty:Prop} {runID s check stop user}
  (hcheck:∀ g o,check g o=true → allowed g o ∧ Traced o) {n:Nat} {t u p q}
  (h:Life w allowed faulty runID s t p) (hwalk:walk check stop user n t p=some (u,q)) :
  Life w allowed faulty runID s u q := by
 induction n generalizing t p with
 | zero =>
  cases p with
  | ret out =>
   cases hwalk
   exact h
  | ask o k => cases hwalk
 | succ n ih =>
  cases p with
  | ret out =>
   cases hwalk
   exact h
  | ask o k =>
   rw [walk] at hwalk
   split at hwalk
   · cases hwalk
     exact h
   · split at hwalk
     · next hallowed =>
        obtain ⟨hallowed,htraced⟩:=hcheck _ _ hallowed
        split at hwalk
        · next r v hanswer =>
           refine ih (.step h hallowed (answerWith_step hanswer) ?_ ?_) hwalk
           · cases o with
             | newRunID => exact htraced.elim
             | _ => trivial
           · cases o with
             | fanOut call => exact htraced.elim
             | _ => rfl
        · cases hwalk
     · cases hwalk

def traced : RuntimeOp → Bool
 | .fanOut _ => false
 | .newRunID => false
 | _ => true

lemma traced_iff (h:traced o=true) : Traced o := by
 cases o with
 | fanOut call => cases h
 | newRunID => cases h
 | _ => trivial

def straight (g : Route) : RuntimeOp → Bool
 | .step (.emit e) => e.type ≠ .loopIterationStarted || g.taken.isEmpty
 | o => traced o

lemma straight_iff {g} (h:straight g o=true) : Straight g o ∧ Traced o := by
 cases o with
 | step o =>
  cases o with
  | emit e =>
   refine ⟨?_,trivial⟩
   intro hloop
   simpa [straight,hloop] using h
  | _ => exact ⟨trivial,trivial⟩
 | fanOut call => cases h
 | newRunID => cases h
 | _ => exact ⟨trivial,trivial⟩

def isTransaction : RuntimeOp → Bool
 | .transaction _ => true
 | _ => false

def routeUser : (o : RuntimeOp) → Option o.Reply
 | .step .ctxErr => some none
 | .step (.emit _) => some ()
 | .step (.enterStep _ _) => some ()
 | .step (.branchCondition _ _ _) => some (.ok true)
 | .step (.handler call) => some (reviewUser.handler call)
 | .authorize _ _ => some none
 | .now => some (0 : Int)
 | _ => none

def routeConfig (steps : List Step) : LinearWorkflowConfig where
 definition := { id := "routed" }
 steps := [⟨{ id := "route" }, false, [⟨"left", true, steps⟩], none, none, none, none⟩]
 schemaCompiler := some fun _ => .ok (some ⟨fun _ => none⟩)

/-- A run that was suspended in its branch and resumed is about to save the step after it. -/
theorem resumed_route_stored : ∃ w u o k,
  newLinearWorkflow (routeConfig [askStep, handlerStep "publish"]) 0 some 1 = .ok w ∧
  Life w Straight False "run" .empty u (.ask o k) ∧ isTransaction o = true ∧
  u.route.taken = [("route", "left")] ∧
  Carries (fun path => PathOf w u.route.taken path ∧
   ∀ record, u.runtime.store.runs "run" = some record → record.path <+: path) o := by
 have hwalk:∃ w t out u o k,
   newLinearWorkflow (routeConfig [askStep,handlerStep "publish"]) 0 some 1 = .ok w ∧
   walk straight (fun _=>false) routeUser 40 ⟨.empty,{}⟩
    (run w { input := .json .null, runID := "run" }) = some (t,.ret out) ∧
   walk straight isTransaction routeUser 40 t
    (resume w { runID := "run", input := .json (.str "yes") }) = some (u,.ask o k) ∧
   isTransaction o = true ∧ u.route.taken = [("route","left")] :=
  ⟨_,_,_,_,_,_,rfl,rfl,rfl,rfl,rfl⟩
 obtain ⟨w,t,out,u,o,k,hw,hrun,hresume,ho,htaken⟩:=hwalk
 have hfirst:Life w Straight False "run" .empty t (.ret out) :=
  life_walk (fun _ _=>straight_iff) (.start _ (.inl rfl)) hrun
 have hsecond:Life w Straight False "run" .empty u (.ask o k) :=
  life_walk (fun _ _=>straight_iff) (.next hfirst rfl rfl (.resume _ rfl)) hresume
 exact ⟨w,u,o,k,hw,hsecond,ho,htaken,
  (stored_paths_follow_route hw rfl rfl hsecond).2 o k rfl⟩

/-- The checkpoint of a loop inside of a branch is saved without the branch. -/
theorem loop_checkpoint_loses_path : ∃ w t o k,
  newLinearWorkflow (routeConfig [{ handlerStep "polish" with
   handler := false, doWhile := some ⟨[handlerStep "draft"], 3, true⟩ }]) 0 some 1 = .ok w ∧
  Life w (fun _ _ => True) False "run" .empty t (.ask o k) ∧
  t.route.taken = [("route", "left")] ∧
  ¬ Carries (List.Forall₂ (Selects w) t.route.taken) o := by
 have hwalk:∃ w t body k,
   newLinearWorkflow (routeConfig [{ handlerStep "polish" with
    handler := false, doWhile := some ⟨[handlerStep "draft"],3,true⟩ }]) 0 some 1 = .ok w ∧
   walk (fun _=>traced) isTransaction routeUser 40 ⟨.empty,{}⟩
    (run w { input := .json .null, runID := "run" }) = some (t,.ask (.transaction body) k) ∧
   t.route.taken = [("route","left")] ∧
   ∃ snapshot env f, body = .ask (.saveWorkflowSnapshot snapshot) f ∧
    snapshot.state = .workflow env ∧ env.path = [] :=
  ⟨_,_,_,_,rfl,rfl,rfl,_,_,_,rfl,rfl,rfl⟩
 obtain ⟨w,t,body,k,hw,hrun,htaken,snapshot,env,f,hbody,hstate,hpath⟩:=hwalk
 refine ⟨w,t,_,k,hw,life_walk (fun _ _ h=>⟨trivial,traced_iff h⟩)
  (.start _ (.inl rfl)) hrun,htaken,?_⟩
 intro hcarries
 rw [hbody] at hcarries
 have hroute:List.Forall₂ (Selects w) t.route.taken env.path := hcarries.1 env hstate
 rw [hpath,htaken] at hroute
 cases hroute

end Lebro.WorkflowPaths
