import Lebro.ModelRouting
import Lebro.SequenceCuts
import Mathlib.Data.List.ModifyLast

set_option autoImplicit false

namespace Lebro.RoutedCalls

open EffectProgram RuntimeTypes RuntimeRecords AgentEffects ModelRouting SequenceCuts List

variable {req:ModelRequest} {retries:RouteError → Bool} {ids:List ProviderID}
 {r:ModelRouter} {f:FallbackPolicy} {error lastErr:Option RouteError}
 {target id:ProviderID} {α:Type} {e:RouteError} {entry:ProviderEntry}

/-- A call of a provider: its error, and what the context said when it was looked at before the
next call. -/
structure Call where
 provider : ProviderID
 failure : Option RouteError
 context : Option Err := none

variable {calls' calls:List Call} {c:Call}

structure RouteLog where
 calls : List Call := []
 started : List ProviderID := []
 finished : List ModelAttempt := []

variable {l:RouteLog} {ρ:Type}
 {call:ProviderEntry → ModelRequest → RouterProg (Except RouteError ρ)}

def failureOf {ρ : Type} : Except RouteError ρ → Option RouteError
 | .ok _ => none
 | .error e => some e

def RouteLog.called (l : RouteLog) (provider : ProviderID) (failure : Option RouteError) :
  RouteLog :=
 { l with calls := l.calls ++ [⟨provider, failure, none⟩] }

def Call.seen (e : Option Err) (c : Call) : Call := { c with context := e }

def RouteLog.record (l : RouteLog) : (o : RouterOp) → o.Reply → RouteLog
 | .generate provider _, reply => l.called provider (failureOf reply)
 | .stream provider _, reply => l.called provider (failureOf reply)
 | .ctxErr, e => { l with calls := l.calls.modifyLast (Call.seen e) }
 | .modelAttemptStarted provider _, _ => { l with started := l.started ++ [provider] }
 | .modelAttemptFinished attempt, _ => { l with finished := l.finished ++ [attempt] }

def routeLog (es : List (Event RouterSig)) : RouteLog := es.foldl (fun l e => l.record e.1 e.2) {}

/-- The router goes on after a call: it failed with an error that is retried, and the context was
not done before the next call. -/
def Call.GoesOn (retries : RouteError → Bool) (c : Call) : Prop :=
 c.failure.any retries = true ∧ c.context = none

/-- The calls are the plan, cut after the first call after which the router does not go on. -/
abbrev CutCalls (retries : RouteError → Bool) : List ProviderID → List Call → Prop :=
 Cut Call.provider (Call.GoesOn retries)

def routeMonitor : Monitor RouterSig RouteLog :=
 Monitor.ghost (fun _ _ => True) fun l o r => l.record o r

lemma wp_routerOp (o) (k:o.Reply → RouterProg α) (Q:α → RouteLog → Prop) (l) :
  wp routeMonitor (routerOp o >>= k) Q l ↔ ∀ r,wp routeMonitor (k r) Q (l.record o r) := by
 constructor
 · intro h r
   exact h.2 r _ rfl
 · intro h
   refine ⟨trivial,?_⟩
   rintro r u rfl
   exact h r

lemma of_trace {p:RouterProg α} {es a Q} (h:Trace p es (.ret a)) (hp:wp routeMonitor p Q {}) :
  Q a (routeLog es) :=
 h.wp (Monitor.ghost_follows _ _ _ es) hp

def CallsOnce {ρ : Type}
  (call : ProviderEntry → ModelRequest → RouterProg (Except RouteError ρ)) : Prop :=
 ∀ (entry : ProviderEntry) (req : ModelRequest) (Q : Except RouteError ρ → RouteLog → Prop)
  (l : RouteLog), (∀ reply, Q reply (l.called entry.id (failureOf reply))) →
   wp routeMonitor (call entry req) Q l

lemma callGenerate_once : CallsOnce callGenerate := by
 intro entry req Q l h
 refine ⟨trivial,?_⟩
 rintro reply u rfl
 exact h reply

lemma callStream_once : CallsOnce callStream := by
 intro entry req Q l h
 unfold callStream
 split
 · refine ⟨trivial,?_⟩
   rintro reply u rfl
   exact h reply
 · rw [wp_routerOp]
   intro reply
   cases reply with
   | error e => exact h (.error e)
   | ok response => exact h (.ok (responseToStreamReader response))

structure Reported (retries : RouteError → Bool) (model : String) (prior : List ModelAttempt)
  (l : RouteLog) (attempts : List ModelAttempt) : Prop where
 attempts : attempts = prior ++ l.finished
 finished : l.finished = l.calls.map fun c => attemptOf retries model c.provider c.failure
 started : l.started = l.calls.map Call.provider

section

variable {retries:RouteError → Bool} {model:String} {prior attempts:List ModelAttempt}

lemma attemptOf_provider (provider failure) :
  (attemptOf retries model provider failure).provider=provider := by
 cases failure <;> rfl

def RouteLog.attempted (l : RouteLog) (retries : RouteError → Bool) (model : String)
  (provider : ProviderID) (failure : Option RouteError) : RouteLog where
 calls := l.calls ++ [⟨provider, failure, none⟩]
 started := l.started ++ [provider]
 finished := l.finished ++ [attemptOf retries model provider failure]

lemma Reported.attempted (h:Reported retries model prior l attempts) (provider:ProviderID)
  (failure:Option RouteError) :
  Reported retries model prior (l.attempted retries model provider failure)
   (attempts ++ [attemptOf retries model provider failure]) where
 attempts := by rw [h.attempts,RouteLog.attempted,append_assoc]
 finished := by
  rw [RouteLog.attempted,h.finished,map_append]
  rfl
 started := by
  rw [RouteLog.attempted,h.started,map_append]
  rfl

lemma map_modifyLast {β:Type} (f:α → α) (g:α → β) (hg:∀ a,g (f a)=g a) (as:List α) :
  (as.modifyLast f).map g=as.map g := by
 rcases as.eq_nil_or_concat' with rfl | ⟨bs,b,rfl⟩
 · rfl
 · rw [modifyLast_concat,map_append,map_append,map_singleton,map_singleton,hg]

lemma Reported.looked (h:Reported retries model prior l attempts) (e:Option Err) :
  Reported retries model prior (l.record .ctxErr e) attempts where
 attempts := h.attempts
 finished := by
  rw [RouteLog.record,map_modifyLast (Call.seen e) _ (fun _=>rfl)]
  exact h.finished
 started := by
  rw [RouteLog.record,map_modifyLast (Call.seen e) _ (fun _=>rfl)]
  exact h.started

def Attempted (retries : RouteError → Bool) (attempts : List ModelAttempt) (attempt : ModelAttempt)
  (failure : Option RouteError) : (List ModelAttempt × RouteError) ⊕ RouteResult ρ → Prop
 | .inl (attempts', e) => attempts' = attempts ++ [attempt] ∧ failure = some e ∧ retries e = true
 | .inr out => out.attempts = attempts ++ [attempt] ∧ out.error = failure ∧
   failure.any retries = false

lemma wp_attemptProvider (hcall:CallsOnce call) (entry req l) :
  wp routeMonitor (attemptProvider call retries entry req attempts) (fun a u =>
   ∃ failure,u=l.attempted retries req.model entry.id failure ∧
    Attempted retries attempts (attemptOf retries req.model entry.id failure) failure a) l := by
 unfold attemptProvider
 rw [wp_routerOp]
 intro _
 rw [wp_bind]
 apply hcall entry req _ _
 intro reply
 cases reply with
 | ok response =>
  change wp routeMonitor (routerOp _ >>= _) _ _
  rw [wp_routerOp]
  intro _
  exact ⟨none,rfl,rfl,rfl,rfl⟩
 | error e =>
  change wp routeMonitor (routerOp _ >>= _) _ _
  rw [wp_routerOp]
  intro _
  split
  · rename_i hretries
    exact ⟨some e,rfl,rfl,rfl,hretries⟩
  · rename_i hretries
    exact ⟨some e,rfl,rfl,rfl,by simpa using hretries⟩

end

structure Walk where
 policy : FallbackPolicy
 skip : ProviderID
 registry : ProviderRegistry
 reqs : ProviderCapabilities
 eligible : List ProviderID

variable {w:Walk}

namespace Walk

def considers (w : Walk) (id : ProviderID) : Bool := considered w.skip w.eligible id

def callable (w : Walk) (id : ProviderID) : Bool := w.considers id && w.registry.capable w.reqs id

/-- A walk over entries, from the calls before it to all calls, and the error it returns. -/
inductive Walked (w : Walk) :
  List ProviderID → Option RouteError → List Call → List Call → Option RouteError → Prop where
 | exhausted (lastErr : Option RouteError) (calls : List Call) :
   Walked w [] lastErr calls calls (some (lastErr.getD errChainExhausted))
 | ignored {id : ProviderID} {ids : List ProviderID} {lastErr error : Option RouteError}
   {calls calls' : List Call} (hid : w.considers id = false)
   (tail : Walked w ids lastErr calls calls' error) :
   Walked w (id :: ids) lastErr calls calls' error
 | ended {id : ProviderID} {ids : List ProviderID} {lastErr : Option RouteError}
   {calls : List Call} (hid : w.considers id = true) (e : Err) :
   Walked w (id :: ids) lastErr calls (calls.modifyLast (Call.seen (some e))) (some ⟨e, none⟩)
 | unregistered {id : ProviderID} {ids : List ProviderID} {lastErr error : Option RouteError}
   {calls calls' : List Call} (hid : w.considers id = true)
   (hget : w.registry.registered id = false)
   (tail : Walked w ids (some (ProviderRegistry.errProviderNotFound id)) calls calls' error) :
   Walked w (id :: ids) lastErr calls calls' error
 | incapable {id : ProviderID} {ids : List ProviderID} {lastErr error : Option RouteError}
   {calls calls' : List Call} (hget : w.registry.registered id = true)
   (hcapable : w.registry.capable w.reqs id = false)
   (tail : Walked w ids lastErr calls calls' error) :
   Walked w (id :: ids) lastErr calls calls' error
 | decided {id : ProviderID} {ids : List ProviderID} {lastErr : Option RouteError}
   {calls : List Call} (hid : w.callable id = true) (failure : Option RouteError)
   (hfailure : failure.any w.policy.retries = false) :
   Walked w (id :: ids) lastErr calls (calls ++ [⟨id, failure, none⟩]) failure
 | retried {id : ProviderID} {ids : List ProviderID} {lastErr error : Option RouteError}
   {calls calls' : List Call} (hid : w.callable id = true) {e : RouteError}
   (hretries : w.policy.retries e = true)
   (tail : Walked w ids (some e) (calls ++ [⟨id, some e, none⟩]) calls' error) :
   Walked w (id :: ids) lastErr calls calls' error

def run (call : ProviderEntry → ModelRequest → RouterProg (Except RouteError ρ)) (w : Walk)
  (req : ModelRequest) (ids : List ProviderID) (lastErr : Option RouteError)
  (attempts : List ModelAttempt) : RouterProg (RouteResult ρ) :=
 walkChain call w.policy req w.skip w.registry w.reqs w.eligible ids lastErr attempts

lemma record_alive (hopen:∀ c ∈ l.calls,c.context=none) : l.record .ctxErr none=l := by
 have hcalls:l.calls.modifyLast (Call.seen none)=l.calls:=by
  rcases l.calls.eq_nil_or_concat' with hnil | ⟨cs,c,hconcat⟩
  · rw [hnil]
    rfl
  · have hc:Call.seen none c=c:=by
     have hnone:=hopen c (by simp [hconcat])
     cases c
     cases hnone
     rfl
    rw [hconcat,modifyLast_concat,hc]
 rw [RouteLog.record,hcalls]

lemma open_attempted (hopen:∀ c ∈ l.calls,c.context=none) (retries:RouteError → Bool) (model)
  (provider failure) :
  ∀ c ∈ (l.attempted retries model provider failure).calls,c.context=none := by
 intro c hc
 rcases mem_append.mp hc with hc | hc
 · exact hopen c hc
 · rw [mem_singleton.mp hc]

lemma wp_run (hcall:CallsOnce call) (w:Walk) (req prior ids lastErr attempts l)
  (hopen:∀ c ∈ l.calls,c.context=none)
  (hreported:Reported w.policy.retries req.model prior l attempts) :
  wp routeMonitor (w.run call req ids lastErr attempts) (fun out u =>
   w.Walked ids lastErr l.calls u.calls out.error ∧
    Reported w.policy.retries req.model prior u out.attempts) l := by
 induction ids generalizing lastErr attempts l with
 | nil => exact ⟨.exhausted lastErr l.calls,hreported⟩
 | cons id ids ih =>
  rw [run,walkChain]
  split
  · rename_i hid
    rw [wp_routerOp]
    intro ended
    cases ended with
    | some e => exact ⟨.ended hid e,hreported.looked (some e)⟩
    | none =>
     rw [record_alive hopen]
     dsimp only
     cases hget : w.registry.get id with
     | error e =>
      cases ProviderRegistry.get_error hget
      have hmissing:w.registry.registered id=false:=by
       rw [ProviderRegistry.registered,hget]
       rfl
      exact wp_mono (ih _ attempts l hopen hreported)
       fun out u h=>⟨.unregistered hid hmissing h.1,h.2⟩
     | ok entry =>
      dsimp only
      have hregistered:w.registry.registered id=true:=by
       rw [ProviderRegistry.registered,hget]
       rfl
      have hcapable:w.registry.capable w.reqs id=entry.capabilities.satisfies w.reqs:=by
       rw [ProviderRegistry.capable,hget]
      split
      · rename_i hsatisfies
        have hcallable:w.callable id=true:=by
         rw [callable,hcapable,hsatisfies]
         exact (Bool.and_true _).trans hid
        apply wp_seq (wp_attemptProvider hcall entry req l)
        rintro a u ⟨failure,rfl,ha⟩
        rw [ProviderRegistry.get_id hget] at ha ⊢
        have hreported:=hreported.attempted id failure
        cases a with
        | inr out =>
         obtain ⟨hattempts,herror,hfailure⟩:=ha
         refine ⟨?_,hattempts ▸ hreported⟩
         rw [herror]
         exact .decided hcallable failure hfailure
        | inl p =>
         obtain ⟨hattempts,rfl,hretries⟩:=ha
         rw [← hattempts] at hreported
         exact wp_mono (ih _ _ _ (open_attempted hopen _ _ _ _) hreported)
          fun out u h=>⟨.retried hcallable hretries h.1,h.2⟩
      · rename_i hsatisfies
        have hincapable:w.registry.capable w.reqs id=false:=by
         rw [hcapable]
         exact Bool.eq_false_iff.mpr hsatisfies
        exact wp_mono (ih lastErr attempts l hopen hreported)
         fun out u h=>⟨.incapable hregistered hincapable h.1,h.2⟩
  · rename_i hid
    exact wp_mono (ih lastErr attempts l hopen hreported)
     fun out u h=>⟨.ignored (Bool.eq_false_iff.mpr hid) h.1,h.2⟩

end Walk

namespace Walk

lemma callable_of_ignored (h:w.considers id=false) : w.callable id=false := by
 rw [callable,h,Bool.false_and]
lemma callable_of_incapable (h : w.registry.capable w.reqs id=false) : w.callable id=false := by
 rw [callable,h,Bool.and_false]

lemma callable_of_unregistered (h:w.registry.registered id=false) : w.callable id=false := by
 apply callable_of_incapable
 rw [ProviderRegistry.registered] at h
 rw [ProviderRegistry.capable]
 cases hget : w.registry.get id with
 | error e => rfl
 | ok entry =>
  rw [hget] at h
  cases h

lemma goesOn_append (hon:∀ c ∈ calls,c.GoesOn retries) {id} (hretries:retries e=true) :
  ∀ c ∈ calls ++ [⟨id,some e,none⟩],c.GoesOn retries := by
 intro c hc
 rcases mem_append.mp hc with hc | hc
 · exact hon c hc
 · rw [mem_singleton.mp hc]
   exact ⟨hretries,rfl⟩

lemma Walked.cut (h:w.Walked ids lastErr calls calls' error) (hne:calls ≠ [])
  (hon:∀ c ∈ calls,c.GoesOn w.policy.retries) :
  CutCalls w.policy.retries (calls.map Call.provider++ids.filter w.callable) calls' := by
 induction h with
 | exhausted lastErr calls => simpa using Cut.append hon .finished
 | ignored hid _ ih =>
  rw [filter_cons_of_neg (by simp [callable_of_ignored hid])]
  exact ih hne hon
 | @ended id ids lastErr calls hid e =>
  -- The look at the context is noted with the last call, which then is the one that stops.
  obtain ⟨cs,c,rfl⟩:=(calls.eq_nil_or_concat').resolve_left hne
  have hstops:¬ (Call.seen (some e) c).GoesOn w.policy.retries:=by
   rintro ⟨_,hcontext⟩
   cases hcontext
  rw [modifyLast_concat,map_append,append_assoc]
  exact Cut.append (fun d hd=>hon d (mem_append_left _ hd)) (.stopped _ _ hstops)
 | unregistered _ hget _ ih =>
  rw [filter_cons_of_neg (by simp [callable_of_unregistered hget])]
  exact ih hne hon
 | incapable _ hcapable _ ih =>
  rw [filter_cons_of_neg (by simp [callable_of_incapable hcapable])]
  exact ih hne hon
 | @decided id ids lastErr calls hid failure hfailure =>
  rw [filter_cons_of_pos hid]
  refine Cut.append hon (Cut.stopped (Call.mk id failure none) _ ?_)
  rintro ⟨hretried,_⟩
  exact Bool.false_ne_true (hfailure.symm.trans hretried)
 | @retried id ids lastErr error calls calls' hid e hretries _ ih =>
  have hcut:=ih (by simp) (goesOn_append hon hretries)
  rw [map_append,append_assoc] at hcut
  rwa [filter_cons_of_pos hid]

end Walk

lemma nodup_of_checkChain {seen} (h:checkChain seen ids=none) :
  ids.Nodup ∧ ∀ id ∈ ids,id ∉ seen := by
 induction ids generalizing seen with
 | nil => exact ⟨nodup_nil,nofun⟩
 | cons id ids ih =>
  rw [checkChain] at h
  split at h
  · cases h
  split at h
  · cases h
  rename_i hunseen
  obtain ⟨hnodup,hfresh⟩:=ih h
  refine ⟨nodup_cons.mpr ⟨fun hid=>hfresh id hid mem_cons_self,hnodup⟩,?_⟩
  intro other hother
  rcases mem_cons.mp hother with rfl | hother
  · exact hunseen
  · exact fun hseen=>hfresh other hother (mem_cons_of_mem _ hseen)

lemma chain_nodup (h:f.validate=none) : f.chain.Nodup := by
 unfold FallbackPolicy.validate at h
 split at h
 · cases h
 · exact (nodup_of_checkChain h).1

def routerWalk (r : ModelRouter) (f : FallbackPolicy) (req : ModelRequest) (target : ProviderID) :
  Walk :=
 ⟨f, target, r.registry, requestRequirements req, r.policy.eligible⟩

/-- The target, and the entries of the fallback chain that can be called after it. -/
def plan (r : ModelRouter) (req : ModelRequest) (target : ProviderID) : List ProviderID :=
 target :: match r.fallback with
  | none => []
  | some f => f.chain.filter (routerWalk r f req target).callable

def Permitted (r : ModelRouter) (req : ModelRequest) (id : ProviderID) : Prop :=
 id ∈ r.eligible ∧ r.registry.capable (requestRequirements req) id = true

lemma permitted_of_get (hid:id ∈ r.eligible) (hget:r.registry.get id = .ok entry)
  (hcapable:entry.capabilities.satisfies (requestRequirements req)=true) :
  Permitted r req entry.id := by
 rw [ProviderRegistry.get_id hget]
 refine ⟨hid,?_⟩
 rw [ProviderRegistry.capable,hget]
 exact hcapable

lemma permitted_of_resolveEligible (hids:∀ id ∈ ids,id ∈ r.eligible)
  (h:r.resolveEligible (requestRequirements req) ids = .ok entry) :
  Permitted r req entry.id := by
 induction ids with
 | nil => cases h
 | cons id ids ih =>
  have htail:=ih fun other hother=>hids other (mem_cons_of_mem _ hother)
  rw [ModelRouter.resolveEligible] at h
  split at h
  · exact htail h
  rename_i found hget
  split at h
  · rename_i hcapable
    cases h
    exact permitted_of_get (hids id mem_cons_self) hget hcapable
  · exact htail h

lemma permitted_of_resolvePrimary (h:r.resolvePrimary (requestRequirements req) = .ok entry) :
  Permitted r req entry.id := by
 unfold ModelRouter.resolvePrimary at h
 split at h
 · rename_i hprimary
   split at h
   · cases h
   rename_i found hget
   split at h
   · rename_i hcapable
     cases h
     exact permitted_of_get hprimary.2 hget hcapable
   · exact permitted_of_resolveEligible (fun _ hid=>hid) h
 · exact permitted_of_resolveEligible (fun _ hid=>hid) h

lemma permitted_of_resolvePredicted
  (h:r.resolvePredicted (requestRequirements req) id = .ok entry) :
  Permitted r req entry.id := by
 unfold ModelRouter.resolvePredicted at h
 split at h
 · cases h
 rename_i hid
 split at h
 · cases h
 rename_i found hget
 split at h
 · rename_i hcapable
   cases h
   exact permitted_of_get (not_not.mp hid) hget hcapable
 · cases h

lemma target_permitted (h:r.resolveTargetWithEntry req = .ok entry) :
  Permitted r req entry.id := by
 unfold ModelRouter.resolveTargetWithEntry at h
 split at h
 · exact permitted_of_resolvePrimary h
 split at h
 · exact permitted_of_resolvePredicted h
 · exact permitted_of_resolvePrimary h

lemma registered_mem_ids {registry:ProviderRegistry} (h:registry.get id = .ok entry) :
  id ∈ registry.ids := by
 have hid:=ProviderRegistry.get_id h
 unfold ProviderRegistry.get at h
 split at h
 · rename_i found hfound
   cases h
   exact mem_map.mpr ⟨entry,mem_of_find?_eq_some hfound,hid⟩
 · cases h

lemma callable_permitted (h:(routerWalk r f req target).callable id=true) :
  Permitted r req id := by
 obtain ⟨hconsiders,hcapable⟩:=(Bool.and_eq_true _ _).mp h
 refine ⟨?_,hcapable⟩
 obtain ⟨_,heligible⟩:=(Bool.and_eq_true _ _).mp hconsiders
 unfold ModelRouter.eligible
 split
 · change r.registry.capable _ id=true at hcapable
   rw [ProviderRegistry.capable] at hcapable
   split at hcapable
   · rename_i entry hget
     exact registered_mem_ids hget
   · cases hcapable
 · rename_i hrestricted
   rcases (Bool.or_eq_true _ _).mp heligible with hempty | hmem
   · exact absurd hempty hrestricted
   · exact contains_iff_mem.mp hmem

lemma plan_permitted (h:Permitted r req target) :
  ∀ id ∈ plan r req target,Permitted r req id := by
 intro id hid
 rcases mem_cons.mp hid with rfl | hid
 · exact h
 · split at hid
   · cases hid
   · exact callable_permitted (mem_filter.mp hid).2

lemma plan_nodup {r req target} : (plan r req target).Nodup := by
 unfold plan
 split
 · exact nodup_singleton target
 rename_i f hf
 refine nodup_cons.mpr ⟨?_,(chain_nodup (r.validated f hf)).filter _⟩
 intro hmem
 have hcallable:=(mem_filter.mp hmem).2
 simp [Walk.callable,Walk.considers,considered,routerWalk] at hcallable

def Selects (r : ModelRouter) (req : ModelRequest) (l : RouteLog) (attempts : List ModelAttempt) :
  Prop :=
 match r.resolveTargetWithEntry req with
 | .error _ => l.calls = [] ∧ attempts = []
 | .ok entry => CutCalls r.retries (plan r req entry.id) l.calls ∧
   (l.calls.map Call.provider).Nodup ∧ (∀ c ∈ l.calls, Permitted r req c.provider) ∧
   attempts = l.calls.map (fun c => attemptOf r.retries req.model c.provider c.failure) ∧
   l.started = l.calls.map Call.provider ∧ l.finished = attempts

inductive Routed (r : ModelRouter) (req : ModelRequest) (target : ProviderID) :
  List Call → Option RouteError → Prop where
 | decided (failure : Option RouteError) (hfailure : failure.any r.retries = false) :
   Routed r req target [⟨target, failure, none⟩] failure
 | walked {f : FallbackPolicy} (hf : r.fallback = some f) {e : RouteError}
   (hretries : f.retries e = true) {calls : List Call} {error : Option RouteError}
   (walk : (routerWalk r f req target).Walked f.chain none [⟨target, some e, none⟩] calls
    error) : Routed r req target calls error

lemma retries_eq (hf:r.fallback=some f) : r.retries=f.retries := by
 funext e
 rw [ModelRouter.retries,hf]
 rfl

lemma wp_route (hcall:CallsOnce call) (r req)
  (htarget:r.resolveTargetWithEntry req = .ok entry) :
  wp routeMonitor (r.route call req) (fun out l =>
   Routed r req entry.id l.calls out.error ∧ Reported r.retries req.model [] l out.attempts)
   {} := by
 rw [ModelRouter.route,htarget]
 apply wp_seq (wp_attemptProvider hcall entry req {})
 rintro a u ⟨failure,rfl,ha⟩
 have hreported:Reported r.retries req.model []
   (({} : RouteLog).attempted r.retries req.model entry.id failure)
   [attemptOf r.retries req.model entry.id failure] :=
  Reported.attempted ⟨rfl,rfl,rfl⟩ entry.id failure
 cases a with
 | inr out =>
  obtain ⟨hattempts,herror,hfailure⟩:=ha
  refine ⟨?_,hattempts ▸ hreported⟩
  rw [herror]
  exact .decided failure hfailure
 | inl p =>
  obtain ⟨attempts,e⟩:=p
  obtain ⟨rfl,rfl,hretries⟩:=ha
  cases hf : r.fallback with
  | none =>
   rw [ModelRouter.retries,hf] at hretries
   cases hretries
  | some f =>
   rw [retries_eq hf] at hretries hreported ⊢
   have hopen:∀ c ∈ (({} : RouteLog).attempted f.retries req.model entry.id
     (some e)).calls,c.context=none :=
    Walk.open_attempted (by simp) _ _ _ _
   refine wp_mono ((routerWalk r f req entry.id).wp_run hcall req [] f.chain none _ _ hopen
    hreported) ?_
   intro out u h
   exact ⟨.walked hf hretries h.1,h.2⟩

lemma Routed.cut (h:Routed r req target calls error) :
  CutCalls r.retries (plan r req target) calls := by
 cases h with
 | decided failure hfailure =>
  apply Cut.stopped (Call.mk target error none) _
  rintro ⟨hretried,_⟩
  exact Bool.false_ne_true (hfailure.symm.trans hretried)
 | @walked f hf e hretries _ _ walk =>
  have hcut:=walk.cut (by simp) (by
   intro c hc
   rw [mem_singleton.mp hc]
   exact ⟨hretries,rfl⟩)
  rw [retries_eq hf,plan,hf]
  exact hcut

lemma selects_of_trace (hcall:CallsOnce call) (r req es out)
  (h:Trace (r.route call req) es (.ret out)) : Selects r req (routeLog es) out.attempts := by
 cases htarget : r.resolveTargetWithEntry req with
 | error e =>
  rw [ModelRouter.route,htarget] at h
  cases h
  rw [Selects,htarget]
  exact ⟨rfl,rfl⟩
 | ok entry =>
  obtain ⟨hrouted,hreported⟩:=of_trace h (wp_route hcall r req htarget)
  have hcut:=hrouted.cut
  have hattempts:out.attempts=(routeLog es).finished:=hreported.attempts
  rw [Selects,htarget]
  refine ⟨hcut,(plan_nodup).sublist hcut.order.sublist,?_,
   hattempts.trans hreported.finished,hreported.started,hattempts.symm⟩
  intro c hc
  exact plan_permitted (target_permitted htarget) c.provider
   (hcut.order.subset (mem_map_of_mem hc))

namespace Walk

def laterEntries (w : Walk) : Nat → List ProviderID → List ProviderID
 | 0, ids => ids
 | _ + 1, [] => []
 | n + 1, id :: ids => if w.callable id then w.laterEntries n ids else w.laterEntries (n + 1) ids

lemma forall_laterEntries_cons {n:Nat} {ids} {P:ProviderID → Prop}
  (hcallable:w.callable id=false) (hP:P id) :
  (∀ other ∈ w.laterEntries n (id :: ids),P other) ↔ ∀ other ∈ w.laterEntries n ids,P other := by
 cases n with
 | zero =>
  rw [laterEntries,laterEntries,forall_mem_cons]
  exact and_iff_right hP
 | succ n => rw [laterEntries,if_neg (by simp [hcallable])]

def Known (w : Walk) (id : ProviderID) : Prop :=
 w.considers id = true → w.registry.registered id = true

/-- The error of the last of `n` calls is not retried, or the walk found the context alive after it
and no unregistered entry behind it. -/
def Undisturbed (w : Walk) (n : Nat) (c : Call) : Prop :=
 c.failure.any w.policy.retries = false ∨
  0 < n ∧ c.context = none ∧ ∀ id ∈ w.laterEntries n w.policy.chain, w.Known id

lemma model_of_retries (h:f.retries e=true) : e.model ≠ none := by
 intro hnone
 rw [FallbackPolicy.retries,hnone] at h
 cases h

lemma failure_ne {failure} (h:failure.any w.policy.retries=true) (he:e.model=none) :
  some e ≠ failure := by
 rintro rfl
 exact model_of_retries h he

lemma Walked.failures (h:w.Walked ids lastErr calls calls' error) :
  calls.map Call.failure <+: calls'.map Call.failure := by
 induction h with
 | exhausted => exact prefix_refl _
 | ignored _ _ ih => exact ih
 | ended _ e =>
  have hfailures:=map_modifyLast (Call.seen (some e)) Call.failure (fun _=>rfl)
  exact ⟨[],by rw [append_nil,hfailures]⟩
 | unregistered _ _ _ ih => exact ih
 | incapable _ _ _ ih => exact ih
 | decided => exact ⟨_,(map_append).symm⟩
 | retried _ _ _ ih =>
  rw [map_append] at ih
  exact (prefix_append _ _).trans ih

lemma Walked.length_le (h:w.Walked ids lastErr calls calls' error) :
  calls.length ≤ calls'.length := by
 simpa using h.failures.length_le

lemma Walked.failure_of_length {d} (h:w.Walked ids lastErr (calls ++ [d]) calls' error)
  (hc:calls'.getLast? = some c) (hlength:calls'.length=calls.length+1) :
  c.failure=d.failure := by
 have heq:(calls ++ [d]).map Call.failure=calls'.map Call.failure:=
  h.failures.eq_of_length (by simp [hlength])
 have hlast:=congrArg List.getLast? heq
 rw [List.getLast?_map,List.getLast?_map,List.getLast?_concat,hc] at hlast
 exact (Option.some.inj hlast).symm

lemma Walked.error_iff (h:w.Walked ids lastErr calls calls' error)
  (hon:∀ c ∈ calls,c.GoesOn w.policy.retries) (hc:calls'.getLast? = some c)
  (hfailed:c.failure ≠ none) :
  error=c.failure ↔ c.failure.any w.policy.retries=false ∨
   (calls.length < calls'.length ∨ lastErr=c.failure) ∧ c.context=none ∧
    ∀ id ∈ w.laterEntries (calls'.length - calls.length) ids,w.Known id := by
 induction h with
 | exhausted lastErr calls =>
  obtain ⟨hretried,hcontext⟩:=hon c (mem_of_getLast? hc)
  rw [hretried,Nat.sub_self,laterEntries]
  have hempty:∀ id ∈ ([] : List ProviderID),w.Known id:=nofun
  have hget:some (lastErr.getD errChainExhausted)=c.failure ↔ lastErr=c.failure:=by
   cases lastErr with
   | some e => exact Iff.rfl
   | none => exact ⟨fun h=>absurd h (failure_ne hretried rfl),fun h=>absurd h.symm hfailed⟩
  simp [hget,hcontext]
 | ignored hid _ ih =>
  rw [ih hon hc,forall_laterEntries_cons (callable_of_ignored hid)
   (fun h=>absurd (hid.symm.trans h) Bool.false_ne_true)]
 | @ended id ids lastErr calls hid e =>
  rcases calls.eq_nil_or_concat' with rfl | ⟨cs,d,rfl⟩
  · cases hc
  · rw [modifyLast_concat,List.getLast?_concat] at hc
    cases hc
    obtain ⟨hretried,_⟩:=hon d (by simp)
    constructor
    · intro h
      exact absurd h (failure_ne hretried rfl)
    · rintro (hfalse | ⟨_,hcontext,_⟩)
      · exact absurd (hfalse.symm.trans hretried) Bool.false_ne_true
      · cases hcontext
 | @unregistered id ids lastErr error calls calls' hid hget tail ih =>
  rw [ih hon hc]
  have hcallable:=callable_of_unregistered hget
  refine or_congr_right' fun hretried=>?_
  have hne:some (ProviderRegistry.errProviderNotFound id) ≠ c.failure:=
   failure_ne (by simpa using hretried) rfl
  rcases Nat.lt_or_ge calls.length calls'.length with hlt | hge
  · obtain ⟨n,hn⟩ : ∃ n,calls'.length - calls.length=n+1 :=
     ⟨calls'.length - calls.length - 1,by omega⟩
    rw [hn,laterEntries.eq_3,if_neg (by simp [hcallable])]
    simp [hlt]
  · have hzero:calls'.length - calls.length=0:=by omega
    rw [hzero]
    constructor
    · rintro ⟨hlast,_⟩
      exact absurd hlast (not_or.mpr ⟨by omega,hne⟩)
    · rintro ⟨_,_,hknown⟩
      have hregistered:=hknown id mem_cons_self hid
      exact absurd (hget.symm.trans hregistered) Bool.false_ne_true
 | incapable hget hcapable _ ih =>
  rw [ih hon hc,forall_laterEntries_cons (callable_of_incapable hcapable) fun _=>hget]
 | decided _ failure hfailure =>
  rw [List.getLast?_concat] at hc
  cases hc
  simp [hfailure]
 | @retried id ids lastErr error calls calls' hid e hretries tail ih =>
  have hle:=tail.length_le
  rw [length_append,length_singleton] at hle
  rw [ih (goesOn_append hon hretries) hc,length_append,length_singleton]
  obtain ⟨n,hn⟩ : ∃ n,calls'.length=calls.length+1+n :=
   ⟨calls'.length - (calls.length+1),by omega⟩
  have hlater:w.laterEntries (calls'.length - calls.length) (id :: ids) =
    w.laterEntries (calls'.length - (calls.length+1)) ids := by
   rw [hn,show calls.length+1+n - calls.length=n+1 by omega,
    show calls.length+1+n - (calls.length+1)=n by omega,laterEntries,if_pos hid]
  have hlast:calls.length+1 < calls'.length ∨ some e=c.failure:=by
   rcases Nat.lt_or_ge (calls.length+1) calls'.length with hlt | hge
   · exact .inl hlt
   · exact .inr (tail.failure_of_length hc (by omega)).symm
  have hmore:calls.length < calls'.length:=by omega
  rw [hlater]
  simp [hlast,hmore]

end Walk

def KeepsError {ρ : Type} (calls : List Call) (out : RouteResult ρ) : Prop :=
 ∃ c ∈ calls.getLast?, out.error = c.failure ∧
  out.attempts.getLast?.map ModelAttempt.provider = some c.provider

/-- When providers were called and none succeeded, the error of the last one is returned under the
condition and only then. -/
def ErrorKeptWhen {ρ : Type} (p : RouterProg (RouteResult ρ)) (condition : List Call → Prop) :
  Prop :=
 ∀ es out, Trace p es (.ret out) → (routeLog es).calls ≠ [] →
  (∀ c ∈ (routeLog es).calls, c.failure ≠ none) →
   (KeepsError (routeLog es).calls out ↔ condition (routeLog es).calls)

def policyWalk (f : FallbackPolicy) (skip : ProviderID) (registry : ProviderRegistry)
  (reqs : ProviderCapabilities) (eligible : List ProviderID) : Walk :=
 ⟨f, skip, registry, reqs, eligible⟩

def Walk.Keeps (w : Walk) (calls : List Call) : Prop :=
 ∀ c ∈ calls.getLast?, w.Undisturbed calls.length c

def RouterKeeps (r : ModelRouter) (req : ModelRequest) (calls : List Call) : Prop :=
 ∀ f entry, r.fallback = some f → r.resolveTargetWithEntry req = .ok entry →
  ∀ c ∈ calls.getLast?, (routerWalk r f req entry.id).Undisturbed (calls.length - 1) c

lemma Reported.last {model prior attempts} (h:Reported retries model prior l attempts)
  (hc:l.calls.getLast? = some c) :
  attempts.getLast?.map ModelAttempt.provider=some c.provider := by
 rw [h.attempts,h.finished]
 obtain ⟨cs,hcs⟩:=List.getLast?_eq_some_iff.mp hc
 rw [hcs,map_append,map_singleton,← append_assoc,List.getLast?_concat,
  Option.map_some,attemptOf_provider]

lemma keepsError_iff {model prior} {out:RouteResult ρ}
  (h:Reported retries model prior l out.attempts) (hc:l.calls.getLast? = some c) :
  KeepsError l.calls out ↔ out.error=c.failure := by
 constructor
 · rintro ⟨d,hd,herror,_⟩
   cases hc.symm.trans hd
   exact herror
 · intro herror
   exact ⟨c,hc,herror,h.last hc⟩

lemma policy_error_iff (hcall:CallsOnce call) (w:Walk) (req prior) :
  ErrorKeptWhen (w.run call req w.policy.chain none prior) w.Keeps := by
 intro es out h hne hfailed
 obtain ⟨hwalked,hreported⟩:=of_trace h
  (w.wp_run hcall req prior w.policy.chain none prior {} (by simp)
   ⟨(append_nil _).symm,rfl,rfl⟩)
 obtain ⟨cs,c,hcs⟩:=((routeLog es).calls.eq_nil_or_concat').resolve_left hne
 have hc:(routeLog es).calls.getLast? = some c:=by rw [hcs,List.getLast?_concat]
 have hsome:=hfailed c (mem_of_getLast? hc)
 rw [keepsError_iff hreported hc,hwalked.error_iff (by simp) hc hsome]
 have hpositive:0 < (routeLog es).calls.length:=length_pos_iff.mpr hne
 have hkeeps:w.Keeps (routeLog es).calls ↔ w.Undisturbed (routeLog es).calls.length c:=by
  rw [Walk.Keeps,hc]
  exact ⟨fun h=>h c rfl,fun h d hd=>Option.some.inj hd ▸ h⟩
 rw [hkeeps,Walk.Undisturbed]
 simp [hpositive]

lemma router_error_iff (hcall:CallsOnce call) {r req} :
  ErrorKeptWhen (r.route call req) (RouterKeeps r req) := by
 intro es out h hne hfailed
 cases htarget : r.resolveTargetWithEntry req with
 | error e =>
  rw [ModelRouter.route,htarget] at h
  cases h
  exact absurd rfl hne
 | ok entry =>
  obtain ⟨hrouted,hreported⟩:=of_trace h (wp_route hcall r req htarget)
  obtain ⟨cs,c,hcs⟩:=((routeLog es).calls.eq_nil_or_concat').resolve_left hne
  have hc:(routeLog es).calls.getLast? = some c:=by rw [hcs,List.getLast?_concat]
  have hsome:=hfailed c (mem_of_getLast? hc)
  have hkeeps:RouterKeeps r req (routeLog es).calls ↔ ∀ f,r.fallback=some f →
    (routerWalk r f req entry.id).Undisturbed ((routeLog es).calls.length - 1) c := by
   constructor
   · intro h f hf
     exact h f entry hf htarget c hc
   · rintro h f target hf htarget' d hd
     cases htarget.symm.trans htarget'
     cases hc.symm.trans hd
     exact h f hf
  rw [keepsError_iff hreported hc,hkeeps]
  generalize (routeLog es).calls=calls at hrouted hc
  generalize out.error=error at hrouted
  cases hrouted with
  | decided failure hfailure =>
   cases hc
   apply iff_of_true rfl
   intro f hf
   rw [retries_eq hf] at hfailure
   exact .inl hfailure
  | @walked f hf e hretries _ _ walk =>
   have hon:∀ d ∈ [(⟨entry.id,some e,none⟩ : Call)],d.GoesOn f.retries:=by
    intro d hd
    rw [mem_singleton.mp hd]
    exact ⟨hretries,rfl⟩
   rw [walk.error_iff hon hc hsome]
   have hfallback:(∀ f',r.fallback=some f' →
     (routerWalk r f' req entry.id).Undisturbed (calls.length - 1) c) ↔
     (routerWalk r f req entry.id).Undisturbed (calls.length - 1) c := by
    rw [hf]
    exact ⟨fun h=>h f rfl,fun h f' hf'=>Option.some.inj hf' ▸ h⟩
   rw [hfallback,Walk.Undisturbed]
   have hlast:([(⟨entry.id,some e,none⟩ : Call)].length < calls.length ∨
     none=c.failure) ↔ 0 < calls.length - 1 := by
    rw [length_singleton,or_iff_left (fun h=>hsome h.symm)]
    omega
   rw [hlast]
   rfl

/-- The error of the last provider called is returned unless the walk behind it ends otherwise or
makes no call at all. -/
theorem fallback_error_kept_iff (r : ModelRouter) (req : ModelRequest) (f : FallbackPolicy)
  (skip : ProviderID) (registry : ProviderRegistry) (reqs : ProviderCapabilities)
  (eligible : List ProviderID) (prior : List ModelAttempt) :
  ErrorKeptWhen (r.generateWithAttempts req) (RouterKeeps r req) ∧
  ErrorKeptWhen (r.streamWithAttempts req) (RouterKeeps r req) ∧
  ErrorKeptWhen (f.generateWithAttempts req skip registry reqs eligible prior)
   (policyWalk f skip registry reqs eligible).Keeps ∧
  ErrorKeptWhen (f.streamWithAttempts req skip registry reqs eligible prior)
   (policyWalk f skip registry reqs eligible).Keeps :=
 ⟨router_error_iff callGenerate_once,router_error_iff callStream_once,
  policy_error_iff callGenerate_once (policyWalk f skip registry reqs eligible) req prior,
  policy_error_iff callStream_once (policyWalk f skip registry reqs eligible) req prior⟩

def strayRouter : ModelRouter where
 registry := ⟨[⟨"a", false, {}⟩, ⟨"b", false, {}⟩], by decide, by decide⟩
 fallback := some ⟨["b", "c"], none⟩
 stocked := by simp
 validated := by
  rintro f ⟨⟩
  rfl

def strayRequest : ModelRequest := ⟨"m", [], [], none⟩

def unavailable (provider : ProviderID) : RouteError :=
 ⟨.new "lebro: model unavailable", some { kind := .unavailable, provider := provider }⟩

def failedAttempt (provider : ProviderID) : List (Event RouterSig) :=
 [⟨.modelAttemptStarted provider "m", ()⟩,
   ⟨.generate provider strayRequest, .error (unavailable provider)⟩,
   ⟨.modelAttemptFinished ⟨provider, "m", .fallback, (unavailable provider).model⟩, ()⟩]

def strayEvents : List (Event RouterSig) :=
 failedAttempt "a" ++ ⟨.ctxErr, none⟩ :: failedAttempt "b" ++ [⟨.ctxErr, none⟩]

def strayOutcome : RouteResult MeteredResponse where
 attempts := [⟨"a", "m", .fallback, (unavailable "a").model⟩,
  ⟨"b", "m", .fallback, (unavailable "b").model⟩]
 error := some (ProviderRegistry.errProviderNotFound "c")

lemma stray_trace : Trace (strayRouter.generateWithAttempts strayRequest) strayEvents
  (.ret strayOutcome) :=
 .next (.next (.next (.next (.next (.next (.next (.next (.refl _))))))))

def spareRouter : ModelRouter where
 registry := strayRouter.registry
 fallback := some ⟨["b"], none⟩
 stocked := strayRouter.stocked
 validated := by
  rintro f ⟨⟩
  rfl

def spareEvents : List (Event RouterSig) :=
 failedAttempt "a" ++ ⟨.ctxErr, none⟩ :: failedAttempt "b"

theorem last_error_kept : ∃ out, Trace (spareRouter.generateWithAttempts strayRequest) spareEvents
   (.ret out) ∧ out.error = some (unavailable "b") ∧
  RouterKeeps spareRouter strayRequest (routeLog spareEvents).calls := by
 have htrace:Trace (spareRouter.generateWithAttempts strayRequest) spareEvents
   (.ret { strayOutcome with error := some (unavailable "b") }) :=
  .next (.next (.next (.next (.next (.next (.next (.refl _)))))))
 have hiff:=(fallback_error_kept_iff spareRouter strayRequest ⟨[],none⟩ "" spareRouter.registry {}
  [] []).1 _ _ htrace nofun fun c hc=>?_
 · exact ⟨_,htrace,rfl,hiff.mp ⟨_,rfl,rfl,rfl⟩⟩
 · rcases List.mem_pair.mp hc with rfl | rfl <;> exact nofun

/-- Two providers were called and failed, and the error is that of an entry that was skipped. -/
theorem unregistered_entry_replaces_error :
  Trace (strayRouter.generateWithAttempts strayRequest) strayEvents (.ret strayOutcome) ∧
   (routeLog strayEvents).calls = [⟨"a", some (unavailable "a"), none⟩,
    ⟨"b", some (unavailable "b"), none⟩] ∧
   strayOutcome.error = some (ProviderRegistry.errProviderNotFound "c") ∧
   ¬ KeepsError (routeLog strayEvents).calls strayOutcome := by
 refine ⟨stray_trace,rfl,rfl,?_⟩
 rintro ⟨c,hc,herror,_⟩
 cases hc
 cases congrArg (Option.bind · RouteError.model) herror

end Lebro.RoutedCalls
