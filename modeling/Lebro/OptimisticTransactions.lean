import Lebro.EffectProgram
import Mathlib.Data.List.Nodup
import Mathlib.Data.List.Perm.Basic
import Mathlib.Logic.Function.Basic

set_option autoImplicit false

/-! A transaction that has written commits its copy of the state when no write was counted since it
began. -/
namespace Lebro.OptimisticTransactions

open EffectProgram List Function

variable {B:Sig} {σ:Type}

/-- The calls of a store, with the writes that are counted: `bumps` for direct calls, `marks` for
calls within a transaction. What is not counted changes nothing. -/
structure Store (B : Sig) (σ : Type) where
 apply : (o : B.Op) → σ → B.Reply o × σ
 bumps : (o : B.Op) → B.Reply o → Bool
 marks : (o : B.Op) → B.Reply o → Bool
 eq_of_not_bumps : ∀ o s, bumps o (apply o s).1 = false → (apply o s).2 = s
 eq_of_not_marks : ∀ o s, marks o (apply o s).1 = false → (apply o s).2 = s

inductive TxOp (B : Sig) where
 | direct (o : B.Op)
 | begin
 | within (t : ℕ) (o : B.Op)
 | commit (t : ℕ)

/-- A transaction is known by the number it began with; a commit replies whether it succeeded. -/
@[reducible] def TxOp.Reply : TxOp B → Type
  | .direct o => B.Reply o
  | .begin => ℕ
  | .within _ o => B.Reply o
  | .commit _ => Bool

abbrev TxSig (B : Sig) : Sig := ⟨TxOp B, TxOp.Reply⟩

structure Opened (σ : Type) where
 copy : σ
 version : ℕ
 dirty : Bool

structure Shared (σ : Type) where
 live : σ
 version : ℕ
 opened : ℕ → Option (Opened σ)
 next : ℕ

namespace Shared

def begin (s : Shared σ) : Shared σ :=
 { s with opened := update s.opened s.next (some ⟨s.live, s.version, false⟩), next := s.next + 1 }

def put (s : Shared σ) (t : ℕ) (x : Opened σ) : Shared σ :=
 { s with opened := update s.opened t (some x) }

def close (s : Shared σ) (t : ℕ) : Shared σ := { s with opened := update s.opened t none }

def install (s : Shared σ) (t : ℕ) (copy : σ) : Shared σ :=
 { s.close t with live := copy, version := s.version + 1 }

end Shared

def txStep (st : Store B σ) (s : Shared σ) : (o : TxOp B) → o.Reply → Shared σ → Prop
 | .direct o, r, u =>
  r = (st.apply o s.live).1 ∧
   u = { s with live := (st.apply o s.live).2,
                version := if st.bumps o r then s.version + 1 else s.version }
 | .begin, t, u => t = s.next ∧ u = s.begin
 | .within t o, r, u => ∃ x, s.opened t = some x ∧ r = (st.apply o x.copy).1 ∧
   u = s.put t { x with copy := (st.apply o x.copy).2, dirty := x.dirty || st.marks o r }
 | .commit t, ok, u => ∃ x, s.opened t = some x ∧
   if x.dirty = false then ok = true ∧ u = s.close t
   else if s.version = x.version then ok = true ∧ u = s.install t x.copy
   else ok = false ∧ u = s.close t

def txWorld (st : Store B σ) : Monitor (TxSig B) (Shared σ) where
 demand _ _ := True
 step s o r u := txStep st s o r u

def txAnswer (st : Store B σ) : (o : TxOp B) → Shared σ → Option (o.Reply × Shared σ)
 | .direct o, s =>
  let r := st.apply o s.live
  some (r.1, { s with live := r.2, version := if st.bumps o r.1 then s.version + 1 else s.version })
 | .begin, s => some (s.next, s.begin)
 | .within t o, s => (s.opened t).map fun x =>
   let r := st.apply o x.copy
   (r.1, s.put t { x with copy := r.2, dirty := x.dirty || st.marks o r.1 })
 | .commit t, s => (s.opened t).map fun x =>
   if x.dirty = false then (true, s.close t)
   else if s.version = x.version then (true, s.install t x.copy)
   else (false, s.close t)

lemma txStep_of_answer {st:Store B σ} {o:TxOp B} {r s u} (h:txAnswer st o s=some (r,u)) :
  txStep st s o r u := by
 cases o with
 | direct o | begin =>
  cases h
  exact ⟨rfl,rfl⟩
 | within t o =>
  obtain ⟨x,hx,heq⟩:=Option.map_eq_some_iff.mp h
  cases heq
  exact ⟨x,hx,rfl,rfl⟩
 | commit t =>
  obtain ⟨x,hx,heq⟩:=Option.map_eq_some_iff.mp h
  refine ⟨x,hx,?_⟩
  split at heq
  · next hdirty =>
     cases heq
     rw [if_pos hdirty]
     exact ⟨rfl,rfl⟩
  · next hdirty =>
     rw [if_neg hdirty]
     split at heq
     · next hversion =>
        cases heq
        rw [if_pos hversion]
        exact ⟨rfl,rfl⟩
     · next hversion =>
        cases heq
        rw [if_neg hversion]
        exact ⟨rfl,rfl⟩

def withinEvents (t : ℕ) (es : List (Event (TxSig B))) : List (Event B) :=
 es.filterMap fun
  | ⟨.within t' o, r⟩ => if t' = t then some ⟨o, r⟩ else none
  | _ => none

/-- The unit that an event completes: a direct call, or all calls of a committed transaction. -/
def completedBy (before : List (Event (TxSig B))) : Event (TxSig B) → List (List (Event B))
 | ⟨.direct o, r⟩ => [[⟨o, r⟩]]
 | ⟨.commit t, true⟩ => [withinEvents t before]
 | _ => []

def completedFrom (before : List (Event (TxSig B))) : List (Event (TxSig B)) → List (List (Event B))
 | [] => []
 | e :: es => completedBy before e ++ completedFrom (before ++ [e]) es

/-- The direct calls and committed transactions of a run, in the order of their ends. -/
def completed (es : List (Event (TxSig B))) : List (List (Event B)) := completedFrom [] es

lemma completedFrom_append (before es:List (Event (TxSig B))) (e) :
  completedFrom before (es ++ [e])=completedFrom before es++completedBy (before++es) e := by
 induction es generalizing before with
 | nil => simp [completedFrom]
 | cons f es ih => simp [completedFrom,ih]

lemma completed_append (es:List (Event (TxSig B))) (e) :
  completed (es ++ [e])=completed es++completedBy es e :=
 completedFrom_append [] es e
lemma withinEvents_append (t : ℕ) (es : List (Event (TxSig B))) (e) :
  withinEvents t (es ++ [e])=withinEvents t es++withinEvents t [e] := by
 simp [withinEvents]
@[simp] lemma withinEvents_within_self (t o r) :
  withinEvents t [(⟨.within t o,r⟩ : Event (TxSig B))]=[⟨o,r⟩] := by
 simp [withinEvents]

variable {t:ℕ}

lemma withinEvents_within_ne {t'} (h:t' ≠ t) (o r) :
  withinEvents t [(⟨.within t' o,r⟩ : Event (TxSig B))]=[] := by
 simp [withinEvents,h]

/-- A place in the serial order: of a unit, or kept for a transaction since its beginning. -/
inductive Place (B : Sig) where
 | pending (t : ℕ)
 | unit (es : List (Event B))

namespace Place

def events : Place B → List (Event B)
 | .pending _ => []
 | .unit es => es

def unit? : Place B → Option (List (Event B))
 | .pending _ => none
 | .unit es => some es

def pending? : Place B → Option ℕ
 | .pending t => some t
 | .unit _ => none

end Place

inductive Chain (M : Monitor B σ) : σ → List (σ × Place B) → σ → Prop where
 | nil (s : σ) : Chain M s [] s
 | cons {s m u : σ} {p : Place B} {ps : List (σ × Place B)} (h : M.Follows s p.events m)
   (tail : Chain M m ps u) : Chain M s ((s, p) :: ps) u

section

variable {M:Monitor B σ} {s m u v:σ} {ps qs:List (σ × Place B)} {p:Place B}

lemma Chain.append (h:Chain M s ps u) (h':Chain M u qs v) : Chain M s (ps++qs) v := by
 induction h with
 | nil _ => exact h'
 | cons hp _ ih => exact .cons hp (ih h')

lemma Chain.split (h:Chain M s (ps++qs) v) : ∃ u,Chain M s ps u ∧ Chain M u qs v := by
 induction ps generalizing s with
 | nil => exact ⟨s,.nil s,h⟩
 | cons p ps ih =>
  cases h with
  | cons hp tail =>
   obtain ⟨u,hu,hv⟩:=ih tail
   exact ⟨u,.cons hp hu,hv⟩

lemma Chain.snoc (h:Chain M s ps u) (hp:M.Follows u p.events v) :
  Chain M s (ps ++ [(u,p)]) v :=
 h.append (.cons hp (.nil v))

lemma Chain.fill {es} (h:Chain M s (ps++(m,.pending t) :: qs) v) (hes:M.Follows m es m) :
  Chain M s (ps++(m,.unit es) :: qs) v := by
 obtain ⟨u,hps,hqs⟩:=h.split
 cases hqs with
 | cons hp tail =>
  cases hp with
  | nil => exact hps.append (.cons hes tail)

lemma Chain.remove (h:Chain M s (ps++(m,.pending t) :: qs) v) : Chain M s (ps++qs) v := by
 obtain ⟨u,hps,hqs⟩:=h.split
 cases hqs with
 | cons hp tail =>
  cases hp with
  | nil => exact hps.append tail

lemma Chain.follows (h:Chain M s ps u) :
  M.Follows s (ps.filterMap fun p=>p.2.unit?).flatten u := by
 induction h with
 | nil s => exact .nil s
 | @cons s m u p ps hp _ ih =>
  cases p with
  | pending t =>
   cases hp with
   | nil => exact ih
  | unit es => exact hp.append ih

end

/-- The places found for a run so far. The place of an open transaction begins in the state that
the transaction copied. -/
structure Serializes (st : Store B σ) (s : σ) (es : List (Event (TxSig B))) (x : Shared σ)
  (ps : List (σ × Place B)) : Prop where
 chain : Chain (Monitor.handles st.apply) s ps x.live
 units : (ps.filterMap fun p => p.2.unit?).Perm (completed es)
 nodup : (ps.filterMap fun p => p.2.pending?).Nodup
 place : ∀ m t, (m, .pending t) ∈ ps → ∃ y, x.opened t = some y ∧
  (Monitor.handles st.apply).Follows m (withinEvents t es) y.copy ∧
  (y.dirty = false → y.copy = m) ∧ y.version ≤ x.version ∧ (y.version = x.version → m = x.live)
 opened : ∀ t y, x.opened t = some y → ∃ m, (m, .pending t) ∈ ps
 fresh : ∀ t, x.next ≤ t → x.opened t = none ∧ withinEvents t es = []

section

variable {st:Store B σ} {s:σ} {es:List (Event (TxSig B))} {x u:Shared σ}
variable {ps:List (σ × Place B)}

lemma serializes_direct (h:Serializes st s es x ps) {o r} (hstep:txStep st x (.direct o) r u) :
  Serializes st s (es ++ [⟨.direct o,r⟩]) u (ps ++ [(x.live,.unit [⟨o,r⟩])]) := by
 obtain ⟨hr,rfl⟩:=hstep
 have hwithin:∀ t,withinEvents t (es ++ [(⟨.direct o,r⟩ : Event (TxSig B))]) =
   withinEvents t es := by
  intro t
  rw [withinEvents_append]
  exact append_nil _
 constructor
 · refine h.chain.snoc (.cons ?_ (.nil _))
   rw [hr]
   rfl
 · rw [completed_append,filterMap_append]
   exact h.units.append (.refl _)
 · rw [filterMap_append]
   simpa [Place.pending?] using h.nodup
 · intro m t hm
   have hm:(m,Place.pending t) ∈ ps:=by simpa using hm
   obtain ⟨y,hy,hcopy,hclean,hle,heq⟩:=h.place m t hm
   rw [hwithin]
   refine ⟨y,hy,hcopy,hclean,?_⟩
   dsimp only
   cases hb : st.bumps o r with
   | true =>
    rw [if_pos rfl]
    exact ⟨by omega,fun hv=>by omega⟩
   | false =>
    rw [if_neg Bool.false_ne_true]
    rw [hr] at hb
    rw [st.eq_of_not_bumps o x.live hb]
    exact ⟨hle,heq⟩
 · intro t y hy
   obtain ⟨m,hm⟩:=h.opened t y hy
   exact ⟨m,mem_append_left _ hm⟩
 · intro t ht
   rw [hwithin]
   exact h.fresh t ht

lemma serializes_begin (h:Serializes st s es x ps) :
  Serializes st s (es ++ [⟨.begin,x.next⟩]) x.begin (ps ++ [(x.live,.pending x.next)]) := by
 have hwithin:∀ t,withinEvents t (es ++ [(⟨.begin,x.next⟩ : Event (TxSig B))]) =
   withinEvents t es := by
  intro t
  rw [withinEvents_append]
  exact append_nil _
 have hnew:=h.fresh x.next (Nat.le_refl _)
 have hne:∀ m t,(m,Place.pending t) ∈ ps → t ≠ x.next:=by
  rintro m t hm rfl
  obtain ⟨y,hy,_⟩:=h.place m _ hm
  rw [hnew.1] at hy
  cases hy
 constructor
 · exact h.chain.snoc (.nil _)
 · rw [completed_append,filterMap_append]
   exact h.units.append (.refl _)
 · rw [filterMap_append]
   apply List.Nodup.append h.nodup (nodup_singleton _)
   intro t ht ht'
   obtain ⟨p,hp,hpt⟩:=mem_filterMap.mp ht
   obtain rfl : t=x.next := mem_singleton.mp ht'
   obtain ⟨m,p⟩:=p
   cases p with
   | unit _ => cases hpt
   | pending t =>
    cases hpt
    exact hne m _ hp rfl
 · intro m t hm
   rw [hwithin]
   rcases mem_append.mp hm with hm | hm
   · obtain ⟨y,hy,hrest⟩:=h.place m t hm
     refine ⟨y,?_,hrest⟩
     exact (update_of_ne (hne m t hm) _ _).trans hy
   · obtain ⟨rfl,rfl⟩ : m=x.live ∧ t=x.next := by simpa using hm
     refine ⟨⟨x.live,x.version,false⟩,update_self _ _ _,?_,fun _=>rfl,
      Nat.le_refl _,fun _=>rfl⟩
     rw [hnew.2]
     exact .nil _
 · intro t y hy
   by_cases ht : t=x.next
   · subst ht
     exact ⟨x.live,mem_append_right _ mem_cons_self⟩
   · have hy:x.opened t=some y:=(update_of_ne ht _ _).symm.trans hy
     obtain ⟨m,hm⟩:=h.opened t y hy
     exact ⟨m,mem_append_left _ hm⟩
 · intro t ht
   have ht:x.next+1 ≤ t:=ht
   rw [hwithin]
   refine ⟨?_,(h.fresh t (by omega)).2⟩
   exact (update_of_ne (by omega) _ _).trans (h.fresh t (by omega)).1

lemma serializes_within (h:Serializes st s es x ps) {o r}
  (hstep:txStep st x (.within t o) r u) :
  Serializes st s (es ++ [⟨.within t o,r⟩]) u ps := by
 obtain ⟨y,hy,hr,rfl⟩:=hstep
 have hwithin:∀ t',t' ≠ t →
   withinEvents t' (es ++ [(⟨.within t o,r⟩ : Event (TxSig B))])=withinEvents t' es := by
  intro t' ht'
  rw [withinEvents_append,withinEvents_within_ne (Ne.symm ht'),append_nil]
 refine ⟨h.chain,?_,h.nodup,?_,?_,?_⟩
 · rw [completed_append]
   exact h.units.trans (.of_eq (append_nil _).symm)
 · intro m t' hm
   obtain ⟨y',hy',hcopy,hclean,hversion⟩:=h.place m t' hm
   by_cases ht : t'=t
   · subst ht
     obtain rfl : y=y' := Option.some.inj (hy.symm.trans hy')
     refine ⟨_,update_self _ _ _,?_,?_,hversion⟩
     · rw [withinEvents_append,withinEvents_within_self]
       refine hcopy.append (.cons ?_ (.nil _))
       rw [hr]
       rfl
     · intro hdirty
       obtain ⟨hd,hm⟩:=Bool.or_eq_false_iff.mp hdirty
       rw [hr] at hm
       exact (st.eq_of_not_marks o y.copy hm).trans (hclean hd)
   · rw [hwithin t' ht]
     exact ⟨y',(update_of_ne ht _ _).trans hy',hcopy,hclean,hversion⟩
 · intro t' y' hy'
   by_cases ht : t'=t
   · subst ht
     exact h.opened t' y hy
   · exact h.opened t' y' ((update_of_ne ht _ _).symm.trans hy')
 · intro t' ht'
   have hnone:=h.fresh t' ht'
   have hne:t' ≠ t:=by
    rintro rfl
    rw [hnone.1] at hy
    cases hy
   rw [hwithin t' hne]
   exact ⟨(update_of_ne hne _ _).trans hnone.1,hnone.2⟩

lemma withinEvents_commit (t t') (ok es) :
  withinEvents t' (es ++ [(⟨.commit t,ok⟩ : Event (TxSig B))])=withinEvents t' es := by
 rw [withinEvents_append]
 exact append_nil _

lemma filterMap_pending_middle (qs rs:List (σ × Place B)) (m t) :
  (qs++(m,Place.pending t) :: rs).filterMap (fun p=>p.2.pending?) =
   qs.filterMap (fun p=>p.2.pending?)++t :: rs.filterMap (fun p=>p.2.pending?) := by
 rw [filterMap_append]
 rfl

section

variable (h:Serializes st s es x ps)

include h

lemma Serializes.isolate {y} (hy:x.opened t=some y) :
  ∃ m qs rs,ps=qs++(m,.pending t) :: rs ∧ ∀ m',(m',.pending t) ∉ qs++rs := by
 obtain ⟨m,hm⟩:=h.opened t y hy
 obtain ⟨qs,rs,rfl⟩:=append_of_mem hm
 refine ⟨m,qs,rs,rfl,?_⟩
 intro m' hm'
 have hnodup:=h.nodup
 rw [filterMap_pending_middle,nodup_middle,← filterMap_append] at hnodup
 exact (nodup_cons.mp hnodup).1 (mem_filterMap.mpr ⟨_,hm',rfl⟩)

lemma Serializes.close_rest {m qs rs} (hps:ps=qs++(m,.pending t) :: rs) {t' y}
  (hy:(x.close t).opened t'=some y) :
  t' ≠ t ∧ x.opened t'=some y ∧ ∃ m',(m',.pending t') ∈ qs++rs := by
 have hne:t' ≠ t:=by
  rintro rfl
  have hnone:(x.close t').opened t'=none:=update_self _ _ _
  rw [hnone] at hy
  cases hy
 have hy:x.opened t'=some y:=(update_of_ne hne _ _).symm.trans hy
 obtain ⟨m',hm'⟩:=h.opened t' y hy
 refine ⟨hne,hy,m',?_⟩
 rw [hps] at hm'
 rcases mem_append.mp hm' with hm' | hm'
 · exact mem_append_left _ hm'
 · rcases mem_cons.mp hm' with heq | hm'
   · cases heq
     exact (hne rfl).elim
   · exact mem_append_right _ hm'

lemma Serializes.close {m ok qs rs ps' live version} (hps:ps=qs++(m,.pending t) :: rs)
  (hnot:∀ m',(m',Place.pending t) ∉ qs++rs)
  (hchain:Chain (Monitor.handles st.apply) s ps' live)
  (hunits:(ps'.filterMap fun p=>p.2.unit?).Perm (((qs++rs).filterMap fun p=>p.2.unit?) ++
   completedBy es ⟨.commit t,ok⟩))
  (hpending:ps'.filterMap (fun p=>p.2.pending?)=(qs++rs).filterMap (fun p=>p.2.pending?))
  (hmem:∀ m' t',(m',Place.pending t') ∈ ps' ↔ (m',Place.pending t') ∈ qs++rs)
  (hlive:version=x.version ∧ live=x.live ∨ version=x.version+1) :
  Serializes st s (es ++ [⟨.commit t,ok⟩]) { x.close t with live, version } ps' := by
 have hsub:∀ p ∈ qs++rs,p ∈ ps:=by
  intro p hp
  rw [hps]
  rcases mem_append.mp hp with hp | hp
  · exact mem_append_left _ hp
  · exact mem_append_right _ (mem_cons_of_mem _ hp)
 constructor
 · exact hchain
 · have hold:((qs++rs).filterMap fun p=>p.2.unit?)=ps.filterMap fun p=>p.2.unit?:=by
    rw [hps,filterMap_append,filterMap_append]
    rfl
   rw [hold] at hunits
   rw [completed_append]
   exact hunits.trans (h.units.append_right _)
 · have hnodup:=h.nodup
   rw [hps,filterMap_pending_middle,nodup_middle,← filterMap_append] at hnodup
   rw [hpending]
   exact (nodup_cons.mp hnodup).2
 · intro m' t' hm'
   have hm':=(hmem m' t').mp hm'
   have hne:t' ≠ t:=by
    rintro rfl
    exact hnot m' hm'
   obtain ⟨y,hy,hcopy,hclean,hle,heq⟩:=h.place m' t' (hsub _ hm')
   rw [withinEvents_commit]
   refine ⟨y,(update_of_ne hne _ _).trans hy,hcopy,hclean,?_⟩
   dsimp only
   rcases hlive with ⟨rfl,rfl⟩ | rfl
   · exact ⟨hle,heq⟩
   · exact ⟨by omega,fun hv=>by omega⟩
 · intro t' y hy
   obtain ⟨_,_,m',hm'⟩:=h.close_rest hps hy
   exact ⟨m',(hmem m' t').mpr hm'⟩
 · intro t' ht'
   have hnone:=h.fresh t' ht'
   rw [withinEvents_commit]
   refine ⟨?_,hnone.2⟩
   by_cases hne : t'=t
   · subst hne
     exact update_self _ _ _
   · exact (update_of_ne hne _ _).trans hnone.1

lemma serializes_commit {ok} (hstep:txStep st x (.commit t) ok u) :
  ∃ ps',Serializes st s (es ++ [⟨.commit t,ok⟩]) u ps' := by
 obtain ⟨y,hy,hstep⟩:=hstep
 obtain ⟨m,qs,rs,hps,hnot⟩:=h.isolate hy
 have hmem:(m,Place.pending t) ∈ ps:=by
  rw [hps]
  exact mem_append_right _ mem_cons_self
 obtain ⟨y',hy',hcopy,hclean,_,heq⟩:=h.place m t hmem
 obtain rfl : y=y' := Option.some.inj (hy.symm.trans hy')
 have hchain:=h.chain
 rw [hps] at hchain
 split at hstep
 -- A transaction that has not written takes the place where it began.
 · next hdirty =>
    obtain ⟨rfl,rfl⟩:=hstep
    rw [hclean hdirty] at hcopy
    refine ⟨qs++(m,.unit (withinEvents t es)) :: rs,
     h.close hps hnot (hchain.fill hcopy) ?_ ?_ ?_ (.inl ⟨rfl,rfl⟩)⟩
    · rw [filterMap_append,filterMap_append,append_assoc]
      exact (perm_append_singleton _ _).symm.append_left _
    · rw [filterMap_append,filterMap_append]
      rfl
    · intro m' t'
      simp
 · split at hstep
   -- One that has written follows everything: nothing was written since it began.
   · next hversion =>
      obtain ⟨rfl,rfl⟩:=hstep
      obtain rfl : m=x.live := heq hversion.symm
      refine ⟨qs++rs ++ [(x.live,.unit (withinEvents t es))],
       h.close hps hnot (hchain.remove.snoc (p := .unit _) hcopy) ?_ ?_ ?_ (.inr rfl)⟩
      · rw [filterMap_append]
        exact .refl _
      · rw [filterMap_append]
        exact append_nil _
      · intro m' t'
        simp
   · obtain ⟨rfl,rfl⟩:=hstep
     refine ⟨qs++rs,h.close hps hnot hchain.remove ?_ rfl (fun _ _=>.rfl) (.inl ⟨rfl,rfl⟩)⟩
     exact .of_eq (append_nil _).symm

end

end

lemma serializes_run {st:Store B σ} {s u:Shared σ} {es} (hs:∀ t,s.opened t=none)
  (h:(txWorld st).Follows s es u) : ∃ ps,Serializes st s.live es u ps := by
 refine h.invariant (fun es u=>∃ ps,Serializes st s.live es u ps) ?_ ?_
 · refine ⟨[],.nil _,.refl _,nodup_nil,nofun,?_,fun t _=>⟨hs t,rfl⟩⟩
   intro t y hy
   rw [hs t] at hy
   cases hy
 · rintro es x o r v ⟨ps,hps⟩ hstep
   cases o with
   | direct o => exact ⟨_,serializes_direct hps hstep⟩
   | begin =>
    obtain ⟨rfl,rfl⟩:=hstep
    exact ⟨_,serializes_begin hps⟩
   | within t o => exact ⟨_,serializes_within hps hstep⟩
   | commit t => exact serializes_commit hps hstep

lemma exists_serial {st:Store B σ} {s u:Shared σ} {es} (hs:∀ t,s.opened t=none)
  (h:(txWorld st).Follows s es u) :
  ∃ units : List (List (Event B)),units.Perm (completed es) ∧
   (Monitor.handles st.apply).Follows s.live units.flatten u.live := by
 obtain ⟨ps,hps⟩:=serializes_run hs h
 exact ⟨_,hps.units,hps.chain.follows⟩

def writes : (o : TxOp B) → o.Reply → Bool
 | .direct _, _ => true
 | .commit _, ok => ok
 | _, _ => false

lemma live_of_not_writes {st} {s u:Shared σ} {o:TxOp B} {r} (h:txStep st s o r u)
  (hw:writes o r=false) : u.live=s.live ∧ u.version=s.version := by
 cases o with
 | direct o => cases hw
 | begin =>
  obtain ⟨_,rfl⟩:=h
  exact ⟨rfl,rfl⟩
 | within t o =>
  obtain ⟨_,_,_,rfl⟩:=h
  exact ⟨rfl,rfl⟩
 | commit t =>
  obtain ⟨_,_,h⟩:=h
  split at h
  · obtain ⟨rfl,_⟩:=h
    cases hw
  · split at h
    · obtain ⟨rfl,_⟩:=h
      cases hw
    · obtain ⟨_,rfl⟩:=h
      exact ⟨rfl,rfl⟩

end Lebro.OptimisticTransactions
