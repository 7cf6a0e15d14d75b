import Luks.Basis.Effect
import Mathlib.Data.List.Infix

/-!
# Programs that work off a schedule

What a run did is seen in its trace, in the events of some kind. A run **keeps to** a schedule
(`Basis.KeepsTo`) if what is seen of it is a beginning of the schedule, and all of the
schedule where the run ends in some way that counts as carrying it through. A program is
**scheduled** (`Basis.Scheduled`) if every run of it keeps to the schedule.

The rules follow the program. A sequence works off the schedules of its parts one after the
other (`Basis.Scheduled.bind`), and a search that of each thing it tries
(`Basis.Scheduled.findSomeM?`): what it finds cuts the schedule off, and so does whatever
stops the run.
-/

namespace Basis

variable {ε ν σ κ α β : Type} {view : ν → Option κ}

/-- A run keeps to a schedule, and carries it through where it ends in `W`. -/
structure KeepsTo (view : ν → Option κ) (W : Outcome ε α → Prop) (plan : List κ)
    (run : Run ε ν σ α) : Prop where
  /-- What it does is a beginning. -/
  isPrefix : run.events.filterMap view <+: plan
  /-- Where it carries it through, it does all. -/
  whole : W run.out → run.events.filterMap view = plan

/-- Started in `I`, every run of the program keeps to the schedule. -/
def Scheduled (I : σ → Prop) (view : ν → Option κ) (W : Outcome ε α → Prop) (plan : List κ)
    (m : Prog ε ν σ α) : Prop :=
  ∀ s, I s → KeepsTo view W plan (m s)

/-- The run returned. -/
def Outcome.IsOk (o : Outcome ε α) : Prop := ∃ a, o = .ok a

theorem Outcome.not_isOk_err (e : ε) : ¬(Outcome.err e : Outcome ε α).IsOk := by
  rintro ⟨a, ha⟩
  cases ha

theorem Outcome.not_isOk_panic (r : Panic) : ¬(Outcome.panic r : Outcome ε α).IsOk := by
  rintro ⟨a, ha⟩
  cases ha

namespace KeepsTo

variable {W : Outcome ε α → Prop} {V : Outcome ε β → Prop} {p q : List κ} {r : Run ε ν σ α}
  {u : Run ε ν σ β}

/-- A run that goes on after all of a schedule was done. -/
theorem after (hr : r.events.filterMap view = p) (hu : KeepsTo view V q u) :
    KeepsTo view V (p ++ q) (⟨u.out, r.events ++ u.events, u.final⟩ : Run ε ν σ β) := by
  constructor
  · rw [List.filterMap_append, hr]
    exact (List.prefix_append_right_inj p).mpr hu.isPrefix
  · intro hend
    rw [List.filterMap_append, hr, hu.whole hend]

/-- A run that goes on unseen, and ends in no way that counts. -/
theorem unseen (hr : KeepsTo view W p r) (hu : u.events.filterMap view = []) (hV : ¬V u.out) :
    KeepsTo view V p (⟨u.out, r.events ++ u.events, u.final⟩ : Run ε ν σ β) := by
  refine ⟨?_, fun hend => absurd hend hV⟩
  rw [List.filterMap_append, hu, List.append_nil]
  exact hr.isPrefix

/-- A run that was stopped in a way that does not count. -/
theorem stopped {o : Outcome ε β} (hr : KeepsTo view W p r) (hV : ¬V o) :
    KeepsTo view V (p ++ q) (⟨o, r.events, r.final⟩ : Run ε ν σ β) :=
  ⟨hr.isPrefix.trans (List.prefix_append p q), fun hend => absurd hend hV⟩

/-- What follows unseen changes nothing, where a return is all that counts. -/
theorem bind_unseen {m : Prog ε ν σ α} {f : α → Prog ε ν σ β} {s : σ}
    (hm : KeepsTo view Outcome.IsOk p (m s)) (hf : ∀ a, Leaves (fun v => view v = none) (f a)) :
    KeepsTo view Outcome.IsOk p ((m >>= f) s) := by
  cases hout : (m s).out with
  | ok a =>
    have hnone := List.filterMap_eq_nil_iff.mpr (hf a (m s).final trivial).2
    have hseen : ((m s).events ++ (f a (m s).final).events).filterMap view =
        (m s).events.filterMap view := by rw [List.filterMap_append, hnone, List.append_nil]
    rw [Prog.bind_of_ok hout]
    exact ⟨hseen ▸ hm.isPrefix, fun _ => hseen.trans (hm.whole ⟨a, hout⟩)⟩
  | err e =>
    rw [Prog.bind_of_err hout]
    exact ⟨hm.isPrefix, fun hend => absurd hend (Outcome.not_isOk_err e)⟩
  | panic r =>
    rw [Prog.bind_of_panic hout]
    exact ⟨hm.isPrefix, fun hend => absurd hend (Outcome.not_isOk_panic r)⟩

end KeepsTo

namespace Scheduled

variable {I : σ → Prop} {W : Outcome ε α → Prop} {V : Outcome ε β → Prop} {p q : List κ}
  {m : Prog ε ν σ α} {f : α → Prog ε ν σ β}

/-- A program of which nothing is seen. -/
theorem of_leaves (h : Leaves (fun v => view v = none) m) : Scheduled I view W [] m := by
  intro s _
  obtain ⟨-, hleaves⟩ := h s trivial
  have hnone : (m s).events.filterMap view = [] := List.filterMap_eq_nil_iff.mpr hleaves
  exact ⟨hnone ▸ List.prefix_rfl, fun _ => hnone⟩

theorem pure (a : α) : Scheduled I view W [] (Pure.pure a : Prog ε ν σ α) :=
  of_leaves (Leaves.pure a)

/-- What stops the run may stop it anywhere. -/
theorem throw {e : ε} (he : ¬W (.err e)) : Scheduled I view W p (Prog.throw e : Prog ε ν σ α) :=
  fun _ _ => ⟨List.nil_prefix, fun h => absurd h he⟩

theorem abort {r : Panic} (hr : ¬W (.panic r)) :
    Scheduled I view W p (Prog.abort r : Prog ε ν σ α) :=
  fun _ _ => ⟨List.nil_prefix, fun h => absurd h hr⟩

/-- One thing that is seen. -/
theorem emit {v : ν} {k : κ} {W : Outcome ε Unit → Prop} (hv : view v = some k) :
    Scheduled I view W [k] (Prog.emit v : Prog ε ν σ Unit) := by
  intro s _
  have hone : [v].filterMap view = [k] := List.filterMap_cons_some hv
  exact ⟨hone ▸ List.prefix_rfl, fun _ => hone⟩

/-- **Sequencing**: the schedule of the first part, and then that of the second, if the first
one returns. Where the first one fails, that is none of the ends that count. -/
theorem bind {Q : α → σ → Prop} (hm : Scheduled I view Outcome.IsOk p m) (hQ : Returns I m Q)
    (hf : ∀ a, Scheduled (Q a) view V q (f a))
    (herr : ∀ s, I s → ∀ e, (m s).out = .err e → ¬V (.err e))
    (hpanic : ∀ r, ¬V (.panic r)) : Scheduled I view V (p ++ q) (m >>= f) := by
  intro s hs
  have hfirst := hm s hs
  cases hout : (m s).out with
  | ok a =>
    rw [Prog.bind_of_ok hout]
    exact .after (hfirst.whole ⟨a, hout⟩) (hf a _ (hQ s hs a hout))
  | err e =>
    rw [Prog.bind_of_err hout]
    exact hfirst.stopped (herr s hs e hout)
  | panic r =>
    rw [Prog.bind_of_panic hout]
    exact hfirst.stopped (hpanic r)

/-- Sequencing where a return is all that counts. -/
theorem andThen (hm : Scheduled I view Outcome.IsOk p m)
    (hf : ∀ a, Scheduled (fun _ => True) view V q (f a)) (hV : ∀ o, V o → o.IsOk) :
    Scheduled I view V (p ++ q) (m >>= f) := by
  refine bind hm (fun s _ a _ => trivial) hf (fun s _ e _ hend => ?_) fun r hend => ?_
  · exact Outcome.not_isOk_err e (hV _ hend)
  · exact Outcome.not_isOk_panic r (hV _ hend)

/-- The same after a part of which nothing is seen. -/
theorem andThen_leaves (hm : Leaves (fun v => view v = none) m)
    (hf : ∀ a, Scheduled (fun _ => True) view V q (f a)) (hV : ∀ o, V o → o.IsOk) :
    Scheduled I view V q (m >>= f) :=
  andThen (of_leaves hm) hf hV

/-- One thing that is seen, and what comes after it. -/
theorem emit_andThen {v : ν} {k : κ} {f : Unit → Prog ε ν σ β} (hv : view v = some k)
    (hf : ∀ a, Scheduled (fun _ => True) view V q (f a)) (hV : ∀ o, V o → o.IsOk) :
    Scheduled I view V (k :: q) (Prog.emit v >>= f) :=
  andThen (emit hv) hf hV

theorem bind_get {g : σ → α} (hf : ∀ a, Scheduled I view V q (f a)) :
    Scheduled I view V q (Prog.get g >>= f) :=
  fun s hs => hf (g s) s hs

/-- **Sequencing after a part that follows a computation.** -/
theorem bind_follows {S : Prop} {G : ε → Prop} {E : ν → Prop} {x : Except ε α}
    (hm : Scheduled I view Outcome.IsOk p m) (hx : Triple I m (FollowsUnless S J G x) E)
    (hf : ∀ a, x = .ok a → Scheduled J view V q (f a))
    (hstop : ∀ e, x = .error e ∨ G e → ¬V (.err e)) (hpanic : ∀ r, ¬V (.panic r)) :
    Scheduled I view V (p ++ q) (m >>= f) := by
  refine bind (Q := fun a s => x = .ok a ∧ J s) hm (fun s hs a hout => ?_)
    (fun a s hs => hf a hs.1 s hs.2) (fun s hs e hout => ?_) hpanic
  · have hfollows := (hx s hs).1
    rw [hout] at hfollows
    exact ⟨hfollows.eq_ok, hfollows.1⟩
  · have hfollows := (hx s hs).1
    rw [hout] at hfollows
    exact hstop e hfollows.eq_error

/-- The same after a part of which nothing is seen. -/
theorem bind_follows_leaves {S : Prop} {G : ε → Prop} {E : ν → Prop} {x : Except ε α}
    (hm : Leaves (fun v => view v = none) m) (hx : Triple I m (FollowsUnless S J G x) E)
    (hf : ∀ a, x = .ok a → Scheduled J view V q (f a))
    (hstop : ∀ e, x = .error e ∨ G e → ¬V (.err e)) (hpanic : ∀ r, ¬V (.panic r)) :
    Scheduled I view V q (m >>= f) :=
  bind_follows (of_leaves hm) hx hf hstop hpanic

/-- **A search** works off the schedules of the things it tries, until one of them is found. -/
theorem findSomeM? {l : List α} {plan : α → List κ} {f : α → Prog ε ν σ (Option β)}
    (hf : ∀ a ∈ l, Scheduled I view (· = .ok none) (plan a) (f a))
    (hI : ∀ a ∈ l, Returns I (f a) fun _ => I) :
    Scheduled I view (· = .ok none) (l.flatMap plan) (l.findSomeM? f) := by
  induction l with
  | nil => exact pure none
  | cons a l ih =>
    intro s hs
    have hfirst := hf a (by simp) s hs
    rw [List.flatMap_cons, List.findSomeM?_cons]
    cases hout : (f a s).out with
    | ok b? =>
      rw [Prog.bind_of_ok hout]
      cases b? with
      | none =>
        exact .after (hfirst.whole hout) (ih (fun a ha => hf a (by simp [ha]))
          (fun a ha => hI a (by simp [ha])) _ (hI a (by simp) s hs none hout))
      | some b =>
        simp only [Prog.pure_apply, List.append_nil]
        exact hfirst.stopped (by simp)
    | err e =>
      rw [Prog.bind_of_err hout]
      exact hfirst.stopped (by simp)
    | panic r =>
      rw [Prog.bind_of_panic hout]
      exact hfirst.stopped (by simp)

/-- Where nothing but a search that finds nothing ends in a failure, the failure tells that the
whole schedule was worked off. -/
theorem orThrow {e : ε} {m : Prog ε ν σ (Option α)} {f : Option α → Prog ε ν σ β}
    (hm : Scheduled I view (· = .ok none) p m) (herr : ∀ s, I s → (m s).out ≠ .err e)
    (hnone : f none = Prog.throw e) (hsome : ∀ a, Leaves (fun v => view v = none) (f (some a)))
    (hne : ∀ a s, (f (some a) s).out ≠ .err e) :
    Scheduled I view (· = .err e) p (m >>= f) := by
  intro s hs
  have hfirst := hm s hs
  cases hout : (m s).out with
  | ok a? =>
    rw [Prog.bind_of_ok hout]
    cases a? with
    | none =>
      rw [hnone]
      simp only [Prog.throw_apply, List.append_nil]
      exact ⟨hfirst.isPrefix, fun _ => hfirst.whole hout⟩
    | some a =>
      exact hfirst.unseen (List.filterMap_eq_nil_iff.mpr (hsome a _ trivial).2) (hne a _)
  | err e' =>
    rw [Prog.bind_of_err hout, ← List.append_nil p]
    refine hfirst.stopped fun hend => herr s hs ?_
    rw [hout, Outcome.err.inj hend]
  | panic r =>
    rw [Prog.bind_of_panic hout, ← List.append_nil p]
    exact hfirst.stopped (by simp)

/-- After a part whose failure counts, one that is not seen, and does not fail so. -/
theorem bind_leaves {e : ε} (hm : Scheduled I view (· = .err e) p m)
    (hf : ∀ a, Leaves (fun v => view v = none) (f a)) (hne : ∀ a s, (f a s).out ≠ .err e) :
    Scheduled I view (· = .err e) p (m >>= f) := by
  intro s hs
  have hfirst := hm s hs
  cases hout : (m s).out with
  | ok a =>
    rw [Prog.bind_of_ok hout]
    exact hfirst.unseen (List.filterMap_eq_nil_iff.mpr (hf a _ trivial).2) (hne a _)
  | err e' =>
    rw [Prog.bind_of_err hout]
    refine ⟨hfirst.isPrefix, fun hend => hfirst.whole ?_⟩
    rw [hout, Outcome.err.inj hend]
  | panic r =>
    rw [Prog.bind_of_panic hout, ← List.append_nil p]
    exact hfirst.stopped (by simp)

end Scheduled

end Basis
