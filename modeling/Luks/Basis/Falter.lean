import Luks.Basis.Agree

/-!
# Programs that may falter

Two runs of a program that differ in how far they are let go. The first **falters** behind
the second (`Basis.Falters`): from related states it ends as the second does, or it is cut
short (`Basis.Run.CutShort`) – it ends in one of a named set of errors, having left the
front of the events that the second leaves, in a state that is still fit to go on from.

This is what a fault, a refusal or a limit does to a program that handles it by giving up:
nothing that was reported before is taken back, and no other answer comes of it. Events
are compared as a view shows them, so that what the two runs are known to note differently
can be left out of the comparison.

Programs that agree (`Basis.Agree`) falter nowhere, and the rules are those of agreement:
one for sequencing, one for a part of the state, one for each loop.
-/

namespace Basis

variable {ε ν μ σ τ α β γ δ : Type} {F : ε → Prop} {view : ν → μ} {R : σ → τ → Prop}
  {S : α → β → Prop} {U : γ → δ → Prop}

/-- An outcome with a value is related to one with a related value. -/
theorem Outcome.Rel.exists_ok {a : α} {x : Outcome ε α} {y : Outcome ε β}
    (h : Outcome.Rel S x y) (hx : x = .ok a) : ∃ b, y = .ok b ∧ S a b := by
  subst hx
  cases h with
  | ok hab => exact ⟨_, rfl, hab⟩

theorem Outcome.Rel.exists_ok_left {b : β} {x : Outcome ε α} {y : Outcome ε β}
    (h : Outcome.Rel S x y) (hy : y = .ok b) : ∃ a, x = .ok a ∧ S a b := by
  subst hy
  cases h with
  | ok hab => exact ⟨_, rfl, hab⟩

/-- Runs that cannot be told apart, up to a view of their events. -/
structure Run.Alike (view : ν → μ) (R : σ → τ → Prop) (S : α → β → Prop) (x : Run ε ν σ α)
    (y : Run ε ν τ β) : Prop where
  /-- They end the same way. -/
  out : Outcome.Rel S x.out y.out
  /-- They leave the same events. -/
  events : x.events.map view = y.events.map view
  /-- They end in related states. -/
  final : R x.final y.final

/-- The first run was cut short of the second. -/
structure Run.CutShort (F : ε → Prop) (view : ν → μ) (R : σ → τ → Prop) (x : Run ε ν σ α)
    (y : Run ε ν τ β) : Prop where
  /-- It ended in an error of the named ones. -/
  out : ∃ e, F e ∧ x.out = .err e
  /-- It left the front of the events. -/
  events : x.events.map view <+: y.events.map view
  /-- It ended in a state that is fit to go on from. -/
  final : ∃ t, R x.final t

/-- **The first program falters behind the second.** -/
def Falters (F : ε → Prop) (view : ν → μ) (R : σ → τ → Prop) (S : α → β → Prop)
    (m : Prog ε ν σ α) (n : Prog ε ν τ β) : Prop :=
  ∀ s t, R s t → Run.Alike view R S (m s) (n t) ∨ Run.CutShort F view R (m s) (n t)

/-- Whichever way it went, the state is fit to go on from. -/
theorem Falters.exists_final {m : Prog ε ν σ α} {n : Prog ε ν τ β} (h : Falters F view R S m n)
    {s : σ} {t : τ} (hR : R s t) : ∃ t', R (m s).final t' := by
  rcases h s t hR with h | h
  · exact ⟨_, h.final⟩
  · exact h.final

namespace Falters

variable {m : Prog ε ν σ α} {n : Prog ε ν τ β} {f : α → Prog ε ν σ γ} {g : β → Prog ε ν τ δ}

/-- **Programs that agree do not falter.** -/
theorem of_agree (h : Agree R S m n) : Falters F view R S m n := by
  intro s t hR
  obtain ⟨hout, hevents, hfinal⟩ := h s t hR
  exact Or.inl ⟨hout, congrArg (List.map view) hevents, hfinal⟩

theorem pure {a : α} {b : β} (h : S a b) :
    Falters F view R S (Pure.pure a : Prog ε ν σ α) (Pure.pure b : Prog ε ν τ β) :=
  of_agree (Agree.pure h)

theorem throw (e : ε) :
    Falters F view R S (Prog.throw e : Prog ε ν σ α) (Prog.throw e : Prog ε ν τ β) :=
  of_agree (Agree.throw e)

/-- Events that the view shows alike. -/
theorem emit {v w : ν} (h : view v = view w) :
    Falters F view R Eq (Prog.emit v : Prog ε ν σ Unit) (Prog.emit w : Prog ε ν τ Unit) :=
  fun _ _ hR => Or.inl ⟨.ok rfl, congrArg (fun x => [x]) h, hR⟩

/-- A pure computation, of which the value is known after. -/
theorem ofExcept (x : Except ε α) : Falters F view R (fun a b => a = b ∧ x = .ok b)
    (Prog.ofExcept x : Prog ε ν σ α) (Prog.ofExcept x : Prog ε ν τ α) := by
  cases x with
  | ok a => exact pure ⟨rfl, rfl⟩
  | error e => exact throw e

/-- **To give up in one of the named errors is to falter**, whatever the second program
does. -/
theorem giveUp {e : ε} (he : F e) : Falters F view R S (Prog.throw e : Prog ε ν σ α) n :=
  fun _ t hR => Or.inr ⟨⟨e, he, rfl⟩, List.nil_prefix, t, hR⟩

/-- **A program that follows a computation or gives up** falters behind one that follows it
to the end. -/
theorem of_follows {I : σ → Prop} {J : τ → Prop} {n : Prog ε ν τ α} {x : Except ε α}
    (hm : Triple I m (Follows I F x) fun _ => False)
    (hn : Triple J n (Follows J (fun _ => False) x) fun _ => False) :
    Falters F view (fun s t => I s ∧ J t) (fun a b => a = b ∧ x = .ok b) m n := by
  rintro s t ⟨hs, ht⟩
  obtain ⟨hfollows, hevents⟩ := hm s hs
  obtain ⟨hout', hJ⟩ := hn.sure ht
  have hnil : (m s).events = [] := List.eq_nil_iff_forall_not_mem.mpr hevents
  have hnil' : (n t).events = [] := List.eq_nil_iff_forall_not_mem.mpr (hn t ht).2
  rcases hfollows.out with hout | ⟨e, he, hout⟩
  · refine Or.inl ⟨?_, by rw [hnil, hnil'], hfollows.1, hJ⟩
    rw [hout, hout']
    cases x with
    | ok a => exact .ok ⟨rfl, rfl⟩
    | error e => exact .err e
  · exact Or.inr ⟨⟨e, he, hout⟩, by rw [hnil]; exact List.nil_prefix, _, hfollows.1, ht⟩

theorem mono {S' : α → β → Prop} (h : Falters F view R S m n) (hS : ∀ a b, S a b → S' a b) :
    Falters F view R S' m n := by
  intro s t hR
  rcases h s t hR with h | h
  · exact Or.inl ⟨h.out.mono hS, h.events, h.final⟩
  · exact Or.inr h

/-- **Sequencing**: a first part that falters cuts the whole short, and so does a second
part, after what the first has left. -/
theorem bind (hm : Falters F view R S m n) (hf : ∀ a b, S a b → Falters F view R U (f a) (g b)) :
    Falters F view R U (m >>= f) (n >>= g) := by
  intro s t hR
  rw [Prog.bind_apply, Prog.bind_apply]
  rcases hms : m s with ⟨o, ev, s'⟩
  rcases hnt : n t with ⟨o', ev', t'⟩
  rcases hm s t hR with ⟨hout, hevents, hfinal⟩ | ⟨⟨e, he, hout⟩, hevents, hfinal⟩
  · rw [hms, hnt] at hout hevents hfinal
    cases hout with
    | ok h =>
      simp only [Prog.bind, hms, hnt]
      rcases hf _ _ h s' t' hfinal with h | h
      · exact Or.inl ⟨h.out, by rw [List.map_append, List.map_append, h.events, hevents],
          h.final⟩
      · refine Or.inr ⟨h.out, ?_, h.final⟩
        rw [List.map_append, List.map_append, show ev.map view = ev'.map view from hevents]
        exact (List.prefix_append_right_inj _).mpr h.events
    | err e =>
      simp only [Prog.bind, hms, hnt]
      exact Or.inl ⟨.err e, hevents, hfinal⟩
    | panic p =>
      simp only [Prog.bind, hms, hnt]
      exact Or.inl ⟨.panic p, hevents, hfinal⟩
  · rw [hms, hnt] at hevents
    rw [hms] at hout hfinal
    obtain rfl : o = .err e := hout
    refine Or.inr ⟨⟨e, he, by simp [Prog.bind, hms]⟩, ?_, by simpa [Prog.bind, hms] using hfinal⟩
    -- what the second run leaves after its first part only adds to the events
    refine List.IsPrefix.trans (by simpa [Prog.bind, hms] using hevents) ?_
    cases o' with
    | ok b =>
      simp only [Prog.bind, hnt, List.map_append]
      exact List.prefix_append _ _
    | err e' => simp [Prog.bind, hnt]
    | panic p => simp [Prog.bind, hnt]

/-- Sequencing after a step that gives the same value on both sides. -/
theorem bind_eq {n : Prog ε ν τ α} {g : α → Prog ε ν τ δ} (hm : Falters F view R Eq m n)
    (hf : ∀ a, Falters F view R U (f a) (g a)) : Falters F view R U (m >>= f) (n >>= g) :=
  bind hm fun a _ h => h ▸ hf a

/-- The same choice on both sides. -/
theorem ite {c : Prop} [Decidable c] {m' : Prog ε ν σ α} {n' : Prog ε ν τ β}
    (hm : c → Falters F view R S m n) (hm' : ¬c → Falters F view R S m' n') :
    Falters F view R S (if c then m else m') (if c then n else n') := by
  split
  · exact hm ‹_›
  · exact hm' ‹_›

/-- Programs on related parts of the states. -/
theorem zoom {σ' τ' : Type} {R' : σ' → τ' → Prop} {part : σ' → σ} {put : σ → σ' → σ'}
    {part' : τ' → τ} {put' : τ → τ' → τ'} (h : Falters F view R S m n)
    (hpart : ∀ s t, R' s t → R (part s) (part' t))
    (hput : ∀ s t, R' s t → ∀ x y, R x y → R' (put x s) (put' y t)) :
    Falters F view R' S (Prog.zoom part put m) (Prog.zoom part' put' n) := by
  intro s t hR
  rcases h _ _ (hpart s t hR) with ⟨hout, hevents, hfinal⟩ | ⟨hout, hevents, t', hfinal⟩
  · exact Or.inl ⟨hout, hevents, hput s t hR _ _ hfinal⟩
  · exact Or.inr ⟨hout, hevents, _, hput s t hR _ _ hfinal⟩

/-- Searches whose steps falter: the first that does cuts the search short. -/
theorem findSomeM? {ι : Type} {l : List ι} {f : ι → Prog ε ν σ (Option α)}
    {g : ι → Prog ε ν τ (Option α)} (h : ∀ i ∈ l, Falters F view R Eq (f i) (g i)) :
    Falters F view R Eq (l.findSomeM? f) (l.findSomeM? g) := by
  induction l with
  | nil => exact pure rfl
  | cons i l ih =>
    rw [List.findSomeM?_cons, List.findSomeM?_cons]
    refine bind_eq (h i (by simp)) fun a => ?_
    cases a with
    | some a => exact pure rfl
    | none => exact ih fun i hi => h i (by simp [hi])

end Falters

end Basis
