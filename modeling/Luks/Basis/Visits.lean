import Luks.Basis.Effect

/-!
# What a search visits

A search `List.findSomeM?` whose steps are programs tries the elements of a list in order,
until a step returns a value, fails, or is stopped. `Basis.visits` lists the elements that
it gets to, each with the state in which it is tried. The events of the search are those of
the visits, one after the other (`Basis.events_findSomeM?`).

A visit is met exactly where the elements before it pass: what they leave standing holds
in the state of the visit (`Basis.of_mem_visits`), and an element after elements that
surely pass is visited (`Basis.exists_mem_visits`).
-/

namespace Basis

variable {ε ν σ α β : Type} {f : α → Prog ε ν σ (Option β)} {l l₁ l₂ : List α} {s : σ}

/-- The elements a search tries, each with the state it is tried in. -/
def visits (f : α → Prog ε ν σ (Option β)) : List α → σ → List (α × σ)
  | [], _ => []
  | a :: l, s =>
    match (f a s).out with
    | .ok none => (a, s) :: visits f l (f a s).final
    | _ => [(a, s)]

theorem visits_cons_of_pass {a : α} (h : (f a s).out = .ok none) :
    visits f (a :: l) s = (a, s) :: visits f l (f a s).final := by
  rw [visits, h]

theorem visits_cons_of_stop {a : α} (h : (f a s).out ≠ .ok none) :
    visits f (a :: l) s = [(a, s)] := by
  rw [visits]
  split
  · exact absurd ‹_› h
  · rfl

/-- The first element is visited first. -/
theorem mem_visits_cons (a : α) : (a, s) ∈ visits f (a :: l) s := by
  by_cases h : (f a s).out = .ok none
  · rw [visits_cons_of_pass h]
    exact List.mem_cons_self
  · rw [visits_cons_of_stop h]
    exact List.mem_cons_self

/-! ### The runs of a search -/

theorem findSomeM?_cons_of_out_pass {a : α} (h : (f a s).out = .ok none) :
    (a :: l).findSomeM? f s = ⟨(l.findSomeM? f (f a s).final).out,
      (f a s).events ++ (l.findSomeM? f (f a s).final).events,
      (l.findSomeM? f (f a s).final).final⟩ := by
  rw [List.findSomeM?_cons, Prog.bind_of_ok h]

/-- Where the first element does not pass, the search ends as its step does. -/
theorem findSomeM?_cons_of_out_stop {a : α} (h : (f a s).out ≠ .ok none) :
    (a :: l).findSomeM? f s = f a s := by
  rw [List.findSomeM?_cons]
  rcases hf : f a s with ⟨out, events, final⟩
  cases out with
  | ok b? =>
    cases b? with
    | none => exact absurd (by rw [hf]) h
    | some b => simp [Prog.bind_apply, Prog.bind, hf]
  | err e => simp [Prog.bind_apply, Prog.bind, hf]
  | panic p => simp [Prog.bind_apply, Prog.bind, hf]

/-- **The events of a search are those of its visits.** -/
theorem events_findSomeM? (f : α → Prog ε ν σ (Option β)) (l : List α) (s : σ) :
    (l.findSomeM? f s).events = (visits f l s).flatMap fun x => (f x.1 x.2).events := by
  induction l generalizing s with
  | nil => rfl
  | cons a l ih =>
    by_cases h : (f a s).out = .ok none
    · rw [visits_cons_of_pass h, findSomeM?_cons_of_out_pass h, List.flatMap_cons, ih]
    · rw [visits_cons_of_stop h, findSomeM?_cons_of_out_stop h, List.flatMap_singleton]

/-! ### Where a visit is met -/

/-- **The elements before a visit passed**, and what every step keeps holds in its state. -/
theorem of_mem_visits {I : σ → Prop} (hstep : ∀ a s, I s → I (f a s).final) (hs : I s)
    {x : α × σ} (hx : x ∈ visits f l s) :
    I x.2 ∧ ∃ l₁ l₂, l = l₁ ++ x.1 :: l₂ ∧
      ∀ a ∈ l₁, ∃ t, I t ∧ (f a t).out = .ok none := by
  induction l generalizing s with
  | nil => cases hx
  | cons a l ih =>
    by_cases hpass : (f a s).out = .ok none
    · rw [visits_cons_of_pass hpass] at hx
      rcases List.mem_cons.mp hx with rfl | hx
      · exact ⟨hs, [], l, rfl, by simp⟩
      · obtain ⟨hI, l₁, l₂, rfl, hl₁⟩ := ih (hstep a s hs) hx
        refine ⟨hI, a :: l₁, l₂, rfl, fun b hb => ?_⟩
        rcases List.mem_cons.mp hb with rfl | hb
        · exact ⟨s, hs, hpass⟩
        · exact hl₁ b hb
    · rw [visits_cons_of_stop hpass] at hx
      obtain rfl := List.mem_singleton.mp hx
      exact ⟨hs, [], l, rfl, by simp⟩

/-- **An element after elements that surely pass is visited.** -/
theorem exists_mem_visits {I : σ → Prop} (hs : I s) (a : α)
    (hpass : ∀ b ∈ l₁, ∀ t, I t → (f b t).out = .ok none ∧ I (f b t).final) :
    ∃ t, I t ∧ (a, t) ∈ visits f (l₁ ++ a :: l₂) s := by
  induction l₁ generalizing s with
  | nil => exact ⟨s, hs, mem_visits_cons a⟩
  | cons b l₁ ih =>
    obtain ⟨hb, hI⟩ := hpass b (by simp) s hs
    obtain ⟨t, ht, hmem⟩ := ih hI fun c hc => hpass c (by simp [hc])
    refine ⟨t, ht, ?_⟩
    rw [List.cons_append, visits_cons_of_pass hb]
    exact List.mem_cons_of_mem _ hmem

end Basis
