import Luks.Basis.Effect
import Mathlib.Computability.Language

/-!
# The shape of a trace

A trace is a word over the events, so the traces of a kind are a language. A run is **made
of** the words of a language (`Basis.MadeOf`) if its trace is made of them – and where the
run does not return, which may be in the middle of a word, ends with what there is of one,
in a second language. A program is **traced** (`Basis.Traced`) if every run of it is made of
words.

The rules follow the program. Parts that leave one event at a time need no rule of their
own (`Basis.Traced.of_leaves`); a part that leaves a whole word is described by its runs
(`Basis.Traced.of_word`); and for a sequence of parts the languages do the work
(`Basis.Traced.bind`), as `A∗ * A∗ = A∗`.
-/

namespace Basis

open Computability

variable {ε ν σ τ α β : Type}

/-- The run leaves words of `A`, and where it does not return, maybe one of `B` after
them. -/
structure MadeOf (A B : Language ν) (run : Run ε ν σ α) : Prop where
  /-- Whether or not it returns. -/
  mem : run.events ∈ A∗ * (1 + B)
  /-- Where it returns. -/
  mem_of_ok : ∀ a, run.out = .ok a → run.events ∈ A∗

/-- Every run of the program is made of words. -/
def Traced (A B : Language ν) (m : Prog ε ν σ α) : Prop := ∀ s, MadeOf A B (m s)

namespace MadeOf

variable {A A' B : Language ν} {run : Run ε ν σ α}

/-- A run that leaves words of `A` only. -/
theorem of_mem (h : run.events ∈ A∗) : MadeOf A B run where
  mem := by
    rw [← List.append_nil run.events]
    exact Language.append_mem_mul h (Or.inl Language.nil_mem_one)
  mem_of_ok _ _ := h

/-- Words of `A` are words of any language that has them. -/
theorem mono (hA : ∀ t ∈ A, t ∈ A') (h : MadeOf A B run) : MadeOf A' B run := by
  have hstar : ∀ t ∈ A∗, t ∈ A'∗ := by
    intro t ht
    obtain ⟨words, rfl, hwords⟩ := Language.mem_kstar.mp ht
    exact Language.mem_kstar.mpr ⟨words, rfl, fun word hword => hA word (hwords word hword)⟩
  obtain ⟨t, ht, u, hu, htu⟩ := Language.mem_mul.mp h.mem
  refine ⟨?_, fun a ha => hstar _ (h.mem_of_ok a ha)⟩
  rw [← htu]
  exact Language.append_mem_mul (hstar t ht) hu

/-- **What holds of the events of all words** holds of the events of the run. -/
theorem forall_mem {E : ν → Prop} (h : MadeOf A B run) (hA : ∀ t ∈ A, ∀ v ∈ t, E v)
    (hB : ∀ t ∈ B, ∀ v ∈ t, E v) : ∀ v ∈ run.events, E v := by
  intro v hv
  obtain ⟨t, ht, u, hu, htu⟩ := Language.mem_mul.mp h.mem
  rw [← htu, List.mem_append] at hv
  rcases hv with hv | hv
  · obtain ⟨words, rfl, hwords⟩ := Language.mem_kstar.mp ht
    obtain ⟨word, hword, hv⟩ := List.mem_flatten.mp hv
    exact hA word (hwords word hword) v hv
  · rcases hu with rfl | hu
    · cases hv
    · exact hB u hu v hv

end MadeOf

namespace Traced

variable {A B : Language ν} {m : Prog ε ν σ α} {f : α → Prog ε ν σ β}

/-- A program that leaves nothing. -/
theorem of_silent (h : ∀ s, (m s).events = []) : Traced A B m := fun s => by
  refine MadeOf.of_mem ?_
  rw [h s]
  exact Language.nil_mem_kstar A

/-- **A program that leaves events which are words.** -/
theorem of_leaves {E : ν → Prop} (hm : Leaves E m) (hA : ∀ v, E v → [v] ∈ A) : Traced A B m := by
  intro s
  obtain ⟨-, hE⟩ := hm s trivial
  refine MadeOf.of_mem (Language.mem_kstar.mpr
    ⟨(m s).events.map fun v => [v], ?_, fun y hy => ?_⟩)
  · exact List.flatMap_singleton' (m s).events |>.symm
  · obtain ⟨v, hv, rfl⟩ := List.mem_map.mp hy
    exact hA v (hE v hv)

/-- **A program that leaves one word**, or stops in it. -/
theorem of_word (h : ∀ s, (m s).events ∈ A ∨ (m s).events ∈ B ∧ ∀ a, (m s).out ≠ .ok a) :
    Traced A B m := by
  intro s
  rcases h s with hA | ⟨hB, hne⟩
  · exact MadeOf.of_mem (le_kstar (a := A) hA)
  · exact ⟨Language.append_mem_mul (Language.nil_mem_kstar A) (Or.inr hB),
      fun a hout => absurd hout (hne a)⟩

theorem pure (a : α) : Traced A B (Pure.pure a : Prog ε ν σ α) := of_silent fun _ => rfl

theorem throw (e : ε) : Traced A B (Prog.throw e : Prog ε ν σ α) := of_silent fun _ => rfl

theorem ofExcept (x : Except ε α) : Traced A B (Prog.ofExcept x : Prog ε ν σ α) :=
  of_silent fun _ => by cases x <;> rfl

/-- **Sequencing**: words after words are words. -/
theorem bind {P : α → Prop} (hm : Traced A B m) (hP : Gives P m)
    (hf : ∀ a, P a → Traced A B (f a)) : Traced A B (m >>= f) := by
  intro s
  cases hout : (m s).out with
  | ok a =>
    have hwords := (hm s).mem_of_ok a hout
    have hrest := hf a (hP s a hout) (m s).final
    rw [Prog.bind_of_ok hout]
    constructor
    · rw [← kstar_mul_kstar A, mul_assoc]
      exact Language.append_mem_mul hwords hrest.mem
    · intro b hb
      rw [← kstar_mul_kstar A]
      exact Language.append_mem_mul hwords (hrest.mem_of_ok b hb)
  | err e =>
    rw [Prog.bind_of_err hout]
    exact ⟨(hm s).mem, fun b hb => by cases hb⟩
  | panic p =>
    rw [Prog.bind_of_panic hout]
    exact ⟨(hm s).mem, fun b hb => by cases hb⟩

/-- Sequencing, whatever value there is. -/
theorem andThen (hm : Traced A B m) (hf : ∀ a, Traced A B (f a)) : Traced A B (m >>= f) :=
  hm.bind (Gives.trivial m) fun a _ => hf a

theorem zoom {part : σ → τ} {put : τ → σ → σ} {m : Prog ε ν τ α} (hm : Traced A B m) :
    Traced A B (Prog.zoom part put m : Prog ε ν σ α) :=
  fun s => ⟨(hm (part s)).mem, (hm (part s)).mem_of_ok⟩

theorem findSomeM? {l : List α} {f : α → Prog ε ν σ (Option β)}
    (hf : ∀ a ∈ l, Traced A B (f a)) : Traced A B (l.findSomeM? f) := by
  induction l with
  | nil => exact pure none
  | cons a l ih =>
    rw [List.findSomeM?_cons]
    refine (hf a (by simp)).andThen fun b => ?_
    cases b with
    | some b => exact pure _
    | none => exact ih fun a ha => hf a (by simp [ha])

end Traced

end Basis
