import ReceivingApp.Lib.BigStep
import ReceivingApp.Lib.Hoare
import ReceivingApp.Lib.Knowledge

namespace Interaction.Program

variable {Op Op' : Type → Type} {ε α β σ τ κ : Type}

-- ### Calls that are programs

-- The program goes on with whatever it comes to, a value or an exception.
def andThen (p : Program Op ε β) (k : Except ε β → Program Op ε α) : Program Op ε α :=
  match p with
  | pure b    => k (.ok b)
  | throw e   => k (.error e)
  | call op c => call op (fun r => (c r).andThen k)

-- The program with each of its calls replaced by a program that does its work.
def refine (f : ∀ {β : Type}, Op β → Program Op' ε β) (p : Program Op ε α) : Program Op' ε α :=
  match p with
  | pure a    => pure a
  | throw e   => throw e
  | call op k => (f op).andThen (fun r => (k r).refine f)

@[simp]
theorem ofExcept_andThen (r : Except ε β) (k : Except ε β → Program Op ε α) :
    (ofExcept r).andThen k = k r := by
  cases r <;> rfl

@[simp]
theorem perform_andThen (op : Op β) (k : Except ε β → Program Op ε α) :
    (perform op).andThen k = call op k := by
  simp [perform, andThen]

-- ### Runs

section Runs

theorem run_andThen (h : Handler Op' ε σ) (p : Program Op' ε β)
    (k : Except ε β → Program Op' ε α) (s : σ) :
    (p.andThen k).run h s = (k (p.run h s).1).run h (p.run h s).2 := by
  induction p generalizing s
  case pure | throw => rfl
  case call op c ih => exact ih _ _

-- Where the programs do to a part of the state what the calls do, so does the whole.
theorem run_refine {f : ∀ {β : Type}, Op β → Program Op' ε β} {h : Handler Op ε τ}
    {h' : Handler Op' ε σ} {part : σ → τ}
    (hf : ∀ {β} (op : Op β) s, ((f op).run h' s).1 = (h β op (part s)).1 ∧
      part ((f op).run h' s).2 = (h β op (part s)).2) (p : Program Op ε α) (s : σ) :
    ((p.refine f).run h' s).1 = (p.run h (part s)).1 ∧
      part ((p.refine f).run h' s).2 = (p.run h (part s)).2 := by
  induction p generalizing s
  case pure | throw => exact ⟨rfl, rfl⟩
  case call op k ih =>
    have ⟨hr, hs⟩ := hf op s
    simp only [refine, run_andThen, run]
    rw [← hr, ← hs]
    exact ih _ _

end Runs

-- ### Rules

theorem wp.andThen {E : Env Op' ε σ} {Q : α → σ → Prop} {X : ε → σ → Prop} {p : Program Op' ε β}
    {k : Except ε β → Program Op' ε α} {s : σ}
    (h : ∀ r s', Ends E s p s' r → (k r).wp E (fun _ => True) Q X s') :
    (p.andThen k).wp E (fun _ => True) Q X s := by
  induction p generalizing s
  case pure | throw => exact h _ s (.refl _ _)
  case call op c ih =>
    exact ⟨trivial, fun r s₁ he => ih r fun r' s' hr => h r' s' (.call he hr)⟩

-- A program stays correct where each of its calls comes to what the programs in its place come to.
theorem wp.refine {E : Env Op' ε σ} {f : ∀ {β : Type}, Op β → Program Op' ε β} {Q : α → σ → Prop}
    {X : ε → σ → Prop} {p : Program Op ε α} {s : σ}
    (h : p.wp (fun β (op : Op β) s r s' => Ends E s (f op) s' r) (fun _ => True) Q X s) :
    (p.refine f).wp E (fun _ => True) Q X s := by
  induction p generalizing s
  case pure | throw => exact h
  case call op k ih => exact .andThen fun r s' hr => ih r (h.2 r s' hr)

namespace Discipline.Follows

variable {D : Discipline Op ε κ} {D' : Discipline Op' ε κ} {F : Set κ}

-- Programs in the place of calls have to follow the discipline, and to teach what the calls do.
theorem refine {f : ∀ {β : Type}, Op β → Program Op' ε β}
    (hf : ∀ {β} {op : Op β} {F : Set κ} {k : Except ε β → Program Op' ε α}, D.allows β op F →
      (∀ r, D'.Follows (k r) (F ∪ D.teaches β op r)) → D'.Follows ((f op).andThen k) F)
    {p : Program Op ε α} (h : D.Follows p F) : D'.Follows (p.refine f) F := by
  induction p generalizing F
  case pure | throw => trivial
  case call op k ih => exact hf h.1 fun r => ih r (h.2 r)

end Discipline.Follows
end Interaction.Program
