import ReceivingApp.Lib.Hoare
import Mathlib.Data.List.Basic

namespace Interaction.Program

variable {Op : Type → Type} {ε α β κ : Type}
variable {answers : ∀ β, Op β → Except ε β → Prop} {note : ∀ β, Op β → Except ε β → List κ}

-- Surroundings that say which answers a call may get, and write down each call with its answer.
def Journaled (answers : ∀ β, Op β → Except ε β → Prop) (note : ∀ β, Op β → Except ε β → List κ) :
    Env Op ε (List κ) :=
  fun β op l r l' => answers β op r ∧ l' = l ++ note β op r

-- The surroundings that answer each call in one way.
def journaled (answer : ∀ β, Op β → Except ε β) (note : ∀ β, Op β → Except ε β → List κ) :
    Handler Op ε (List κ) :=
  fun β op l => (answer β op, l ++ note β op (answer β op))

theorem steps_journaled {answer : ∀ β, Op β → Except ε β}
    (h : ∀ β (op : Op β), answers β op (answer β op)) (p : Program Op ε α) (l : List κ) :
    Steps (Journaled answers note) l p (p.run (journaled answer note) l).2
      (ofExcept (p.run (journaled answer note) l).1) :=
  steps_run (fun β op _ => ⟨h β op, rfl⟩) p l

-- The surroundings that answer each call by what is in the journal so far.
def recounting (answer : ∀ β, Op β → List κ → Except ε β)
    (note : ∀ β, Op β → Except ε β → List κ) : Handler Op ε (List κ) :=
  fun β op l => (answer β op l, l ++ note β op (answer β op l))

theorem steps_recounting {answer : ∀ β, Op β → List κ → Except ε β}
    (h : ∀ β (op : Op β) l, answers β op (answer β op l)) (p : Program Op ε α) (l : List κ) :
    Steps (Journaled answers note) l p (p.run (recounting answer note) l).2
      (ofExcept (p.run (recounting answer note) l).1) :=
  steps_run (fun β op l => ⟨h β op l, rfl⟩) p l

-- A call that is never written down.
def Quiet (note : ∀ β, Op β → Except ε β → List κ) (β : Type) (op : Op β) : Prop :=
  ∀ r, note β op r = []

-- What holds of every entry, given those before it, holds after one more entry if it holds of that.
theorem forall_entry_concat_iff {P : List κ → κ → Prop} {l : List κ} {x : κ} :
    (∀ l₁ y l₂, l ++ [x] = l₁ ++ y :: l₂ → P l₁ y) ↔
      (∀ l₁ y l₂, l = l₁ ++ y :: l₂ → P l₁ y) ∧ P l x := by
  constructor
  case mp =>
    intro h
    exact ⟨fun l₁ y l₂ hl => h l₁ y (l₂ ++ [x]) (by simp [hl]), h l x [] rfl⟩
  case mpr =>
    rintro ⟨hl, hx⟩ l₁ y l₂ he
    rcases List.eq_nil_or_concat' l₂ with rfl | ⟨l₃, z, rfl⟩
    · obtain ⟨rfl, hy⟩ := List.append_inj' he rfl
      exact List.singleton_inj.mp hy ▸ hx
    · have he : l ++ [x] = (l₁ ++ y :: l₃) ++ [z] := by simpa using he
      exact hl l₁ y l₃ (List.append_inj' he rfl).1

-- A program that has come to its end.
def Ended (p : Program Op ε α) : Prop :=
  ∃ r, p = ofExcept r

namespace wp

variable {I : List κ → Prop} {Q : α → List κ → Prop} {X : ε → List κ → Prop} {l : List κ}

-- A call comes to one of the answers it may get, and that is written down.
theorem noted {op : Op α} (h : I l)
    (hok : ∀ a, answers α op (.ok a) → I (l ++ note α op (.ok a)) ∧ Q a (l ++ note α op (.ok a)))
    (herr : ∀ e, answers α op (.error e) →
      I (l ++ note α op (.error e)) ∧ X e (l ++ note α op (.error e))) :
    (Program.perform op : Program Op ε α).wp (Journaled answers note) I Q X l := by
  refine .perform h ?_ ?_
  · rintro a _ ⟨ha, rfl⟩
    exact hok a ha
  · rintro e _ ⟨he, rfl⟩
    exact herr e he

theorem performNoted {op : Op α}
    (hok : ∀ a, answers α op (.ok a) → Q a (l ++ note α op (.ok a)))
    (herr : ∀ e, answers α op (.error e) → X e (l ++ note α op (.error e))) :
    (Program.perform op : Program Op ε α).wp (Journaled answers note) (fun _ => True) Q X l :=
  noted trivial (fun a ha => ⟨trivial, hok a ha⟩) (fun e he => ⟨trivial, herr e he⟩)

-- Where no call is written down, the journal stays as it is.
theorem quiet {p : Program Op ε α} (hu : Uses (Quiet note) p) (h : I l) (hQ : ∀ a, Q a l)
    (hX : ∀ e, X e l) : p.wp (Journaled answers note) I Q X l := by
  have hl : p.wp (Journaled answers note) I (fun _ l' => l' = l) (fun _ l' => l' = l) l := by
    refine frame ?_ (by rintro _ rfl; exact h) hu rfl
    rintro β op l r _ hq ⟨-, rfl⟩ rfl
    rw [hq r, List.append_nil]
  refine hl.mono ?_ ?_
  · rintro a _ _ rfl
    exact hQ a
  · rintro e _ _ rfl
    exact hX e

-- What a program comes to that has ended.
theorem ended {p q : Program Op ε α} {E : Env Op ε (List κ)} {l' : List κ} (h : p.wp E I Q X l)
    (hs : Steps E l p l' q) (hq : q.Ended) :
    (∃ a, q = .pure a ∧ Q a l') ∨ (∃ e, q = .throw e ∧ X e l') := by
  obtain ⟨r, rfl⟩ := hq
  cases r
  case ok a    => exact .inl ⟨a, rfl, h.returns hs⟩
  case error e => exact .inr ⟨e, rfl, h.raises hs⟩

end wp
end Interaction.Program
