import Mathlib.Data.List.Basic

namespace Commands

variable {α ι : Type*} {p : α → Bool} {v : ι → List α}

-- A text is read as commands: each starts at an introducer and goes on up to the next one.
def commands (p : α → Bool) : List α → List (α × List α)
  | []     => []
  | a :: l => if p a then (a, l.takeWhile (!p ·)) :: commands p l else commands p l

-- ### Formats

-- A text with slots that are filled in later.
abbrev Format (α ι : Type*) := List (α ⊕ ι)

-- A part of a format without slots.
def lit (l : List α) : Format α ι :=
  l.map .inl

def fill (v : ι → List α) (f : Format α ι) : List α :=
  f.flatMap (Sum.elim (fun a => [a]) v)

def opens (p : α → Bool) : α ⊕ ι → Bool
  | .inl a => p a
  | .inr _ => false

-- The commands of a format, where no slot holds an introducer.
def formatCommands (p : α → Bool) : Format α ι → List (α × Format α ι)
  | []           => []
  | .inl a :: f  =>
    if p a then (a, f.takeWhile (!opens p ·)) :: formatCommands p f else formatCommands p f
  | .inr _ :: f  => formatCommands p f

section Fill

variable {f g : Format α ι} {l r : List α}

@[simp]
theorem fill_nil : fill v [] = [] :=
  rfl

@[simp]
theorem fill_inl (a : α) : fill v (.inl a :: f) = a :: fill v f :=
  rfl

@[simp]
theorem fill_inr (i : ι) : fill v (.inr i :: f) = v i ++ fill v f :=
  rfl

@[simp]
theorem fill_append : fill v (f ++ g) = fill v f ++ fill v g :=
  List.flatMap_append

@[simp]
theorem fill_lit : fill v (lit l) = l := by
  induction l
  case nil          => rfl
  case cons a l ih => simpa [lit] using ih

end Fill

-- ### Reading a format that is filled in

section Reading

variable {f : Format α ι} {l r : List α}

theorem commands_append_of_forall (h : ∀ a ∈ l, p a = false) :
    commands p (l ++ r) = commands p r := by
  induction l
  case nil => rfl
  case cons a l ih =>
    have ⟨ha, hl⟩ := List.forall_mem_cons.mp h
    simp [commands, ha, ih hl]

theorem takeWhile_fill (hv : ∀ i, ∀ a ∈ v i, p a = false) :
    (fill v f).takeWhile (!p ·) = fill v (f.takeWhile (!opens p ·)) := by
  induction f
  case nil => rfl
  case cons x f ih =>
    cases x
    case inl a => cases ha : p a <;> simp [opens, ha, ih]
    case inr i =>
      have hi : ∀ a ∈ v i, (!p a) = true := fun a ha => by simp [hv i a ha]
      rw [fill_inr, List.takeWhile_append_of_pos hi, ih]
      simp [opens]

-- Texts without introducers change no command, but for what they are filled in to.
theorem commands_fill (hv : ∀ i, ∀ a ∈ v i, p a = false) (f : Format α ι) :
    commands p (fill v f) = (formatCommands p f).map fun c => (c.1, fill v c.2) := by
  induction f
  case nil => rfl
  case cons x f ih =>
    cases x
    case inl a => cases ha : p a <;> simp [commands, formatCommands, ha, ih, takeWhile_fill hv]
    case inr i => rw [fill_inr, commands_append_of_forall (hv i), ih, formatCommands]

-- Two ways to read each command agree where the first reads all.
theorem map_eq_of_mapM_eq_some {α β γ : Type*} {f : α → Option β} {g : α → γ} {k : β → γ}
    (hfg : ∀ {a b}, f a = some b → g a = k b) {l : List α} {bs : List β}
    (h : l.mapM f = some bs) : l.map g = bs.map k := by
  induction l generalizing bs
  case nil =>
    cases h
    rfl
  case cons a l ih =>
    simp only [List.mapM_cons, Option.bind_eq_bind, Option.bind_eq_some_iff] at h
    obtain ⟨b, hb, bs', hl, ⟨⟩⟩ := h
    rw [List.map_cons, List.map_cons, hfg hb, ih hl]

end Reading
end Commands
