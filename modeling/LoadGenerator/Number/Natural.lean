/-
Powers and sums of natural numbers, and the range of machine words.

* **`twoTo`**, **`tenTo`** — the powers of two and of ten;
* **`total`** — the sum of a list, with what becomes of it when the list is put in another order
  (`total_perm`) or changed in one place (`total_map_set`, `total_map_modify`);
* **`wordRange`** — the number of values of a machine word, which has sixty-four bits.
-/
namespace LoadGenerator

/-- A power of two. -/
def twoTo (n : Nat) : Nat := Nat.pow 2 n

theorem twoTo_add (m n : Nat) : twoTo (m + n) = twoTo m * twoTo n := Nat.pow_add 2 m n

theorem twoTo_pos (n : Nat) : 0 < twoTo n := Nat.two_pow_pos n

/-- A power of ten. -/
def tenTo (n : Nat) : Nat := Nat.pow 10 n

/-- The number of values of a machine word. -/
def wordRange : Nat := twoTo 64

/-- The sum of a list. -/
def total : List Nat → Nat
  | [] => 0
  | n :: ns => n + total ns

@[simp] theorem total_nil : total [] = 0 := rfl

@[simp] theorem total_cons (n : Nat) (ns : List Nat) : total (n :: ns) = n + total ns := rfl

/-- The sum of two lists together is the sum of both sums. -/
@[simp] theorem total_append (ms ns : List Nat) : total (ms ++ ns) = total ms + total ns := by
  induction ms with
  | nil => simp
  | cons m ms ih => rw [List.cons_append, total_cons, total_cons, ih, Nat.add_assoc]

theorem total_map_eq_zero {α : Type} {f : α → Nat} {l : List α} (h : ∀ a ∈ l, f a = 0) :
    total (l.map f) = 0 := by
  induction l with
  | nil => rfl
  | cons a l ih =>
    rw [List.forall_mem_cons] at h
    rw [List.map_cons, total_cons, h.1, ih h.2]

/-- Nothing that is summed up exceeds the sum. -/
theorem le_total_map {α : Type} {l : List α} {a : α} (h : a ∈ l) (f : α → Nat) :
    f a ≤ total (l.map f) := by
  induction l with
  | nil => cases h
  | cons b l ih =>
    rw [List.map_cons, total_cons]
    rcases List.mem_cons.mp h with rfl | h
    · exact Nat.le_add_right _ _
    · exact Nat.le_add_left_of_le (ih h)

/-- A sum does not depend on the order. -/
theorem total_perm {ms ns : List Nat} (h : ms.Perm ns) : total ms = total ns := by
  induction h with
  | nil => rfl
  | cons n _ ih => rw [total_cons, total_cons, ih]
  | swap m n ns =>
    simp only [total_cons]
    omega
  | trans _ _ ih ih' => exact ih.trans ih'

/-- A sum changes by the one element that is replaced. -/
theorem total_map_set {α : Type} {l : List α} {i : Nat} {a : α} (h : l[i]? = some a) (b : α)
    (f : α → Nat) : total ((l.set i b).map f) + f a = total (l.map f) + f b := by
  obtain ⟨hi, rfl⟩ := List.getElem?_eq_some_iff.mp h
  obtain ⟨before, after, hl, -, hset⟩ : ∃ before after, l = before ++ l[i] :: after ∧
      before.length = i ∧ l.set i b = before ++ b :: after := List.exists_of_set hi
  have hold : total (l.map f) = total (before.map f) + (f l[i] + total (after.map f)) := by
    rw [← total_cons, ← List.map_cons, ← total_append, ← List.map_append, ← hl]
  rw [hset, hold, List.map_append, total_append, List.map_cons, total_cons]
  omega

/-- What is added to one element is added to the sum. -/
theorem total_map_modify {α : Type} {f : α → Nat} {g : α → α} {k : Nat}
    (hk : ∀ x, f (g x) = f x + k) (l : List α) {i : Nat} (h : i < l.length ∨ k = 0) :
    total ((l.modify i g).map f) = total (l.map f) + k := by
  induction l generalizing i with
  | nil =>
    rcases h with h | rfl
    · exact absurd h (Nat.not_lt_zero i)
    · rw [List.modify_nil, Nat.add_zero]
  | cons x l ih =>
    cases i with
    | zero =>
      rw [List.modify_zero_cons, List.map_cons, List.map_cons, total_cons, total_cons, hk]
      omega
    | succ i =>
      have hrest := ih (h.imp_left Nat.lt_of_succ_lt_succ)
      rw [List.modify_succ_cons, List.map_cons, List.map_cons, total_cons, total_cons, hrest]
      omega

end LoadGenerator
