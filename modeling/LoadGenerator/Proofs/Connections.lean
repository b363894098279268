/-
The table of live connections, seen as a collection.

A table under whose entries no token appears twice can be taken apart at any token it holds:

* **`Connections.tokens`** — the tokens of a table;
* **`Connections.perm_cons_remove`** — a connection that is looked up can be put in front of all
  others;
* **`Connections.perm_set`** — changing it changes nothing behind it.

Every count and every sum over a table follows from these two, since neither depends on the order.
-/
import LoadGenerator.Worker.Basic

namespace LoadGenerator

namespace Connections

/-- The tokens of a table, in order. -/
def tokens (cs : Connections) : List Token := cs.map Prod.fst

variable {cs : Connections} {s t : Token} {c d : Connection}

@[simp] theorem tokens_nil : tokens [] = [] := rfl

@[simp] theorem tokens_cons (e : Token × Connection) (cs : Connections) :
    tokens (e :: cs) = e.1 :: tokens cs := rfl

@[simp] theorem tokens_add (cs : Connections) (t : Token) (c : Connection) :
    (cs.add t c).tokens = cs.tokens ++ [t] := by
  simp [tokens, add]

@[simp] theorem tokens_set (cs : Connections) (t : Token) (c : Connection) :
    (cs.set t c).tokens = cs.tokens := by
  unfold tokens set
  rw [List.map_map]
  refine List.map_congr_left fun e _ => ?_
  by_cases h : e.1 = t <;> simp [h]

theorem mem_remove {e : Token × Connection} : e ∈ cs.remove t ↔ e ∈ cs ∧ e.1 ≠ t := by
  simp [remove]

theorem mem_tokens_remove : s ∈ (cs.remove t).tokens ↔ s ∈ cs.tokens ∧ s ≠ t := by
  simp only [tokens, List.mem_map, mem_remove]
  constructor
  · rintro ⟨e, ⟨he, hne⟩, rfl⟩
    exact ⟨⟨e, he, rfl⟩, hne⟩
  · rintro ⟨⟨e, he, rfl⟩, hne⟩
    exact ⟨e, ⟨he, hne⟩, rfl⟩

theorem nodup_tokens_remove (h : cs.tokens.Nodup) (t : Token) : (cs.remove t).tokens.Nodup :=
  h.sublist (List.filter_sublist.map Prod.fst)

theorem mem_of_get? (h : cs.get? t = some c) : (t, c) ∈ cs := by
  unfold get? at h
  rw [Option.map_eq_some_iff] at h
  obtain ⟨⟨s, d⟩, hfind, rfl⟩ := h
  have ht : s = t := by simpa using List.find?_some hfind
  subst ht
  exact List.mem_of_find?_eq_some hfind

theorem mem_tokens_of_get? (h : cs.get? t = some c) : t ∈ cs.tokens :=
  List.mem_map_of_mem (mem_of_get? h)

theorem get?_eq_none_iff : cs.get? t = none ↔ t ∉ cs.tokens := by
  simp only [get?, tokens, Option.map_eq_none_iff, List.find?_eq_none, List.mem_map,
    decide_eq_true_eq, not_exists, not_and]

/-- A table without a token loses nothing when the token is removed. -/
theorem remove_of_notMem (h : t ∉ cs.tokens) : cs.remove t = cs := by
  unfold remove
  rw [List.filter_eq_self]
  intro e he
  have hne : e.1 ≠ t := fun heq => h (heq ▸ List.mem_map_of_mem he)
  simpa using hne

/-- A table without a token does not notice a change to the token's connection. -/
theorem set_of_notMem (h : t ∉ cs.tokens) (c : Connection) : cs.set t c = cs := by
  unfold set
  refine (List.map_congr_left fun e he => ?_).trans (List.map_id cs)
  have hne : e.1 ≠ t := fun heq => h (heq ▸ List.mem_map_of_mem he)
  rw [if_neg hne, id_eq]

/-- A connection that is looked up can be put in front of the others. -/
theorem perm_cons_remove (hnd : cs.tokens.Nodup) (h : cs.get? t = some c) :
    cs.Perm ((t, c) :: cs.remove t) := by
  induction cs with
  | nil => simp [get?] at h
  | cons e cs ih =>
    rw [tokens_cons, List.nodup_cons] at hnd
    by_cases he : e.1 = t
    · -- the first entry is the one looked up, and no other has its token
      subst he
      have hc : e.2 = c := by simpa [get?] using h
      have hrest : remove (e :: cs) e.1 = cs := by
        rw [show remove (e :: cs) e.1 = remove cs e.1 by simp [remove]]
        exact remove_of_notMem hnd.1
      rw [hrest, ← hc]
    · have hget : get? cs t = some c := by simpa [get?, he] using h
      have hrest : remove (e :: cs) t = e :: remove cs t := by simp [remove, he]
      rw [hrest]
      exact ((ih hnd.2 hget).cons e).trans (List.Perm.swap _ _ _)

/-- A connection that is changed can be put in front of the others, which stay as they are. -/
theorem perm_set (hnd : cs.tokens.Nodup) (h : cs.get? t = some c) (d : Connection) :
    (cs.set t d).Perm ((t, d) :: cs.remove t) := by
  -- among the others the token does not occur, so they take no notice of the change
  have hset : ∀ cs : Connections, (cs.remove t).set t d = cs.remove t := fun cs =>
    set_of_notMem (fun hmem => (mem_tokens_remove.mp hmem).2 rfl) d
  have hmap := (perm_cons_remove hnd h).map fun e => if e.1 = t then (t, d) else e
  rw [List.map_cons, if_pos rfl] at hmap
  exact hmap.trans (by rw [show List.map _ (cs.remove t) = _ from hset cs])

theorem mem_set_iff (hnd : cs.tokens.Nodup) (h : cs.get? t = some c) {e : Token × Connection} :
    e ∈ cs.set t d ↔ e = (t, d) ∨ e ∈ cs ∧ e.1 ≠ t := by
  rw [(perm_set hnd h d).mem_iff, List.mem_cons, mem_remove]

/-- With no token twice, looking up is membership. -/
theorem get?_eq_some_iff (hnd : cs.tokens.Nodup) : cs.get? t = some c ↔ (t, c) ∈ cs := by
  refine ⟨mem_of_get?, fun h => ?_⟩
  cases hget : cs.get? t with
  | none => exact absurd (List.mem_map_of_mem h) (get?_eq_none_iff.mp hget)
  | some d =>
    rw [(perm_cons_remove hnd hget).mem_iff, List.mem_cons, mem_remove] at h
    rcases h with h | h
    · rw [(Prod.mk.inj h).2]
    · exact absurd rfl h.2

@[simp] theorem remove_set (cs : Connections) (t : Token) (d : Connection) :
    (cs.set t d).remove t = cs.remove t := by
  induction cs with
  | nil => rfl
  | cons e cs ih =>
    by_cases he : e.1 = t
    · simpa [set, remove, he] using ih
    · simpa [set, remove, he] using ih

theorem get?_set_self (h : cs.get? t = some c) (d : Connection) : (cs.set t d).get? t = some d := by
  induction cs with
  | nil => simp [get?] at h
  | cons e cs ih =>
    by_cases he : e.1 = t
    · simp [set, get?, he]
    · have hget : get? cs t = some c := by simpa [get?, he] using h
      simpa [set, get?, he] using ih hget

theorem get?_set_of_ne (cs : Connections) (h : s ≠ t) (d : Connection) :
    (cs.set t d).get? s = cs.get? s := by
  induction cs with
  | nil => rfl
  | cons e cs ih =>
    by_cases he : e.1 = t
    · have hs : ¬e.1 = s := fun hes => h (hes.symm.trans he)
      have ht : ¬t = s := fun hts => h hts.symm
      simpa [set, get?, he, hs, ht] using ih
    · by_cases hs : e.1 = s
      · simp [set, get?, hs, h]
      · simpa [set, get?, he, hs] using ih

end Connections

end LoadGenerator
