/-
Targets and the addresses that they stand for.

White space at the ends of a text is characterised without the way in which it is found: a text is
its core with white space around it, and the core neither begins nor ends with white space, although
there may be some inside. There is only one such core, and so more white space around a text does
not change it.

The addresses of targets are then looked up one after the other. The first target that stands for
none decides, whatever comes behind it.

* **`Text.Pads`**, **`Text.Core`** — white space around a text, and what lies between it;
* **`Text.trim_eq_iff`** — trimming gives the core;
* **`resolveEach_eq_ok_iff`**, **`resolveEach_eq_error_iff`** — one address for each target in
  order, or the first failure;
* **`targets_resolved_in_order`** — both together, for the targets of a configuration.
-/
import LoadGenerator.Config.Targets
import Mathlib.Data.List.DropRight
import Mathlib.Data.List.Forall2

namespace LoadGenerator

/-! ### White space around a text -/

namespace Text

/-- A text of white space alone. -/
def IsBlank (s : String) : Prop := ∀ c ∈ s.toList, isBlank c = true

/-- The second text is the first with white space around it. -/
def Pads (s padded : String) : Prop :=
  ∃ front back, IsBlank front ∧ IsBlank back ∧ padded = front ++ s ++ back

/-- The second text is what lies between the white space at the ends of the first. -/
structure Core (s core : String) : Prop where
  pads : Pads core s
  first : ∀ c ∈ core.toList.head?, isBlank c = false
  last : ∀ c ∈ core.toList.getLast?, isBlank c = false

variable {s padded core : String} {cs front back : List Char}

theorem trimChars_eq (cs : List Char) :
    trimChars cs = (cs.dropWhile isBlank).rdropWhile isBlank := rfl

theorem trimChars_blank_append (h : ∀ c ∈ front, isBlank c = true) :
    trimChars (front ++ cs) = trimChars cs := by
  rw [trimChars, List.dropWhile_append_of_pos h, trimChars]

theorem trimChars_append_blank (h : ∀ c ∈ back, isBlank c = true) :
    trimChars (cs ++ back) = trimChars cs := by
  have hreverse : ∀ c ∈ back.reverse, isBlank c = true := by simpa using h
  unfold trimChars
  rw [List.dropWhile_append]
  split
  · next hnone =>
    -- there is nothing but white space in front of what is appended
    rw [List.isEmpty_iff] at hnone
    rw [hnone, List.dropWhile_eq_nil_iff.mpr h]
  · rw [List.reverse_append, List.dropWhile_append_of_pos hreverse]

/-- White space around a text makes no difference to its trimming. -/
theorem trim_of_pads (h : Pads s padded) : trim padded = trim s := by
  obtain ⟨front, back, hfront, hback, rfl⟩ := h
  rw [trim, String.toList_append, String.toList_append, trimChars_append_blank hback,
    trimChars_blank_append hfront, trim]

/-- What has no white space at its ends stays as it is. -/
theorem trimChars_eq_self (hfirst : ∀ c ∈ cs.head?, isBlank c = false)
    (hlast : ∀ c ∈ cs.getLast?, isBlank c = false) : trimChars cs = cs := by
  have hfront : cs.dropWhile isBlank = cs := by
    rw [List.dropWhile_eq_self_iff]
    intro hlength
    rw [hfirst _ (by rw [List.head?_eq_getElem?, List.getElem?_eq_getElem hlength]; rfl)]
    exact Bool.false_ne_true
  rw [trimChars_eq, hfront, List.rdropWhile_eq_self_iff]
  intro hne
  rw [hlast _ (List.getLast?_eq_some_getLast hne)]
  exact Bool.false_ne_true

theorem core_trim (s : String) : Core s (trim s) := by
  have hlist : (trim s).toList = (s.toList.dropWhile isBlank).rdropWhile isBlank := by
    rw [trim, String.toList_ofList, trimChars_eq]
  refine ⟨⟨.ofList (s.toList.takeWhile isBlank),
    .ofList ((s.toList.dropWhile isBlank).rtakeWhile isBlank), ?_, ?_, ?_⟩, ?_, ?_⟩
  · intro c hc
    rw [String.toList_ofList] at hc
    exact List.mem_takeWhile_imp hc
  · intro c hc
    rw [String.toList_ofList] at hc
    exact List.mem_rtakeWhile_imp hc
  · apply String.toList_injective
    rw [String.toList_append, String.toList_append, String.toList_ofList, String.toList_ofList,
      hlist, List.append_assoc, List.rdropWhile_append_rtakeWhile, List.takeWhile_append_dropWhile]
  · intro c hc
    rw [hlist] at hc
    -- the first character is where the white space in front ended
    have hprefix := List.rdropWhile_prefix isBlank (s.toList.dropWhile isBlank)
    have hhead : (s.toList.dropWhile isBlank).head? = some c := by
      obtain ⟨rest, hrest⟩ := hprefix
      rw [← hrest, List.head?_append_of_ne_nil _ (List.ne_nil_of_mem (List.mem_of_mem_head? hc))]
      exact hc
    have hnot := List.head?_dropWhile_not isBlank s.toList
    rw [hhead] at hnot
    exact hnot
  · intro c hc
    rw [hlist] at hc
    obtain ⟨hne, rfl⟩ := List.mem_getLast?_eq_getLast hc
    exact Bool.eq_false_iff.mpr (List.rdropWhile_last_not _ _ hne)

/-- **Trimming gives the core, and a text has only one.** -/
theorem trim_eq_iff : trim s = core ↔ Core s core := by
  constructor
  · rintro rfl
    exact core_trim s
  · intro h
    rw [trim_of_pads h.pads, trim, trimChars_eq_self h.first h.last, String.ofList_toList]

end Text

/-! ### One target after the other -/

/-- The address that a target stands for, whatever white space is around it. -/
def StandsFor (target : String) (address : SocketAddress) : Prop :=
  ∃ core, Text.Core target core ∧ SocketAddress.parse? core = some address

/-- A target without an address, and its text without the white space around it. -/
def StandsForNone (target core : String) : Prop :=
  Text.Core target core ∧ SocketAddress.parse? core = none

variable {target core : String} {address : SocketAddress} {targets padded : List String}
  {addresses : List SocketAddress} {e : TargetError}

theorem resolveTarget_eq_ok_iff :
    resolveTarget target = .ok address ↔ StandsFor target address := by
  have hcore : StandsFor target address ↔
      SocketAddress.parse? (Text.trim target) = some address := by
    constructor
    · rintro ⟨core, h, hparse⟩
      rwa [Text.trim_eq_iff.mpr h]
    · exact fun h => ⟨_, Text.core_trim target, h⟩
  rw [hcore]
  unfold resolveTarget
  cases SocketAddress.parse? (Text.trim target) <;> simp

theorem resolveTarget_eq_error_iff :
    resolveTarget target = .error e ↔ ∃ core, StandsForNone target core ∧ e = .invalid core := by
  have hcore : (∃ core, StandsForNone target core ∧ e = .invalid core) ↔
      SocketAddress.parse? (Text.trim target) = none ∧ e = .invalid (Text.trim target) := by
    constructor
    · rintro ⟨core, ⟨h, hparse⟩, rfl⟩
      rw [Text.trim_eq_iff.mpr h]
      exact ⟨hparse, rfl⟩
    · exact fun ⟨hparse, he⟩ => ⟨_, ⟨Text.core_trim target, hparse⟩, he⟩
  rw [hcore]
  unfold resolveTarget
  cases SocketAddress.parse? (Text.trim target) <;> simp [eq_comm]

theorem resolveEach_cons_of_ok (h : resolveTarget target = .ok address) (targets : List String) :
    resolveEach (target :: targets) = (resolveEach targets).map (address :: ·) := by
  rw [resolveEach, List.mapM_cons, h, resolveEach]
  cases targets.mapM resolveTarget <;> rfl

theorem resolveEach_cons_of_error (h : resolveTarget target = .error e) (targets : List String) :
    resolveEach (target :: targets) = .error e := by
  rw [resolveEach, List.mapM_cons, h]
  rfl

/-- One address for each target, in the same order. -/
theorem resolveEach_eq_ok_iff :
    resolveEach targets = .ok addresses ↔ List.Forall₂ StandsFor targets addresses := by
  induction targets generalizing addresses with
  | nil =>
    rw [List.forall₂_nil_left_iff, resolveEach, List.mapM_nil]
    exact ⟨fun h => (Except.ok.inj h).symm, fun h => congrArg _ h.symm⟩
  | cons target targets ih =>
    rw [List.forall₂_cons_left_iff]
    -- the first target has an address, or everything fails with it
    cases hfirst : resolveTarget target with
    | ok address =>
      rw [resolveEach_cons_of_ok hfirst]
      constructor
      · intro h
        cases hrest : resolveEach targets with
        | ok rest =>
          rw [hrest] at h
          exact ⟨address, rest, resolveTarget_eq_ok_iff.mp hfirst, ih.mp hrest,
            (Except.ok.inj h).symm⟩
        | error e =>
          rw [hrest] at h
          cases h
      · rintro ⟨address', rest, hstands, hrest, rfl⟩
        rw [← resolveTarget_eq_ok_iff, hfirst] at hstands
        rw [ih.mpr hrest, Except.ok.inj hstands]
        rfl
    | error e =>
      rw [resolveEach_cons_of_error hfirst]
      refine ⟨nofun, ?_⟩
      rintro ⟨address', rest, hstands, -, -⟩
      rw [← resolveTarget_eq_ok_iff, hfirst] at hstands
      cases hstands

/-- The first target without an address decides; what comes behind it is not looked at. -/
theorem resolveEach_eq_error_iff :
    resolveEach targets = .error e ↔
      ∃ before target after core, targets = before ++ target :: after ∧
        (∀ t ∈ before, ∃ address, StandsFor t address) ∧ StandsForNone target core ∧
        e = .invalid core := by
  induction targets with
  | nil =>
    refine ⟨nofun, ?_⟩
    rintro ⟨before, target, after, core, h, -⟩
    cases before <;> cases h
  | cons first rest ih =>
    cases hfirst : resolveTarget first with
    | error e' =>
      rw [resolveEach_cons_of_error hfirst]
      constructor
      · intro h
        obtain rfl := Except.error.inj h
        obtain ⟨core, hnone, he⟩ := resolveTarget_eq_error_iff.mp hfirst
        exact ⟨[], first, rest, core, rfl, nofun, hnone, he⟩
      · rintro ⟨before, target, after, core, h, hbefore, hnone, rfl⟩
        -- the target that fails is the first one, since those before it have an address
        cases before with
        | nil =>
          obtain ⟨rfl, -⟩ := List.cons.inj h
          rw [resolveTarget_eq_error_iff.mpr ⟨core, hnone, rfl⟩] at hfirst
          rw [Except.error.inj hfirst]
        | cons t before =>
          obtain ⟨rfl, -⟩ := List.cons.inj h
          obtain ⟨address, hstands⟩ := hbefore first List.mem_cons_self
          rw [← resolveTarget_eq_ok_iff, hfirst] at hstands
          cases hstands
    | ok address =>
      have hstands := resolveTarget_eq_ok_iff.mp hfirst
      have hrest : resolveEach (first :: rest) = .error e ↔ resolveEach rest = .error e := by
        rw [resolveEach_cons_of_ok hfirst]
        cases resolveEach rest <;> simp [Except.map]
      rw [hrest, ih]
      constructor
      · rintro ⟨before, target, after, core, rfl, hbefore, hnone, he⟩
        exact ⟨first :: before, target, after, core, rfl,
          List.forall_mem_cons.mpr ⟨⟨address, hstands⟩, hbefore⟩, hnone, he⟩
      · rintro ⟨before, target, after, core, h, hbefore, hnone, he⟩
        cases before with
        | nil =>
          obtain ⟨rfl, -⟩ := List.cons.inj h
          rw [resolveTarget_eq_error_iff.mpr ⟨core, hnone, he⟩] at hfirst
          cases hfirst
        | cons t before =>
          obtain ⟨-, rfl⟩ := List.cons.inj h
          exact ⟨before, target, after, core, rfl, (List.forall_mem_cons.mp hbefore).2, hnone, he⟩

theorem resolveTarget_of_pads {text : String} (h : Text.Pads target text) :
    resolveTarget text = resolveTarget target := by
  unfold resolveTarget
  rw [Text.trim_of_pads h]

theorem resolveEach_of_pads (h : List.Forall₂ Text.Pads targets padded) :
    resolveEach padded = resolveEach targets := by
  induction h with
  | nil => rfl
  | cons hpads _ ih =>
    unfold resolveEach at ih ⊢
    rw [List.mapM_cons, List.mapM_cons, resolveTarget_of_pads hpads, ih]

/-! ### The targets of a configuration -/

theorem resolveTargets_of_ne_nil (h : targets ≠ []) :
    resolveTargets targets = resolveEach targets := by
  rw [resolveTargets, if_neg (by simpa using h)]

/-- **Targets are resolved in order, all or none, and whatever white space is around them.** There
are addresses exactly if there are targets and each of them stands for one, and then they are these
addresses, in the order of the targets. Otherwise there are no targets, or the first one that stands
for no address is quoted without the white space around it, whatever comes behind it. White space
around any of the targets changes neither the addresses nor the failure. -/
theorem targets_resolved_in_order (targets : List String) :
    (∀ addresses, resolveTargets targets = .ok addresses ↔
      targets ≠ [] ∧ List.Forall₂ StandsFor targets addresses) ∧
    ((∃ addresses, resolveTargets targets = .ok addresses) ↔
      targets ≠ [] ∧ ∀ target ∈ targets, ∃ address, StandsFor target address) ∧
    (∀ e, resolveTargets targets = .error e ↔
      targets = [] ∧ e = .noTargets ∨
      ∃ before target after core, targets = before ++ target :: after ∧
        (∀ t ∈ before, ∃ address, StandsFor t address) ∧ StandsForNone target core ∧
        e = .invalid core) ∧
    (∀ core, (TargetError.invalid core).message =
      "invalid target '" ++ core ++ "': invalid socket address syntax") ∧
    (∀ padded, List.Forall₂ Text.Pads targets padded →
      resolveTargets padded = resolveTargets targets) := by
  by_cases hnone : targets = []
  · subst hnone
    refine ⟨fun addresses => ⟨nofun, fun h => absurd rfl h.1⟩,
      ⟨nofun, fun h => absurd rfl h.1⟩, fun e => ?_, fun core => rfl, fun padded h => ?_⟩
    · constructor
      · exact fun h => .inl ⟨rfl, (Except.error.inj h).symm⟩
      · rintro (⟨-, rfl⟩ | ⟨before, target, after, core, h, -⟩)
        · rfl
        · cases before <;> cases h
    · rw [List.forall₂_nil_left_iff.mp h]
  · rw [resolveTargets_of_ne_nil hnone]
    refine ⟨fun addresses => ?_, ?_, fun e => ?_, fun core => rfl, fun padded h => ?_⟩
    · rw [resolveEach_eq_ok_iff]
      exact ⟨fun h => ⟨hnone, h⟩, And.right⟩
    · constructor
      · rintro ⟨addresses, h⟩
        refine ⟨hnone, fun target htarget => ?_⟩
        have hall := resolveEach_eq_ok_iff.mp h
        obtain ⟨i, hi, rfl⟩ := List.getElem_of_mem htarget
        exact ⟨_, hall.get hi (hall.length_eq ▸ hi)⟩
      · rintro ⟨-, hall⟩
        cases h : resolveEach targets with
        | ok addresses => exact ⟨addresses, rfl⟩
        | error e =>
          -- a failure would name a target that stands for no address
          obtain ⟨before, target, after, core, rfl, -, ⟨hcore, hparse⟩, -⟩ :=
            resolveEach_eq_error_iff.mp h
          obtain ⟨address, core', hcore', hparse'⟩ := hall target (by simp)
          rw [← Text.trim_eq_iff.mpr hcore', Text.trim_eq_iff.mpr hcore, hparse] at hparse'
          cases hparse'
    · rw [resolveEach_eq_error_iff]
      exact ⟨.inr, fun h => h.resolve_left fun hempty => hnone hempty.1⟩
    · have hpadded : padded ≠ [] := by
        rintro rfl
        exact hnone (List.forall₂_nil_right_iff.mp h)
      rw [resolveTargets_of_ne_nil hpadded, resolveEach_of_pads h]

/-- With a tab, an ideographic space and a line feed around three targets, the second is still the
first one that stands for no address, and it is quoted without them. -/
theorem targets_resolved_in_order_padded :
    let targets := ["[::1]:9001", "example.com: 80", ""]
    let padded := ["[::1]:9001\t", "\u3000example.com: 80", "\n"]
    List.Forall₂ Text.Pads targets padded ∧
      resolveTargets padded = resolveTargets targets ∧
      resolveTargets padded = .error (.invalid "example.com: 80") := by
  intro targets padded
  have hpads : List.Forall₂ Text.Pads targets padded := by
    refine .cons ⟨"", "\t", ?_, ?_, rfl⟩ (.cons ⟨"\u3000", "", ?_, ?_, rfl⟩
      (.cons ⟨"\n", "", ?_, ?_, rfl⟩ .nil)) <;> simp [Text.IsBlank, Text.isBlank]
  obtain ⟨-, -, herror, -, hsame⟩ := targets_resolved_in_order targets
  refine ⟨hpads, hsame padded hpads, (hsame padded hpads).trans ((herror _).mpr (.inr ?_))⟩
  refine ⟨["[::1]:9001"], "example.com: 80", [""], "example.com: 80", rfl, ?_, ?_, rfl⟩
  · intro t ht
    obtain rfl := List.mem_singleton.mp ht
    exact ⟨.v6 ⟨[0, 0, 0, 0, 0, 0, 0, 1], rfl⟩ 9001 0, "[::1]:9001",
      Text.trim_eq_iff.mp (by decide +kernel), by decide +kernel⟩
  · exact ⟨Text.trim_eq_iff.mp (by decide +kernel), by decide +kernel⟩

end LoadGenerator
