/-
What a start of the program finds and what it leaves behind.

A start reads the configuration. Where nothing can be read, it takes the default one, and writes it
down if it can. So the first start may leave another place than it found, and the next one reads
what the first has written. The default configuration is read back from its text, and so nothing
changes any more from the second start on.

The bytes of a file that are no text count as nothing to be read, and the file is overwritten.

* **`Settings.defaultText`**, **`Settings.parse?_defaultText`** — the text of the default
  configuration, and what is read of it;
* **`Place.TakesDefaults`** — the places where the default configuration is written;
* **`Finds`**, **`finds_loadOrDefault`** — what a start makes of a place;
* **`later_starts_find_the_same`** — all starts find the same, and only the first one may write;
* **`overwritten_iff_no_text`** — what is overwritten, and with what.
-/
import LoadGenerator.Proofs.Saving
import Mathlib.Logic.Function.Iterate

namespace LoadGenerator

/-! ### The default configuration -/

namespace Settings

/-- The text of the default configuration. -/
def defaultText : String := Toml.writeDocument ({} : Settings).entries

theorem text_default : ({} : Settings).text = .ok defaultText :=
  text_of_countable rfl (by decide)

/-- **The default configuration is read back from its text**, without unknown keys. -/
theorem parse?_defaultText : parse? defaultText = some {} := by
  have hproper : ({} : Settings).IsProper := .of_other_eq_nil rfl (by decide) (by decide)
  have hreads : Toml.ReadsBack ({} : Settings).entries :=
    readsBack_entries hproper rfl (by simp) (by simp) (by simp)
  obtain ⟨other, hparse, horder⟩ := parse?_of_readsBack hproper rfl (by decide) hreads
  rw [List.perm_nil.mp horder] at hparse
  exact hparse

theorem readFrom_default : readFrom (.file defaultText.toUTF8) = .ok {} :=
  readFrom_file parse?_defaultText

end Settings

/-! ### Places -/

/-- There is no file yet, but one can be made, or there is one that holds no text. -/
def Place.TakesDefaults (place : Place) : Prop :=
  place = .vacant ∨ ∃ content, place = .file content ∧ ¬content.IsValidUTF8

open Settings (readFrom defaultText saveTo_of_text text_default)

variable {path : String} {place : Place} {s : Startup}

/-- Nothing can be read at a place that takes the default configuration. -/
theorem readFrom_of_takesDefaults (h : place.TakesDefaults) :
    readFrom place = .error .unreadable := by
  rcases h with rfl | ⟨content, rfl, htext⟩
  · rfl
  · simp only [readFrom, Place.read, String.fromUTF8?, dif_neg htext]

theorem write_of_takesDefaults (h : place.TakesDefaults) (content : ByteArray) :
    place.write content = (.file content, .ok ()) := by
  rcases h with rfl | ⟨content, rfl, -⟩ <;> rfl

/-- Where nothing can be read, nothing can be written either, but at those places. -/
theorem exists_write_error (hread : readFrom place = .error .unreadable)
    (h : ¬place.TakesDefaults) (content : ByteArray) :
    ∃ e, place.write content = (place, .error e) := by
  cases place with
  | vacant => exact absurd (.inl rfl) h
  | file bytes =>
    -- a file that holds a text can be read, whatever the text says
    have htext : bytes.IsValidUTF8 :=
      Decidable.byContradiction fun hno => h (.inr ⟨bytes, rfl, hno⟩)
    simp only [readFrom, Place.read, String.fromUTF8?, dif_pos htext] at hread
    split at hread <;> cases hread
  | directory | lost | blocked | refused => exact ⟨_, rfl⟩

/-! ### Starts -/

/-- What a start makes of a place. -/
inductive Finds (path : String) (place : Place) : Startup → Prop
  | configuration {c : Settings} (hread : readFrom place = .ok c) :
      Finds path place ⟨some c, place, c.notices⟩
  | malformed (hread : readFrom place = .error .malformed) : Finds path place ⟨none, place, []⟩
  /-- There is nothing to read, and the default configuration is written. -/
  | written (htakes : place.TakesDefaults) :
      Finds path place ⟨some {}, .file defaultText.toUTF8, [.wroteDefaults path]⟩
  /-- There is nothing to read, and the default configuration cannot be written. -/
  | unwritten (htakes : ¬place.TakesDefaults) (e : SystemError) :
      Finds path place ⟨some {}, place, [.couldNotWriteDefaults path e]⟩

theorem loadOrDefault_of_ok {c : Settings} (h : readFrom place = .ok c) :
    loadOrDefault path place = ⟨some c, place, c.notices⟩ := by
  simp only [loadOrDefault, h]

theorem finds_loadOrDefault (path : String) (place : Place) :
    Finds path place (loadOrDefault path place) := by
  cases hread : readFrom place with
  | ok c =>
    rw [loadOrDefault_of_ok hread]
    exact .configuration hread
  | error why =>
    cases why with
    | malformed =>
      simp only [loadOrDefault, hread]
      exact .malformed hread
    | unreadable =>
      -- nothing can be read: whether the defaults can be written decides what is found
      by_cases htakes : place.TakesDefaults
      · have hsave : ({} : Settings).saveTo place = (.file defaultText.toUTF8, .ok ()) :=
          saveTo_of_text text_default (write_of_takesDefaults htakes _)
        simp only [loadOrDefault, hread, hsave]
        exact .written htakes
      · obtain ⟨e, hwrite⟩ := exists_write_error hread htakes defaultText.toUTF8
        have hsave : ({} : Settings).saveTo place = (place, .error (.system e)) :=
          saveTo_of_text text_default hwrite
        simp only [loadOrDefault, hread, hsave]
        exact .unwritten htakes e

/-- A start that finds a place to take the default configuration writes it there. -/
theorem Finds.eq_of_takesDefaults (h : Finds path place s) (htakes : place.TakesDefaults) :
    s = ⟨some {}, .file defaultText.toUTF8, [.wroteDefaults path]⟩ := by
  have hread := readFrom_of_takesDefaults htakes
  cases h with
  | configuration hfound => cases hread.symm.trans hfound
  | malformed hfound => cases hread.symm.trans hfound
  | written => rfl
  | unwritten hno => exact absurd htakes hno

/-- Every other start leaves the place as it is. -/
theorem Finds.place_eq (h : Finds path place s) (htakes : ¬place.TakesDefaults) :
    s.place = place := by
  cases h with
  | written hyes => exact absurd hyes htakes
  | _ => rfl

/-- A start at a file with the default configuration finds this configuration and writes nothing. -/
theorem loadOrDefault_defaultText (path : String) :
    loadOrDefault path (.file defaultText.toUTF8) = ⟨some {}, .file defaultText.toUTF8, []⟩ :=
  loadOrDefault_of_ok Settings.readFrom_default

/-- The place as a start leaves it. -/
def placeAfterStart (path : String) (place : Place) : Place := (loadOrDefault path place).place

/-- The next start finds what this one has found, and leaves what this one has left. -/
theorem next_start (path : String) (place : Place) :
    let first := loadOrDefault path place
    (loadOrDefault path first.place).settings = first.settings ∧
      (loadOrDefault path first.place).place = first.place := by
  intro first
  have h : Finds path place first := finds_loadOrDefault path place
  by_cases htakes : place.TakesDefaults
  · rw [h.eq_of_takesDefaults htakes, loadOrDefault_defaultText]
    exact ⟨rfl, rfl⟩
  · rw [h.place_eq htakes]
    exact ⟨rfl, h.place_eq htakes⟩

/-- **All starts find the same.** Let the program be started again and again at a path, and nothing
else touch the file there. Whatever lies at the path at first, each later start ends with the same
configuration as the first, or with the same failure, and leaves the place as the first has left it.
In particular, where the first start writes the default configuration, each later one reads back
from the file what the first has taken, without unknown keys. -/
theorem later_starts_find_the_same (path : String) (place : Place) (n : Nat) :
    let first := loadOrDefault path place
    let later := loadOrDefault path ((placeAfterStart path)^[n] first.place)
    later.settings = first.settings ∧ later.place = first.place ∧
    (place.TakesDefaults →
      first = ⟨some {}, .file defaultText.toUTF8, [.wroteDefaults path]⟩ ∧
      readFrom first.place = .ok {} ∧ later = ⟨some {}, first.place, []⟩) := by
  intro first later
  have hnext := next_start path place
  -- the place is a fixed point of all later starts
  have hfixed : placeAfterStart path first.place = first.place := hnext.2
  have hlater : later = loadOrDefault path first.place := by
    simp only [later, Function.iterate_fixed hfixed]
  refine ⟨hlater ▸ hnext.1, hlater ▸ hnext.2, fun htakes => ?_⟩
  have hfirst : first = ⟨some {}, .file defaultText.toUTF8, [.wroteDefaults path]⟩ :=
    (finds_loadOrDefault path place).eq_of_takesDefaults htakes
  rw [hlater, hfirst, loadOrDefault_defaultText]
  exact ⟨rfl, Settings.readFrom_default, rfl⟩

/-- **A start overwrites a file exactly when its bytes are no text.** It leaves a file alone that
holds a text, whether it finds a configuration there or not, and it leaves every other place alone
but one where a file can be made. What it changes, it changes to a file with the default
configuration, which is then also what it takes. -/
theorem overwritten_iff_no_text (path : String) (place : Place) :
    let s := loadOrDefault path place
    (s.place ≠ place ↔
      place = .vacant ∨ ∃ content, place = .file content ∧ ¬content.IsValidUTF8) ∧
    (s.place ≠ place → s = ⟨some {}, .file defaultText.toUTF8, [.wroteDefaults path]⟩) := by
  intro s
  have h : Finds path place s := finds_loadOrDefault path place
  have hchanges : s.place ≠ place ↔ place.TakesDefaults := by
    refine ⟨fun hne => Classical.byContradiction fun hno => hne (h.place_eq hno),
      fun htakes heq => ?_⟩
    rw [h.eq_of_takesDefaults htakes] at heq
    -- the text that was written is a text
    rcases htakes with rfl | ⟨content, rfl, hno⟩
    -- a file where there was none
    · cases heq
    · exact hno (Place.file.inj heq ▸ defaultText.isValidUTF8)
  exact ⟨hchanges, fun hne => h.eq_of_takesDefaults (hchanges.mp hne)⟩

/-- A file with a single byte that begins no character is lost. -/
theorem overwritten_iff_no_text_lone_byte :
    let place : Place := .file ⟨#[0xff]⟩
    (loadOrDefault "settings.toml" place).place = .file defaultText.toUTF8 ∧
      (loadOrDefault "settings.toml" place).place ≠ place := by
  intro place
  obtain ⟨hchanges, hlost⟩ := overwritten_iff_no_text "settings.toml" place
  have hne := hchanges.mpr (.inr ⟨_, rfl, by decide⟩)
  exact ⟨congrArg Startup.place (hlost hne), hne⟩

end LoadGenerator
