import BucketStore.Log.LevelName
import BucketStore.Proofs.Text.Lemmas.Letters

/-!
# Levels by their names

A name in capitals is that of one of the levels, or it belongs to one of two other things of the
logging system, or it is unknown.
-/

namespace BucketStore.Log

/-- The levels that records may have, by name. -/
def standardLevels : List (String × Int) :=
  [("CRITICAL", 50), ("FATAL", 50), ("ERROR", 40), ("WARNING", 30), ("WARN", 30), ("INFO", 20),
    ("DEBUG", 10), ("NOTSET", 0)]

/-- What a name that is no level's fails with: the name of a text, or that of a table. -/
def levelFault? (name : String) : Option Failure :=
  if name = "BASIC_FORMAT" then
    some (.invalidValue "Unknown level: '%(levelname)s:%(name)s:%(message)s'")
  else if name = "_STYLES" then some .wrongType
  else none

/-- What is looked up is not left out of a list by a property that it has. -/
theorem lookup_filter {α : Type} {p : String → Bool} {name : String} (h : p name = true)
    (entries : List (String × α)) :
    (entries.filter fun entry => p entry.1).lookup name = entries.lookup name := by
  induction entries with
  | nil => rfl
  | cons entry entries ih =>
    obtain ⟨key, a⟩ := entry
    by_cases hkey : name = key
    · subst hkey
      simp [h]
    · by_cases hp : p key = true <;>
      simp [hp, List.lookup_cons, beq_eq_false_iff_ne.mpr hkey, ih]

theorem levelNumbers_inCapitals :
    (levelNumbers.filter fun entry => Text.inCapitals entry.1) = standardLevels := by
  decide +kernel

theorem levelTexts_inCapitals :
    (levelTexts.filter fun entry => Text.inCapitals entry.1) =
      [("BASIC_FORMAT", "%(levelname)s:%(name)s:%(message)s")] := by
  decide +kernel

theorem otherNames_inCapitals : otherNames.filter Text.inCapitals = ["_STYLES"] := by
  decide +kernel

/-- The level of a name in capitals is the standard one of that name, and that of ordinary messages
for an unknown name. -/
theorem levelOfName_of_inCapitals {name : String} (h : Text.inCapitals name = true) :
    levelOfName name =
      match levelFault? name with
      | some e => .error e
      | none => .ok ((standardLevels.lookup name).getD ordinaryLevel) := by
  have hnumbers : levelNumbers.lookup name = standardLevels.lookup name := by
    rw [← levelNumbers_inCapitals, lookup_filter h]
  have htexts : levelTexts.lookup name =
      [("BASIC_FORMAT", "%(levelname)s:%(name)s:%(message)s")].lookup name := by
    rw [← levelTexts_inCapitals, lookup_filter h]
  have hothers : otherNames.contains name = decide (name = "_STYLES") := by
    have hmem : name ∈ otherNames ↔ name ∈ otherNames.filter Text.inCapitals := by
      rw [List.mem_filter, and_iff_left h]
    rw [List.contains_eq_mem, decide_eq_decide, hmem, otherNames_inCapitals, List.mem_singleton]
  rw [levelOfName, hnumbers, htexts, hothers, levelFault?]
  by_cases hbasic : name = "BASIC_FORMAT"
  · subst hbasic
    rfl
  · by_cases hstyles : name = "_STYLES"
    · subst hstyles
      rfl
    · rw [if_neg hbasic, if_neg hstyles, List.lookup_cons, beq_eq_false_iff_ne.mpr hbasic]
      cases standardLevels.lookup name with
      | some n => rfl
      | none => simp [hstyles]

end BucketStore.Log
