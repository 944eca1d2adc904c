import GridWalk.Level.Loading
import GridWalk.Proofs.Text.Classes

/-! The names that levels are loaded by. A name is a number or stands in the catalog, so it is a single word without a
    semicolon, as a command of a script can give it. -/

namespace GridWalk

namespace Level
open Text

/-- Whether a text is a single word without a semicolon. -/
def IsWord (cs : List Char) : Prop := cs ≠ [] ∧ ∀ c ∈ cs, isBlank c = false ∧ c ≠ ';'

theorem isWord_iff {cs : List Char} :
    IsWord cs ↔ cs.isEmpty = false ∧ (cs.all fun c => !isBlank c && c != ';') = true := by
  simp [IsWord]

instance (cs : List Char) : Decidable (IsWord cs) := decidable_of_iff' _ isWord_iff

theorem isWord_of_isDigits {cs : List Char} (h : isDigits cs = true) : IsWord cs := by
  rw [isDigits, Bool.and_eq_true] at h
  refine ⟨by simpa using h.1, fun c hc => ?_⟩
  have hdigit := List.all_eq_true.mp h.2 c hc
  refine ⟨not_isBlank_of_isDigit hdigit, ?_⟩
  rintro rfl
  exact absurd hdigit (by decide +kernel)

theorem isWord_of_mem_names : ∀ name ∈ Catalog.names, IsWord name.toList := by
  decide +kernel

theorem level_of_notMem_names {name : String} (h : name ∉ Catalog.names) :
    Catalog.level name = .error (.unknownName name) := by
  have hnone : Catalog.entries.find? (·.name == name) = none := by
    refine List.find?_eq_none.mpr fun entry hentry hname => h ?_
    exact List.mem_map.mpr ⟨entry, hentry, by simpa using hname⟩
  rw [Catalog.level, hnone]

/-- Whatever loads a level is a single word. -/
theorem isWord_of_load {name : String} {seeding : Seeding} {level : Level} (h : load name seeding = .ok level) :
    IsWord name.toList := by
  rw [load, loadWithin] at h
  split at h
  · rename_i hnumber
    exact isWord_of_isDigits hnumber
  · by_cases hname : name ∈ Catalog.names
    · exact isWord_of_mem_names name hname
    · rw [level_of_notMem_names hname] at h
      cases h

end Level
end GridWalk
