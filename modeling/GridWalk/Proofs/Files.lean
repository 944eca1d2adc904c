import GridWalk.Files

/-! Writing and reading files. Where nothing stands in the way of a file, it is written with any text, read back
    with that text, and nothing stands in its way afterwards. -/

namespace GridWalk.Files

variable {fs : Files} {p q : Path} {text : String}

/-- Nothing stands in the way of writing a file. -/
structure CanWrite (fs : Files) (p : Path) : Prop where
  parent : fs.isFile p.dropLast = false
  way : fs.isBlocked p = false
  place : fs.isDirectory p = false

theorem write_of_canWrite (h : fs.CanWrite p) (text : String) : fs.write p text = .ok (fs.put p text) := by
  rw [write, h.parent, h.way, h.place]
  rfl

/-- A file can be written exactly if writing it succeeds, whatever the text. -/
theorem canWrite_iff : fs.CanWrite p ↔ ∀ text, ∃ fs', fs.write p text = .ok fs' := by
  refine ⟨fun h text => ⟨_, write_of_canWrite h text⟩, fun h => ?_⟩
  obtain ⟨fs', hwrite⟩ := h ""
  unfold write at hwrite
  split at hwrite
  · cases hwrite
  · rename_i hparent
    split at hwrite
    · cases hwrite
    · rename_i hway
      split at hwrite
      · cases hwrite
      · rename_i hplace
        exact ⟨Bool.eq_false_iff.mpr hparent, Bool.eq_false_iff.mpr hway, Bool.eq_false_iff.mpr hplace⟩

theorem CanWrite.ne_nil (h : fs.CanWrite p) : p ≠ [] := by
  rintro rfl
  have hplace := h.place
  rw [isDirectory] at hplace
  cases hplace

/-! ### Putting a text -/

theorem isFile_eq_any (fs : Files) (p : Path) : fs.isFile p = fs.entries.any (·.1 == p) := by
  rw [isFile, text?, Option.isSome_map, List.isSome_find?]

theorem text?_put (fs : Files) (p : Path) (text : String) : (fs.put p text).text? p = some text := by
  unfold put
  split
  case isTrue hfile =>
    rw [isFile_eq_any, List.any_eq_true] at hfile
    obtain ⟨e, he, hep⟩ := hfile
    rw [text?, List.find?_map]
    cases hfind : fs.entries.find? ((·.1 == p) ∘ fun e => if e.1 == p then (p, text) else e) with
    | none =>
      have hne := List.find?_eq_none.mp hfind e he
      rw [Function.comp_apply, if_pos hep] at hne
      exact absurd (beq_self_eq_true p) hne
    | some e' =>
      have hep' : e'.1 = p := by
        have hmatch := List.find?_some hfind
        rw [Function.comp_apply] at hmatch
        split at hmatch
        · rename_i heq
          exact beq_iff_eq.mp heq
        · exact beq_iff_eq.mp hmatch
      simp [hep']
  case isFalse hfile =>
    rw [isFile, Option.not_isSome_iff_eq_none, text?, Option.map_eq_none_iff] at hfile
    rw [text?, List.find?_append, hfile]
    simp

theorem read_put (fs : Files) (p : Path) (text : String) : (fs.put p text).read p = .ok text := by
  rw [read, text?_put]

/-- What does not hold of the path itself holds of the path of an entry as before. -/
theorem any_put {f : Path → Bool} (hf : f p = false) (text : String) :
    ((fs.put p text).entries.any fun e => f e.1) = fs.entries.any fun e => f e.1 := by
  unfold put
  split
  · have hkeeps : ((fun e => f e.1) ∘ fun e : Path × String => if e.1 == p then (p, text) else e) = fun e => f e.1 := by
      funext e
      rw [Function.comp_apply]
      split
      · rename_i heq
        rw [beq_iff_eq.mp heq]
      · rfl
    rw [List.any_map, hkeeps]
  · rw [List.any_append, List.any_cons, List.any_nil, hf, Bool.or_false, Bool.or_false]

theorem put_directories (fs : Files) (p : Path) (text : String) : (fs.put p text).directories = fs.directories := by
  unfold put
  split <;> rfl

theorem CanWrite.put (h : fs.CanWrite p) (text : String) : (fs.put p text).CanWrite p where
  parent := by
    have hne : (p == p.dropLast) = false := by
      rw [beq_eq_false_iff_ne]
      intro heq
      have hlength := congrArg List.length heq
      have hpos := List.length_pos_iff.mpr h.ne_nil
      rw [List.length_dropLast] at hlength
      omega
    rw [isFile_eq_any, any_put (f := (· == p.dropLast)) hne, ← isFile_eq_any]
    exact h.parent
  way := by
    have hself : (p.length < p.length && p.isPrefixOf p : Bool) = false := by simp
    exact (any_put (f := fun q => q.length < p.length && q.isPrefixOf p) hself text).trans h.way
  place := by
    have hself : (p.length < p.length && p.isPrefixOf p : Bool) = false := by simp
    rw [isDirectory, any_put (f := fun q => p.length < q.length && p.isPrefixOf q) hself, put_directories]
    exact h.place

end GridWalk.Files
