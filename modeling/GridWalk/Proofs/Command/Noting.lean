import GridWalk.Proofs.Command.Scanning

/-! Reading with notes at hand. Whoever reads a text from left to right notes down at once what is wrong: that a comma is
    missing, where commas are required, that something cannot be read, and the first message. The notes at the end are
    the flags of the reading, and the program is the same whether commas are required or not. -/

namespace GridWalk.Command

/-- What is noted down while a text is read. -/
structure Notes where
  missingComma : Bool := false
  /-- Something could not be read. -/
  invalid : Bool := false
  /-- The first message. -/
  message : Option String := none
deriving DecidableEq, Repr

namespace Notes

/-- Notes a message, unless there is one. -/
def say (text : String) (n : Notes) : Notes := { n with message := n.message <|> some text }

/-- Notes that something cannot be read. -/
def refuse (n : Notes) : Notes := { n with invalid := true }.say Fault.badToken.message

/-- Notes whether a comma is missing in front of what follows a term. -/
def checkComma (requireComma : Bool) (rest : List Char) (n : Notes) : Notes :=
  { n with missingComma := n.missingComma || (requireComma && lacksComma rest) }

/-- The notes with those of what is read next. -/
def followed (n later : Notes) : Notes where
  missingComma := n.missingComma || later.missingComma
  invalid := n.invalid || later.invalid
  message := n.message <|> later.message

end Notes

/-- Reads a text, from which blanks and small letters are gone, and goes on with the notes. -/
def noting (requireComma : Bool) (cs : List Char) (n : Notes) : Program × Notes :=
  match cs with
  | [] => ([], n)
  | ',' :: rest => noting requireComma rest n
  | '(' :: rest =>
    match h : readFrame rest with
    | .error fault => noting requireComma rest (n.say fault.message).refuse
    | .ok frame =>
      have := length_readFrame h
      let (body, n) := noting requireComma frame.body n
      if body.writtenMoves.isEmpty then noting requireComma rest (n.say Fault.emptyLoop.message).refuse
      else
        let (terms, n) := noting requireComma frame.rest (n.checkComma requireComma frame.rest)
        (.loop body.writtenMoves frame.times :: terms, n)
  | c :: rest =>
    match h : readMove (c :: rest) with
    | none => noting requireComma rest n.refuse
    | some (move, after) =>
      have := length_readMove h
      let (terms, n) := noting requireComma after (n.checkComma requireComma after)
      (.move move :: terms, n)
termination_by cs.length
decreasing_by
  all_goals
    simp only [List.length_cons] at *
    omega

/-- Reads a command text and notes down what is wrong with it. -/
def noted (requireComma : Bool) (text : String) : Program × Notes := noting requireComma (normalize text) {}

/-- The flags as notes: what cannot be read is a fault, and the message is that of the first one. -/
def Flags.notes (f : Flags) : Notes where
  missingComma := f.missingComma
  invalid := f.fault.isSome
  message := f.fault.map Fault.message

/-- The notes on a reading. -/
def Reading.notes (r : Reading) (requireComma : Bool) : Notes := (r.flags requireComma).notes

variable {requireComma : Bool} {n : Notes} {r s : Reading}

theorem Reading.notes_append (r s : Reading) :
    (r ++ s).notes requireComma = (r.notes requireComma).followed (s.notes requireComma) := by
  cases hfault : r.fault <;>
    simp [Notes.followed, Reading.notes, Reading.flags, Flags.notes, Bool.and_or_distrib_left, hfault]

namespace Notes

theorem followed_empty (n : Notes) (requireComma : Bool) : n.followed (({} : Reading).notes requireComma) = n := by
  simp [followed, Reading.notes, Reading.flags, Flags.notes]

theorem followed_assoc (n m k : Notes) : (n.followed m).followed k = n.followed (m.followed k) := by
  simp [followed, Bool.or_assoc, Option.or_assoc]

theorem followed_append (n : Notes) (r s : Reading) :
    n.followed ((r ++ s).notes requireComma) = (n.followed (r.notes requireComma)).followed (s.notes requireComma) := by
  rw [Reading.notes_append, followed_assoc]

theorem followed_faulty (n : Notes) (fault : Fault) :
    n.followed ((Reading.faulty fault).notes requireComma) = (n.say fault.message).refuse := by
  simp [followed, refuse, say, Reading.notes, Reading.flags, Flags.notes, Reading.faulty]

theorem followed_badToken (n : Notes) : n.followed ((Reading.faulty .badToken).notes requireComma) = n.refuse := by
  simp [followed, refuse, say, Reading.notes, Reading.flags, Flags.notes, Reading.faulty]

theorem followed_single (n : Notes) (t : Term) (rest : List Char) :
    n.followed ((Reading.single t (lacksComma rest)).notes requireComma) = n.checkComma requireComma rest := by
  simp [followed, checkComma, Reading.notes, Reading.flags, Flags.notes, Reading.single]

end Notes

/-- The notes at the end are those at hand with those on the reading. -/
theorem noting_eq (cs : List Char) (n : Notes) :
    noting requireComma cs n = ((scan cs).terms, n.followed ((scan cs).notes requireComma)) := by
  -- Whatever the scanner puts together from its parts is noted down part by part.
  fun_induction noting requireComma cs n with
  | case1 n =>
    rw [scan_nil]
    exact Prod.ext rfl (n.followed_empty requireComma).symm
  | case2 n rest ih => rw [ih, scan_comma]
  | case3 n rest fault hf ih => rw [ih, scan_badLoop hf, Notes.followed_append, Notes.followed_faulty]; rfl
  | case4 n rest f hf _ body n' hbody hempty ihbody ih =>
    obtain ⟨rfl, rfl⟩ := Prod.mk.inj (hbody.symm.trans ihbody)
    rw [ih, scan_emptyLoop hf (List.isEmpty_iff.mp hempty), Notes.followed_append, Notes.followed_append,
      Notes.followed_faulty]
    rfl
  | case5 n rest f hf _ body n' hbody hne terms n'' hrest ihbody ih =>
    obtain ⟨rfl, rfl⟩ := Prod.mk.inj (hbody.symm.trans ihbody)
    obtain ⟨rfl, rfl⟩ := Prod.mk.inj (hrest.symm.trans ih)
    rw [scan_loop hf fun h => hne (List.isEmpty_iff.mpr h), Notes.followed_append, Notes.followed_append,
      Notes.followed_single]
    rfl
  | case6 n c rest hcomma hopen hm ih =>
    rw [ih, scan_badToken hcomma hopen hm, Notes.followed_append, Notes.followed_badToken]
    rfl
  | case7 n c rest _ _ move after hm _ terms n' hrest ih =>
    obtain ⟨rfl, rfl⟩ := Prod.mk.inj (hrest.symm.trans ih)
    rw [scan_move hm, Notes.followed_append, Notes.followed_single]
    rfl

/-- A command text is noted down as it is read. -/
theorem noted_eq (requireComma : Bool) (text : String) :
    noted requireComma text = ((read text).terms, (read text).notes requireComma) := by
  rw [noted, noting_eq, read]
  cases (scan (normalize text)).notes requireComma
  simp [Notes.followed]

/-- A reader hands out the program and remembers the notes, unless loops are nested too deeply for it. -/
theorem Reader.read_eq_noted (r : Reader) (text : String) (h : (Command.read text).depth ≤ maxDepth) :
    (r.read (some text)).1 = .ok (noted r.options.requireComma text).1 ∧
      (r.read (some text)).2.last.notes = (noted r.options.requireComma text).2 := by
  rw [noted_eq, Reader.read, if_neg (Nat.not_lt.mpr h)]
  exact ⟨rfl, rfl⟩

end GridWalk.Command
