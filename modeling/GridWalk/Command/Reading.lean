import GridWalk.Command.Brackets
import GridWalk.Command.Count
import GridWalk.Program.Unrolled
import GridWalk.Text.Classes

/-! # Reading command texts

A command text is a sequence of terms that commas separate. A move is a direction letter and a count;
a loop is a bracketed text followed by `X` and a count. Blanks and letter case do not matter.

Reading always yields a program. Where no term can be read, the text is faulty and reading goes on one
character later, so the terms inside a broken loop are still found. Only the first fault is kept. -/

namespace GridWalk.Command

/-- What is wrong with a text where no term can be read. -/
inductive Fault
  | badToken
  | unclosedLoop
  | missingTimes
  | missingCount
  | zeroCount
  | countTooLarge
  | emptyLoop
deriving DecidableEq, Repr

/-- What is said to the player about a fault. -/
def Fault.message : Fault → String
  | .badToken => "Comando incorrecto."
  | .unclosedLoop => "Comando incorrecto: falta cerrar el paréntesis del bucle."
  | .missingTimes =>
    "Comando incorrecto: después del paréntesis debe ir 'x' y el número de repeticiones."
  | .missingCount => "Comando incorrecto: indica cuántas veces se repite el bucle."
  | .zeroCount => "Comando incorrecto: el bucle debe repetirse al menos una vez."
  | .countTooLarge => "Comando incorrecto: el bucle se repite demasiadas veces."
  | .emptyLoop => "Comando incorrecto: el bucle no tiene instrucciones."

/-- What reading a text yields. -/
structure Reading where
  terms : Program := []
  /-- Whether two terms follow each other without a comma. -/
  missingComma : Bool := false
  /-- The first fault. -/
  fault : Option Fault := none
  /-- How deep the loops are nested whose bodies were read. -/
  depth : Nat := 0
deriving DecidableEq, Repr

namespace Reading

/-- Two readings one after the other. -/
def append (r s : Reading) : Reading where
  terms := r.terms ++ s.terms
  missingComma := r.missingComma || s.missingComma
  fault := r.fault <|> s.fault
  depth := max r.depth s.depth

instance : Append Reading := ⟨append⟩

/-- Nothing but a fault. -/
def faulty (fault : Fault) : Reading := { fault := some fault }

/-- A single term, with a comma missing after it or not. -/
def single (term : Term) (missingComma : Bool) : Reading := { terms := [term], missingComma := missingComma }

/-- What the reading of a loop's body leaves beside its moves. -/
def asBody (r : Reading) : Reading := { r with terms := [], depth := r.depth + 1 }

@[simp] theorem append_terms (r s : Reading) : (r ++ s).terms = r.terms ++ s.terms := rfl

@[simp] theorem append_missingComma (r s : Reading) :
    (r ++ s).missingComma = (r.missingComma || s.missingComma) := rfl

@[simp] theorem append_fault (r s : Reading) : (r ++ s).fault = (r.fault <|> s.fault) := rfl

end Reading

/-- Whether a comma is missing in front of what follows a term. -/
def lacksComma : List Char → Bool
  | [] => false
  | c :: _ => c ≠ ',' && c ≠ ')'

/-- The move at the beginning of a text, and the rest. -/
def readMove : List Char → Option (Move × List Char)
  | [] => none
  | c :: cs =>
    match Direction.ofSymbol? c with
    | none => none
    | some direction =>
      let (digits, rest) := takeDigits cs
      if h : 0 < countOf digits then some (⟨direction, countOf digits, h⟩, rest) else none

/-- A loop whose body is still text. -/
structure LoopFrame where
  body : List Char
  times : Nat
  rest : List Char

/-- The loop at the beginning of a text, given what follows its opening bracket. -/
def readFrame (cs : List Char) : Except Fault LoopFrame :=
  match splitClosing 0 cs with
  | none => .error .unclosedLoop
  | some (body, 'X' :: after) =>
    let (digits, rest) := takeDigits after
    if digits.isEmpty then .error .missingCount
    else if countOf digits = 0 then .error .zeroCount
    else if oversizedCount ≤ countOf digits then .error .countTooLarge
    else .ok ⟨body, countOf digits, rest⟩
  | some _ => .error .missingTimes

theorem length_readMove {cs rest : List Char} {m : Move} (h : readMove cs = some (m, rest)) :
    rest.length < cs.length := by
  unfold readMove at h
  split at h
  · simp at h
  · rename_i c cs
    split at h
    · simp at h
    · simp only [Option.dite_none_right_eq_some, Option.some.injEq, Prod.mk.injEq] at h
      obtain ⟨_, _, rfl⟩ := h
      exact Nat.lt_succ_of_le (length_takeDigits_snd cs)

theorem length_readFrame {cs : List Char} {f : LoopFrame} (h : readFrame cs = .ok f) :
    f.body.length ≤ cs.length ∧ f.rest.length ≤ cs.length := by
  unfold readFrame at h
  split at h
  · simp at h
  · rename_i body after hs
    have hl := congrArg List.length (eq_append_of_splitClosing hs)
    have hd := length_takeDigits_snd after
    simp only [List.length_append, List.length_cons] at hl
    simp only at h
    split at h
    · simp at h
    · split at h
      · simp at h
      · split at h
        · simp at h
        · simp only [Except.ok.injEq] at h
          subst h
          simp only
          omega
  · simp at h

/-- Reads a text from which blanks and small letters are gone. -/
def scan (cs : List Char) : Reading :=
  match cs with
  | [] => {}
  | ',' :: rest => scan rest
  | '(' :: rest =>
    match h : readFrame rest with
    | .error fault => Reading.faulty fault ++ scan rest
    | .ok frame =>
      have := length_readFrame h
      let body := scan frame.body
      if body.terms.writtenMoves.isEmpty then body.asBody ++ (Reading.faulty .emptyLoop ++ scan rest)
      else
        body.asBody ++
          (Reading.single (.loop body.terms.writtenMoves frame.times) (lacksComma frame.rest) ++ scan frame.rest)
  | c :: rest =>
    match h : readMove (c :: rest) with
    | none => Reading.faulty .badToken ++ scan rest
    | some (move, after) =>
      have := length_readMove h
      Reading.single (.move move) (lacksComma after) ++ scan after
termination_by cs.length
decreasing_by
  all_goals
    simp only [List.length_cons] at *
    omega

/-- The text as it is scanned: without blanks and in capitals. -/
def normalize (text : String) : List Char := Text.upper (text.toList.filter (!Text.isBlank ·))

/-- Reads a command text. -/
def read (text : String) : Reading := scan (normalize text)

/-- The moves that a command text makes, whatever is wrong with it. -/
def movesOf (text : String) : List Move := (read text).terms.unroll

end GridWalk.Command
