import GridWalk.Text.Pieces
import GridWalk.Text.Printable

/-! # The prompt

The line in which the player types commands. -/

namespace GridWalk.Client

/-- The keys that the game tells apart. -/
inductive Key
  | enter
  | backspace
  | escape
  | tab
  | f5
  | h
  | other
deriving DecidableEq, Repr

/-- A key that is pressed, with the text that it types. -/
structure KeyPress where
  key : Key
  typed : String := ""
  shift : Bool := false
deriving DecidableEq, Repr

/-- The most characters that more are typed after. -/
def maxPrompt : Nat := 120

/-- The text typed so far. -/
structure Prompt where
  text : List Char := []
deriving DecidableEq, Repr

namespace Prompt

/-- The keys that type a character each. -/
def typing (c : Char) : KeyPress where
  key := if c = 'h' || c = 'H' then .h else .other
  typed := c.toString

/-- Whether a key types something that shows. -/
def types (k : KeyPress) : Bool := !k.typed.isEmpty && k.typed.toList.all Text.isPrintable

/-- Applies a key and tells whether it submits the text. -/
def press (p : Prompt) (k : KeyPress) : Bool × Prompt :=
  match k.key with
  | .enter => (!(Text.trim p.text).isEmpty, p)
  | .backspace => (false, ⟨p.text.dropLast⟩)
  | .escape => (false, ⟨[]⟩)
  | _ => (false, if types k && p.text.length < maxPrompt then ⟨p.text ++ k.typed.toList⟩ else p)

/-- Applies keys one after the other and tells what the last one does. -/
def pressAll (p : Prompt) (keys : List KeyPress) : Option Bool × Prompt :=
  keys.foldl (fun (_, p) k => (some (p.press k).1, (p.press k).2)) (none, p)

end Prompt
end GridWalk.Client
