import GridWalk.Level.Loading

/-! # Playlists

The levels that the player can go through: the built-in ones, then the generated ones by number. A
level of another name comes first. -/

namespace GridWalk.Client

/-- The last level number of a playlist. -/
def maxLevel : Nat := 20

/-- The names of levels in the order of play, and which of them is current. -/
structure Playlist where
  names : List String
  index : Nat
deriving DecidableEq, Repr

namespace Playlist

/-- The levels of every playlist. -/
def standardNames : List String :=
  Catalog.names ++ (List.range maxLevel).map fun i => toString (i + 1)

/-- The playlist that begins at a level. -/
def startingAt (name : String) : Playlist :=
  let names := if standardNames.contains name then standardNames else name :: standardNames
  ⟨names, names.idxOf name⟩

/-- Goes on by a number of levels, round and round. -/
def advance (p : Playlist) (offset : Int) : Playlist :=
  { p with index := ((p.index + offset) % (p.names.length : Int)).toNat }

/-- The name of the current level. -/
def current (p : Playlist) : String := (p.names[p.index]?).getD ""

end Playlist
end GridWalk.Client
