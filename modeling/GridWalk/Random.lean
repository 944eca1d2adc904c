/-! # Draws

A source of draws gives whole numbers below a bound, or gives up. A stream of numbers is a source, and so
is the Mersenne Twister: the generator of random words MT19937, 624 words of state, each word of output a
mixture of one of them. A seed fills the state through its 32-bit words, least significant first. -/

namespace GridWalk.Random

/-! ## Sources -/

/-- A source with states in `σ`; `below n` draws a number below `n`. -/
structure DrawSource (σ : Type) where
  below : Nat → σ → Option (Nat × σ)
  below_lt : ∀ {n d : Nat} {s s' : σ}, 0 < n → below n s = some (d, s') → d < n

/-- A source that goes round a list of numbers, each taken modulo the bound. -/
def replaying (draws : List Int) : DrawSource Nat where
  below n i := draws[i % draws.length]?.map fun (d : Int) => ((d % (n : Int)).toNat, i + 1)
  below_lt hn h := by
    obtain ⟨d, -, hd⟩ := Option.map_eq_some_iff.mp h
    obtain ⟨rfl, -⟩ := Prod.mk.inj hd
    have hlt := Int.emod_lt_of_pos d (Int.natCast_pos.mpr hn)
    omega

/-- A source that goes along a stream of numbers, each taken modulo the bound. -/
def streaming (draws : Nat → Nat) : DrawSource Nat where
  below n i := some (draws i % n, i + 1)
  below_lt hn h := by
    obtain ⟨rfl, -⟩ := Prod.mk.inj (Option.some.inj h)
    exact Nat.mod_lt _ hn

/-! ## The Twister -/

/-- The words of state and the place of the next one to put out. -/
structure Twister where
  words : Array UInt32
  next : Nat

namespace Twister

/-- The number of words of state. -/
def size : Nat := 624

/-- How far ahead the word lies that is mixed in. -/
def reach : Nat := 397

/-- The word that an earlier one leads to in the first filling. -/
def grown (factor previous : UInt32) : UInt32 := (previous ^^^ (previous >>> 30)) * factor

/-- The filling that a single word determines. -/
def fill (seed : UInt32) : Array UInt32 :=
  (List.range (size - 1)).foldl
    (fun ws i => ws.push (grown 1812433253 (ws.getD i 0) + UInt32.ofNat (i + 1))) #[seed]

/-- Moves on from a word of the filling; past the last word its copy comes first. -/
def advance (ws : Array UInt32) (i : Nat) : Array UInt32 × Nat :=
  if size ≤ i + 1 then (ws.setIfInBounds 0 (ws.getD (size - 1) 0), 1) else (ws, i + 1)

/-- One round of mixing the key into the filling. -/
def mixKey (key : Array UInt32) : (rounds : Nat) → Array UInt32 → (i j : Nat) → Array UInt32 × Nat
  | 0, ws, i, _ => (ws, i)
  | rounds + 1, ws, i, j =>
    let w := (ws.getD i 0 ^^^ grown 1664525 (ws.getD (i - 1) 0)) + key.getD j 0 + UInt32.ofNat j
    let (ws, i) := advance (ws.setIfInBounds i w) i
    mixKey key rounds ws i (if key.size ≤ j + 1 then 0 else j + 1)

/-- The rounds after the key. -/
def mixPlaces : (rounds : Nat) → Array UInt32 → (i : Nat) → Array UInt32
  | 0, ws, _ => ws
  | rounds + 1, ws, i =>
    let w := (ws.getD i 0 ^^^ grown 1566083941 (ws.getD (i - 1) 0)) - UInt32.ofNat i
    let (ws, i) := advance (ws.setIfInBounds i w) i
    mixPlaces rounds ws i

/-- The state that the words of a key determine. -/
def ofKey (key : Array UInt32) : Twister :=
  let (ws, i) := mixKey key (max size key.size) (fill 19650218) 1 0
  ⟨(mixPlaces (size - 1) ws i).setIfInBounds 0 0x80000000, size⟩

/-- The number of different words. -/
def wordCount : Nat := 0x100000000

/-- The 32-bit words of a number, least significant first; `count` bounds them. -/
def keyWords : (count : Nat) → Nat → List UInt32
  | 0, _ => []
  | count + 1, n =>
    if n < wordCount then [UInt32.ofNat n] else UInt32.ofNat n :: keyWords count (n / wordCount)

/-- The state of a seed, whose sign does not matter. -/
def ofSeed (seed : Int) : Twister := ofKey (keyWords (seed.natAbs.log2 / 32 + 1) seed.natAbs).toArray

/-- The next word at place `i`, once the words before it are renewed. -/
def renewed (ws : Array UInt32) (i : Nat) : UInt32 :=
  let y := (ws.getD i 0 &&& 0x80000000) ||| (ws.getD ((i + 1) % size) 0 &&& 0x7fffffff)
  ws.getD ((i + reach) % size) 0 ^^^ (y >>> 1) ^^^ (if y &&& 1 = 0 then 0 else 0x9908b0df)

/-- Renews all words, one after the other. -/
def renew (ws : Array UInt32) : Array UInt32 :=
  (List.range size).foldl (fun ws i => ws.setIfInBounds i (renewed ws i)) ws

/-- The output of a word of state. -/
def tempered (w : UInt32) : UInt32 :=
  let w := w ^^^ (w >>> 11)
  let w := w ^^^ ((w <<< 7) &&& 0x9d2c5680)
  let w := w ^^^ ((w <<< 15) &&& 0xefc60000)
  w ^^^ (w >>> 18)

/-- The next word of output. -/
def word (t : Twister) : UInt32 × Twister :=
  let t := if size ≤ t.next then ⟨renew t.words, 0⟩ else t
  (tempered (t.words.getD t.next 0), { t with next := t.next + 1 })

/-- Draws words by their top `bits` bits until one is below `n`. -/
def drawBelow (n bits : Nat) : (fuel : Nat) → Twister → Option (Nat × Twister)
  | 0, _ => none
  | fuel + 1, t =>
    let (w, t) := t.word
    let drawn := w.toNat >>> (32 - bits)
    if drawn < n then some (drawn, t) else drawBelow n bits fuel t

theorem drawBelow_lt {n bits fuel d : Nat} {t t' : Twister} (h : drawBelow n bits fuel t = some (d, t')) : d < n := by
  induction fuel generalizing t with
  | zero => cases h
  | succ fuel ih =>
    simp only [drawBelow] at h
    split at h
    · rename_i hlt
      cases h
      exact hlt
    · exact ih h

/-- Draws from the twister: as many bits as the bound has, refused while they are not below it; after `maxWords` words
it gives up. -/
def source (maxWords : Nat) : DrawSource Twister where
  below n t := drawBelow n (n.log2 + 1) maxWords t
  below_lt _ h := drawBelow_lt h

end Twister
end GridWalk.Random
