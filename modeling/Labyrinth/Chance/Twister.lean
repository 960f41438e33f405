import Labyrinth.Chance

/-!
# The Mersenne Twister

The generator MT19937 of 32-bit words: 624 words of state, of which each round
makes 624 new ones, tempered on their way out. A seed is an integer of any size;
its sign is dropped and its 32-bit words, least significant first, are mixed into
the state.

A draw below a range takes the upper bits of a word, as many as the range has, and
takes the next word as long as that is not below the range. How long this goes on
depends on chance, so the generator is given a number of words after which it is
dry; `endless` is one that no run lives to see.
-/

namespace Labyrinth

/-- The words of the generator, the place of the next one, and how many may still be taken. -/
structure Twister where
  words : Array UInt32
  next : Nat
  budget : Nat

namespace Twister

/-- The number of words in the state. -/
def size : Nat := 624

def word (words : Array UInt32) (i : Nat) : UInt32 :=
  words.getD i 0

/-! ## Seeding -/

/-- The state that a single word starts from. -/
def scatter (seed : UInt32) : Array UInt32 :=
  (List.range' 1 (size - 1)).foldl
    (fun (words : Array UInt32) i =>
      let last := word words (i - 1)
      words.push ((last ^^^ (last >>> 30)) * 1812433253 + UInt32.ofNat i))
    #[seed]

/-- A state while a seed is being mixed into it: the word under treatment and the place in the
seed. -/
structure Mixing where
  words : Array UInt32
  place : Nat
  seedPlace : Nat

/-- Replaces the word under treatment and goes on to the next, which after the last one is
the second; the first then takes the value of the last. -/
def Mixing.put (m : Mixing) (w : UInt32) : Mixing :=
  let words := m.words.setIfInBounds m.place w
  if size ≤ m.place + 1 then
    { m with words := words.setIfInBounds 0 (word words (size - 1)), place := 1 }
  else { m with words, place := m.place + 1 }

/-- What the word before the one under treatment contributes. -/
def Mixing.carry (m : Mixing) (factor : UInt32) : UInt32 :=
  let last := word m.words (m.place - 1)
  word m.words m.place ^^^ ((last ^^^ (last >>> 30)) * factor)

/-- Mixes one word of the seed into the state. -/
def Mixing.absorb (seed : Array UInt32) (m : Mixing) : Mixing :=
  let m' := m.put (m.carry 1664525 + word seed m.seedPlace + UInt32.ofNat m.seedPlace)
  { m' with seedPlace := if seed.size ≤ m.seedPlace + 1 then 0 else m.seedPlace + 1 }

/-- Mixes the state with itself. -/
def Mixing.settle (m : Mixing) : Mixing :=
  m.put (m.carry 1566083941 - UInt32.ofNat m.place)

/-- The 32-bit words of a number, least significant first; 0 is one word. -/
def seedWords (n : Nat) : List UInt32 :=
  if n < 0x100000000 then [UInt32.ofNat n]
  else UInt32.ofNat (n % 0x100000000) :: seedWords (n / 0x100000000)
termination_by n
decreasing_by exact Nat.div_lt_self (by omega) (by decide)

/-- A number of words that no run takes. -/
def endless : Nat := 0x4000000000000000

def ofSeed (seed : Int) : Twister :=
  let key := (seedWords seed.natAbs).toArray
  let absorbed :=
    Nat.repeat (Mixing.absorb key) (max size key.size) ⟨scatter 19650218, 1, 0⟩
  let settled := Nat.repeat Mixing.settle (size - 1) absorbed
  ⟨settled.words.setIfInBounds 0 0x80000000, size, endless⟩

/-! ## Words -/

/-- The new word at a place, from three words of the state. -/
def twisted (words : Array UInt32) (i : Nat) : UInt32 :=
  let joined := (word words i &&& 0x80000000) ||| (word words ((i + 1) % size) &&& 0x7FFFFFFF)
  word words ((i + 397) % size) ^^^ (joined >>> 1)
    ^^^ (if joined &&& 1 = 1 then 0x9908B0DF else 0)

/-- A round: every word of the state renewed, from the first to the last. -/
def renew (words : Array UInt32) : Array UInt32 :=
  (List.range size).foldl (fun words i => words.setIfInBounds i (twisted words i)) words

/-- Spreads the bits of a word before it is given out. -/
def temper (w : UInt32) : UInt32 :=
  let w := w ^^^ (w >>> 11)
  let w := w ^^^ ((w <<< 7) &&& 0x9D2C5680)
  let w := w ^^^ ((w <<< 15) &&& 0xEFC60000)
  w ^^^ (w >>> 18)

/-- The next word, with the state and the place after it. -/
def take (words : Array UInt32) (next : Nat) : UInt32 × Array UInt32 × Nat :=
  if size ≤ next then
    let words := renew words
    (temper (word words 0), words, 1)
  else (temper (word words next), words, next + 1)

def bitLength (n : Nat) : Nat :=
  if n = 0 then 0 else n.log2 + 1

/-- Takes words until the upper `bits` bits of one are below the range. -/
def search (range bits : Nat) (words : Array UInt32) (next : Nat) :
    (budget : Nat) → Option (Nat × Twister)
  | 0 => none
  | budget + 1 =>
    let (w, words, next) := take words next
    let answer := w.toNat >>> (32 - bits)
    if answer < range then some (answer, ⟨words, next, budget⟩)
    else search range bits words next budget

theorem search_lt {range bits : Nat} {words : Array UInt32} {next budget answer : Nat}
    {t : Twister} (h : search range bits words next budget = some (answer, t)) :
    answer < range ∧ t.budget < budget := by
  induction budget generalizing words next with
  | zero => simp [search] at h
  | succ budget ih =>
      unfold search at h
      simp only at h
      split at h
      · next hlt =>
          obtain ⟨rfl, rfl⟩ := Prod.mk.inj (Option.some.inj h)
          exact ⟨hlt, Nat.lt_succ_self _⟩
      · obtain ⟨hlt, hb⟩ := ih h
        exact ⟨hlt, Nat.lt_succ_of_lt hb⟩

instance : Source Twister where
  draw range t := search range (bitLength range) t.words t.next t.budget
  remaining t := t.budget
  draw_lt _ h := (search_lt h).1
  remaining_draw h := (search_lt h).2

end Twister

end Labyrinth
