/-!
# Canonical prefix codes

A canonical code is given by how many code words there are of each length and by its symbols in the
order of their code words. Words of one length are consecutive numbers, and the first word of a
length follows the last one of the length before.
-/

namespace GuestBridge.Image

/-- Word counts for the lengths 1, 2, 3 and so on, and the symbols in order. -/
structure PrefixCode where
  counts : List Nat
  symbols : Array Nat
deriving Repr

namespace PrefixCode

/-- The code whose symbol `i` has a word of length `lengths[i]`; length 0 means that it has none. -/
def ofLengths (longest : Nat) (lengths : List Nat) : PrefixCode :=
  let lengthRange := (List.range longest).map (· + 1)
  { counts := lengthRange.map fun n => lengths.count n
    symbols := (lengthRange.flatMap fun n =>
      (lengths.zipIdx.filter fun e => e.1 == n).map (·.2)).toArray }

/-- How much of the space of all words of the longest length the words take up. -/
def used (c : PrefixCode) : Nat := c.counts.foldl (fun space count => 2 * space + count) 0

/-- Whether every sequence of bits starts with a word. -/
def isComplete (c : PrefixCode) : Bool := c.used == 1 <<< c.counts.length

/-- Whether there is just one word and it has one bit. -/
def isSingle (c : PrefixCode) : Bool := c.counts.head? == some 1 && c.symbols.size == 1

/-- Whether at each of the remaining lengths fewer than `2 * space` words are taken. -/
def hasSpareFrom : List Nat → (taken space : Nat) → Bool
  | [], _, _ => true
  | count :: longer, taken, space =>
    2 * taken + count < 2 * space && hasSpareFrom longer (2 * taken + count) (2 * space)

/-- Whether no word is all ones. -/
def hasSpare (c : PrefixCode) : Bool := hasSpareFrom c.counts 0 1

/-- Looks for a word of the remaining lengths. `length` bits have been looked at; `word` counts from
the first word of the length before, and `index` is the place of the next length's first symbol. -/
def findFrom (symbols : Array Nat) (bit : Nat → Nat) :
    List Nat → (length word index : Nat) → Option (Nat × Nat)
  | [], _, _, _ => none
  | count :: longer, length, word, index =>
    let word := 2 * word + bit length
    if word < count then (symbols[index + word]?).map fun s => (s, length + 1)
    else findFrom symbols bit longer (length + 1) (word - count) (index + count)

/-- The symbol whose word comes first, and its length; `bit i` is the bit `i` places ahead. -/
def find? (c : PrefixCode) (bit : Nat → Nat) : Option (Nat × Nat) :=
  findFrom c.symbols bit c.counts 0 0 0

end PrefixCode

end GuestBridge.Image
