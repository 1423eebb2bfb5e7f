import EventTransport.Deflate.PrefixCode

/-!
Contract: lengths of codewords that suit how often symbols occur.

The two groups of symbols that occur least are joined until one group is left; the depths of the
leaves are the lengths. Lengths beyond a limit are cut down to it, and in return shorter codewords
are made longer until all of them fit again. The longest codewords go to the symbols that occur
least.

Owns:
- `joinLightest`, the tree that joins groups of symbols;
- `limitedCounts`, how many codewords of each length there are to be;
- `codeLengths`, a length for each symbol, zero for those that do not occur.

Does not own: what the symbols stand for.
-/

namespace EventTransport.Deflate

/-- A tree of symbols with how often they occur. -/
abbrev Group := Nat × PrefixCode

/-- An entry put in front of the first one that occurs more often. -/
def insertByCount {α : Type} (entry : Nat × α) : List (Nat × α) → List (Nat × α)
  | [] => [entry]
  | first :: rest =>
    if entry.1 < first.1 then entry :: first :: rest else first :: insertByCount entry rest

theorem length_insertByCount {α : Type} (entry : Nat × α) (entries : List (Nat × α)) :
    (insertByCount entry entries).length = entries.length + 1 := by
  induction entries with
  | nil => rfl
  | cons first rest inductionHypothesis =>
    unfold insertByCount
    split
    · rfl
    · simp [inductionHypothesis]

/-- The symbols that occur, from symbol `symbol` on, entered behind those that occur as often. -/
def rankedFrom (symbol : Nat) : List Nat → List (Nat × Nat) → List (Nat × Nat)
  | [], ranked => ranked
  | 0 :: counts, ranked => rankedFrom (symbol + 1) counts ranked
  | count :: counts, ranked =>
    rankedFrom (symbol + 1) counts (insertByCount (count, symbol) ranked)

/-- The symbols that occur with their counts, the rarest first. -/
def ranked (counts : List Nat) : List (Nat × Nat) := rankedFrom 0 counts []

/-- The first two groups joined, and so on until one is left. -/
def joinLightest : List Group → PrefixCode
  | [] => .unused
  | [(_, tree)] => tree
  | first :: second :: rest =>
    joinLightest (insertByCount (first.1 + second.1, .node first.2 second.2) rest)
termination_by groups => groups.length
decreasing_by
  rw [length_insertByCount]
  simp only [List.length_cons]
  omega

/-- The distances of the leaves of a tree from a root that is `depth` below another. -/
def PrefixCode.leafDepths : PrefixCode → Nat → List Nat
  | unused, _ => []
  | leaf _, depth => [depth]
  | node zero one, depth => zero.leafDepths (depth + 1) ++ one.leafDepths (depth + 1)

/-- How often each length occurs in a list, from zero up to a limit; greater ones count as the limit
and zero, for a symbol alone, counts as one. -/
def lengthCounts (limit : Nat) (lengths : List Nat) : Array Nat :=
  lengths.foldl (fun counts length => counts.modify (min limit (max 1 length)) (· + 1))
    (Array.replicate (limit + 1) 0)

/-- How much of the space of codewords is taken, in units of those at the limit. -/
def takenSpace (limit : Nat) (counts : Array Nat) : Nat :=
  (List.range limit).foldr
    (fun below total => counts.getD (limit - below) 0 * Nat.pow 2 below + total) 0

/-- One codeword of the greatest length that there is, at most `length`, made two that are longer
by a bit. -/
def splitLongest (counts : Array Nat) : Nat → Array Nat
  | 0 => counts
  | length + 1 =>
    if counts.getD (length + 1) 0 = 0 then splitLongest counts length
    else (counts.modify (length + 1) (· - 1)).modify (length + 2) (· + 2)

/-- `excess` codewords at the limit put under a codeword that has been shorter. -/
def makeRoom (limit : Nat) : Nat → Array Nat → Array Nat
  | 0, counts => counts
  | excess + 1, counts =>
    makeRoom limit excess (splitLongest (counts.modify limit (· - 1)) (limit - 1))

/-- How many codewords of each length up to a limit there are to be for some leaves. -/
def limitedCounts (limit : Nat) (depths : List Nat) : Array Nat :=
  let counts := lengthCounts limit depths
  makeRoom limit (takenSpace limit counts - Nat.pow 2 limit) counts

/-- Lengths as often as counted, the greatest first. -/
def descending (counts : Array Nat) : Nat → List Nat
  | 0 => []
  | length + 1 =>
    List.replicate (counts.getD (length + 1) 0) (length + 1) ++ descending counts length

/-- Lengths entered for their symbols. -/
def enterLengths (lengths : Array Nat) : List (Nat × Nat) → Array Nat
  | [] => lengths
  | (symbol, length) :: entries =>
    enterLengths (lengths.setIfInBounds symbol length) entries

/-- Good lengths up to a limit for symbols that occur as often as the counts say. -/
def codeLengths (limit : Nat) (counts : List Nat) : List Nat :=
  let rarestFirst := ranked counts
  let tree := joinLightest (rarestFirst.map fun entry => (entry.1, .leaf entry.2))
  let lengths := descending (limitedCounts limit (tree.leafDepths 0)) limit
  (enterLengths (Array.replicate counts.length 0)
    ((rarestFirst.map Prod.snd).zip lengths)).toList

end EventTransport.Deflate
