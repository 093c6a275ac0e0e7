/-!
# Bootstring digits

The encoding of a label of a domain name that is not ASCII by one that is.  The
ASCII characters come first; each other character is written, in increasing
order of its code, as the distance from the one before it, in digits whose
weights adapt to the distances.
-/

namespace WsTrust.Url.Punycode

/-- The digit of a value below thirty-six: a letter, then a decimal digit. -/
def digit (value : Nat) : Char :=
  if value < 26 then
    Char.ofNat ('a'.toNat + value)
  else
    Char.ofNat ('0'.toNat + (value - 26))

/-- The value of a digit, of either case. -/
def value? (c : Char) : Option Nat :=
  if 'a' ≤ c ∧ c ≤ 'z' then some (c.toNat - 'a'.toNat)
  else if 'A' ≤ c ∧ c ≤ 'Z' then some (c.toNat - 'A'.toNat)
  else if '0' ≤ c ∧ c ≤ '9' then some (c.toNat - '0'.toNat + 26)
  else none

/-- The least value of a digit at a position that another digit follows. -/
def threshold (position bias : Nat) : Nat :=
  max 1 (min 26 (position - bias))

theorem threshold_pos (position bias : Nat) :
    1 ≤ threshold position bias := by
  unfold threshold
  omega

/-- Divides a distance until it is small, counting the divisions. -/
def reduce (distance position : Nat) : Nat × Nat :=
  if 455 < distance then
    reduce (distance / 35) (position + 36)
  else
    (distance, position)
termination_by distance
decreasing_by omega

/-- The bias after a distance, the `count`-th that was written. -/
def adapt (distance count : Nat) (isFirst : Bool) : Nat :=
  let damped := if isFirst then distance / 700 else distance / 2
  let (small, position) := reduce (damped + damped / count) 0
  position + 36 * small / (small + 38)

/-! ## Writing -/

def digits (bias position distance : Nat) : List Char :=
  let least := threshold position bias
  if distance < least then
    [digit distance]
  else
    digit (least + (distance - least) % (36 - least)) ::
      digits bias (position + 36) ((distance - least) / (36 - least))
termination_by distance
decreasing_by
  have positive := threshold_pos position bias
  have quotient :=
    Nat.div_le_self (distance - threshold position bias)
      (36 - threshold position bias)
  omega

/-- What has been written, with what the next distance depends on. -/
structure Progress where
  written : List Char
  distance : Nat
  bias : Nat
  count : Nat

/-- Passes one character of the label while `current` is being written;
`basic` is the number of its ASCII characters. -/
def Progress.pass (basic current : Nat) (progress : Progress) (c : Char) :
    Progress :=
  if c.toNat < current then
    { progress with distance := progress.distance + 1 }
  else if c.toNat = current then
    { written :=
        progress.written ++ digits progress.bias 36 progress.distance
      distance := 0
      bias :=
        adapt progress.distance (progress.count + 1)
          (progress.count == basic)
      count := progress.count + 1 }
  else
    progress

/-- Writes the codes that are left, in increasing order, where the codes below
`reached` have been written. -/
def writeCodes (label : List Char) (basic : Nat) :
    List Nat → Nat → Progress → Progress
  | [], _, progress => progress
  | code :: rest, reached, progress =>
      let started :=
        { progress with
          distance :=
            progress.distance + (code - reached) * (progress.count + 1) }
      let passed := label.foldl (Progress.pass basic code) started
      writeCodes label basic rest (code + 1)
        { passed with distance := passed.distance + 1 }

/-- Inserts a code into codes in increasing order, unless it is there. -/
def insertCode (code : Nat) : List Nat → List Nat
  | [] => [code]
  | first :: rest =>
      if code < first then code :: first :: rest
      else if code = first then first :: rest
      else first :: insertCode code rest

/-- The ASCII form of a label, without the mark that tells it is one. -/
def encode (label : List Char) : List Char :=
  let basic := label.filter fun c => c.toNat < 0x80
  let codes :=
    (label.filter fun c => 0x80 ≤ c.toNat).foldr
      (fun c => insertCode c.toNat) []
  let separator := if basic.isEmpty then [] else ['-']
  basic ++ separator ++
    (writeCodes label basic.length codes 0x80
      { written := [], distance := 0, bias := 72
        count := basic.length }).written

/-! ## Reading -/

/-- The bound of all distances and weights: they are words of 32 bits. -/
def distanceBound : Nat := 4294967296

/-- Adds the distance that digits write to `sum`, the digit at `position`
counting `weight`.  Gives the characters after the digits. -/
def readDistance? (bias : Nat) :
    (position weight sum : Nat) → List Char → Option (Nat × List Char)
  | _, _, _, [] => none
  | position, weight, sum, c :: rest =>
      match value? c with
      | none => none
      | some value =>
          let least := threshold position bias
          let extended := sum + value * weight
          let heavier := weight * (36 - least)
          if distanceBound ≤ extended then
            none
          else if value < least then
            some (extended, rest)
          else if distanceBound ≤ heavier then
            none
          else
            readDistance? bias (position + 36) heavier extended rest

theorem length_lt_of_readDistance?
    {bias position weight sum total : Nat} {characters after : List Char}
    (read :
      readDistance? bias position weight sum characters =
        some (total, after)) :
    after.length < characters.length := by
  induction characters generalizing position weight sum with
  | nil => simp [readDistance?] at read
  | cons c rest inductionHypothesis =>
      simp only [readDistance?] at read
      split at read
      · simp at read
      · split at read
        · simp at read
        · split at read
          · simp_all
          · split at read
            · simp at read
            · exact Nat.lt_succ_of_lt (inductionHypothesis read)

def readCodes? (bias code position : Nat) (label characters : List Char) :
    Option (List Char) :=
  match characters with
  | [] => some label
  | first :: rest =>
      match _ : readDistance? bias 36 1 position (first :: rest) with
      | none => none
      | some (total, after) =>
          let count := label.length + 1
          let reached := code + total / count
          let place := total % count
          if 0x80 ≤ reached ∧ reached.isValidChar then
            readCodes? (adapt (total - position) count (position == 0))
              reached (place + 1)
              (label.take place ++ [Char.ofNat reached] ++ label.drop place)
              after
          else
            none
termination_by characters.length
decreasing_by
  rename_i read _
  exact length_lt_of_readDistance? read

/-- The label that an ASCII form without its mark stands for.  The last hyphen
follows the ASCII characters, of which there is at least one if there is a
hyphen. -/
def decode? (characters : List Char) : Option (List Char) :=
  let reversed := characters.reverse
  let codes := (reversed.takeWhile (· != '-')).reverse
  let basic := ((reversed.dropWhile (· != '-')).drop 1).reverse
  if basic.isEmpty && characters.contains '-' then
    none
  else
    readCodes? 72 0x80 0 basic codes

end WsTrust.Url.Punycode
