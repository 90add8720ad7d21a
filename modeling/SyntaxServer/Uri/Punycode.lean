import SyntaxServer.Text.Basic

/-! # Punycode

The characters of a label that are not ASCII are written behind the others as the distances between
them, in ascending order, in a base that adapts to the distances seen. Reading takes the distances one after
the other and puts each character to its place; every distance takes at least one digit, so reading ends.
-/
namespace SyntaxServer.Uri.Punycode

def digit (d : Nat) : Char :=
  if d < 26 then Char.ofNat ('a'.toNat + d) else Char.ofNat ('0'.toNat + (d - 26))

/-- The threshold of the digit at place `k`. -/
def threshold (bias k : Nat) : Nat := if k ≤ bias then 1 else min 26 (k - bias)

theorem one_le_threshold (bias k : Nat) : 1 ≤ threshold bias k := by
  unfold threshold; split <;> omega

/-- A distance in digits, the least significant first. -/
def distance (bias k q : Nat) : Text :=
  let t := threshold bias k
  if q < t then [digit q]
  else digit (t + (q - t) % (36 - t)) :: distance bias (k + 36) ((q - t) / (36 - t))
termination_by q
decreasing_by
  have := one_le_threshold bias k
  exact Nat.lt_of_le_of_lt (Nat.div_le_self _ _) (by omega)

/-- A distance is brought into the range where the bias is read off it. -/
def damped (k delta : Nat) : Nat :=
  if 455 < delta then damped (k + 36) (delta / 35) else k + 36 * delta / (delta + 38)
termination_by delta
decreasing_by omega

/-- The bias after a distance, the first of which counts less. -/
def adapt (delta count : Nat) (first : Bool) : Nat :=
  let delta := if first then delta / 700 else delta / 2
  damped 0 (delta + delta / count)

structure State where
  written : Text
  delta : Nat
  bias : Nat
  handled : Nat

/-- One character of the label while the characters equal to `m` are written. -/
def scan (basic m : Nat) (s : State) (c : Char) : State :=
  if c.toNat < m then { s with delta := s.delta + 1 }
  else if c.toNat = m then
    { written := s.written ++ distance s.bias 36 s.delta
      delta := 0
      bias := adapt s.delta (s.handled + 1) (s.handled == basic)
      handled := s.handled + 1 }
  else s

/-- Writes the characters of the given numbers, which ascend from at least `n`. -/
def writeAll (label : Text) (basic : Nat) : List Nat → Nat → State → State
  | [], _, s => s
  | m :: ms, n, s =>
    let s := label.foldl (scan basic m) { s with delta := s.delta + (m - n) * (s.handled + 1) }
    writeAll label basic ms (m + 1) { s with delta := s.delta + 1 }

def encode (label : Text) : Text :=
  let basic := label.filter (·.toNat < 128)
  let others := ((label.filter (128 ≤ ·.toNat)).map Char.toNat).mergeSort.eraseDups
  let start : State := ⟨[], 0, 72, basic.length⟩
  basic ++ (if basic.isEmpty then [] else ['-']) ++ (writeAll label basic.length others 128 start).written

def digitValue? (c : Char) : Option Nat :=
  if 'a' ≤ c ∧ c ≤ 'z' then some (c.toNat - 'a'.toNat)
  else if '0' ≤ c ∧ c ≤ '9' then some (c.toNat - '0'.toNat + 26)
  else none

/-- Distances and their weights stay below this number. -/
def bound : Nat := UInt32.size

/-- Adds the distance at the beginning of a text to `i`, the digit at place `k` having the given weight,
and leaves what follows it. -/
def readDistance (bias : Nat) : Nat → Nat → Nat → Text → Option (Nat × Text)
  | _, _, _, [] => none
  | k, weight, i, c :: t =>
    match digitValue? c with
    | none => none
    | some d =>
      let i := i + d * weight
      let next := weight * (36 - threshold bias k)
      if bound ≤ i then none
      else if d < threshold bias k then some (i, t)
      else if bound ≤ next then none
      else readDistance bias (k + 36) next i t

theorem length_lt_of_readDistance {bias k weight i j : Nat} {t rest : Text}
    (h : readDistance bias k weight i t = some (j, rest)) : rest.length < t.length := by
  induction t generalizing k weight i with
  | nil => simp [readDistance] at h
  | cons c t ih =>
    simp only [readDistance] at h
    split at h
    · simp at h
    · split at h
      · simp at h
      · split at h
        · simp only [Option.some.injEq, Prod.mk.injEq] at h
          simp [h.2]
        · split at h
          · simp at h
          · exact Nat.lt_succ_of_lt (ih h)

/-- Whether a number is that of a character. -/
def isScalar (n : Nat) : Bool := n < 0xD800 || (0xDFFF < n && n < 0x110000)

/-- Puts the characters that the distances in a text give into a label. The last character put there had
the number `n`, and the next distance counts from place `i`. -/
def insertAll (label : Text) (n i bias : Nat) (t : Text) : Option Text :=
  if t.isEmpty then some label
  else
    match h : readDistance bias 36 1 i t with
    | none => none
    | some (j, rest) =>
      have := length_lt_of_readDistance h
      let count := label.length + 1
      let m := n + j / count
      let place := j % count
      if isScalar m then
        insertAll (label.take place ++ Char.ofNat m :: label.drop place) m (place + 1)
          (adapt (j - i) count (i == 0)) rest
      else none
termination_by t.length

/-- The label that is written as `t`. The ASCII characters stand before the last hyphen, unless there are
none. -/
def decode? (t : Text) : Option Text :=
  let back := (t.reverse.takeWhile (· ≠ '-')).reverse
  let front := (t.reverse.dropWhile (· ≠ '-')).drop 1 |>.reverse
  if front.isEmpty then insertAll [] 128 0 72 t else insertAll front 128 0 72 back

end SyntaxServer.Uri.Punycode
