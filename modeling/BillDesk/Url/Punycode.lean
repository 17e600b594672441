/-!
# Punycode

Letters beyond ASCII are spelled in host names by the letters, digits and hyphen of ASCII. The ASCII
characters come first. Then each other character follows, in the order of their code points, as the
number of steps to its place: a number with digits of base 36 whose thresholds adapt to the steps
before.
-/

namespace BillDesk.Url.Punycode

def digitChar (d : Nat) : Char := if d < 26 then Char.ofNat (97 + d) else Char.ofNat (22 + d)

def digitValue? (c : Char) : Option Nat :=
  if 'a' ≤ c ∧ c ≤ 'z' then some (c.toNat - 97)
  else if 'A' ≤ c ∧ c ≤ 'Z' then some (c.toNat - 65)
  else if '0' ≤ c ∧ c ≤ '9' then some (c.toNat - 22)
  else none

/-- The threshold of the digit at position `k`, where positions count in steps of 36. -/
def threshold (k bias : Nat) : Nat :=
  if k ≤ bias then 1 else if bias + 26 ≤ k then 26 else k - bias

def shrink (delta k : Nat) : Nat × Nat :=
  if 455 < delta then shrink (delta / 35) (k + 36) else (delta, k)
termination_by delta
decreasing_by omega

/-- The bias for the next number, after a number of `delta` steps among `count` characters. -/
def adapt (delta count : Nat) (first : Bool) : Nat :=
  let delta := if first then delta / 700 else delta / 2
  let (delta, k) := shrink (delta + delta / count) 0
  k + 36 * delta / (delta + 38)

/-! ## Encoding -/

/-- A number of steps, least significant digit first. -/
def encodeNumber (bias k q : Nat) : List Char :=
  let t := threshold k bias
  if h : q < t then [digitChar q]
  else digitChar (t + (q - t) % (36 - t)) :: encodeNumber bias (k + 36) ((q - t) / (36 - t))
termination_by q
decreasing_by
  have ht : 1 ≤ threshold k bias := by
    unfold threshold
    split <;> (try split) <;> omega
  have : (q - threshold k bias) / (36 - threshold k bias) ≤ q - threshold k bias :=
    Nat.div_le_self ..
  omega

structure Encoder where
  delta : Nat := 0
  bias : Nat := 72
  handled : Nat
  first : Bool := true
  output : List Char

/-- Walks over all characters for the code point `n`: passes those below it, and writes the steps
at each place where it stands. -/
def Encoder.walk (n : Nat) (e : Encoder) (c : Char) : Encoder :=
  if c.toNat < n then { e with delta := e.delta + 1 }
  else if c.toNat = n then
    { delta := 0
      bias := adapt e.delta (e.handled + 1) e.first
      handled := e.handled + 1
      first := false
      output := e.output ++ encodeNumber e.bias 36 e.delta }
  else e

/-- Handles the next code point, `n`, after all below `from` have been handled. -/
def Encoder.point (cs : List Char) (e : Encoder × Nat) (n : Nat) : Encoder × Nat :=
  let (e, start) := e
  let e := { e with delta := e.delta + (n - start) * (e.handled + 1) }
  let e := cs.foldl (Encoder.walk n) e
  ({ e with delta := e.delta + 1 }, n + 1)

def isAscii (c : Char) : Bool := c.toNat < 128

def encode (cs : List Char) : List Char :=
  let basic := cs.filter isAscii
  let start := if basic.isEmpty then [] else basic ++ ['-']
  let points := ((cs.filter fun c => !isAscii c).map Char.toNat).eraseDups.mergeSort
  (points.foldl (Encoder.point cs) ({ handled := basic.length, output := start }, 128)).1.output

/-! ## Decoding -/

/-- A number of steps and what follows it. Neither the number nor the weight of a digit has more
than 32 bits. -/
def decodeNumber (bias : Nat) : Nat → Nat → Nat → List Char → Option (Nat × List Char)
  | _, _, _, [] => none
  | k, w, i, c :: r => do
      let d ← digitValue? c
      let t := threshold k bias
      let i := i + d * w
      if UInt32.size ≤ i then none
      else if d < t then some (i, r)
      else if UInt32.size ≤ w * (36 - t) then none
      else decodeNumber bias (k + 36) (w * (36 - t)) i r

theorem length_decodeNumber {bias k w i j : Nat} {cs r : List Char}
    (h : decodeNumber bias k w i cs = some (j, r)) : r.length < cs.length := by
  induction cs generalizing k w i with
  | nil => simp [decodeNumber] at h
  | cons c cs ih =>
      simp only [decodeNumber, Option.bind_eq_bind, Option.bind_eq_some_iff] at h
      obtain ⟨d, _, h⟩ := h
      split at h
      · simp at h
      · split at h
        · simp only [Option.some.injEq, Prod.mk.injEq] at h
          simp [h.2]
        · split at h
          · simp at h
          · have := ih h
            simp only [List.length_cons]
            omega

/-- Inserts the characters that the numbers denote. -/
def insertAll (out : List Char) (n i bias : Nat) (first : Bool) (cs : List Char) :
    Option (List Char) :=
  if cs.isEmpty then some out
  else
    match h : decodeNumber bias 36 1 i cs with
    | none => none
    | some (j, r) =>
        let count := out.length + 1
        let n := n + j / count
        let place := j % count
        if 0x10FFFF < n || (0xD800 ≤ n && n < 0xE000) then none
        else
          have := length_decodeNumber h
          insertAll (out.take place ++ Char.ofNat n :: out.drop place) n (place + 1)
            (adapt (j - i) count first) false r
termination_by cs.length

/-- The label that the characters spell, if they spell one. A hyphen divides only where something
stands before it. -/
def decode? (cs : List Char) : Option (List Char) :=
  let tail := (cs.reverse.takeWhile (· != '-')).reverse
  let basic := (cs.take (cs.length - tail.length)).dropLast
  if !cs.all isAscii || (basic.isEmpty && cs.head? == some '-') then none
  else insertAll basic 128 0 72 true tail

end BillDesk.Url.Punycode
