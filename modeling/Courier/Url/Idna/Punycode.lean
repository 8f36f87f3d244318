/-!
# Punycode

Any label in ASCII: its ASCII characters, and then numbers that say where all others are inserted,
in rising order. Numbers have digits of falling weight, which adapt to the numbers before.
-/

namespace Courier.Url.Idna.Punycode

/-- The distance that adapted weights are reduced from. -/
def reduce (delta k : Nat) : Nat × Nat :=
  if delta ≤ 455 then (delta, k) else reduce (delta / 35) (k + 36)
termination_by delta

/-- The bias after a number, at a length of the label. -/
def adapt (delta length : Nat) (first : Bool) : Nat :=
  let damped := if first then delta / 700 else delta / 2
  let (rest, k) := reduce (damped + damped / length) 0
  k + 36 * rest / (rest + 38)

/-- The threshold of a digit at position `k`. -/
def threshold (k bias : Nat) : Nat :=
  min 26 (max 1 (k - bias))

theorem one_le_threshold (k bias : Nat) : 1 ≤ threshold k bias := by
  unfold threshold; omega

/-- The digit for a value below 36. -/
def digit (n : Nat) : Char :=
  if n < 26 then Char.ofNat (0x61 + n) else Char.ofNat (0x30 + (n - 26))

/-- The value of a digit, in either case. -/
def digitValue (c : Char) : Option Nat :=
  if 'a' ≤ c ∧ c ≤ 'z' then some (c.toNat - 0x61)
  else if 'A' ≤ c ∧ c ≤ 'Z' then some (c.toNat - 0x41)
  else if '0' ≤ c ∧ c ≤ '9' then some (c.toNat - 0x30 + 26)
  else none

/-- The digits of a number, from position `k` on. Thresholds are positive, so each digit leaves a
smaller number. -/
def encodeNumber (bias k q : Nat) : List Char :=
  let t := threshold k bias
  if q < t then [digit q]
  else digit (t + (q - t) % (36 - t)) :: encodeNumber bias (k + 36) ((q - t) / (36 - t))
termination_by q
decreasing_by
  have := one_le_threshold k bias
  exact Nat.lt_of_le_of_lt (Nat.div_le_self _ _) (by omega)

/-- Where an encoder is: the distance not yet written, the bias, and how many characters are
written. -/
structure Progress where
  delta : Nat
  bias : Nat
  count : Nat
deriving Repr

/-- Goes through the label to write the places of the code point `point`. -/
def encodePoint (point : Nat) (first : Nat) : List Nat → Progress → List Char × Progress
  | [], p => ([], p)
  | n :: rest, p =>
    if n < point then encodePoint point first rest { p with delta := p.delta + 1 }
    else if n = point then
      let digits := encodeNumber p.bias 36 p.delta
      let next : Progress :=
        ⟨0, adapt p.delta (p.count + 1) (p.count = first), p.count + 1⟩
      let (more, q) := encodePoint point first rest next
      (digits ++ more, q)
    else encodePoint point first rest p

/-- Writes the places of code points in rising order; `low` is the least not yet looked at. -/
def encodePoints (label : List Nat) (first : Nat) : List Nat → Nat → Progress → List Char
  | [], _, _ => []
  | point :: more, low, p =>
    let start := { p with delta := p.delta + (point - low) * (p.count + 1) }
    let (digits, q) := encodePoint point first label start
    digits ++ encodePoints label first more (point + 1) { q with delta := q.delta + 1 }

/-- A label in ASCII. -/
def encode (label : List Char) : List Char :=
  let plain := label.filter (·.toNat < 0x80)
  let points := ((label.filter (0x80 ≤ ·.toNat)).map Char.toNat).mergeSort.eraseDups
  let mark := if plain.isEmpty then [] else ['-']
  plain ++ mark ++
    encodePoints (label.map Char.toNat) plain.length points 0x80 ⟨0, 72, plain.length⟩

/-- Where a decoder is: the characters so far, the next code point and its place, the bias, and the
number that is being read with the weight and position of its next digit. -/
structure Reading where
  label : List Nat
  point : Nat
  place : Nat
  bias : Nat
  value : Nat
  weight : Nat
  k : Nat
  first : Bool
deriving Repr

/-- Reads a digit. -/
def readDigit (r : Reading) (c : Char) : Option Reading := do
  let d ← digitValue c
  let value := r.value + d * r.weight
  let t := threshold r.k r.bias
  if d < t then
    let length := r.label.length + 1
    let point := r.point + (r.place + value) / length
    let place := (r.place + value) % length
    if 0x10FFFF < point ∨ (0xD800 ≤ point ∧ point ≤ 0xDFFF) then none
    else some ⟨r.label.take place ++ point :: r.label.drop place, point, place + 1,
      adapt value length r.first, 0, 1, 36, false⟩
  else if 4294967296 ≤ value then none
  else some { r with value := value, weight := r.weight * (36 - t), k := r.k + 36 }

/-- The plain characters of a label, and its digits: what stands before the last hyphen and behind
it. A hyphen with nothing before it is no such mark, and stays among the digits. -/
def divide (cs : List Char) : List Char × List Char :=
  let digits := (cs.reverse.takeWhile (· ≠ '-')).reverse
  let plain := cs.take (cs.length - digits.length - 1)
  if plain.isEmpty then ([], cs) else (plain, digits)

/-- The label that an ASCII text stands for. -/
def decode (cs : List Char) : Option (List Char) := do
  let (plain, digits) := divide cs
  if plain.any (0x80 ≤ ·.toNat) then none
  let start : Reading := ⟨plain.map Char.toNat, 0x80, 0, 72, 0, 1, 36, true⟩
  let r ← digits.foldlM readDigit start
  if r.k = 36 then some (r.label.map Char.ofNat) else none

end Courier.Url.Idna.Punycode
