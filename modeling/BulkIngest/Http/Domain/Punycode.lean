/-!
A label of a host name with characters beyond ASCII, written in letters and digits. The ASCII
characters come first; behind the last hyphen stand the others in the order of their code points,
each as the number of steps to its place, in digits that stop at thresholds which follow the size of
the numbers before.
-/

namespace BulkIngest.Punycode

def digit (n : Nat) : Char :=
  if n < 26 then Char.ofNat (0x61 + n) else Char.ofNat (0x30 + (n - 26))

def digit? (c : Char) : Option Nat :=
  if 'a' ≤ c ∧ c ≤ 'z' then some (c.toNat - 0x61)
  else if 'A' ≤ c ∧ c ≤ 'Z' then some (c.toNat - 0x41)
  else if '0' ≤ c ∧ c ≤ '9' then some (c.toNat - 0x30 + 26)
  else none

/-- What digits at place `place`, counted in steps of 36, stop below. -/
def threshold (place bias : Nat) : Nat := min 26 (max 1 (place - bias))

theorem one_le_threshold (place bias : Nat) : 1 ≤ threshold place bias := by
  unfold threshold
  omega

theorem threshold_le (place bias : Nat) : threshold place bias ≤ 26 := by
  unfold threshold
  omega

/-- The bias that a number brings about, once it is brought down below 456. -/
def settle (steps number : Nat) : Nat :=
  if 455 < number then settle (steps + 36) (number / 35) else steps + 36 * number / (number + 38)
termination_by number

/-- The bias after `number`, when there are `count` characters. -/
def adapted (isFirst : Bool) (number count : Nat) : Nat :=
  let number := if isFirst then number / 700 else number / 2
  settle 0 (number + number / count)

def digits (bias place number : Nat) : List Char :=
  let least := threshold place bias
  if number < least then [digit number]
  else
    digit (least + (number - least) % (36 - least)) ::
      digits bias (place + 36) ((number - least) / (36 - least))
termination_by number
decreasing_by
  have low := one_le_threshold place bias
  have high := threshold_le place bias
  calc (number - threshold place bias) / (36 - threshold place bias)
      ≤ number - threshold place bias := Nat.div_le_self _ _
    _ < number := by omega

structure Encoder where
  /-- The last character first. -/
  written : List Char
  delta : Nat
  bias : Nat
  count : Nat

/-- Looks at a character of the label while those with code point `code` are written. -/
def Encoder.see (basic code : Nat) (state : Encoder) (c : Char) : Encoder :=
  if c.toNat < code then { state with delta := state.delta + 1 }
  else if c.toNat = code then
    let bias := adapted (state.count = basic) state.delta (state.count + 1)
    ⟨(digits state.bias 36 state.delta).reverse ++ state.written, 0, bias, state.count + 1⟩
  else state

/-- Writes the characters of each code point in turn, of which `next` may be the first. -/
def Encoder.run (label : List Char) (basic next : Nat) (state : Encoder) : List Nat → Encoder
  | [] => state
  | code :: codes =>
    let delta := state.delta + (code - next) * (state.count + 1)
    let state := label.foldl (see basic code) { state with delta }
    run label basic (code + 1) { state with delta := state.delta + 1 } codes

def isBasic (c : Char) : Bool := c.toNat < 0x80

def encode (label : List Char) : List Char :=
  let basic := label.filter isBasic
  let codes := ((label.filter (!isBasic ·)).map Char.toNat).mergeSort.eraseDups
  let start : Encoder :=
    ⟨if basic.isEmpty then [] else '-' :: basic.reverse, 0, 72, basic.length⟩
  (Encoder.run label basic.length 0x80 start codes).written.reverse

/-- A number and the characters behind it; `weight` is what the next digit counts for. -/
def number? (bias place weight sum : Nat) : List Char → Option (Nat × List Char)
  | [] => none
  | c :: rest =>
    match digit? c with
    | none => none
    | some n =>
      let least := threshold place bias
      if n < least then some (sum + n * weight, rest)
      else number? bias (place + 36) (weight * (36 - least)) (sum + n * weight) rest

/-- Puts the characters that are written in `input` into `label`. The next one has code point `code`
or a higher one and stands at `place` or behind. -/
def insertAll (bias code place : Nat) (isFirst : Bool) (label : List Char) :
    Nat → List Char → Option (List Char)
  | _, [] => some label
  | 0, _ :: _ => none
  | fuel + 1, input =>
    match number? bias 36 1 0 input with
    | none => none
    | some (number, rest) =>
      let count := label.length + 1
      let code := code + (place + number) / count
      let place := (place + number) % count
      if code.isValidChar then
        insertAll (adapted isFirst number count) code (place + 1) false
          (label.take place ++ Char.ofNat code :: label.drop place) fuel rest
      else none

def decode? (written : List Char) : Option (List Char) :=
  let tail := (written.reverse.takeWhile (· ≠ '-')).reverse
  let head := written.take (written.length - tail.length)
  if head.all isBasic then insertAll 72 0x80 0 true head.dropLast tail.length tail else none

end BulkIngest.Punycode
