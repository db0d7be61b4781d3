/-!
# Punycode

A label with characters beyond the first 128 is written with letters, digits and
hyphens: first the plain characters, then the others as distances, in variable
length numerals to base 36 whose thresholds adapt to the distances before.
-/

namespace Storyboard
namespace Web
namespace Punycode

/-- The numeral for a digit value below 36. -/
def numeral (value : Nat) : Char :=
  if value < 26 then Char.ofNat (0x61 + value) else Char.ofNat (0x30 + (value - 26))

/-- The digit value of a numeral. -/
def digit? (c : Char) : Option Nat :=
  if 'a' ≤ c ∧ c ≤ 'z' then some (c.toNat - 0x61)
  else if 'A' ≤ c ∧ c ≤ 'Z' then some (c.toNat - 0x41)
  else if '0' ≤ c ∧ c ≤ '9' then some (c.toNat - 0x30 + 26)
  else none

/-- The least value that a numeral must reach for another to follow it. -/
def threshold (bias position : Nat) : Nat :=
  if position ≤ bias then 1 else if bias + 26 ≤ position then 26 else position - bias

theorem threshold_pos (bias position : Nat) : 0 < threshold bias position := by
  unfold threshold
  split
  · omega
  · split <;> omega

theorem threshold_lt (bias position : Nat) : threshold bias position < 36 := by
  unfold threshold
  split
  · omega
  · split <;> omega

/-- Divide a distance until it is small, and count the divisions by 36. -/
def settle (distance count : Nat) : Nat × Nat :=
  if 455 < distance then settle (distance / 35) (count + 36) else (distance, count)
termination_by distance
decreasing_by exact Nat.div_lt_self (by omega) (by omega)

/-- The bias after a distance, when a number of characters is in place. -/
def adapt (distance placed : Nat) (first : Bool) : Nat :=
  let halved := if first then distance / 700 else distance / 2
  let settled := settle (halved + halved / placed) 0
  settled.2 + 36 * settled.1 / (settled.1 + 38)

/-- The numerals of a distance. -/
def numerals (bias position distance : Nat) : List Char :=
  let least := threshold bias position
  if distance < least then [numeral distance]
  else
    numeral (least + (distance - least) % (36 - least)) ::
      numerals bias (position + 36) ((distance - least) / (36 - least))
termination_by distance
decreasing_by
  have positive := threshold_pos bias position
  exact Nat.lt_of_le_of_lt (Nat.div_le_self _ _) (by omega)

/-- The state between two characters. -/
structure State where
  /-- The distance so far. -/
  distance : Nat
  /-- The bias. -/
  bias : Nat
  /-- How many characters are in place. -/
  placed : Nat
  /-- The numerals so far. -/
  written : List Char

/-- Pass one character of the label while the characters of one code are placed. -/
def pass (basic code : Nat) (state : State) (c : Char) : State :=
  if c.toNat < code then { state with distance := state.distance + 1 }
  else if c.toNat = code then
    { distance := 0
      bias := adapt state.distance (state.placed + 1) (state.placed == basic)
      placed := state.placed + 1
      written := state.written ++ numerals state.bias 36 state.distance }
  else state

/-- Place the characters of each code in turn, the codes ascending; all below `next` are placed. -/
def placeAll (label : List Char) (basic : Nat) : List Nat → Nat → State → State
  | [], _, state => state
  | code :: codes, next, state =>
      let reached := { state with
        distance := state.distance + (code - next) * (state.placed + 1) }
      let passed := label.foldl (pass basic code) reached
      placeAll label basic codes (code + 1) { passed with distance := passed.distance + 1 }

/-- Numbers in ascending order, each once. -/
def ascending (codes : List Nat) : List Nat :=
  (codes.mergeSort (· ≤ ·)).eraseDups

/-- The plain form of a label. -/
def encode (label : List Char) : List Char :=
  let basic := label.filter fun c => c.toNat < 0x80
  let codes := (label.filter fun c => 0x80 ≤ c.toNat).map Char.toNat
  let final := placeAll label basic.length (ascending codes) 0x80 ⟨0, 72, basic.length, []⟩
  basic ++ (if basic = [] then [] else ['-']) ++ final.written

/-- A distance of 32 bits from the front of some numerals, and the rest of them. -/
def takeDistance (bias : Nat) : Nat → Nat → Nat → List Char → Option (Nat × List Char)
  | _, _, _, [] => none
  | position, weight, distance, c :: rest =>
      match digit? c with
      | none => none
      | some value =>
          let least := threshold bias position
          let distance := distance + value * weight
          if Nat.pow 2 32 ≤ distance then none
          else if value < least then some (distance, rest)
          else takeDistance bias (position + 36) (weight * (36 - least)) distance rest

/-- Insert the characters that numerals describe.  Each takes at least one numeral, so that there
are no more of them than the bound. -/
def insertAll : Nat → Nat → Nat → Nat → List Char → List Char → Option (List Char)
  | _, _, _, _, label, [] => some label
  | 0, _, _, _, _, _ :: _ => none
  | bound + 1, bias, code, position, label, numerals =>
      match takeDistance bias 36 1 0 numerals with
      | none => none
      | some (distance, rest) =>
          let length := label.length + 1
          let reached := code + (position + distance) / length
          let place := (position + distance) % length
          if reached < 0xd800 ∨ (0xdfff < reached ∧ reached < 0x110000) then
            insertAll bound (adapt distance length (position == 0)) reached (place + 1)
              (label.take place ++ Char.ofNat reached :: label.drop place) rest
          else none

/-- The label of a plain form, if it is one.  A hyphen with nothing before it does not part plain
characters from numerals. -/
def decode (plain : List Char) : Option (List Char) :=
  let tail := (plain.reverse.takeWhile (· != '-')).reverse
  let basic := plain.take (plain.length - tail.length - 1)
  if plain.length = tail.length + 1 then none
  else if plain.all fun c => c.toNat < 0x80 then insertAll tail.length 72 0x80 0 basic tail
  else none

end Punycode
end Web
end Storyboard
