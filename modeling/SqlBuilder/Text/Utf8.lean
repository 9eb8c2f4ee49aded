/-!
# UTF-8 with replacement

`decode` reads octets as UTF-8. Where they are not UTF-8 it writes one U+FFFD for each maximal part
that could have started a character, so no octet is lost silently and the reader resynchronises at
the first octet that can begin a character. `decode?` refuses octets that are not UTF-8 throughout.
-/

set_option autoImplicit false

namespace SqlBuilder.Text.Utf8

/-- What a leading octet announces: the octets to follow, the range of the first of them, and the
bits it contributes. -/
structure Lead where
  following : Nat
  low : Nat
  high : Nat
  bits : Nat

/-- The leading octets of characters beyond ASCII. -/
def lead? (n : Nat) : Option Lead :=
  if 0xC2 ≤ n && n ≤ 0xDF then some ⟨1, 0x80, 0xBF, n - 0xC0⟩
  else if n == 0xE0 then some ⟨2, 0xA0, 0xBF, n - 0xE0⟩
  else if n == 0xED then some ⟨2, 0x80, 0x9F, n - 0xE0⟩
  else if 0xE1 ≤ n && n ≤ 0xEF then some ⟨2, 0x80, 0xBF, n - 0xE0⟩
  else if n == 0xF0 then some ⟨3, 0x90, 0xBF, n - 0xF0⟩
  else if 0xF1 ≤ n && n ≤ 0xF3 then some ⟨3, 0x80, 0xBF, n - 0xF0⟩
  else if n == 0xF4 then some ⟨3, 0x80, 0x8F, n - 0xF0⟩
  else none

/-- Where the reader stands: between characters, or inside one that owes more octets. -/
inductive State where
  | between
  | inside (expected : Lead)

/-- U+FFFD. -/
def replacement : Char := Char.ofNat 0xFFFD

/-- An octet between characters: what it writes and where it leads. -/
def start (octet : UInt8) : List Char × State :=
  let n := octet.toNat
  if n < 0x80 then ([Char.ofNat n], .between)
  else match lead? n with
    | some expected => ([], .inside expected)
    | none => ([replacement], .between)

/-- One octet. An octet that cannot continue the character is read again as a first one. -/
def step : State → UInt8 → List Char × State
  | .between, octet => start octet
  | .inside expected, octet =>
    let n := octet.toNat
    if expected.low ≤ n && n ≤ expected.high then
      let bits := expected.bits * 64 + (n - 0x80)
      if expected.following ≤ 1 then ([Char.ofNat bits], .between)
      else ([], .inside ⟨expected.following - 1, 0x80, 0xBF, bits⟩)
    else
      let (written, next) := start octet
      (replacement :: written, next)

/-- The characters of the octets, from a state. -/
def decodeFrom : State → List UInt8 → List Char
  | .between, [] => []
  | .inside _, [] => [replacement]
  | state, octet :: octets =>
    let (written, next) := step state octet
    written ++ decodeFrom next octets

/-- The characters of the octets, unreadable parts replaced. -/
def decode (octets : List UInt8) : String :=
  String.ofList (decodeFrom .between octets)

/-- The text of octets that are UTF-8 throughout: those that are written for it again. -/
def decode? (octets : List UInt8) : Option String :=
  let s := decode octets
  if s.toUTF8.data.toList == octets then some s else none

/-! ## Examples -/

example : decode [0x61, 0xFF] = "a\uFFFD" := by decide
example : decode [0xE2, 0x82, 0x41] = "\uFFFDA" := by decide
example : decode [0xED, 0xA0, 0x80] = "\uFFFD\uFFFD\uFFFD" := by decide
example : decode [0xF0, 0x9F, 0x92, 0xA1] = "💡" := by decide

end SqlBuilder.Text.Utf8
