import SqlBuilder.Text.Printable

/-!
# Displayed text

`display` shows a text between quotes so that its limits and every unprintable character can be
seen. Single quotes are used unless the text holds single quotes and no double quotes.
`displayOctets` does the same for octets, marked with a `b`.
-/

set_option autoImplicit false

namespace SqlBuilder.Text

/-- The last `width` hexadecimal digits of `n`, small letters. -/
def hexDigits : Nat → Nat → List Char
  | 0, _ => []
  | width + 1, n => hexDigits width (n / 16) ++ [Nat.digitChar (n % 16)]

/-- The quote a displayed text stands in. -/
def displayQuote (cs : List Char) : Char :=
  if cs.contains '\'' && !cs.contains '"' then '"' else '\''

/-- A character inside a displayed text. -/
def displayChar (quote c : Char) : List Char :=
  let n := c.toNat
  if c = quote || c = '\\' then ['\\', c]
  else if c = '\t' then ['\\', 't']
  else if c = '\n' then ['\\', 'n']
  else if c = '\r' then ['\\', 'r']
  else if isPrintable c then [c]
  else if n < 0x100 then '\\' :: 'x' :: hexDigits 2 n
  else if n < 0x10000 then '\\' :: 'u' :: hexDigits 4 n
  else '\\' :: 'U' :: hexDigits 8 n

/-- The text between quotes, with escapes. -/
def display (s : String) : String :=
  let quote := displayQuote s.toList
  String.ofList (quote :: s.toList.flatMap (displayChar quote) ++ [quote])

/-- An octet inside displayed octets: only ASCII is shown as itself. -/
def displayOctet (quote : Char) (octet : UInt8) : List Char :=
  let n := octet.toNat
  if n < 0x80 then displayChar quote (Char.ofNat n) else '\\' :: 'x' :: hexDigits 2 n

/-- The octets between quotes, with escapes. -/
def displayOctets (octets : List UInt8) : String :=
  let quote := displayQuote (octets.map fun o => Char.ofNat o.toNat)
  String.ofList ('b' :: quote :: octets.flatMap (displayOctet quote) ++ [quote])

/-! ## Examples -/

example : display "it's" = "\"it's\"" := by decide
example : display "both ' and \"" = "'both \\' and \"'" := by decide
example : display "a\\b\n\x7f" = "'a\\\\b\\n\\x7f'" := by decide
example : displayOctets [0x61, 0xFF] = "b'a\\xff'" := by decide

end SqlBuilder.Text
