import SqlBuilder.Fault
import SqlBuilder.Text.Case

/-!
# Case of values

Texts and octets have capitals and small letters; nothing else can be asked for them.
-/

set_option autoImplicit false

namespace SqlBuilder.Value

/-- The value in capitals. -/
def upper : Value → Result Value
  | .text s => .ok (.text (Text.upper s))
  | .bytes octets => .ok (.bytes (Text.upperOctets octets))
  | _ => misuse .missingAttribute

/-- The value in small letters. -/
def lower : Value → Result Value
  | .text s => .ok (.text (Text.lower s))
  | .bytes octets => .ok (.bytes (Text.lowerOctets octets))
  | _ => misuse .missingAttribute

/-- The octet is white space among octets. -/
def isBlankOctet (o : UInt8) : Bool := o == 0x20 || (0x9 ≤ o && o ≤ 0xD)

end SqlBuilder.Value
