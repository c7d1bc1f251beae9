import BulkIngest.Text.Bytes
import BulkIngest.Text.Escape

/-!
Percent escapes: an octet as a percent sign and two hexadecimal digits.
-/

namespace BulkIngest.Percent

private def hexPair (b : UInt8) : String :=
  let digit (n : Nat) : Char := (Nat.digitChar n).toUpper
  String.ofList ['%', digit (b.toNat / 16), digit (b.toNat % 16)]

/-- Control characters and all beyond ASCII, which cannot stand in an address. -/
def isControl (c : Char) : Bool := c.toNat < 0x20 || 0x7E < c.toNat

/-- The characters, with all octets of those that are picked as escapes. -/
def encode (picked : Char → Bool) (cs : List Char) : String :=
  String.join (cs.map fun c =>
    if picked c then String.join ((Text.bytes c.toString).map hexPair) else c.toString)

private def octetDigit? (b : UInt8) : Option Nat := Text.Escape.hexDigit? (Char.ofNat b.toNat)

/-- The octets that are meant; a percent sign without two digits behind it stays. -/
def decode : Bytes → Bytes
  | [] => []
  | 0x25 :: high :: low :: rest =>
    match octetDigit? high, octetDigit? low with
    | some high, some low => UInt8.ofNat (high * 16 + low) :: decode rest
    | _, _ => 0x25 :: decode (high :: low :: rest)
  | b :: rest => b :: decode rest

end BulkIngest.Percent
