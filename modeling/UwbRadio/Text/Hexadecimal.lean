import UwbRadio.Bytes

/-!
Lower-case hexadecimal text: numbers with leading zeros up to a stated count of
digits, and byte strings with two digits a byte.
-/

namespace UwbRadio.Text

def hexadecimal (digits value : Nat) : String :=
  let text := Nat.toDigits 16 value
  String.ofList (List.replicate (digits - text.length) '0' ++ text)

def hexadecimalBytes (bytes : Bytes) : String :=
  String.join (bytes.map fun byte => hexadecimal 2 byte.toNat)

end UwbRadio.Text
