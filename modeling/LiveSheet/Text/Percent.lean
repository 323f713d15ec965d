import LiveSheet.Text.Hex

namespace LiveSheet.Text

namespace Percent

def byte? (high low : Char) : Option UInt8 := do
  some (UInt8.ofNat ((← hexDigit? high) * 16 + (← hexDigit? low)))

def bytes : List Char → List UInt8
  | '%' :: high :: low :: rest =>
      match byte? high low with
      | some byte => byte :: bytes rest
      | none => String.utf8EncodeChar '%' ++ bytes (high :: low :: rest)
  | char :: rest => String.utf8EncodeChar char ++ bytes rest
  | [] => []

def decode? (source : String) : Option String :=
  String.fromUTF8? (bytes source.toList).toByteArray

end Percent

end LiveSheet.Text
