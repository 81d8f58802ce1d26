import Quarry.Text.Hex

/-!
# Percent signs

A percent sign with two hexadecimal digits behind it stands for a byte, any other
character for its bytes in UTF-8. A sign without digits stands for itself.
-/
namespace Quarry.Url

def percentBytes : List Char → List UInt8
  | [] => []
  | '%' :: a :: b :: rest =>
    match readHex? [a, b] with
    | some n => n.toUInt8 :: percentBytes rest
    | none => String.utf8EncodeChar '%' ++ percentBytes (a :: b :: rest)
  | c :: rest => String.utf8EncodeChar c ++ percentBytes rest

def percentDecode? (cs : List Char) : Option (List Char) :=
  (String.fromUTF8? ⟨(percentBytes cs).toArray⟩).map String.toList

end Quarry.Url
