import Quarry.Text.Hex
import Quarry.Text.Printable

/-!
# Quoted characters and strings

A quoted text shows every character: common controls, the backslash and the
surrounding quote with a backslash, what is combining or not printable by its code
point, and everything else as itself.
-/
namespace Quarry.Text

def escapeChar (quote c : Char) : List Char :=
  if c = '\x00' then ['\\', '0']
  else if c = '\t' then ['\\', 't']
  else if c = '\n' then ['\\', 'n']
  else if c = '\r' then ['\\', 'r']
  else if c = '\\' ∨ c = quote then ['\\', c]
  else if isCombining c ∨ ¬ isPrintable c then
    ['\\', 'u', '\x7b'] ++ hexDigits 1 c.toNat ++ ['\x7d']
  else [c]

def quoteWith (quote : Char) (cs : List Char) : String :=
  String.ofList (quote :: cs.flatMap (escapeChar quote) ++ [quote])

def quotedChar (c : Char) : String := quoteWith '\x27' [c]

def quotedString (s : String) : String := quoteWith '"' s.toList

end Quarry.Text
