/-!
# Case of the letters of ASCII
-/
namespace Quarry.Text

def asciiLower (s : String) : String := String.ofList (s.toList.map Char.toLower)

def equalsIgnoringAsciiCase (s t : String) : Bool := asciiLower s == asciiLower t

end Quarry.Text
