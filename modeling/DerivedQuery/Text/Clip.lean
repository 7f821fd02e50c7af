/-!
# Clipped texts

A text is clipped to a number of bytes. A character that does not fit as a whole is replaced by the
mark for unreadable characters if a part of it fits.
-/

set_option autoImplicit false

namespace DerivedQuery.Text

/-- The characters that fit into a number of bytes. -/
def clipChars : Nat → List Char → List Char
  | _, [] => []
  | room, c :: rest =>
      if c.utf8Size ≤ room then c :: clipChars (room - c.utf8Size) rest
      else if room = 0 then [] else ['\ufffd']

/-- A text clipped to a number of bytes. -/
def clip (bytes : Nat) (text : String) : String := String.ofList (clipChars bytes text.toList)

end DerivedQuery.Text
