/-!
# Columns

Text set out in columns of a least width, counted in characters.
-/

set_option autoImplicit false
set_option relaxedAutoImplicit false

namespace Scanout.Text

/-- The text with blanks behind it up to a width. -/
def leftAlign (width : Nat) (text : String) : String :=
  text ++ String.ofList (List.replicate (width - text.length) ' ')

end Scanout.Text
