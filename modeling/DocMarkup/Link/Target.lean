import DocMarkup.Text.Basic

/-!
# Link targets

A documentation id names a symbol by a kind letter, a colon and a uid. A symbol has a title and,
when it has a page, an address.

Main definitions:

- {lit}`LinkTarget`: title and address.
- {lit}`uidOf`: a documentation id without its kind letter.
-/

namespace DocMarkup

/-- What a reference to a symbol shows and where it leads. -/
structure LinkTarget where
  title : Text
  href : Option Text
  deriving DecidableEq, Inhabited

/-- A documentation id without one capital letter and colon at its head. -/
def uidOf : Text → Text
  | kind :: ':' :: uid => if 'A' ≤ kind ∧ kind ≤ 'Z' then uid else kind :: ':' :: uid
  | uid => uid

end DocMarkup
