import DocMarkup.Assoc
import DocMarkup.Link.Target

/-!
# Providers

A provider serves the raw documentation of one symbol field by field.

Main definitions:

- {lit}`Provider`: the raw fields of one symbol.
-/

namespace DocMarkup

/-- The raw markup of one symbol's documentation, per field. -/
structure Provider where
  summary : Option Text
  remarks : Option Text
  returns : Option Text
  examples : List Text
  parameterNames : List Text
  typeParameterNames : List Text
  exceptionTypes : List Text
  /-- The markup of the whole comment, in which see-also links are looked for. -/
  full : Text
  parameterText : Text → Option Text
  typeParameterText : Text → Option Text
  exceptionTexts : Text → List Text
  lookup : Text → Option LinkTarget

end DocMarkup
