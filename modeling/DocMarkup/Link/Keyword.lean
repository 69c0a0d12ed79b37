import DocMarkup.Assoc
import DocMarkup.Yaml.Value

/-!
# Keyword links

Keywords of the documented language lead to its reference manual. A site may replace entries, add
new ones, or switch a link off with an empty address.

Main definitions:

- {lit}`Keyword.builtIn`: the address of each keyword.
- {lit}`Keyword.table`: the built-in entries with those of a site put over them.
- {lit}`Keyword.entriesOf`: the entries that settings list.
- {lit}`Keyword.link?`: the address in a table; an empty one is none.
-/

namespace DocMarkup
namespace Keyword

/-- Where the reference manual begins. -/
def manual : String := "https://learn.microsoft.com/dotnet/csharp/language-reference/"

/-- The page of each keyword in the manual. -/
def pages : List (String × String) :=
  [("null", "keywords/null"), ("true", "builtin-types/bool"), ("false", "builtin-types/bool"),
   ("bool", "builtin-types/bool"), ("byte", "builtin-types/integral-numeric-types"),
   ("sbyte", "builtin-types/integral-numeric-types"),
   ("short", "builtin-types/integral-numeric-types"),
   ("ushort", "builtin-types/integral-numeric-types"),
   ("int", "builtin-types/integral-numeric-types"),
   ("uint", "builtin-types/integral-numeric-types"),
   ("long", "builtin-types/integral-numeric-types"),
   ("ulong", "builtin-types/integral-numeric-types"),
   ("nint", "builtin-types/integral-numeric-types"),
   ("nuint", "builtin-types/integral-numeric-types"),
   ("float", "builtin-types/floating-point-numeric-types"),
   ("double", "builtin-types/floating-point-numeric-types"),
   ("decimal", "builtin-types/floating-point-numeric-types"), ("char", "builtin-types/char"),
   ("string", "builtin-types/reference-types#the-string-type"),
   ("object", "builtin-types/reference-types#the-object-type"),
   ("dynamic", "builtin-types/reference-types#the-dynamic-type"), ("void", "builtin-types/void"),
   ("var", "statements/declarations#implicitly-typed-local-variables"),
   ("class", "keywords/class"), ("struct", "builtin-types/struct"),
   ("interface", "keywords/interface"), ("enum", "builtin-types/enum"),
   ("record", "builtin-types/record"),
   ("delegate", "builtin-types/reference-types#the-delegate-type"),
   ("namespace", "keywords/namespace"), ("public", "keywords/public"),
   ("private", "keywords/private"), ("protected", "keywords/protected"),
   ("internal", "keywords/internal"), ("abstract", "keywords/abstract"),
   ("sealed", "keywords/sealed"), ("static", "keywords/static"), ("virtual", "keywords/virtual"),
   ("override", "keywords/override"), ("async", "keywords/async"), ("const", "keywords/const"),
   ("readonly", "keywords/readonly"), ("extern", "keywords/extern"),
   ("unsafe", "keywords/unsafe"), ("volatile", "keywords/volatile"),
   ("partial", "keywords/partial-type"), ("event", "keywords/event"), ("in", "keywords/in"),
   ("out", "keywords/out"), ("ref", "keywords/ref"),
   ("params", "keywords/method-parameters#params-modifier"), ("this", "keywords/this"),
   ("base", "keywords/base"), ("get", "keywords/get"), ("set", "keywords/set"),
   ("init", "keywords/init"), ("value", "keywords/value"),
   ("where", "keywords/where-generic-type-constraint"),
   ("if", "statements/selection-statements#the-if-statement"),
   ("else", "statements/selection-statements#the-if-statement"),
   ("switch", "statements/selection-statements#the-switch-statement"),
   ("case", "statements/selection-statements#the-switch-statement"),
   ("for", "statements/iteration-statements#the-for-statement"),
   ("foreach", "statements/iteration-statements#the-foreach-statement"),
   ("while", "statements/iteration-statements#the-while-statement"),
   ("do", "statements/iteration-statements#the-do-statement"),
   ("break", "statements/jump-statements#the-break-statement"),
   ("continue", "statements/jump-statements#the-continue-statement"),
   ("return", "statements/jump-statements#the-return-statement"),
   ("goto", "statements/jump-statements#the-goto-statement"),
   ("throw", "statements/exception-handling-statements#the-throw-statement"),
   ("try", "statements/exception-handling-statements#the-try-statement"),
   ("catch", "statements/exception-handling-statements#the-try-catch-statement"),
   ("finally", "statements/exception-handling-statements#the-try-finally-statement"),
   ("using", "statements/using"), ("lock", "statements/lock"), ("yield", "statements/yield"),
   ("checked", "statements/checked-and-unchecked"),
   ("unchecked", "statements/checked-and-unchecked"), ("new", "operators/new-operator"),
   ("await", "operators/await"), ("typeof", "operators/type-testing-and-cast#typeof-operator"),
   ("is", "operators/is"), ("as", "operators/type-testing-and-cast#as-operator"),
   ("sizeof", "operators/sizeof"), ("nameof", "operators/nameof"),
   ("default", "operators/default"), ("operator", "operators/operator-overloading"),
   ("implicit", "operators/user-defined-conversion-operators"),
   ("explicit", "operators/user-defined-conversion-operators")]

/-- The address of each keyword. -/
def builtIn : List (Text × Text) :=
  pages.map fun (word, page) => (word.toList, manual.toList ++ page.toList)

/-- The built-in address of a keyword. -/
def builtInLink? (word : Text) : Option Text := Assoc.get? word builtIn

/-- The entries that a mapping of settings lists; a null address is an empty one. -/
def entriesOf (settings : List (Yaml.Value × Yaml.Value)) :
    Except Yaml.Fault (List (Text × Text)) :=
  settings.mapM fun (word, address) => do
    let word ← word.written
    let address ← match address with
      | .null => .ok []
      | address => address.written
    .ok (word, address)

/-- The built-in entries with those of a site put over them. -/
def table (overrides : List (Text × Text)) : List (Text × Text) :=
  Assoc.insertAll builtIn overrides

/-- The address of a keyword in a table; an empty address is none. -/
def link? (entries : List (Text × Text)) (word : Text) : Option Text :=
  (Assoc.get? word entries).filter (· ≠ [])

end Keyword
end DocMarkup
