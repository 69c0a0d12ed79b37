import DocMarkup.Comment.Provider
import DocMarkup.Failure
import DocMarkup.Fragment.SeeAlso
import DocMarkup.Text.Lines

/-!
# Building a comment

The comment of a symbol is built from its provider, one field after another. The order of the fields
fixes the order of the questions and which of several malformed fields is reported.

Main definitions:

- {lit}`Comment`: the rendered documentation of one symbol.
- {lit}`formatMarkup`: the rendering of the markup of one field.
- {lit}`Provider.build`: the comment of a provider.
-/

namespace DocMarkup

/-- The rendered documentation of one symbol. A field is absent when its markup is absent or
empty. -/
structure Comment where
  summary : Option Text
  remarks : Option Text
  returns : Option Text
  parameters : List (Text × Option Text)
  typeParameters : List (Text × Option Text)
  exceptions : List (Text × Option Text)
  seeAlsos : List SeeAlso
  examples : List Text
  deriving DecidableEq

namespace Comment

/-- The description of a parameter. -/
def parameter? (c : Comment) (name : Text) : Option Text := (Assoc.get? name c.parameters).join

/-- The description of a type parameter. -/
def typeParameter? (c : Comment) (name : Text) : Option Text :=
  (Assoc.get? name c.typeParameters).join

end Comment

/-- The fragment that a text is, or the failure that names the text. -/
def parseMarkup (raw : Text) : Recorded Failure Fragment :=
  .ofOption (.malformed raw none) (Fragment.parse? raw)

/-- The rendering of the markup of one field. -/
def formatMarkup (r : Resolvers Failure) (raw : Text) : Recorded Failure Text := do
  let fragment ← parseMarkup raw
  formatFragment r fragment

/-- The see-also links of the markup of one comment. -/
def seeAlsosOfMarkup (r : Resolvers Failure) (raw : Text) : Recorded Failure (List SeeAlso) := do
  let fragment ← parseMarkup raw
  collectSeeAlsos r fragment

/-- The rendering of a field; one without markup stays absent. -/
def formatField (r : Resolvers Failure) : Option Text → Recorded Failure (Option Text)
  | none | some [] => .pure none
  | some raw => some <$> formatMarkup r raw

/-- The renderings of named fields; a repeated name is rendered again and keeps its first place. -/
def formatNamed (r : Resolvers Failure) (names : List Text) (text : Text → Option Text) :
    Recorded Failure (List (Text × Option Text)) :=
  Assoc.ofList <$> Recorded.each
    (fun name => (fun rendered => (name, rendered)) <$> formatField r (text name)) names

namespace Provider

/-- The symbol that a reference means; one that is not bound is shown as it is written. -/
def resolve (p : Provider) (cref : Text) : Text × Option Text :=
  match p.lookup cref with
  | some target => (target.title, target.href)
  | none => (cref, none)

/-- The comment of a provider. -/
def build (p : Provider) (source : Option (Text → Recorded Failure (Option Text)))
    (keyword : Option (Text → Option Text)) : Recorded Failure Comment := do
  let r : Resolvers Failure := ⟨some p.resolve, source, keyword⟩
  let exceptions ← formatNamed r (Assoc.distinct p.exceptionTypes) fun type =>
    some (Text.joinLines (p.exceptionTexts type))
  let examples ← Recorded.each (fun raw => formatField r (some raw)) p.examples
  let summary ← formatField r p.summary
  let remarks ← formatField r p.remarks
  let returns ← formatField r p.returns
  let parameters ← formatNamed r p.parameterNames p.parameterText
  let typeParameters ← formatNamed r p.typeParameterNames p.typeParameterText
  let seeAlsos ← seeAlsosOfMarkup r p.full
  .pure { summary, remarks, returns, parameters, typeParameters, exceptions, seeAlsos,
          examples := examples.filterMap id }

end Provider
end DocMarkup
