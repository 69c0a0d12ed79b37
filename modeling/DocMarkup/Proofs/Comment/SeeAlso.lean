import DocMarkup.Comment.Build
import DocMarkup.Proofs.Fragment.Outermost
import DocMarkup.Proofs.Trace.Begun

/-!
# The see-also links of a comment

Of the outermost see-also elements those are links that lead somewhere: to an address, or to a
symbol. They become links in document order, however deep they lie and however often one of them is
repeated; their contents are rendered, and nothing else is.

Main definitions:

- {lit}`Forest.Element.leads`: whether an element has an address or a reference that is not empty.
- {lit}`linkTo`: the link of an element that leads somewhere.

Main results:

- Theorem {lit}`collectSeeAlsos_eq`: the links are those of the elements that lead somewhere.
- Theorem {lit}`seeAlsosOfMarkup_outermost`: the links of markup that can be read, with what is asked
  for their contents.
-/

namespace DocMarkup

variable {ε : Type}

/-! ## Links -/

/-- An identifier without the capital letter and the colon that it may begin with. -/
def withoutKind (id : Text) : Text :=
  if (id.head?.any fun c => 'A' ≤ c && c ≤ 'Z') ∧ id[1]? = some ':' then id.drop 2 else id

/-- The identifier of a symbol is that of a reference without its kind. -/
theorem uidOf_eq (id : Text) : uidOf id = withoutKind id := by
  unfold uidOf
  split
  · next kind uid =>
    simp [withoutKind]
  · next hother =>
    have hplain : ¬((id.head?.any fun c => 'A' ≤ c && c ≤ 'Z') ∧ id[1]? = some ':') := by
      rintro ⟨_, hcolon⟩
      rcases id with _ | ⟨kind, _ | ⟨colon, uid⟩⟩
      · simp at hcolon
      · simp at hcolon
      · exact hother kind uid (by simpa using hcolon)
    rw [withoutKind, if_neg hplain]

/-- Whether an element has an address or a reference that is not empty. -/
def Forest.Element.leads (e : Forest.Element Text) : Bool :=
  (nonEmptyAttribute? e.attributes "href").isSome ||
    (nonEmptyAttribute? e.attributes "cref").isSome

/-- The link of an element that leads somewhere: to its address, or else to what its reference
means, with the rendering of its content. -/
def linkTo (e : Forest.Element Text) (html : Text) : SeeAlso :=
  match nonEmptyAttribute? e.attributes "href" with
  | some href => ⟨href, nonEmpty? html, .href⟩
  | none => ⟨withoutKind ((attribute? e.attributes "cref").getD []), nonEmpty? html, .cref⟩

/-- An element that leads somewhere is a link. -/
theorem seeAlso?_of_leads (r : Resolvers ε) {e : Forest.Element Text} (he : e.leads = true) :
    seeAlso? r e = some <$> linkTo e <$> formatFragment r e.children := by
  unfold seeAlso? linkOf? linkTo
  cases hhref : nonEmptyAttribute? e.attributes "href" with
  | some href => simp only [Functor.map_map, bind_pure_comp, Recorded.pure_eq]
  | none =>
    cases hcref : nonEmptyAttribute? e.attributes "cref" with
    | none => simp [Forest.Element.leads, hhref, hcref] at he
    | some cref =>
      have hvalue : attribute? e.attributes "cref" = some cref :=
        (Option.filter_eq_some_iff.1 hcref).1
      simp only [Option.map_some, Functor.map_map, bind_pure_comp, Recorded.pure_eq, hvalue,
        Option.getD_some, uidOf_eq]

/-- An element that leads nowhere is no link, and nothing is asked for it. -/
theorem seeAlso?_of_not_leads (r : Resolvers ε) {e : Forest.Element Text}
    (he : e.leads = false) : seeAlso? r e = Pure.pure none := by
  have hnone : nonEmptyAttribute? e.attributes "href" = none ∧
      nonEmptyAttribute? e.attributes "cref" = none := by
    simpa [Forest.Element.leads] using he
  simp only [seeAlso?, linkOf?, hnone.1, hnone.2, Option.map_none, Recorded.pure_eq]

/-- The links of a fragment are those of its outermost see-also elements that lead somewhere. -/
theorem collectSeeAlsos_eq (r : Resolvers ε) (f : Fragment) :
    collectSeeAlsos r f =
      Recorded.each (fun e => linkTo e <$> formatFragment r e.children)
        ((f.outermost "seealso".toList).filter Forest.Element.leads) := by
  rw [collectSeeAlsos, seeAlsoElements_eq_outermost]
  exact Recorded.each_filter (fun _ => seeAlso?_of_leads r) (fun _ => seeAlso?_of_not_leads r) _

/-- The links of markup that can be read are those of the see-also elements that lie in no other one
and lead somewhere, in document order; each has the rendering of its own content. What is asked and
reported is what the renderings of these contents ask and report, one after another, up to the first
one that fails. -/
theorem seeAlsosOfMarkup_outermost {raw : Text} {f : Fragment} (hraw : Fragment.parse? raw = some f)
    (r : Resolvers Failure) :
    let links := (f.outermost "seealso".toList).filter Forest.Element.leads
    let content := fun e : Forest.Element Text => formatFragment r e.children
    (seeAlsosOfMarkup r raw).outcome = links.mapM (fun e => linkTo e <$> (content e).outcome) ∧
      (seeAlsosOfMarkup r raw).trace = Recorded.traceOf content links := by
  intro links content
  have hlinks : seeAlsosOfMarkup r raw = Recorded.each (fun e => linkTo e <$> content e) links := by
    rw [seeAlsosOfMarkup, parseMarkup, hraw]
    exact collectSeeAlsos_eq r f
  rw [hlinks, Recorded.outcome_each_eq_mapM, Recorded.trace_each, Recorded.traceOf_map]
  simp only [Recorded.outcome_map_eq, and_self]

/-- Links are found where nothing is rendered: inside a listing that is loaded, and beside the items
of a list. One inside another is not found, one that leads nowhere is left out, and one that comes
again is kept. -/
theorem seeAlsosOfMarkup_outermost_unrendered :
    let raw := ("<code source='a.cs'><seealso cref='T:A'>x<seealso cref='T:B'/></seealso></code>" ++
      "<list><seealso href='' cref='t:C'/></list><seealso>d</seealso>" ++
      "<seealso href='u' cref='T:A'/><seealso cref='T:A'/>").toList
    let f : Fragment :=
      .element "code".toList [("source".toList, "a.cs".toList)]
        (.element "seealso".toList [("cref".toList, "T:A".toList)] (.text "x".toList
          (.element "seealso".toList [("cref".toList, "T:B".toList)] .nil .nil)) .nil)
      (.element "list".toList []
        (.element "seealso".toList [("href".toList, []), ("cref".toList, "t:C".toList)] .nil .nil)
      (.element "seealso".toList [] (.text "d".toList .nil)
      (.element "seealso".toList [("href".toList, "u".toList), ("cref".toList, "T:A".toList)] .nil
      (.element "seealso".toList [("cref".toList, "T:A".toList)] .nil .nil))))
    let r : Resolvers Failure :=
      ⟨some fun id => (id, none), some fun id => .fail (.malformed id none), none⟩
    Fragment.parse? raw = some f ∧
      (seeAlsosOfMarkup r raw).outcome = .ok
        [⟨"A".toList, some "x<c class=\"xref\">T:B</c>".toList, .cref⟩, ⟨"t:C".toList, none, .cref⟩,
          ⟨"u".toList, none, .href⟩, ⟨"A".toList, none, .cref⟩] ∧
      (seeAlsosOfMarkup r raw).trace = ⟨[.reference "T:B".toList], []⟩ := by
  intro raw f r
  have hraw : Fragment.parse? raw = some f := by decide +kernel
  have hspec := seeAlsosOfMarkup_outermost hraw r
  refine ⟨hraw, hspec.1.trans (eq_ok_of_toOption ?_), hspec.2.trans ?_⟩
  · decide +kernel
  · decide +kernel

end DocMarkup
