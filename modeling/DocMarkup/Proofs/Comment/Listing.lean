import DocMarkup.Proofs.Comment.Build
import DocMarkup.Proofs.File.Path
import DocMarkup.Proofs.File.Source
import DocMarkup.Proofs.Html.Grammar
import DocMarkup.Proofs.Region.LineEnd
import DocMarkup.Proofs.Region.Missing
import DocMarkup.Proofs.Render.Adjacent

/-!
# Listings and the spelling of their sources

A program listing reads the path of its source three times: to find the file, to choose the markers of
its regions and to name its language. The file is the same whether the path is written with slashes or
with backslashes. The other two go by the extension, which stands behind the last slash alone: there a
directory that ends in a backslash belongs to the name of the file.

Main definitions:

- {lit}`listing`: the spelling of a listing.
- {lit}`ListsSource`: markup that is one listing of a source.

Main results:

- Theorem {lit}`SourceFolder.outcome_load_slashed`: both spellings of a source have the same text.
- Theorem {lit}`outcome_formatFragment_code`: what a listing of a source is.
- Theorem {lit}`formatMarkup_slashed`: for which sources the two spellings make the same listing.
-/

namespace DocMarkup

open DocMarkup.Path (slashed fileName extensionOfName)

/-! ## Loads -/

namespace SourceFolder

/-- Backslashes do not matter to where a source is looked up. -/
theorem locate?_slashed (f : SourceFolder) (source : Text) :
    f.locate? (slashed source) = f.locate? source := by
  have htarget : f.target (slashed source) = f.target source :=
    congrArg (Path.resolve f.root) (Path.slashed_slashed source)
  show (if f.root.isPrefixOf (f.target (slashed source)) then some (f.target (slashed source))
    else none) = _
  rw [htarget]
  rfl

/-- Backslashes do not matter to whether a source has NUL. -/
theorem contains_nul_slashed (source : Text) :
    (slashed source).contains '\x00' = source.contains '\x00' := by
  have hmem : '\x00' ∈ slashed source ↔ '\x00' ∈ source := by
    unfold slashed
    rw [List.mem_map]
    constructor
    · rintro ⟨c, hc, heq⟩
      split at heq
      · cases heq
      · exact heq ▸ hc
    · exact fun hnul => ⟨'\x00', hnul, rfl⟩
  rw [Bool.eq_iff_iff, List.contains_iff_mem, List.contains_iff_mem, hmem]

/-- The name of a source does not matter to how its content is read. -/
theorem outcome_readFrom (f : SourceFolder) (c : Encoding.Codecs) (source other : Text)
    (content : Content) :
    (f.readFrom c source content).outcome = (f.readFrom c other content).outcome := by
  unfold readFrom
  split
  · rfl
  · rfl
  · next decode bytes _ =>
    unfold readBytes
    cases decode bytes with
    | ok text => rfl
    | error fault =>
      dsimp only
      cases refusal? fault <;> rfl
  · rfl

/-- Both spellings of a source have the same text, or none, or fail alike, on every disk. -/
theorem outcome_loadFrom_slashed (f : SourceFolder) (d : Disk) (c : Encoding.Codecs) (source : Text) :
    (f.loadFrom d c (slashed source)).outcome = (f.loadFrom d c source).outcome := by
  have hR := Recorded.outcome_isComposed (ε := Failure)
  unfold loadFrom
  rw [contains_nul_slashed, Path.slashed_slashed]
  split
  · rfl
  · refine hR.bind rfl fun path => ?_
    split
    · refine hR.bind rfl fun isFile => ?_
      split
      · exact outcome_readFrom f c _ _ _
      · rfl
    · rfl

/-- Both spellings of a source in a tree of files have the same text, or none, or fail alike. -/
theorem outcome_load_slashed (f : SourceFolder) (t : FileTree) (source : Text) :
    (f.load t (slashed source)).outcome = (f.load t source).outcome :=
  outcome_loadFrom_slashed f t.disk codecs source

end SourceFolder

/-! ## Listings -/

/-- The spelling of a listing of some code in the language of an extension. -/
def listing (extension code : Text) : Text :=
  Html.print (.single "pre" [] (.single "code" [("class", "lang-".toList ++ extension)]
    (.text .escaped code .nil)))

/-- A listing shows its extension. -/
theorem extension_of_listing {extension extension' code code' : Text}
    (h : listing extension code = listing extension' code') : extension = extension' := by
  have hnamed : ∀ extension code : Text, Html.IsWellNamed (.single "pre" [] (.single "code"
      [("class", "lang-".toList ++ extension)] (.text .escaped code .nil))) := by
    intro extension code
    exact isWellNamed_single (by decide) (by simp)
      (isWellNamed_single (by decide) (by simp) trivial)
  have hreads := Html.reads_print (hnamed extension code)
  unfold listing at h
  rw [h] at hreads
  have hcontent := hreads.unique (Html.reads_print (hnamed extension' code'))
  have hclass : "lang-".toList ++ extension = "lang-".toList ++ extension' := by
    simp only [Html.content, Html.single] at hcontent
    injection hcontent with _ _ hinner
    injection hinner with _ hattributes
    simpa using hattributes
  exact List.append_cancel_left hclass

variable {r : Resolvers Failure} {load : Text → Recorded Failure (Option Text)}
  {attributes : List (Text × Text)} {source : Text}

/-- Extraction gives the same text for two sources with the same markers. -/
theorem Region.outcome_extract_congr {ε : Type} {source other : Text}
    (hstyle : MarkerStyle.forSource source = MarkerStyle.forSource other) (region : Option Text)
    (code : Text) :
    (extract source region code : Recorded ε Text).outcome = (extract other region code).outcome := by
  rcases region with _ | _ | ⟨c, name⟩
  · rfl
  · rfl
  · have hname : c :: name ≠ [] := by simp
    rw [outcome_extract hname, outcome_extract hname, capturedLines, capturedLines, hstyle]

/-- A source fails as its load does. -/
theorem Resolvers.outcome_askSource_error (hload : r.source = some load) {failure : Failure}
    (hfails : (load source).outcome = .error failure) (region : Option Text) :
    (r.askSource source region).outcome = .error failure := by
  unfold askSource
  rw [hload]
  exact (Recorded.outcome_bind (a := ()) rfl _).trans (Recorded.outcome_bind_error hfails _)

/-- A source that is loaded is given, cut to its region. -/
theorem Resolvers.outcome_askSource_ok (hload : r.source = some load) {code? : Option Text}
    (hcode : (load source).outcome = .ok code?) (region : Option Text) :
    ∃ text?, (r.askSource source region).outcome = .ok text? := by
  unfold askSource
  rw [hload]
  dsimp only
  rw [Recorded.outcome_bind (a := ()) rfl, Recorded.outcome_bind hcode]
  cases code? with
  | none => exact ⟨none, rfl⟩
  | some code =>
    rcases Region.extract_succeeds (ε := Failure) source region code with ⟨text, htext⟩
    exact ⟨some text, Recorded.outcome_map htext some⟩

/-- Two sources with the same text and the same markers are given alike. -/
theorem Resolvers.outcome_askSource_congr (hload : r.source = some load) {other : Text}
    (hcode : (load source).outcome = (load other).outcome)
    (hstyle : MarkerStyle.forSource source = MarkerStyle.forSource other) (region : Option Text) :
    (r.askSource source region).outcome = (r.askSource other region).outcome := by
  have hR := Recorded.outcome_isComposed (ε := Failure)
  unfold askSource
  rw [hload]
  refine hR.bind rfl fun _ => hR.bind hcode fun code? => ?_
  cases code? with
  | none => rfl
  | some code => exact hR.map (Region.outcome_extract_congr hstyle region code) some

/-- A listing of a source shows the text that its resolver gives, in the language of its extension. -/
theorem outcome_formatFragment_code (hsource : attribute? attributes "source" = some source)
    (children : Fragment) :
    (formatFragment r (.element "code".toList attributes children .nil)).outcome =
      (r.askSource source (attribute? attributes "region")).outcome.map fun code =>
        listing (Path.extension source) (code.getD []) := by
  have hkind : Kind.of "code".toList = .code := by decide
  rw [formatFragment_element, formatFragment_nil, renderElement, hkind]
  simp only [renderCode, hsource]
  cases hcode : (r.askSource source (attribute? attributes "region")).outcome with
  | error failure =>
    rw [Recorded.outcome_bind_error (Recorded.outcome_bind_error hcode _)]
    rfl
  | ok code =>
    rw [bind_assoc, Recorded.outcome_bind hcode]
    show Except.ok (_ ++ []) = Except.ok _
    rw [List.append_nil]
    rfl

/-- Markup that is one listing of a source, or of a region of it. -/
def ListsSource (raw source : Text) (region : Option Text) : Prop :=
  ∃ attributes children,
    Fragment.parse? raw = some (.element "code".toList attributes children .nil) ∧
    attribute? attributes "source" = some source ∧ attribute? attributes "region" = region

/-- Markup that lists a source is rendered as the listing of the text that is given. -/
theorem ListsSource.outcome_formatMarkup {raw : Text} {region : Option Text}
    (h : ListsSource raw source region) (r : Resolvers Failure) :
    (formatMarkup r raw).outcome = (r.askSource source region).outcome.map fun code =>
      listing (Path.extension source) (code.getD []) := by
  rcases h with ⟨attributes, children, hparse, hsource, rfl⟩
  rw [formatMarkup_eq hparse, outcome_formatFragment_code hsource]

/-- Written with slashes or with backslashes, a source is looked up at the same path and has the same
text. Its two listings are the same exactly when the source cannot be loaded or its extension is the
same in both. That of a source that ends in a name is the same exactly when this name has an extension,
or when the longer name that begins behind the last slash has none either. -/
theorem formatMarkup_slashed {raw raw' : Text} {region : Option Text}
    (hraw : ListsSource raw source region) (hraw' : ListsSource raw' (slashed source) region)
    (f : SourceFolder) (t : FileTree) (reference : Option (Text → Text × Option Text))
    (keyword : Option (Text → Option Text)) :
    let r : Resolvers Failure := ⟨reference, some (f.load t), keyword⟩
    (f.locate? (slashed source) = f.locate? source ∧
      (f.load t (slashed source)).outcome = (f.load t source).outcome) ∧
    ((formatMarkup r raw').outcome = (formatMarkup r raw).outcome ↔
      (∃ failure, (f.load t source).outcome = .error failure) ∨
        Path.extension (slashed source) = Path.extension source) ∧
    (fileName (slashed source) ≠ [] → fileName (slashed source) ≠ ['.'] →
      (Path.extension (slashed source) = Path.extension source ↔
        extensionOfName (fileName (slashed source)) ≠ [] ∨
          extensionOfName (fileName source) = [])) := by
  intro r
  have hload := SourceFolder.outcome_load_slashed f t source
  refine ⟨⟨f.locate?_slashed source, hload⟩, ?_, Path.extension_slashed_iff⟩
  rw [hraw.outcome_formatMarkup, hraw'.outcome_formatMarkup]
  constructor
  · intro hsame
    cases hcode : (f.load t source).outcome with
    | error failure => exact .inl ⟨failure, rfl⟩
    | ok code? =>
      rcases Resolvers.outcome_askSource_ok (r := r) rfl hcode region with ⟨text?, htext⟩
      rcases Resolvers.outcome_askSource_ok (r := r) rfl (hload.trans hcode) region with
        ⟨text?', htext'⟩
      rw [htext, htext'] at hsame
      exact .inr (extension_of_listing (Except.ok.inj hsame))
  · rintro (⟨failure, hfails⟩ | hextension)
    · rw [Resolvers.outcome_askSource_error (r := r) rfl hfails,
        Resolvers.outcome_askSource_error (r := r) rfl (hload.trans hfails), Except.map, Except.map]
    · have hstyle : MarkerStyle.forSource (slashed source) = MarkerStyle.forSource source := by
        unfold MarkerStyle.forSource
        rw [hextension]
      rw [Resolvers.outcome_askSource_congr (r := r) rfl hload hstyle, hextension]

/-- A region of a file in a directory with a dot in its name. -/
theorem formatMarkup_slashed_region :
    let source := "v1.0\\ops.cs".toList
    let content : Bytes := "#region R\n  x\n#endregion".toList.map fun c => c.toNat.toUInt8
    let t : FileTree := ⟨[(["v1.0".toList, "ops.cs".toList], content)], []⟩
    let f : SourceFolder := ⟨[], "utf8".toList⟩
    let r : Resolvers Failure := ⟨none, some (f.load t), none⟩
    let raw := "<code source='v1.0\\ops.cs' region='R'/>".toList
    let raw' := "<code source='v1.0/ops.cs' region='R'/>".toList
    ListsSource raw source (some ['R']) ∧ ListsSource raw' (slashed source) (some ['R']) ∧
      (formatMarkup r raw').outcome = (formatMarkup r raw).outcome ∧
      (formatMarkup r raw).outcome =
        .ok "<pre><code class=\"lang-cs\">x\n</code></pre>".toList := by
  intro source content t f r raw raw'
  have hraw : ListsSource raw source (some ['R']) :=
    ⟨[("source".toList, source), ("region".toList, ['R'])], .nil, by decide +kernel, rfl, rfl⟩
  have hraw' : ListsSource raw' (slashed source) (some ['R']) :=
    ⟨[("source".toList, slashed source), ("region".toList, ['R'])], .nil, by decide +kernel, rfl,
      rfl⟩
  rcases formatMarkup_slashed hraw hraw' f t none none with ⟨_, hlistings, hextension⟩
  refine ⟨hraw, hraw', hlistings.2 (.inr ?_), eq_ok_of_toOption (by decide +kernel)⟩
  exact (hextension (by decide) (by decide)).2 (.inl (by decide))

/-- Behind a dot in the name of a directory, the rest of the path is taken for the extension of a file
that has none, unless a slash stands between them. A file whose name begins with its only dot has an
extension when a backslash stands in front of it, and then other markers. -/
theorem formatMarkup_slashed_dotted_directory :
    let source := "v1.0\\Dockerfile".toList
    let t : FileTree := ⟨[(["v1.0".toList, "Dockerfile".toList], [120])], []⟩
    let f : SourceFolder := ⟨[], "utf8".toList⟩
    let r : Resolvers Failure := ⟨none, some (f.load t), none⟩
    let raw := "<code source='v1.0\\Dockerfile'/>".toList
    let raw' := "<code source='v1.0/Dockerfile'/>".toList
    ListsSource raw source none ∧ ListsSource raw' (slashed source) none ∧
      (formatMarkup r raw).outcome =
        .ok "<pre><code class=\"lang-0\\Dockerfile\">x</code></pre>".toList ∧
      (formatMarkup r raw').outcome = .ok "<pre><code class=\"lang-\">x</code></pre>".toList ∧
      (formatMarkup r raw').outcome ≠ (formatMarkup r raw).outcome ∧
      MarkerStyle.forSource "pages\\.html".toList = .comment ∧
      MarkerStyle.forSource (slashed "pages\\.html".toList) = .directive := by
  intro source t f r raw raw'
  have hraw : ListsSource raw source none :=
    ⟨[("source".toList, source)], .nil, by decide +kernel, rfl, rfl⟩
  have hraw' : ListsSource raw' (slashed source) none :=
    ⟨[("source".toList, slashed source)], .nil, by decide +kernel, rfl, rfl⟩
  have hback : (formatMarkup r raw).outcome =
      .ok "<pre><code class=\"lang-0\\Dockerfile\">x</code></pre>".toList :=
    eq_ok_of_toOption (by decide +kernel)
  have hslash : (formatMarkup r raw').outcome =
      .ok "<pre><code class=\"lang-\">x</code></pre>".toList :=
    eq_ok_of_toOption (by decide +kernel)
  refine ⟨hraw, hraw', hback, hslash, ?_, by decide, by decide⟩
  rw [hback, hslash]
  intro hsame
  exact absurd (Except.ok.inj hsame) (by decide)

end DocMarkup
