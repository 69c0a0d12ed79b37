import DocMarkup.Link.Map
import DocMarkup.Proofs.Comment.Grouped
import DocMarkup.Proofs.Render.Reference
import DocMarkup.Proofs.Yaml.Written

/-!
# Targets of a cross-reference map

A map gives one target for each uid, and a later entry of a uid replaces an earlier one. Loading
fails only when a value cannot be written or an address cannot be joined. What is loaded is looked up
by the uid of a reference, so a reference shows what the last entry of its uid says.

Main definitions:

- {lit}`LinkMap.name?`, {lit}`LinkMap.target`: the uid and the target that an entry gives.
- {lit}`LinkMap.IsSound`: entries of which both can be written.
- {lit}`LinkMap.spelled`: a reference as it is shown.

Main results:

- Theorem {lit}`LinkMap.targetOf_cases`: what an entry gives.
- Theorem {lit}`LinkMap.outcome_load`: a file gives what its map does.
- Theorem {lit}`LinkMap.ofMapping_serves`: what a map gives, and what is shown of it.
-/

namespace DocMarkup

open Xml (QName readContent?)
open Yaml (Value)

namespace LinkMap

variable {join? : Text → Text → Option Text} {base : Option Value} {uid href entry : Value}
  {map : List (Value × Value)} {references : List Value}

/-! ## Entries -/

/-- The value that is the uid of an entry; what is no mapping or has no uid has none. -/
def uid? (entry : Value) : Option Value := field? "uid" (entry.entries?.getD [])

/-- The uid of an entry, as text. -/
def name? (entry : Value) : Option Text := (uid? entry).map Value.text

/-- The value that an entry with a uid shows its symbol by. -/
def title (entry : Value) : Value :=
  let fields := entry.entries?.getD []
  ((field? "name" fields).or (field? "fullName" fields)).getD ((uid? entry).getD .null)

/-- The value that is the address of an entry. -/
def href? (entry : Value) : Option Value := field? "href" (entry.entries?.getD [])

/-- An address as text, taken from a base if there is one. -/
def joined (join? : Text → Text → Option Text) (base : Option Value) (href : Value) : Text :=
  match base with
  | none => href.text
  | some base => (join? base.text href.text).getD []

/-- The target that an entry with a uid gives. An empty address is none. -/
def target (join? : Text → Text → Option Text) (base : Option Value) (entry : Value) : LinkTarget :=
  ⟨(title entry).text, ((href? entry).map (joined join? base)).filter (· ≠ [])⟩

/-- The uid and the target of an entry. -/
def described? (join? : Text → Text → Option Text) (base : Option Value) (entry : Value) :
    Option (Text × LinkTarget) :=
  (name? entry).map fun name => (name, target join? base entry)

/-- Whether an address can be written, and taken from a base that can be written. -/
def IsJoinable (join? : Text → Text → Option Text) (base : Option Value) (href : Value) : Prop :=
  href.isWritable = true ∧
    ∀ b ∈ base, b.isWritable = true ∧ (join? b.text href.text).isSome

/-- Entries that are passed over, or whose uid, title and address can be written. -/
def IsSound (join? : Text → Text → Option Text) (base : Option Value) (entry : Value) : Prop :=
  ∀ uid ∈ uid? entry, uid.isWritable = true ∧ (title entry).isWritable = true ∧
    ∀ href ∈ href? entry, IsJoinable join? base href

/-- What an entry is refused for: an integer that is too long to be written, or an address that
cannot be joined. -/
def IsRefusal (e : Failure) : Prop := e = .yaml .longInteger ∨ e = .brokenAddress

/-- A value has its text or is refused. -/
theorem textOf_cases (v : Value) :
    (v.isWritable = true ∧ Config.textOf v = .ok v.text) ∨
      (¬ v.isWritable = true ∧ ∃ e, IsRefusal e ∧ Config.textOf v = .error e) := by
  unfold Config.textOf Value.written
  by_cases hv : v.isWritable = true
  · rw [if_pos hv]
    exact Or.inl ⟨hv, rfl⟩
  · rw [if_neg hv]
    exact Or.inr ⟨hv, _, Or.inl rfl, rfl⟩

/-- An address is joined or refused. -/
theorem addressOf_cases (join? : Text → Text → Option Text) (base : Option Value) (href : Value) :
    (IsJoinable join? base href ∧ addressOf join? base href = .ok (joined join? base href)) ∨
      (¬ IsJoinable join? base href ∧
        ∃ e, IsRefusal e ∧ addressOf join? base href = .error e) := by
  unfold addressOf
  rcases textOf_cases href with ⟨hhref, htext⟩ | ⟨hhref, e, he, htext⟩
  · cases base with
    | none => exact Or.inl ⟨⟨hhref, by simp⟩, by rw [htext]; rfl⟩
    | some base =>
      rcases textOf_cases base with ⟨hbase, hbaseText⟩ | ⟨hbase, e, he, hbaseText⟩
      · simp only [htext, hbaseText, bind, Except.bind, joined]
        cases hjoin : join? base.text href.text with
        | some joined => exact Or.inl ⟨⟨hhref, by simp [hbase, hjoin]⟩, rfl⟩
        | none =>
          refine Or.inr ⟨fun h => ?_, _, Or.inr rfl, rfl⟩
          simpa [hjoin] using (h.2 base rfl).2
      · simp only [htext, hbaseText, bind, Except.bind]
        exact Or.inr ⟨fun h => hbase (h.2 base rfl).1, e, he, rfl⟩
  · rw [htext]
    exact Or.inr ⟨fun h => hhref h.1, e, he, rfl⟩

/-- The address of an entry; one without an address has an empty one. -/
def addressIn (join? : Text → Text → Option Text) (base : Option Value) (entry : Value) :
    Except Failure Text :=
  match href? entry with
  | none => .ok []
  | some href => addressOf join? base href

/-- The address of an entry is joined or refused. -/
theorem addressIn_cases (join? : Text → Text → Option Text) (base : Option Value)
    (entry : Value) :
    ((∀ href ∈ href? entry, IsJoinable join? base href) ∧
        addressIn join? base entry = .ok (((href? entry).map (joined join? base)).getD [])) ∨
      (¬ (∀ href ∈ href? entry, IsJoinable join? base href) ∧
        ∃ e, IsRefusal e ∧ addressIn join? base entry = .error e) := by
  unfold addressIn
  cases href? entry with
  | none => exact Or.inl ⟨by simp, rfl⟩
  | some href => simpa using addressOf_cases join? base href

/-- The steps that an entry with a uid takes. -/
theorem targetOf_of_uid (huid : uid? entry = some uid) :
    targetOf join? base entry = (do
      let name ← Config.textOf uid
      let address ← addressIn join? base entry
      let title ← Config.textOf (title entry)
      .ok (some (name, ⟨title, if address = [] then none else some address⟩))) := by
  unfold targetOf
  change (match uid? entry with | none => _ | some uid => _) = _
  rw [title, huid, addressIn, href?]
  dsimp only [Option.getD_some]
  -- the rest of the steps follows in each branch of the choice of the address
  cases Config.textOf uid with
  | error e => rfl
  | ok name => cases field? "href" (entry.entries?.getD []) <;> rfl

/-- An entry gives what it describes or is refused. -/
theorem targetOf_cases (join? : Text → Text → Option Text) (base : Option Value) (entry : Value) :
    (IsSound join? base entry ∧
        targetOf join? base entry = .ok (described? join? base entry)) ∨
      (¬ IsSound join? base entry ∧
        ∃ e, IsRefusal e ∧ targetOf join? base entry = .error e) := by
  unfold IsSound
  cases huid : uid? entry with
  | none =>
    refine Or.inl ⟨by simp, ?_⟩
    unfold targetOf
    change (match uid? entry with | none => _ | some uid => _) = _
    rw [described?, name?, huid]
    rfl
  | some uid =>
    rw [targetOf_of_uid huid]
    rcases textOf_cases uid with ⟨hname, hnameText⟩ | ⟨hname, e, he, hnameText⟩
    · rcases addressIn_cases join? base entry with ⟨haddress, hjoined⟩ | ⟨haddress, e, he, hjoined⟩
      · rcases textOf_cases (title entry) with ⟨htitle, htitleText⟩ | ⟨htitle, e, he, htitleText⟩
        · refine Or.inl ⟨by simpa using ⟨hname, htitle, haddress⟩, ?_⟩
          have hhref : ∀ href : Option Text,
              (if href.getD [] = [] then none else some (href.getD [])) = href.filter (· ≠ []) := by
            intro href
            cases href with
            | none => rfl
            | some text => cases text <;> rfl
          simp only [hnameText, hjoined, htitleText, bind, Except.bind, described?, name?, huid, hhref]
          rfl
        · simp only [hnameText, hjoined, htitleText, bind, Except.bind]
          exact Or.inr ⟨fun h => htitle (h uid rfl).2.1, e, he, rfl⟩
      · simp only [hnameText, hjoined, bind, Except.bind]
        exact Or.inr ⟨fun h => haddress (h uid rfl).2.2, e, he, rfl⟩
    · simp only [hnameText, bind, Except.bind]
      exact Or.inr ⟨fun h => hname (h uid rfl).1, e, he, rfl⟩

/-! ## Maps -/

/-- A list of references has its entries, also when it does not count as given. -/
theorem entriesOf_given? {v : Value} (h : v.items? = some references) :
    entriesOf v.given? = .ok references := by
  cases v with
  | list items =>
    obtain rfl : items = references := Option.some.inj h
    cases items <;> rfl
  | loop number v =>
    cases v with
    | list items =>
      obtain rfl := Option.some.inj h
      cases items <;> rfl
    | again n isMapping =>
      by_cases hn : n = number
      · simp [Value.items?, Value.opened, Value.unrolled, hn] at h
      · simp [Value.items?, Value.opened, Value.unrolled, hn] at h
    | loop n v =>
      by_cases hn : n = number
      · simp [Value.items?, Value.opened, Value.unrolled, hn] at h
      · simp [Value.items?, Value.opened, Value.unrolled, hn] at h
    | _ => cases h
  | _ => cases h

/-- The steps that a map takes, given its references. -/
theorem ofMapping_eq
    (hreferences : (Assoc.get? (Config.textValue "references") map).bind Value.items? =
      some references) :
    ofMapping join? map = (do
      let targets ← references.mapM (targetOf join? (field? "baseUrl" map))
      .ok (Assoc.ofList (targets.filterMap id))) := by
  rcases Option.bind_eq_some_iff.1 hreferences with ⟨v, hget, hitems⟩
  have hfield : field? "references" map = v.given? := by
    rw [field?, Config.setting?, hget]
    rfl
  rw [ofMapping, hfield, entriesOf_given? hitems]
  rfl

/-- A map of sound entries gives what they describe. -/
theorem ofMapping_eq_ok
    (hreferences : (Assoc.get? (Config.textValue "references") map).bind Value.items? =
      some references)
    (hsound : ∀ entry ∈ references, IsSound join? (field? "baseUrl" map) entry) :
    ofMapping join? map =
      .ok (Assoc.ofList (references.filterMap (described? join? (field? "baseUrl" map)))) := by
  have htargets : ∀ entry ∈ references, targetOf join? (field? "baseUrl" map) entry =
      .ok (described? join? (field? "baseUrl" map) entry) := by
    intro entry hentry
    rcases targetOf_cases join? (field? "baseUrl" map) entry with ⟨_, h⟩ | ⟨h, _⟩
    · exact h
    · exact absurd (hsound entry hentry) h
  rw [ofMapping_eq hreferences, mapM_eq_ok htargets]
  change Except.ok _ = _
  rw [List.filterMap_map]
  rfl

/-- A map that gives targets has sound entries, and gives what they describe. -/
theorem sound_of_ofMapping {targets : List (Text × LinkTarget)}
    (hreferences : (Assoc.get? (Config.textValue "references") map).bind Value.items? =
      some references)
    (h : ofMapping join? map = .ok targets) :
    (∀ entry ∈ references, IsSound join? (field? "baseUrl" map) entry) ∧
      targets = Assoc.ofList (references.filterMap (described? join? (field? "baseUrl" map))) := by
  have hsound : ∀ entry ∈ references, IsSound join? (field? "baseUrl" map) entry := by
    intro entry hentry
    have hsteps := h
    rw [ofMapping_eq hreferences] at hsteps
    rcases outcome_bind_eq_ok hsteps with ⟨described, hdescribed, _⟩
    rcases exists_of_mapM_eq_ok hdescribed entry hentry with ⟨target?, htarget⟩
    rcases targetOf_cases join? (field? "baseUrl" map) entry with ⟨hsound, _⟩ | ⟨_, e, _, hfail⟩
    · exact hsound
    · rw [hfail] at htarget
      cases htarget
  exact ⟨hsound, Except.ok.inj (h.symm.trans (ofMapping_eq_ok hreferences hsound))⟩

/-- What a map with references is refused for. -/
theorem ofMapping_eq_error {e : Failure}
    (hreferences : (Assoc.get? (Config.textValue "references") map).bind Value.items? =
      some references)
    (h : ofMapping join? map = .error e) :
    IsRefusal e ∧ ∃ entry ∈ references, ¬ IsSound join? (field? "baseUrl" map) entry := by
  rw [ofMapping_eq hreferences] at h
  cases htargets : references.mapM (targetOf join? (field? "baseUrl" map)) with
  | ok targets =>
    rw [htargets] at h
    cases h
  | error e' =>
    rw [htargets] at h
    cases h
    rcases exists_of_mapM_eq_error htargets with ⟨entry, hentry, hfail⟩
    rcases targetOf_cases join? (field? "baseUrl" map) entry with ⟨_, hok⟩ | ⟨hsound, e', he', hok⟩
    · rw [hok] at hfail
      cases hfail
    · rw [hok] at hfail
      cases hfail
      exact ⟨he', entry, hentry, hsound⟩

/-- Entries are described under their uids. -/
theorem keys_described (join? : Text → Text → Option Text) (base : Option Value)
    (references : List Value) :
    (references.filterMap (described? join? base)).map Prod.fst = references.filterMap name? := by
  rw [List.map_filterMap]
  congr 1
  funext entry
  simp [described?, Function.comp_def]

/-- What is described under a uid are the targets of the entries that have it. -/
theorem described_filter (join? : Text → Text → Option Text) (base : Option Value) (name : Text)
    (references : List Value) :
    ((references.filterMap (described? join? base)).filter fun e => e.1 = name).map Prod.snd =
      (references.filter fun entry => name? entry = some name).map (target join? base) := by
  induction references with
  | nil => rfl
  | cons entry references ih =>
    cases hname : name? entry with
    | none => simpa [described?, hname] using ih
    | some name' =>
      by_cases hsame : name' = name
      · simpa [described?, hname, hsame] using ih
      · simpa [described?, hname, hsame] using ih

/-- What a uid is bound to is the target of the last entry that has it. -/
theorem get?_described (join? : Text → Text → Option Text) (base : Option Value) (name : Text)
    (references : List Value) :
    Assoc.get? name (Assoc.ofList (references.filterMap (described? join? base))) =
      (references.filter fun entry => name? entry = some name).getLast?.map (target join? base) := by
  rw [Assoc.get?_ofList, ← List.getLast?_map, ← List.getLast?_map, described_filter]

/-! ## Texts that are not empty -/

/-- A field counts as given. -/
theorem isTruthy_of_field? {name : String} {fields : List (Value × Value)} {v : Value}
    (h : field? name fields = some v) : v.isTruthy = true := by
  rcases Option.bind_eq_some_iff.1 h with ⟨w, _, hgiven⟩
  unfold Value.given? at hgiven
  split at hgiven
  · next hw => exact Option.some.inj hgiven ▸ hw
  · cases hgiven

/-- An entry with a uid has a title. -/
theorem title_ne_nil {name : Text} (h : name? entry = some name) : (title entry).text ≠ [] := by
  rcases Option.map_eq_some_iff.1 h with ⟨uid, huid, _⟩
  refine Value.text_ne_nil ?_
  unfold title
  dsimp only
  cases hname : field? "name" (entry.entries?.getD []) with
  | some v => exact isTruthy_of_field? hname
  | none =>
    cases hfull : field? "fullName" (entry.entries?.getD []) with
    | some v => exact isTruthy_of_field? hfull
    | none =>
      simpa [huid] using isTruthy_of_field? huid

/-- No target has an empty title or an empty address. -/
theorem target_ne_nil {name : Text} (h : name? entry = some name) :
    (target join? base entry).title ≠ [] ∧ (target join? base entry).href ≠ some [] := by
  refine ⟨title_ne_nil h, fun hhref => ?_⟩
  have hne := Option.filter_eq_some_iff.1 hhref
  simp at hne

/-! ## Files -/

/-- A file gives what the map behind its declaration does, whatever is declared. -/
theorem outcome_load (t : FileTree) (file : List Text) :
    (load t file).outcome = (do
      let text ← t.text file
      let map ← Config.readMapping (.referencesNotMapping (Path.print file)) (Mime.split text).2
      ofMapping Url.join? map) := by
  unfold load
  rw [Recorded.outcome_ofExcept_bind]
  congr 1
  funext text
  rcases Mime.split text with ⟨_ | declared, rest⟩
  · exact (Recorded.outcome_bind rfl _).trans (Recorded.outcome_ofExcept_bind _ _)
  · by_cases hmime : declared = mime
    · simp only [hmime, if_true]
      exact (Recorded.outcome_bind rfl _).trans (Recorded.outcome_ofExcept_bind _ _)
    · simp only [hmime, if_false]
      exact (Recorded.outcome_bind rfl _).trans (Recorded.outcome_ofExcept_bind _ _)

/-! ## What is shown -/

/-- A reference as it is shown by the targets of a map: a link to the address of its symbol, a span
when there is no address, and the reference itself when there is no symbol. -/
def spelled (targets : List (Text × LinkTarget)) (cref : Text) : Text :=
  let span (content : Text) :=
    "<c class=\"xref\">".toList ++ Html.escapeText content ++ "</c>".toList
  match Assoc.get? (uidOf cref) targets with
  | none => span cref
  | some ⟨title, none⟩ => span title
  | some ⟨title, some href⟩ =>
    "<a class=\"xref\" href=\"".toList ++ Html.escapeAttribute href ++ "\">".toList ++
      Html.escapeText title ++ "</a>".toList

/-- A reference of a member is spelled by the targets around it. -/
theorem print_linkOrSpan {p : Provider} {targets : List (Text × LinkTarget)} {cref : Text}
    (hp : p.lookup cref = Assoc.get? (uidOf cref) targets)
    (htargets : ∀ target, Assoc.get? (uidOf cref) targets = some target → target.href ≠ some []) :
    let xref : List (String × Text) := [("class", "xref".toList)]
    (linkOrSpan xref xref (p.resolve cref).2 (.run (p.resolve cref).1)).print =
      spelled targets cref := by
  intro xref
  have hspan : ∀ content : Text, (Html.single "c" xref (.run content)).print =
      "<c class=\"xref\">".toList ++ Html.escapeText content ++ "</c>".toList := by
    intro content
    simp only [Html.single, Html.run, Html.print, Html.printRun, List.append_nil,
      List.append_assoc, List.cons_append]
    rfl
  have hlink : ∀ href content : Text,
      (Html.single "a" (xref ++ [("href", href)]) (.run content)).print =
        "<a class=\"xref\" href=\"".toList ++ Html.escapeAttribute href ++ "\">".toList ++
          Html.escapeText content ++ "</a>".toList := by
    intro href content
    simp only [xref, Html.single, Html.run, Html.print, Html.printRun, Html.printAttributes,
      List.map_cons, List.map_nil, List.cons_append, List.nil_append, List.flatMap_cons,
      List.flatMap_nil, List.append_nil, List.append_assoc]
    rfl
  unfold spelled Provider.resolve
  rw [hp]
  rcases hget : Assoc.get? (uidOf cref) targets with _ | ⟨title, _ | _ | ⟨first, rest⟩⟩
  · exact hspan cref
  · exact hspan title
  · exact absurd rfl (htargets _ hget)
  · exact hlink (first :: rest) title

/-- A summary that is a reference alone is shown as that reference. -/
theorem summary_of_reference {content : Forest QName} {raw : Text}
    (hraw : readContent? raw = some content) {s : Member.Surroundings} {e : Forest.Element QName}
    (he : (Member.outermost content "summary".toList).head? = some e) {space : Option Text}
    {attributes : List (QName × Text)}
    (hchildren : e.children = .element ⟨space, "see".toList⟩ attributes .nil .nil) {cref : Text}
    (hcref : RefersTo (Fragment.localAttributes attributes) cref)
    {source : Option (Text → Recorded Failure (Option Text))} {keyword : Option (Text → Option Text)}
    {c : Comment} :
    let p := (Member.ofContent content).provider raw s
    let xref : List (String × Text) := [("class", "xref".toList)]
    (p.build source keyword).outcome = .ok c →
      c.summary = some (linkOrSpan xref xref (p.resolve cref).2 (.run (p.resolve cref).1)).print := by
  intro p xref hc
  have hcontent := Xml.readContent?_isContent hraw
  have hmem : e ∈ content.elements :=
    Member.mem_elements_of_mem_outermost (List.mem_of_mem_head? he)
  have hplain := Member.isPlainContent_of_mem hcontent hmem
  have hsummary : p.summary = some (Member.markupOf e) := by
    change Assoc.get? "summary".toList (Member.ofContent content).fields = _
    rw [Member.get?_fields content (by decide), he, Option.map_some]
  have hne : Member.markupOf e ≠ [] := Xml.writeContent_ne_nil hplain.2 (by rw [hchildren]; rfl)
  have hparse : Fragment.parse? (Member.markupOf e) =
      some (.element "see".toList (Fragment.localAttributes attributes) .nil .nil) := by
    rw [Fragment.parse?, Member.readContent?_markupOf hplain, hchildren]
    rfl
  have hshows := shows_of_formatField (Provider.builds_of_outcome hc).summary
  rw [hsummary, Shows, if_neg (by simp [hne])] at hshows
  rcases hshows with ⟨raw', html, hraw', hhtml, hfield⟩
  obtain rfl := Option.some.inj hraw'
  rw [formatMarkup_eq hparse, outcome_formatFragment_see rfl hcref] at hhtml
  rw [hfield, Except.ok.inj hhtml]

/-- What a map gives whose references are a list of any values, and what is shown of it, however
addresses are taken from a base.

The map gives targets exactly when each entry that is a mapping with a uid has a uid, a title and an
address that can be written, and an address that can be joined; otherwise it is refused for one of
these reasons. The targets stand under the distinct uids in the order of their first entry, and each
is that of the last entry of its uid. No title and no address is empty.

A reference without content that stands anywhere in the markup of a member with these targets becomes
one node, which is spelled by the target of its uid; so does a reference that is a summary. A file
gives what its map does. -/
theorem ofMapping_serves (join? : Text → Text → Option Text)
    (hreferences : (Assoc.get? (Config.textValue "references") map).bind Value.items? =
      some references) :
    ((∃ targets, ofMapping join? map = .ok targets) ↔
      ∀ entry ∈ references, IsSound join? (field? "baseUrl" map) entry) ∧
    (∀ e, ofMapping join? map = .error e → IsRefusal e) ∧
    (∀ targets, ofMapping join? map = .ok targets →
      targets.map Prod.fst = (references.filterMap name?).eraseDups ∧
      (∀ name, Assoc.get? name targets =
        (references.filter fun entry => name? entry = some name).getLast?.map
          (target join? (field? "baseUrl" map))) ∧
      (∀ name target, Assoc.get? name targets = some target →
        target.title ≠ [] ∧ target.href ≠ some []) ∧
      ∀ (content : Forest QName) (raw : Text) (names typeNames : Option (List Text))
        (source : Option (Text → Recorded Failure (Option Text)))
        (keyword : Option (Text → Option Text)) (attributes : List (QName × Text)) (cref : Text),
        RefersTo (Fragment.localAttributes attributes) cref →
        let p := (Member.ofContent content).provider raw ⟨targets, names, typeNames⟩
        (∃ link : Html, link.print = spelled targets cref ∧
          ∀ rest, renderNodes (p.resolvers source keyword)
            (.element "see".toList (Fragment.localAttributes attributes) .nil rest) = (do
              Recorded.ask (.reference cref)
              let others ← renderNodes (p.resolvers source keyword) rest
              Recorded.pure (link :: others))) ∧
        ∀ e space c, readContent? raw = some content →
          (Member.outermost content "summary".toList).head? = some e →
          e.children = .element ⟨space, "see".toList⟩ attributes .nil .nil →
          (p.build source keyword).outcome = .ok c → c.summary = some (spelled targets cref)) ∧
    ∀ (t : FileTree) (file : List Text) (text : Text) (value : Value), t.text file = .ok text →
      Yaml.read (Mime.split text).2 = .ok value → value.entries? = some map →
      (load t file).outcome = ofMapping Url.join? map := by
  refine ⟨⟨fun ⟨_, htargets⟩ => (sound_of_ofMapping hreferences htargets).1,
      fun hsound => ⟨_, ofMapping_eq_ok hreferences hsound⟩⟩,
    fun e he => (ofMapping_eq_error hreferences he).1, ?_, ?_⟩
  · intro targets htargets
    have hkeys : targets.map Prod.fst = (references.filterMap name?).eraseDups := by
      rw [(sound_of_ofMapping hreferences htargets).2, Assoc.keys_ofList, keys_described,
        Assoc.distinct_eq_eraseDups]
    have hget : ∀ name, Assoc.get? name targets =
        (references.filter fun entry => name? entry = some name).getLast?.map
          (target join? (field? "baseUrl" map)) := by
      intro name
      rw [(sound_of_ofMapping hreferences htargets).2, get?_described]
    have hne : ∀ name target, Assoc.get? name targets = some target →
        target.title ≠ [] ∧ target.href ≠ some [] := by
      intro name target htarget
      rw [hget] at htarget
      rcases Option.map_eq_some_iff.1 htarget with ⟨entry, hlast, rfl⟩
      have hname := (List.mem_filter.1 (List.mem_of_getLast? hlast)).2
      exact target_ne_nil (of_decide_eq_true hname)
    refine ⟨hkeys, hget, hne, ?_⟩
    intro content raw names typeNames source keyword attributes cref hcref p
    have hspelled := @print_linkOrSpan p targets cref rfl
      fun target htarget => (hne _ target htarget).2
    refine ⟨⟨_, hspelled, renderNodes_see rfl hcref⟩, ?_⟩
    intro e space c hraw he hchildren hc
    rw [← hspelled]
    exact summary_of_reference hraw he hchildren hcref hc
  · intro t file text value htext hread hentries
    have hmapping : Config.readMapping (.referencesNotMapping (Path.print file))
        (Mime.split text).2 = .ok map := by
      rw [Config.readMapping, hread]
      simp only [hentries]
    rw [outcome_load, htext]
    change (Config.readMapping _ (Mime.split text).2 >>= _) = _
    rw [hmapping]
    rfl

/-- A text, an entry whose uid is zero, one whose uid is a number, and two of one uid, of which the
second has a relative address. -/
theorem ofMapping_serves_last :
    let text := Config.textValue
    let map := [(text "baseUrl", text "https://x.org/"),
      (text "references", Value.list [text "N.A", .map [(text "uid", .int 0)],
        .map [(text "uid", .int 7), (text "name", .bool false)],
        .map [(text "uid", text "N.A"), (text "name", text "A")],
        .map [(text "uid", text "N.A"), (text "fullName", text "A<T>"), (text "href", text "a#t")]])]
    let raw := "<summary><see cref='T:N.A'/></summary>".toList
    let content : Forest QName := .element ⟨none, "summary".toList⟩ []
      (.element ⟨none, "see".toList⟩ [(⟨none, "cref".toList⟩, "T:N.A".toList)] .nil .nil) .nil
    ∃ targets, ofMapping Url.join? map = .ok targets ∧
      targets.map Prod.fst = ["7".toList, "N.A".toList] ∧
      Assoc.get? "7".toList targets = some ⟨"7".toList, none⟩ ∧
      readContent? raw = some content ∧
      ∃ c, (((Member.ofContent content).provider raw ⟨targets, none, none⟩).build
          none none).outcome = .ok c ∧
        c.summary = some "<a class=\"xref\" href=\"https://x.org/a#t\">A&lt;T&gt;</a>".toList := by
  intro text map raw content
  have hreferences : (Assoc.get? (Config.textValue "references") map).bind Value.items? =
      some _ := rfl
  have hloads : (ofMapping Url.join? map).toOption = some
      [("7".toList, ⟨"7".toList, none⟩),
        ("N.A".toList, ⟨"A<T>".toList, some "https://x.org/a#t".toList⟩)] := by decide +kernel
  have htargets := eq_ok_of_toOption hloads
  rcases ofMapping_serves Url.join? hreferences with ⟨_, _, hserves, _⟩
  rcases hserves _ htargets with ⟨hkeys, hget, _, hshown⟩
  have hcref : RefersTo (Fragment.localAttributes [(⟨none, "cref".toList⟩, "T:N.A".toList)])
      "T:N.A".toList := ⟨by decide, by decide, by decide, by decide⟩
  have hraw : readContent? raw = some content := by decide +kernel
  have hsource : ∀ load ∈ (none : Option (Text → Recorded Failure (Option Text))),
      ∀ id, ∃ code, (load id).outcome = .ok code := by simp
  rcases (Member.provider_isReadable hraw ⟨_, none, none⟩).build_succeeds hsource none with ⟨c, hc⟩
  have hsummary := (hshown content raw none none none none _ _ hcref).2 _ none c hraw rfl rfl hc
  refine ⟨_, htargets, ?_, rfl, hraw, c, hc, hsummary.trans ?_⟩
  · rw [hkeys]
    decide +kernel
  · decide +kernel

/-- A name that is an integer of more digits than are written keeps a map from being loaded. -/
theorem ofMapping_refuses_long :
    let text := Config.textValue
    let map := [(text "references", Value.list [.map [(text "uid", text "a")],
      .map [(text "uid", text "b"), (text "name", .int (10 ^ 4300))]])]
    ¬ ∃ targets, ofMapping Url.join? map = .ok targets := by
  intro text map
  have hloads : (ofMapping Url.join? map).toOption = none := by decide +kernel
  rintro ⟨targets, htargets⟩
  rw [htargets] at hloads
  cases hloads

end LinkMap
end DocMarkup
