import DocMarkup.Proofs.Comment.Answers
import DocMarkup.Proofs.Comment.Stages
import DocMarkup.Proofs.Fragment.Outermost
import DocMarkup.Proofs.Region.Missing

/-!
# Sources that are asked for

A source is asked for by the attribute of an element, so its name is made of characters that a
document may hold, and NUL is none of them. A build whose markup is accepted succeeds exactly when
every source that it asks for can be loaded: a load that fails ends the build at once, with the same
failure, and any other load goes on.

Main definitions:

- {lit}`Recorded.AsksFor`: every source that a computation asks for satisfies a property.
- {lit}`Recorded.FailsOn`: a computation fails as the load of a source does that it asks for.

Main results:

- Theorem {lit}`Provider.build_asksFor`: the names of the sources that a build asks for.
- Theorem {lit}`Provider.build_failsOn`: a build fails with a load.
- Theorem {lit}`Provider.IsReadable.build_succeeds_of_asked`: a build goes on with its loads.
-/

namespace DocMarkup

open Recorded (IsComposed)

variable {ε : Type} {p : Text → Prop} {r : Resolvers ε}

/-! ## Computations -/

namespace Recorded

variable {α β : Type} {x : Recorded ε α}

/-- Every source that a computation asks for satisfies a property. -/
def AsksFor (p : Text → Prop) (x : Recorded ε α) : Prop :=
  ∀ id, .source id ∈ x.trace.questions → p id

/-- A computation without questions asks for no source. -/
theorem asksFor_of_eq_nil (h : x.trace.questions = []) : x.AsksFor p := by
  intro id hid
  rw [h] at hid
  cases hid

/-- A question asks for the source that it is about, if it is about one. -/
theorem asksFor_ask {q : Question} (hq : ∀ id, q = .source id → p id) :
    (ask q : Recorded ε Unit).AsksFor p :=
  fun id hid => hq id (List.mem_singleton.1 hid).symm

/-- A computation asks for what its two steps do. -/
theorem AsksFor.bind (hx : x.AsksFor p) {f : α → Recorded ε β} (hf : ∀ a, (f a).AsksFor p) :
    (x >>= f).AsksFor p := by
  refine trace_bind (q := fun trace => ∀ id, Question.source id ∈ trace.questions → p id)
    (fun s t hs ht id hid => ?_) hx hf
  exact (List.mem_append.1 hid).elim (hs id) (ht id)

/-- What a computation asks for comes from its steps. -/
theorem asksFor_isComposed (p : Text → Prop) :
    IsComposed fun _ (x _ : Recorded ε _) => x.AsksFor p where
  pure _ := asksFor_of_eq_nil rfl
  fail _ := asksFor_of_eq_nil rfl
  bind hx hf := hx.bind hf

/-- Steps in order ask for what each of them does. -/
theorem asksFor_inOrder {l : List (Recorded ε Unit)} (h : ∀ x ∈ l, x.AsksFor p) :
    (inOrder l).AsksFor p := by
  induction l with
  | nil => exact asksFor_of_eq_nil rfl
  | cons x l ih =>
    rcases List.forall_mem_cons.1 h with ⟨hx, hl⟩
    exact hx.bind fun _ => ih hl

/-- Leaving the value out does not change what is asked for. -/
theorem asksFor_discard : x.discard.AsksFor p ↔ x.AsksFor p := by
  rw [AsksFor, trace_discard, AsksFor]

/-- A computation fails as the load of a source does that it asks for. -/
def FailsOn (load : Text → Recorded ε (Option Text)) (x : Recorded ε α) : Prop :=
  ∀ id e, .source id ∈ x.trace.questions → (load id).outcome = .error e → x.outcome = .error e

variable {load : Text → Recorded ε (Option Text)}

/-- A computation that asks for no source fails with no load. -/
theorem AsksFor.failsOn (hx : x.AsksFor fun _ => False) : x.FailsOn load :=
  fun id _ hid _ => (hx id hid).elim

/-- A computation fails with the loads of its two steps. -/
theorem FailsOn.bind (hx : x.FailsOn load) {f : α → Recorded ε β} (hf : ∀ a, (f a).FailsOn load) :
    (x >>= f).FailsOn load := by
  show (Recorded.bind x f).FailsOn load
  unfold Recorded.bind
  cases houtcome : x.outcome with
  | error failure =>
    intro id e hid hload
    exact congrArg Except.error (Except.error.inj (houtcome.symm.trans (hx id e hid hload)))
  | ok a =>
    intro id e hid hload
    rcases List.mem_append.1 hid with hid | hid
    · -- the first step has gone on, so it has met no failing load
      exact absurd (houtcome.symm.trans (hx id e hid hload)) (by simp)
    · exact hf a id e hid hload

/-- A failing load ends whatever is composed of steps that it ends. -/
theorem failsOn_isComposed (load : Text → Recorded ε (Option Text)) :
    IsComposed fun _ (x _ : Recorded ε _) => x.FailsOn load where
  pure _ := (asksFor_of_eq_nil rfl).failsOn
  fail _ := (asksFor_of_eq_nil rfl).failsOn
  bind hx hf := hx.bind hf

end Recorded

/-! ## Elements -/

/-- Looking for a region asks nothing. -/
theorem Region.questions_extract (id : Text) (region : Option Text) (code : Text) :
    (extract id region code : Recorded ε Text).trace.questions = [] :=
  congrArg Trace.questions (trace_extract id region code)

/-- The sources do not ask for anything themselves. -/
def Resolvers.Quiet (r : Resolvers ε) : Prop :=
  ∀ load ∈ r.source, ∀ id, (load id).trace.questions = []

namespace Resolvers

open Recorded (asksFor_of_eq_nil asksFor_ask)

/-- What comes behind a source that is loaded asks nothing. -/
theorem extract_asksFor (id : Text) (region code? : Option Text) :
    (match code? with
      | none => .pure none
      | some code => some <$> Region.extract id region code : Recorded ε (Option Text)).AsksFor p := by
  cases code? with
  | none => exact asksFor_of_eq_nil rfl
  | some code =>
    exact (Recorded.asksFor_isComposed p).map (y := Region.extract id region code)
      (asksFor_of_eq_nil (Region.questions_extract id region code)) some

/-- A question to the resolver of sources asks for one source. -/
theorem askSource_asksFor (hr : r.Quiet) {id : Text} (hid : p id) (region : Option Text) :
    (r.askSource id region).AsksFor p := by
  unfold askSource
  cases hsource : r.source with
  | none => exact asksFor_of_eq_nil rfl
  | some load =>
    refine (asksFor_ask fun other hother => ?_).bind fun _ =>
      (asksFor_of_eq_nil (hr load hsource id)).bind fun code? => extract_asksFor id region code?
    exact Question.source.inj hother ▸ hid

/-- A question to the resolver of keywords asks for no source. -/
theorem askKeyword_asksFor (r : Resolvers ε) (word : Text) : (r.askKeyword word).AsksFor p := by
  unfold askKeyword
  cases r.keyword with
  | none => exact asksFor_of_eq_nil rfl
  | some resolve => exact (asksFor_ask (by simp)).bind fun _ => asksFor_of_eq_nil rfl

/-- A question to the resolver of symbols asks for no source. -/
theorem askReference_asksFor (resolve : Text → Text × Option Text) (id : Text) :
    (askReference resolve id : Recorded ε _).AsksFor p :=
  (asksFor_ask (by simp)).bind fun _ => asksFor_of_eq_nil rfl

/-- A question to the resolver of sources fails as the load does. -/
theorem askSource_failsOn {load : Text → Recorded ε (Option Text)} (hsource : r.source = some load)
    (hload : ∀ id, (load id).trace.questions = []) (id : Text) (region : Option Text) :
    (r.askSource id region).FailsOn load := by
  intro other e hother hfails
  have hr : r.Quiet := by
    intro load' hload'
    obtain rfl := Option.some.inj (hsource.symm.trans hload')
    exact hload
  obtain rfl : other = id := askSource_asksFor hr (p := (· = id)) rfl region other hother
  unfold askSource
  rw [hsource]
  exact (Recorded.outcome_bind (a := ()) rfl _).trans (Recorded.outcome_bind_error hfails _)

/-- Every question fails with the load that it asks for. -/
theorem related_failsOn {load : Text → Recorded ε (Option Text)}
    (reference : Option (Text → Text × Option Text)) (keyword : Option (Text → Option Text))
    (hload : ∀ id, (load id).trace.questions = []) :
    Related (fun _ (x _ : Recorded ε _) => x.FailsOn load) ⟨reference, some load, keyword⟩
      ⟨reference, some load, keyword⟩ where
  reference := by
    cases reference with
    | none => exact .none
    | some resolve => exact .some fun id => (askReference_asksFor resolve id).failsOn
  source := askSource_failsOn rfl hload
  keyword word := (askKeyword_asksFor _ word).failsOn

/-- Without sources, nothing asks for a source. -/
theorem related_without (r : Resolvers ε) :
    Related (fun _ (x _ : Recorded ε _) => x.AsksFor p) { r with source := none }
      { r with source := none } where
  reference := by
    cases r.reference with
    | none => exact .none
    | some resolve => exact .some (askReference_asksFor resolve)
  source _ _ := asksFor_of_eq_nil rfl
  keyword word := askKeyword_asksFor _ word

end Resolvers

/-- An element asks for the source that its attribute names, beside what its children ask for. -/
theorem renderElement_asksFor (hr : r.Quiet) {tag : Text} {attributes : List (Text × Text)}
    (hattributes : ∀ entry ∈ attributes, p entry.2) {parts parts' : Parts ε}
    (hparts : parts.Related (fun _ (x _ : Recorded ε _) => x.AsksFor p) parts') :
    (renderElement r attributes parts tag).AsksFor p := by
  have hR := Recorded.asksFor_isComposed (ε := ε) p
  -- only a program listing asks for sources, so all others may do without them
  have hother : (renderElement { r with source := none } attributes parts tag).AsksFor p :=
    renderElement_related hR r.related_without hparts tag
  unfold renderElement at hother ⊢
  cases hkind : Kind.of tag with
  | code =>
    show (renderCode r attributes parts).AsksFor p
    unfold renderCode
    cases hsource : attribute? attributes "source" with
    | none => exact hparts.whole.bind fun _ => Recorded.asksFor_of_eq_nil rfl
    | some source =>
      have hid : p source := hattributes _ (Assoc.mem_of_get? hsource)
      exact (Resolvers.askSource_asksFor hr hid _).bind fun _ => Recorded.asksFor_of_eq_nil rfl
  | _ =>
    rw [hkind] at hother
    exact hother

/-! ## Fragments -/

/-- What an attribute of a fragment holds satisfies a property. -/
def Fragment.HasValues (p : Text → Prop) (f : Fragment) : Prop :=
  f.Forall (fun _ => True) fun _ attributes => ∀ entry ∈ attributes, p entry.2

namespace Fragment

variable {f : Fragment}

/-- A fragment asks for sources that its attributes name. -/
theorem asksFor_related (hr : r.Quiet) (hf : f.HasValues p) :
    f.Related (fun _ (x _ : Recorded ε _) => x.AsksFor p) r r :=
  related_of_elements (Recorded.asksFor_isComposed p)
    (fun _ _ _ _ hattributes hparts => renderElement_asksFor hr hattributes hparts) hf

/-- The attributes of content are attributes of its fragment. -/
theorem ofContent_hasValues {isLocal : Text → Prop} {content : Forest Xml.QName}
    (hcontent : content.Forall (Xml.isChar · = true) (Xml.IsSoundElement isLocal)) :
    (ofContent content).HasValues Xml.IsRun := by
  induction content with
  | nil => trivial
  | text run rest ih => exact ⟨fun _ _ => trivial, ih hcontent.2⟩
  | element name attributes children rest ihChildren ihRest =>
    refine ⟨?_, ihChildren hcontent.2.1, ihRest hcontent.2.2⟩
    refine Assoc.forall_ofList ?_
    intro entry hentry
    rcases List.mem_map.1 hentry with ⟨named, hnamed, rfl⟩
    exact (hcontent.1.soundAttributes named hnamed).2

/-- The attributes of parsed markup hold characters that a document may hold. -/
theorem parse?_hasValues {raw : Text} (h : parse? raw = some f) : f.HasValues Xml.IsRun := by
  rcases Option.map_eq_some_iff.1 h with ⟨content, hcontent, rfl⟩
  exact ofContent_hasValues (Xml.readContent?_isContent hcontent).1

end Fragment

/-! ## Markup -/

section Markup

variable {r : Resolvers Failure} (hr : r.Quiet) (raw : Text)
include hr

/-- Rendered markup asks for sources whose names a document may hold. -/
theorem formatMarkup_asksFor : (formatMarkup r raw).AsksFor Xml.IsRun := by
  unfold formatMarkup parseMarkup
  cases hparse : Fragment.parse? raw with
  | none => exact Recorded.asksFor_of_eq_nil rfl
  | some f =>
    exact (Fragment.asksFor_related hr (Fragment.parse?_hasValues hparse)).format
      (Recorded.asksFor_isComposed _)

/-- The links of markup ask for sources whose names a document may hold. -/
theorem seeAlsosOfMarkup_asksFor : (seeAlsosOfMarkup r raw).AsksFor Xml.IsRun := by
  have hR := Recorded.asksFor_isComposed (ε := Failure) Xml.IsRun
  unfold seeAlsosOfMarkup parseMarkup
  cases hparse : Fragment.parse? raw with
  | none => exact Recorded.asksFor_of_eq_nil rfl
  | some f =>
    have hvalues := Fragment.parse?_hasValues hparse
    have helements : ∀ e ∈ seeAlsoElements f, (seeAlso? r e).AsksFor Xml.IsRun := by
      intro e he
      have hinside := hvalues.of_mem_descendants
        (Fragment.mem_descendants_of_mem_seeAlsoElements he)
      exact seeAlso?_related hR (Fragment.asksFor_related hr hinside.2)
    have hlinks : (Recorded.each (seeAlso? r) (seeAlsoElements f)).AsksFor Xml.IsRun :=
      hR.each (g := seeAlso? r) helements
    exact hR.map (y := Recorded.each (seeAlso? r) (seeAlsoElements f)) hlinks _

end Markup

/-! ## Builds -/

namespace Provider

variable {source : Option (Text → Recorded Failure (Option Text))}
  {keyword : Option (Text → Option Text)}

/-- A build asks for sources whose names a document may hold, when loading does not ask. -/
theorem build_asksFor (p : Provider) (hr : (p.resolvers source keyword).Quiet) :
    (p.build source keyword).AsksFor Xml.IsRun := by
  rw [← Recorded.asksFor_discard, discard_build]
  refine Recorded.asksFor_inOrder fun run hrun => ?_
  rcases List.mem_map.1 hrun with ⟨step, hstep, rfl⟩
  rcases List.mem_append.1 hstep with hfield | hfull
  · rcases List.mem_map.1 hfield with ⟨raw, _, rfl⟩
    exact Recorded.asksFor_discard.2 (formatMarkup_asksFor hr raw)
  · obtain rfl := List.mem_singleton.1 hfull
    exact Recorded.asksFor_discard.2 (seeAlsosOfMarkup_asksFor hr p.full)

variable {load : Text → Recorded Failure (Option Text)}

/-- A build fails as the load of a source does that it asks for. -/
theorem build_failsOn (p : Provider) (hload : ∀ id, (load id).trace.questions = [])
    (keyword : Option (Text → Option Text)) : (p.build (some load) keyword).FailsOn load :=
  build_related (Recorded.failsOn_isComposed load) (Resolvers.related_failsOn _ keyword hload)

/-- The load of a source, with nothing in place of a failure. -/
def guarded (load : Text → Recorded Failure (Option Text)) (id : Text) :
    Recorded Failure (Option Text) :=
  match (load id).outcome with
  | .ok _ => load id
  | .error _ => .pure none

/-- A guarded load does not fail. -/
theorem guarded_succeeds (load : Text → Recorded Failure (Option Text)) (id : Text) :
    ∃ code, (guarded load id).outcome = .ok code := by
  unfold guarded
  cases hload : (load id).outcome with
  | ok code => exact ⟨code, hload⟩
  | error e => exact ⟨none, rfl⟩

/-- A load that goes on need not be guarded. -/
theorem guarded_eq {id : Text} {code : Option Text} (hload : (load id).outcome = .ok code) :
    guarded load id = load id := by
  unfold guarded
  rw [hload]

/-- A build whose markup can be read goes on when every source that it asks for can be loaded. -/
theorem IsReadable.build_succeeds_of_asked {p : Provider} (hp : p.IsReadable)
    (keyword : Option (Text → Option Text))
    (hasked : ∀ id, .source id ∈ (p.build (some load) keyword).trace.questions →
      ∃ code, (load id).outcome = .ok code) :
    ∃ c, (p.build (some load) keyword).outcome = .ok c := by
  have hagree : ∀ q ∈ (p.build (some load) keyword).trace.questions,
      AgreeOn p.lookup p.lookup (some load) (some (guarded load)) keyword keyword q := by
    intro q hq
    cases q with
    | reference id => rfl
    | keyword word => rfl
    | source id =>
      rcases hasked id hq with ⟨code, hcode⟩
      show some (load id) = some (guarded load id)
      rw [guarded_eq hcode]
  -- no load that is asked for fails, so the run is the one in which none at all can
  have hguarded : p.build (some (guarded load)) keyword = p.build (some load) keyword :=
    build_eq_of_agreeOn rfl rfl hagree
  have hnever : ∀ other ∈ some (guarded load), ∀ id, ∃ code, (other id).outcome = .ok code := by
    intro other hother id
    obtain rfl := Option.some.inj hother
    exact guarded_succeeds load id
  rw [← hguarded]
  exact hp.build_succeeds hnever keyword

end Provider
end DocMarkup
