import DocMarkup.Proofs.Comment.Build
import DocMarkup.Proofs.Trace.Order

/-!
# The order of a build

Building reads one markup after another: the exceptions, the examples, the summary, the remarks, what
is returned, the parameters, the type parameters, and last the whole comment for its links. What is
read does not depend on what was rendered before, so a build is its steps in order, and the first
malformed markup is the one that is reported.

Main definitions:

- {lit}`Provider.fieldMarkup`: the markup of the fields, in the order in which it is rendered.
- {lit}`Provider.steps`: the steps of a build.

Main results:

- Theorem {lit}`Provider.discard_build`: a build is its steps in order.
- Theorem {lit}`Provider.build_inOrder`: a build does what its steps do up to the first malformed
  markup, and fails exactly on that.
-/

namespace DocMarkup

variable {r : Resolvers Failure}

/-! ## Fields -/

/-- The renderings of some markup in order, without that of empty markup. -/
def renderings (r : Resolvers Failure) (raws : List Text) : Recorded Failure Unit :=
  .inOrder ((raws.filter (· ≠ [])).map fun raw => (formatMarkup r raw).discard)

/-- Two lists of markup one after the other. -/
theorem renderings_append (raws raws' : List Text) :
    renderings r (raws ++ raws') = renderings r raws >>= fun _ => renderings r raws' := by
  simp only [renderings, List.filter_append, List.map_append, Recorded.inOrder_append]

/-- A field renders its markup, if there is any. -/
theorem discard_formatField (field : Option Text) :
    (formatField r field).discard = renderings r field.toList := by
  match field with
  | none => rfl
  | some [] => rfl
  | some (c :: raw) =>
    show (some <$> formatMarkup r (c :: raw)).discard = .inOrder [(formatMarkup r (c :: raw)).discard]
    rw [Recorded.discard_map, Recorded.inOrder_singleton]

/-- Fields render the markup of those that have any. -/
theorem discard_each_formatField {α : Type} (field : α → Option Text) (l : List α) :
    (Recorded.each (fun a => formatField r (field a)) l).discard =
      renderings r (l.filterMap field) := by
  rw [Recorded.discard_each]
  induction l with
  | nil => rfl
  | cons a l ih =>
    have hcons : (a :: l).filterMap field = (field a).toList ++ l.filterMap field := by
      cases hfield : field a with
      | none => rw [List.filterMap_cons_none hfield]; rfl
      | some raw => rw [List.filterMap_cons_some hfield]; rfl
    rw [hcons, renderings_append, List.map_cons, Recorded.inOrder, ih, discard_formatField]

/-- Named fields render the markup of the names that have any, as often as the names occur. -/
theorem discard_formatNamed (names : List Text) (text : Text → Option Text) :
    (formatNamed r names text).discard = renderings r (names.filterMap text) := by
  rw [formatNamed, Recorded.discard_map, Recorded.discard_each, ← discard_each_formatField,
    Recorded.discard_each]
  simp only [Recorded.discard_map]

/-! ## Steps -/

/-- A step of a build: the markup that is read, and what is done with it. -/
structure Step where
  markup : Text
  run : Recorded Failure Unit

namespace Provider

/-- The markup of the fields in the order in which it is looked at: the joined texts of each exception
at its first occurrence, the examples, the summary, the remarks, what is returned, and the text of
each parameter and type parameter, as often as it is declared. -/
def markup (p : Provider) : List Text :=
  p.exceptionTypes.eraseDups.map (fun type => Text.joinLines (p.exceptionTexts type)) ++
    p.examples ++ p.summary.toList ++ p.remarks.toList ++ p.returns.toList ++
    p.parameterNames.filterMap p.parameterText ++
    p.typeParameterNames.filterMap p.typeParameterText

/-- The markup of the fields in the order in which it is rendered: empty markup is left out. -/
def fieldMarkup (p : Provider) : List Text := p.markup.filter (· ≠ [])

/-- The steps of a build: the markup of each field is rendered, and the links of the whole comment
are rendered last, also when it is empty. -/
def steps (p : Provider) (r : Resolvers Failure) : List Step :=
  p.fieldMarkup.map (fun raw => ⟨raw, (formatMarkup r raw).discard⟩) ++
    [⟨p.full, (seeAlsosOfMarkup r p.full).discard⟩]

variable (p : Provider)

/-- The steps of a build are the renderings of its fields and, behind them, the links. -/
theorem inOrder_steps : .inOrder ((p.steps r).map Step.run) =
    renderings r (p.exceptionTypes.eraseDups.map fun type => Text.joinLines (p.exceptionTexts type))
      >>= fun _ => renderings r p.examples
      >>= fun _ => renderings r p.summary.toList
      >>= fun _ => renderings r p.remarks.toList
      >>= fun _ => renderings r p.returns.toList
      >>= fun _ => renderings r (p.parameterNames.filterMap p.parameterText)
      >>= fun _ => renderings r (p.typeParameterNames.filterMap p.typeParameterText)
      >>= fun _ => (seeAlsosOfMarkup r p.full).discard := by
  have hfields : .inOrder ((p.fieldMarkup.map fun raw => Step.mk raw
      (formatMarkup r raw).discard).map Step.run) = renderings r p.markup := by
    rw [List.map_map]
    rfl
  simp only [steps, List.map_append, Recorded.inOrder_append, hfields, markup, renderings_append,
    List.map_cons, List.map_nil, Recorded.inOrder_singleton, bind_assoc]

/-- A build is its steps in order. -/
theorem discard_build (source : Option (Text → Recorded Failure (Option Text)))
    (keyword : Option (Text → Option Text)) :
    (p.build source keyword).discard =
      .inOrder ((p.steps (p.resolvers source keyword)).map Step.run) := by
  have hexceptions : (formatNamed (p.resolvers source keyword) (Assoc.distinct p.exceptionTypes)
      fun type => some (Text.joinLines (p.exceptionTexts type))).discard =
        renderings (p.resolvers source keyword) (p.exceptionTypes.eraseDups.map
          fun type => Text.joinLines (p.exceptionTexts type)) := by
    rw [discard_formatNamed, Assoc.distinct_eq_eraseDups, ← List.filterMap_eq_map]
    rfl
  have hexamples : (Recorded.each (fun raw => formatField (p.resolvers source keyword) (some raw))
      p.examples).discard = renderings (p.resolvers source keyword) p.examples := by
    rw [discard_each_formatField, List.filterMap_some]
  rw [inOrder_steps]
  unfold build
  refine Recorded.discard_bind hexceptions fun exceptions => ?_
  refine Recorded.discard_bind hexamples fun examples => ?_
  refine Recorded.discard_bind (discard_formatField _) fun summary => ?_
  refine Recorded.discard_bind (discard_formatField _) fun remarks => ?_
  refine Recorded.discard_bind (discard_formatField _) fun returns => ?_
  refine Recorded.discard_bind (discard_formatNamed _ _) fun parameters => ?_
  refine Recorded.discard_bind (discard_formatNamed _ _) fun typeParameters => ?_
  simp only [Recorded.pure_eq, bind_pure_comp, Recorded.discard_map]

/-- What is done with accepted markup is done, and markup that is not accepted is a failure that names
it. -/
theorem discard_parseMarkup {α : Type} {act : Fragment → Recorded Failure α}
    (hact : ∀ f, ∃ a, (act f).outcome = .ok a) (raw : Text) :
    ((Fragment.parse? raw).isSome = true → (parseMarkup raw >>= act).discard.outcome = .ok ()) ∧
    ((Fragment.parse? raw).isSome = false →
      (parseMarkup raw >>= act).discard = .fail (.malformed raw none)) := by
  unfold parseMarkup
  cases Fragment.parse? raw with
  | none => exact ⟨fun h => absurd h (by decide), fun _ => rfl⟩
  | some f =>
    refine ⟨fun _ => ?_, fun h => absurd h (by simp)⟩
    rcases hact f with ⟨a, ha⟩
    have hbind : (Recorded.ofOption (.malformed raw none) (some f) >>= act) = act f := rfl
    rw [hbind, Recorded.outcome_discard, ha]
    rfl

/-- A step whose markup is accepted is done, and one whose markup is not fails with it. -/
theorem run_steps (hr : r.NeverFails) : ∀ step ∈ p.steps r,
    ((Fragment.parse? step.markup).isSome = true → step.run.outcome = .ok ()) ∧
    ((Fragment.parse? step.markup).isSome = false →
      step.run = .fail (.malformed step.markup none)) := by
  intro step hstep
  rcases List.mem_append.1 hstep with hfield | hfull
  · rcases List.mem_map.1 hfield with ⟨raw, _, rfl⟩
    exact discard_parseMarkup (formatFragment_succeeds hr) raw
  · obtain rfl := List.mem_singleton.1 hfull
    rcases Classical.axiomOfChoice (formatFragment_succeeds hr) with ⟨html, hhtml⟩
    exact discard_parseMarkup (collectSeeAlsos_succeeds hhtml) p.full

/-- A build does what its steps do, one after another, up to the first markup that is not accepted:
when all of it is accepted there is a comment, and otherwise the failure names that markup. The
questions that are asked, and the notices that are left behind, are those of the steps that were
done. -/
theorem build_inOrder (p : Provider) {source : Option (Text → Recorded Failure (Option Text))}
    (hsource : ∀ load ∈ source, ∀ id, ∃ code, (load id).outcome = .ok code)
    (keyword : Option (Text → Option Text)) :
    let steps := p.steps (p.resolvers source keyword)
    let accepted := fun step : Step => (Fragment.parse? step.markup).isSome
    let completed := steps.takeWhile accepted
    ((∀ step ∈ steps, accepted step) → ∃ c, (p.build source keyword).outcome = .ok c) ∧
    (∀ raw, (steps.find? fun step => !accepted step).map Step.markup = some raw →
      (p.build source keyword).outcome = .error (.malformed raw none)) ∧
    (p.build source keyword).trace =
      ⟨completed.flatMap fun step => step.run.trace.questions,
        completed.flatMap fun step => step.run.trace.notices⟩ := by
  intro steps accepted completed
  have hnever : (p.resolvers source keyword).NeverFails := hsource
  have hsteps := p.run_steps hnever
  have hbuild := (p.discard_build source keyword).trans
    (Recorded.inOrder_eq (fun step hstep => (hsteps step hstep).1)
      fun step hstep => (hsteps step hstep).2)
  have htrace := congrArg Recorded.trace hbuild
  have houtcome : (p.build source keyword).discard.outcome =
      (steps.find? fun step => !accepted step).elim (.ok ())
        fun step => .error (.malformed step.markup none) := congrArg Recorded.outcome hbuild
  rw [Recorded.trace_discard] at htrace
  refine ⟨fun haccepted => ?_, fun raw hraw => ?_, htrace⟩
  · have hnone : steps.find? (fun step => !accepted step) = none :=
      List.find?_eq_none.2 fun step hstep => by simp [haccepted step hstep]
    rw [hnone] at houtcome
    exact Recorded.succeeds_of_discard houtcome
  · rcases Option.map_eq_some_iff.1 hraw with ⟨step, hfind, rfl⟩
    rw [hfind] at houtcome
    exact Recorded.fails_of_discard houtcome

/-- Three malformed fields, of which the remarks are looked at first, behind an exception that is named
twice, an example and the summary. -/
theorem build_inOrder_malformed :
    let source : Option (Text → Recorded Failure (Option Text)) :=
      some fun _ => .pure (some "x".toList)
    let p : Provider :=
      { summary := some "<see cref='T:B'/>".toList
        remarks := some "<b>".toList
        returns := some "<i".toList
        examples := ["<code source='a.cs'/>".toList]
        parameterNames := ["x".toList, "x".toList]
        typeParameterNames := []
        exceptionTypes := ["T:E".toList, "T:E".toList]
        full := "&".toList
        parameterText := fun _ => some "<see langword='null'/>".toList
        typeParameterText := fun _ => none
        exceptionTexts := fun _ => ["<see cref='T:A'/>".toList]
        lookup := fun _ => none }
    (∀ load ∈ source, ∀ id, ∃ code, (load id).outcome = .ok code) ∧
      (p.build source none).outcome = .error (.malformed "<b>".toList none) ∧
      (p.build source none).trace.questions =
        [.reference "T:A".toList, .source "a.cs".toList, .reference "T:B".toList] := by
  intro source p
  have hsource : ∀ load ∈ source, ∀ id, ∃ code, (load id).outcome = .ok code := by
    intro load hload id
    obtain rfl := Option.some.inj hload
    exact ⟨_, rfl⟩
  rcases build_inOrder p hsource none with ⟨_, hfails, htrace⟩
  refine ⟨hsource, hfails _ (by decide +kernel), ?_⟩
  rw [htrace]
  decide +kernel

end Provider
end DocMarkup
