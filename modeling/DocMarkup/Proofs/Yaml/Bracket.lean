import DocMarkup.Proofs.Yaml.Layout
import DocMarkup.Yaml.Node

/-!
# Brackets of documents

A node takes as many closing brackets as opening ones, and a reading only fails for what it has read
or for the fault behind the tokens. So tokens that are broken off, or leave a bracket open, are not
those of a document.

Main definitions:

- {lit}`Yaml.Yields`: what holds of a value, where nothing but a malformed text can fail.
- {lit}`Yaml.Parse.Spans`: a reading that takes some more closing brackets than opening ones.

Main results:

- Theorem {lit}`Yaml.Parse.spanned`: how many brackets the parts of a document take.
- Theorem {lit}`Yaml.documentOf?_of_broken`: no document has broken tokens.
-/

namespace DocMarkup
namespace Yaml

variable {α β : Type}

/-! ## Outcomes -/

/-- What holds of a value, or the text is malformed. -/
def Yields (P : α → Prop) : Except Fault α → Prop
  | .ok a => P a
  | .error e => e = .malformed

theorem Yields.bind {P : α → Prop} {Q : β → Prop} {x : Except Fault α} {f : α → Except Fault β}
    (h : Yields P x) (hf : ∀ a, P a → Yields Q (f a)) : Yields Q (x >>= f) := by
  cases x with
  | error e => exact h
  | ok a => exact hf a h

theorem Yields.map {P : α → Prop} {Q : β → Prop} {x : Except Fault α} (h : Yields P x) (f : α → β)
    (hf : ∀ a, P a → Q (f a)) : Yields Q (f <$> x) := by
  cases x with
  | error e => exact h
  | ok a => exact hf a h

theorem Yields.mono {P Q : α → Prop} {x : Except Fault α} (h : Yields P x)
    (hPQ : ∀ a, P a → Q a) : Yields Q x := by
  cases x with
  | error e => exact h
  | ok a => exact hPQ a h

/-! ## Readings -/

/-- One reading has come to another, and has taken some more closing brackets than opening ones. -/
structure Takes (closed : Nat) (r r' : Reading) : Prop where
  fault : r'.fault = r.fault
  tokens : ∃ taken, r.tokens = taken ++ r'.tokens ∧
    taken.countP Token.opens + closed = taken.countP Token.closes

theorem Takes.refl (r : Reading) : Takes 0 r r := ⟨rfl, [], rfl, rfl⟩

/-- A reading that goes on takes what both parts take. -/
theorem Takes.trans {d e : Nat} {r r' r'' : Reading} (h : Takes d r r') (h' : Takes e r' r'') :
    Takes (d + e) r r'' := by
  rcases h.tokens with ⟨taken, htokens, hclosed⟩
  rcases h'.tokens with ⟨taken', htokens', hclosed'⟩
  refine ⟨h'.fault.trans h.fault, taken ++ taken', ?_, ?_⟩
  · rw [htokens, htokens', List.append_assoc]
  · rw [List.countP_append, List.countP_append]
    omega

namespace Parse

/-- Whatever stands behind the tokens, the text is malformed there. -/
def Halts (r : Reading) : Prop := r.fault.getD .malformed = .malformed

/-- A reading that takes some more closing brackets than opening ones. -/
def Spans (closed : Nat) (p : Parse α) : Prop :=
  ∀ r, Halts r → Yields (fun x => Takes closed r x.2) (p r)

/-- The same where the next token is known. -/
def SpansAt (t : Token) (closed : Nat) (p : Parse α) : Prop :=
  ∀ r, r.tokens.head? = some t → Halts r → Yields (fun x => Takes closed r x.2) (p r)

variable {d e : Nat} {p q : Parse α} {t : Token}

theorem Spans.at (h : Spans d p) (t : Token) : SpansAt t d p := fun r _ => h r

theorem spans_pure (a : α) : Spans 0 (Parse.pure a) := fun r _ => .refl r

theorem spans_fail : Spans d (Parse.fail : Parse α) := fun _ _ => rfl

theorem Spans.bind {f : α → Parse β} (h : Spans d p) (hf : ∀ a, Spans e (f a)) :
    Spans (d + e) (p >>= f) := by
  intro r hr
  have hfirst := h r hr
  show Yields _ (Parse.bind p f r)
  unfold Parse.bind
  cases hp : p r with
  | error fault => rwa [hp] at hfirst
  | ok x =>
    rw [hp] at hfirst
    have hx : Takes d r x.2 := hfirst
    have hsecond := hf x.1 x.2 (by rw [Halts, hx.fault]; exact hr)
    dsimp only
    cases hq : f x.1 x.2 with
    | error fault => rwa [hq] at hsecond
    | ok y =>
      rw [hq] at hsecond
      exact hx.trans hsecond

/-- What is read depends on the next token. -/
theorem spans_peek {f : Token → Parse β} (hf : ∀ t, SpansAt t d (f t)) :
    Spans d (Parse.peek >>= f) := by
  intro r hr
  show Yields _ (Parse.bind Parse.peek f r)
  unfold Parse.bind Parse.peek
  cases htokens : r.tokens with
  | nil => exact hr
  | cons t rest => exact hf t r (by rw [htokens, List.head?_cons]) hr

/-- The next token is passed over. -/
theorem Spans.skip {f : Unit → Parse β} (h : Spans e (f ()))
    (hd : [t].countP Token.opens + d = e + [t].countP Token.closes) :
    SpansAt t d (Parse.skip >>= f) := by
  intro r htokens hr
  rcases List.head?_eq_some_iff.1 htokens with ⟨rest, hrest⟩
  have hskip := h { r with tokens := r.tokens.tail } hr
  show Yields _ (f () { r with tokens := r.tokens.tail })
  cases hf : f () { r with tokens := r.tokens.tail } with
  | error fault => rwa [hf] at hskip
  | ok x =>
    rw [hf] at hskip
    have hx : Takes e { r with tokens := r.tokens.tail } x.2 := hskip
    rcases hx.tokens with ⟨taken, htaken, hclosed⟩
    rw [hrest, List.tail_cons] at htaken
    refine ⟨hx.fault, [t] ++ taken, by rw [hrest]; exact congrArg (t :: ·) htaken, ?_⟩
    rw [List.countP_append, List.countP_append]
    omega

/-- A reading that takes no token. -/
theorem spans_of_tokens {p : Parse α}
    (h : ∀ r, Yields (fun x => x.2.fault = r.fault ∧ x.2.tokens = r.tokens) (p r)) : Spans 0 p := by
  intro r _
  have hr := h r
  cases hp : p r with
  | error fault => rwa [hp] at hr
  | ok x =>
    rw [hp] at hr
    exact ⟨hr.1, [], by rw [hr.2]; rfl, rfl⟩

theorem spans_wholeTag (handle : Option Text) (suffix : Text) : Spans 0 (wholeTag handle suffix) := by
  refine spans_of_tokens fun r => ?_
  unfold wholeTag
  split
  · exact ⟨rfl, rfl⟩
  · split
    · exact ⟨rfl, rfl⟩
    · rfl

theorem spans_register (anchor : Option Text) (n : Node) : Spans 0 (register anchor n) := by
  refine spans_of_tokens fun r => ?_
  unfold register
  dsimp only
  split
  · exact ⟨rfl, rfl⟩
  · split
    · rfl
    · exact ⟨rfl, rfl⟩

theorem spans_lookup (name : Text) : Spans 0 (lookup name) := by
  refine spans_of_tokens fun r => ?_
  unfold lookup
  split
  · rfl
  · exact ⟨rfl, rfl⟩

/-- A collection takes the tokens of its parts. -/
theorem Spans.collection {parts : Parse (List α)} (h : Spans d parts) (anchor : Option Text)
    (kind : Kind) (content : List α → Content) : Spans d (collection anchor kind content parts) := by
  have henter : ∀ number, Spans 0 (collection.enter number) := fun number =>
    spans_of_tokens fun r => ⟨rfl, rfl⟩
  have hleave : ∀ number c, Spans 0 (collection.leave number c) := fun number c =>
    spans_of_tokens fun r => ⟨rfl, rfl⟩
  have hall := (spans_register anchor ⟨kind, content []⟩).bind fun number =>
    (henter number).bind fun _ => h.bind fun parts => hleave number (content parts)
  rwa [Nat.add_zero, Nat.zero_add, Nat.zero_add] at hall

theorem spans_absent : Spans 0 absent := spans_register none _

theorem Spans.orAbsent {p : Parse Nat} (h : Spans 0 p) (ends : Token → Bool) :
    Spans 0 (orAbsent ends p) := by
  refine spans_peek fun t => Spans.at ?_ t
  split
  · exact spans_absent
  · exact h

theorem spans_comma (first : Bool) : Spans 0 (comma first) := by
  unfold comma
  split
  · exact spans_pure ()
  · refine spans_peek fun t => ?_
    split
    · exact (spans_pure ()).skip rfl
    · exact spans_fail.at _

/-! ## Nodes -/

theorem spans_properties : Spans 0 properties := by
  refine spans_peek fun t => ?_
  split
  · refine (spans_peek (d := 0) fun t => ?_).skip rfl
    split
    · exact ((spans_wholeTag _ _).bind fun _ => spans_pure _).skip rfl
    · exact (spans_pure _).at _
  · refine (spans_peek (d := 0) fun t => ?_).skip rfl
    split
    · exact ((spans_wholeTag _ _).bind fun _ => spans_pure _).skip rfl
    · exact ((spans_wholeTag _ _).bind fun _ => spans_pure _).at _
  · exact (spans_pure _).at _

theorem spans_scalarNode (anchor tag : Option Text) (isPlain : Bool) (content : Text) :
    Spans 0 (scalarNode anchor tag isPlain content) := spans_register _ _

theorem spans_propertiesOnly (anchor tag : Option Text) : Spans 0 (propertiesOnly anchor tag) := by
  unfold propertiesOnly
  split
  · exact spans_fail
  · exact spans_scalarNode _ _ _ _

theorem Spans.sequenceNode {items : Parse (List Nat)} (h : Spans d items)
    (anchor tag : Option Text) : Spans d (sequenceNode anchor tag items) := h.collection _ _ _

theorem Spans.mappingNode {entries : Parse (List (Nat × Nat))} (h : Spans d entries)
    (anchor tag : Option Text) : Spans d (mappingNode anchor tag entries) := h.collection _ _ _

/-- How many brackets the parts of a document take. The opening bracket of a collection has been taken
in front of its items. -/
structure Spanned (fuel : Nat) : Prop where
  node : ∀ place, Spans 0 (node fuel place)
  content : ∀ place anchor tag, Spans 0 (content fuel place anchor tag)
  blockItems : Spans 0 (blockItems fuel)
  indentlessItems : Spans 0 (indentlessItems fuel)
  blockEntries : Spans 0 (blockEntries fuel)
  blockValue : Spans 0 (blockValue fuel)
  flowItems : ∀ first, Spans 1 (flowItems fuel first)
  flowPair : Spans 0 (flowPair fuel)
  flowEntries : ∀ first, Spans 1 (flowEntries fuel first)
  flowValue : Spans 0 (flowValue fuel)

variable {fuel : Nat}

theorem Spanned.node_succ (h : Spanned fuel) (place : Place) :
    Spans 0 (Yaml.node (fuel + 1) place) := by
  rw [Yaml.node]
  refine spans_peek fun t => ?_
  split
  · exact (spans_lookup _).skip rfl
  · exact (spans_properties.bind fun x => h.content place x.1 x.2).at _

theorem Spanned.content_succ (h : Spanned fuel) (place : Place) (anchor tag : Option Text) :
    Spans 0 (Yaml.content (fuel + 1) place anchor tag) := by
  rw [Yaml.content]
  refine spans_peek fun t => ?_
  split
  · exact (spans_scalarNode _ _ _ _).skip rfl
  · exact ((h.flowItems true).sequenceNode _ _).skip rfl
  · exact ((h.flowEntries true).mappingNode _ _).skip rfl
  · split
    · exact (spans_propertiesOnly _ _).at _
    · exact (h.blockItems.sequenceNode _ _).skip rfl
  · split
    · exact (spans_propertiesOnly _ _).at _
    · exact (h.blockEntries.mappingNode _ _).skip rfl
  · split
    · exact (h.indentlessItems.sequenceNode _ _).at _
    · exact (spans_propertiesOnly _ _).at _
  · exact (spans_propertiesOnly _ _).at _

theorem Spanned.blockItems_succ (h : Spanned fuel) : Spans 0 (Yaml.blockItems (fuel + 1)) := by
  rw [Yaml.blockItems]
  refine spans_peek fun t => ?_
  split
  · exact (((h.node .block).orAbsent _).bind fun _ => h.blockItems.bind fun _ =>
      spans_pure _).skip rfl
  · exact (spans_pure _).skip rfl
  · exact spans_fail.at _

theorem Spanned.indentlessItems_succ (h : Spanned fuel) :
    Spans 0 (Yaml.indentlessItems (fuel + 1)) := by
  rw [Yaml.indentlessItems]
  refine spans_peek fun t => ?_
  split
  · exact (((h.node .block).orAbsent _).bind fun _ => h.indentlessItems.bind fun _ =>
      spans_pure _).skip rfl
  · exact (spans_pure _).at _

theorem Spanned.blockEntries_succ (h : Spanned fuel) : Spans 0 (Yaml.blockEntries (fuel + 1)) := by
  rw [Yaml.blockEntries]
  refine spans_peek fun t => ?_
  split
  · exact (((h.node .blockItem).orAbsent _).bind fun _ => h.blockValue.bind fun _ =>
      h.blockEntries.bind fun _ => spans_pure _).skip rfl
  · exact (spans_pure _).skip rfl
  · exact spans_fail.at _

theorem Spanned.blockValue_succ (h : Spanned fuel) : Spans 0 (Yaml.blockValue (fuel + 1)) := by
  rw [Yaml.blockValue]
  refine spans_peek fun t => ?_
  split
  · exact ((h.node .blockItem).orAbsent _).skip rfl
  · exact spans_absent.at _

theorem Spanned.flowItems_succ (h : Spanned fuel) (first : Bool) :
    Spans 1 (Yaml.flowItems (fuel + 1) first) := by
  rw [Yaml.flowItems]
  refine spans_peek fun t => ?_
  split
  · exact (spans_pure _).skip rfl
  · refine Spans.at ((spans_comma first).bind fun _ => spans_peek (d := 1) fun t => ?_) _
    split
    · exact (spans_pure _).skip rfl
    · exact ((h.flowPair.mappingNode _ _).bind fun _ => (h.flowItems false).bind fun _ =>
        spans_pure _).skip rfl
    · exact ((h.node .flow).bind fun _ => (h.flowItems false).bind fun _ => spans_pure _).at _

theorem Spanned.flowPair_succ (h : Spanned fuel) : Spans 0 (Yaml.flowPair (fuel + 1)) := by
  rw [Yaml.flowPair]
  exact ((h.node .flow).orAbsent _).bind fun _ => h.flowValue.bind fun _ => spans_pure _

theorem Spanned.flowEntries_succ (h : Spanned fuel) (first : Bool) :
    Spans 1 (Yaml.flowEntries (fuel + 1) first) := by
  rw [Yaml.flowEntries]
  refine spans_peek fun t => ?_
  split
  · exact (spans_pure _).skip rfl
  · refine Spans.at ((spans_comma first).bind fun _ => spans_peek (d := 1) fun t => ?_) _
    split
    · exact (spans_pure _).skip rfl
    · exact (((h.node .flow).orAbsent _).bind fun _ => h.flowValue.bind fun _ =>
        (h.flowEntries false).bind fun _ => spans_pure _).skip rfl
    · exact ((h.node .flow).bind fun _ => spans_absent.bind fun _ =>
        (h.flowEntries false).bind fun _ => spans_pure _).at _

theorem Spanned.flowValue_succ (h : Spanned fuel) : Spans 0 (Yaml.flowValue (fuel + 1)) := by
  rw [Yaml.flowValue]
  refine spans_peek fun t => ?_
  split
  · exact ((h.node .flow).orAbsent _).skip rfl
  · exact spans_absent.at _

/-- Nodes take as many closing brackets as opening ones, and what is in brackets the one that closes
it. -/
theorem spanned (fuel : Nat) : Spanned fuel := by
  induction fuel with
  | zero =>
    refine ⟨fun _ => ?_, fun _ _ _ => ?_, ?_, ?_, ?_, ?_, fun _ => ?_, ?_, fun _ => ?_, ?_⟩ <;>
      exact spans_fail
  | succ fuel ih =>
    exact ⟨ih.node_succ, ih.content_succ, ih.blockItems_succ, ih.indentlessItems_succ,
      ih.blockEntries_succ, ih.blockValue_succ, ih.flowItems_succ, ih.flowPair_succ,
      ih.flowEntries_succ, ih.flowValue_succ⟩

end Parse

/-! ## Documents -/

/-- Tokens that end the text, with all brackets closed. -/
structure Whole (tokens : List Token) : Prop where
  ends : tokens.any Token.isLast = true
  closed : tokens.countP Token.opens = tokens.countP Token.closes

/-- Tokens that close all brackets may stand in front of others. -/
theorem Whole.append {taken tokens : List Token} (h : Whole tokens)
    (htaken : taken.countP Token.opens = taken.countP Token.closes) : Whole (taken ++ tokens) := by
  refine ⟨by rw [List.any_append, h.ends, Bool.or_true], ?_⟩
  rw [List.countP_append, List.countP_append, htaken, h.closed]

/-- A token that is no bracket may stand in front of others. -/
theorem Whole.cons {t : Token} {tokens : List Token} (h : Whole tokens)
    (ht : [t].countP Token.opens = [t].countP Token.closes) : Whole (t :: tokens) :=
  h.append ht

theorem Takes.whole {r r' : Reading} (h : Takes 0 r r') (hwhole : Whole r'.tokens) :
    Whole r.tokens := by
  rcases h.tokens with ⟨taken, htokens, hclosed⟩
  rw [htokens]
  exact hwhole.append hclosed

/-- Directives hold no brackets. -/
theorem directives_yields (tokens : List Token) (versionGiven : Bool)
    (handles : List (Text × Text)) :
    Yields (fun x => Whole x.2 → Whole tokens) (directives tokens versionGiven handles) := by
  fun_induction directives tokens versionGiven handles with
  | case1 => rfl
  | case2 major rest versionGiven handles hgiven ih => exact ih.mono fun _ h hw => (h hw).cons rfl
  | case3 => rfl
  | case4 name expansion rest versionGiven handles hknown ih =>
    exact ih.mono fun _ h hw => (h hw).cons rfl
  | case5 rest versionGiven handles ih => exact ih.mono fun _ h hw => (h hw).cons rfl
  | case6 => exact id

/-- The marks that end a document are no brackets. -/
theorem whole_of_afterDocumentEnds {tokens : List Token} (h : Whole (afterDocumentEnds tokens)) :
    Whole tokens := by
  fun_induction afterDocumentEnds tokens with
  | case1 rest ih => exact (ih h).cons rfl
  | case2 => exact h

/-- A text only ends where its tokens do. -/
theorem endStream_yields {tokens : List Token} {fault : Option Fault}
    (hfault : fault.getD .malformed = .malformed) :
    Yields (fun _ => Whole tokens) (endStream tokens fault) := by
  unfold endStream
  split
  · next hends =>
    exact whole_of_afterDocumentEnds (hends ▸ ⟨rfl, rfl⟩)
  · refine (directives_yields _ _ _).bind fun x _ => ?_
    show (if x.2.isEmpty then fault.getD .malformed else .malformed) = Fault.malformed
    rw [hfault, ite_self]

/-- A document that is read ends its tokens, with all brackets closed. -/
theorem readDocument_yields {read : Nat → Parse Nat} (hread : ∀ fuel, Parse.Spans 0 (read fuel))
    {r : Reading} (hr : Parse.Halts r) :
    Yields (fun _ => Whole r.tokens) (readDocument read r) := by
  unfold readDocument
  refine (hread _ r hr).bind fun x hx => ?_
  refine (endStream_yields (by rw [hx.fault]; exact hr)).bind fun _ hwhole => ?_
  exact hx.whole hwhole

theorem spans_block (fuel : Nat) : Parse.Spans 0 (node fuel .block) :=
  (Parse.spanned fuel).node .block

/-- A document behind directives, or behind its mark, ends its tokens, with all brackets closed. -/
theorem marked_yields {tokens : List Token} {fault : Option Fault}
    (hfault : fault.getD .malformed = .malformed) :
    Yields (fun _ => Whole tokens) (do
      let (handles, rest) ← directives tokens false []
      match rest with
      | .documentStart :: rest =>
        some <$> readDocument (fun fuel => orAbsent endsDocument (node fuel .block))
          ⟨rest, fault, handles, [], .empty, [], false⟩
      | _ => .error (if rest.isEmpty then fault.getD .malformed else .malformed)) := by
  refine (directives_yields _ _ _).bind ?_
  rintro ⟨handles, rest⟩ hdirectives
  dsimp only at hdirectives ⊢
  split
  · refine Yields.map (readDocument_yields (fun fuel => (spans_block fuel).orAbsent _) ?_) _
      fun _ hwhole => ?_
    · exact hfault
    · exact hdirectives (hwhole.cons rfl)
  · show (if rest.isEmpty then fault.getD .malformed else .malformed) = Fault.malformed
    rw [hfault, ite_self]

/-- A text with a document, or with none, ends with its tokens, and all brackets are closed. -/
theorem documentOf?_yields {s : Text} (hfault : (layout s).2.getD .malformed = .malformed) :
    Yields (fun _ => Whole (layout s).1) (documentOf? s) := by
  unfold documentOf?
  generalize layout s = x at hfault
  rcases x with ⟨tokens, fault⟩
  dsimp only at hfault ⊢
  split
  · exact ⟨rfl, rfl⟩
  · exact marked_yields hfault
  · exact marked_yields hfault
  · refine Yields.map (readDocument_yields spans_block ?_) _ fun _ hwhole => hwhole
    exact hfault

/-- No document has broken tokens. -/
theorem documentOf?_of_broken {s : Text} (h : Layout.Broken (layout s)) :
    documentOf? s = .error .malformed := by
  have hyields := documentOf?_yields (s := s)
  have hwhole : ¬ Whole (layout s).1 := by
    rintro ⟨hends, hclosed⟩
    generalize layout s = x at h hends hclosed
    cases h with
    | malformed tokens hgoesOn => simp [hgoesOn] at hends
    | bracket tokens hdepth => exact hdepth hclosed
  have hfault : (layout s).2.getD .malformed = .malformed := by
    generalize layout s = x at h
    cases h <;> rfl
  have hdocument := hyields hfault
  generalize documentOf? s = x at hdocument
  cases x with
  | error e => exact congrArg _ hdocument
  | ok d => exact absurd hdocument hwhole

end Yaml
end DocMarkup
