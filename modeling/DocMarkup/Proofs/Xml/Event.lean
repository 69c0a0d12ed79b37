import DocMarkup.Proofs.Xml.Token
import DocMarkup.Xml.Event

/-!
# Events of sound tokens

Entities are replaced by text that is read by the same rules, so whatever is declared, no event
holds a character that a document may not hold. Where nothing is declared, every token is one event
of its own.

Main definitions:

- {lit}`Xml.IsSoundTag`: a tag with names of a kind and values of characters.
- {lit}`Xml.Declarations.IsSound`: declarations whose defaults are such.

Main results:

- Theorem {lit}`Xml.Declarations.events?_isSound`: the events of sound tokens are sound.
- Theorem {lit}`Xml.Declarations.events?_append`: the events of a run of tokens, part by part.
- Theorem {lit}`Xml.Declarations.attributes?_none`: written attributes are read back where nothing
  is declared. -/

namespace DocMarkup
namespace Xml

variable {isName : Text → Prop}

/-! ## Sound events -/

/-- A tag with names of a kind and values of characters that a document may hold. -/
def IsSoundTag (isName : Text → Prop) (name : Text) (attributes : List (Text × Text)) : Prop :=
  isName name ∧ ∀ e ∈ attributes, isName e.1 ∧ IsRun e.2

/-- An event made of sound parts. -/
def Event.IsSound (isName : Text → Prop) : Event → Prop
  | .text run => IsRun run
  | .startTag name attributes => IsSoundTag isName name attributes
  | .endTag _ => True

/-- Declarations whose default values belong to names of a kind and hold no other characters than a
document may. -/
def Declarations.IsSound (isName : Text → Prop) (d : Declarations) : Prop :=
  ∀ entry ∈ d.attributeRules, ∀ rule ∈ entry.2, ∀ value ∈ rule.default?,
    isName rule.name ∧ IsRun value

/-- What is done to each member of a list can be said of all that comes of it. -/
theorem forall_of_mapM {α β : Type} {f : α → Option β} {P : β → Prop} {l : List α} {l' : List β}
    (h : l.mapM f = some l') (hf : ∀ a ∈ l, ∀ b, f a = some b → P b) : ∀ b ∈ l', P b := by
  induction l generalizing l' with
  | nil =>
    obtain rfl : [] = l' := by simpa using h
    simp
  | cons a l ih =>
    simp only [List.mapM_cons, Option.bind_eq_bind, Option.bind_eq_some_iff, Option.pure_def,
      Option.some.injEq] at h
    rcases h with ⟨b, hb, others, hothers, rfl⟩
    exact List.forall_mem_cons.2
      ⟨hf a (by simp) b hb, ih hothers fun a' ha' => hf a' (by simp [ha'])⟩

/-- Runs side by side are a run. -/
theorem IsRun.flatten {texts : List Text} (h : ∀ s ∈ texts, IsRun s) : IsRun texts.flatten := by
  intro c hc
  rcases List.mem_flatten.1 hc with ⟨s, hs, hcs⟩
  exact h s hs c hcs

/-- Squeezing adds no character. -/
theorem mem_of_mem_squeeze {c : Char} {s : Text} (hc : c ∈ Declarations.squeeze s) : c ∈ s := by
  induction s with
  | nil => simp [Declarations.squeeze] at hc
  | cons d rest ih =>
    by_cases hd : d = ' '
    · subst hd
      rw [Declarations.squeeze] at hc
      split at hc
      · simp at hc
      · next e more hrest =>
        rw [hrest] at ih
        split at hc
        · exact List.mem_cons_of_mem _ (ih hc)
        · rcases List.mem_cons.1 hc with rfl | hc
          · simp
          · exact List.mem_cons_of_mem _ (ih hc)
    · rw [Declarations.squeeze] at hc
      · rcases List.mem_cons.1 hc with rfl | hc
        · simp
        · exact List.mem_cons_of_mem _ (ih hc)
      · exact hd

/-- A list of tokens is made of characters of the value that it is read from. -/
theorem IsRun.tokenList {value : Text} (h : IsRun value) : IsRun (Declarations.tokenList value) :=
  fun c hc => h c (mem_of_mem_squeeze ((List.dropWhile_sublist _).subset hc))

namespace Declarations

variable {d : Declarations}

/-- The text of a sound piece is a run. -/
theorem pieceText?_isRun (fuel : Nat) {within : List Text} {piece : Piece} {s : Text}
    (hpiece : piece.IsSound) (h : d.pieceText? fuel within piece = some s) : IsRun s := by
  induction fuel generalizing within piece s with
  | zero =>
    cases piece with
    | char c =>
      obtain rfl : [c] = s := by simpa [pieceText?] using h
      simpa [IsRun, Piece.IsSound] using hpiece
    | entity name => simp [pieceText?] at h
  | succ fuel ih =>
    cases piece with
    | char c =>
      obtain rfl : [c] = s := by simpa [pieceText?] using h
      simpa [IsRun, Piece.IsSound] using hpiece
    | entity name =>
      rw [pieceText?] at h
      split at h
      · simp at h
      · split at h
        · split at h
          · obtain rfl : [] = s := by simpa using h
            simp [IsRun]
          · simp at h
        · simp at h
        · simp only [Option.bind_eq_bind, Option.bind_eq_some_iff, Option.some.injEq] at h
          rcases h with ⟨pieces, hpieces, texts, htexts, rfl⟩
          have hsound := (valuePieces?_eq_some CharRule.replacement_isLawful hpieces).2
          exact .flatten (forall_of_mapM htexts fun p hp s hs => ih (hsound p hp) hs)

/-- The value that sound pieces make is a run. -/
theorem value?_isRun {pieces : List Piece} {value : Text} (hpieces : ∀ p ∈ pieces, p.IsSound)
    (h : d.value? pieces = some value) : IsRun value := by
  rcases Option.map_eq_some_iff.1 h with ⟨texts, htexts, rfl⟩
  exact .flatten (forall_of_mapM htexts fun p hp s hs => pieceText?_isRun _ (hpieces p hp) hs)

/-- Normalizing a value leaves a run. -/
theorem normalize_isRun {rules : List AttributeRule} {name value : Text} (h : IsRun value) :
    IsRun (normalize rules name value) := by
  unfold normalize
  split
  · split
    · exact h.tokenList
    · exact h
  · exact h

/-- The rules for an element are among those declared. -/
theorem mem_of_get?_rules {element : Text} {rules : List AttributeRule}
    {entries : List (Text × List AttributeRule)} (h : Assoc.get? element entries = some rules) :
    ∃ entry ∈ entries, entry.2 = rules := by
  induction entries with
  | nil => simp [Assoc.get?] at h
  | cons entry entries ih =>
    rw [Assoc.get?] at h
    split at h
    · exact ⟨entry, by simp, Option.some.inj h⟩
    · rcases ih h with ⟨entry', hmem, hrules⟩
      exact ⟨entry', by simp [hmem], hrules⟩

/-- The attributes of a sound tag are sound, the declared defaults included. -/
theorem attributes?_isSound (hd : d.IsSound isName) {element : Text}
    {written : List (Text × List Piece)} {attributes : List (Text × Text)}
    (hwritten : ∀ e ∈ written, isName e.1 ∧ ∀ p ∈ e.2, p.IsSound)
    (h : d.attributes? element written = some attributes) :
    ∀ e ∈ attributes, isName e.1 ∧ IsRun e.2 := by
  simp only [attributes?, Option.bind_eq_bind, Option.bind_eq_some_iff, Option.some.injEq] at h
  rcases h with ⟨given, hgiven, rfl⟩
  intro e he
  rcases List.mem_append.1 he with he | he
  · refine forall_of_mapM (P := fun e => isName e.1 ∧ IsRun e.2) hgiven ?_ e he
    intro e he e' he'
    rcases Option.map_eq_some_iff.1 he' with ⟨value, hvalue, rfl⟩
    exact ⟨(hwritten e he).1, normalize_isRun (value?_isRun (hwritten e he).2 hvalue)⟩
  · rcases List.mem_filterMap.1 he with ⟨rule, hrule, hdefault⟩
    cases hrules : Assoc.get? element d.attributeRules with
    | none => simp [hrules] at hrule
    | some rules =>
      rcases mem_of_get?_rules hrules with ⟨entry, hentry, rfl⟩
      rw [hrules, Option.getD_some] at hrule
      split at hdefault
      · next value hvalue =>
        split at hdefault
        · simp at hdefault
        · obtain rfl : (rule.name, value) = e := by simpa using hdefault
          exact hd entry hentry rule hrule value hvalue
      · simp at hdefault

/-- A character is text of its own. -/
@[simp] theorem tokenEvents?_char (fuel : Nat) (within : List Text) (c : Char) :
    d.tokenEvents? fuel within (.piece (.char c)) = some [.text [c]] := by
  cases fuel <;> rfl

/-- A section is text. -/
@[simp] theorem tokenEvents?_literal (fuel : Nat) (within : List Text) (run : Text) :
    d.tokenEvents? fuel within (.literal run) = some [.text run] := by
  cases fuel <;> rfl

/-- A start tag begins an element with the attributes that it has after all. -/
@[simp] theorem tokenEvents?_startTag (fuel : Nat) (within : List Text) (name : Text)
    (attributes : List (Text × List Piece)) :
    d.tokenEvents? fuel within (.startTag name attributes) =
      (d.attributes? name attributes).map fun attributes => [.startTag name attributes] := by
  cases fuel <;> rfl

/-- An end tag ends an element. -/
@[simp] theorem tokenEvents?_endTag (fuel : Nat) (within : List Text) (name : Text) :
    d.tokenEvents? fuel within (.endTag name) = some [.endTag name] := by
  cases fuel <;> rfl

/-- The events of a sound token are sound. -/
theorem tokenEvents?_isSound (hd : d.IsSound isName)
    (hstandard : ∀ raw, IsQualified .standard raw → isName raw) (fuel : Nat) {rule : CharRule}
    (hnames : ∀ raw, IsQualified rule raw → isName raw) {within : List Text} {token : Token}
    {events : List Event} (htoken : token.IsSound rule)
    (h : d.tokenEvents? fuel within token = some events) : ∀ e ∈ events, e.IsSound isName := by
  cases token with
  | literal run =>
    obtain rfl : [.text run] = events := by simpa using h
    exact List.forall_mem_singleton.2 htoken
  | startTag name attributes =>
    rcases Option.map_eq_some_iff.1 (tokenEvents?_startTag .. ▸ h) with ⟨all, hall, rfl⟩
    have hwritten : ∀ e ∈ attributes, isName e.1 ∧ ∀ p ∈ e.2, p.IsSound :=
      fun e he => ⟨hnames _ (htoken.2 e he).1, (htoken.2 e he).2⟩
    exact List.forall_mem_singleton.2 ⟨hnames _ htoken.1, attributes?_isSound hd hwritten hall⟩
  | endTag name =>
    obtain rfl : [.endTag name] = events := by simpa using h
    simp [Event.IsSound]
  | piece p =>
    cases p with
    | char c =>
      obtain rfl : [.text [c]] = events := by simpa using h
      exact List.forall_mem_singleton.2 (List.forall_mem_singleton.2 htoken)
    | entity name =>
      cases fuel with
      | zero => simp [tokenEvents?] at h
      | succ fuel =>
        rw [tokenEvents?] at h
        split at h
        · simp at h
        · split at h
          · simp only [Option.bind_eq_bind, Option.bind_eq_some_iff] at h
            rcases h with ⟨tokens, htokens, lists, hlists, h⟩
            split at h
            · obtain rfl : lists.flatten = events := by simpa using h
              -- a replacement has standard names, whatever the rule of the document
              have hsound := (lexes_of_tokensWithin? htokens).isSound CharRule.replacement_isLawful
              have hreplaced : ∀ raw, IsQualified .replacement raw → isName raw :=
                fun raw hraw => hstandard raw hraw.standard
              have hall : ∀ list ∈ lists, ∀ e ∈ list, e.IsSound isName :=
                forall_of_mapM hlists fun t ht list hlist =>
                  tokenEvents?_isSound hd hstandard fuel hreplaced (hsound t ht) hlist
              intro e he
              rcases List.mem_flatten.1 he with ⟨list, hmem, he⟩
              exact hall list hmem e he
            · simp at h
          · simp at h
termination_by fuel

/-- The events of sound tokens are sound. -/
theorem events?_isSound (hd : d.IsSound isName)
    (hstandard : ∀ raw, IsQualified .standard raw → isName raw) {rule : CharRule}
    (hnames : ∀ raw, IsQualified rule raw → isName raw) {tokens : List Token}
    {events : List Event} (htokens : ∀ t ∈ tokens, t.IsSound rule)
    (h : d.events? tokens = some events) : ∀ e ∈ events, e.IsSound isName := by
  rcases Option.map_eq_some_iff.1 h with ⟨lists, hlists, rfl⟩
  have hall : ∀ list ∈ lists, ∀ e ∈ list, e.IsSound isName :=
    forall_of_mapM hlists fun t ht list hlist =>
      tokenEvents?_isSound hd hstandard _ hnames (htokens t ht) hlist
  intro e he
  rcases List.mem_flatten.1 he with ⟨list, hmem, he⟩
  exact hall list hmem e he

/-! ## Tokens side by side -/

/-- The events of a run of tokens, part by part. -/
theorem events?_append (a b : List Token) :
    d.events? (a ++ b) =
      (d.events? a).bind fun first => (d.events? b).map fun second => first ++ second := by
  simp only [events?, List.mapM_append]
  cases a.mapM (d.tokenEvents? (d.entities.length + 1) []) with
  | none => rfl
  | some first =>
    cases b.mapM (d.tokenEvents? (d.entities.length + 1) []) with
    | none => rfl
    | some second => simp

/-- The events of a token alone. -/
theorem events?_singleton (token : Token) :
    d.events? [token] = d.tokenEvents? (d.entities.length + 1) [] token := by
  simp only [events?, List.mapM_cons, List.mapM_nil]
  cases d.tokenEvents? (d.entities.length + 1) [] token with
  | none => rfl
  | some events => simp

/-! ## Where nothing is declared -/

/-- Where nothing is declared, there is no default that could be unsound. -/
theorem none_isSound : Declarations.none.IsSound isName := by
  simp [IsSound, Declarations.none]

/-- Where nothing is declared, a value of characters is those characters. -/
theorem value?_none (value : Text) : Declarations.none.value? (value.map .char) = some value := by
  have htexts : (value.map Piece.char).mapM (Declarations.none.pieceText? 1 []) =
      some (value.map fun c => [c]) := by
    induction value with
    | nil => rfl
    | cons c value ih =>
      rw [List.map_cons, List.mapM_cons, ih]
      rfl
  show ((value.map Piece.char).mapM (Declarations.none.pieceText? 1 [])).map List.flatten = _
  rw [htexts]
  simp [List.flatten_eq_flatMap, List.flatMap_map]

/-- Characters that are read one by one are text. -/
theorem events?_charTokens (run : Text) :
    d.events? (charTokens run) = some (run.map fun c => .text [c]) := by
  induction run with
  | nil => rfl
  | cons c run ih =>
    rw [charTokens, List.map_cons, ← List.singleton_append, events?_append, events?_singleton,
      tokenEvents?_char, Option.bind_some, show List.map _ run = charTokens run from rfl, ih]
    rfl

/-- Where nothing is declared, an element has the attributes that are written. -/
theorem attributes?_none (element : Text) (attributes : List (Text × Text)) :
    Declarations.none.attributes? element
      (attributes.map fun e => (e.1, e.2.map .char)) = some attributes := by
  let written : List (Text × List Piece) := attributes.map fun e => (e.1, e.2.map .char)
  have hgiven : (written.mapM fun e =>
      (Declarations.none.value? e.2).map fun value => (e.1, normalize [] e.1 value)) =
      some attributes := by
    induction attributes with
    | nil => rfl
    | cons e attributes ih =>
      show List.mapM _ (_ :: _) = _
      rw [List.mapM_cons, ih]
      simp [value?_none, normalize]
  show (written.mapM fun e =>
    (Declarations.none.value? e.2).map fun value => (e.1, normalize [] e.1 value)).bind
      (fun given => some (given ++ [])) = _
  rw [hgiven]
  simp

end Declarations
end Xml
end DocMarkup
