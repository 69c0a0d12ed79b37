import DocMarkup.Encoding.Name
import DocMarkup.Proofs.Trace

/-!
# Which faults an encoding has

Most encodings find bytes that are not theirs at a place, and count them as damaged. A few refuse
bytes without a place: UTF-16 and UTF-32 without an order, when no mark shows it; the numbers of
Punycode; a set that is called for behind a single escape; and the encoding that has no texts.

Main definitions:

- {lit}`Encoding.onlyDamages`: whether every fault of an encoding is damage.

Main results:

- Theorem {lit}`Encoding.eq_damaged`: the encodings whose faults are all damage.
- Theorem {lit}`Encoding.refuses_iff`: among the encodings with a name there are no others.
-/

namespace DocMarkup

open Encoding (Fault orDamaged)

/-! ## Damage -/

/-- Whatever is read, no fault but damage is met. -/
def OnlyDamaged {α : Type} (x : Except Fault α) : Prop := ∀ fault, x = .error fault → fault = .damaged

namespace OnlyDamaged

variable {α β : Type} {x : Except Fault α}

/-- What is read meets no fault. -/
theorem ok (a : α) : OnlyDamaged (.ok a) := by
  intro fault h
  cases h

/-- Damage is damage. -/
theorem damaged : OnlyDamaged (.error .damaged : Except Fault α) := by
  rintro fault ⟨⟩
  rfl

/-- What cannot be read is damaged. -/
theorem orDamaged (read : Option α) : OnlyDamaged (orDamaged read) := by
  cases read with
  | none => exact damaged
  | some a => exact ok a

/-- One reading after another meets what both of them do. -/
theorem bind (hx : OnlyDamaged x) {f : α → Except Fault β} (hf : ∀ a, OnlyDamaged (f a)) :
    OnlyDamaged (x >>= f) := by
  cases x with
  | error fault => exact fun _ h => hx fault rfl ▸ (Except.error.inj h).symm
  | ok a => exact hf a

/-- A function of what is read meets no fault. -/
theorem map (hx : OnlyDamaged x) (f : α → β) : OnlyDamaged (f <$> x) := by
  cases x with
  | error fault => exact fun _ h => hx fault rfl ▸ (Except.error.inj h).symm
  | ok a => exact ok (f a)

end OnlyDamaged

/-- Without a third set, bytes of ISO 2022 are damaged at a place. -/
theorem Iso2022.decodeFrom_onlyDamaged {v : Iso2022} (hthird : v.hasThird = false) (fuel : Nat)
    (s : Shift) (bytes : Bytes) : OnlyDamaged (v.decodeFrom fuel s bytes) := by
  induction fuel generalizing s bytes with
  | zero =>
    rw [decodeFrom]
    exact .ok []
  | succ fuel ih =>
    cases bytes with
    | nil =>
      rw [decodeFrom]
      exact .ok []
    | cons b bytes =>
      have hplain : ∀ s bytes, OnlyDamaged
          ((fun text => Char.ofNat b.toNat :: text) <$> v.decodeFrom fuel s bytes) :=
        fun s bytes => (ih s bytes).map _
      unfold decodeFrom
      simp only [hthird, Bool.false_and, Bool.false_eq_true, if_false]
      split
      · exact hplain _ _
      split
      · cases bytes with
        | nil => exact .damaged
        | cons c rest =>
          simp only
          split
          · exact (OnlyDamaged.orDamaged _).bind fun cut =>
              (OnlyDamaged.orDamaged _).bind fun s => ih s cut.2
          · exact hplain _ _
      split
      · exact ih _ _
      split
      · exact ih _ _
      split
      · exact hplain _ _
      split
      · exact hplain _ _
      split
      · exact .damaged
      · exact (OnlyDamaged.orDamaged _).bind fun read => (ih s read.2).map _

namespace Encoding

/-- Whether every fault of an encoding is damage. -/
def onlyDamages : Encoding → Bool
  | utf16 none | utf32 none | punycode | undefined => false
  | iso2022 v => !v.hasThird
  | _ => true

/-- An encoding whose faults are all damage finds no others. -/
theorem eq_damaged {e : Encoding} (he : e.onlyDamages = true) (bytes : Bytes) :
    OnlyDamaged (e.decode bytes) := by
  cases e with
  | utf16 order =>
    cases order with
    | none => cases he
    | some order => exact .orDamaged _
  | utf32 order =>
    cases order with
    | none => cases he
    | some order => exact .orDamaged _
  | iso2022 v => exact Iso2022.decodeFrom_onlyDamaged (by simpa [onlyDamages] using he) _ _ _
  | escaped codePointsOnly => cases codePointsOnly <;> exact .orDamaged _
  | punycode => cases he
  | undefined => cases he
  | _ => exact .orDamaged _

/-- Bytes that some encodings refuse without a place where they are damaged. -/
def refusedSamples : List Bytes :=
  [[0x61, 0], [0x61, 0, 0, 0], [0x2D, 0x21], [0x1B, 0x2E, 0x4A, 0x1B, 0x4E, 0x41]]

/-- Every other encoding of the register refuses some bytes without a place where they are damaged. -/
theorem refuses_samples : ∀ entry ∈ register, entry.2.2.onlyDamages = false →
    ∃ bytes ∈ refusedSamples, ∃ fault ∈ [Fault.orderUnknown, .refused, .misplacedSet],
      failure? (entry.2.2.decode bytes) = some fault := by
  decide +kernel

/-- The encoding of a name is in the register. -/
theorem exists_of_named? {name : Text} {e : Encoding} (h : named? name = some e) :
    ∃ entry ∈ register, entry.2.2 = e := by
  have hfound : ∀ test : String × List String × Encoding → Bool,
      ((register.find? test).map fun entry => entry.2.2) = some e →
        ∃ entry ∈ register, entry.2.2 = e := by
    intro test htest
    rcases Option.map_eq_some_iff.1 htest with ⟨entry, hentry, rfl⟩
    exact ⟨entry, List.mem_of_find?_eq_some hentry, rfl⟩
  rcases Option.or_eq_some_iff.1 h with hother | ⟨_, h⟩
  · exact hfound _ hother
  · rcases Option.or_eq_some_iff.1 h with hdotted | ⟨_, hstandard⟩
    · exact hfound _ hdotted
    · exact hfound _ hstandard

/-- An encoding with a name refuses some bytes without a place where they are damaged, unless every
fault of it is damage. -/
theorem refuses_iff {name : Text} {e : Encoding} (h : named? name = some e) :
    (∃ bytes fault, e.decode bytes = .error fault ∧ fault ≠ .damaged) ↔ e.onlyDamages = false := by
  constructor
  · rintro ⟨bytes, fault, hfault, hother⟩
    cases honly : e.onlyDamages with
    | false => rfl
    | true => exact absurd (eq_damaged honly bytes fault hfault) hother
  · intro honly
    rcases exists_of_named? h with ⟨entry, hentry, rfl⟩
    rcases refuses_samples entry hentry honly with ⟨bytes, _, fault, hmem, hfault⟩
    refine ⟨bytes, fault, eq_error_of_failure? hfault, ?_⟩
    rintro rfl
    exact absurd hmem (by decide)

end Encoding
end DocMarkup
