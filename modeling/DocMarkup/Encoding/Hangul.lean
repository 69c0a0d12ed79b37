import DocMarkup.Encoding.Codes

/-!
# Hangul syllables

A syllable consists of a leading consonant, a vowel, and sometimes a trailing consonant. Unicode
orders the syllables by these parts.

Main definitions:

- {lit}`Hangul.leads`, {lit}`Hangul.vowels`, {lit}`Hangul.trails`: the letters by their numbers.
- {lit}`Hangul.syllable`: the syllable of its parts.
-/

namespace DocMarkup
namespace Hangul

/-- The leading consonants in order. -/
def leads : Text := "ㄱㄲㄴㄷㄸㄹㅁㅂㅃㅅㅆㅇㅈㅉㅊㅋㅌㅍㅎ".toList

/-- The vowels in order. -/
def vowels : Text := "ㅏㅐㅑㅒㅓㅔㅕㅖㅗㅘㅙㅚㅛㅜㅝㅞㅟㅠㅡㅢㅣ".toList

/-- The trailing consonants in order; the first number stands for none. -/
def trails : Text := "ㄱㄲㄳㄴㄵㄶㄷㄹㄺㄻㄼㄽㄾㄿㅀㅁㅂㅄㅅㅆㅇㅈㅊㅋㅌㅍㅎ".toList

/-- The number of the first syllable. -/
def first : Nat := 0xAC00

/-- The syllable of its parts by their numbers. -/
def syllable (lead vowel trail : Nat) : Char :=
  Char.ofNat (first + (lead * vowels.length + vowel) * (trails.length + 1) + trail)

end Hangul
end DocMarkup
