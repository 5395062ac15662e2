import JavaLauncher.Text.Segments

/-!
# White space

The characters with the Unicode property `White_Space`, and the two things done with them:
dropping them from the front of a text and cutting a text into words at them.
-/
namespace JavaLauncher.Text

/-- A character with the property `White_Space`. -/
def isBlank (c : Char) : Bool :=
  ('\t' ≤ c && c ≤ '\r') || c == ' ' || c == '\u0085' || c == '\u00a0' || c == '\u1680' ||
    ('\u2000' ≤ c && c ≤ '\u200a') || c == '\u2028' || c == '\u2029' || c == '\u202f' ||
    c == '\u205f' || c == '\u3000'

/-- A text without the white space at its front. -/
def trimFront (text : String) : String := String.ofList (text.toList.dropWhile isBlank)

/-- The maximal runs of a text that are free of white space, in order. -/
def blankWords (text : String) : List String := fields isBlank text

/-- The characters left after trimming the front. -/
@[simp] theorem toList_trimFront (text : String) :
    (trimFront text).toList = text.toList.dropWhile isBlank := String.toList_ofList

end JavaLauncher.Text
