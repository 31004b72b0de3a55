import Translucency.Text.Spans

/-!
# Blank characters and trimming

What separates words: the characters of the Unicode class White_Space together with the four
information separators U+001C to U+001F. Every place that trims a text trims by this class; the
places with a narrower idea of a blank say so themselves.
-/

namespace Translucency.Text

def blankSpans : Spans := [
  (0x9, 0xd), (0x1c, 0x20), (0x85, 0x85), (0xa0, 0xa0), (0x1680, 0x1680), (0x2000, 0x200a),
  (0x2028, 0x2029), (0x202f, 0x202f), (0x205f, 0x205f), (0x3000, 0x3000)]

def isBlank (c : Char) : Bool := blankSpans.covers c.toNat

/-- A text without its leading blanks. -/
def trimLeft (s : List Char) : List Char := s.dropWhile isBlank

/-- A text without its trailing blanks. -/
def trimRight (s : List Char) : List Char := (trimLeft s.reverse).reverse

/-- A text without its leading and trailing blanks. -/
def trim (s : List Char) : List Char := trimRight (trimLeft s)

def trimmed (s : String) : String := String.ofList (trim s.toList)

/-- A text that starts with no blank is trimmed on the left. -/
theorem trimLeft_of_head {s : List Char} (h : ∀ c ∈ s.head?, isBlank c = false) :
    trimLeft s = s := by
  cases s with
  | nil => rfl
  | cons c s => simp [trimLeft, h c (by simp)]

/-- A text trimmed on the left starts with no blank. -/
theorem head?_trimLeft {s : List Char} {c : Char} (h : (trimLeft s).head? = some c) :
    isBlank c = false := by
  have := List.head?_dropWhile_not isBlank s
  rw [trimLeft] at h
  rwa [h] at this

/-- A text trimmed on the right ends with no blank. -/
theorem getLast?_trimRight {s : List Char} {c : Char} (h : (trimRight s).getLast? = some c) :
    isBlank c = false :=
  head?_trimLeft (s := s.reverse) (by rwa [trimRight, List.getLast?_reverse] at h)

@[simp] theorem trim_nil : trim [] = [] := rfl

end Translucency.Text
