import Translucency.Mishap
import Translucency.Text.Lines

/-!
# Files

What stands at a path: nothing, a directory, or a file with the time of its last change and its
bytes. A file is read as UTF-8 text with its line ends unified.

A file that is read line by line is taken in pieces, and each piece is decoded when the lines before
it are used up. So where there are bytes that are no text, the lines that end in earlier pieces are
read before that is found out.
-/

namespace Translucency

/-- What stands at a path. -/
inductive File where
  | absent
  | directory (changed : Int)
  | file (changed : Int) (content : ByteArray)

namespace File

def changed? : File → Option Int
  | absent => none
  | directory changed => some changed
  | file changed _ => some changed

/-- The text that bytes encode, with its line ends unified. -/
def decode (content : ByteArray) : Except Mishap (List Char) :=
  match content.utf8Decode? with
  | some chars => .ok (Text.unifyBreaks chars.toList)
  | none => .error .undecodable

def ofText (changed : Int) (text : String) : File := file changed text.toUTF8

/-- The bytes of a text encode it. -/
theorem decode_toUTF8 (text : String) :
    decode text.toUTF8 = .ok (Text.unifyBreaks text.toList) := by
  have hdecode : text.toUTF8.utf8Decode? = some text.toList.toArray := by
    rw [← List.utf8Decode?_utf8Encode, String.utf8Encode_toList]
    rfl
  unfold decode
  rw [hdecode]

/-! ## Line by line -/

/-- The number of bytes that are taken from a file at a time. -/
def pieceSize : Nat := 8192

/-- Bytes that may be missing from a character that was cut off. Where any bytes complete it, some of
these do. -/
def completions : List ByteArray :=
  [⟨#[0x80]⟩, ⟨#[0x80, 0x80]⟩, ⟨#[0xa0, 0x80]⟩, ⟨#[0x80, 0x80, 0x80]⟩, ⟨#[0x90, 0x80, 0x80]⟩]

/-- Whether bytes are the first two of a surrogate, which is no character. -/
def isHalfSurrogate (bytes : ByteArray) : Bool :=
  match bytes.toList with
  | [first, second] => first == 0xed && 0xa0 ≤ second && second ≤ 0xbf
  | _ => false

/-- Whether bytes are the first ones of a character, or count as such. What is wrong with a surrogate
is found out at its third byte. -/
def isCutOff (bytes : ByteArray) : Bool :=
  isHalfSurrogate bytes ||
    completions.any fun more => ((bytes ++ more).utf8Decode?.map (·.size)) == some 1

/-- The text of bytes whose last character may be cut off. -/
def beginning? (bytes : ByteArray) : Option (List Char) :=
  [0, 1, 2, 3].findSome? fun missing =>
    let size := bytes.size - missing
    if missing = 0 || isCutOff (bytes.extract size bytes.size) then
      (bytes.extract 0 size).utf8Decode?.map (·.toList)
    else none

/-- The text in front of the first piece that is no text. -/
def textBefore (content : ByteArray) : List Char :=
  let pieces := content.size / pieceSize + 2
  ((List.range pieces).reverse.findSome? fun n =>
    beginning? (content.extract 0 (n * pieceSize))).getD []

/-- The lines in front of the first piece that is no text. A line counts when its end is there, and
a carriage return at the end of a piece may be one half of a line end. -/
def linesBefore (content : ByteArray) : List (List Char) :=
  let text := textBefore content
  let settled := if text.getLast? = some '\r' then text.dropLast else text
  (Text.rawLines (Text.unifyBreaks settled)).filter (·.getLast? = some '\n')

/-- The lines of a file, and what stops the reading of them, if anything does. -/
def lines (content : ByteArray) : List (List Char) × Option Mishap :=
  match decode content with
  | .ok text => (Text.rawLines text, none)
  | .error m => (linesBefore content, some m)

theorem lines_of_decode {content : ByteArray} {text : List Char} (h : decode content = .ok text) :
    lines content = (Text.rawLines text, none) := by
  unfold lines
  rw [h]

end File

end Translucency
