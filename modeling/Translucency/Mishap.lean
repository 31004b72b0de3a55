/-!
# Mishaps

Ways in which the reading of one value goes wrong, where nobody above gives the failure a wording
of its own.
-/

namespace Translucency

/-- Why a value could not be read. -/
inductive Mishap where
  /-- Bytes that are not UTF-8. -/
  | undecodable
  /-- A directory in the place of a file. -/
  | directory
  /-- An integer beyond the range it is converted to. -/
  | tooLarge
  /-- A text or a field that does not spell what it is read as, or an integer of too many digits to
  be spelled. -/
  | badText
  /-- A value of a kind that has no such reading. -/
  | wrongKind
  /-- A value that lacks what it is asked for. -/
  | lacksMember
  /-- A word outside the vocabulary. -/
  | unknownWord
  /-- An empty text where a first character is needed. -/
  | outOfBounds
deriving DecidableEq

end Translucency
