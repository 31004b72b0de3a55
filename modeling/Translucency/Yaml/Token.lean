/-!
# YAML tokens

The marks, names and scalars of a YAML text in reading order. Block structure, which the text shows
by indentation, is explicit: a block collection has a start and an end, and every key of a mapping
is announced, also one that only the colon after it gave away.
-/

namespace Translucency.Yaml

inductive Token where
  | streamEnd
  | version (major : Nat)
  | tagHandle (handle stem : List Char)
  | otherDirective
  | documentStart
  | documentEnd
  | blockSequence
  | blockMapping
  | blockEnd
  | flowSequence
  | flowSequenceEnd
  | flowMapping
  | flowMappingEnd
  | blockEntry
  | flowEntry
  | key
  | value
  | alias (name : List Char)
  | anchor (name : List Char)
  | tag (handle : Option (List Char)) (suffix : List Char)
  | scalar (text : List Char) (plain : Bool)
deriving DecidableEq

end Translucency.Yaml
