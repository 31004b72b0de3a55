import Translucency.Proofs.Json.Literals
import Translucency.Proofs.Kwin.Operations

/-!
# The script that sets an opacity

The identifier of a window comes from outside and goes into the source text of a script. It must not
be able to say anything there but which window is meant.

Two things could go wrong. The script is a template with a hole for the identifier and one for the
opacity, told by braces, and identifiers are full of braces. But the holes are found in the template
before anything is put into them (`places?`), and this is no matter of the identifier
(`format?_opacityTemplate`). And the script knows the identifier by a literal, which has to end where
it was meant to and nowhere before. That is said by `IsLiteralOf`: a literal is closed for whoever
looks for its end, and its value is the identifier. So two scripts for the same opacity differ in
their literals and in nothing else, and they differ there exactly if they are for two windows.
-/

namespace Translucency.Kwin

open Json

/-! ## Literals -/

/-- Whether a text stands for a string in a script. -/
structure IsLiteralOf (literal : List Char) (text : String) : Prop where
  printable : ∀ c ∈ literal, isPlainAscii c = true
  closed : ∃ body, literal = '"' :: (body ++ ['"']) ∧
    ∀ rest, untilQuote (body ++ '"' :: rest) = some (body, rest)
  decodes : read? literal = some (.text text)

theorem isLiteralOf_written (text : String) : IsLiteralOf (written text.toList) text where
  printable := isPlainAscii_written text.toList
  closed := ⟨text.toList.flatMap writtenChar, rfl, untilQuote_written text.toList⟩
  decodes := by rw [read?_written, String.ofList_toList]

/-! ## The template -/

/-- A place of a template: a character that stays, or a hole with a name. -/
inductive Place where
  | char (c : Char)
  | hole (name : List Char)
deriving DecidableEq

/-- The places of a template, starting outside of a hole or behind some letters of its name, the last
of them first. A doubled brace is a brace, and a single one belongs to a hole. -/
def places? : Option (List Char) → List Char → Option (List Place)
  | none, [] => some []
  | none, '\x7b' :: '\x7b' :: s => (places? none s).map (.char '\x7b' :: ·)
  | none, '\x7b' :: s => places? (some []) s
  | none, '\x7d' :: '\x7d' :: s => (places? none s).map (.char '\x7d' :: ·)
  | none, '\x7d' :: _ => none
  | none, c :: s => (places? none s).map (.char c :: ·)
  | some _, [] => none
  | some name, '\x7d' :: s => (places? none s).map (.hole name.reverse :: ·)
  | some name, c :: s => places? (some (c :: name)) s

/-- What comes to stand at a place; a hole needs a value for its name. -/
def Place.fill? (values : List (String × List Char)) : Place → Option (List Char)
  | char c => some [c]
  | hole name => values.lookup (String.ofList name)

/-- A template whose holes are filled. -/
def format? (values : List (String × List Char)) (template : String) : Option (List Char) :=
  (places? none template.toList).bind fun places =>
    (places.mapM (Place.fill? values)).map List.flatten

theorem mapM_fill?_char (values : List (String × List Char)) (s : List Char) :
    (s.map Place.char).mapM (Place.fill? values) = some (s.map ([·])) := by
  induction s with
  | nil => rfl
  | cons c s ih =>
    rw [List.map_cons, List.mapM_cons, ih]
    rfl

/-- What is put into a hole comes to stand between what stood before it and the rest. -/
theorem flatten_mapM_fill? {values : List (String × List Char)} {name : String} {text : List Char}
    (hname : values.lookup name = some text) (kept : List Char) (places : List Place) :
    ((kept.map Place.char ++ (Place.hole name.toList :: places)).mapM (Place.fill? values)).map
        List.flatten =
      ((places.mapM (Place.fill? values)).map List.flatten).map
        fun filled => kept ++ (text ++ filled) := by
  have hfill : Place.fill? values (.hole name.toList) = some text := by
    rw [Place.fill?, String.ofList_toList, hname]
  have hkept : (kept.map ([·])).flatten = kept := by
    rw [← List.flatMap_def, List.flatMap_singleton']
  rw [List.mapM_append, List.mapM_cons, mapM_fill?_char, hfill]
  cases places.mapM (Place.fill? values) with
  | none => rfl
  | some texts => simp [hkept]

/-- The template of the script. -/
def opacityTemplate : String :=
  "\nconst windows = workspace.windowList ? workspace.windowList() : workspace.clientList();\n" ++
  "for (let i = 0; i < windows.length; i++) \x7b\x7b\n" ++
  "    if (String(windows[i].internalId) === \x7bwindow_id\x7d) \x7b\x7b\n" ++
  "        windows[i].opacity = \x7bopacity\x7d;\n" ++
  "    \x7d\x7d\n" ++
  "\x7d\x7d\n"

/-- What stands between the two holes. -/
def opacityScriptMiddle : String := ") \x7b\n        windows[i].opacity = "

/-- What stands behind the second hole. -/
def opacityScriptEnd : String := ";\n    \x7d\n\x7d\n"

/-- The template has two holes, and its braces elsewhere are doubled. -/
theorem places?_opacityTemplate :
    places? none opacityTemplate.toList =
      some (opacityScriptHead.toList.map .char ++ (.hole "window_id".toList ::
        (opacityScriptMiddle.toList.map .char ++ (.hole "opacity".toList ::
          opacityScriptEnd.toList.map .char)))) := by
  -- A literal is made of its characters, and nothing has to be decoded to see them.
  unfold opacityTemplate opacityScriptHead opacityScriptMiddle opacityScriptEnd
  repeat rw [String.toList_append]
  repeat rw [String.toList_ofList]
  decide +kernel

theorem toList_opacityScriptTail (opacity : List Char) :
    (opacityScriptTail (String.ofList opacity)).toList =
      opacityScriptMiddle.toList ++ (opacity ++ opacityScriptEnd.toList) := by
  unfold opacityScriptTail opacityScriptMiddle opacityScriptEnd
  repeat rw [String.toList_append]
  repeat rw [String.toList_ofList]
  simp only [List.cons_append, List.nil_append, List.append_assoc]

/-- The texts that are put into the holes come to stand there as they are. -/
theorem format?_opacityTemplate (literal opacity : List Char) :
    format? [("window_id", literal), ("opacity", opacity)] opacityTemplate =
      some (opacityScriptHead.toList ++
        (literal ++ (opacityScriptTail (String.ofList opacity)).toList)) := by
  have hopacity : ("opacity" == "window_id") = false := by decide
  rw [format?, places?_opacityTemplate, Option.bind_some,
    flatten_mapM_fill? List.lookup_cons_self,
    flatten_mapM_fill? (by rw [List.lookup_cons, hopacity]; exact List.lookup_cons_self),
    mapM_fill?_char, toList_opacityScriptTail]
  simp only [Option.map_some, ← List.flatMap_def, List.flatMap_singleton']

/-- The opacity as it stands in the script. -/
def opacityText (opacity : Binary64) : List Char := (opacity.roundPlaces 2).shortText

theorem toList_opacityScript (id : String) (opacity : Binary64) :
    (opacityScript id opacity).toList =
      opacityScriptHead.toList ++
        (written id.toList ++ (opacityScriptTail (String.ofList (opacityText opacity))).toList) := by
  rw [opacityScript, opacityText, String.toList_append, String.toList_append,
    String.toList_ofList, List.append_assoc]

/-! ## The script that is handed over -/

/-- Whether it is run or not, one script is handed over, if it can be stored. -/
theorem scripts_setOpacity (w : Window) (opacity : Binary64) (s : Seat) :
    ((setOpacity w opacity).run s).state.2.scripts =
      s.2.scripts ++ if s.2.full = none then [opacityScript w.id opacity] else [] := by
  have hscripts : ∀ name script calls pauses,
      (seatAfter s name script calls pauses).2.scripts =
        s.2.scripts ++ if s.2.full = none then [script] else [] := by
    intro name script calls pauses
    unfold seatAfter
    cases s.2.full with
    | some reason => exact (List.append_nil _).symm
    | none => rfl
  obtain ⟨pauses, log, hset⟩ := run_setOpacity w opacity s
  rw [hset, ← hscripts (marker .opacity s.2.now) _ (opacityCalls s) pauses]
  -- What the operation comes to is counted, and scripts are not.
  cases stop? s (opacityCalls s) with
  | some fault => rfl
  | none => cases launches s (marker .opacity s.2.now) <;> rfl

/-- **A window is addressed by its identifier and cannot say more.** Whatever the identifier is, the
script that is handed over is the template with a literal for it in its hole, and the scripts for one
opacity differ in these literals only. Two windows get the same literal only if they have the same
identifier. Where no script can be stored, none is handed over. -/
theorem setOpacity_addresses_window (opacity : Binary64) :
    ∃ head tail : List Char, ∀ (w : Window) (s : Seat), ∃ (literal : List Char) (script : String),
      IsLiteralOf literal w.id ∧
      format? [("window_id", literal), ("opacity", opacityText opacity)] opacityTemplate =
        some script.toList ∧
      script.toList = head ++ (literal ++ tail) ∧
      ((setOpacity w opacity).run s).state.2.scripts =
        s.2.scripts ++ (if s.2.full = none then [script] else []) ∧
      ∀ (w' : Window) (s' : Seat),
        ((setOpacity w' opacity).run s').state.2.scripts = s'.2.scripts ++ [script] ↔
          s'.2.full = none ∧ w'.id = w.id := by
  refine ⟨opacityScriptHead.toList,
    (opacityScriptTail (String.ofList (opacityText opacity))).toList, fun w s => ?_⟩
  refine ⟨written w.id.toList, opacityScript w.id opacity, isLiteralOf_written w.id, ?_,
    toList_opacityScript w.id opacity, scripts_setOpacity w opacity s, fun w' s' => ?_⟩
  · rw [format?_opacityTemplate, toList_opacityScript]
  · rw [scripts_setOpacity, List.append_cancel_left_eq]
    by_cases hfull : s'.2.full = none
    · rw [if_pos hfull, and_iff_right hfull, List.singleton_inj, ← String.toList_inj,
        toList_opacityScript, toList_opacityScript, List.append_cancel_left_eq,
        List.append_cancel_right_eq, written_inj, String.toList_inj]
    · rw [if_neg hfull]
      exact iff_of_false (List.cons_ne_nil _ _).symm fun h => hfull h.1

end Translucency.Kwin
