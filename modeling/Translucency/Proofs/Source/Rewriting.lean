import Translucency.Proofs.Monitor.Stage
import Translucency.Proofs.Source.Numbering
import Translucency.Proofs.Text.Lines

/-!
# Rewriting the file

The file of the source is a text that somebody edits while a monitor watches. `listing` has the
windows for a text, and which of them are new after an edit depends on the lines before and after it
only: `excess` of the one over the other. Moving lines, changing the blanks around them, commenting
them and putting remarks between them (`Tidies`) leaves nothing in excess, so nothing is new then. A
text that ends its last line keeps its windows when another text is added behind it.

The theorem at the end has all of this for any two texts, and for a poll of any monitor at the
second text after a poll at the first one.
-/

namespace Translucency.Simulation

open Text

/-! ## Lines that describe windows -/

/-- Whether a line describes a window. -/
def Describes (line : List Char) : Prop := trim line ≠ [] ∧ (trim line).head? ≠ some '#'

instance : DecidablePred Describes := fun _ => inferInstanceAs (Decidable (_ ∧ _))

/-- What lines say of windows: the trimmed lines among them that describe any. -/
def described (lines : List (List Char)) : List (List Char) :=
  (lines.filter (Describes ·)).map trim

theorem windowLines_eq (text : List Char) : windowLines text = described (splitLines text) := by
  rw [windowLines, described, List.filter_map]
  refine congrArg (List.map trim) (List.filter_congr fun line _ => ?_)
  rw [Function.comp_apply, Bool.eq_iff_iff, decide_eq_true_eq, Describes, Bool.and_eq_true,
    Bool.not_eq_true', List.isEmpty_eq_false_iff, bne_iff_ne]

theorem described_append (lines more : List (List Char)) :
    described (lines ++ more) = described lines ++ described more := by
  rw [described, List.filter_append, List.map_append]
  rfl

theorem described_cons_of_not {line : List Char} (h : ¬ Describes line)
    (lines : List (List Char)) : described (line :: lines) = described lines := by
  rw [described, List.filter_cons_of_neg (by rwa [decide_eq_true_eq])]
  rfl

theorem described_sublist_cons (line : List Char) (lines : List (List Char)) :
    (described lines).Sublist (described (line :: lines)) :=
  ((List.sublist_cons_self line lines).filter _).map _

/-- Of a line, only the trimmed text matters. -/
theorem described_cons_of_trim_eq {line line' : List Char} (h : trim line' = trim line)
    (lines : List (List Char)) : described (line' :: lines) = described (line :: lines) := by
  have hdescribes : Describes line' ↔ Describes line := by rw [Describes, Describes, h]
  by_cases hline : Describes line
  · rw [described, described, List.filter_cons_of_pos (by rwa [decide_eq_true_eq, hdescribes]),
      List.filter_cons_of_pos (by rwa [decide_eq_true_eq]), List.map_cons, List.map_cons, h]
  · rw [described_cons_of_not hline, described_cons_of_not (hdescribes.not.2 hline)]

/-! ## The text of the file -/

/-- The lines of a text in the file. -/
def linesOf (text : String) : List (List Char) := splitLines (unifyBreaks text.toList)

/-- The windows that the source lists when its file has a text. -/
def listing (s : Simulation) (text : String) : List Window :=
  windows s.opacities (unifyBreaks text.toList)

/-- Every text can be read, which is a success. -/
theorem run_list_ofText (s : Simulation) (changed : Int) (text : String) :
    (list (.ofText changed text)).run s =
      ⟨.ok (listing s text), { s with health := s.health.after none }, []⟩ :=
  run_list_of_decode (File.decode_toUTF8 text) changed s

theorem run_source_list_ofText (s : Simulation) (changed : Int) (text : String) :
    source.list.run (s, .ofText changed text) =
      ⟨.ok (listing s text), ({ s with health := s.health.after none }, .ofText changed text),
        []⟩ := by
  unfold source
  simp only
  rw [Act.run_bind_eq (Act.run_read _), Outcome.after_nil]
  exact Part.run_eq (p := Part.first) (run_list_ofText s changed text)

/-! ## The windows of a text -/

theorem listing_eq (s : Simulation) (text : String) :
    listing s text = (numbered [] (described (linesOf text))).map fun e =>
      windowOf s.opacities e.1 e.2 := by
  rw [listing, windows, windowLines_eq]
  rfl

theorem map_id_listing (s : Simulation) (text : String) :
    (listing s text).map (·.id) = ids (described (linesOf text)) := by
  rw [listing_eq, List.map_map]
  rfl

theorem forall₂_numbered (before lines : List (List Char)) :
    List.Forall₂ (fun line e => ∃ n, e = (idOf line n, line)) lines (numbered before lines) := by
  induction lines generalizing before with
  | nil => exact .nil
  | cons line rest ih => exact .cons ⟨_, rfl⟩ (ih (line :: before))

/-- Each line that describes a window has its own, and the windows stand in the order of the
lines. -/
theorem forall₂_listing (s : Simulation) (text : String) :
    List.Forall₂ (fun line w => ∃ n, w = windowOf s.opacities (idOf (trim line) n) (trim line))
      ((linesOf text).filter (Describes ·)) (listing s text) := by
  rw [listing_eq, List.forall₂_map_right_iff]
  refine ((List.forall₂_map_left_iff).1 (forall₂_numbered [] _)).imp ?_
  rintro line e ⟨n, rfl⟩
  exact ⟨n, rfl⟩

/-- Windows with one identifier differ in their opacity at most, whatever the texts are and whatever
opacities were set. -/
theorem eq_of_id_eq {s s' : Simulation} {text text' : String} {w w' : Window}
    (hw : w ∈ listing s text) (hw' : w' ∈ listing s' text') (hid : w.id = w'.id) :
    { w with opacity := w'.opacity } = w' := by
  rw [listing_eq] at hw hw'
  obtain ⟨⟨id, line⟩, he, rfl⟩ := List.mem_map.1 hw
  obtain ⟨⟨id', line'⟩, he', rfl⟩ := List.mem_map.1 hw'
  obtain ⟨n, -, -, rfl⟩ := mem_numbered.1 he
  obtain ⟨n', -, -, rfl⟩ := mem_numbered.1 he'
  obtain ⟨rfl, rfl⟩ := idOf_inj hid
  rfl

/-! ## Edits -/

/-- Edits of lines that describe no window which was not there: lines are moved, the blanks around
one are changed, one is commented, or one that describes nothing is put between. -/
inductive Tidies : List (List Char) → List (List Char) → Prop
  | reorder {old new : List (List Char)} (h : new.Perm old) : Tidies old new
  | reindent {before after : List (List Char)} {line line' : List Char}
    (h : trim line' = trim line) : Tidies (before ++ line :: after) (before ++ line' :: after)
  | comment {before after : List (List Char)} {line line' : List Char}
    (h : (trim line').head? = some '#') :
    Tidies (before ++ line :: after) (before ++ line' :: after)
  | remark {before after : List (List Char)} {line : List Char} (h : ¬ Describes line) :
    Tidies (before ++ after) (before ++ line :: after)
  | trans {old between new : List (List Char)} (h : Tidies old between) (h' : Tidies between new) :
    Tidies old new

/-- Each edit leaves the copies of a line among those that it had. -/
theorem Tidies.subperm {old new : List (List Char)} (h : Tidies old new) :
    (described new).Subperm (described old) := by
  induction h with
  | reorder h => exact ((h.filter _).map _).subperm
  | @reindent before after line line' h =>
    rw [described_append, described_append, described_cons_of_trim_eq h]
  | @comment before after line line' h =>
    have hnot : ¬ Describes line' := fun hline => hline.2 h
    rw [described_append, described_append, described_cons_of_not hnot]
    exact ((described_sublist_cons line after).append_left _).subperm
  | @remark before after line h =>
    rw [described_append, described_append, described_cons_of_not h]
  | trans _ _ ih ih' => exact ih'.trans ih

/-- A text that ends its last line keeps its windows when another text is added. -/
theorem listing_prefix_append (s : Simulation) {text : String}
    (hend : ∀ c ∈ text.toList.getLast?, isLineEnd c = true) (added : String) :
    listing s text <+: listing s (text ++ added) := by
  obtain ⟨rest, hunify⟩ := exists_unifyBreaks_append text.toList added.toList
  have hlines : linesOf (text ++ added) = linesOf text ++ splitLines (unifyBreaks rest) := by
    rw [linesOf, String.toList_append, hunify,
      splitLines_append_of_getLast (isLineEnd_of_mem_getLast?_unifyBreaks hend)]
    rfl
  rw [listing_eq, listing_eq, hlines, described_append, numbered_append, List.map_append]
  exact List.prefix_append ..

/-! ## New windows -/

/-- The windows of a listing that are not in an earlier one. -/
def appeared (before after : List Window) : List Window :=
  after.filter fun w => w.id ∉ before.map (·.id)

/-- What is new to a monitor that knows a listing. -/
theorem fresh_learn (before after : List Window) :
    Monitor.fresh (Monitor.learn [] before) after = appeared before after := by
  refine List.filter_congr fun w _ => ?_
  rw [Bool.eq_iff_iff, Bool.not_eq_true', List.contains_eq_mem, decide_eq_false_iff_not,
    decide_eq_true_eq, Monitor.mem_learn, List.mem_map]
  simp only [List.not_mem_nil, false_or]

/-- How many windows are new is told from the lines. -/
theorem length_appeared (s s' : Simulation) (old new : String) :
    (appeared (listing s old) (listing s' new)).length =
      excess (described (linesOf new)) (described (linesOf old)) := by
  rw [← length_ids_filter, ← map_id_listing s' new, List.filter_map, List.length_map,
    ← map_id_listing s old]
  rfl

open Stage in
/-- A poll at one text after a poll at another tells of the windows that are new. -/
theorem run_poll_after_poll (callbacks : List (Callback (Simulation × File)))
    (stage : Stage (Simulation × File)) (s s' : Simulation) (changed changed' : Int)
    (old new : String) :
    let first := (watch source callbacks).poll.run { stage with world := (s, .ofText changed old) }
    let second := (watch source callbacks).poll.run
      { first.state with world := (s', .ofText changed' new) }
    let new := appeared (listing s old) (listing s' new)
    ∃ told, second.result = .ok told ∧ told.map (·.id) = new.map (·.id) ∧
      second.state.calls =
        first.state.calls ++ new.flatMap fun w => callsFor callbacks.length w.id := by
  intro first second appearing
  have htells := Stage.run_poll_after_poll callbacks stage (run_source_list_ofText s changed old)
    (run_source_list_ofText s' changed' new)
  rwa [fresh_learn] at htells

open Stage in
/-- **Windows follow the lines of the file.** Every text can be listed. Its windows have different
identifiers, one window for each line that describes any, and two windows with one identifier differ
in their opacity at most, in whatever texts they are. The order of the lines does not matter to the
identifiers. Between two texts, there are as many new windows as the lines of the second one have
copies in excess, and these are what a monitor is told that polls at the one and then at the other.
Moved, indented and commented lines make no window new, and a text that ends its last line keeps its
windows when another is added behind it. -/
theorem windows_follow_lines (s s' : Simulation) (old new : String) :
    let before := listing s old
    let after := listing s' new
    (∀ changed, (list (.ofText changed new)).run s' =
      ⟨.ok after, { s' with health := s'.health.after none }, []⟩) ∧
    (after.map (·.id)).Nodup ∧
    List.Forall₂ (fun line w => ∃ n, w = windowOf s'.opacities (idOf (trim line) n) (trim line))
      ((linesOf new).filter (Describes ·)) after ∧
    (∀ w ∈ after, ∀ w' ∈ before, w.id = w'.id → { w with opacity := w'.opacity } = w') ∧
    ((described (linesOf new)).Perm (described (linesOf old)) →
      (after.map (·.id)).Perm (before.map (·.id))) ∧
    (appeared before after).length =
      excess (described (linesOf new)) (described (linesOf old)) ∧
    (∀ (callbacks : List (Callback (Simulation × File))) (stage : Stage (Simulation × File))
      (changed changed' : Int),
      let first := (watch source callbacks).poll.run
        { stage with world := (s, .ofText changed old) }
      let second := (watch source callbacks).poll.run
        { first.state with world := (s', .ofText changed' new) }
      ∃ told, second.result = .ok told ∧ told.map (·.id) = (appeared before after).map (·.id) ∧
        second.state.calls = first.state.calls ++
          (appeared before after).flatMap fun w => callsFor callbacks.length w.id) ∧
    (Tidies (linesOf old) (linesOf new) → appeared before after = []) ∧
    ∀ added, (∀ c ∈ old.toList.getLast?, isLineEnd c = true) →
      before <+: listing s (old ++ added) := by
  intro before after
  refine ⟨fun changed => run_list_ofText s' changed new, ?_, forall₂_listing s' new,
    fun w hw w' hw' => eq_of_id_eq hw hw', ?_, length_appeared s s' old new, ?_, ?_, ?_⟩
  · rw [map_id_listing]
    exact nodup_ids _
  · intro hperm
    rw [map_id_listing, map_id_listing]
    exact ids_perm hperm
  · intro callbacks stage changed changed'
    exact run_poll_after_poll callbacks stage s s' changed changed' old new
  · intro htidies
    rw [← List.length_eq_zero_iff, length_appeared]
    exact excess_eq_zero_iff.2 htidies.subperm
  · exact fun added hend => listing_prefix_append s hend added

/-- A line goes down and is indented, and another one is commented. The line that goes down looks
like the identifier of the other. -/
theorem windows_follow_lines_of_edited_text :
    let s : Simulation := { path := "windows" }
    Tidies (linesOf "a#0\na\na\n") (linesOf "a\n  a#0\n# a\n") ∧
      appeared (listing s "a#0\na\na\n") (listing s "a\n  a#0\n# a\n") = [] ∧
      listing s "a#0\na\na\n" <+: listing s ("a#0\na\na\n" ++ "b") := by
  intro s
  let first : List Char := ['a', '#', '0']
  let second : List Char := ['a']
  have hold : linesOf "a#0\na\na\n" = [first, second, second] := by decide
  have hnew : linesOf "a\n  a#0\n# a\n" = [second, ' ' :: ' ' :: first, '#' :: ' ' :: second] := by
    decide
  have hmoved : Tidies [first, second, second] [second, first, second] := .reorder (by decide)
  have hindented : Tidies ([second] ++ first :: [second])
      ([second] ++ (' ' :: ' ' :: first) :: [second]) := .reindent (by decide)
  have hcommented : Tidies ([second, ' ' :: ' ' :: first] ++ second :: [])
      ([second, ' ' :: ' ' :: first] ++ ('#' :: ' ' :: second) :: []) := .comment (by decide)
  have htidies : Tidies (linesOf "a#0\na\na\n") (linesOf "a\n  a#0\n# a\n") := by
    rw [hold, hnew]
    exact hmoved.trans (hindented.trans hcommented)
  obtain ⟨-, -, -, -, -, -, -, hnone, hadded⟩ :=
    windows_follow_lines s s "a#0\na\na\n" "a\n  a#0\n# a\n"
  have hlast : "a#0\na\na\n".toList.getLast? = some '\n' := by decide
  refine ⟨htidies, hnone htidies, hadded "b" fun c hc => ?_⟩
  cases hlast.symm.trans hc
  rfl

end Translucency.Simulation
