import Translucency.Proofs.Source.Rewriting
import Translucency.Proofs.Text.LowerCase
import Translucency.Proofs.Text.Trim
import Translucency.Source.WindowsFile

/-!
# Windows that are added by the command

The command that adds windows to the description and the source that lists them know of each other
only by the file. What is added is a text with four fields (`Description`), and it is to come out as
a window with these fields (`Shows`). The command writes what it is given, as a line of its own; so
the file holds one line for each description since it was cleared (`holds_after`), and that each
line is read as it was written is the whole of the agreement (`linesOf_textOf`,
`Description.pieces_line`).

The last window of a listing is numbered after its copies, so it is new whatever was there before.
A monitor that looks before and after is told of it and of nothing else.
-/

namespace Translucency.WindowsFile

open Text Simulation

/-! ## Descriptions -/

/-- Whether a text may be a field: it is trimmed, and stays one field on one line. -/
structure IsField (field : List Char) : Prop where
  trim_eq : trim field = field
  bar_notMem : '|' ∉ field
  isLine : IsLine field

instance (field : List Char) : Decidable (IsField field) :=
  decidable_of_iff (trim field = field ∧ '|' ∉ field ∧ IsLine field)
    ⟨fun ⟨h, h', h''⟩ => ⟨h, h', h''⟩, fun ⟨h, h', h''⟩ => ⟨h, h', h''⟩⟩

/-- A window as it is described to the command. -/
structure Description where
  resourceClass : List Char
  resourceName : List Char
  caption : List Char
  flags : List Char
  isField : ∀ field ∈ [resourceClass, resourceName, caption, flags], IsField field
  /-- Otherwise the line would be a remark. -/
  class_head : resourceClass.head? ≠ some '#'

namespace Description

variable (d : Description)

def fields : List (List Char) := [d.resourceClass, d.resourceName, d.caption, d.flags]

def line : List Char := join ['|'] d.fields

theorem pieces_line : pieces '|' d.line = d.fields :=
  pieces_join (List.cons_ne_nil _ _) fun field hfield => (d.isField field hfield).bar_notMem

theorem fields_line : Simulation.fields d.line = d.fields := by
  rw [Simulation.fields, pieces_line]
  exact (List.map_congr_left fun field hfield => (d.isField field hfield).trim_eq).trans
    (List.map_id d.fields)

theorem isLine_line : IsLine d.line :=
  isLine_join (by decide) fun field hfield => (d.isField field hfield).isLine

theorem line_eq : d.line =
    d.resourceClass ++ '|' :: (d.resourceName ++ '|' :: (d.caption ++ '|' :: d.flags)) := by
  simp [line, fields, join]

theorem bar_mem_line : '|' ∈ d.line := by
  rw [line_eq]
  exact List.mem_append_right _ (List.mem_cons_self ..)

theorem isBlank_of_head {field : List Char} {c : Char} (hfield : field ∈ d.fields)
    (hc : field.head? = some c) : isBlank c = false := by
  rw [← (d.isField field hfield).trim_eq] at hc
  exact head?_trim hc

theorem isBlank_of_getLast {field : List Char} {c : Char} (hfield : field ∈ d.fields)
    (hc : field.getLast? = some c) : isBlank c = false := by
  rw [← (d.isField field hfield).trim_eq] at hc
  exact getLast?_trim hc

/-- A line starts as its first field does, or with a bar. -/
theorem head?_line : d.line.head? = some (d.resourceClass.head?.getD '|') := by
  rw [line_eq]
  cases d.resourceClass <;> rfl

/-- A line ends as its last field does, or with a bar. -/
theorem getLast?_line : d.line.getLast? = some (d.flags.getLast?.getD '|') := by
  simp [line_eq, List.getLast?_append, List.getLast?_cons]

theorem trim_line : trim d.line = d.line := by
  refine trim_of_ends (fun c hc => ?_) fun c hc => ?_
  · rw [head?_line, Option.mem_some_iff] at hc
    subst hc
    cases hhead : d.resourceClass.head? with
    | none => rfl
    | some c => exact d.isBlank_of_head (by simp [fields]) hhead
  · rw [getLast?_line, Option.mem_some_iff] at hc
    subst hc
    cases hlast : d.flags.getLast? with
    | none => rfl
    | some c => exact d.isBlank_of_getLast (by simp [fields]) hlast

theorem describes_line : Describes d.line := by
  rw [Describes, trim_line]
  refine ⟨List.ne_nil_of_mem d.bar_mem_line, ?_⟩
  rw [head?_line]
  have hclass := d.class_head
  cases hhead : d.resourceClass.head? with
  | none => simp
  | some c =>
    rw [hhead] at hclass
    exact hclass

end Description

/-! ## Commands -/

/-- What the command is called with. -/
inductive Command where
  | clear
  | add (d : Description)

def Command.argument : Command → String
  | .clear => clearFlag
  | .add d => String.ofList d.line

/-- The file after commands, the latest first. -/
def fileAfter (path name : String) (start : File) : List Command → File
  | [] => start
  | command :: past => (edit path name [command.argument] (fileAfter path name start past)).file

/-- The descriptions that were added since the file was last cleared, in their order. -/
def standing : List Command → List Description
  | [] => []
  | .clear :: _ => []
  | .add d :: past => standing past ++ [d]

/-- The text with one line for each description. -/
def textOf (ds : List Description) : String :=
  String.ofList ((ds.map (·.line)).flatMap (· ++ ['\n']))

/-- What stands at the path when these descriptions do. -/
inductive Holds : List Description → File → Prop
  | nothing : Holds [] .absent
  | text (changed : Int) (ds : List Description) : Holds ds (.ofText changed (textOf ds))

theorem textOf_concat (ds : List Description) (d : Description) :
    textOf (ds ++ [d]) = textOf ds ++ (String.ofList d.line ++ "\n") := by
  rw [textOf, textOf, List.map_append, List.flatMap_append, String.ofList_append]
  refine congrArg _ ?_
  rw [List.map_singleton, List.flatMap_singleton, String.ofList_append]

theorem argument_add_ne (d : Description) : String.ofList d.line ≠ clearFlag := by
  intro h
  have hmem := d.bar_mem_line
  rw [← String.toList_ofList (l := d.line), h] at hmem
  exact absurd hmem (by decide)

/-- What is no flag is written at the end of what there is. -/
theorem file_edit {info : String} {file : File} (hinfo : info ≠ clearFlag)
    (hfile : ∀ changed, file ≠ .directory changed) (path name : String) :
    (edit path name [info] file).file =
      .file (file.changed?.getD 0 + 1) (content file ++ (info ++ "\n").toUTF8) := by
  cases file with
  | directory changed => exact absurd rfl (hfile changed)
  | _ =>
    unfold edit
    dsimp only
    rw [if_neg hinfo]

theorem Holds.ne_directory {ds : List Description} {file : File} (h : Holds ds file)
    (changed : Int) : file ≠ .directory changed := by
  cases h <;> exact nofun

theorem Holds.content_eq {ds : List Description} {file : File} (h : Holds ds file) :
    content file = (textOf ds).toUTF8 := by
  cases h <;> rfl

/-- Adding writes one more line. -/
theorem Holds.add {ds : List Description} {file : File} (h : Holds ds file) (path name : String)
    (d : Description) :
    Holds (ds ++ [d]) (edit path name [(Command.add d).argument] file).file := by
  have hbytes : (textOf ds).toUTF8 ++ (String.ofList d.line ++ "\n").toUTF8 =
      (textOf (ds ++ [d])).toUTF8 := by
    rw [textOf_concat]
    exact String.toByteArray_append.symm
  rw [Command.argument, file_edit (argument_add_ne d) h.ne_directory, h.content_eq, hbytes]
  exact .text _ _

/-- Clearing leaves an empty file. -/
theorem Holds.clear {ds : List Description} {file : File} (h : Holds ds file)
    (path name : String) : Holds [] (edit path name [Command.clear.argument] file).file := by
  cases h <;> exact .text _ []

/-- **The file holds a line for each description since it was cleared.** -/
theorem holds_after (path name : String) {start : File}
    (hstart : start = .absent ∨ ∃ changed, start = .file changed .empty)
    (commands : List Command) :
    Holds (standing commands) (fileAfter path name start commands) := by
  induction commands with
  | nil =>
    rcases hstart with rfl | ⟨changed, rfl⟩
    · exact .nothing
    · exact .text changed []
  | cons command past ih =>
    cases command with
    | add d => exact ih.add path name d
    | clear => exact ih.clear path name

/-! ## Listing -/

theorem linesOf_textOf (ds : List Description) : linesOf (textOf ds) = ds.map (·.line) := by
  have hline : ∀ line ∈ ds.map (·.line), IsLine line := by
    intro line hline
    obtain ⟨d, -, rfl⟩ := List.mem_map.1 hline
    exact d.isLine_line
  have hreturn : '\r' ∉ (ds.map (·.line)).flatMap (· ++ ['\n']) := by
    intro hmem
    obtain ⟨line, hmem, hreturn⟩ := List.mem_flatMap.1 hmem
    rcases List.mem_append.1 hreturn with hreturn | hreturn
    · exact (hline line hmem).not_mem_return hreturn
    · exact absurd hreturn (by decide)
  rw [linesOf, textOf, String.toList_ofList, unifyBreaks_of_not_mem hreturn,
    splitLines_flatMap hline]

theorem described_map_line (ds : List Description) :
    described (ds.map (·.line)) = ds.map (·.line) := by
  have hdescribes : (ds.map (·.line)).filter (Describes ·) = ds.map (·.line) := by
    refine List.filter_eq_self.2 fun line hline => ?_
    obtain ⟨d, -, rfl⟩ := List.mem_map.1 hline
    exact decide_eq_true d.describes_line
  rw [described, hdescribes, List.map_map]
  exact List.map_congr_left fun d _ => d.trim_line

/-- The windows of the file, by their lines. -/
theorem listing_textOf (s : Simulation) (ds : List Description) :
    listing s (textOf ds) =
      (numbered [] (ds.map (·.line))).map fun e => windowOf s.opacities e.1 e.2 := by
  rw [listing_eq, linesOf_textOf, described_map_line]

/-- What stands at the path can be listed. -/
theorem Holds.run_source_list {ds : List Description} {file : File} (h : Holds ds file)
    (s : Simulation) :
    ∃ world, source.list.run (s, file) = ⟨.ok (listing s (textOf ds)), world, []⟩ := by
  cases h with
  | nothing => exact ⟨_, rfl⟩
  | text changed => exact ⟨_, run_source_list_ofText s changed (textOf ds)⟩

/-! ## Windows as described -/

/-- A field as a name; an empty one is absent. -/
def shown (field : List Char) : Value :=
  if field = [] then .null else .text (String.ofList field)

/-- Whether a word is among the flags, which are parted by commas. Blanks around a flag and the case
of its letters do not matter. -/
def HasFlag (word : String) (flags : List Char) : Prop :=
  ∃ flag ∈ pieces ',' flags, (trim flag).map Char.toLower = word.toList

/-- Whether a window is as it was described. -/
structure Shows (d : Description) (w : Window) : Prop where
  resourceClass : w.resourceClass = shown d.resourceClass
  resourceName : w.resourceName = shown d.resourceName
  caption : w.caption = shown d.caption
  isFullScreen : w.isFullScreen = true ↔ HasFlag "fullscreen" d.flags
  isNormal : w.isNormal = false ↔ HasFlag "special" d.flags

theorem nameOf_eq (field : List Char) : nameOf field = shown field := by
  cases field <;> rfl

theorem contains_flags_iff (word : String)
    (hword : word.toList.all LowerCase.plainLetters.contains = true) (field : List Char) :
    (flags field).contains word.toList = true ↔ HasFlag word field := by
  have hletters : ∀ c ∈ word.toList, c ∈ LowerCase.plainLetters := fun c hc =>
    List.contains_iff_mem.1 (List.all_eq_true.1 hword c hc)
  rw [List.contains_iff_mem, flags, List.mem_map]
  exact exists_congr fun flag => and_congr_right fun _ => lower_eq_iff hletters

/-- The line of a description is read as it was meant, whatever the window is known by. -/
theorem shows_windowOf (d : Description) (opacities : List (String × Binary64)) (id : String) :
    Shows d (windowOf opacities id d.line) := by
  have hfull := contains_flags_iff "fullscreen" (by decide) d.flags
  have hspecial := contains_flags_iff "special" (by decide) d.flags
  simp only [windowOf, d.fields_line, Description.fields]
  exact {
    resourceClass := nameOf_eq _
    resourceName := nameOf_eq _
    caption := nameOf_eq _
    isFullScreen := hfull
    isNormal := by
      rw [Bool.not_eq_false']
      exact hspecial }

/-- The windows are as described, one for each description. -/
theorem forall₂_shows (s : Simulation) (ds : List Description) :
    List.Forall₂ Shows ds (listing s (textOf ds)) := by
  rw [listing_textOf, List.forall₂_map_right_iff]
  refine ((List.forall₂_map_left_iff).1 (forall₂_numbered [] _)).imp ?_
  rintro d e ⟨n, rfl⟩
  exact shows_windowOf d s.opacities _

/-! ## One more window -/

/-- One more description is one more window, at the end. -/
theorem listing_textOf_concat (s : Simulation) (ds : List Description) (d : Description) :
    ∃ w, listing s (textOf (ds ++ [d])) = listing s (textOf ds) ++ [w] ∧ Shows d w := by
  refine ⟨windowOf s.opacities (idOf d.line ((ds.map (·.line)).reverse.count d.line)) d.line, ?_,
    shows_windowOf d s.opacities _⟩
  rw [listing_textOf, listing_textOf, List.map_append, numbered_append, List.map_append,
    List.append_nil]
  rfl

/-- Windows that stand behind others under identifiers of their own are all new. -/
theorem appeared_append {s s' : Simulation} {old new : String} {earlier added : List Window}
    (hnew : listing s' new = earlier ++ added)
    (hids : earlier.map (·.id) = (listing s old).map (·.id)) :
    appeared (listing s old) (listing s' new) = added := by
  have hnodup : ((listing s' new).map (·.id)).Nodup := by
    rw [map_id_listing]
    exact nodup_ids _
  -- No identifier is given twice within a listing, so none of the others is among the earlier ones.
  rw [hnew, List.map_append, List.nodup_append] at hnodup
  have hearlier : earlier.filter (·.id ∉ earlier.map (·.id)) = [] := by
    refine List.filter_eq_nil_iff.2 fun w hw => ?_
    rw [decide_eq_true_eq, not_not]
    exact List.mem_map_of_mem hw
  have hadded : added.filter (·.id ∉ earlier.map (·.id)) = added := by
    refine List.filter_eq_self.2 fun w hw => decide_eq_true fun hmem => ?_
    exact hnodup.2.2 _ hmem _ (List.mem_map_of_mem hw) rfl
  rw [appeared, ← hids, hnew, List.filter_append, hearlier, hadded, List.nil_append]

/-- The identifiers of a listing do not depend on what the source remembers. -/
theorem map_id_listing_congr (s s' : Simulation) (text : String) :
    (listing s text).map (·.id) = (listing s' text).map (·.id) := by
  rw [map_id_listing, map_id_listing]

/-! ## The agreement -/

open Stage in
/-- **The command and the source agree.** Start without a file or with an empty one, and run the
command any number of times to clear the description or to add to it. Then the source lists, in
their order, exactly the windows that were added since the file was last cleared, each as it was
described. A monitor that polls right before a window is added and right after it is told of this
window alone, even if one with the same description is there already. -/
theorem lists_what_was_added (path name : String) {start : File}
    (hstart : start = .absent ∨ ∃ changed, start = .file changed .empty)
    (commands : List Command) :
    let file := fileAfter path name start
    (∀ s : Simulation, ∃ windows,
      (source.list.run (s, file commands)).result = .ok windows ∧
        List.Forall₂ Shows (standing commands) windows) ∧
    ∀ (d : Description) (callbacks : List (Callback (Simulation × File)))
      (stage : Stage (Simulation × File)) (s s' : Simulation),
      let first := (watch source callbacks).poll.run
        { stage with world := (s, file commands) }
      let second := (watch source callbacks).poll.run
        { first.state with world := (s', file (.add d :: commands)) }
      ∃ earlier w told,
        (source.list.run (s', file (.add d :: commands))).result = .ok (earlier ++ [w]) ∧
        Shows d w ∧ second.result = .ok [told] ∧ told.id = w.id ∧
        second.state.calls = first.state.calls ++ callsFor callbacks.length w.id := by
  intro file
  have hfile : ∀ commands, Holds (standing commands) (file commands) := holds_after path name hstart
  refine ⟨fun s => ?_, ?_⟩
  · obtain ⟨world, hlist⟩ := (hfile commands).run_source_list s
    exact ⟨_, congrArg Outcome.result hlist, forall₂_shows s _⟩
  · intro d callbacks stage s s' first second
    obtain ⟨world, hbefore⟩ := (hfile commands).run_source_list s
    obtain ⟨world', hafter⟩ := (hfile (.add d :: commands)).run_source_list s'
    obtain ⟨w, hlisting, hshows⟩ := listing_textOf_concat s' (standing commands) d
    have hnew := appeared_append hlisting (map_id_listing_congr s' s _)
    obtain ⟨told, hresult, hids, hcalls⟩ :=
      Stage.run_poll_after_poll callbacks stage hbefore hafter
    rw [fresh_learn] at hids hcalls
    rw [standing, hnew] at hids hcalls
    obtain ⟨window, rfl, hid⟩ := List.map_eq_singleton_iff.1 hids
    refine ⟨_, w, window, (congrArg Outcome.result hafter).trans (congrArg Except.ok hlisting),
      hshows, hresult, hid, ?_⟩
    rw [hcalls, List.flatMap_singleton]

/-- A window without a name is added, the description is cleared, and the window is added twice. -/
theorem lists_what_was_added_of_copies :
    let d : Description :=
      { resourceClass := "mpv".toList
        resourceName := []
        caption := "a, b".toList
        flags := "Special, FULLSCREEN".toList
        isField := by decide
        class_head := by decide }
    let commands : List Command := [.add d, .clear, .add d]
    let s : Simulation := { path := "windows" }
    let stage : Stage (Simulation × File) :=
      { world := (s, .absent), monitor := { running := true } }
    let callbacks : List (Callback (Simulation × File)) := [.failing "broken", .stopping]
    String.ofList d.line = "mpv||a, b|Special, FULLSCREEN" ∧ standing commands = [d] ∧
      (∃ w, (source.list.run (s, fileAfter "windows" "simulate" .absent commands)).result =
        .ok [w] ∧ w.resourceName = .null ∧ w.isFullScreen = true) ∧
      let first := (Stage.watch source callbacks).poll.run
        { stage with world := (s, fileAfter "windows" "simulate" .absent commands) }
      let second := (Stage.watch source callbacks).poll.run
        { first.state with
          world := (s, fileAfter "windows" "simulate" .absent (.add d :: commands)) }
      ∃ told, second.result = .ok [told] ∧
        second.state.calls = first.state.calls ++ [(0, told.id), (1, told.id)] := by
  intro d commands s stage callbacks
  obtain ⟨hlist, hadded⟩ := lists_what_was_added "windows" "simulate" (.inl rfl) commands
  refine ⟨rfl, rfl, ?_, ?_⟩
  · obtain ⟨windows, hresult, hshows⟩ := hlist s
    obtain ⟨w, rest, hw, hrest, rfl⟩ := List.forall₂_cons_left_iff.1 hshows
    cases hrest
    have hflag : HasFlag "fullscreen" d.flags := ⟨" FULLSCREEN".toList, by decide, by decide⟩
    exact ⟨w, hresult, hw.resourceName, hw.isFullScreen.2 hflag⟩
  · obtain ⟨earlier, w, told, -, -, hresult, hid, hcalls⟩ := hadded d callbacks stage s s
    rw [← hid] at hcalls
    dsimp only at hresult hcalls ⊢
    exact ⟨told, hresult, hcalls⟩

end Translucency.WindowsFile
