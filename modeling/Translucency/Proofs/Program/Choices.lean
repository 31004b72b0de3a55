import Mathlib.Data.List.Basic
import Mathlib.Data.List.TakeWhile
import Translucency.Program.Run
import Translucency.Proofs.Program.Running

/-!
# What the arguments choose

The simulation flags are taken out of the arguments one by one, each time the first argument that
reads like the flag. As every argument of that reading is taken out in the end, it does not matter
which one goes first: what is left are the other arguments in their order (`rest_intake`), and
what the flags ask for is what the last of them asks for (`simulation_intake`). No argument that is
no flag is looked at for the windows, and no flag for the path of the settings file, so flags can
be moved about as long as the simulation flags keep their order (`ofArguments_eq_of_moved`).

The declarative reading is `NamesSettings` and `NamesWindows`, which do not mention how arguments
are walked through.
-/

namespace Translucency

namespace Options

/-! ## Arguments -/

/-- Whether an argument starts with two hyphens. -/
def IsFlag (arg : String) : Prop := "--".toList <+: arg.toList

/-- Whether an argument is a simulation flag, alone or with a file attached. -/
def IsSimulation (arg : String) : Prop := arg = "--simulate" ∨ "--simulate=".toList <+: arg.toList

instance : DecidablePred IsFlag := fun _ => inferInstanceAs (Decidable (_ <+: _))

instance : DecidablePred IsSimulation := fun _ => inferInstanceAs (Decidable (_ ∨ _))

/-- The file that is attached to an argument: what follows the first `=`. -/
inductive Attaches : String → String → Prop
  | file {arg : String} {before after : List Char} : '=' ∉ before →
      arg.toList = before ++ '=' :: after → Attaches arg (String.ofList after)
  | none {arg : String} : '=' ∉ arg.toList → Attaches arg ""

theorem isFlag_iff {arg : String} : isFlag arg = true ↔ IsFlag arg := List.isPrefixOf_iff_prefix

theorem isSimulation_iff {arg : String} : isSimulation arg = true ↔ IsSimulation arg := by
  rw [isSimulation, Bool.or_eq_true, beq_iff_eq, List.isPrefixOf_iff_prefix]
  exact Iff.rfl

/-- Every simulation flag is a flag. -/
theorem IsSimulation.isFlag {arg : String} (h : IsSimulation arg) : IsFlag arg := by
  obtain rfl | hprefix := h
  · decide
  · exact List.IsPrefix.trans (by decide) hprefix

theorem not_isSimulation_iniFlag : ¬ IsSimulation iniFlag := by decide

theorem attaches_attached? (arg : String) : Attaches arg ((attached? arg).getD "") := by
  have hsplit := List.takeWhile_append_dropWhile (p := (· != '=')) (l := arg.toList)
  rw [attached?]
  cases hdrop : arg.toList.dropWhile (· != '=') with
  | nil =>
    refine .none fun hmem => ?_
    have hall := List.dropWhile_eq_nil_iff.1 hdrop '=' hmem
    cases hall
  | cons c after =>
    -- What stops the search is an `=`.
    have hc : c = '=' := by
      have hhead := List.head?_dropWhile_not (· != '=') arg.toList
      rw [hdrop] at hhead
      simpa using hhead
    subst hc
    rw [hdrop] at hsplit
    have hbefore : '=' ∉ arg.toList.takeWhile (· != '=') := by
      intro hmem
      have hne := List.mem_takeWhile_imp hmem
      cases hne
    have hattaches := Attaches.file hbefore hsplit.symm
    cases after with
    | nil => exact hattaches
    | cons d after => exact hattaches

/-! ## Taking the simulation flags out -/

theorem foldl_take (flags : List String) (i : Intake) :
    flags.foldl Intake.take i =
      { simulation := (flags.getLast?.map fun flag => some (attached? flag)).getD i.simulation
        rest := i.rest.diff flags } := by
  induction flags generalizing i with
  | nil => rfl
  | cons flag flags ih =>
    rw [List.foldl_cons, ih, Intake.take, List.diff_cons, List.getLast?_cons]
    cases flags.getLast? <;> rfl

/-- Taking out all members of one kind leaves the others as they stand. -/
theorem diff_filter {α : Type} [DecidableEq α] (p : α → Bool) (l : List α) :
    l.diff (l.filter p) = l.filter (!p ·) := by
  induction l with
  | nil => rfl
  | cons a l ih =>
    cases ha : p a with
    | true => rw [List.filter_cons_of_pos ha, List.diff_cons, List.erase_cons_head, ih,
        List.filter_cons_of_neg (by simp [ha])]
    | false =>
      have hnot : a ∉ l.filter p := by simp [ha]
      rw [List.filter_cons_of_neg (by simp [ha]), List.cons_diff_of_not_mem hnot, ih,
        List.filter_cons_of_pos (by simp [ha])]

theorem rest_intake (args : List String) :
    (intake args).rest = args.filter (!isSimulation ·) := by
  rw [intake, foldl_take, diff_filter]

theorem simulation_intake (args : List String) :
    (intake args).simulation = (args.filter isSimulation).getLast?.map attached? := by
  rw [intake, foldl_take]
  cases (args.filter isSimulation).getLast? <;> rfl

/-! ## The choices -/

section Choices

variable (args : List String)

theorem checkOnly_ofArguments : (ofArguments args).checkOnly = decide (checkFlag ∈ args) :=
  List.contains_eq_mem checkFlag args

theorem useIni_ofArguments : (ofArguments args).useIni = decide (iniFlag ∈ args) := by
  have hstays : iniFlag ∈ (intake args).rest ↔ iniFlag ∈ args := by
    rw [rest_intake, List.mem_filter, Bool.not_eq_true', Bool.eq_false_iff, Ne,
      isSimulation_iff]
    exact and_iff_left not_isSimulation_iniFlag
  show (intake args).rest.contains iniFlag = _
  rw [List.contains_eq_mem, decide_eq_decide]
  exact hstays

/-- Taking flags out loses none of the arguments that are no flags. -/
theorem settingsPath_ofArguments :
    (ofArguments args).settingsPath = args.find? (!isFlag ·) := by
  show (intake args).rest.find? (!isFlag ·) = _
  rw [rest_intake, List.find?_filter]
  refine congrArg (args.find? ·) (funext fun arg => ?_)
  cases hsimulation : isSimulation arg with
  | false => simp
  | true =>
    have hflag := isFlag_iff.2 (isSimulation_iff.1 hsimulation).isFlag
    simp [hflag]

theorem simulation_ofArguments :
    (ofArguments args).simulation = (args.filter isSimulation).getLast?.map attached? :=
  simulation_intake args

end Choices

theorem filter_isSimulation (args : List String) :
    args.filter isSimulation = args.filter IsSimulation :=
  List.filter_congr fun arg _ => by
    rw [Bool.eq_iff_iff, decide_eq_true_iff, isSimulation_iff]

theorem isSome_simulation_ofArguments (args : List String) :
    (ofArguments args).simulation.isSome = decide (∃ arg ∈ args, IsSimulation arg) := by
  rw [simulation_ofArguments, filter_isSimulation, Option.isSome_map, Bool.eq_iff_iff,
    decide_eq_true_iff, List.getLast?_isSome, Ne, List.filter_eq_nil_iff]
  simp

/-! ## Flags moved about -/

/-- Whether arguments are others with their flags in other places: what is no flag keeps its order,
and so do the simulation flags among themselves. -/
structure Moved (args args' : List String) : Prop where
  perm : args'.Perm args
  others : args'.filter (¬ IsFlag ·) = args.filter (¬ IsFlag ·)
  simulations : args'.filter IsSimulation = args.filter IsSimulation

theorem find?_isFlag (args : List String) :
    args.find? (!isFlag ·) = (args.filter (¬ IsFlag ·)).head? := by
  rw [List.head?_filter]
  refine congrArg (args.find? ·) (funext fun arg => ?_)
  rw [Bool.eq_iff_iff, decide_eq_true_iff, Bool.not_eq_true', Bool.eq_false_iff, Ne, isFlag_iff]

/-- Wherever the flags stand, the arguments choose the same. -/
theorem ofArguments_eq_of_moved {args args' : List String} (h : Moved args args') :
    ofArguments args' = ofArguments args := by
  rw [Options.mk.injEq]
  refine ⟨?_, ?_, ?_, ?_⟩
  · rw [checkOnly_ofArguments, checkOnly_ofArguments, decide_eq_decide]
    exact h.perm.mem_iff
  · rw [useIni_ofArguments, useIni_ofArguments, decide_eq_decide]
    exact h.perm.mem_iff
  · rw [settingsPath_ofArguments, settingsPath_ofArguments, find?_isFlag, find?_isFlag, h.others]
  · rw [simulation_ofArguments, simulation_ofArguments, filter_isSimulation, filter_isSimulation,
      h.simulations]

/-- The windows do not depend on arguments that are no flags. -/
theorem simulation_eq_of_flags {args args' : List String}
    (h : args'.filter IsFlag = args.filter IsFlag) :
    (ofArguments args').simulation = (ofArguments args).simulation := by
  have hflags : ∀ args : List String, args.filter isSimulation =
      (args.filter IsFlag).filter IsSimulation := by
    intro args
    rw [filter_isSimulation, List.filter_filter]
    refine List.filter_congr fun arg _ => ?_
    by_cases hsimulation : IsSimulation arg
    · simp [hsimulation, hsimulation.isFlag]
    · simp [hsimulation]
  rw [simulation_ofArguments, simulation_ofArguments, hflags, hflags, h]

/-! ## The declarative reading -/

/-- What arguments name as the settings file: the first argument that is no flag, or else a default
one. -/
inductive NamesSettings (default : String) : List String → String → Prop
  | first {before after : List String} {path : String} : (∀ arg ∈ before, IsFlag arg) →
      ¬ IsFlag path → NamesSettings default (before ++ path :: after) path
  | none {args : List String} : (∀ arg ∈ args, IsFlag arg) → NamesSettings default args default

/-- What arguments name as the file of simulated windows, if they ask for any: the file attached to
the last simulation flag, or a default one where that is empty. -/
inductive NamesWindows (default : String) : List String → Option String → Prop
  | last {before after : List String} {flag file : String} : IsSimulation flag →
      Attaches flag file → (∀ arg ∈ after, ¬ IsSimulation arg) →
      NamesWindows default (before ++ flag :: after) (some (if file = "" then default else file))
  | none {args : List String} : (∀ arg ∈ args, ¬ IsSimulation arg) →
      NamesWindows default args Option.none

theorem namesSettings_ofArguments (default : String) (args : List String) :
    NamesSettings default args ((ofArguments args).settingsPath.getD default) := by
  rw [settingsPath_ofArguments]
  cases hfind : args.find? (!isFlag ·) with
  | none =>
    refine .none fun arg harg => ?_
    have hflag := List.find?_eq_none.1 hfind arg harg
    rwa [Bool.not_eq_true', Bool.not_eq_false, isFlag_iff] at hflag
  | some path =>
    obtain ⟨hpath, before, after, rfl, hbefore⟩ := List.find?_eq_some_iff_append.1 hfind
    refine .first (fun arg harg => isFlag_iff.1 ?_) fun hflag => ?_
    · simpa using hbefore arg harg
    · rw [isFlag_iff.2 hflag] at hpath
      cases hpath

/-- An attached file of no name stands for the default one. -/
theorem getD_attached? (default flag : String) :
    (attached? flag).getD default =
      if (attached? flag).getD "" = "" then default else (attached? flag).getD "" := by
  rw [attached?]
  split
  · rfl
  · next hne =>
    rw [Option.getD_some, Option.getD_some, if_neg]
    simpa using hne

theorem namesWindows_ofArguments (default : String) (args : List String) :
    NamesWindows default args
      ((ofArguments args).simulation.map fun file => file.getD default) := by
  rw [simulation_ofArguments, filter_isSimulation]
  cases hlast : (args.filter IsSimulation).getLast? with
  | none =>
    refine .none fun arg harg hsimulation => ?_
    have hnil := List.getLast?_eq_none_iff.1 hlast
    exact List.filter_eq_nil_iff.1 hnil arg harg (decide_eq_true hsimulation)
  | some flag =>
    -- The flags before the last one do not matter, and none comes after it.
    obtain ⟨init, hinit⟩ := List.getLast?_eq_some_iff.1 hlast
    obtain ⟨before, rest, rfl, -, hrest⟩ := List.filter_eq_append_iff.1 hinit
    obtain ⟨between, after, rfl, -, hflag, hafter⟩ := List.filter_eq_cons_iff.1 hrest
    have hnone : ∀ arg ∈ after, ¬ IsSimulation arg := fun arg harg hsimulation =>
      List.filter_eq_nil_iff.1 hafter arg harg (decide_eq_true hsimulation)
    show NamesWindows default _ (some ((attached? flag).getD default))
    rw [getD_attached?, ← List.append_assoc]
    exact .last (of_decide_eq_true hflag) (attaches_attached? flag) hnone

end Options

/-! ## A run -/

namespace Program

open Options

theorem loader_ofArguments (places : Places) (args : List String) :
    loader places (ofArguments args) =
      { path := (ofArguments args).settingsPath.getD
          (if iniFlag ∈ args then places.ini else places.packaged)
        format := if iniFlag ∈ args then .ini scriptName else .document } := by
  rw [loader, useIni_ofArguments]
  by_cases hini : iniFlag ∈ args
  · rw [if_pos (decide_eq_true hini), if_pos hini, if_pos hini]
  · rw [if_neg (by simp [hini]), if_neg hini, if_neg hini]

/-- **What the arguments choose, wherever the flags stand among them.** Settings are read from the
ini file if its flag occurs, and from a document otherwise; the path is the first argument that is
no flag, or the default one. Windows are simulated if some argument is a simulation flag, from the
file attached to the last one, or from the default file. A run on the machine that has these choices
goes by them: by the settings in the file that is chosen, and by windows simulated from the file
that is chosen, or by the actual ones. Other places for the flags change nothing of it, as long as
the simulation flags keep their order, and arguments that are no flags have no part in the choice of
the windows. -/
theorem choices_in_any_order (places : Places) {args : List String} (hrun : checkFlag ∉ args) :
    let options := ofArguments args
    options.checkOnly = false ∧
    (loader places options).format = (if iniFlag ∈ args then .ini scriptName else .document) ∧
    NamesSettings (if iniFlag ∈ args then places.ini else places.packaged) args
      (loader places options).path ∧
    NamesWindows places.windows args
      (options.simulation.map fun _ => windowsPath places options) ∧
    (∀ files tools package desktop rounds sleeps,
      let m := machine places options files tools package desktop
      m.loader = loader places options ∧ m.simulation.path = windowsPath places options ∧
        GoesBy m (decide (∃ arg ∈ args, IsSimulation arg)) rounds sleeps
          ((run options rounds sleeps).run m)) ∧
    (∀ args', Moved args args' → ofArguments args' = options) ∧
    ∀ args', args'.filter IsFlag = args.filter IsFlag →
      (ofArguments args').simulation = options.simulation := by
  intro options
  have hcheck : options.checkOnly = false := by
    rw [checkOnly_ofArguments, decide_eq_false hrun]
  have hwindows := namesWindows_ofArguments places.windows args
  refine ⟨hcheck, ?_, ?_, ?_, ?_, fun _ => ofArguments_eq_of_moved,
    fun _ => simulation_eq_of_flags⟩
  · rw [loader_ofArguments]
  · rw [loader_ofArguments]
    exact namesSettings_ofArguments _ args
  · cases hsimulation : options.simulation with
    | none =>
      rw [hsimulation] at hwindows
      exact hwindows
    | some file =>
      rw [hsimulation] at hwindows
      rw [windowsPath, hsimulation]
      exact hwindows
  · intro files tools package desktop rounds sleeps m
    refine ⟨rfl, rfl, ?_⟩
    rw [← isSome_simulation_ofArguments]
    exact goesBy_run hcheck m rounds sleeps

/-- The flags stand around the path and between two arguments that are of no use; the second of the
simulation flags has an `=` more, and the last has no file. -/
theorem choices_in_any_order_of_three_flags :
    let args := ["--simulate=a=b", "conf", "--kwinrc", "--simulate", "w", "--simulate="]
    let args' := ["--kwinrc", "--simulate=a=b", "--simulate", "--simulate=", "conf", "w"]
    let places : Places := ⟨"packaged", "ini", "windows"⟩
    checkFlag ∉ args ∧ Moved args args' ∧ ofArguments args' = ofArguments args ∧
      (loader places (ofArguments args)).format = .ini scriptName := by
  intro args args' places
  have hrun : checkFlag ∉ args := by decide
  have hmoved : Moved args args' := ⟨by decide, by decide, by decide⟩
  obtain ⟨-, hformat, -, -, -, hsame, -⟩ := choices_in_any_order places hrun
  exact ⟨hrun, hmoved, hsame args' hmoved, hformat⟩

end Program

end Translucency
