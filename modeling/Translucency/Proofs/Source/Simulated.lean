import Translucency.Proofs.Source.Health
import Translucency.Source.Simulation

/-!
# Listing simulated windows

What stands in the file of the source decides which windows there are (`Simulation.snapshot?`); the
source adds the opacities that it remembers and counts the success or the failure. Nothing else of
the source changes at a listing (`run_list_of_some`, `run_list_of_none`), so the windows may be
spoken of without it. Their names are texts or absent, so each has an identity.
-/

namespace Translucency.Simulation

/-- The windows that a file describes, or nothing if it cannot be read. The opacities in them are
those of windows that were given none. -/
def snapshot? : File → Option (List Window)
  | .absent => some []
  | .directory _ => none
  | .file _ content =>
    match File.decode content with
    | .ok text => some (windows [] text)
    | .error _ => none

/-- A window with the opacity that is remembered for it. -/
def recalled (opacities : List (String × Binary64)) (w : Window) : Window :=
  { w with opacity := .float ((opacities.lookup w.id).getD (.ofInt 1)) }

/-! ## The windows of a text -/

/-- Remembered opacities are all that the source adds to a text. -/
theorem windows_eq_map (opacities : List (String × Binary64)) (text : List Char) :
    windows opacities text = (windows [] text).map (recalled opacities) := by
  unfold windows
  rw [List.map_map]
  exact List.map_congr_left fun _ _ => rfl

theorem nameOf_cases (field : List Char) :
    nameOf field = .null ∨ ∃ s, nameOf field = .text s := by
  unfold nameOf
  split
  · exact .inl rfl
  · exact .inr ⟨_, rfl⟩

/-- A window has an identity unless one of its names is neither a text nor absent. -/
theorem exists_identity {w : Window}
    (h : ∀ v ∈ [w.resourceClass, w.resourceName, w.caption], v = .null ∨ ∃ s, v = .text s) :
    ∃ identity, w.identity = .ok identity := by
  unfold Window.identity
  cases hfind : [w.resourceClass, w.resourceName, w.caption].find? Value.truthy with
  | none => exact ⟨[], rfl⟩
  | some v =>
    have htruthy := List.find?_some hfind
    obtain rfl | ⟨s, rfl⟩ := h v (List.mem_of_find?_eq_some hfind)
    · cases htruthy
    · exact ⟨_, rfl⟩

theorem exists_identity_of_mem {file : File} {windows : List Window} {w : Window}
    (h : snapshot? file = some windows) (hw : w ∈ windows) :
    ∃ identity, w.identity = .ok identity := by
  cases file with
  | absent =>
    cases h
    cases hw
  | directory changed => cases h
  | file changed content =>
    unfold snapshot? at h
    cases hdecode : File.decode content with
    | error _ => simp [hdecode] at h
    | ok text =>
      simp only [hdecode, Option.some.injEq] at h
      subst h
      obtain ⟨e, _, rfl⟩ := List.mem_map.1 hw
      refine exists_identity fun v hv => ?_
      simp only [List.mem_cons, List.not_mem_nil, or_false] at hv
      obtain rfl | rfl | rfl := hv
      · exact nameOf_cases _
      · exact nameOf_cases _
      · exact nameOf_cases _

theorem exists_identity_of_mem_map {file : File} {windows : List Window}
    (h : snapshot? file = some windows) (opacities : List (String × Binary64)) :
    ∀ w ∈ windows.map (recalled opacities), ∃ identity, w.identity = .ok identity := by
  intro w hw
  obtain ⟨w', hw', rfl⟩ := List.mem_map.1 hw
  have hidentity : (recalled opacities w').identity = w'.identity := rfl
  rw [hidentity]
  exact exists_identity_of_mem h hw'

/-! ## Listing -/

theorem run_list_absent (s : Simulation) : (list .absent).run s = ⟨.ok [], s, []⟩ := rfl

/-- A directory makes the listing fail, which is counted. -/
theorem run_list_directory (changed : Int) (s : Simulation) :
    let text := "[Errno 21] Is a directory: " ++ String.ofList (Text.quoted s.path.toList)
    let error := "Error reading simulation file: " ++ text
    (list (.directory changed)).run s =
      ⟨.error (.source text), { s with health := s.health.after (some error) },
        Health.notice .simulation sourceName s.health (some error)⟩ := by
  intro text error
  have hnote := Health.run_note_on healthPart .simulation sourceName (some error) s
  simp only [list]
  rw [Act.run_bind_eq (Act.run_read s), Outcome.after_nil, note, Act.run_bind_eq hnote,
    Act.run_fail, Outcome.after_mk, List.append_nil]
  rfl

/-- A text gives its windows, which is counted. -/
theorem run_list_of_decode {content : ByteArray} {text : List Char}
    (h : File.decode content = .ok text) (changed : Int) (s : Simulation) :
    (list (.file changed content)).run s =
      ⟨.ok (windows s.opacities text), { s with health := s.health.after none }, []⟩ := by
  have hnote := Health.run_note_on healthPart .simulation sourceName none s
  simp only [list, h, mapError_ok]
  rw [Act.run_bind_eq (Act.run_lift _ s), Outcome.after_nil, Act.run_bind_eq (Act.run_read s),
    Outcome.after_nil, note, Act.run_bind_eq hnote]
  rfl

/-- Bytes that are no text stop the listing before anything is counted. -/
theorem run_list_of_decode_error {content : ByteArray} {mishap : Mishap}
    (h : File.decode content = .error mishap) (changed : Int) (s : Simulation) :
    (list (.file changed content)).run s = ⟨.error (.mishap mishap), s, []⟩ := by
  simp only [list, h, mapError_error]
  rw [Act.run_bind_eq_of_error (Act.run_lift _ s)]

/-- A file that can be read gives its windows, with the opacities that are remembered. -/
theorem run_list_of_some {file : File} {windows : List Window} (h : snapshot? file = some windows)
    (s : Simulation) :
    ∃ health log, (list file).run s =
      ⟨.ok (windows.map (recalled s.opacities)), { s with health := health }, log⟩ := by
  cases file with
  | absent =>
    cases h
    exact ⟨s.health, [], run_list_absent s⟩
  | directory changed => cases h
  | file changed content =>
    unfold snapshot? at h
    cases hdecode : File.decode content with
    | error _ => simp [hdecode] at h
    | ok text =>
      simp only [hdecode, Option.some.injEq] at h
      subst h
      rw [← windows_eq_map]
      exact ⟨_, _, run_list_of_decode hdecode changed s⟩

/-- A file that cannot be read makes the listing fail. -/
theorem run_list_of_none {file : File} (h : snapshot? file = none) (s : Simulation) :
    ∃ fault health log, (list file).run s = ⟨.error fault, { s with health := health }, log⟩ := by
  cases file with
  | absent => cases h
  | directory changed => exact ⟨_, _, _, run_list_directory changed s⟩
  | file changed content =>
    unfold snapshot? at h
    cases hdecode : File.decode content with
    | ok text => simp [hdecode] at h
    | error mishap => exact ⟨_, s.health, [], run_list_of_decode_error hdecode changed s⟩

/-- The source lists what stands at its path, and leaves that as it is. -/
theorem run_source_list (s : Simulation × File) :
    source.list.run s =
      ⟨((list s.2).run s.1).result, (((list s.2).run s.1).state, s.2),
        ((list s.2).run s.1).log⟩ := rfl

end Translucency.Simulation
