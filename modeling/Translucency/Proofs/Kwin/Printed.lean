import Translucency.Kwin.Journal
import Translucency.Proofs.Json.OneLine

/-!
# What the listing script prints

The listing script prints the number of windows, a line for each window, and an end, each after the
marker (`printed`). The line of a window is an object with its members. `Shown` is what the script
finds of a window and `Shown.window` what the program is to make of it; the object reads back as
that (`Shown.windowOfMessage_members`).
-/

namespace Translucency.Kwin

open Json Text

/-- A window as the listing script finds it. -/
structure Shown where
  id : String
  resourceClass : Option String
  resourceName : Option String
  caption : Option String
  isNormal : Bool
  isFullScreen : Bool
  /-- The opacity. It is left out if the window has none, and null if it is no finite number. -/
  opacity : Option (Option NumberText)

namespace Shown

/-- What stands under a name. An empty one is written as an absent one. -/
def nameItem : Option String → Item
  | some s => if s.isEmpty then .null else .text s.toList
  | none => .null

/-- What stands under the opacity, if anything. -/
def opacityMember : Option (Option NumberText) → List Member
  | none => []
  | some none => [("opacity".toList, .null)]
  | some (some n) => [("opacity".toList, .number n)]

/-- The members of the object for a window. -/
def members (w : Shown) : List Member :=
  [("id".toList, .text w.id.toList), ("resourceClass".toList, nameItem w.resourceClass),
    ("resourceName".toList, nameItem w.resourceName), ("caption".toList, nameItem w.caption),
    ("normalWindow".toList, .bool w.isNormal), ("fullScreen".toList, .bool w.isFullScreen)] ++
  opacityMember w.opacity

/-- The opacity that a number stands for; a window without one is opaque. -/
def opacityOf (opacity : Option (Option NumberText)) : Binary64 :=
  (opacity.join.bind fun n => n.value.toBinary64.toOption).getD (.ofInt 1)

/-- The window. -/
def window (w : Shown) : Window where
  id := w.id
  resourceClass := (nameItem w.resourceClass).value
  resourceName := (nameItem w.resourceName).value
  caption := (nameItem w.caption).value
  isNormal := w.isNormal
  isFullScreen := w.isFullScreen
  opacity := .float (opacityOf w.opacity)

/-- Whether none of the texts of a window holds a raw line end. -/
def IsPlain (w : Shown) : Prop :=
  ∀ s ∈ w.id :: (w.resourceClass.toList ++ w.resourceName.toList ++ w.caption.toList),
    Text.IsPlain s.toList

instance (w : Shown) : Decidable w.IsPlain := List.decidableBAll _ _

/-! ## The members -/

theorem isPlain_nameItem_iff (name : Option String) :
    (nameItem name).IsPlain ↔ ∀ s ∈ name, Text.IsPlain s.toList := by
  cases name with
  | none => simp [nameItem, Item.IsPlain]
  | some s =>
    cases hempty : s.isEmpty with
    | true =>
      have hs : s.toList = [] := by simpa using hempty
      simp [nameItem, hempty, Item.IsPlain, Text.IsPlain, hs]
    | false => simp [nameItem, hempty, Item.IsPlain]

/-- A window is plain exactly if all that is written of it is. -/
theorem isPlain_iff (w : Shown) : w.IsPlain ↔ ∀ m ∈ w.members, m.2.IsPlain := by
  have hopacity : ∀ m ∈ opacityMember w.opacity, m.2.IsPlain := by
    cases w.opacity with
    | none => simp [opacityMember]
    | some number => cases number <;> simp [opacityMember, Item.IsPlain]
  rw [members, List.forall_mem_append, and_iff_left hopacity]
  simp only [List.forall_mem_cons, isPlain_nameItem_iff]
  simp [IsPlain, Item.IsPlain, or_imp, forall_and]

theorem names_members (w : Shown) :
    w.members.map (·.1) =
      ["id".toList, "resourceClass".toList, "resourceName".toList, "caption".toList,
        "normalWindow".toList, "fullScreen".toList] ++
      if w.opacity.isSome then ["opacity".toList] else [] := by
  rw [members, List.map_append]
  congr 1
  cases w.opacity with
  | none => rfl
  | some number => cases number <;> rfl

theorem nodup_names (w : Shown) : (w.members.map (·.1)).Nodup := by
  rw [names_members]
  split
  · decide
  · decide

theorem isPlain_names (w : Shown) : ∀ m ∈ w.members, Text.IsPlain m.1 := by
  have hnames : ∀ name ∈ w.members.map (·.1), Text.IsPlain name := by
    rw [names_members]
    split
    · decide
    · decide
  exact fun m hm => hnames m.1 (List.mem_map_of_mem hm)

/-- The object of a plain window is one line. -/
theorem IsPlain.isLine_objectText {w : Shown} (h : w.IsPlain) : IsLine (objectText w.members) :=
  Json.isLine_objectText fun m hm => ⟨w.isPlain_names m hm, w.isPlain_iff.1 h m hm⟩

/-! ## Reading back -/

/-- A name that is written is no empty text, so it stays what it is where empty ones are dropped. -/
theorem orElse_value_nameItem (name : Option String) :
    (nameItem name).value.orElse .null = (nameItem name).value := by
  cases name with
  | none => rfl
  | some s =>
    cases hempty : s.isEmpty with
    | true => simp [nameItem, hempty, Item.value, Value.orElse]
    | false => simp [nameItem, hempty, Item.value, Value.orElse, Value.truthy]

/-- What stands under the opacity, as it is read. -/
def opacityValue (opacity : Option (Option NumberText)) : Value :=
  (((opacityMember opacity).find? (·.1 == "opacity".toList)).map (·.2.value)).getD .null

/-- Either nothing is read as the opacity, or the opacity is. -/
theorem opacityValue_cases (opacity : Option (Option NumberText)) :
    (opacityValue opacity = .null ∧ opacityOf opacity = .ofInt 1) ∨
      (opacityValue opacity ≠ .null ∧
        (opacityValue opacity).toBinary64 = .ok (opacityOf opacity)) := by
  cases opacity with
  | none =>
    exact .inl ⟨rfl, by rw [opacityOf, Option.join_none, Option.bind_none, Option.getD_none]⟩
  | some number =>
    cases number with
    | none =>
      exact .inl ⟨rfl, by rw [opacityOf, Option.join_some, Option.bind_none, Option.getD_none]⟩
    | some n =>
      have hvalue : opacityValue (some (some n)) = n.value := rfl
      obtain ⟨x, hx⟩ := n.exists_toBinary64
      have hopacity : opacityOf (some (some n)) = x := by
        rw [opacityOf, Option.join_some, Option.bind_some, hx, Except.toOption, Option.getD_some]
      refine .inr ⟨?_, ?_⟩
      · rw [hvalue, NumberText.value]
        split <;> simp
      · rw [hvalue, hopacity, hx]

/-- **The object of a window reads back as the window.** -/
theorem windowOfMessage_members (w : Shown) :
    windowOfMessage (.map (collect [] w.members)) = .ok w.window := by
  let found (name : String) : Option Value :=
    (w.members.find? (·.1 == name.toList)).map (·.2.value)
  have hid : found "id" = some (.text (String.ofList w.id.toList)) := rfl
  have hclass : found "resourceClass" = some (nameItem w.resourceClass).value := rfl
  have hname : found "resourceName" = some (nameItem w.resourceName).value := rfl
  have hcaption : found "caption" = some (nameItem w.caption).value := rfl
  have hnormal : found "normalWindow" = some (.bool w.isNormal) := rfl
  have hscreen : found "fullScreen" = some (.bool w.isFullScreen) := rfl
  have hopacity : (found "opacity").getD .null = opacityValue w.opacity := by
    simp only [found, members, List.find?_append]
    rfl
  -- The names are different, so the map gives for each what the member of that name holds.
  have hlookup : ∀ name, Value.lookup? (.text name) (collect [] w.members) = found name := by
    intro name
    rw [collect_of_nodup w.nodup_names, lookup?_map]
  unfold windowOfMessage
  simp only [hlookup, hid, hclass, hname, hcaption, hnormal, hscreen, hopacity, Option.getD_some,
    orElse_value_nameItem, String.ofList_toList]
  obtain ⟨hvalue, hone⟩ | ⟨hvalue, hx⟩ := opacityValue_cases w.opacity
  · simp only [hvalue, window, hone]
    rfl
  · split
    · next hnull => exact absurd hnull hvalue
    · rw [hx]
      rfl

end Shown

/-! ## Lines -/

/-- What opens each line of a script. -/
def opening (marker : String) : List Char := marker.toList ++ [':']

/-- What the first line of a listing says. -/
def header (count : Nat) : String := countWord ++ toString count

/-- The lines that the listing script prints under a marker. -/
def printed (marker : String) (windows : List Shown) : List (List Char) :=
  (opening marker ++ (header windows.length).toList) ::
    (windows.map fun w => opening marker ++ objectText w.members) ++
    [opening marker ++ endWord.toList]

end Translucency.Kwin
