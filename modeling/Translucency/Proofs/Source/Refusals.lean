import Translucency.Proofs.Source.Simulated
import Translucency.Proofs.Source.Streak

/-!
# What the health of simulated windows tells

A source that reads its windows from a file is refused a listing where a directory stands at the
path. Its health should tell of that (`Health.Tells`): it should count the refusals since the last
listing that gave windows, and be lost after three in a row.

It does not quite. The listing of a missing file gives no windows, which is a success, but it
returns before anything is counted. So the health tells of those listings alone that found something
at the path (`tells_found`). It tells of all of them as long as nothing is missing while failures
are counted, and not otherwise (`tells_iff_never_missed`). What comes of it is that refusals count
as a streak though there were successes between them (`not_tells_missing_file`).
-/

namespace Translucency.Simulation

/-! ## Listings -/

/-- A listing: what stood at the path, and what came of it. -/
structure Listing where
  file : File
  result : Except Fault (List Window)

namespace Listing

/-- Whether nothing stood at the path. -/
def isMissing (l : Listing) : Bool :=
  match l.file with
  | .absent => true
  | _ => false

/-- Whether a listing was refused or gave windows. One that a mishap stopped did neither. -/
def refused? (l : Listing) : Option Bool :=
  match l.result with
  | .ok _ => some false
  | .error (.source _) => some true
  | .error _ => none

end Listing

/-- Which listings were refused, of those that were refused or gave windows. -/
def refusals (listings : List Listing) : List Bool := listings.filterMap Listing.refused?

/-- The listings of what stood at the path. -/
def found (listings : List Listing) : List Listing := listings.filter (!·.isMissing)

theorem refusals_cons_of_none {l : Listing} (h : l.refused? = none) (past : List Listing) :
    refusals (l :: past) = refusals past := List.filterMap_cons_none h

theorem refusals_cons_of_some {l : Listing} {refused : Bool} (h : l.refused? = some refused)
    (past : List Listing) : refusals (l :: past) = refused :: refusals past :=
  List.filterMap_cons_some h

theorem found_cons_of_isMissing {l : Listing} (h : l.isMissing = true) (past : List Listing) :
    found (l :: past) = found past := by
  rw [found, List.filter_cons_of_neg (by rw [h]; decide), found]

theorem found_cons_of_not_isMissing {l : Listing} (h : l.isMissing = false)
    (past : List Listing) : found (l :: past) = l :: found past := by
  rw [found, List.filter_cons_of_pos (by rw [h]; decide), found]

/-! ## Histories -/

/-- What happens to a source and its path. -/
inductive Event where
  /-- Something else stands at the path. -/
  | replace (file : File)
  | list
  | setOpacity (w : Window) (opacity : Binary64)

def step (s : Simulation × File) : Event → Simulation × File
  | .replace file => (s.1, file)
  | .list => (source.list.run s).state
  | .setOpacity w opacity => ((source.setOpacity w opacity).run s).state

/-- A fresh source, with what stands at its path, after some events. The latest of them comes
first. -/
def after (path : String) (file : File) : List Event → Simulation × File
  | [] => ({ path }, file)
  | event :: past => step (after path file past) event

/-- The health of a fresh source after some events. -/
def healthAfter (path : String) (file : File) (events : List Event) : Health :=
  (after path file events).1.health

/-- The listings among some events, the latest first. -/
def listings (path : String) (file : File) : List Event → List Listing
  | [] => []
  | .list :: past =>
    let s := after path file past
    ⟨s.2, (source.list.run s).result⟩ :: listings path file past
  | _ :: past => listings path file past

variable {path : String} {file : File} {past : List Event}

/-- What a listing does to a health. One that found nothing at the path, or that a mishap stopped,
does nothing. Any other is counted as what it was. -/
inductive Moves (before : Health) (l : Listing) : Health → Prop
  | missing (hmissing : l.isMissing = true) (hgave : l.refused? = some false) :
    Moves before l before
  | stopped (hfound : l.isMissing = false) (hneither : l.refused? = none) :
    Moves before l before
  | counted (result : Option String) (hfound : l.isMissing = false)
    (hresult : l.refused? = some result.isSome) : Moves before l (before.after result)

theorem exists_listings_eq_cons (path : String) (file : File) (past : List Event) :
    ∃ l, listings path file (.list :: past) = l :: listings path file past ∧
      (l.isMissing = true ↔ (after path file past).2 = .absent) ∧
      Moves (healthAfter path file past) l (healthAfter path file (.list :: past)) := by
  refine ⟨_, rfl, ?_⟩
  unfold healthAfter
  rw [after, step, run_source_list]
  generalize after path file past = s
  obtain ⟨s, now⟩ := s
  cases now with
  | absent => exact ⟨iff_of_true rfl rfl, .missing rfl rfl⟩
  | directory changed =>
    rw [run_list_directory]
    exact ⟨iff_of_false nofun nofun, .counted (some _) rfl rfl⟩
  | file changed content =>
    refine ⟨iff_of_false nofun nofun, ?_⟩
    cases hdecode : File.decode content with
    | error mishap =>
      rw [run_list_of_decode_error hdecode]
      exact .stopped rfl rfl
    | ok text =>
      rw [run_list_of_decode hdecode]
      exact .counted none rfl rfl

/-! ## What the health tells -/

/-- The health tells of the listings that found something at the path. -/
theorem tells_found (path : String) (file : File) (events : List Event) :
    (healthAfter path file events).Tells (refusals (found (listings path file events))) := by
  induction events with
  | nil => exact .fresh
  | cons event past ih =>
    cases event with
    | replace file' => exact ih
    | setOpacity w opacity => exact ih
    | list =>
      obtain ⟨l, hlistings, -, hmoves⟩ := exists_listings_eq_cons path file past
      rw [hlistings]
      generalize healthAfter path file (.list :: past) = health at hmoves
      cases hmoves with
      | missing hmissing hgave =>
        rw [found_cons_of_isMissing hmissing]
        exact ih
      | stopped hfound hneither =>
        rw [found_cons_of_not_isMissing hfound, refusals_cons_of_none hneither]
        exact ih
      | counted result hfound hresult =>
        rw [found_cons_of_not_isMissing hfound, refusals_cons_of_some hresult]
        exact ih.after result

/-- It tells of all listings if nothing was missing while failures were counted. -/
theorem tells_of_never_missed {events : List Event}
    (h : ∀ past, .list :: past <:+ events → (after path file past).2 = .absent →
      (healthAfter path file past).failures = 0) :
    (healthAfter path file events).Tells (refusals (listings path file events)) := by
  induction events with
  | nil => exact .fresh
  | cons event past ih =>
    have hpast := ih fun earlier hsuffix => h earlier (hsuffix.trans (List.suffix_cons event past))
    cases event with
    | replace file' => exact hpast
    | setOpacity w opacity => exact hpast
    | list =>
      obtain ⟨l, hlistings, habsent, hmoves⟩ := exists_listings_eq_cons path file past
      rw [hlistings]
      generalize healthAfter path file (.list :: past) = health at hmoves
      cases hmoves with
      | missing hmissing hgave =>
        rw [refusals_cons_of_some hgave]
        exact hpast.idle (h past List.suffix_rfl (habsent.1 hmissing))
      | stopped hfound hneither =>
        rw [refusals_cons_of_none hneither]
        exact hpast
      | counted result hfound hresult =>
        rw [refusals_cons_of_some hresult]
        exact hpast.after result

/-- **What the health of simulated windows tells.** After every history of a fresh source, its
health tells of the listings that found something at the path. It tells of all listings, throughout
a history, exactly if nothing was ever missing while failures were counted. -/
theorem tells_iff_never_missed (path : String) (file : File) (events : List Event) :
    (healthAfter path file events).Tells (refusals (found (listings path file events))) ∧
      ((∀ past, past <:+ events →
          (healthAfter path file past).Tells (refusals (listings path file past))) ↔
        ∀ past, .list :: past <:+ events → (after path file past).2 = .absent →
          (healthAfter path file past).failures = 0) := by
  refine ⟨tells_found path file events, fun htells past hsuffix habsent => ?_,
    fun hnever past hsuffix => tells_of_never_missed fun earlier hearlier =>
      hnever earlier (hearlier.trans hsuffix)⟩
  -- The listing of a missing file gave windows, so after it there should be nothing to count.
  obtain ⟨l, hlistings, hmissing, hmoves⟩ := exists_listings_eq_cons path file past
  have hlist := (htells (.list :: past) hsuffix).failures
  rw [hlistings] at hlist
  generalize healthAfter path file (.list :: past) = health at hmoves hlist
  cases hmoves with
  | missing _ hgave =>
    rw [refusals_cons_of_some hgave] at hlist
    exact hlist
  | stopped hfound _ =>
    rw [hmissing.2 habsent] at hfound
    cases hfound
  | counted result hfound _ =>
    rw [hmissing.2 habsent] at hfound
    cases hfound

/-- A directory at the path, then nothing: the listing that gives no windows leaves the refusal
counted. Two more directories, with another success before the last of them, and the source is out
of service without two refusals in a row. -/
theorem not_tells_missing_file :
    let refusal : List Event := [.list, .replace (.directory 0)]
    let success : List Event := [.list, .replace .absent]
    let once := success ++ refusal
    let thrice := refusal ++ success ++ refusal ++ once
    (refusals (listings "/tmp/windows" .absent once) = [false, true] ∧
      (healthAfter "/tmp/windows" .absent once).failures = 1) ∧
    (refusals (listings "/tmp/windows" .absent thrice) = [true, false, true, false, true] ∧
      (healthAfter "/tmp/windows" .absent thrice).available = false) ∧
    ¬ (healthAfter "/tmp/windows" .absent once).Tells
        (refusals (listings "/tmp/windows" .absent once)) := by
  intro refusal success once thrice
  have hrefusals : refusals (listings "/tmp/windows" .absent once) = [false, true] := by
    decide +kernel
  have hfailures : (healthAfter "/tmp/windows" .absent once).failures = 1 := by decide +kernel
  refine ⟨⟨hrefusals, hfailures⟩, ⟨by decide +kernel, by decide +kernel⟩, fun htells => ?_⟩
  have hcount := htells.failures
  rw [hrefusals, hfailures] at hcount
  exact absurd hcount (by decide)

end Translucency.Simulation
