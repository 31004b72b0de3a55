import Translucency.Proofs.Source.Simulated

/-!
# Listings that end as they are meant to

A listing of simulated windows is meant to end in one of two ways. It gives windows, or it is
refused and the refusal is counted, so that a source that goes on being refused is taken out of
service. A path where nothing stands ends in the first way, and a directory in the second.

A file ends in the first way exactly if its bytes are UTF-8, whatever the text in it is. Other bytes
are a mishap that nobody words and nobody counts: it goes through to whoever asked for the windows,
and the source takes itself to be as healthy as before (`listing_settles_iff`).
-/

namespace Translucency.Simulation

/-! ## Bytes -/

theorem exists_decode_of_isValidUTF8 {content : ByteArray} (h : content.IsValidUTF8) :
    ∃ text, File.decode content = .ok text := by
  obtain ⟨chars, hchars⟩ := Option.isSome_iff_exists.1 (ByteArray.isSome_utf8Decode?_iff.2 h)
  exact ⟨Text.unifyBreaks chars.toList, by rw [File.decode, hchars]⟩

theorem decode_of_not_isValidUTF8 {content : ByteArray} (h : ¬ content.IsValidUTF8) :
    File.decode content = .error .undecodable := by
  have hnone : content.utf8Decode? = none := by
    rw [← Option.not_isSome_iff_eq_none, ByteArray.isSome_utf8Decode?_iff]
    exact h
  rw [File.decode, hnone]

/-! ## Given or refused -/

/-- The two ends that a listing is meant to have, by the health before and after it: it gives
windows, or it is refused, with one failure more counted and the error noted. -/
inductive Settles (before after : Health) : Except Fault (List Window) → Prop
  | given (windows : List Window) : Settles before after (.ok windows)
  | refused (text : String) (hcount : after.failures = before.failures + 1)
    (hnoted : after.lastError = some ("Error reading simulation file: " ++ text)) :
    Settles before after (.error (.source text))

/-- **When a listing ends as it is meant to.** For every source, whatever it has been through, and
whatever stands at its path: unless that is a file whose bytes are not UTF-8. Then the listing stops
with a mishap, nothing is counted, and nothing is written. -/
theorem listing_settles_iff (s : Simulation × File) :
    let o := source.list.run s
    (Settles s.1.health o.state.1.health o.result ↔
      ∀ changed content, s.2 = .file changed content → content.IsValidUTF8) ∧
    (¬ Settles s.1.health o.state.1.health o.result →
      o = ⟨.error (.mishap .undecodable), s, []⟩) := by
  obtain ⟨s, file⟩ := s
  intro o
  have ho : o = _ := run_source_list (s, file)
  cases file with
  | absent =>
    have hsettles : Settles s.health o.state.1.health o.result := .given []
    exact ⟨iff_of_true hsettles nofun, fun h => absurd hsettles h⟩
  | directory changed =>
    have hsettles : Settles s.health o.state.1.health o.result := by
      rw [ho, run_list_directory]
      exact .refused _ rfl rfl
    exact ⟨iff_of_true hsettles nofun, fun h => absurd hsettles h⟩
  | file changed content =>
    by_cases hvalid : content.IsValidUTF8
    · obtain ⟨text, htext⟩ := exists_decode_of_isValidUTF8 hvalid
      have hsettles : Settles s.health o.state.1.health o.result := by
        rw [ho, run_list_of_decode htext]
        exact .given _
      refine ⟨iff_of_true hsettles ?_, fun h => absurd hsettles h⟩
      rintro _ _ ⟨⟩
      exact hvalid
    · have hrun : o = ⟨.error (.mishap .undecodable), (s, .file changed content), []⟩ := by
        rw [ho, run_list_of_decode_error (decode_of_not_isValidUTF8 hvalid)]
      refine ⟨iff_of_false ?_ fun h => hvalid (h changed content rfl), fun _ => hrun⟩
      -- A mishap is neither of the two ends.
      rw [hrun]
      exact nofun

/-- A file of one byte that begins no character: the listing fails, and the health shows nothing of
it. -/
theorem not_settles_one_byte :
    let s : Simulation × File := ({ path := "/tmp/windows" }, .file 0 ⟨#[0xff]⟩)
    let o := source.list.run s
    o.result = .error (.mishap .undecodable) ∧ o.state.1.health = {} ∧
      ¬ Settles s.1.health o.state.1.health o.result := by
  intro s o
  have hnone : (ByteArray.mk #[0xff]).utf8Decode? = none := by decide
  have hdecode : File.decode ⟨#[0xff]⟩ = .error .undecodable := by rw [File.decode, hnone]
  have hrun : o = ⟨.error (.mishap .undecodable), s, []⟩ := by
    rw [show o = _ from run_source_list s, run_list_of_decode_error hdecode]
  rw [hrun]
  exact ⟨rfl, rfl, nofun⟩

end Translucency.Simulation
