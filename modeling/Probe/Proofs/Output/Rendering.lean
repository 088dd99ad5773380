import Probe.Http.Message
import Probe.Output
import Probe.Proofs.Json.RoundTrip

/-!
# Values that are sent and shown

A response that carries a value writes it on one line, and the text that explains a failed assertion writes it
over several lines. Both texts give the value back. Main statements:

* `isJson_ofJson`: a response that carries a value says that it is JSON.
* `rendering_law`: the value that is read of the response, and of what is printed for it.
* `rendering_law_nested`: both texts of a value with escapes, empty containers and the extreme integers.
-/

namespace Probe

open Probe.Text
open Probe.Json

theorem Response.isJson_ofJson (status : Nat) (v : Value) : (Response.ofJson status v).isJson = true := by
  -- The body that is given after it does not change the header.
  have hheader : (Response.ofJson status v).header? "content-type" = some "application/json; charset=utf-8" :=
    (Response.header?_withHeader (.ofStatus status) "content-type" "content-type" _).trans (if_pos rfl)
  rw [Response.isJson, hheader]
  decide

/-- A value whose numbers are integers of 64 bits and whose containers are nested at most 127 deep is read of the
response that carries it, which says that it is JSON. It is also read of what is printed when the response of a
failed assertion is shown. -/
theorem rendering_law (status : Nat) {v : Value} (hv : v.ExactWithin 127) (style : Style) (report : Report)
    (hverbose : style.verbose = true) (hdump : report.response = some (.json v)) :
    (Response.ofJson status v).isJson = true ∧
    (Response.ofJson status v).json = .ok v ∧
    ∃ text, style.responseText? report = some text ∧ Value.read (.ofString text) = .ok v := by
  refine ⟨Response.isJson_ofJson status v, read_compact_of_exactWithin hv, v.pretty, ?_, ?_⟩
  · rw [Style.responseText?, if_pos hverbose, hdump]
    rfl
  · exact read_pretty_of_exactWithin hv

/-- Escapes, containers without parts and the least and the largest integer are kept. -/
theorem rendering_law_nested :
    let v : Value := .object
      [("\\é", .object []),
        ("a\"\n", .array [.number (.integer (-2 ^ 63)), .number (.integer (2 ^ 64 - 1)), .array [], .null])]
    let style : Style := { Style.plain with verbose := true }
    let report : Report := ⟨"t", .failed, "Expected key id not found", false, none, some (.json v)⟩
    v.ExactWithin 127 ∧ style.verbose = true ∧ report.response = some (.json v) ∧
      v.compact = "\x7b\"\\\\é\":\x7b\x7d,\"a\\\"\\n\":[-9223372036854775808,18446744073709551615,[],null]\x7d" ∧
      (Response.ofJson 200 v).isJson = true ∧ (Response.ofJson 200 v).json = .ok v ∧
      ∃ text, style.responseText? report = some text ∧ Value.read (.ofString text) = .ok v := by
  intro v style report
  have hnone : (Value.object []).ExactWithin 126 := .object List.Pairwise.nil fun _ h => absurd h List.not_mem_nil
  have hempty : (Value.array []).ExactWithin 125 := .array fun _ h => absurd h List.not_mem_nil
  have hv : v.ExactWithin 127 := by
    refine .object (by unfold Entries.Ascending; decide) ?_
    rw [List.forall_mem_cons, List.forall_mem_singleton]
    refine ⟨hnone, .array ?_⟩
    simp only [List.forall_mem_cons]
    refine ⟨.scalar (.integer (by decide)), .scalar (.integer (by decide)), hempty, .null, ?_⟩
    exact fun _ h => absurd h List.not_mem_nil
  obtain ⟨hdeclared, hjson, hshown⟩ := rendering_law 200 hv style report rfl rfl
  exact ⟨hv, rfl, rfl, by decide +kernel, hdeclared, hjson, hshown⟩

end Probe
