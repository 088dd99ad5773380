import Probe.Proofs.Case.Request
import Probe.Proofs.Expectation.Fields
import Probe.Proofs.Json.RoundTrip

/-!
# Bodies of requests

The body of a request is an object with a member for each parameter, in order of the names. Whatever characters
the names and the texts have, and whether or not a text is JSON itself, the body gives them back. Main statements:

* `read_renderBody`: what is read of a body.
* `get?_bodyMembers`, `perm_keys_bodyMembers`: its members are the parameters.
* `body_law`: the bodies that are sent.
* `body_law_escaped`: a body whose texts look like JSON.
-/

namespace Probe.Case

open Probe.Text
open Probe.Json

/-- The members of the body: the parameters with their resolved texts. -/
def bodyMembers (c : Case) (store : Store) : List (String × Value) :=
  membersOf (c.params.entries.map fun (name, e) => (name, .string (e.resolve store)))

theorem ascending_bodyMembers (c : Case) (store : Store) : Entries.Ascending (c.bodyMembers store) :=
  ascending_membersOf _

/-- What is read of a body is what was written into it. -/
theorem read_renderBody (c : Case) (store : Store) :
    Value.read (.ofString (c.renderBody store)) = .ok (.object (c.bodyMembers store)) := by
  refine read_compact_of_exactWithin (.object (c.ascending_bodyMembers store) fun m hm => ?_)
  -- All members are texts, and none of them is nested.
  obtain ⟨f, -, rfl⟩ := List.mem_map.1 (mem_of_mem_membersOf hm)
  exact .scalar (.string _)

section

variable (c : Case) (store : Store) (hnames : c.params.names.Nodup)

include hnames

theorem get?_bodyMembers (name : String) :
    Entries.get? name (c.bodyMembers store) =
      (c.params.get? name).map fun e => .string (e.resolve store) := by
  have hkeys : ((c.params.entries.map fun (name, e) => (name, Value.string (e.resolve store))).map
      Prod.fst).Nodup := by
    rwa [List.map_map]
  rw [bodyMembers, get?_membersOf hkeys, FieldMap.get?]
  clear hkeys hnames
  induction c.params.entries with
  | nil => rfl
  | cons f rest ih =>
      rw [List.map_cons, Entries.get?, Entries.get?, ih]
      split <;> rfl

theorem perm_keys_bodyMembers : ((c.bodyMembers store).map Prod.fst).Perm c.params.names := by
  have hkeys := Entries.nodup_of_ascending (c.ascending_bodyMembers store)
  refine (List.perm_ext_iff_of_nodup hkeys hnames).2 fun name => ?_
  rw [← not_iff_not, ← Entries.get?_eq_none_iff, c.get?_bodyMembers store hnames, Option.map_eq_none_iff]
  exact Entries.get?_eq_none_iff

end

/-- A waiting case that meets no obstacle sends one request, with a body unless its method is GET. Every body that
is sent is read as an object: it has the names of the parameters for its keys, each one once, and at each name the
text that the expectation of this parameter resolves to. The parameters may have been inserted in any way. -/
theorem body_law {σ : Type} (transport : Transport σ) (base : String) (c : Case) (store : Store) (s : σ)
    (inserts : List (String × Expectation)) (hparams : c.params = .ofList inserts) (hmethod : c.method ≠ .get) :
    let sent := (c.execute transport.recording base store (s, [])).2.2.2
    (c.status = .waiting → (¬ ∃ message, c.Obstructed store message) → ∃ request, sent = [request]) ∧
    ∀ request ∈ sent, ∃ body members, request.body = some body ∧
      Value.read (.ofString body) = .ok (.object members) ∧
      (members.map Prod.fst).Perm c.params.names ∧
      ∀ name, Entries.get? name members = (c.params.get? name).map fun e => .string (e.resolve store) := by
  intro sent
  have hnames : c.params.names.Nodup := hparams ▸ FieldMap.nodup_names_ofList inserts
  have hsent : sent = c.sends base store := by
    show (c.execute transport.recording base store (s, [])).2.2.2 = _
    rw [execute_recording]
    rfl
  rw [hsent]
  rcases c.request_cases base store with ⟨why, hrequest, hobstructed⟩ | ⟨request, hrequest, hfree, hcomposed⟩
  · rw [sends_of_obstacle c base store hrequest]
    exact ⟨fun _ hfree => absurd ⟨_, hobstructed⟩ hfree, fun _ h => absurd h List.not_mem_nil⟩
  · constructor
    · intro hw _
      exact ⟨request, sends_of_request c base store (c.not_isFinal_of_waiting hw) hrequest⟩
    · intro request' hmem
      have hfinal : ¬ c.state.isFinal = true := by
        intro hfinal
        rw [sends_of_isFinal c base store hfinal] at hmem
        cases hmem
      rw [sends_of_request c base store hfinal hrequest, List.mem_singleton] at hmem
      subst hmem
      exact ⟨c.renderBody store, c.bodyMembers store, hcomposed.body hmethod, c.read_renderBody store,
        c.perm_keys_bodyMembers store hnames, c.get?_bodyMembers store hnames⟩

/-- Quotes, backslashes, line breaks and a text that is JSON itself arrive as they are. A name that is given twice
has the text that was given last, and keeps no trace of the other one. -/
theorem body_law_escaped :
    let inserts : List (String × Expectation) :=
      [("é", .parse "[1, \"\"]"), ("a\"", .parse "first"), ("a\"", .parse "\\{X}")]
    let c := (Case.new "t" .post "/t").withParams (.ofList inserts)
    let store := Store.set .empty "X" "1\n2"
    let request : Request :=
      { method := .post, url := "http://h/t", headers := [("Content-Type", "application/json")]
        body := some "\x7b\"a\\\"\":\"1\\n2\",\"é\":\"[1, \\\"\\\"]\"\x7d" }
    let sent := (c.execute Script.transport.recording "http://h" store (Script.empty, [])).2.2.2
    c.params = .ofList inserts ∧ c.method ≠ .get ∧ sent = [request] ∧
      ∃ body members, request.body = some body ∧ Value.read (.ofString body) = .ok (.object members) ∧
        (members.map Prod.fst).Perm ["é", "a\""] ∧
        Entries.get? "a\"" members = some (.string "1\n2") ∧
        Entries.get? "é" members = some (.string "[1, \"\"]") := by
  intro inserts c store request sent
  have hsent : sent = [request] := by decide +kernel
  have hmem : request ∈ sent := by
    rw [hsent]
    exact List.mem_singleton_self request
  obtain ⟨body, members, hbody, hread, hkeys, hvalues⟩ :=
    (body_law Script.transport "http://h" c store Script.empty inserts rfl (by decide)).2 request hmem
  exact ⟨rfl, by decide, hsent, body, members, hbody, hread, hkeys, hvalues "a\"", hvalues "é"⟩

end Probe.Case
