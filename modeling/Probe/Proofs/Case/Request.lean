import Mathlib.Data.List.Forall2
import Probe.Http.Script
import Probe.Proofs.Case.Execution

/-!
# What is sent

A waiting case that is executed either meets an obstacle before it sends anything, or sends one request. The
obstacles are looked for in order: a flaw of the definition, a token that is missing, a placeholder of the
route without a parameter. The request goes to the base URL followed by the route with its placeholders
filled. Main statements:

* `missingRouteParams_ne_nil_iff`: which routes lack a parameter.
* `filled_fillSegment`, `resolveRoute?_cases`: a route is filled segment by segment.
* `request_cases`: why there is no request, or which one there is.
* `sending_law`: what an execution sends, and how it ends if it sends nothing.
-/

namespace Probe.Case

open Probe.Text

/-- A segment of a route is a placeholder of a name. -/
def Names (segment : List Char) (name : String) : Prop :=
  name ≠ "" ∧ segment = ':' :: name.toList

/-- A case cannot send anything, for a reason that is worded. -/
inductive Obstructed (c : Case) (store : Store) : String → Prop where
  | flaw {reason : String} (hflaw : c.flaw = some reason) : Obstructed c store reason
  | token (hflaw : c.flaw = none) (hguarded : c.guarded = true) (htoken : store.get? "TOKEN" = none) :
      Obstructed c store "No token found"
  | parameters {segments : List (List Char)} {segment : List Char} {name : String} (hflaw : c.flaw = none)
      (htoken : c.guarded = true → store.get? "TOKEN" ≠ none) (hcut : IsCut '/' c.route.toList segments)
      (hsegment : segment ∈ segments) (hname : Names segment name)
      (hmissing : c.routeParams.get? name = none) : Obstructed c store "Missing parameters"

/-- What is sent for a segment of a route: the resolved parameter of a placeholder, as it is, and any other
segment itself. -/
inductive Filled (c : Case) (store : Store) : List Char → List Char → Prop where
  | parameter {segment : List Char} {name : String} {e : Expectation} (hname : Names segment name)
      (hparam : c.routeParams.get? name = some e) : Filled c store segment (e.resolve store).toList
  | verbatim {segment : List Char} (hplain : ∀ name, ¬ Names segment name) : Filled c store segment segment

/-- The headers of a case: the content type, and the token if one is asked for. -/
inductive Headed (c : Case) (store : Store) : List (String × String) → Prop where
  | unguarded (hguarded : c.guarded = false) : Headed c store [("Content-Type", "application/json")]
  | guarded {token : String} (hguarded : c.guarded = true) (htoken : store.get? "TOKEN" = some token) :
      Headed c store [("Content-Type", "application/json"), ("Authorization", "Bearer " ++ token)]

/-- A base URL without the slashes at its end. -/
def IsStem (base stem : List Char) : Prop :=
  (∃ n, base = stem ++ List.replicate n '/') ∧ stem.getLast? ≠ some '/'

/-- The request of a case. -/
structure Composed (c : Case) (base : String) (store : Store) (request : Request) : Prop where
  method : request.method = c.method
  url : ∃ stem segments filled, IsStem base.toList stem ∧ IsCut '/' c.route.toList segments ∧
    List.Forall₂ (c.Filled store) segments filled ∧ request.url.toList = stem ++ join '/' filled
  headers : c.Headed store request.headers
  noBody : c.method = .get → request.body = none
  body : c.method ≠ .get → request.body = some (c.renderBody store)

/-! ## Routes -/

theorem placeholder?_eq_some_iff {segment : List Char} {name : String} :
    placeholder? segment = some name ↔ Names segment name := by
  unfold Names
  constructor
  · intro h
    unfold placeholder? at h
    split at h
    · next d rest =>
        obtain rfl := Option.some.inj h
        simp
    · cases h
  · rintro ⟨hne, rfl⟩
    obtain ⟨c, rest, hname⟩ := List.exists_cons_of_ne_nil (mt String.toList_eq_nil_iff.1 hne)
    rw [hname, placeholder?, ← hname, String.ofList_toList]

/-- A parameter is missing iff a segment is a placeholder that has none. -/
theorem missingRouteParams_ne_nil_iff (c : Case) :
    c.missingRouteParams ≠ [] ↔
      ∃ segment ∈ c.segments, ∃ name, Names segment name ∧ c.routeParams.get? name = none := by
  simp only [ne_eq, missingRouteParams_eq_nil_iff, placeholder?_eq_some_iff, not_forall, exists_prop,
    Bool.not_eq_true, Option.isSome_eq_false_iff, Option.isNone_iff_eq_none]

theorem filled_fillSegment {c : Case} (store : Store) {segment : List Char}
    (h : ∀ name, Names segment name → c.routeParams.get? name ≠ none) :
    c.Filled store segment (c.fillSegment store segment) := by
  unfold fillSegment
  cases hname : placeholder? segment with
  | none =>
      refine .verbatim fun name hnames => ?_
      rw [placeholder?_eq_some_iff.2 hnames] at hname
      cases hname
  | some name =>
      have hnames := placeholder?_eq_some_iff.1 hname
      cases he : c.routeParams.get? name with
      | none => exact absurd he (h name hnames)
      | some e => simpa [he] using Filled.parameter hnames he

/-- A route is filled segment by segment, unless a parameter is missing. -/
theorem resolveRoute?_cases (c : Case) (store : Store) :
    (c.resolveRoute? store = none ∧
      ∃ segment ∈ c.segments, ∃ name, Names segment name ∧ c.routeParams.get? name = none) ∨
    (∃ filled, c.resolveRoute? store = some (String.ofList (join '/' filled)) ∧
      (∀ segment ∈ c.segments, ∀ name, Names segment name → c.routeParams.get? name ≠ none) ∧
      List.Forall₂ (c.Filled store) c.segments filled) := by
  unfold resolveRoute?
  by_cases hmissing : c.missingRouteParams = []
  · right
    have hparams : ∀ segment ∈ c.segments, ∀ name, Names segment name → c.routeParams.get? name ≠ none := by
      intro segment hsegment name hname hnone
      exact c.missingRouteParams_ne_nil_iff.2 ⟨segment, hsegment, name, hname, hnone⟩ hmissing
    refine ⟨c.segments.map (c.fillSegment store), by simp [hmissing], hparams, ?_⟩
    rw [List.forall₂_map_right_iff, List.forall₂_same]
    exact fun segment hsegment => filled_fillSegment store (hparams segment hsegment)
  · left
    exact ⟨by simp [hmissing], c.missingRouteParams_ne_nil_iff.1 hmissing⟩

/-! ## Requests -/

theorem headed_or_not (c : Case) (store : Store) :
    (c.guarded = true ∧ store.get? "TOKEN" = none) ∨ ∃ headers, c.Headed store headers := by
  cases hguarded : c.guarded with
  | false => exact .inr ⟨_, .unguarded hguarded⟩
  | true =>
      cases htoken : store.get? "TOKEN" with
      | none => exact .inl ⟨rfl, rfl⟩
      | some token => exact .inr ⟨_, .guarded hguarded htoken⟩

theorem Headed.token_ne_none {c : Case} {store : Store} {headers : List (String × String)}
    (h : c.Headed store headers) (hguarded : c.guarded = true) : store.get? "TOKEN" ≠ none := by
  cases h with
  | unguarded hnot => cases hnot.symm.trans hguarded
  | guarded _ htoken => simp [htoken]

theorem request_of_token_missing {c : Case} {store : Store} (base : String) (hflaw : c.flaw = none)
    (hguarded : c.guarded = true) (htoken : store.get? "TOKEN" = none) :
    c.request base store = .error .tokenMissing := by
  simp [request, hflaw, hguarded, tokenVariable, htoken]

/-- With its headers a request depends on the route alone. -/
theorem request_of_headed {c : Case} {store : Store} {headers : List (String × String)} (base : String)
    (hflaw : c.flaw = none) (h : c.Headed store headers) :
    c.request base store =
      match c.resolveRoute? store with
      | none => .error .parametersMissing
      | some route =>
          .ok
            { method := c.method
              url := String.ofList (dropTrailing '/' base.toList) ++ route
              headers := headers
              body := if c.method.hasBody then some (c.renderBody store) else none } := by
  cases h with
  | unguarded hguarded => cases hroute : c.resolveRoute? store <;> simp [request, hflaw, hguarded, hroute]
  | guarded hguarded htoken =>
      cases hroute : c.resolveRoute? store <;>
        simp [request, hflaw, hguarded, hroute, tokenVariable, htoken]

theorem isStem_dropTrailing (base : List Char) : IsStem base (dropTrailing '/' base) :=
  ⟨exists_eq_dropTrailing_append '/' base, getLast?_dropTrailing_ne '/' base⟩

theorem isCut_segments (c : Case) : IsCut '/' c.route.toList c.segments :=
  isCut_iff.2 rfl

/-- A case that is not flawed, that has its headers and whose placeholders have parameters meets no
obstacle. -/
theorem not_obstructed {c : Case} {store : Store} {headers : List (String × String)} (hflaw : c.flaw = none)
    (hheaded : c.Headed store headers)
    (hparams : ∀ segment ∈ c.segments, ∀ name, Names segment name → c.routeParams.get? name ≠ none) :
    ¬ ∃ message, c.Obstructed store message := by
  rintro ⟨message, h⟩
  cases h with
  | flaw h => cases hflaw.symm.trans h
  | token _ hguarded htoken => exact hheaded.token_ne_none hguarded htoken
  | parameters _ _ hcut hsegment hname hmissing =>
      -- A text has only one cut, so these are the segments that were looked at.
      obtain rfl := isCut_iff.1 hcut
      exact hparams _ hsegment _ hname hmissing

/-- There is no request because the case meets an obstacle, or there is one and the case meets none. -/
theorem request_cases (c : Case) (base : String) (store : Store) :
    (∃ why, c.request base store = .error why ∧ c.Obstructed store why.message) ∨
    (∃ request, c.request base store = .ok request ∧ (¬ ∃ message, c.Obstructed store message) ∧
      c.Composed base store request) := by
  -- In the order in which obstacles are looked for; what is left of it is the request.
  cases hflaw : c.flaw with
  | some reason => exact .inl ⟨.flaw reason, by rw [request, hflaw], .flaw hflaw⟩
  | none =>
      rcases c.headed_or_not store with ⟨hguarded, htoken⟩ | ⟨headers, hheaded⟩
      · exact .inl ⟨.tokenMissing, request_of_token_missing base hflaw hguarded htoken,
          .token hflaw hguarded htoken⟩
      · have hrequest := request_of_headed base hflaw hheaded
        rcases c.resolveRoute?_cases store with
          ⟨hroute, segment, hsegment, name, hname, hmissing⟩ | ⟨filled, hroute, hparams, hfilled⟩
        · rw [hroute] at hrequest
          exact .inl ⟨.parametersMissing, hrequest,
            .parameters hflaw hheaded.token_ne_none c.isCut_segments hsegment hname hmissing⟩
        · rw [hroute] at hrequest
          refine .inr ⟨_, hrequest, not_obstructed hflaw hheaded hparams, rfl, ?_, hheaded, ?_, ?_⟩
          · refine ⟨_, c.segments, filled, isStem_dropTrailing base.toList, c.isCut_segments, hfilled, ?_⟩
            simp
          · intro hmethod
            simp [hmethod, Method.hasBody]
          · intro hmethod
            cases hm : c.method <;> simp_all [Method.hasBody]

/-! ## Sending -/

/-- Obstacles are met in order, so a case that cannot send anything has one reason. -/
theorem Obstructed.unique {c : Case} {store : Store} {message message' : String}
    (h : c.Obstructed store message) (h' : c.Obstructed store message') : message = message' := by
  -- Each reason excludes the ones before it.
  cases h <;> cases h' <;> simp_all

/-- What an execution sends, with a log of the requests. A case that meets an obstacle sends nothing, leaves
the variables and its transport alone, and ends in an error that words the obstacle. Any other case sends
one request, the one that is composed of its parts. -/
theorem sending_law {σ : Type} (transport : Transport σ) (base : String) (c : Case) (store : Store) (s : σ)
    (hw : c.status = .waiting) :
    let o := c.execute transport.recording base store (s, [])
    (∀ message, c.Obstructed store message →
      o.2.2 = (s, []) ∧ o.2.1 = store ∧ o.1.status = .error ∧ o.1.state.message = message) ∧
    ((¬ ∃ message, c.Obstructed store message) →
      ∃ request, o.2.2 = ((transport.send request s).2, [request]) ∧ c.Composed base store request) := by
  intro o
  have hfinal := c.not_isFinal_of_waiting hw
  rcases c.request_cases base store with ⟨why, hrequest, hobstructed⟩ | ⟨request, hrequest, hfree, hcomposed⟩
  · have ho : o = (c.finish (.error why), store, (s, [])) :=
      execute_of_obstacle transport.recording base c store (s, []) hfinal hrequest
    refine ⟨fun message h => ?_, fun hfree => absurd ⟨_, hobstructed⟩ hfree⟩
    obtain rfl := h.unique hobstructed
    rw [ho]
    exact ⟨rfl, rfl, rfl, rfl⟩
  · have ho := execute_of_request transport.recording base c store (s, []) hfinal hrequest
    refine ⟨fun message h => absurd ⟨message, h⟩ hfree, fun _ => ⟨request, ?_, hcomposed⟩⟩
    exact congrArg (fun o => o.2.2) ho

/-- A token is sent, and a parameter that looks like a route itself is filled in as it is. Without the token
the case ends in an error before its parameters are looked at. -/
theorem sending_law_filled :
    let c := (Case.new "show" .get "/users/:id//:/x").guard.routeParam "id" (.parse "{ID}")
    let bare := (Case.new "show" .get "/users/:id//:/x").guard
    let store := (Store.set .empty "ID" "7/:id").set "TOKEN" "abc"
    let request : Request :=
      { method := .get, url := "http://h/users/7/:id//:/x"
        headers := [("Content-Type", "application/json"), ("Authorization", "Bearer abc")], body := none }
    let o := c.execute Script.transport.recording "http://h//" store (Script.empty, [])
    let stuck := bare.execute Script.transport.recording "http://h//" .empty (Script.empty, [])
    c.status = .waiting ∧ o.2.2.2 = [request] ∧ c.Composed "http://h//" store request ∧
      bare.status = .waiting ∧ stuck.2.2.2 = [] ∧ stuck.1.state.message = "No token found" := by
  intro c bare store request o stuck
  have hw : c.status = .waiting := rfl
  have hbare : bare.status = .waiting := rfl
  have hsent : o.2.2.2 = [request] := by decide +kernel
  obtain ⟨hnone, hone⟩ := sending_law Script.transport "http://h//" c store Script.empty hw
  have hfree : ¬ ∃ message, c.Obstructed store message := by
    rintro ⟨message, h⟩
    have hempty : o.2.2.2 = [] := congrArg Prod.snd (hnone message h).1
    cases hsent.symm.trans hempty
  obtain ⟨sent, hpeer, hcomposed⟩ := hone hfree
  have hlog : o.2.2.2 = [sent] := congrArg Prod.snd hpeer
  obtain rfl : sent = request := List.singleton_inj.1 (hlog.symm.trans hsent)
  have hstuck := (sending_law Script.transport "http://h//" bare .empty Script.empty hbare).1
    "No token found" (.token rfl rfl rfl)
  exact ⟨hw, hsent, hcomposed, hbare, congrArg Prod.snd hstuck.1, hstuck.2.2.2⟩

end Probe.Case
