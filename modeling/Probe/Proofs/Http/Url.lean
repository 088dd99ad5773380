import Probe.Proofs.Http.Script

/-!
# Paths of absolute URLs

The path of an absolute URL is cut out in three steps: what is behind the scheme, from the first slash of this on,
up to a query or a fragment. The second step does not know where the path would have to stand: where there is
none, a slash in the query or in the fragment is the first one. Main statements:

* `path_text`: what is cut out of an absolute URL.
* `path_text_eq_iff`: when this is the path of the URL, or the root for the lack of one.
* `extraction_law`: the same for the requests to a script, and what answers them.
-/

namespace Probe.Url

open Probe.Text

/-- An absolute URL by its parts. Any text may be its query or its fragment. -/
structure Absolute where
  scheme : String
  authority : String
  path : String
  query : Option String
  fragment : Option String
  colon_notMem : ':' ∉ scheme.toList
  authority_plain : ∀ c ∈ authority.toList, c ≠ '/' ∧ endsPath c = false
  path_plain : ∀ c ∈ path.toList, endsPath c = false
  path_rooted : ∀ c ∈ path.toList.head?, c = '/'

namespace Absolute

/-- The query and the fragment, each behind its mark. -/
def tail (u : Absolute) : String :=
  (u.query.map ("?" ++ ·)).getD "" ++ (u.fragment.map ("#" ++ ·)).getD ""

/-- The text of a URL. -/
def text (u : Absolute) : String :=
  u.scheme ++ "://" ++ u.authority ++ u.path ++ u.tail

/-- The path, or the root for the lack of one. -/
def pathOrRoot (u : Absolute) : String :=
  if u.path = "" then "/" else u.path

/-- The URL with another query and fragment. -/
def withTail (u : Absolute) (query fragment : Option String) : Absolute :=
  { u with query, fragment }

/-- There is no path, and the first slash of the query and the fragment stands before `rest`. -/
structure Strays (u : Absolute) (rest : List Char) : Prop where
  path_eq : u.path = ""
  exists_front : ∃ front, '/' ∉ front ∧ u.tail.toList = front ++ '/' :: rest

end Absolute

variable (u : Absolute)

theorem endsPath_head_tail : ∀ c ∈ u.tail.toList.head?, endsPath c = true := by
  intro c hc
  rw [Absolute.tail, String.toList_append] at hc
  rcases hquery : u.query with _ | query
  · rcases hfragment : u.fragment with _ | fragment
    · simp [hquery, hfragment] at hc
    · obtain rfl : '#' = c := by simpa [hquery, hfragment, String.toList_append] using hc
      rfl
  · obtain rfl : '?' = c := by simpa [hquery, String.toList_append] using hc
    rfl

/-! ## The three steps -/

theorem afterScheme_text :
    afterScheme u.text.toList = u.authority.toList ++ (u.path.toList ++ u.tail.toList) := by
  have htext : u.text.toList = u.scheme.toList ++ ':' :: (['/', '/'] ++
      (u.authority.toList ++ (u.path.toList ++ u.tail.toList))) := by
    simp [Absolute.text, String.toList_append]
  rw [afterScheme, htext, after?_append ['/', '/'] _ u.colon_notMem]
  rfl

/-- What stands before the first slash is no part of the path. -/
theorem pathChars_append {front : List Char} (rest : List Char) (h : '/' ∉ front) :
    pathChars (front ++ rest) = pathChars rest := by
  have hfront : ∀ c ∈ front, (c != '/') = true := by
    intro c hc
    exact bne_iff_ne.2 fun heq => h (heq ▸ hc)
  rw [pathChars, pathChars, List.dropWhile_append_of_pos hfront]

theorem pathChars_of_notMem {rest : List Char} (h : '/' ∉ rest) : pathChars rest = ['/'] := by
  have hrest := pathChars_append [] h
  rw [List.append_nil] at hrest
  exact hrest

/-- Out of an absolute URL its path is cut, if it has one, and otherwise what its query and its fragment have
from their first slash on. -/
theorem path_text :
    Url.path u.text =
      if u.path = "" then String.ofList (pathChars u.tail.toList) else u.path := by
  have hauthority : '/' ∉ u.authority.toList := fun hmem => (u.authority_plain _ hmem).1 rfl
  rw [Url.path, afterScheme_text, pathChars_append _ hauthority]
  -- The authority has no slash, so that the first one is that of the path or else comes from behind it.
  by_cases hpath : u.path = ""
  · rw [if_pos hpath, hpath, String.toList_empty, List.nil_append]
  · rw [if_neg hpath]
    cases hchars : u.path.toList with
    | nil => exact absurd (String.toList_eq_nil_iff.1 hchars) hpath
    | cons c rest =>
        obtain rfl : c = '/' := u.path_rooted c (by rw [hchars]; rfl)
        have hplain : ∀ c ∈ rest, (!endsPath c) = true := by
          intro c hc
          have hmem : c ∈ u.path.toList := hchars ▸ List.mem_cons_of_mem _ hc
          rw [u.path_plain c hmem]
          rfl
        have htail : u.tail.toList.takeWhile (fun c => !endsPath c) = [] := by
          cases hmarks : u.tail.toList with
          | nil => rfl
          | cons c marks =>
              have hends : endsPath c = true := endsPath_head_tail u c (by rw [hmarks]; rfl)
              simp [hends]
        rw [List.cons_append, pathChars_of_slash, List.takeWhile_append_of_pos hplain, htail,
          List.append_nil, ← hchars, String.ofList_toList]

/-! ## What is cut out -/

theorem path_text_of_strays {rest : List Char} (h : u.Strays rest) :
    Url.path u.text = String.ofList ('/' :: rest.takeWhile fun c => !endsPath c) := by
  obtain ⟨front, hfront, htail⟩ := h.exists_front
  rw [path_text, if_pos h.path_eq, htail, pathChars_append _ hfront, pathChars_of_slash]

theorem path_text_of_not_strays (h : ∀ rest, ¬ u.Strays rest) : Url.path u.text = u.pathOrRoot := by
  rw [path_text, Absolute.pathOrRoot]
  by_cases hpath : u.path = ""
  · have hslash : '/' ∉ u.tail.toList := by
      intro hmem
      obtain ⟨front, rest, htail, hfront⟩ := List.eq_append_cons_of_mem hmem
      exact h rest ⟨hpath, front, hfront, htail⟩
    rw [if_pos hpath, if_pos hpath, pathChars_of_notMem hslash]
  · rw [if_neg hpath, if_neg hpath]

/-- The path is missed exactly if there is none and behind the first slash of the query and the fragment stands
something that could belong to a path. -/
theorem path_text_eq_iff :
    Url.path u.text = u.pathOrRoot ↔ ∀ rest, u.Strays rest → ∀ c ∈ rest.head?, endsPath c = true := by
  constructor
  · intro hpath rest hstrays c hc
    rw [path_text_of_strays u hstrays, Absolute.pathOrRoot, if_pos hstrays.path_eq] at hpath
    cases rest with
    | nil => cases hc
    | cons d rest =>
        obtain rfl : d = c := by simpa using hc
        have hchars : '/' :: (d :: rest).takeWhile (fun c => !endsPath c) = ['/'] := by
          rw [← String.toList_ofList (l := '/' :: _), hpath]
          rfl
        cases hd : endsPath d with
        | true => rfl
        | false => simp [hd] at hchars
  · intro hends
    by_cases hstrays : ∃ rest, u.Strays rest
    · obtain ⟨rest, hrest⟩ := hstrays
      have hnone : rest.takeWhile (fun c => !endsPath c) = [] := by
        cases rest with
        | nil => rfl
        | cons c rest =>
            have hc : endsPath c = true := hends _ hrest c rfl
            simp [hc]
      rw [path_text_of_strays u hrest, hnone, Absolute.pathOrRoot, if_pos hrest.path_eq]
    · exact path_text_of_not_strays u fun rest hrest => hstrays ⟨rest, hrest⟩

/-- What a script answers a request for an absolute URL by. A path that is there is cut out as it stands, whatever
is behind it. Without a path the request goes to the root, unless a slash in the query or in the fragment has
something behind it that could belong to a path: this is taken for the path. So query and fragment do not count
where there is a path, or no slash in either of them. -/
theorem extraction_law (query fragment : Option String) (request other : Request)
    (hurl : request.url = u.text) (hother : other.url = (u.withTail query fragment).text)
    (hmethod : other.method = request.method) :
    let v := u.withTail query fragment
    (u.path ≠ "" → Url.path request.url = u.path) ∧
    (Url.path request.url = u.pathOrRoot ↔
      ∀ rest, u.Strays rest → ∀ c ∈ rest.head?, endsPath c = true) ∧
    (∀ rest, u.Strays rest →
      Url.path request.url = String.ofList ('/' :: rest.takeWhile fun c => !endsPath c)) ∧
    (u.path ≠ "" ∨ ('/' ∉ u.tail.toList ∧ '/' ∉ v.tail.toList) →
      ∀ s : Script, (Script.send other s).1 = (Script.send request s).1 ∧
        (Script.send other s).2.queues = (Script.send request s).2.queues) := by
  intro v
  rw [hurl]
  refine ⟨?_, path_text_eq_iff u, fun rest => path_text_of_strays u, ?_⟩
  · intro hpath
    rw [path_text, if_neg hpath]
  · intro hplain s
    have hpath : Url.path v.text = Url.path u.text := by
      rw [path_text, path_text]
      rcases hplain with hpath | ⟨htail, htail'⟩
      · rw [if_neg hpath]
        exact if_neg hpath
      · rw [pathChars_of_notMem htail, pathChars_of_notMem htail']
        rfl
    have hkey : other.routeKey = request.routeKey := by
      rw [Request.routeKey, Request.routeKey, hmethod, hother, hurl, hpath]
    constructor
    · simp only [Script.send, hkey]
    · simp only [Script.send, hkey]

/-- Slashes and scheme separators behind a path do not count, and a user name before it does not either. -/
theorem extraction_law_nested :
    let request : Request := ⟨.get, "https://me:me@h:80//a/b?next=https://i/c#/d?e", [], none⟩
    let other : Request := ⟨.get, "https://me:me@h:80//a/b#//", [], some "sent"⟩
    let script := Script.empty.append (.get, "//a/b") (.ok (.ofStatus 204))
    Url.path request.url = "//a/b" ∧ (Script.send other script).1 = (Script.send request script).1 := by
  intro request other script
  let u : Absolute :=
    { scheme := "https"
      authority := "me:me@h:80"
      path := "//a/b"
      query := some "next=https://i/c"
      fragment := some "/d?e"
      colon_notMem := by simp
      authority_plain := by simp [endsPath]
      path_plain := by simp [endsPath]
      path_rooted := by simp }
  have hpath : u.path ≠ "" := by decide +kernel
  obtain ⟨hcut, -, -, hanswer⟩ :=
    extraction_law u none (some "//") request other (by decide +kernel) (by decide +kernel) rfl
  exact ⟨hcut hpath, (hanswer (.inl hpath) script).1⟩

/-- A URL without a path, whose query has a slash: the request does not go to the root. -/
theorem root_missed :
    let script := Script.empty.append (.get, "/") (.ok (.ofStatus 200))
    ∃ u : Absolute, u.text = "http://h?next=/home" ∧ u.path = "" ∧ u.query = some "next=/home" ∧
      u.pathOrRoot = "/" ∧ Url.path u.text = "/home" ∧
      (Script.send ⟨.get, u.text, [], none⟩ script).1.isOk = false ∧
      (Script.send ⟨.get, (u.withTail none none).text, [], none⟩ script).1.isOk = true := by
  intro script
  let u : Absolute :=
    { scheme := "http"
      authority := "h"
      path := ""
      query := some "next=/home"
      fragment := none
      colon_notMem := by simp
      authority_plain := by simp [endsPath]
      path_plain := by simp
      path_rooted := by simp }
  refine ⟨u, ?_, rfl, rfl, ?_, ?_, ?_, ?_⟩
  all_goals decide +kernel

end Probe.Url
