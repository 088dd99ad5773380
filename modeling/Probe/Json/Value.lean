import Probe.Decimal.Binary64
import Probe.Table

/-!
# JSON values

Objects are kept in ascending order of their keys, each key once. Main statement:
`ascending_membersOf`, `membersOf_of_ascending`, `get?_membersOf`.
-/

namespace Probe.Json

open Probe.Decimal

/-- A JSON number: an integer of 64 bits, signed or not, or a finite 64-bit binary number. -/
inductive Number where
  | integer (n : Int)
  | binary (x : Binary64)
  deriving DecidableEq, Repr

/-- A JSON value. -/
inductive Value where
  | null
  | bool (b : Bool)
  | number (n : Number)
  | string (s : String)
  | array (items : List Value)
  | object (members : List (String × Value))
  deriving Repr

/-- The members of an object that are left of a list of members: the last one of each key, in ascending
order of the keys. -/
def membersOf (members : List (String × Value)) : List (String × Value) :=
  members.foldl (fun all (key, value) => Entries.insert key value all) []

/-- The members left are in ascending order. -/
theorem ascending_membersOf (members : List (String × Value)) :
    Entries.Ascending (membersOf members) := by
  suffices h : ∀ all : List (String × Value), Entries.Ascending all →
      Entries.Ascending
        (members.foldl (fun all (key, value) => Entries.insert key value all) all) from
    h [] List.Pairwise.nil
  induction members with
  | nil => exact fun all h => h
  | cons m rest ih => exact fun all h => ih _ (Entries.ascending_insert m.1 m.2 all h)

/-- Members that are in order already are left as they are. -/
theorem membersOf_of_ascending {members : List (String × Value)} (h : Entries.Ascending members) :
    membersOf members = members := by
  suffices hall : ∀ all : List (String × Value), Entries.Ascending (all ++ members) →
      members.foldl (fun all (key, value) => Entries.insert key value all) all = all ++ members from
    hall [] h
  clear h
  induction members with
  | nil => exact fun all _ => (List.append_nil all).symm
  | cons m rest ih =>
      obtain ⟨key, v⟩ := m
      intro all hall
      have hlast : Entries.insert key v all = all ++ [(key, v)] :=
        Entries.insert_of_forall_lt key v all fun e he =>
          (List.pairwise_append.1 hall).2.2 e he (key, v) List.mem_cons_self
      have hrest : ((key, v) :: rest).foldl (fun all (key, value) => Entries.insert key value all) all =
          rest.foldl (fun all (key, value) => Entries.insert key value all) (all ++ [(key, v)]) := by
        rw [← hlast]
        rfl
      rw [hrest, ih _ (by rwa [List.append_assoc]), List.append_assoc]
      rfl

/-- No member is made up. -/
theorem mem_of_mem_membersOf {m : String × Value} {members : List (String × Value)}
    (h : m ∈ membersOf members) : m ∈ members := by
  suffices hall : ∀ all : List (String × Value),
      m ∈ members.foldl (fun all (key, value) => Entries.insert key value all) all → m ∈ all ∨ m ∈ members from
    (hall [] h).resolve_left List.not_mem_nil
  clear h
  induction members with
  | nil => exact fun _ h => .inl h
  | cons n rest ih =>
      intro all h
      rcases ih _ h with hall | hrest
      · rcases Entries.mem_insert hall with rfl | hall
        · exact .inr List.mem_cons_self
        · exact .inl hall
      · exact .inr (List.mem_cons_of_mem n hrest)

/-- Where each key is given once, each has the value that it was given. -/
theorem get?_membersOf {members : List (String × Value)} (h : (members.map Prod.fst).Nodup) (name : String) :
    Entries.get? name (membersOf members) = Entries.get? name members := by
  suffices hall : ∀ all : List (String × Value),
      Entries.get? name (members.foldl (fun all (key, value) => Entries.insert key value all) all) =
        (Entries.get? name members).or (Entries.get? name all) from
    (hall []).trans (Option.or_none)
  induction members with
  | nil => exact fun _ => rfl
  | cons m rest ih =>
      obtain ⟨hnew, hrest⟩ := List.nodup_cons.1 h
      intro all
      have hlast := ih hrest (Entries.insert m.1 m.2 all)
      rw [Entries.get?_insert] at hlast
      refine hlast.trans ?_
      by_cases hname : m.1 = name
      · -- The name is not given again behind its first place.
        have hnone : Entries.get? name rest = none := Entries.get?_eq_none_iff.2 (hname ▸ hnew)
        rw [hnone, Entries.get?, if_pos hname, if_pos hname.symm]
        rfl
      · rw [Entries.get?, if_neg hname, if_neg (Ne.symm hname)]

namespace Value

/-- The value at a key, for an object. -/
def get? (key : String) : Value → Option Value
  | object members => Entries.get? key members
  | _ => none

/-- Values that count as not there: null, false, zero of either sign and the empty text. -/
def isFalsy : Value → Bool
  | null => true
  | bool b => !b
  | number (.integer n) => n == 0
  | number (.binary x) => x.isZero
  | string s => s.isEmpty
  | array _ => false
  | object _ => false

end Value

end Probe.Json
