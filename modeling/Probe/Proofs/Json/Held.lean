import Probe.Proofs.Json.Members
import Probe.Proofs.Json.ReadBack

/-!
# What a value holds

Arrays and objects hold values, which may hold others. A number that a value holds is one that was read. Main
statements:

* `forall_of_readItems`, `forall_of_readMembers`: what is read of the parts of a container.
* `wellFormed_of_within`: any number of a value that is read is in the form of its kind.
-/

namespace Probe.Json

open Probe.Text

/-- A value occurs in another one: it is that value, or it occurs in an item or in a member of it. -/
inductive Value.Within : Value → Value → Prop where
  | self (v : Value) : Within v v
  | item {v w : Value} {items : List Value} (hw : w ∈ items) (h : Within v w) : Within v (.array items)
  | member {v w : Value} {key : String} {members : List (String × Value)} (hw : (key, w) ∈ members)
      (h : Within v w) : Within v (.object members)

/-- What occurs in the value at a key occurs in the object. -/
theorem Value.Within.of_get? {u v w : Value} {name : String} (hu : u.Within w) (h : v.get? name = some w) :
    u.Within v := by
  cases v with
  | object members => exact .member (Entries.mem_of_get? h) hu
  | _ => cases h

/-- The number that a value is. -/
def Value.number? : Value → Option Number
  | .number n => some n
  | _ => none

theorem Value.eq_of_number? {v : Option Value} {n : Number} (h : v.bind Value.number? = some n) :
    v = some (.number n) := by
  obtain ⟨v, rfl, hv⟩ := Option.bind_eq_some_iff.1 h
  cases v with
  | number m => cases hv; rfl
  | _ => cases hv

/-! ## Reading the parts of a container -/

section

variable {α : Type} {P : α → Prop}

theorem forall_of_readItems {item : Encoded → Except Stop (α × Encoded)}
    (hitem : ∀ t v rest, item t = .ok (v, rest) → P v) {budget : Nat} {first : Bool} {t rest : Encoded}
    {items : List α} (h : readItems item budget first t = .ok (items, rest)) : ∀ v ∈ items, P v := by
  induction budget generalizing first t items with
  | zero => cases h
  | succ budget ih =>
      -- An item is read after the bracket or after a comma, and the other items behind it.
      have hmore : ∀ {t : Encoded}, (item t >>= fun p => readItems item budget false p.2 >>= fun q =>
          .ok (p.1 :: q.1, q.2)) = Except.ok (items, rest) → ∀ v ∈ items, P v := by
        intro t h
        obtain ⟨⟨v, t'⟩, hv, h⟩ := exists_of_bind_eq_ok h
        obtain ⟨⟨vs, t''⟩, hvs, h⟩ := exists_of_bind_eq_ok h
        cases h
        exact List.forall_mem_cons.2 ⟨hitem _ _ _ hv, ih hvs⟩
      unfold readItems at h
      simp only at h
      split at h
      · cases h
      · split at h
        · cases h
          exact fun v hv => absurd hv List.not_mem_nil
        · split at h
          · exact hmore h
          · split at h
            · split at h
              · cases h
              · split at h
                · cases h
                · exact hmore h
            · cases h

theorem forall_of_readMembers {value : Encoded → Except Stop (α × Encoded)}
    (hvalue : ∀ t v rest, value t = .ok (v, rest) → P v) {budget : Nat} {first : Bool} {t rest : Encoded}
    {members : List (String × α)} (h : readMembers value budget first t = .ok (members, rest)) :
    ∀ m ∈ members, P m.2 := by
  induction budget generalizing first t members with
  | zero => cases h
  | succ budget ih =>
      rcases readMembers_inv h with ⟨-, rfl⟩ | ⟨u, m, t', more, -, hm, hmore, rfl⟩
      · exact fun m hm => absurd hm List.not_mem_nil
      · obtain ⟨-, w, -, -, hv⟩ := readMember_inv hm
        exact List.forall_mem_cons.2 ⟨hvalue _ _ _ hv, ih hmore⟩

end

/-! ## Reading a value -/

/-- What is read without looking into brackets is not a container. -/
theorem not_container_of_readScalar {t rest : Encoded} {w : Value} (h : readScalar t = .ok (w, rest)) :
    (∀ items, w ≠ .array items) ∧ ∀ members, w ≠ .object members := by
  unfold readScalar at h
  split at h
  · cases h
  · rw [eq_of_readWord h]
    exact ⟨fun _ => nofun, fun _ => nofun⟩
  · rw [eq_of_readWord h]
    exact ⟨fun _ => nofun, fun _ => nofun⟩
  · rw [eq_of_readWord h]
    exact ⟨fun _ => nofun, fun _ => nofun⟩
  · obtain ⟨⟨s, rest'⟩, -, h⟩ := exists_of_bind_eq_ok h
    cases h
    exact ⟨fun _ => nofun, fun _ => nofun⟩
  · obtain ⟨⟨n, rest'⟩, -, h⟩ := exists_of_bind_eq_ok h
    cases h
    exact ⟨fun _ => nofun, fun _ => nofun⟩
  · split at h
    · obtain ⟨⟨n, rest'⟩, -, h⟩ := exists_of_bind_eq_ok h
      cases h
      exact ⟨fun _ => nofun, fun _ => nofun⟩
    · cases h

theorem eq_of_within_readScalar {t rest : Encoded} {v w : Value} (h : readScalar t = .ok (w, rest))
    (hv : v.Within w) : v = w := by
  obtain ⟨harray, hobject⟩ := not_container_of_readScalar h
  cases hv with
  | self => rfl
  | item => exact absurd rfl (harray _)
  | member => exact absurd rfl (hobject _)

/-- A value that is read is an array or an object whose parts are read one level deeper, or it is no container. -/
theorem readValue_inv {depth : Nat} {t rest : Encoded} {v : Value} (h : readValue depth t = .ok (v, rest)) :
    (∃ inner budget t' items, depth = inner + 1 ∧ v = .array items ∧
      readItems (readValue inner) budget true t' = .ok (items, rest)) ∨
    (∃ inner budget t' members, depth = inner + 1 ∧ v = .object (membersOf members) ∧
      readMembers (readValue inner) budget true t' = .ok (members, rest)) ∨
    readScalar (skipSpace t) = .ok (v, rest) := by
  unfold readValue at h
  simp only at h
  split at h
  · cases depth with
    | zero => cases h
    | succ inner =>
        obtain ⟨⟨items, rest'⟩, hitems, h⟩ := exists_of_bind_eq_ok h
        cases h
        exact .inl ⟨inner, _, _, items, rfl, rfl, hitems⟩
  · cases depth with
    | zero => cases h
    | succ inner =>
        obtain ⟨⟨members, rest'⟩, hmembers, h⟩ := exists_of_bind_eq_ok h
        cases h
        exact .inr (.inl ⟨inner, _, _, members, rfl, rfl, hmembers⟩)
  · exact .inr (.inr h)

/-- The numbers of a value that is read are in the form of their kind. -/
theorem wellFormed_of_readValue {depth : Nat} {t rest : Encoded} {v : Value}
    (h : readValue depth t = .ok (v, rest)) : ∀ n, (Value.number n).Within v → n.WellFormed := by
  -- The parts of a container are read one level deeper.
  induction depth using Nat.strongRecOn generalizing t rest v with
  | ind depth ih =>
      intro n hn
      rcases readValue_inv h with ⟨inner, budget, t', items, rfl, rfl, hitems⟩ |
        ⟨inner, budget, t', members, rfl, rfl, hmembers⟩ | hscalar
      · have hall := forall_of_readItems (fun t v rest => ih inner (Nat.lt_succ_self inner)) hitems
        cases hn with
        | item hw hn => exact hall _ hw n hn
      · have hall := forall_of_readMembers (fun t v rest => ih inner (Nat.lt_succ_self inner)) hmembers
        cases hn with
        | member hw hn => exact hall _ (mem_of_mem_membersOf hw) n hn
      · rw [← eq_of_within_readScalar hscalar hn] at hscalar
        exact wellFormed_of_readScalar hscalar

/-- A number that occurs in a value that is read is in the form of its kind. -/
theorem wellFormed_of_within {t : Encoded} {v : Value} {n : Number} (hread : Value.read t = .ok v)
    (hn : (Value.number n).Within v) : n.WellFormed := by
  obtain ⟨rest, hvalue, -⟩ := readText_eq_ok_iff.1 hread
  exact wellFormed_of_readValue hvalue n hn

end Probe.Json
