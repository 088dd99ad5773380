import Mathlib.Data.List.Forall2
import Probe.Json.Reader
import Probe.Proofs.Except

/-!
# Members of objects

The members of an object are read one after the other, whatever is read as their values. What is read is told by
one rule for each way in which the reading goes on, so that two ways to read the values can be compared. Main
statements:

* `readMembers_of_starts`, `readMembers_inv`: the next member, or the end of the object.
* `exists_forall₂_of_readMembers`: the same members, with their values read in another way.
-/

namespace Probe.Json

open Probe.Text

/-- A member starts with a quote, behind which `u` is left. If it is not the first one, a comma is before it. -/
inductive StartsMember : (first : Bool) → (t u : Encoded) → Prop where
  | first {t u : Encoded} (hquote : skipSpace t = .char '"' :: u) : StartsMember true t u
  | next {t t' u : Encoded} (hcomma : skipSpace t = .char ',' :: t') (hquote : skipSpace t' = .char '"' :: u) :
      StartsMember false t u

section

variable {α : Type} {value : Encoded → Except Stop (α × Encoded)}

/-- A member that is read is the next one. -/
theorem readMembers_of_starts {first : Bool} {budget : Nat} {t u t' : Encoded} {m : String × α}
    (hstarts : StartsMember first t u) (h : readMember value u = .ok (m, t')) :
    readMembers value (budget + 1) first t =
      (readMembers value budget false t').bind fun (ms, rest) => .ok (m :: ms, rest) := by
  cases hstarts with
  | first hquote =>
      simp only [readMembers, hquote, h]
      rfl
  | next hcomma hquote =>
      simp only [readMembers, hcomma, hquote, h]
      rfl

/-- Members that are read end with the object, or there is a next one. -/
theorem readMembers_inv {first : Bool} {budget : Nat} {t rest : Encoded} {members : List (String × α)}
    (h : readMembers value (budget + 1) first t = .ok (members, rest)) :
    (skipSpace t = .char '\x7d' :: rest ∧ members = []) ∨
      ∃ u m t' more, StartsMember first t u ∧ readMember value u = .ok (m, t') ∧
        readMembers value budget false t' = .ok (more, rest) ∧ members = m :: more := by
  have hmore : ∀ {u : Encoded}, StartsMember first t u →
      (readMember value u >>= fun p => readMembers value budget false p.2 >>= fun q =>
        .ok (p.1 :: q.1, q.2)) = Except.ok (members, rest) →
      ∃ u m t' more, StartsMember first t u ∧ readMember value u = .ok (m, t') ∧
        readMembers value budget false t' = .ok (more, rest) ∧ members = m :: more := by
    intro u hstarts h
    obtain ⟨⟨m, t'⟩, hm, h⟩ := exists_of_bind_eq_ok h
    obtain ⟨⟨more, t''⟩, hmore, h⟩ := exists_of_bind_eq_ok h
    cases h
    exact ⟨u, m, t', more, hstarts, hm, hmore, rfl⟩
  unfold readMembers at h
  simp only at h
  split at h
  · cases h
  · next p u hskip =>
      split at h
      · next hp =>
          cases h
          exact .inl ⟨hp ▸ hskip, rfl⟩
      · right
        split at h
        · next hfirst =>
            split at h
            · next hp =>
                subst hp hfirst
                exact hmore (.first hskip) h
            · cases h
        · next hfirst =>
            obtain rfl : first = false := Bool.eq_false_iff.2 hfirst
            split at h
            · next hp =>
                subst hp
                split at h
                · cases h
                · next q u' hskip' =>
                    split at h
                    · next hq =>
                        subst hq
                        exact hmore (.next hskip hskip') h
                    · split at h <;> cases h
            · cases h

/-- A member is read up to the end of its value. -/
theorem readMember_inv {t rest : Encoded} {m : String × α} (h : readMember value t = .ok (m, rest)) :
    ∃ t' u, readString t = .ok (m.1, t') ∧ skipSpace t' = .char ':' :: u ∧ value u = .ok (m.2, rest) := by
  unfold readMember at h
  obtain ⟨⟨key, t'⟩, hkey, h⟩ := exists_of_bind_eq_ok h
  simp only at h
  split at h
  · cases h
  · next p u hskip =>
      split at h
      · next hp =>
          subst hp
          obtain ⟨⟨v, t''⟩, hv, h⟩ := exists_of_bind_eq_ok h
          cases h
          exact ⟨t', u, hkey, hskip, hv⟩
      · cases h

theorem readMember_of_value {t t' u rest : Encoded} {key : String} {a : α} (hkey : readString t = .ok (key, t'))
    (hcolon : skipSpace t' = .char ':' :: u) (hvalue : value u = .ok (a, rest)) :
    readMember value t = .ok ((key, a), rest) := by
  simp only [readMember, hkey, bind, Except.bind, hcolon, if_true, hvalue]

end

section

variable {α β : Type} {value : Encoded → Except Stop (α × Encoded)} {value' : Encoded → Except Stop (β × Encoded)}
  {P : α → Prop} {R : α → β → Prop}

/-- Two members have the same key, and their values are related. -/
def SameKey (R : α → β → Prop) (m : String × α) (m' : String × β) : Prop :=
  m.1 = m'.1 ∧ R m.2 m'.2

/-- If all values that are read could be read in another way too, up to the same place each, the members are read
in that way. -/
theorem exists_forall₂_of_readMembers
    (hvalue : ∀ t a rest, value t = .ok (a, rest) → P a → ∃ b, value' t = .ok (b, rest) ∧ R a b)
    {budget : Nat} {first : Bool} {t rest : Encoded} {members : List (String × α)}
    (h : readMembers value budget first t = .ok (members, rest)) (hmembers : ∀ m ∈ members, P m.2) :
    ∃ members', readMembers value' budget first t = .ok (members', rest) ∧
      List.Forall₂ (SameKey R) members members' := by
  induction budget generalizing first t members with
  | zero => cases h
  | succ budget ih =>
      rcases readMembers_inv h with ⟨hend, rfl⟩ | ⟨u, m, t', more, hstarts, hm, hmore, rfl⟩
      · refine ⟨[], ?_, .nil⟩
        simp only [readMembers, hend, if_true]
      · obtain ⟨hfirst, hrest⟩ := List.forall_mem_cons.1 hmembers
        obtain ⟨v, w, hkey, hcolon, hv⟩ := readMember_inv hm
        obtain ⟨b, hb, hR⟩ := hvalue _ _ _ hv hfirst
        obtain ⟨more', hmore', hsame⟩ := ih hmore hrest
        refine ⟨(m.1, b) :: more', ?_, .cons ⟨rfl, hR⟩ hsame⟩
        rw [readMembers_of_starts hstarts (readMember_of_value hkey hcolon hb), hmore']
        rfl

end

end Probe.Json
