import Mathlib.Data.Option.Basic
import Probe.Expectation.Bytes
import Probe.Proofs.Expectation.Search

/-!
# Reading from bytes

The scan of the bytes of a text stands between characters whenever a directive may start, because the
characters that it looks for have one byte, and no byte of a longer character is one of theirs. So no access
is misplaced, and the scan comes to the same as the one over characters. Main statements:

* `sliceAt_of_behind`: a slice that begins and ends between characters.
* `Directives.scanAt_eq`: the scan of the bytes is the one of the characters.
* `Expectation.tag_parse_eq_some_iff`: the tag of a text, by the name that a search finds.
* `Expectation.parsing_law`: an expectation is what three searches find.
-/

namespace Probe

/-! ## Bytes of characters -/

theorem utf8EncodeChar_of_ascii {c : Char} (h : c.toNat < 128) : String.utf8EncodeChar c = [c.toUInt8] := by
  have hle : c.val.toNat ≤ 127 := Nat.le_of_lt_succ h
  simp only [String.utf8EncodeChar, if_pos hle]
  rfl

/-- The bytes of a character that is not ASCII are not ASCII. -/
theorem le_of_mem_utf8EncodeChar {c : Char} {b : UInt8} (hc : ¬ c.toNat < 128)
    (h : b ∈ String.utf8EncodeChar c) : 128 ≤ b.toNat := by
  have hgt : ¬ c.val.toNat ≤ 127 := fun hle => hc (Nat.lt_succ_of_le hle)
  simp only [String.utf8EncodeChar, if_neg hgt] at h
  -- By the width of the character: every byte of it has a lead of at least 128.
  split at h
  · simp only [List.mem_cons, List.not_mem_nil, or_false] at h
    rcases h with rfl | rfl <;> simp only [UInt8.toNat_ofNat'] <;> omega
  · split at h
    · simp only [List.mem_cons, List.not_mem_nil, or_false] at h
      rcases h with rfl | rfl | rfl <;> simp only [UInt8.toNat_ofNat'] <;> omega
    · simp only [List.mem_cons, List.not_mem_nil, or_false] at h
      rcases h with rfl | rfl | rfl | rfl <;> simp only [UInt8.toNat_ofNat'] <;> omega

theorem toNat_toUInt8 {c : Char} (h : c.toNat < 128) : c.toUInt8.toNat = c.toNat := by
  show c.val.toNat % 256 = c.val.toNat
  exact Nat.mod_eq_of_lt (Nat.lt_trans h (by decide))

theorem toUInt8_inj {c d : Char} (hc : c.toNat < 128) (hd : d.toNat < 128) :
    c.toUInt8 = d.toUInt8 ↔ c = d := by
  constructor
  · intro h
    have hnat : c.toNat = d.toNat := by rw [← toNat_toUInt8 hc, ← toNat_toUInt8 hd, h]
    exact Char.toNat_inj.1 hnat
  · rintro rfl
    rfl

/-- A character of a name is ASCII. -/
theorem toNat_lt_of_isNameChar {c : Char} (h : isNameChar c = true) : c.toNat < 128 := by
  rcases isNameChar_iff.1 h with halphanum | rfl
  · have hlast : 'Z'.toNat < 128 ∧ 'z'.toNat < 128 ∧ '9'.toNat < 128 := by decide
    rw [Char.isAlphanum, Bool.or_eq_true, isAlpha_iff_toNat, Char.isDigit_iff_toNat] at halphanum
    omega
  · decide

theorem isNameByte_toUInt8 {c : Char} (h : c.toNat < 128) : isNameByte c.toUInt8 = isNameChar c := by
  have hall : ∀ n < 128, isNameByte (Char.ofNat n).toUInt8 = isNameChar (Char.ofNat n) := by decide +kernel
  have hc := hall c.toNat h
  rwa [Char.ofNat_toNat] at hc

theorem isNameByte_of_le {b : UInt8} (h : 128 ≤ b.toNat) : isNameByte b = false := by
  have hall : ∀ n < 256, 128 ≤ n → isNameByte (UInt8.ofNat n) = false := by decide +kernel
  have hb := hall b.toNat b.toNat_lt h
  rwa [UInt8.ofNat_toNat] at hb

/-! ## Places between characters -/

/-- The index of a text that lies in front of the characters `s`. -/
def Behind (raw : String) (i : Nat) (s : List Char) : Prop :=
  ∃ before, raw = String.ofList before ++ String.ofList s ∧ i = (String.ofList before).utf8ByteSize

theorem behind_zero (raw : String) : Behind raw 0 raw.toList :=
  ⟨[], by simp, by simp⟩

variable {raw : String} {i : Nat} {s : List Char}

theorem Behind.append {passed : List Char} (h : Behind raw i (passed ++ s)) :
    Behind raw (i + (String.ofList passed).utf8ByteSize) s := by
  obtain ⟨before, rfl, rfl⟩ := h
  refine ⟨before ++ passed, ?_, ?_⟩
  · rw [String.ofList_append, String.ofList_append, String.append_assoc]
  · rw [String.ofList_append, String.utf8ByteSize_append]

/-- ASCII characters have one byte each. -/
theorem utf8ByteSize_of_ascii {passed : List Char} (h : ∀ c ∈ passed, c.toNat < 128) :
    (String.ofList passed).utf8ByteSize = passed.length := by
  induction passed with
  | nil => simp
  | cons c passed ih =>
      have hc : c.utf8Size = 1 := Char.utf8Size_eq_one_iff.2 (Nat.le_of_lt_succ (h c List.mem_cons_self))
      have hpassed := ih fun d hd => h d (List.mem_cons_of_mem c hd)
      have hcons : String.ofList (c :: passed) = String.ofList [c] ++ String.ofList passed := by
        rw [← String.ofList_append, List.singleton_append]
      rw [hcons, String.utf8ByteSize_append, hpassed]
      simp [hc, Nat.add_comm]

theorem Behind.append_ascii {passed : List Char} (h : Behind raw i (passed ++ s))
    (hascii : ∀ c ∈ passed, c.toNat < 128) : Behind raw (i + passed.length) s := by
  have hnext := h.append
  rwa [utf8ByteSize_of_ascii hascii] at hnext

theorem Behind.cons_ascii {c : Char} (h : Behind raw i (c :: s)) (hc : c.toNat < 128) :
    Behind raw (i + 1) s := by
  rw [← List.singleton_append] at h
  exact h.append_ascii (by simpa using hc)

theorem Behind.utf8ByteSize_eq (h : Behind raw i s) :
    raw.utf8ByteSize = i + (String.ofList s).utf8ByteSize := by
  obtain ⟨before, rfl, rfl⟩ := h
  rw [String.utf8ByteSize_append]

theorem Behind.lt_of_cons {c : Char} (h : Behind raw i (c :: s)) : i < raw.utf8ByteSize := by
  have hne : (String.ofList (c :: s)).utf8ByteSize ≠ 0 := by
    rw [Ne, String.utf8ByteSize_eq_zero_iff]
    simp
  have hsize := h.utf8ByteSize_eq
  omega

theorem Behind.eq_of_nil (h : Behind raw i []) : i = raw.utf8ByteSize := by
  have hsize := h.utf8ByteSize_eq
  simpa using hsize.symm

/-- The bytes from a place on are those of the characters behind it. -/
theorem Behind.getElem? (h : Behind raw i s) (j : Nat) : raw.toByteArray[i + j]? = s.utf8Encode[j]? := by
  obtain ⟨before, rfl, rfl⟩ := h
  have hdata : (String.ofList before ++ String.ofList s).toByteArray.data =
      before.utf8Encode.data ++ s.utf8Encode.data := by
    rw [String.toByteArray_append, String.toByteArray_ofList,
      String.toByteArray_ofList, ByteArray.data_append]
  have hsize : (String.ofList before).utf8ByteSize = before.utf8Encode.data.size := by
    rw [← String.size_toByteArray, String.toByteArray_ofList]
    rfl
  show (String.ofList before ++ String.ofList s).toByteArray.data[_ + j]? = s.utf8Encode.data[j]?
  rw [hdata, hsize, Array.getElem?_append_right (Nat.le_add_right _ _), Nat.add_sub_cancel_left]

theorem getElem?_utf8Encode_cons (c : Char) (s : List Char) {j : Nat} (hj : j < c.utf8Size) :
    (c :: s).utf8Encode[j]? = (String.utf8EncodeChar c)[j]? := by
  have hlt : j < (String.utf8EncodeChar c).toArray.size := by simpa using hj
  show (c :: s).utf8Encode.data[j]? = _
  rw [List.utf8Encode_cons, ByteArray.data_append, List.utf8Encode_singleton, List.data_toByteArray,
    Array.getElem?_append_left hlt, List.getElem?_toArray]

theorem Behind.byteAt_ascii {c : Char} (h : Behind raw i (c :: s)) (hc : c.toNat < 128) :
    byteAt raw i = .ok c.toUInt8 := by
  have hbyte := h.getElem? 0
  rw [Nat.add_zero, getElem?_utf8Encode_cons c s c.utf8Size_pos, utf8EncodeChar_of_ascii hc] at hbyte
  simp [byteAt, hbyte]

/-- The bytes of a character that is not ASCII. -/
theorem Behind.byteAt_inside {c : Char} (h : Behind raw i (c :: s)) (hc : ¬ c.toNat < 128) {j : Nat}
    (hj : j < c.utf8Size) : ∃ b, byteAt raw (i + j) = .ok b ∧ 128 ≤ b.toNat := by
  have hlt : j < (String.utf8EncodeChar c).length := by rwa [String.length_utf8EncodeChar]
  have hbyte := h.getElem? j
  rw [getElem?_utf8Encode_cons c s hj, List.getElem?_eq_getElem hlt] at hbyte
  refine ⟨(String.utf8EncodeChar c)[j], by simp [byteAt, hbyte], ?_⟩
  exact le_of_mem_utf8EncodeChar hc (List.getElem_mem hlt)

/-- An ASCII byte stands at a place if its character stands behind it. -/
theorem Behind.getElem?_eq_iff (h : Behind raw i s) {d : Char} (hd : d.toNat < 128) :
    raw.toByteArray[i]? = some d.toUInt8 ↔ s.head? = some d := by
  have hbyte := h.getElem? 0
  rw [Nat.add_zero] at hbyte
  rw [hbyte]
  cases s with
  | nil => simp [List.utf8Encode_nil]
  | cons c s =>
      rw [getElem?_utf8Encode_cons c s c.utf8Size_pos, List.head?_cons, Option.some.injEq]
      by_cases hc : c.toNat < 128
      · rw [utf8EncodeChar_of_ascii hc, ← toUInt8_inj hc hd]
        simp
      · refine iff_of_false ?_ ?_
        · intro heq
          have hle := le_of_mem_utf8EncodeChar hc (List.mem_of_getElem? heq)
          rw [toNat_toUInt8 hd] at hle
          omega
        · rintro rfl
          exact hc hd

/-! ## Slices -/

theorem Behind.exists_pos? (h : Behind raw i s) : ∃ p, raw.pos? ⟨i⟩ = some p ∧ p.offset.byteIdx = i := by
  obtain ⟨before, rfl, rfl⟩ := h
  have hvalid : (⟨(String.ofList before).utf8ByteSize⟩ : String.Pos.Raw).IsValid
      (String.ofList before ++ String.ofList s) :=
    String.Pos.Raw.isValid_iff_exists_append.2 ⟨_, _, rfl, rfl⟩
  have hslice := String.Pos.Raw.isValidForSlice_eq_true_iff.2 hvalid.toSlice
  exact ⟨_, by rw [String.pos?, String.Slice.pos?, dif_pos hslice]; rfl, rfl⟩

/-- A slice that begins and ends between characters holds the characters in between. -/
theorem sliceAt_of_behind {part : List Char} (h : Behind raw i (part ++ s)) :
    sliceAt raw i (i + (String.ofList part).utf8ByteSize) = .ok (String.ofList part) := by
  obtain ⟨first, hfirst, hstart⟩ := h.exists_pos?
  obtain ⟨last, hlast, hstop⟩ := h.append.exists_pos?
  have hle : first ≤ last := by
    rw [String.Pos.le_iff, String.Pos.Raw.le_iff]
    omega
  have hpart : (raw.slice first last hle).copy = String.ofList part := by
    apply String.toByteArray_inj.1
    rw [String.toByteArray_copy_slice, hstart, hstop]
    obtain ⟨before, rfl, rfl⟩ := h
    rw [String.toByteArray_append, ← String.size_toByteArray, ← String.size_toByteArray]
    have hskip := ByteArray.extract_append_size_add (a := (String.ofList before).toByteArray)
      (b := (String.ofList (part ++ s)).toByteArray) (i := 0) (j := (String.ofList part).toByteArray.size)
    rw [Nat.add_zero] at hskip
    rw [hskip, String.ofList_append, String.toByteArray_append]
    exact ByteArray.extract_append_eq_left rfl
  simp [sliceAt, hfirst, hlast, String.slice?, hle, hpart]

/-! ## Names -/

/-- A name has as many bytes as it has characters. -/
theorem nameWidth_of_behind (h : Behind raw i s) :
    nameWidth raw i = .ok (s.takeWhile isNameChar).length := by
  induction s generalizing i with
  | nil =>
      have hend := h.eq_of_nil
      rw [nameWidth, if_neg (by omega)]
      rfl
  | cons c s ih =>
      rw [nameWidth, if_pos h.lt_of_cons]
      by_cases hc : c.toNat < 128
      · rw [h.byteAt_ascii hc]
        by_cases hname : isNameChar c = true
        · have hrest := ih (h.cons_ascii hc)
          simp [bind, Except.bind, isNameByte_toUInt8 hc, hname, hrest, pure, Except.pure]
        · simp [bind, Except.bind, isNameByte_toUInt8 hc, hname, pure, Except.pure]
      · obtain ⟨b, hbyte, hb⟩ := h.byteAt_inside hc c.utf8Size_pos
        have hname : isNameChar c = false := by
          rw [← Bool.not_eq_true]
          exact fun hname => hc (toNat_lt_of_isNameChar hname)
        rw [Nat.add_zero] at hbyte
        rw [hbyte]
        simp [bind, Except.bind, isNameByte_of_le hb, hname, pure, Except.pure]

/-- The slice of a name. -/
theorem sliceAt_name (h : Behind raw i s) :
    sliceAt raw i (i + (s.takeWhile isNameChar).length) = .ok (String.ofList (s.takeWhile isNameChar)) := by
  have hascii : ∀ c ∈ s.takeWhile isNameChar, c.toNat < 128 := fun c hc =>
    toNat_lt_of_isNameChar (List.all_eq_true.1 List.all_takeWhile c hc)
  rw [← List.takeWhile_append_dropWhile (p := isNameChar) (l := s)] at h
  have hslice := sliceAt_of_behind h
  rwa [utf8ByteSize_of_ascii hascii] at hslice

theorem Behind.afterName (h : Behind raw i s) :
    Behind raw (i + (s.takeWhile isNameChar).length) (s.dropWhile isNameChar) := by
  rw [← List.takeWhile_append_dropWhile (p := isNameChar) (l := s)] at h
  exact h.append_ascii fun c hc => toNat_lt_of_isNameChar (List.all_eq_true.1 List.all_takeWhile c hc)

theorem closedNameAt?_of_behind {close : Char} (h : Behind raw i s) (hclose : close.toNat < 128) :
    closedNameAt? raw close.toUInt8 i =
      .ok ((closedName? close s).map fun name => (String.ofList name, name.length)) := by
  have hend := h.afterName.getElem?_eq_iff hclose
  simp only [closedNameAt?, nameWidth_of_behind h, bind, Except.bind, hend, closedName?]
  by_cases hname : s.takeWhile isNameChar = []
  · simp [hname, pure, Except.pure]
  · by_cases hclosed : (s.dropWhile isNameChar).head? = some close
    · simp [hname, hclosed, List.length_pos_iff, sliceAt_name h, pure, Except.pure]
    · simp [hname, hclosed, pure, Except.pure]

theorem openNameAt?_of_behind (h : Behind raw i s) :
    openNameAt? raw i = .ok ((openName? s).map fun name => (String.ofList name, name.length)) := by
  simp only [openNameAt?, nameWidth_of_behind h, bind, Except.bind, openName?]
  by_cases hname : s.takeWhile isNameChar = []
  · simp [hname, pure, Except.pure]
  · simp [hname, List.length_pos_iff, sliceAt_name h, pure, Except.pure]

/-! ## Directives -/

namespace Directives

/-- At an ASCII character the bytes are read as the characters are. -/
theorem extendAt?_of_ascii (found : Directives) {c : Char} (h : Behind raw i (c :: s)) (hc : c.toNat < 128) :
    found.extendAt? raw i = .ok (found.extend? c s) := by
  have hnext := h.cons_ascii hc
  have hbrace : c.toUInt8 = '\x7b'.toUInt8 ↔ c = '\x7b' := toUInt8_inj hc (by decide)
  have hbracket : c.toUInt8 = '['.toUInt8 ↔ c = '[' := toUInt8_inj hc (by decide)
  have harrow : c.toUInt8 = '>'.toUInt8 ↔ c = '>' := toUInt8_inj hc (by decide)
  have hsecond := hnext.getElem?_eq_iff (d := '>') (by decide)
  simp only [extendAt?, h.byteAt_ascii hc, bind, Except.bind, hbrace, hbracket, harrow, hsecond, extend?]
  split
  · rw [closedNameAt?_of_behind hnext (by decide)]
    cases closedName? '\x7d' s <;> rfl
  · split
    · rw [closedNameAt?_of_behind hnext (by decide)]
      cases closedName? ']' s <;> rfl
    · -- The bytes are asked for the second arrow at once, the characters only after the first one.
      by_cases hcapture : c = '>' ∧ found.capture.isNone
      · rw [if_pos hcapture]
        cases s with
        | nil => simp [pure, Except.pure]
        | cons d s =>
            by_cases hd : d = '>'
            · subst hd
              have hbehind : Behind raw (i + 2) s := hnext.cons_ascii (by decide)
              simp only [List.head?_cons, and_true, if_pos hcapture, openNameAt?_of_behind hbehind]
              cases openName? s <;> rfl
            · have hnot : ¬ ((d :: s).head? = some '>') := by simpa using hd
              simp only [hnot, and_false, if_false]
              split
              · next heq => exact absurd (List.cons.inj heq).1 hd
              · rfl
      · rw [if_neg hcapture, if_neg fun hall => hcapture ⟨hall.1, hall.2.1⟩]
        rfl

theorem lt_of_byteAt {b : UInt8} (h : byteAt raw i = .ok b) : i < raw.utf8ByteSize := by
  unfold byteAt at h
  split at h
  · next found hbyte =>
      have harray : raw.toByteArray.data[i]? = some found := hbyte
      exact (Array.getElem?_eq_some_iff.1 harray).1
  · cases h

/-- At a byte that is not ASCII no directive starts. -/
theorem extendAt?_of_le (found : Directives) {b : UInt8} (h : byteAt raw i = .ok b) (hb : 128 ≤ b.toNat) :
    found.extendAt? raw i = .ok none := by
  have hne : ∀ d : Char, d.toNat < 128 → b ≠ d.toUInt8 := by
    rintro d hd rfl
    rw [toNat_toUInt8 hd] at hb
    omega
  have hbrace := hne '\x7b' (by decide)
  have hbracket := hne '[' (by decide)
  have harrow := hne '>' (by decide)
  simp [extendAt?, h, bind, Except.bind, hbrace, hbracket, harrow, pure, Except.pure]

theorem extend?_of_not_ascii (found : Directives) {c : Char} (s : List Char) (hc : ¬ c.toNat < 128) :
    found.extend? c s = none := by
  have hne : ∀ d : Char, d.toNat < 128 → c ≠ d := by
    rintro d hd rfl
    exact hc hd
  simp [extend?, hne '\x7b' (by decide), hne '[' (by decide), hne '>' (by decide)]

theorem scanAt_of_none (found : Directives) (hlt : i < raw.utf8ByteSize)
    (h : found.extendAt? raw i = .ok none) : found.scanAt raw i = found.scanAt raw (i + 1) := by
  rw [scanAt, if_pos hlt, h]
  rfl

/-- The bytes of a character that is not ASCII are passed over one by one. -/
theorem scanAt_of_not_ascii (found : Directives) {c : Char} (h : Behind raw i (c :: s))
    (hc : ¬ c.toNat < 128) {j : Nat} (hj : j ≤ c.utf8Size) :
    found.scanAt raw i = found.scanAt raw (i + j) := by
  induction j with
  | zero => rfl
  | succ j ih =>
      obtain ⟨b, hbyte, hb⟩ := h.byteAt_inside hc hj
      rw [ih (Nat.le_of_succ_le hj), ← Nat.add_assoc]
      exact scanAt_of_none found (lt_of_byteAt hbyte) (extendAt?_of_le found hbyte hb)

/-- A directive is passed over as a whole. -/
theorem behind_of_extend? {found found' : Directives} {c : Char} {inside : Nat} (h : Behind raw i (c :: s))
    (hread : found.extend? c s = some (found', inside)) : Behind raw (i + 1 + inside) (s.drop inside) := by
  obtain ⟨f, name, rfl, hsplit, hname⟩ := exists_spell_of_extend? hread
  have hascii : ∀ d ∈ f.spell name, d.toNat < 128 := by
    intro d hd
    rcases List.mem_append.1 hd with hd | hd
    · rcases List.mem_append.1 hd with hd | hd
      · exact f.ascii d (List.mem_append_left _ hd)
      · exact toNat_lt_of_isNameChar (hname d hd)
    · exact f.ascii d (List.mem_append_right _ hd)
  rw [hsplit] at h
  have hnext := h.append_ascii hascii
  rwa [f.length_spell, ← Nat.add_assoc, Nat.add_right_comm i] at hnext

/-- No access of the scan is misplaced, and it comes to what the scan of the characters does. -/
theorem scanAt_eq (found : Directives) (h : Behind raw i s) :
    found.scanAt raw i = .ok (found.scan 0 s) := by
  -- By the number of characters left: a directive may take several of them.
  induction hn : s.length using Nat.strongRecOn generalizing found i s with
  | ind n ih =>
      subst hn
      cases s with
      | nil =>
          have hend := h.eq_of_nil
          rw [scanAt, if_neg (by omega)]
          rfl
      | cons c s =>
          by_cases hc : c.toNat < 128
          · have hread := extendAt?_of_ascii found h hc
            rw [scan]
            cases hextend : found.extend? c s with
            | none =>
                rw [hextend] at hread
                rw [scanAt_of_none found h.lt_of_cons hread]
                exact ih s.length (Nat.lt_succ_self _) found (h.cons_ascii hc) rfl
            | some directive =>
                obtain ⟨found', inside⟩ := directive
                rw [hextend] at hread
                have hbehind := behind_of_extend? h hextend
                have hshorter : (s.drop inside).length < (c :: s).length := by
                  rw [List.length_drop, List.length_cons]
                  omega
                have hnext := ih (s.drop inside).length hshorter found' hbehind rfl
                rw [scanAt, if_pos h.lt_of_cons, hread]
                simp only [bind, Except.bind]
                rw [hnext, scan_eq_complete, scan_eq_complete, List.drop_zero]
          · -- Its bytes are stepped over one at a time, and the next place is behind all of them.
            have hnone := extend?_of_not_ascii found s hc
            have hwidth : (String.ofList [c]).utf8ByteSize = c.utf8Size := by simp
            have hnext : Behind raw (i + c.utf8Size) s := by
              rw [← hwidth]
              exact Behind.append h
            rw [scanAt_of_not_ascii found h hc (Nat.le_refl _), scan, hnone]
            exact ih s.length (Nat.lt_succ_self _) found hnext rfl

end Directives

namespace Expectation

/-- An expectation read from bytes is the one read from characters. -/
theorem parseBytes_eq (raw : String) : parseBytes raw = .ok (parse raw) := by
  rw [parseBytes, Directives.scanAt_eq _ (behind_zero raw)]
  rfl

theorem directives_parse (raw : String) : (parse raw).directives = Directives.empty.complete raw.toList :=
  Directives.scan_eq_complete .empty 0 raw.toList

theorem reference_parse (raw : String) :
    (parse raw).reference = (Form.reference.search? raw.toList).map String.ofList := by
  rw [reference, directives_parse]
  rfl

theorem capture_parse (raw : String) :
    (parse raw).capture = (Form.capture.search? raw.toList).map String.ofList := by
  rw [capture, directives_parse]
  rfl

theorem tag_parse (raw : String) :
    (parse raw).tag = (Form.tag.search? raw.toList).map fun name => .ofName (String.ofList name) := by
  rw [tag, directives_parse]
  rfl

/-- The tag of a text is the one that the name found in it stands for. -/
theorem tag_parse_eq_some_iff (raw : String) (t : TypeTag) :
    (parse raw).tag = some t ↔
      ∃ name : String, TypeTag.ofName name = t ∧ Form.tag.Finds raw.toList (some name.toList) := by
  rw [tag_parse, Option.map_eq_some_iff]
  constructor
  · rintro ⟨name, hname, ht⟩
    refine ⟨String.ofList name, ht, ?_⟩
    rw [String.toList_ofList, Form.finds_iff]
    exact hname
  · rintro ⟨name, ht, hfinds⟩
    refine ⟨name.toList, (Form.finds_iff _).1 hfinds, ?_⟩
    rw [String.ofList_toList]
    exact ht

/-- A text that is read is kept, and each of its directives is what a search of its own over the whole text
finds: the first match, with the longest name that a match at that place has, or nothing if there is no
match. A tag is the one for numbers if the name found is `number`, the one for mail addresses if it is `email`,
and an unknown one of that name if it is any other. Read from bytes all this is the same, and no index or slice
is misplaced. -/
theorem parsing_law (raw : String) :
    (parse raw).raw = raw ∧
    (∀ found, Form.reference.Finds raw.toList found ↔
      (parse raw).reference = found.map String.ofList) ∧
    ((Form.tag.Finds raw.toList none ↔ (parse raw).tag = none) ∧
      (Form.tag.Finds raw.toList (some "number".toList) ↔ (parse raw).tag = some .number) ∧
      (Form.tag.Finds raw.toList (some "email".toList) ↔ (parse raw).tag = some .email) ∧
      ∀ name : String, (name ≠ "number" ∧ name ≠ "email" ∧ Form.tag.Finds raw.toList (some name.toList)) ↔
        (parse raw).tag = some (.unknown name)) ∧
    (∀ found, Form.capture.Finds raw.toList found ↔
      (parse raw).capture = found.map String.ofList) ∧
    parseBytes raw = .ok (parse raw) := by
  have hofList : Function.Injective String.ofList := fun a b h => String.ofList_inj.1 h
  refine ⟨rfl, fun found => ?_, ⟨?_, ?_, ?_, fun name => ?_⟩, fun found => ?_, parseBytes_eq raw⟩
  · rw [Form.finds_iff, reference_parse, (Option.map_injective hofList).eq_iff]
  · rw [Form.finds_iff, tag_parse, Option.map_eq_none_iff]
  · simp only [tag_parse_eq_some_iff, TypeTag.ofName_eq_number_iff, exists_eq_left]
  · simp only [tag_parse_eq_some_iff, TypeTag.ofName_eq_email_iff, exists_eq_left]
  · simp only [tag_parse_eq_some_iff, TypeTag.ofName_eq_unknown_iff, and_assoc, exists_and_left, exists_eq_left]
  · rw [Form.finds_iff, capture_parse, (Option.map_injective hofList).eq_iff]

/-- All three directives of a text, behind an empty name, a character that is not ASCII and an arrow too many; a
second tag does not count. -/
theorem parsing_law_directives :
    let raw := "\x7b\x7d[é]>\x7bUSER\x7d[email]>>>ID_2 [number]"
    Form.reference.Finds raw.toList (some "USER".toList) ∧
      Form.tag.Finds raw.toList (some "email".toList) ∧ ¬ Form.tag.Finds raw.toList (some "number".toList) ∧
      Form.capture.Finds raw.toList (some "ID_2".toList) ∧
      parseBytes raw = .ok ⟨raw, some "USER", some .email, some "ID_2"⟩ := by
  intro raw
  have hread : (parse raw).directives = ⟨some "USER", some .email, some "ID_2"⟩ := by decide +kernel
  have htag : (parse raw).tag = some .email := congrArg Directives.tag hread
  obtain ⟨-, hreference, ⟨-, hnumber, hemail, -⟩, hcapture, hbytes⟩ := parsing_law raw
  refine ⟨(hreference _).2 ?_, hemail.2 htag, ?_, (hcapture _).2 ?_, ?_⟩
  · rw [Option.map_some, String.ofList_toList]
    exact congrArg Directives.reference hread
  · rw [hnumber, htag]
    exact nofun
  · rw [Option.map_some, String.ofList_toList]
    exact congrArg Directives.capture hread
  · rw [hbytes, ← hread]
    rfl

end Expectation

end Probe
