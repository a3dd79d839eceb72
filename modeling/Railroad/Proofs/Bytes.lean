import Mathlib
import Railroad.Text.Bytes

/-!
# Cuts between characters

A cut behind some characters of a text can be made, and it is made where their bytes end. What is searched
for in a text is found behind as many bytes as there are in front of it.
-/

namespace Railroad.Text

@[simp]
theorem byteLength_nil : byteLength [] = 0 := rfl

@[simp]
theorem byteLength_cons (c : Char) (text : List Char) :
    byteLength (c :: text) = c.utf8Size + byteLength text := rfl

@[simp]
theorem byteLength_append (front back : List Char) :
    byteLength (front ++ back) = byteLength front + byteLength back := by
  induction front with
  | nil => simp
  | cons c front ih => simp [ih, Nat.add_assoc]

/-- The number of bytes of a text is that of its encoding. -/
theorem byteLength_eq (text : List Char) : byteLength text = String.utf8Len text := by
  induction text with
  | nil => rfl
  | cons c text ih => rw [byteLength, ih, String.utf8Len_cons, Nat.add_comm]

/-- The bytes of a string are those of its characters. -/
theorem utf8ByteSize_eq (text : String) : text.utf8ByteSize = byteLength text.toList := by
  rw [byteLength_eq, ← String.utf8ByteSize_ofList, String.ofList_toList]

/-- A text without bytes has no characters. -/
theorem byteLength_eq_zero_iff {text : List Char} : byteLength text = 0 ↔ text = [] := by
  cases text with
  | nil => simp
  | cons c text =>
    have hpos := c.utf8Size_pos
    simp only [byteLength_cons, reduceCtorEq, iff_false]
    omega

/-- Of two beginnings of one text the one with fewer bytes is a beginning of the other. -/
theorem exists_of_append_eq {front back front' back' : List Char} (h : front ++ back = front' ++ back')
    (hle : byteLength front' ≤ byteLength front) :
    ∃ inner, front = front' ++ inner ∧ back' = inner ++ back := by
  rcases List.append_eq_append_iff.mp h with ⟨more, rfl, rfl⟩ | hinner
  · rw [byteLength_append] at hle
    have hzero : byteLength more = 0 := by omega
    obtain rfl := byteLength_eq_zero_iff.mp hzero
    exact ⟨[], by simp⟩
  · exact hinner

/-- A character in front of the end of a beginning is in it. -/
theorem mem_of_append_eq {front back front' back' : List Char} {c : Char}
    (h : front ++ c :: back = front' ++ back') (hlt : byteLength front < byteLength front') : c ∈ front' := by
  obtain ⟨inner, rfl, hinner⟩ := exists_of_append_eq h.symm hlt.le
  cases inner with
  | nil =>
    rw [List.append_nil] at hlt
    exact absurd hlt (Nat.lt_irrefl _)
  | cons d inner =>
    rw [(List.cons.inj hinner).1]
    exact List.mem_append_right _ List.mem_cons_self

/-- Characters of one byte each take as many bytes as there are of them. -/
theorem byteLength_eq_length {text : List Char} (h : ∀ c ∈ text, c.utf8Size = 1) :
    byteLength text = text.length := by
  induction text with
  | nil => rfl
  | cons c text ih =>
    rw [byteLength_cons, h c List.mem_cons_self, ih fun d hmem => h d (List.mem_cons_of_mem _ hmem),
      List.length_cons, Nat.add_comm]

/-- One more character takes its bytes. -/
theorem byteLength_take_succ {text more : List Char} {n : Nat} {c : Char}
    (h : text.drop n = c :: more) :
    byteLength (text.take (n + 1)) = byteLength (text.take n) + c.utf8Size := by
  rw [List.take_add, h, List.take_succ_cons, List.take_zero, byteLength_append]
  rfl

/-- A text can be cut behind any of its characters. -/
theorem cutAt_append (front back : List Char) :
    cutAt (byteLength front) (front ++ back) = some (front, back) := by
  induction front with
  | nil => cases back <;> rfl
  | cons c front ih =>
    obtain ⟨n, hn⟩ : ∃ n, byteLength (c :: front) = n + 1 :=
      Nat.exists_eq_succ_of_ne_zero fun hzero => List.cons_ne_nil c front (byteLength_eq_zero_iff.mp hzero)
    have hle : c.utf8Size ≤ n + 1 := by
      rw [← hn, byteLength_cons]
      exact Nat.le_add_right _ _
    have hrest : n + 1 - c.utf8Size = byteLength front := by
      rw [← hn, byteLength_cons, Nat.add_sub_cancel_left]
    rw [hn, List.cons_append, cutAt, if_pos hle, hrest, ih]
    rfl

/-- What follows some characters is a piece of the text. -/
theorem sliceFrom_append (front back : List Char) :
    sliceFrom (byteLength front) (front ++ back) = some back := by
  rw [sliceFrom, cutAt_append]
  rfl

/-- What stands between some characters is a piece of the text. -/
theorem slice_append (front part back : List Char) :
    slice (byteLength front) (byteLength front + byteLength part) (front ++ (part ++ back)) =
      some part := by
  rw [slice, sliceFrom_append]
  simp [cutAt_append]

/-- A text can be cut nowhere else: a cut that is made stands between two parts of the text. -/
theorem cutAt_eq_some_iff {n : Nat} {text front back : List Char} :
    cutAt n text = some (front, back) ↔ text = front ++ back ∧ n = byteLength front := by
  constructor
  · intro h
    fun_induction cutAt n text generalizing front with
    | case1 =>
      cases h
      exact ⟨rfl, rfl⟩
    | case2 => cases h
    | case3 n c text hle ih =>
      obtain ⟨⟨front', back'⟩, hparts, heq⟩ := Option.map_eq_some_iff.mp h
      cases heq
      obtain ⟨rfl, hn⟩ := ih hparts
      refine ⟨rfl, ?_⟩
      rw [byteLength_cons, ← hn, Nat.add_sub_cancel' hle]
    | case4 => cases h
  · rintro ⟨rfl, rfl⟩
    exact cutAt_append front back

/-- A piece of a text begins and ends between characters, and it does not end in front of its beginning. -/
theorem slice_eq_some_iff {start stop : Nat} {text part : List Char} :
    slice start stop text = some part ↔
      ∃ front back, text = front ++ (part ++ back) ∧ start = byteLength front ∧
        stop = byteLength front + byteLength part := by
  constructor
  · intro h
    obtain ⟨rest, hrest, hcut⟩ := Option.bind_eq_some_iff.mp h
    obtain ⟨⟨front, rest'⟩, hfront, rfl⟩ := Option.map_eq_some_iff.mp hrest
    obtain ⟨rfl, rfl⟩ := cutAt_eq_some_iff.mp hfront
    split at hcut
    · rename_i hle
      obtain ⟨⟨part', back⟩, hpart, rfl⟩ := Option.map_eq_some_iff.mp hcut
      obtain ⟨rfl, hstop⟩ := cutAt_eq_some_iff.mp hpart
      exact ⟨front, back, rfl, rfl, by rw [← hstop, Nat.add_sub_cancel' hle]⟩
    · cases hcut
  · rintro ⟨front, back, rfl, rfl, rfl⟩
    exact slice_append front part back

/-- What is left behind the first characters is a piece of the text. -/
theorem sliceFrom_take (n : Nat) (text : List Char) :
    sliceFrom (byteLength (text.take n)) text = some (text.drop n) := by
  have hcut := sliceFrom_append (text.take n) (text.drop n)
  rwa [List.take_append_drop] at hcut

/-- The first characters are a piece of the text. -/
theorem slice_take (n : Nat) (text : List Char) :
    slice 0 (byteLength (text.take n)) text = some (text.take n) := by
  have hcut := slice_append [] (text.take n) (text.drop n)
  rwa [List.take_append_drop, byteLength_nil, Nat.zero_add, List.nil_append] at hcut

/-- A run at the beginning of a text is as many of its characters as it has. -/
theorem take_takeWhile (p : Char → Bool) (text : List Char) :
    text.take (text.takeWhile p).length = text.takeWhile p :=
  (List.prefix_iff_eq_take.mp (List.takeWhile_prefix p)).symm

/-- What follows a run is a piece of the text. -/
theorem sliceFrom_takeWhile (p : Char → Bool) (text : List Char) :
    sliceFrom (byteLength (text.takeWhile p)) text = some (text.drop (text.takeWhile p).length) := by
  have hcut := sliceFrom_take (text.takeWhile p).length text
  rwa [take_takeWhile] at hcut

/-- A run is a piece of the text. -/
theorem slice_takeWhile (p : Char → Bool) (text : List Char) :
    slice 0 (byteLength (text.takeWhile p)) text = some (text.takeWhile p) := by
  have hcut := slice_take (text.takeWhile p).length text
  rwa [take_takeWhile] at hcut

/-- A place that is counted behind some characters is counted from them. -/
theorem map_byteLength_append (found : Option Nat) (place : Nat) (part rest : List Char) :
    (found.map fun n => place + byteLength part + byteLength (rest.take n)) =
      (found.map (· + part.length)).map fun n => place + byteLength ((part ++ rest).take n) := by
  rw [Option.map_map]
  refine congrArg (fun f => Option.map f found) (funext fun n => ?_)
  simp only [Function.comp_apply, Nat.add_comm n, List.take_length_add_append, byteLength_append,
    Nat.add_assoc]

/-- A character is found behind the bytes of those in front of it. -/
theorem find?_eq (p : Char → Bool) (text : List Char) :
    find? p text = (text.findIdx? p).map fun n => byteLength (text.take n) := by
  induction text with
  | nil => rfl
  | cons c text ih =>
    rw [find?, List.findIdx?_cons, ih]
    split
    · rfl
    · rw [Option.map_map, Option.map_map]
      refine congrArg (fun f => Option.map f _) (funext fun n => ?_)
      simp [Nat.add_comm]

/-- A mark is found behind characters that are none. -/
theorem find?_append_cons {mark : Char} {front : List Char} (h : mark ∉ front) (rest : List Char) :
    find? (· == mark) (front ++ mark :: rest) = some (byteLength front) := by
  induction front with
  | nil => simp [find?]
  | cons c front ih =>
    rw [List.mem_cons, not_or] at h
    have hc : (c == mark) = false := beq_eq_false_iff_ne.mpr (Ne.symm h.1)
    rw [List.cons_append, find?, hc, ih h.2]
    simp [Nat.add_comm]

/-- A mark is not found among characters that are none. -/
theorem find?_eq_none {mark : Char} {text : List Char} (h : mark ∉ text) :
    find? (· == mark) text = none := by
  rw [find?_eq, List.findIdx?_eq_none_iff.mpr, Option.map_none]
  intro c hmem
  rw [beq_eq_false_iff_ne]
  rintro rfl
  exact h hmem

/-- A run is measured up to the first character that does not belong to it. -/
theorem leading_eq (p : Char → Bool) (text : List Char) :
    leading p text = byteLength (text.takeWhile p) := by
  unfold leading
  induction text with
  | nil => rfl
  | cons c text ih =>
    by_cases hc : p c = true
    · rw [List.takeWhile_cons_of_pos hc, find?]
      simp only [hc, Bool.not_true, Bool.false_eq_true, if_false, byteLength_cons, ← ih]
      cases find? (fun c => !p c) text with
      | none => rfl
      | some n => exact Nat.add_comm _ _
    · rw [List.takeWhile_cons_of_neg hc, find?]
      simp [hc]

/-- A text that does not go on behind a beginning does not have it. -/
theorem isPrefixOf_eq_false {beginning text : List Char} (h : ∀ rest, text ≠ beginning ++ rest) :
    beginning.isPrefixOf text = false := by
  rw [Bool.eq_false_iff, Ne, List.isPrefixOf_iff_prefix]
  rintro ⟨rest, heq⟩
  exact h rest heq.symm

/-- What is left behind a beginning. -/
theorem after?_append (beginning text : List Char) :
    after? beginning (beginning ++ text) = some text := by
  rw [after?, if_pos (List.isPrefixOf_iff_prefix.mpr (List.prefix_append _ _)), List.drop_left]

/-- Nothing is left behind a beginning that the text does not have. -/
theorem after?_eq_none {beginning text : List Char} (h : ∀ rest, text ≠ beginning ++ rest) :
    after? beginning text = none := by
  rw [after?, isPrefixOf_eq_false h]
  rfl

/-- What is left behind a beginning is a piece of the text. -/
theorem stripStart_eq (beginning text : List Char) :
    stripStart beginning text = some (after? beginning text) := by
  unfold stripStart after?
  split
  · rename_i hbegins
    obtain ⟨rest, rfl⟩ := List.isPrefixOf_iff_prefix.mp hbegins
    rw [sliceFrom_append, List.drop_left]
    rfl
  · rfl

/-- What is left in front of an ending is a piece of the text. -/
theorem stripEnd_eq (ending text : List Char) : stripEnd ending text = some (before? ending text) := by
  unfold stripEnd before?
  split
  · rename_i hsuffix
    obtain ⟨front, rfl⟩ := List.isSuffixOf_iff_suffix.mp hsuffix
    have hcut := slice_append [] front ending
    rw [byteLength_nil, Nat.zero_add, List.nil_append] at hcut
    rw [byteLength_append, Nat.add_sub_cancel, hcut, List.length_append, Nat.add_sub_cancel,
      List.take_left]
    rfl
  · rfl

end Railroad.Text
