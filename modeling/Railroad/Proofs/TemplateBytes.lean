import Railroad.Process.Bytewise
import Railroad.Proofs.StepBytes
import Railroad.Proofs.Templates

/-!
# Templates byte by byte

Expanding a template byte by byte never cuts it inside a character or beyond its end, and gives what
expanding it character by character gives.
-/

namespace Railroad.Bytewise

open Text (byteLength byteLength_append byteLength_cons byteLength_nil bytes find? slice sliceFrom)

/-- The first byte of a character is that of a digit if the character is one. -/
theorem exists_first_byte (c : Char) :
    ∃ byte more, String.utf8EncodeChar c = byte :: more ∧ isDigitByte byte = c.isDigit := by
  by_cases hc : c.utf8Size = 1
  · refine ⟨_, [], String.utf8EncodeChar_eq_singleton hc, ?_⟩
    have hcode : c.val.toUInt8.toNat = c.val.toNat := (Token.Bytewise.toNat_toUInt8 hc).1
    rw [isDigitByte, Char.isDigit, hcode, Bool.eq_iff_iff]
    simp only [Bool.and_eq_true, decide_eq_true_eq, ge_iff_le, UInt32.le_iff_toNat_le]
    exact Iff.rfl
  · obtain ⟨byte, more, hbytes⟩ : ∃ byte more, String.utf8EncodeChar c = byte :: more := by
      refine List.exists_cons_of_ne_nil fun hnil => ?_
      have hlength := congrArg List.length hnil
      rw [String.length_utf8EncodeChar] at hlength
      exact absurd hlength c.utf8Size_pos.ne'
    have hlarge := Token.Bytewise.le_of_mem_utf8EncodeChar hc (hbytes ▸ List.mem_cons_self)
    have hdigit : c.isDigit = false :=
      Bool.eq_false_iff.mpr fun hdigit => hc (Token.Bytewise.utf8Size_of_isDigit hdigit)
    refine ⟨byte, more, hbytes, ?_⟩
    rw [hdigit, isDigitByte, Bool.and_eq_false_iff]
    exact .inr (decide_eq_false (by omega))

/-- The digits at the beginning of a text are counted by their bytes. -/
theorem digitCount_eq (text : List Char) :
    digitCount text = byteLength (text.takeWhile Char.isDigit) := by
  unfold digitCount
  induction text with
  | nil => rfl
  | cons c text ih =>
    obtain ⟨byte, more, hbytes, hdigit⟩ := exists_first_byte c
    have hsplit : bytes (c :: text) = byte :: (more ++ bytes text) := by
      rw [bytes, List.flatMap_cons, hbytes, List.cons_append, ← bytes]
    rw [hsplit]
    by_cases hc : c.isDigit = true
    · have hsize := Token.Bytewise.utf8Size_of_isDigit hc
      have hmore : more = [] := by
        have hlength := congrArg List.length hbytes
        rw [String.length_utf8EncodeChar, hsize, List.length_cons] at hlength
        exact List.eq_nil_of_length_eq_zero (by omega)
      rw [List.takeWhile_cons_of_pos (hdigit.trans hc), List.takeWhile_cons_of_pos hc, hmore,
        List.nil_append, List.length_cons, ih, byteLength_cons, hsize, Nat.add_comm]
    · rw [List.takeWhile_cons_of_neg (by rwa [hdigit]), List.takeWhile_cons_of_neg hc]
      rfl

/-- A text begins with a part of it, which is a piece. -/
theorem slice_prefix (front back : List Char) : slice 0 (byteLength front) (front ++ back) = some front := by
  have hcut := Text.slice_append [] front back
  rwa [byteLength_nil, Nat.zero_add, List.nil_append] at hcut

/-- The body of braces is found up to the first closing brace. -/
theorem body?_eq (inner : List Char) :
    body? ('\x7b' :: inner) = some ((inner.findIdx? (· == '\x7d')).map inner.take) := by
  have hstrip : Text.stripStart ['\x7b'] ('\x7b' :: inner) = some (some inner) := by
    rw [Text.stripStart_eq]
    exact congrArg some (Text.after?_append ['\x7b'] inner)
  rw [body?, hstrip, Option.bind_eq_bind, Option.bind_some]
  dsimp only
  rw [Text.find?_eq]
  cases inner.findIdx? (· == '\x7d') with
  | none => rfl
  | some n =>
    rw [Option.map_some, Option.map_some]
    dsimp only
    rw [Text.slice_take]
    rfl

/-- There is no body where no brace opens. -/
theorem body?_eq_none {rest : List Char} (h : ∀ inner, rest ≠ '\x7b' :: inner) :
    body? rest = some none := by
  have hstrip : Text.stripStart ['\x7b'] rest = some none := by
    rw [Text.stripStart_eq, Text.after?_eq_none h]
  rw [body?, hstrip]
  rfl

/-- What a dollar sign stands for that refers to nothing in braces: digits, if there are any. -/
theorem reference_eq_bare (groups : GroupTexts) {rest : List Char} (hdollar : rest.head? ≠ some '$')
    (hand : rest.head? ≠ some '&') (hbody : body? rest = some none) :
    reference groups ('$' :: rest) =
      some (((Piece.bare? rest).map fun found =>
        (found.1.fill groups, byteLength ('$' :: rest.take found.2))).getD (['$'], 1)) := by
  have hafter : sliceFrom 1 ('$' :: rest) = some rest := Text.sliceFrom_append ['$'] rest
  have hnumeral : slice 0 (digitCount rest) rest = some (rest.takeWhile Char.isDigit) := by
    rw [digitCount_eq, Text.slice_takeWhile]
  have hplus : Text.withoutPlus (rest.takeWhile Char.isDigit) = rest.takeWhile Char.isDigit := by
    by_cases hnone : rest.takeWhile Char.isDigit = []
    · rw [hnone]
      rfl
    · exact TemplatePart.IsNumeral.withoutPlus_eq ⟨hnone, fun c hc => List.mem_takeWhile_imp hc⟩
  have hsize : byteLength ('$' :: rest.takeWhile Char.isDigit) = digitCount rest + 1 := by
    rw [byteLength_cons, digitCount_eq, Nat.add_comm]
    rfl
  have hwritten : slice 0 (digitCount rest + 1) ('$' :: rest) = some ('$' :: rest.takeWhile Char.isDigit) := by
    have hcut := slice_prefix ('$' :: rest.takeWhile Char.isDigit) (rest.dropWhile Char.isDigit)
    rwa [List.cons_append, List.takeWhile_append_dropWhile, hsize] at hcut
  simp only [reference, hafter, hbody, hnumeral, hplus, hdollar, hand, if_false, Option.bind_eq_bind,
    Option.bind_some, Piece.bare?]
  cases Piece.groupNumber? (rest.takeWhile Char.isDigit) with
  | none => rfl
  | some n =>
    dsimp only [Option.map_some, Option.getD_some]
    rw [hwritten, Text.take_takeWhile, hsize]
    rfl

/-- A reference is found as it is character by character. -/
theorem reference_eq (groups : GroupTexts) (rest : List Char) :
    reference groups ('$' :: rest) =
      some (((Piece.reference? rest).map fun found =>
        (found.1.fill groups, byteLength ('$' :: rest.take found.2))).getD (['$'], 1)) := by
  have hafter : sliceFrom 1 ('$' :: rest) = some rest := Text.sliceFrom_append ['$'] rest
  fun_cases Piece.reference? rest with
  | case1 behind =>
    rw [reference, hafter]
    rfl
  | case2 behind =>
    rw [reference, hafter]
    rfl
  | case3 inner n hn =>
    obtain ⟨hlt, hmark, -⟩ := List.findIdx?_eq_some_iff_getElem.mp hn
    have hinner : inner = inner.take n ++ '\x7d' :: inner.drop (n + 1) := by
      rw [← beq_iff_eq.mp hmark, List.getElem_cons_drop, List.take_append_drop]
    have hbody : body? ('\x7b' :: inner) = some (some (inner.take n)) := by
      rw [body?_eq, hn, Option.map_some]
    have hsize : byteLength ('$' :: '\x7b' :: inner.take n ++ ['\x7d']) = byteLength (inner.take n) + 3 := by
      simp only [byteLength_append, byteLength_cons, byteLength_nil]
      change 1 + (1 + byteLength (inner.take n)) + (1 + 0) = _
      omega
    have hwritten : slice 0 (byteLength (inner.take n) + 3) ('$' :: '\x7b' :: inner) =
        some ('$' :: '\x7b' :: inner.take n ++ ['\x7d']) := by
      have hcut := slice_prefix ('$' :: '\x7b' :: inner.take n ++ ['\x7d']) (inner.drop (n + 1))
      have hwhole : '$' :: '\x7b' :: inner.take n ++ ['\x7d'] ++ inner.drop (n + 1) =
          '$' :: '\x7b' :: inner := by
        conv_rhs => rw [hinner]
        simp only [List.cons_append, List.append_assoc, List.nil_append]
      rwa [hwhole, hsize] at hcut
    have hdollar : ('\x7b' :: inner).head? ≠ some '$' := fun h => absurd (Option.some.inj h) (by decide)
    have hand : ('\x7b' :: inner).head? ≠ some '&' := fun h => absurd (Option.some.inj h) (by decide)
    simp only [reference, hafter, hbody, hwritten, hdollar, hand, if_false, Option.bind_eq_bind,
      Option.bind_some, Piece.braced, Option.map_some, Option.getD_some]
    have htake : ('\x7b' :: inner).take (n + 2) = '\x7b' :: inner.take n ++ ['\x7d'] := by
      rw [List.take_succ_cons, List.take_succ_eq_append_getElem hlt, beq_iff_eq.mp hmark, List.cons_append]
    rw [htake]
    cases Piece.groupNumber? (Text.withoutPlus (inner.take n)) with
    | none => rfl
    | some number => rfl
  | case4 inner hn =>
    have hbody : body? ('\x7b' :: inner) = some none := by
      rw [body?_eq, hn, Option.map_none]
    exact reference_eq_bare groups (fun h => absurd (Option.some.inj h) (by decide))
      (fun h => absurd (Option.some.inj h) (by decide)) hbody
  | case5 rest hdollar hand hbrace =>
    refine reference_eq_bare groups (fun h => ?_) (fun h => ?_) (body?_eq_none hbrace)
    · obtain ⟨tail, rfl⟩ := List.head?_eq_some_iff.mp h
      exact hdollar tail rfl
    · obtain ⟨tail, rfl⟩ := List.head?_eq_some_iff.mp h
      exact hand tail rfl

/-- A step, given the reference at the first dollar sign. -/
theorem expandStep_of_reference {groups : GroupTexts} {front rest text behind : List Char} {size : Nat}
    (hfront : '$' ∉ front) (hreference : reference groups ('$' :: rest) = some (text, size))
    (hbehind : sliceFrom size ('$' :: rest) = some behind) :
    expandStep groups (front ++ '$' :: rest) = some (front ++ text, some behind) := by
  have hfind : find? (· == '$') (front ++ '$' :: rest) = some (byteLength front) :=
    Text.find?_append_cons hfront rest
  simp only [expandStep, hfind, slice_prefix, Text.sliceFrom_append, hreference, hbehind,
    Option.bind_eq_bind, Option.bind_some]
  rfl

/-- A step takes what stands in front of a dollar sign and what the dollar sign refers to, and leaves the
rest of the template. -/
theorem expandStep_eq (groups : GroupTexts) (template : List Char) :
    (expandStep groups template = some (template, none) ∧ Railroad.expand template groups = template) ∨
      ∃ text behind, expandStep groups template = some (text, some behind) ∧
        byteLength behind < byteLength template ∧
        Railroad.expand template groups = text ++ Railroad.expand behind groups := by
  by_cases hdollar : '$' ∈ template
  · obtain ⟨front, rest, rfl, hfront⟩ := List.eq_append_cons_of_mem hdollar
    right
    have hreference := reference_eq groups rest
    have hless (n : Nat) : byteLength (rest.drop n) < byteLength (front ++ '$' :: rest) := by
      have hsplit := congrArg byteLength (List.take_append_drop n rest)
      have hpos : 0 < ('$' : Char).utf8Size := Char.utf8Size_pos _
      rw [byteLength_append] at hsplit
      rw [byteLength_append, byteLength_cons]
      omega
    cases hfound : Piece.reference? rest with
    | none =>
      rw [hfound] at hreference
      refine ⟨front ++ ['$'], rest, expandStep_of_reference hfront hreference
        (Text.sliceFrom_append ['$'] rest), hless 0, ?_⟩
      rw [expand_append hfront, expand_dollar hfound, List.append_assoc, List.singleton_append]
    | some found =>
      rw [hfound] at hreference
      refine ⟨front ++ found.1.fill groups, rest.drop found.2, expandStep_of_reference hfront hreference
        (Text.sliceFrom_take (found.2 + 1) ('$' :: rest)), hless found.2, ?_⟩
      rw [expand_append hfront, expand_found hfound, List.append_assoc]
  · left
    refine ⟨?_, ?_⟩
    · rw [expandStep, Text.find?_eq_none hdollar]
    · have hall := expand_append hdollar [] groups
      have hnil : Railroad.expand [] groups = [] := by
        rw [Railroad.expand, Piece.ofTemplate]
        rfl
      rwa [List.append_nil, hnil, List.append_nil] at hall

/-- Expanding a template byte by byte gives what expanding it character by character gives. -/
theorem expand_eq (groups : GroupTexts) (template : List Char) :
    expand groups template = some (Railroad.expand template groups) := by
  induction hbytes : byteLength template using Nat.strong_induction_on generalizing template with
  | _ size ih =>
    obtain ⟨hstep, hexpand⟩ | ⟨text, behind, hstep, hless, hexpand⟩ := expandStep_eq groups template
    · rw [expand, hstep, hexpand]
    · rw [expand, hstep]
      dsimp only
      rw [if_pos hless, ih (byteLength behind) (hbytes ▸ hless) behind rfl, hexpand]
      rfl

end Railroad.Bytewise
