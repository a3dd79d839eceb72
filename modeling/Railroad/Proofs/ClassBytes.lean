import Railroad.Proofs.Bytes
import Railroad.Proofs.Lookahead
import Railroad.Token.Bytewise

/-!
# Classes byte by byte

The loop over the bytes of a class passes a backslash with the byte behind it, which may be the first of
several. The others are the bytes of no ASCII character, so the loop passes them one by one as members, and
has caught up with the characters when it comes to the next one.
-/

namespace Railroad.Token.Bytewise

open Text (bytes byteLength byteLength_append byteLength_cons byteLength_nil)

/-- A text has as many bytes as its characters. -/
theorem length_bytes (text : List Char) : (bytes text).length = byteLength text := by
  induction text with
  | nil => rfl
  | cons c text ih =>
    rw [bytes, List.flatMap_cons, List.length_append, String.length_utf8EncodeChar, byteLength_cons,
      ← ih, bytes]

/-- The bytes of a character stand behind those of the characters in front of it. -/
theorem getElem?_bytes (front rest : List Char) (c : Char) {k : Nat} (hk : k < c.utf8Size) :
    (bytes (front ++ c :: rest))[byteLength front + k]? = (String.utf8EncodeChar c)[k]? := by
  have hsplit : bytes (front ++ c :: rest) = bytes front ++ (String.utf8EncodeChar c ++ bytes rest) := by
    simp only [bytes, List.flatMap_append, List.flatMap_cons]
  rw [hsplit, ← length_bytes, List.getElem?_append_right (Nat.le_add_right _ _),
    Nat.add_sub_cancel_left, List.getElem?_append_left (by rwa [String.length_utf8EncodeChar])]

/-- Characters of several bytes have no byte of an ASCII character. -/
theorem le_of_mem_utf8EncodeChar {c : Char} {byte : UInt8} (hc : c.utf8Size ≠ 1)
    (h : byte ∈ String.utf8EncodeChar c) : 128 ≤ byte.toNat := by
  have hvalue : ¬ c.val.toNat ≤ 127 := fun hle => hc (Char.utf8Size_eq_one_iff.mpr hle)
  simp only [String.utf8EncodeChar, if_neg hvalue] at h
  split at h
  · simp only [List.mem_cons, List.not_mem_nil, or_false] at h
    rcases h with rfl | rfl <;> rw [UInt8.toNat_ofNat'] <;> omega
  · split at h
    · simp only [List.mem_cons, List.not_mem_nil, or_false] at h
      rcases h with rfl | rfl | rfl <;> rw [UInt8.toNat_ofNat'] <;> omega
    · simp only [List.mem_cons, List.not_mem_nil, or_false] at h
      rcases h with rfl | rfl | rfl | rfl <;> rw [UInt8.toNat_ofNat'] <;> omega

/-- The byte of an ASCII character is its code, which is below the bytes of other characters. -/
theorem toNat_toUInt8 {mark : Char} (hmark : mark.utf8Size = 1) :
    mark.val.toUInt8.toNat = mark.val.toNat ∧ mark.val.toNat < 128 := by
  have hvalue : mark.val.toNat ≤ 127 := Char.utf8Size_eq_one_iff.mp hmark
  have hbyte : mark.val.toUInt8.toNat = mark.val.toNat % 256 := UInt32.toNat_toUInt8 _
  omega

/-- No byte of a character of several bytes is that of an ASCII character. -/
theorem ne_toUInt8 {c mark : Char} {byte : UInt8} (hc : c.utf8Size ≠ 1)
    (h : byte ∈ String.utf8EncodeChar c) (hmark : mark.utf8Size = 1) : byte ≠ mark.val.toUInt8 := by
  rintro rfl
  have hle := le_of_mem_utf8EncodeChar hc h
  have hcode := toNat_toUInt8 hmark
  omega

/-- The first byte of a character is that of an ASCII character only if they are the same. -/
theorem exists_first_byte (front rest : List Char) (c : Char) :
    ∃ byte, (bytes (front ++ c :: rest))[byteLength front]? = some byte ∧
      ∀ mark : Char, mark.utf8Size = 1 → (byte = mark.val.toUInt8 ↔ c = mark) := by
  have hfirst := getElem?_bytes front rest c c.utf8Size_pos
  rw [Nat.add_zero] at hfirst
  rw [hfirst]
  by_cases hc : c.utf8Size = 1
  · refine ⟨c.val.toUInt8, by rw [String.utf8EncodeChar_eq_singleton hc]; rfl, fun mark hmark => ?_⟩
    obtain ⟨hcode, -⟩ := toNat_toUInt8 hc
    obtain ⟨hcode', -⟩ := toNat_toUInt8 hmark
    constructor
    · intro h
      rw [h, hcode'] at hcode
      exact (Char.ext (UInt32.toNat_inj.mp hcode)).symm
    · rintro rfl
      rfl
  · have hlength : 0 < (String.utf8EncodeChar c).length := by
      rw [String.length_utf8EncodeChar]
      exact c.utf8Size_pos
    refine ⟨_, List.getElem?_eq_getElem hlength, fun mark hmark => ?_⟩
    refine iff_of_false (ne_toUInt8 hc (List.getElem_mem hlength) hmark) ?_
    rintro rfl
    exact hc hmark

/-- The bytes of a character behind its first one are those of no ASCII character. -/
theorem exists_later_byte (front rest : List Char) (c : Char) {k : Nat} (hpos : 0 < k)
    (hk : k < c.utf8Size) :
    ∃ byte, (bytes (front ++ c :: rest))[byteLength front + k]? = some byte ∧
      ∀ mark : Char, mark.utf8Size = 1 → byte ≠ mark.val.toUInt8 := by
  have hlength : k < (String.utf8EncodeChar c).length := by rwa [String.length_utf8EncodeChar]
  rw [getElem?_bytes front rest c hk]
  exact ⟨_, List.getElem?_eq_getElem hlength,
    fun mark => ne_toUInt8 (by omega) (List.getElem_mem hlength)⟩

/-- Inside a character the loop goes on to its end. -/
theorem classEnd_inside (front rest : List Char) (c : Char) (depth : Nat) {k : Nat} (hpos : 0 < k)
    (hk : k ≤ c.utf8Size) :
    classEnd (front ++ c :: rest) (byteLength front + k) depth =
      classEnd (front ++ c :: rest) (byteLength front + c.utf8Size) depth := by
  obtain ⟨left, hleft⟩ := Nat.exists_eq_add_of_le hk
  induction left generalizing k with
  | zero => rw [hleft, Nat.add_zero]
  | succ left ih =>
    obtain ⟨byte, hbyte, hother⟩ := exists_later_byte front rest c hpos (by omega)
    rw [← ih (Nat.succ_pos k) (by omega) (by omega), classEnd, hbyte]
    simp only [hother '\\' (by decide), hother '[' (by decide), hother ']' (by decide), if_false]
    rfl

/-- Behind the last character the loop is over. -/
theorem classEnd_beyond {text : List Char} {place : Nat} (depth : Nat) (h : byteLength text ≤ place) :
    classEnd text place depth = some none := by
  have hnone : (bytes text)[place]? = none := List.getElem?_eq_none (by rwa [length_bytes])
  rw [classEnd, hnone]

/-- A member of one character is passed, whatever its bytes. -/
theorem classEnd_member {c : Char} (hslash : c ≠ '\\') (hopen : c ≠ '[') (hclose : c ≠ ']')
    (front rest : List Char) (depth : Nat) :
    classEnd (front ++ c :: rest) (byteLength front) depth =
      classEnd (front ++ c :: rest) (byteLength front + c.utf8Size) depth := by
  obtain ⟨byte, hbyte, hother⟩ := exists_first_byte front rest c
  rw [← classEnd_inside front rest c depth Nat.one_pos c.utf8Size_pos, classEnd, hbyte]
  simp only [hother '\\' (by decide), hother '[' (by decide), hother ']' (by decide), hslash, hopen, hclose,
    if_false]

/-- The end of a POSIX item is found where its two characters begin for the first time. -/
theorem findPart?_eq (item : List Char) :
    Text.findPart? [':', ']'] item = (posixEnd? item).map fun n => byteLength (item.take n) := by
  induction item with
  | nil => rfl
  | cons c item ih =>
    by_cases hend : c = ':' ∧ ∃ rest, item = ']' :: rest
    · obtain ⟨rfl, rest, rfl⟩ := hend
      rfl
    · have hbegins : [':', ']'].isPrefixOf (c :: item) = false :=
        Text.isPrefixOf_eq_false fun rest heq =>
          hend ⟨(List.cons.inj heq).1, rest, (List.cons.inj heq).2⟩
      rw [Text.findPart?, hbegins, ih, posixEnd?_cons fun hc rest hitem => hend ⟨hc, rest, hitem⟩]
      simp only [Bool.false_eq_true, if_false, Option.map_map]
      refine congrArg (fun f => Option.map f _) (funext fun n => ?_)
      simp [Nat.add_comm]

/-- A POSIX item that has an end goes up to its two last characters. -/
theorem exists_item {item : List Char} {n : Nat} (h : posixEnd? item = some n) :
    ∃ name more, item = name ++ ':' :: ']' :: more ∧ name.length = n := by
  induction item generalizing n with
  | nil => cases h
  | cons c item ih =>
    by_cases hend : c = ':' ∧ ∃ rest, item = ']' :: rest
    · obtain ⟨rfl, rest, rfl⟩ := hend
      cases h
      exact ⟨[], rest, rfl, rfl⟩
    · rw [posixEnd?_cons fun hc rest hitem => hend ⟨hc, rest, hitem⟩] at h
      obtain ⟨m, hm, rfl⟩ := Option.map_eq_some_iff.mp h
      obtain ⟨name, more, rfl, rfl⟩ := ih hm
      exact ⟨c :: name, more, rfl, rfl⟩

section ClassSteps

variable (front rest : List Char) (depth : Nat)

/-- A backslash is passed with the byte behind it. -/
theorem classEnd_backslash :
    classEnd (front ++ '\\' :: rest) (byteLength front) depth =
      classEnd (front ++ '\\' :: rest) (byteLength front + 2) depth := by
  obtain ⟨byte, hbyte, hmark⟩ := exists_first_byte front rest '\\'
  rw [classEnd, hbyte]
  simp only [(hmark '\\' (by decide)).mpr rfl, if_true]

/-- A closing bracket ends the class or a nested one. -/
theorem classEnd_close :
    classEnd (front ++ ']' :: rest) (byteLength front) depth =
      if depth = 0 then some (some (byteLength front + 1))
      else classEnd (front ++ ']' :: rest) (byteLength front + 1) (depth - 1) := by
  obtain ⟨byte, hbyte, hmark⟩ := exists_first_byte front rest ']'
  rw [classEnd, hbyte, (hmark ']' (by decide)).mpr rfl]
  cases depth <;> rfl

/-- Whether a colon stands behind an opening bracket can be told from the byte there. -/
theorem second_byte_iff :
    (bytes (front ++ '[' :: rest))[byteLength front + 1]? = some ':'.val.toUInt8 ↔
      rest.head? = some ':' := by
  have hplace : byteLength front + 1 = byteLength (front ++ ['[']) := by simp [Char.utf8Size]
  rw [hplace, List.append_cons]
  cases rest with
  | nil =>
    rw [List.append_nil, List.getElem?_eq_none (by rw [length_bytes])]
    simp
  | cons c rest =>
    obtain ⟨byte, hbyte, hmark⟩ := exists_first_byte (front ++ ['[']) rest c
    rw [hbyte, List.head?_cons, Option.some.injEq, Option.some.injEq]
    exact hmark ':' (by decide)

/-- Behind an opening bracket and a colon the end of an item is looked for. -/
theorem classEnd_colon (item : List Char) :
    classEnd (front ++ '[' :: ':' :: item) (byteLength front) depth =
      (posixEnd? item).elim (classEnd (front ++ '[' :: ':' :: item) (byteLength front + 1) depth)
        fun n => classEnd (front ++ '[' :: ':' :: item)
          (byteLength front + 2 + byteLength (item.take n) + 2) depth := by
  obtain ⟨byte, hbyte, hmark⟩ := exists_first_byte front (':' :: item) '['
  have hcut := Text.sliceFrom_append (front ++ ['[', ':']) item
  have hplace : byteLength (front ++ ['[', ':']) = byteLength front + 2 := by simp [Char.utf8Size]
  rw [hplace, List.append_assoc] at hcut
  rw [classEnd, hbyte]
  simp only [hmark '\\' (by decide), hmark '[' (by decide), Char.reduceEq, second_byte_iff, List.head?_cons,
    if_false, if_true]
  rw [List.cons_append, List.cons_append, List.nil_append] at hcut
  rw [hcut, Option.bind_some, findPart?_eq]
  cases posixEnd? item <;> rfl

/-- Any other opening bracket begins a nested class. -/
theorem classEnd_nested (hrest : rest.head? ≠ some ':') :
    classEnd (front ++ '[' :: rest) (byteLength front) depth =
      classEnd (front ++ '[' :: rest) (byteLength front + 1) (depth + 1) := by
  obtain ⟨byte, hbyte, hmark⟩ := exists_first_byte front rest '['
  rw [classEnd, hbyte]
  simp only [hmark '\\' (by decide), hmark '[' (by decide), Char.reduceEq, second_byte_iff, hrest, if_false,
    if_true]

end ClassSteps

/-- The loop over the bytes and the loop over the characters of a class pass the same part of the text, and
go on behind it at the same depth. -/
structure BothPass (front text : List Char) (depth : Nat) (part more : List Char) (deep : Nat) :
    Prop where
  /-- The text is the part and what follows. -/
  text_eq : text = part ++ more
  /-- There is something in the part. -/
  part_ne_nil : part ≠ []
  /-- The loop over the bytes goes on behind the bytes of the part. -/
  classEnd_eq : classEnd (front ++ text) (byteLength front) depth =
    classEnd (front ++ text) (byteLength (front ++ part)) deep
  /-- The loop over the characters goes on behind the characters of the part. -/
  classLength?_eq : classLength? 0 depth text = (classLength? 0 deep more).map (· + part.length)

/-- A backslash is passed with the character behind it, whatever its bytes. -/
theorem BothPass.escaped (front more : List Char) (d : Char) (depth : Nat) :
    BothPass front ('\\' :: d :: more) depth ['\\', d] more depth where
  text_eq := rfl
  part_ne_nil := List.cons_ne_nil _ _
  classEnd_eq := by
    have hinside := classEnd_inside (front ++ ['\\']) more d depth Nat.one_pos d.utf8Size_pos
    rw [classEnd_backslash]
    simpa [Char.utf8Size, Nat.add_assoc] using hinside
  classLength?_eq := by
    rw [classLength?_backslash, classLength?_skip Nat.one_pos, Option.map_map]
    rfl

/-- An opening bracket that begins an item without an end is a member. -/
theorem BothPass.noItem (front : List Char) {item : List Char} (depth : Nat)
    (hitem : posixEnd? item = none) :
    BothPass front ('[' :: ':' :: item) depth ['['] (':' :: item) depth where
  text_eq := rfl
  part_ne_nil := List.cons_ne_nil _ _
  classEnd_eq := by
    rw [classEnd_colon, hitem, Option.elim_none]
    simp [Char.utf8Size]
  classLength?_eq := classLength?_no_item hitem

/-- An item is passed as a whole. -/
theorem BothPass.item (front name more : List Char) (depth : Nat)
    (hitem : posixEnd? (name ++ ':' :: ']' :: more) = some name.length) :
    BothPass front ('[' :: ':' :: (name ++ ':' :: ']' :: more)) depth
      ('[' :: ':' :: (name ++ [':', ']'])) more depth where
  text_eq := by simp
  part_ne_nil := List.cons_ne_nil _ _
  classEnd_eq := by
    rw [classEnd_colon, hitem, Option.elim_some, List.take_left]
    refine congrArg (fun place => classEnd _ place depth) ?_
    simp [Char.utf8Size]
    omega
  classLength?_eq := by
    have hskip := classLength?_skip_all (':' :: (name ++ [':', ']'])) more depth
    rw [classLength?_item hitem]
    simp only [List.cons_append, List.append_assoc, List.nil_append, List.length_cons, List.length_append,
      List.length_nil] at hskip ⊢
    rw [hskip, Option.map_map]
    rfl

/-- Any other opening bracket begins a nested class. -/
theorem BothPass.nested (front : List Char) {rest : List Char} (depth : Nat)
    (hrest : rest.head? ≠ some ':') : BothPass front ('[' :: rest) depth ['['] rest (depth + 1) where
  text_eq := rfl
  part_ne_nil := List.cons_ne_nil _ _
  classEnd_eq := by
    rw [classEnd_nested front rest depth hrest]
    simp [Char.utf8Size]
  classLength?_eq := by
    rw [classLength?_nested fun item hitem => hrest (by rw [hitem]; rfl)]
    rfl

/-- A closing bracket ends a nested class. -/
theorem BothPass.close (front rest : List Char) {depth : Nat} (hdepth : depth ≠ 0) :
    BothPass front (']' :: rest) depth [']'] rest (depth - 1) where
  text_eq := rfl
  part_ne_nil := List.cons_ne_nil _ _
  classEnd_eq := by
    rw [classEnd_close, if_neg hdepth]
    simp [Char.utf8Size]
  classLength?_eq := by
    rw [classLength?_bracket, if_neg (by simpa using hdepth)]
    rfl

/-- Any other character is a member. -/
theorem BothPass.member (front rest : List Char) {c : Char} (depth : Nat) (hslash : c ≠ '\\')
    (hopen : c ≠ '[') (hclose : c ≠ ']') : BothPass front (c :: rest) depth [c] rest depth where
  text_eq := rfl
  part_ne_nil := List.cons_ne_nil _ _
  classEnd_eq := by
    rw [classEnd_member hslash hopen hclose]
    simp
  classLength?_eq := by
    rw [classLength?_member hslash hopen hclose]
    rfl

/-- Both loops go on, unless the text is only a backslash or the bracket that closes the class. -/
theorem exists_bothPass (front rest : List Char) {c : Char} {depth : Nat}
    (hlast : c = '\\' → rest ≠ []) (hend : c = ']' → depth ≠ 0) :
    ∃ part more deep, BothPass front (c :: rest) depth part more deep := by
  by_cases hslash : c = '\\'
  · subst hslash
    obtain ⟨d, more, rfl⟩ := List.exists_cons_of_ne_nil (hlast rfl)
    exact ⟨_, _, _, .escaped front more d depth⟩
  by_cases hopen : c = '['
  · subst hopen
    by_cases hcolon : rest.head? = some ':'
    · obtain ⟨item, rfl⟩ := List.head?_eq_some_iff.mp hcolon
      cases hitem : posixEnd? item with
      | none => exact ⟨_, _, _, .noItem front depth hitem⟩
      | some n =>
        obtain ⟨name, more, rfl, rfl⟩ := exists_item hitem
        exact ⟨_, _, _, .item front name more depth hitem⟩
    · exact ⟨_, _, _, .nested front depth hcolon⟩
  by_cases hclose : c = ']'
  · subst hclose
    exact ⟨_, _, _, .close front rest (hend rfl)⟩
  · exact ⟨_, _, _, .member front rest depth hslash hopen hclose⟩

/-- The loop over the bytes of a class finds the bracket that the loop over its characters finds. -/
theorem classEnd_eq (front rest : List Char) (depth : Nat) :
    classEnd (front ++ rest) (byteLength front) depth =
      some ((classLength? 0 depth rest).map fun n => byteLength front + byteLength (rest.take n)) := by
  induction hn : rest.length using Nat.strongRecOn generalizing front rest depth with
  | ind n ih =>
    cases rest with
    | nil => exact classEnd_beyond depth (by simp)
    | cons c rest =>
      by_cases hlast : c = '\\' ∧ rest = []
      · obtain ⟨rfl, rfl⟩ := hlast
        rw [classEnd_backslash, classEnd_beyond depth (by simp [Char.utf8Size]), classLength?_backslash]
        rfl
      by_cases hend : c = ']' ∧ depth = 0
      · obtain ⟨rfl, rfl⟩ := hend
        rw [classEnd_close, classLength?_bracket]
        simp [Char.utf8Size]
      obtain ⟨part, more, deep, hpass⟩ := exists_bothPass front rest
        (fun hslash hnil => hlast ⟨hslash, hnil⟩) fun hclose hdepth => hend ⟨hclose, hdepth⟩
      have hpos := List.length_pos_of_ne_nil hpass.part_ne_nil
      have hlength := congrArg List.length hpass.text_eq
      rw [hn, List.length_append] at hlength
      have hbehind := ih more.length (by omega) (front ++ part) more deep rfl
      rw [hpass.classEnd_eq, hpass.classLength?_eq, hpass.text_eq, ← List.append_assoc, hbehind,
        byteLength_append, Text.map_byteLength_append]

end Railroad.Token.Bytewise
