import Mathlib
import Railroad.Process

/-!
# Matches and what replaces them

The stretches of a subject outside its matches are kept, and each match gives way to what the template
stands for there. Put back between the same stretches, the matched texts are the subject itself. Nothing
is asked of the matches but that they follow each other.
-/

namespace Railroad

/-- The matches stand in order behind a position of a text: each begins where the one before it ends or
later, and none ends before it begins or beyond the end of the text. -/
def InOrder (size : Nat) : Nat → List Captures → Prop
  | position, [] => position ≤ size
  | position, c :: more =>
    position ≤ c.whole.start ∧ c.whole.start ≤ c.whole.stop ∧ InOrder size c.whole.stop more

/-- Whether matches stand in order can be computed. -/
instance InOrder.decidable (size : Nat) : (position : Nat) → (found : List Captures) →
    Decidable (InOrder size position found)
  | position, [] => inferInstanceAs (Decidable (position ≤ size))
  | _, c :: more =>
    have := InOrder.decidable size c.whole.stop more
    inferInstanceAs (Decidable (_ ∧ _ ∧ _))

/-- The text that is matched. -/
def matchedText (subject : Subject) (captures : Captures) : List Char :=
  subject.between captures.whole.start captures.whole.stop

/-- The stretches of a text outside the matches, from a position on: one in front of each match, and one
behind the last. -/
def stretches (subject : Subject) (position : Nat) : List Captures → List (List Char)
  | [] => [subject.between position subject.size]
  | c :: more => subject.between position c.whole.start :: stretches subject c.whole.stop more

/-- Stretches with pieces between them. -/
def interleave : List (List Char) → List (List Char) → List Char
  | stretch :: stretches, piece :: pieces => stretch ++ (piece ++ interleave stretches pieces)
  | stretches, _ => stretches.flatten

/-- A template in which every dollar sign of a text is doubled. -/
def doubleDollars (text : List Char) : List Char :=
  text.flatMap fun c => if c = '$' then ['$', '$'] else [c]

/-- Two parts of a text that meet are one part. -/
theorem between_append_between (subject : Subject) {start middle stop : Nat} (hstart : start ≤ middle)
    (hstop : middle ≤ stop) :
    subject.between start middle ++ subject.between middle stop = subject.between start stop := by
  rw [Subject.between, Subject.between, ← Array.toList_append, Array.extract_append_extract,
    Nat.min_eq_left hstart, Nat.max_eq_right hstop]
  rfl

/-- The whole of a text. -/
theorem between_zero_size (subject : Subject) : subject.between 0 subject.size = subject.toList := by
  rw [Subject.between, Array.extract_size]

/-- The beginning of a text. -/
theorem between_zero (subject : Subject) (stop : Nat) :
    subject.between 0 stop = subject.toList.take stop := by
  rw [Subject.between, Array.toList_extract, List.extract_eq_take_drop, List.drop_zero, Nat.sub_zero]

/-- The end of a text. -/
theorem between_size (subject : Subject) (start : Nat) :
    subject.between start subject.size = subject.toList.drop start := by
  rw [Subject.between, Array.toList_extract, List.extract_eq_take_drop]
  refine List.take_of_length_le ?_
  rw [List.length_drop, Array.length_toList]

/-- Matches in order end inside the text. -/
theorem InOrder.le_size {size position : Nat} {found : List Captures} (h : InOrder size position found) :
    position ≤ size := by
  induction found generalizing position with
  | nil => exact h
  | cons c more ih =>
    obtain ⟨hstart, hstop, hmore⟩ := h
    exact Nat.le_trans hstart (Nat.le_trans hstop (ih hmore))

/-- Replacing keeps the stretches outside the matches and puts what the template stands for between
them. -/
theorem replaceFrom_eq_interleave (template : List Char) (names : List (String × Nat))
    (subject : Subject) (position : Nat) (found : List Captures) :
    replaceFrom template names subject position found =
      interleave (stretches subject position found)
        (found.map fun c => expand template (.ofCaptures names subject c)) := by
  induction found generalizing position with
  | nil => simp only [replaceFrom, stretches, List.map_nil, interleave, List.flatten_singleton]
  | cons c more ih => rw [replaceFrom, stretches, List.map_cons, interleave, ih]

/-- The matched texts between the stretches outside them are the text from the position on. -/
theorem interleave_matchedText (subject : Subject) {position : Nat} {found : List Captures}
    (h : InOrder subject.size position found) :
    interleave (stretches subject position found) (found.map (matchedText subject)) =
      subject.between position subject.size := by
  induction found generalizing position with
  | nil => simp only [stretches, List.map_nil, interleave, List.flatten_singleton]
  | cons c more ih =>
    obtain ⟨hstart, hstop, hmore⟩ := h
    rw [stretches, List.map_cons, interleave, ih hmore, matchedText,
      between_append_between subject hstop hmore.le_size,
      between_append_between subject hstart (Nat.le_trans hstop hmore.le_size)]

/-- The matched text stands at the place where the match begins. -/
theorem matchedText_prefix (subject : Subject) (c : Captures) :
    matchedText subject c <+: subject.toList.drop c.whole.start := by
  rw [matchedText, Subject.between, Array.toList_extract, List.extract_eq_take_drop]
  exact List.take_prefix _ _

/-- A character of a template that is no dollar sign stands for itself. -/
theorem ofTemplate_cons {c : Char} (rest : List Char) (h : c ≠ '$') :
    Piece.ofTemplate (c :: rest) = .char c :: Piece.ofTemplate rest := by
  rw [Piece.ofTemplate, if_neg h]

/-- Two dollar signs stand for one. -/
theorem ofTemplate_dollars (rest : List Char) :
    Piece.ofTemplate ('$' :: '$' :: rest) = .char '$' :: Piece.ofTemplate rest := by
  rw [Piece.ofTemplate, if_pos rfl]
  rfl

/-- Where every dollar sign is doubled, a template stands for the text alone. -/
theorem expand_doubleDollars (text : List Char) (groups : GroupTexts) :
    expand (doubleDollars text) groups = text := by
  induction text with
  | nil =>
    rw [doubleDollars, List.flatMap_nil, expand, Piece.ofTemplate]
    rfl
  | cons c text ih =>
    rw [expand, doubleDollars, List.flatMap_cons, ← doubleDollars]
    by_cases hc : c = '$'
    · rw [if_pos hc, hc, List.cons_append, List.singleton_append, ofTemplate_dollars, List.flatMap_cons,
        ← expand, ih]
      rfl
    · rw [if_neg hc, List.singleton_append, ofTemplate_cons _ hc, List.flatMap_cons, ← expand, ih]
      rfl

/-- A template that is a reference to the whole match, in either way of writing it. -/
theorem ofTemplate_whole {template : List Char} (h : template = ['$', '&'] ∨ template = ['$', '0']) :
    Piece.ofTemplate template = [.group 0 template] := by
  rcases h with rfl | rfl
  · rw [Piece.ofTemplate, if_pos rfl]
    have hreference : Piece.reference? ['&'] = some (.group 0 ['$', '&'], 1) := rfl
    rw [hreference]
    exact congrArg (List.cons _) (by rw [List.drop_succ_cons, List.drop_zero, Piece.ofTemplate])
  · rw [Piece.ofTemplate, if_pos rfl]
    have hreference : Piece.reference? ['0'] = some (.group 0 ['$', '0'], 1) := rfl
    rw [hreference]
    exact congrArg (List.cons _) (by rw [List.drop_succ_cons, List.drop_zero, Piece.ofTemplate])

/-- A reference to the whole match stands for the matched text. -/
theorem expand_whole {template : List Char} (h : template = ['$', '&'] ∨ template = ['$', '0'])
    (names : List (String × Nat)) (subject : Subject) (c : Captures) :
    expand template (.ofCaptures names subject c) = matchedText subject c := by
  rw [expand, ofTemplate_whole h, List.flatMap_singleton]
  rfl

/-- What a report says of matches in a subject, and of a template that replaces them. -/
structure Reports (subject template : String) (names : List (String × Nat)) (found : List Captures)
    (report : ProcessReport) : Prop where
  /-- There is a report for each match, in the same order. The subject goes on with the text of the match
  at the place that the report gives. -/
  found_eq : List.Forall₂ (fun c (one : MatchReport) => one.index = c.whole.start ∧
    ∃ text, one.groups[0]? = some text ∧ text.toList = matchedText subject.toList.toArray c ∧
      text.toList <+: subject.toList.drop one.index) found report.found
  /-- The subject is made of the stretches outside the matches and the matched texts between them. -/
  subject_eq : subject.toList = interleave (stretches subject.toList.toArray 0 found)
    (found.map (matchedText subject.toList.toArray))
  /-- The result is made of the same stretches, and of what the template stands for between them. -/
  replaced_eq : report.replaced.toList = interleave (stretches subject.toList.toArray 0 found)
    (found.map fun c => expand template.toList (.ofCaptures names subject.toList.toArray c))
  /-- A reference to the whole match changes nothing. -/
  whole : template = "$&" ∨ template = "$0" → report.replaced = subject
  /-- A text with every dollar sign doubled takes the place of every match as it is. -/
  plain : ∀ text : String, template.toList = doubleDollars text.toList →
    report.replaced.toList = interleave (stretches subject.toList.toArray 0 found)
      (List.replicate found.length text.toList)
  /-- What stands in front of a single match and behind it is kept. -/
  single : ∀ c, found = [c] → report.replaced.toList = subject.toList.take c.whole.start ++
    (expand template.toList (.ofCaptures names subject.toList.toArray c) ++
      subject.toList.drop c.whole.stop)

/-- The report of matches that follow each other. -/
theorem reports_ofCaptures {subject template : String} {found : List Captures}
    (names : List (String × Nat)) (h : InOrder subject.length 0 found) :
    Reports subject template names found
      (.ofCaptures template.toList names subject.toList.toArray found) := by
  have hsize : subject.length = subject.toList.toArray.size := String.length_toList.symm
  have hsubject : subject.toList = interleave (stretches subject.toList.toArray 0 found)
      (found.map (matchedText subject.toList.toArray)) := by
    rw [interleave_matchedText _ (hsize ▸ h), between_zero_size]
  have hreplaced : (ProcessReport.ofCaptures template.toList names subject.toList.toArray
      found).replaced.toList = interleave (stretches subject.toList.toArray 0 found)
        (found.map fun c => expand template.toList (.ofCaptures names subject.toList.toArray c)) := by
    rw [ProcessReport.ofCaptures, String.toList_ofList, replaceFrom_eq_interleave]
  refine ⟨?_, hsubject, hreplaced, ?_, ?_, ?_⟩
  · rw [ProcessReport.ofCaptures]
    refine List.forall₂_map_right_iff.mpr (List.forall₂_same.mpr fun c _ => ?_)
    refine ⟨rfl, _, rfl, String.toList_ofList, ?_⟩
    rw [String.toList_ofList]
    exact matchedText_prefix _ c
  · intro hwhole
    have htemplate : template.toList = ['$', '&'] ∨ template.toList = ['$', '0'] := by
      rcases hwhole with rfl | rfl
      · exact .inl rfl
      · exact .inr rfl
    refine String.toList_inj.mp ?_
    rw [hreplaced]
    refine Eq.trans ?_ hsubject.symm
    simp only [expand_whole htemplate]
  · intro text htext
    rw [hreplaced, htext]
    simp only [expand_doubleDollars, List.map_const']
  · rintro c rfl
    rw [hreplaced]
    simp only [stretches, List.map_cons, List.map_nil, interleave, List.flatten_singleton,
      between_zero, between_size]

end Railroad
