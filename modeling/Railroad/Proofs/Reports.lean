import Mathlib
import Railroad.Engine
import Railroad.Proofs.HostSearches
import Railroad.Proofs.Replacing
import Railroad.Proofs.TemplateBytes
import Railroad.Proofs.Turns

/-!
# Reports of matches

Replacing walks over the matches and cuts out what stands between them. Places in a subject are bytes there, and
every cut is checked. So matches that are stretches of the subject have a report exactly if they follow each
other, and it is the one that is made character by character.
-/

namespace Railroad

namespace Bytewise

open Text (byteLength slice sliceFrom)

variable {subject : List Char}

/-- Later characters begin at later bytes. -/
theorem byteAt_lt {place later : Nat} (h : place < later) (hlater : later ≤ subject.length) :
    byteAt subject place < byteAt subject later := by
  have hplace : place < subject.length := by omega
  have hsplit : subject.take later = subject.take place ++ (subject.take later).drop place := by
    conv_lhs => rw [← List.take_append_drop place (subject.take later), List.take_take,
      Nat.min_eq_left h.le]
  have hne : (subject.take later).drop place ≠ [] := by
    rw [← List.length_pos_iff, List.length_drop, List.length_take]
    omega
  have hpos := Nat.pos_of_ne_zero (mt Text.byteLength_eq_zero_iff.mp hne)
  rw [byteAt, byteAt, hsplit, Text.byteLength_append]
  omega

/-- What stands between two places, by its characters. -/
theorem between_toArray (start stop : Nat) :
    Subject.between subject.toArray start stop = (subject.drop start).take (stop - start) := by
  rw [Subject.between, Array.toList_extract, List.extract_eq_take_drop]

/-- What stands between two places is cut out if they are in order. Else there is nothing to cut. -/
theorem slice_byteAt {start stop : Nat} (hstart : start ≤ subject.length) :
    slice (byteAt subject start) (byteAt subject stop) subject =
      if start ≤ stop then some (Subject.between subject.toArray start stop) else none := by
  split
  · rename_i hle
    have htake : subject.take stop = subject.take start ++ (subject.drop start).take (stop - start) := by
      conv_lhs => rw [← Nat.add_sub_cancel' hle, List.take_add]
    refine Text.slice_eq_some_iff.mpr ⟨subject.take start, subject.drop stop, ?_, rfl, ?_⟩
    · rw [between_toArray, ← List.append_assoc, ← htake, List.take_append_drop]
    · rw [between_toArray, ← Text.byteLength_append, ← htake, byteAt]
  · rename_i hless
    have hbytes := byteAt_lt (Nat.not_le.mp hless) hstart
    rw [Option.eq_none_iff_forall_ne_some]
    intro part hpart
    obtain ⟨front, back, -, hfront, hstop⟩ := Text.slice_eq_some_iff.mp hpart
    omega

/-- What follows a place is cut out. -/
theorem sliceFrom_byteAt (start : Nat) :
    sliceFrom (byteAt subject start) subject =
      some (Subject.between subject.toArray start subject.toArray.size) := by
  rw [byteAt, Text.sliceFrom_take, between_size]

/-- A match that begins in the subject is reported. -/
theorem report_eq {captures : Captures} (h : captures.whole.start ≤ subject.length) :
    report subject captures = some (.ofCaptures subject.toArray captures) := by
  have hcut : slice 0 (byteAt subject captures.whole.start) subject =
      some (subject.take captures.whole.start) := Text.slice_take _ _
  simp only [report, hcut, Option.bind_eq_bind, Option.bind_some, List.length_take]
  rw [Nat.min_eq_left h]
  rfl

/-- Matches that begin in the subject are reported one by one. -/
theorem mapM_report {found : List Captures} (h : ∀ c ∈ found, c.Inside subject.length) :
    found.mapM (report subject) = some (found.map (.ofCaptures subject.toArray)) := by
  induction found with
  | nil => rfl
  | cons c more ih =>
    obtain ⟨hc, hmore⟩ := List.forall_mem_cons.mp h
    rw [List.mapM_cons, report_eq (hc.start_le_stop.trans hc.stop_le_size), ih hmore]
    rfl

/-- Replacing byte by byte gives what replacing character by character gives if the matches are in order,
and else it has no outcome. -/
theorem replaceFrom_eq (template : List Char) (names : List (String × Nat)) {last : Nat}
    (hlast : last ≤ subject.length) {found : List Captures}
    (h : ∀ c ∈ found, c.Inside subject.length) :
    replaceFrom template names subject last found =
      if InOrder subject.length last found then
        some (Railroad.replaceFrom template names subject.toArray last found)
      else none := by
  induction found generalizing last with
  | nil => exact (sliceFrom_byteAt last).trans (if_pos hlast).symm
  | cons c more ih =>
    obtain ⟨hc, hmore⟩ := List.forall_mem_cons.mp h
    have hiff : InOrder subject.length last (c :: more) ↔
        last ≤ c.whole.start ∧ InOrder subject.length c.whole.stop more :=
      ⟨fun hall => ⟨hall.1, hall.2.2⟩, fun hall => ⟨hall.1, hc.start_le_stop, hall.2⟩⟩
    simp only [replaceFrom, slice_byteAt hlast, expand_eq, ih hc.stop_le_size hmore, Option.bind_eq_bind]
    by_cases hle : last ≤ c.whole.start
    · rw [if_pos hle]
      by_cases hbehind : InOrder subject.length c.whole.stop more
      · rw [if_pos hbehind, if_pos (hiff.mpr ⟨hle, hbehind⟩)]
        rfl
      · rw [if_neg hbehind, if_neg (mt hiff.mp (mt And.right hbehind))]
        rfl
    · rw [if_neg hle, if_neg (mt hiff.mp (mt And.left hle))]
      rfl

/-- The report of matches, byte by byte: the one that is made character by character if the matches are in
order, and else there is none. -/
theorem ofCaptures_eq (template : List Char) (names : List (String × Nat)) {found : List Captures}
    (h : ∀ c ∈ found, c.Inside subject.length) :
    ofCaptures template names subject found =
      if InOrder subject.length 0 found then some (.ofCaptures template names subject.toArray found)
      else none := by
  simp only [ofCaptures, mapM_report h, replaceFrom_eq template names (Nat.zero_le _) h, Option.bind_eq_bind,
    Option.bind_some]
  split <;> rfl

end Bytewise

/-- Matches in order are stretches of the text. -/
theorem InOrder.inside {size position : Nat} {found : List Captures} (h : InOrder size position found) :
    ∀ c ∈ found, c.Inside size := by
  induction found generalizing position with
  | nil => exact List.forall_mem_nil _
  | cons c more ih =>
    obtain ⟨-, hstop, hmore⟩ := h
    exact List.forall_mem_cons.mpr ⟨⟨hstop, hmore.le_size⟩, ih hmore⟩

/-- The report of matches in order is made byte by byte. -/
theorem InOrder.ofCaptures_eq {subject : String} (template : List Char) (names : List (String × Nat))
    {found : List Captures} (h : InOrder subject.length 0 found) :
    Bytewise.ofCaptures template names subject.toList found =
      some (.ofCaptures template names subject.toList.toArray found) := by
  rw [← String.length_toList] at h
  rw [Bytewise.ofCaptures_eq template names h.inside, if_pos h]

/-- A pattern that is not empty is run by the host, and the matches that it finds are reported. -/
theorem processWith_eq {ε μ : Type} {host : Host ε μ} {pattern subject : String} (template : String)
    {flags : Flags} {matcher : μ} {found : List Captures} (hpattern : pattern ≠ "")
    (hmatcher : host.compile (flags.switch ++ pattern) = .ok matcher)
    (hfound : host.findMatches matcher flags.everywhere subject.toList.toArray = .ok found) :
    processWith host pattern subject template flags =
        .ok (.ofCaptures template.toList (host.names matcher) subject.toList.toArray found) ∧
      Bytewise.processWith host pattern subject template flags =
        (Bytewise.ofCaptures template.toList (host.names matcher) subject.toList found).map .ok := by
  have hempty : pattern.isEmpty = false := by
    rw [Bool.eq_false_iff, ne_eq, String.isEmpty_iff]
    exact hpattern
  constructor
  · rw [processWith, hempty, if_neg Bool.false_ne_true, hmatcher]
    dsimp only
    rw [hfound]
  · rw [Bytewise.processWith, hempty, if_neg Bool.false_ne_true, hmatcher]
    dsimp only
    rw [hfound]

/-- Whatever matches of a subject follow each other, they are reported and replaced one by one, byte by byte as
well as character by character, and nothing outside them changes. Running a pattern makes this report of the
matches that the host finds: of the first one alone unless the search goes on. -/
theorem process_reports {ε μ : Type} (host : Host ε μ) (subject template : String) :
    (∀ names found, InOrder subject.length 0 found →
      Bytewise.ofCaptures template.toList names subject.toList found =
          some (.ofCaptures template.toList names subject.toList.toArray found) ∧
        Reports subject template names found
          (.ofCaptures template.toList names subject.toList.toArray found)) ∧
    ∀ pattern flags matcher found, pattern ≠ "" →
      host.compile (flags.switch ++ pattern) = .ok matcher →
      host.findMatches matcher flags.everywhere subject.toList.toArray = .ok found →
      processWith host pattern subject template flags =
          .ok (.ofCaptures template.toList (host.names matcher) subject.toList.toArray found) ∧
        (InOrder subject.length 0 found → Bytewise.processWith host pattern subject template flags =
          some (processWith host pattern subject template flags)) ∧
        (flags.everywhere = false → found.length ≤ 1 ∧ (host.Searches →
          ∀ all, host.findMatches matcher true subject.toList.toArray = .ok all → found = all.take 1)) := by
  refine ⟨fun names found h => ⟨h.ofCaptures_eq template.toList names, reports_ofCaptures names h⟩,
    fun pattern flags matcher found hpattern hmatcher hfound => ?_⟩
  obtain ⟨hprocess, hbytes⟩ := processWith_eq template hpattern hmatcher hfound
  refine ⟨hprocess, fun horder => ?_, fun hflag => ?_⟩
  · rw [hbytes, hprocess, horder.ofCaptures_eq]
    rfl
  · rw [hflag] at hfound
    exact ⟨(Host.findMatches_first hfound).1, fun hsearches all hall =>
      hsearches.eq_take_of_findMatches hmatcher hfound hall⟩

/-- The matches of a pattern that matches nothing as well: three empty ones and one of two characters. -/
def emptyMatches : List Captures := [⟨⟨0, 0⟩, []⟩, ⟨⟨1, 1⟩, []⟩, ⟨⟨2, 4⟩, []⟩, ⟨⟨5, 5⟩, []⟩]

/-- The engine finds these matches, and the first of them alone. -/
theorem findMatches_emptyMatches :
    ∃ matcher, Regex.host.compile "b*" = .ok matcher ∧ Regex.host.names matcher = [] ∧
      Regex.host.findMatches matcher true "aébbé".toList.toArray = .ok emptyMatches ∧
      Regex.host.findMatches matcher false "aébbé".toList.toArray = .ok (emptyMatches.take 1) := by
  have hall : (Regex.host.compile "b*").bind (fun matcher =>
      (Regex.host.findMatches matcher true "aébbé".toList.toArray).bind fun all =>
        (Regex.host.findMatches matcher false "aébbé".toList.toArray).map fun found =>
          (Regex.host.names matcher, all, found)) = .ok ([], emptyMatches, emptyMatches.take 1) := by cbv
  cases hmatcher : Regex.host.compile "b*" with
  | error e =>
    rw [hmatcher] at hall
    cases hall
  | ok matcher =>
    rw [hmatcher] at hall
    dsimp only [Except.bind] at hall
    cases hevery : Regex.host.findMatches matcher true "aébbé".toList.toArray with
    | error e =>
      rw [hevery] at hall
      cases hall
    | ok all =>
      rw [hevery] at hall
      cases hfound : Regex.host.findMatches matcher false "aébbé".toList.toArray with
      | error e =>
        rw [hfound] at hall
        cases hall
      | ok found =>
        rw [hfound] at hall
        injection hall with hall
        injection hall with hnames hall
        injection hall with hsame hfirst
        exact ⟨matcher, rfl, hnames, hevery.trans (congrArg Except.ok hsame),
          hfound.trans (congrArg Except.ok hfirst)⟩

/-- In a subject with characters of two bytes, a doubled dollar sign takes the place of every match, or of the
first one. -/
theorem process_reports_emptyMatches :
    InOrder "aébbé".length 0 emptyMatches ∧ Regex.host.Searches ∧
      Bytewise.processWith Regex.host "b*" "aébbé" "$$" ⟨true, false, false⟩ =
        some (.ok (.ofCaptures ['$', '$'] [] "aébbé".toList.toArray emptyMatches)) ∧
      Reports "aébbé" "$$" [] emptyMatches
        (.ofCaptures ['$', '$'] [] "aébbé".toList.toArray emptyMatches) ∧
      processWith Regex.host "b*" "aébbé" "$$" ⟨false, false, false⟩ =
        .ok (.ofCaptures ['$', '$'] [] "aébbé".toList.toArray (emptyMatches.take 1)) := by
  obtain ⟨matcher, hmatcher, hnames, hall, hfirst⟩ := findMatches_emptyMatches
  obtain ⟨hreports, hprocess⟩ := process_reports Regex.host "aébbé" "$$"
  have horder : InOrder "aébbé".length 0 emptyMatches := by decide
  obtain ⟨hevery, hbytes, -⟩ := hprocess "b*" ⟨true, false, false⟩ matcher _ (by decide) hmatcher hall
  obtain ⟨hone, -, htake⟩ := hprocess "b*" ⟨false, false, false⟩ matcher _ (by decide) hmatcher hfirst
  rw [(htake rfl).2 Regex.host_searches _ hall, hnames] at hone
  refine ⟨horder, Regex.host_searches, ?_, (hreports [] emptyMatches horder).2, hone⟩
  rw [hbytes horder, hevery, hnames]
  rfl

end Railroad
