import Mathlib.Data.List.Forall2
import OrgConsole.Proofs.Text.Blank
import OrgConsole.Proofs.Wire.RoundTrip
import OrgConsole.Report
/-!
# The report of memberships

Each membership adds its columns to the report and a line break, and before the line break white space is trimmed off
the end of all that was written so far. That reaches further back than its own columns only if there is nothing but
white space in them. Then the line break before them goes too, and the membership is left without a line.
-/

namespace OrgConsole.Report

open Text

/-! ## Lines -/

/-- The text is the lines one after the other, each with a line break behind it and none in it. -/
def IsLines (lines : List (List Char)) (text : String) : Prop :=
  text.toList = lines.flatMap (· ++ ['\n']) ∧ ∀ line ∈ lines, '\n' ∉ line

/-- The line of a membership: its columns without the white space at their end. -/
def membershipLine (m : Membership) : List Char :=
  trimRight (membershipColumns m)

/-- A line for a membership. -/
structure IsLineOf (m : Membership) (line : List Char) : Prop where
  /-- The line is the columns of the membership, but for white space that is left off at the end. -/
  columns : ∃ space, line ++ space = membershipColumns m ∧ ∀ c ∈ space, isSpace c = true
  /-- A star is the first character if the membership is primary, and only then. -/
  star : line.head? = some '*' ↔ m.isPrimary = true
  /-- The last character is no white space. -/
  trimmed : ∀ c ∈ line.getLast?, isSpace c = false

/-- The text has one line for each membership, in their order, and no other. -/
def OneLineEach (ms : List Membership) (text : String) : Prop :=
  ∃ lines, IsLines lines text ∧ List.Forall₂ IsLineOf ms lines

/-- No text that is printed of the membership has a line break in it. -/
def NoLineBreaks (m : Membership) : Prop :=
  '\n' ∉ m.departmentName.toList ∧ '\n' ∉ m.departmentId.toList ∧ '\n' ∉ m.corpName.toList ∧
    ∀ title ∈ m.jobTitle, '\n' ∉ title.toList

/-- The membership is not primary, and nothing that is printed of it is more than white space. -/
def ShowsNothing (m : Membership) : Prop :=
  m.isPrimary = false ∧ isBlank m.departmentName = true ∧ isBlank m.departmentId = true ∧ isBlank m.corpName = true ∧
    m.jobTitle.all isBlank = true

instance : DecidablePred NoLineBreaks := fun _ => inferInstanceAs (Decidable (_ ∧ _))

instance : DecidablePred ShowsNothing := fun _ => inferInstanceAs (Decidable (_ ∧ _))

variable {m first : Membership} {ms others : List Membership}

theorem IsLines.count_newline {lines : List (List Char)} {text : String} (h : IsLines lines text) :
    text.toList.count '\n' = lines.length := by
  obtain ⟨htext, hlines⟩ := h
  have hone : lines.map (List.count '\n' ∘ (· ++ ['\n'])) = lines.map fun _ => 1 :=
    List.map_congr_left fun line hline => by
      rw [Function.comp_apply, List.count_append, List.count_eq_zero.2 (hlines line hline), List.count_singleton_self]
  rw [htext, List.count_flatMap, hone]
  simp

theorem OneLineEach.count_newline {text : String} (h : OneLineEach ms text) : text.toList.count '\n' = ms.length := by
  obtain ⟨lines, hlines, hms⟩ := h
  rw [hlines.count_newline, hms.length_eq]

/-! ## The columns of a membership -/

/-- Apart from its marker and from blanks, the columns of a membership consist of its texts. If the name is empty the
id stands in its column, and the id is in the columns anyway. -/
theorem forall_mem_membershipColumns {p : Char → Prop} (hblank : p ' ') :
    (∀ c ∈ membershipColumns m, p c) ↔
      p (if m.isPrimary then '*' else ' ') ∧ (∀ c ∈ m.departmentName.toList, p c) ∧
        (∀ c ∈ m.departmentId.toList, p c) ∧ (∀ c ∈ m.corpName.toList, p c) ∧
        ∀ title ∈ m.jobTitle, ∀ c ∈ title.toList, p c := by
  have hpad {width : Nat} {cs : List Char} : (∀ c ∈ padRight width cs, p c) ↔ ∀ c ∈ cs, p c := by
    simp [padRight, or_imp, forall_and, hblank]
  have htitle : (∀ c ∈ m.jobTitle.elim [] fun title => ' ' :: title.toList, p c) ↔
      ∀ title ∈ m.jobTitle, ∀ c ∈ title.toList, p c := by
    cases m.jobTitle <;> simp [hblank]
  have hname : (∀ c ∈ (if m.departmentName.isEmpty then m.departmentId else m.departmentName).toList, p c) ∧
      (∀ c ∈ m.departmentId.toList, p c) ↔
        (∀ c ∈ m.departmentName.toList, p c) ∧ ∀ c ∈ m.departmentId.toList, p c := by
    split <;> simp_all
  simp only [membershipColumns, List.cons_append, List.mem_cons, List.mem_append, or_imp, forall_and, forall_eq,
    hblank, hpad, htitle, true_and, and_assoc]
  rw [← and_assoc (a := ∀ c ∈ m.departmentName.toList, p c), ← hname, and_assoc]

theorem forall_isSpace_membershipColumns :
    (∀ c ∈ membershipColumns m, isSpace c = true) ↔ ShowsNothing m := by
  have hmarker : isSpace (if m.isPrimary then '*' else ' ') = true ↔ m.isPrimary = false := by
    cases m.isPrimary <;> decide
  rw [forall_mem_membershipColumns (by decide), hmarker, ShowsNothing, Option.all_eq_true]
  simp only [isBlank_iff, Option.mem_def]

theorem membershipLine_eq_nil_iff : membershipLine m = [] ↔ ShowsNothing m :=
  trimRight_eq_nil_iff.trans forall_isSpace_membershipColumns

theorem newline_not_mem_membershipLine (h : NoLineBreaks m) : '\n' ∉ membershipLine m := by
  obtain ⟨hname, hid, hcorp, htitle⟩ := h
  have hmarker : (if m.isPrimary then '*' else ' ') ≠ '\n' := by
    cases m.isPrimary <;> decide
  have hcolumns : ∀ c ∈ membershipColumns m, c ≠ '\n' :=
    (forall_mem_membershipColumns (by decide)).2 ⟨hmarker, fun c hc => ne_of_mem_of_not_mem hc hname,
      fun c hc => ne_of_mem_of_not_mem hc hid, fun c hc => ne_of_mem_of_not_mem hc hcorp,
      fun title ht c hc => ne_of_mem_of_not_mem hc (htitle title ht)⟩
  obtain ⟨space, hspace, -⟩ := trimRight_append_space (membershipColumns m)
  exact fun hmem => hcolumns _ (hspace ▸ List.mem_append_left space hmem) rfl

theorem isLineOf_membershipLine (m : Membership) : IsLineOf m (membershipLine m) where
  columns := trimRight_append_space (membershipColumns m)
  star := by
    cases hline : membershipLine m with
    | nil => simp [(membershipLine_eq_nil_iff.1 hline).1]
    | cons c line =>
      obtain ⟨space, hcolumns, -⟩ := trimRight_append_space (membershipColumns m)
      rw [show trimRight (membershipColumns m) = c :: line from hline] at hcolumns
      have hc : c = if m.isPrimary then '*' else ' ' := (List.cons.inj hcolumns).1
      cases hprimary : m.isPrimary <;> simp [hc, hprimary]
  trimmed _ hc := isSpace_of_getLast?_trimRight hc

/-! ## Adding memberships -/

/-- The lines of memberships with their line breaks. -/
def linesOf (ms : List Membership) : List Char :=
  (ms.map membershipLine).flatMap (· ++ ['\n'])

theorem linesOf_append (ms ms' : List Membership) : linesOf (ms ++ ms') = linesOf ms ++ linesOf ms' := by
  rw [linesOf, List.map_append, List.flatMap_append]
  rfl

theorem addMembership_of_shown (h : ¬ ShowsNothing m) (report : List Char) :
    addMembership report m = report ++ linesOf [m] := by
  have hne : trimRight (membershipColumns m) ≠ [] := mt membershipLine_eq_nil_iff.1 h
  rw [addMembership, trimRight_append, if_neg hne, List.append_assoc]
  simp [linesOf, membershipLine]

theorem addMembership_of_showsNothing (h : ShowsNothing m) (report : List Char) :
    addMembership report m = trimRight report ++ ['\n'] := by
  have hnil : trimRight (membershipColumns m) = [] := membershipLine_eq_nil_iff.2 h
  rw [addMembership, trimRight_append, if_pos hnil]

/-- Only the first line of a report may be empty, so trimming takes away one line break and no more. -/
theorem trimRight_linesOf (hothers : ∀ m ∈ others, ¬ ShowsNothing m) :
    trimRight (linesOf (first :: others)) ++ ['\n'] = linesOf (first :: others) := by
  have hbreak : trimRight ['\n'] = [] := by decide
  have hone (m : Membership) : trimRight (linesOf [m]) = membershipLine m := by
    rw [linesOf, List.map_singleton, List.flatMap_singleton, trimRight_append, if_pos hbreak]
    exact trimRight_trimRight _
  rcases List.eq_nil_or_concat' others with rfl | ⟨init, last, rfl⟩
  · rw [hone]
    simp [linesOf]
  · have hlast : membershipLine last ≠ [] := mt membershipLine_eq_nil_iff.1 (hothers last (by simp))
    rw [← List.cons_append, linesOf_append, trimRight_append, hone, if_neg hlast, List.append_assoc]
    simp [linesOf]

/-- At every point the report is the line of the first membership and those of the others that show something. -/
theorem foldl_addMembership (first : Membership) (ms : List Membership) (hothers : ∀ m ∈ others, ¬ ShowsNothing m) :
    ms.foldl addMembership (linesOf (first :: others)) =
      linesOf (first :: (others ++ ms.filter (¬ ShowsNothing ·))) := by
  induction ms generalizing others with
  | nil => simp
  | cons m rest ih =>
    rw [List.foldl_cons]
    by_cases hm : ShowsNothing m
    · -- Only the line break of the line before is lost, and `m` brings one.
      rw [addMembership_of_showsNothing hm, trimRight_linesOf hothers, ih hothers,
        List.filter_cons_of_neg (by simpa using hm)]
    · have hmore : ∀ n ∈ others ++ [m], ¬ ShowsNothing n := by
        intro n hn
        rcases List.mem_append.1 hn with hn | hn
        · exact hothers n hn
        · rwa [List.mem_singleton.1 hn]
      rw [addMembership_of_shown hm, ← linesOf_append, List.cons_append, ih hmore,
        List.filter_cons_of_pos (by simpa using hm), List.append_assoc, List.singleton_append]

theorem memberships_eq (first : Membership) (rest : List Membership) :
    (memberships (first :: rest)).toList = linesOf (first :: rest.filter (¬ ShowsNothing ·)) := by
  have hfirst : addMembership [] first = linesOf [first] := by
    simp [addMembership, linesOf, membershipLine]
  have hrest := foldl_addMembership first rest (List.forall_mem_nil _)
  rw [memberships, List.isEmpty_cons, if_neg Bool.false_ne_true, String.toList_ofList, List.foldl_cons, hfirst, hrest,
    List.nil_append]

/-- In every report of memberships, the first membership and each one after it of which more than white space shows has
a line of its own, in their order: starred if it is primary and only then, and without white space at its end. A later
membership of which nothing shows has none, so each one has its line if and only if there is no such membership. -/
theorem line_of_each_shown (first : Membership) (rest : List Membership) (h : ∀ m ∈ first :: rest, NoLineBreaks m) :
    OneLineEach (first :: rest.filter (¬ ShowsNothing ·)) (memberships (first :: rest)) ∧
      (OneLineEach (first :: rest) (memberships (first :: rest)) ↔ ∀ m ∈ rest, ¬ ShowsNothing m) := by
  have hlines : OneLineEach (first :: rest.filter (¬ ShowsNothing ·)) (memberships (first :: rest)) := by
    refine ⟨_, ⟨memberships_eq first rest, fun line hline => ?_⟩, ?_⟩
    · obtain ⟨m, hm, rfl⟩ := List.mem_map.1 hline
      exact newline_not_mem_membershipLine (h m ((List.filter_sublist.cons_cons first).mem hm))
    · exact List.forall₂_map_right_iff.2 (List.forall₂_same.2 fun m _ => isLineOf_membershipLine m)
  refine ⟨hlines, fun heach => ?_, fun hall => ?_⟩
  · have hcount := hlines.count_newline.symm.trans heach.count_newline
    have hall := List.length_filter_eq_length_iff.1 (Nat.succ_inj.1 hcount)
    simpa using hall
  · rwa [List.filter_eq_self.2 (by simpa using hall)] at hlines

/-- An empty line of the first membership stays, also where a later one of which nothing shows is left without a line. -/
theorem line_of_each_shown_below_empty_line :
    let nothing : Membership := .of " "
    let padded : Membership := ⟨"d1", " Sales ", "c1", "Acme ", some "  ", false, none⟩
    let starred : Membership := (Membership.of "").flagged true
    OneLineEach [nothing, padded, starred] (memberships [nothing, padded, nothing, starred]) ∧
      ¬ OneLineEach [nothing, padded, nothing, starred] (memberships [nothing, padded, nothing, starred]) := by
  intro nothing padded starred
  obtain ⟨hshown, heach⟩ := line_of_each_shown nothing [padded, nothing, starred] (by decide)
  have hfilter : [padded, nothing, starred].filter (¬ ShowsNothing ·) = [padded, starred] := by decide
  rw [hfilter] at hshown
  exact ⟨hshown, fun h => heach.1 h nothing (by decide) (by decide)⟩

/-- There is one line for two memberships that a server may send. -/
theorem line_missing_where_nothing_shows :
    let ms : List Membership := [(Membership.of "1").flagged true, Membership.of ""]
    Wire.readText Wire.memberships (Json.array (ms.map Wire.membershipJson)).compress = .ok ms ∧
      (∀ m ∈ ms, NoLineBreaks m) ∧ (memberships ms).toList.count '\n' = 1 ∧ ¬ OneLineEach ms (memberships ms) := by
  intro ms
  have hcount : (memberships ms).toList.count '\n' = 1 := by decide +kernel
  refine ⟨Wire.faithful_membership.list.readText_eq (by decide) ms, by decide, hcount, fun h => ?_⟩
  have htwo := h.count_newline
  rw [hcount] at htwo
  cases htwo

end OrgConsole.Report
