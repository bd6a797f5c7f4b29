import Proofreader.Check
import Proofreader.Proofs.Checker.Steps
import Proofreader.Proofs.Search.Companions
import Proofreader.Proofs.Text.Comment

/-!
# Where findings are

The rules see a document without its comments, and a finding keeps the range that its match has
there.  `FoundIn` says what this range is worth in the document itself: it lies in it, since taking
comments out makes a text shorter, and the characters in it are those of the match as long as no
comment begins before its end.

Behind a comment the range is off.  In `<!-- x -->teh` the finding of `teh` has the range of the
first three characters of the document, which are the beginning of the comment.  So the hypothesis
`NoCommentBefore` cannot be dropped.  It is asked for up to the end of the range and no further: a
comment behind a finding moves nothing in front of it.

Three facts from elsewhere are put together, and each enters at one place only.

* What a rule reports is a part of the matches of its pattern, in every mode (`sublist_of_ranges`).
  So it is enough to look at the matches of one compiled pattern, and the companion of a rule is
  never mentioned again.
* A match is a range of the stripped text with the bytes of its characters: this is what the search
  promises (`Search.liesIn_of_mem_ranges`, `Search.matchesIn_eq_map_ranges`).
* Stripping shortens a text (`Text.length_stripFrom_le`) and leaves alone what stands before the
  first comment (`Text.take_stripFrom`).  The first gives the bounds in the document without any
  hypothesis, the second the characters under `NoCommentBefore`.

The findings of a check are cut into the parts of its rules (`findings_eq_ok`, by recursion on the
rules as `findings` is) before anything is said about one of them, since a finding does not tell
which rule it comes from.  In `check_places` the list of parts is the same for all that is said: the
order of the findings, their places, and what becomes of them as fixes.

What is said of fixes is about the checker after the check, so it goes through the state that the
check leaves: the finding is on record, the text is as before, and both `fixFor?` and `fix` need no
more of a recorded finding than that its range lies in the text.  It is for this that `FoundIn` has
its bounds in the document and not only in the stripped text.
-/

set_option autoImplicit false

namespace Proofreader

open Text (clampedSlice stripFrom withoutComments NoCommentBefore)

/-! ## The text of a match

The document appears twice in `FoundIn`, with its comments and without.  A match is a match of the
stripped text, and that is where its bytes and its characters are told; only the first and the last
field are about the document as it is. -/

/-- What is known of a finding of a rule in a document, when `matched` is the text of its match. -/
structure FoundIn (document : List Char) (rule : Rule) (d : Diagnostic) (matched : List Char) :
    Prop where
  /-- The range lies in the document. -/
  liesIn : d.range.LiesIn document.length
  /-- The bytes of the range are a match of the rule's pattern in the document without comments. -/
  isMatch : ∃ prog, Pattern.compile rule.pattern = .ok prog ∧
    d.range.bytes (stripFrom 0 document) ∈ prog.matchesIn (stripFrom 0 document)
  /-- They are the bytes of the matched text. -/
  covers : (d.range.bytes (stripFrom 0 document)).Covers (stripFrom 0 document) matched
  /-- The matched text stands in the range, once the comments are gone. -/
  stripped : clampedSlice (stripFrom 0 document) d.range = matched
  /-- It stands there in the document too, if no comment begins before the end of the range. -/
  document : NoCommentBefore document d.range.stop → clampedSlice document d.range = matched

theorem foundIn_of_mem_ranges {document : List Char} {rule : Rule} {d : Diagnostic}
    {prog : Pattern.Program} (hprog : Pattern.compile rule.pattern = .ok prog)
    (hmem : d.range ∈ Search.ranges prog (stripFrom 0 document)) :
    FoundIn document rule d (clampedSlice (stripFrom 0 document) d.range) := by
  have hlies := Search.liesIn_of_mem_ranges _ _ hmem
  refine ⟨⟨hlies.start_le_stop, Nat.le_trans hlies.stop_le (Text.length_stripFrom_le 0 document)⟩,
    ⟨prog, hprog, ?_⟩, TextRange.bytes_covers hlies, rfl, fun hnone => ?_⟩
  · rw [Search.matchesIn_eq_map_ranges]
    exact List.mem_map.2 ⟨_, hmem, rfl⟩
  · rw [Text.clampedSlice_eq, Text.clampedSlice_eq, Text.take_stripFrom hnone]

/-! ## Findings

From a single match to the findings of a rule, from there to those of a list of rules.  Nothing is
lost on the way but the order within a rule, for which being a part of the matches is enough. -/

/-- In every mode, what a rule reports are matches of its pattern. -/
theorem Rule.sublist_of_ranges {rule : Rule} {text : String} {rs : List TextRange}
    (h : rule.ranges text = .ok rs) :
    ∃ prog, Pattern.compile rule.pattern = .ok prog ∧
      rs.Sublist (Search.ranges prog text.toList) := by
  have hsub : ∃ found, matchRanges text rule.pattern = .ok found ∧ rs.Sublist found := by
    rw [Rule.ranges] at h
    split at h
    · exact ⟨rs, h, List.Sublist.refl rs⟩
    · exact sublist_of_loneMatches h
    · exact sublist_of_loneMatches h
  obtain ⟨found, hfound, hsub⟩ := hsub
  obtain ⟨prog, hprog, rfl⟩ := matchRanges_eq_ok_iff.1 hfound
  exact ⟨prog, hprog, hsub⟩

theorem Rule.foundIn_of_findings {rule : Rule} {text : String} {ds : List Diagnostic}
    (h : rule.findings (withoutComments text) = .ok ds) {d : Diagnostic} (hd : d ∈ ds) :
    ∃ matched, FoundIn text.toList rule d matched := by
  rw [Rule.findings, bind_eq_ok_iff] at h
  obtain ⟨rs, hranges, h⟩ := h
  obtain rfl := pure_eq_ok_iff.1 h
  obtain ⟨r, hr, rfl⟩ := List.mem_map.1 hd
  obtain ⟨prog, hprog, hsub⟩ := Rule.sublist_of_ranges hranges
  rw [withoutComments, String.toList_ofList] at hsub
  exact ⟨_, foundIn_of_mem_ranges hprog (hsub.subset hr)⟩

/-- The findings of a check are those of its rules, one rule after the other. -/
theorem findings_eq_ok {text : String} :
    ∀ {rules : List Rule} {ds : List Diagnostic}, findings text rules = .ok ds →
      ∃ parts : List (Rule × List Diagnostic), parts.map (·.1) = rules ∧
        ds = parts.flatMap (·.2) ∧ ∀ p ∈ parts, p.1.findings text = .ok p.2
  | [], ds, h => by
    rw [findings, Except.ok.injEq] at h
    exact ⟨[], rfl, h.symm, by simp⟩
  | rule :: rules, ds, h => by
    rw [findings, bind_eq_ok_iff] at h
    obtain ⟨first, hfirst, h⟩ := h
    obtain ⟨more, hmore, h⟩ := bind_eq_ok_iff.1 h
    obtain ⟨parts, rfl, rfl, hparts⟩ := findings_eq_ok hmore
    exact ⟨(rule, first) :: parts, rfl, (pure_eq_ok_iff.1 h).symm,
      List.forall_mem_cons.2 ⟨hfirst, hparts⟩⟩

/-- Every finding lies in the document. -/
theorem liesIn_of_check {text : String} {rules : List Rule} {ds : List Diagnostic}
    (h : check text rules = .ok ds) {d : Diagnostic} (hd : d ∈ ds) :
    d.range.LiesIn text.toList.length := by
  obtain ⟨parts, -, rfl, hparts⟩ := findings_eq_ok h
  obtain ⟨p, hp, hd⟩ := List.mem_flatMap.1 hd
  obtain ⟨matched, hfound⟩ := Rule.foundIn_of_findings (hparts p hp) hd
  exact hfound.liesIn

/-- **Where findings are.**  The findings of a check are those of its rules in order, and each lies
in the document, where the text of its match stands in its range unless a comment begins before the
end of the range.  Right after a check of an open document, the fix that is offered for a finding
shows the text in its range, and fixing it replaces that text and nothing else. -/
theorem check_places {text : String} {rules : List Rule} {ds : List Diagnostic}
    (hcheck : check text rules = .ok ds) :
    ∃ parts : List (Rule × List Diagnostic), parts.map (·.1) = rules ∧ ds = parts.flatMap (·.2) ∧
      ∀ p ∈ parts, p.1.findings (withoutComments text) = .ok p.2 ∧
        ∀ d ∈ p.2, (∃ matched, FoundIn text.toList p.1 d matched) ∧
          ∀ (c c' : Checker) (id : DocumentId) (s : String), c.workspace.text? id = some text →
            c.rules = rules → c'.state = (CheckState.run id c.state).2 → d.suggestion = some s →
            c'.fixFor? id d =
                some ⟨d.range, String.ofList (clampedSlice text.toList d.range), s⟩ ∧
              (c'.active = true → c'.workspace.readOnly = false →
                ∃ c'', c'.fix id d = (.ok (), c'') ∧
                  c''.workspace.text? id =
                    some (String.ofList (text.toList.take d.range.start ++ s.toList ++
                      text.toList.drop d.range.stop)) ∧
                  ∀ other, id ≠ other → c''.workspace.text? other = c'.workspace.text? other) := by
  obtain ⟨parts, hrules, hds, hparts⟩ := findings_eq_ok hcheck
  refine ⟨parts, hrules, hds, fun p hp => ⟨hparts p hp, fun d hd => ?_⟩⟩
  obtain ⟨matched, hfound⟩ := Rule.foundIn_of_findings (hparts p hp) hd
  refine ⟨⟨matched, hfound⟩, fun c c' id s htext hrules' hstate hs => ?_⟩
  have hrun : c'.state = c.state.recorded id ds := by
    rw [hstate, CheckState.run_of_check htext (by rw [← Checker.rules, hrules']; exact hcheck)]
  have htext' : c'.workspace.text? id = some text := by
    rw [Checker.workspace, hrun]
    exact htext
  have hrecord : d ∈ c'.diagnostics id := by
    rw [Checker.diagnostics, hrun, CheckState.recorded, Store.get_set, if_pos rfl, hds]
    exact List.mem_flatMap.2 ⟨p, hp, hd⟩
  exact ⟨Checker.fixFor?_of_liesIn htext' hs hfound.liesIn, fun hactive hwritable =>
    Checker.fix_of_liesIn hactive hwritable htext' hrecord hs hfound.liesIn⟩

/-- In `a teh` the finding of `teh` has the range of these three characters. -/
theorem check_places_teh :
    check "a teh" [.everyMatch "teh" .warning "a slip" "the"] =
        .ok [⟨⟨2, 5⟩, .warning, composeMessage "a slip" "the"⟩] ∧
      FoundIn "a teh".toList (.everyMatch "teh" .warning "a slip" "the")
        ⟨⟨2, 5⟩, .warning, composeMessage "a slip" "the"⟩ "teh".toList := by
  have hcheck : check "a teh" [.everyMatch "teh" .warning "a slip" "the"] =
      .ok [⟨⟨2, 5⟩, .warning, composeMessage "a slip" "the"⟩] := rfl
  obtain ⟨parts, hrules, hds, hparts⟩ := check_places hcheck
  obtain ⟨p, rfl, hp⟩ := List.map_eq_singleton_iff.1 hrules
  rw [List.flatMap_singleton] at hds
  obtain ⟨-, hfound⟩ := hparts p List.mem_cons_self
  obtain ⟨⟨matched, hmatched⟩, -⟩ := hfound _ (hds ▸ List.mem_cons_self)
  refine ⟨hcheck, ?_⟩
  rw [hp, ← hmatched.stripped] at hmatched
  exact hmatched

/-- Behind a comment the range of a finding is that of other characters. -/
theorem check_places_behind_comment :
    check "<!-- x -->teh" [.everyMatch "teh" .warning "a slip" "the"] =
        .ok [⟨⟨0, 3⟩, .warning, composeMessage "a slip" "the"⟩] ∧
      clampedSlice (stripFrom 0 "<!-- x -->teh".toList) ⟨0, 3⟩ = "teh".toList ∧
      clampedSlice "<!-- x -->teh".toList ⟨0, 3⟩ = "<!-".toList :=
  ⟨rfl, rfl, rfl⟩

end Proofreader
