import Proofreader.Diagnostic

/-!
# Reading a message back

A rule says something and may suggest a replacement; a message holds both, and the replacement that
is written into a document is the one read back from there.  Since the line breaks of both are taken
out first, the line feed between them is the only one of the message, and it parts what is said from
what is suggested, whatever the two are.

What is read back need not be what was put in.  A carriage return that does not stand before a line
feed is no line break for the message, and stays; at the end of a line it is one for the reader, and
goes.  So a suggestion comes back as it is exactly if it does not end in a carriage return.

* `withoutBreaks` — a text without its line breaks, character by character.
* `offered` — what should be read back.
* `readBack_composeMessage` — what is read back, and when the two are the same.

The message is made by two passes, the pairs first and then the single feeds, and a reader might
fear what the first pass brings together: taking the inner pair out of `\r\r\n\n` leaves `\r\n`
standing.  `removeLineEnds_eq_withoutBreaks` settles this once by the recursion of the first pass,
and from there on only the single pass `withoutBreaks` is looked at.

The rest is about the two lines that a message has at most.  That neither part has a line feed is
all that cutting the message needs (`Text.pieces_append_feed`); what it takes away from the second
line is `Text.dropReturn`, and `dropReturn_eq_self_iff` says when that is nothing.  The law is
therefore exact in both directions, and `not_readBack_eq_offered` is the case in which it fails.
-/

set_option autoImplicit false

namespace Proofreader

/-! ## Line breaks -/

/-- A text without its line breaks: a line feed goes, and with it a carriage return right in front
of it. -/
def withoutBreaks : List Char → List Char
  | [] => []
  | c :: rest =>
    if c = '\n' ∨ c = '\r' ∧ rest.head? = some '\n' then withoutBreaks rest
    else c :: withoutBreaks rest

/-- Taking out the pairs first and then the line feeds comes to the same, also where a pair that is
taken out brings another one together: its line feed goes in any case, and its carriage return
stays, as in the text. -/
theorem removeLineEnds_eq_withoutBreaks (text : List Char) :
    removeLineEnds text = withoutBreaks text := by
  rw [removeLineEnds]
  induction text using removeDoubleEnds.induct with
  | case1 rest ih =>
    rw [removeDoubleEnds, ih]
    simp [withoutBreaks]
  | case2 c rest hpair ih =>
    have hstay : ¬(c = '\r' ∧ rest.head? = some '\n') := by
      rintro ⟨rfl, hhead⟩
      obtain ⟨more, rfl⟩ := List.head?_eq_some_iff.1 hhead
      exact hpair more rfl rfl
    rw [removeDoubleEnds.eq_2 c rest hpair, List.filter_cons, ih, withoutBreaks]
    by_cases hc : c = '\n'
    · simp [hc]
    · simp [hc, hstay]
  | case3 => rfl

/-! ## Two lines

Neither of these lemmas knows of messages: they say what stands before a line feed, and what a line
loses at its end. -/

namespace Text

variable {text rest : List Char}

/-- What stands before the first line feed, or before the end. -/
theorem takeWhile_append_feed (h : '\n' ∉ text) (hrest : ∀ c, rest.head? = some c → c = '\n') :
    (text ++ rest).takeWhile (· != '\n') = text := by
  have hstop : rest.takeWhile (· != '\n') = [] := by
    cases rest with
    | nil => rfl
    | cons c rest => simp [hrest c rfl]
  rw [List.takeWhile_append_of_pos, hstop, List.append_nil]
  intro c hc
  exact bne_iff_ne.2 fun heq => h (heq ▸ hc)

/-- A line loses nothing exactly if it does not end in a carriage return. -/
theorem dropReturn_eq_self_iff : dropReturn text = text ↔ text.getLast? ≠ some '\r' := by
  rw [dropReturn]
  split
  · rename_i hlast
    rw [beq_iff_eq] at hlast
    obtain ⟨line, rfl⟩ := List.getLast?_eq_some_iff.1 hlast
    simp
  · rename_i hlast
    simpa using hlast

end Text

/-! ## What is read back

Whether anything is offered is decided on the suggestion without its breaks: a suggestion of spaces
and line feeds offers nothing, and a message without a second line reads back as no suggestion.  So
both sides of the law are cut at the same place, and the two cases of `offered` are the two cases of
every proof below. -/

/-- What a rule offers in place of a match: its suggestion without line breaks, unless that is empty
or made of spaces only. -/
def offered (suggestion : String) : Option String :=
  if (withoutBreaks suggestion.toList).all (· == ' ') then none
  else some (String.ofList (withoutBreaks suggestion.toList))

/-- The characters of a message: one line, or two if something is offered. -/
theorem toList_composeMessage (message suggestion : String) :
    (composeMessage message suggestion).toList =
      withoutBreaks message.toList ++
        ((offered suggestion).map fun text => '\n' :: text.toList).getD [] := by
  rw [composeMessage, offered, ← removeLineEnds_eq_withoutBreaks, ← removeLineEnds_eq_withoutBreaks]
  by_cases hblank : (removeLineEnds suggestion.toList).all (· == ' ') = true
  · rw [if_pos hblank]
    simp [hblank]
  · rw [if_neg hblank, Bool.eq_false_iff.2 hblank]
    simp

theorem not_mem_withoutBreaks (text : List Char) : '\n' ∉ withoutBreaks text := by
  rw [← removeLineEnds_eq_withoutBreaks]
  exact not_mem_removeLineEnds text

/-- The second line of a message is what is offered, up to a carriage return at its end. -/
theorem suggestionOf_composeMessage (message suggestion : String) :
    suggestionOf (composeMessage message suggestion) =
      (offered suggestion).map fun text => String.ofList (Text.dropReturn text.toList) := by
  have hfirst := not_mem_withoutBreaks message.toList
  rw [suggestionOf, toList_composeMessage]
  cases hoffered : offered suggestion with
  | none => simp [Text.pieces_of_not_mem hfirst]
  | some text =>
    have hsecond : '\n' ∉ text.toList := by
      rw [offered] at hoffered
      split at hoffered
      · simp at hoffered
      · rw [← Option.some_inj.1 hoffered, String.toList_ofList]
        exact not_mem_withoutBreaks _
    simp [Text.pieces_append_feed hfirst, Text.pieces_of_not_mem hsecond]

/-- **What is read back from a message.**  Its first line is what the rule says, without line
breaks.  Its suggestion is the one that is offered, less a carriage return at the end; so it is just
what is offered unless that ends in a carriage return. -/
theorem readBack_composeMessage (message suggestion : String) (range : TextRange)
    (severity : Severity) :
    let d : Diagnostic := ⟨range, severity, composeMessage message suggestion⟩
    d.message.toList.takeWhile (· != '\n') = withoutBreaks message.toList ∧
      d.suggestion =
        (offered suggestion).map (fun text => String.ofList (Text.dropReturn text.toList)) ∧
      (d.suggestion = offered suggestion ↔
        (withoutBreaks suggestion.toList).getLast? ≠ some '\r') := by
  intro d
  have hfirst := not_mem_withoutBreaks message.toList
  have hback : d.suggestion = (offered suggestion).map fun text =>
      String.ofList (Text.dropReturn text.toList) := suggestionOf_composeMessage message suggestion
  refine ⟨?_, hback, ?_⟩
  · rw [toList_composeMessage]
    refine Text.takeWhile_append_feed hfirst fun c hc => ?_
    cases hoffered : offered suggestion with
    | none => simp [hoffered] at hc
    | some text => simpa [hoffered, eq_comm] using hc
  · rw [hback, offered]
    split
    · rename_i hblank
      -- nothing is offered, and spaces do not end in a carriage return
      have hlast : (withoutBreaks suggestion.toList).getLast? ≠ some '\r' := by
        intro hlast
        have hreturn := List.all_eq_true.1 hblank '\r' (List.mem_of_getLast? hlast)
        simp at hreturn
      simpa using hlast
    · rw [Option.map_some, Option.some_inj, String.toList_ofList, String.ofList_inj]
      exact Text.dropReturn_eq_self_iff

/-- What is read back need not be what is offered. -/
theorem not_readBack_eq_offered :
    ¬∀ (message suggestion : String) (range : TextRange) (severity : Severity),
      let d : Diagnostic := ⟨range, severity, composeMessage message suggestion⟩
      d.message.toList.takeWhile (· != '\n') = withoutBreaks message.toList ∧
        d.suggestion = offered suggestion := by
  intro h
  have hback : suggestionOf (composeMessage "Typo" "the\r") = some "the" := by decide +kernel
  have hoffered : offered "the\r" = some "the\r" := by decide +kernel
  have heq := (h "Typo" "the\r" ⟨0, 3⟩ .warning).2
  exact absurd (hback.symm.trans (heq.trans hoffered)) (by decide)

end Proofreader
