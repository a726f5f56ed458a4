import WindowedHdr.Config.Parse

/-!
# The language of configuration texts

A text is read line by line, each line through its content. The line grammar has three
forms: an empty line, a section header, and an assignment. The section in force at a line is
named by the last header before it, and only the assignments to `mode` in the section `hdr`
have a meaning.

* `Grammatical` — every line has one of the three forms, and every assignment that has a
  meaning requests a mode.
* `OffendsAt` — the line breaks the grammar, with the error that says so.
* `Decides` — the mode of the last assignment that has a meaning, or the default.

The loop of `Config.parse` is read against these by one invariant, `Parsed`: as long as no
line has offended, the state is what the lines passed over say (`parseLine_parsed`), and at
the first line that offends it stops with the error of that line (`parseLines_cases`).

A line can only move the invariant in three ways: it says nothing, and everything said of the
lines before it is carried over; it changes the section; or it decides the mode, and is then the
last line that does. The lemmas about one more line are these three, for each of the notions
that speak of the lines so far. A line that offends ends the loop, so what follows it is never
looked at (`FirstOffence.append`).

Two theorems are read off the end of the loop. `parse_accepts_grammar` says which texts are
accepted, with which mode, and which line is named otherwise; it also says that lines without a
meaning may be inserted anywhere, because the loop passes over them without a change of state.
`retired_flag_describes_mode_iff` compares the flag of the retired value with the mode that is
returned: the flag is set by any assignment of that value, and is never cleared by a later one.
-/

namespace WindowedHdr
namespace Config

open Str

/-- The contents of the lines of a text. -/
def contents (text : String) : List (List Char) := (lines text.toList).map content

/-- The section in force behind `lines`: the name of the last header in them. -/
def sectionAfter (lines : List (List Char)) : List Char :=
  ((lines.filter isHeader).getLast?.map fun line => toAsciiLowercase (trim (bracketed line))).getD
    []

/-- Line `i` assigns `value` to `mode`, in the section `hdr`. -/
def AssignsAt (lines : List (List Char)) (i : Nat) (value : String) : Prop :=
  ∃ line, lines[i]? = some line ∧ modeValue? (sectionAfter (lines.take i)) line = some value

/-- The assignment of line `i` is the last one. -/
def LastAssignment (lines : List (List Char)) (i : Nat) (value : String) : Prop :=
  AssignsAt lines i value ∧ ∀ j value', i < j → ¬ AssignsAt lines j value'

/-- The mode of the last assignment, or the default. -/
def Decides (lines : List (List Char)) (mode : Mode) : Prop :=
  (∃ i value, LastAssignment lines i value ∧ Requests value mode) ∨
    (∀ i value, ¬ AssignsAt lines i value) ∧ mode = .windowedHdr

/-- A line of one of the three forms. -/
def IsLine (line : List Char) : Prop := line = [] ∨ isHeader line = true ∨ '=' ∈ line

/-- **The language.** Every line has one of the three forms, and every assignment to `mode`
in the section `hdr` requests a mode. -/
def Grammatical (lines : List (List Char)) : Prop :=
  (∀ line ∈ lines, IsLine line) ∧
    ∀ i value, AssignsAt lines i value → ∃ mode, Requests value mode

/-- Line `i` breaks the grammar, as `message` says; lines are counted from 1 in it. -/
def OffendsAt (lines : List (List Char)) (i : Nat) (message : String) : Prop :=
  (∃ line, lines[i]? = some line ∧ ¬ IsLine line ∧ message = syntaxError (i + 1)) ∨
    (∃ value, AssignsAt lines i value ∧ (∀ mode, ¬ Requests value mode) ∧
      message = modeError (i + 1))

/-- Line `i` is the first one that breaks the grammar. -/
def FirstOffence (lines : List (List Char)) (i : Nat) (message : String) : Prop :=
  OffendsAt lines i message ∧ ∀ j message', j < i → ¬ OffendsAt lines j message'

/-- A text is grammatical when no line offends. -/
theorem grammatical_iff {lines : List (List Char)} :
    Grammatical lines ↔ ∀ i message, ¬ OffendsAt lines i message := by
  constructor
  · rintro ⟨hline, hmode⟩ i message (⟨line, hi, hnot, -⟩ | ⟨value, hassign, hnot, -⟩)
    · exact hnot (hline line (List.mem_of_getElem? hi))
    · obtain ⟨mode, hrequests⟩ := hmode i value hassign
      exact hnot mode hrequests
  · intro h
    constructor
    · intro line hline
      obtain ⟨i, hi⟩ := List.getElem?_of_mem hline
      by_contra hnot
      exact h i _ (.inl ⟨line, hi, hnot, rfl⟩)
    · intro i value hassign
      -- an assignment of an unknown value would be an offence
      by_contra hnot
      exact h i _ (.inr ⟨value, hassign, not_exists.mp hnot, rfl⟩)

/-! ### One more line -/

variable {before : List (List Char)} {line : List Char}

/-- A header is the section that follows it, and other lines leave the section. -/
theorem sectionAfter_concat :
    sectionAfter (before ++ [line]) =
      if isHeader line = true then toAsciiLowercase (trim (bracketed line))
      else sectionAfter before := by
  rw [sectionAfter, List.filter_append]
  -- the new line is the last header, or not one at all
  split
  · next h =>
    rw [List.filter_cons_of_pos h, List.filter_nil, List.getLast?_concat]
    rfl
  · next h =>
    rw [List.filter_cons_of_neg h, List.filter_nil, List.append_nil]
    rfl

/-- A line at or behind the end of `before` does not change what the others say. -/
theorem assignsAt_append_of_lt {rest : List (List Char)} {i : Nat} {value : String}
    (hi : i < before.length) :
    AssignsAt (before ++ rest) i value ↔ AssignsAt before i value := by
  rw [AssignsAt, AssignsAt, List.getElem?_append_left hi, List.take_append_of_le_length hi.le]

/-- An assignment is one of the lines. -/
theorem AssignsAt.lt {i : Nat} {value : String} (h : AssignsAt before i value) :
    i < before.length := by
  obtain ⟨_, hi, -⟩ := h
  exact (List.getElem?_eq_some_iff.mp hi).1

/-- The last line assigns what it says under the section before it. -/
theorem assignsAt_length {value : String} :
    AssignsAt (before ++ [line]) before.length value ↔
      modeValue? (sectionAfter before) line = some value := by
  rw [AssignsAt, List.getElem?_concat_length, List.take_left]
  constructor
  · rintro ⟨line', hline, hvalue⟩
    rwa [Option.some.inj hline]
  · intro hvalue
    exact ⟨line, rfl, hvalue⟩

/-- The assignments of one more line. -/
theorem assignsAt_concat {i : Nat} {value : String} :
    AssignsAt (before ++ [line]) i value ↔ AssignsAt before i value ∨
      i = before.length ∧ modeValue? (sectionAfter before) line = some value := by
  -- the line is before the new one, the new one, or behind it
  rcases Nat.lt_trichotomy i before.length with hi | rfl | hi
  · rw [assignsAt_append_of_lt hi]
    exact (or_iff_left fun h => hi.ne h.1).symm
  · rw [assignsAt_length]
    constructor
    · exact fun h => .inr ⟨rfl, h⟩
    · rintro (h | h)
      · exact absurd h.lt (Nat.lt_irrefl _)
      · exact h.2
  · constructor
    · intro h
      have hlt := h.lt
      rw [List.length_append, List.length_singleton] at hlt
      omega
    · rintro (h | h)
      · exact absurd h.lt (Nat.lt_asymm hi)
      · exact absurd h.1 hi.ne'

/-- A line at or behind the end of `before` does not make the others offend. -/
theorem offendsAt_append_of_lt {rest : List (List Char)} {i : Nat} {message : String}
    (hi : i < before.length) :
    OffendsAt (before ++ rest) i message ↔ OffendsAt before i message := by
  simp only [OffendsAt, assignsAt_append_of_lt hi, List.getElem?_append_left hi]

/-- An offence is one of the lines. -/
theorem OffendsAt.lt {i : Nat} {message : String} (h : OffendsAt before i message) :
    i < before.length := by
  rcases h with ⟨_, hi, -⟩ | ⟨value, hassign, -⟩
  · exact (List.getElem?_eq_some_iff.mp hi).1
  · exact hassign.lt

/-- The first offence stays the first, whatever follows. -/
theorem FirstOffence.append {i : Nat} {message : String} (h : FirstOffence before i message)
    (rest : List (List Char)) : FirstOffence (before ++ rest) i message := by
  have hi := h.1.lt
  refine ⟨(offendsAt_append_of_lt hi).mpr h.1, ?_⟩
  -- an earlier offence would be one of the shorter text
  intro j message' hj hoffends
  exact h.2 j message' hj ((offendsAt_append_of_lt (hj.trans hi)).mp hoffends)

/-- One more line has to have one of the three forms, and to request a mode if it assigns one. -/
theorem grammatical_concat :
    Grammatical (before ++ [line]) ↔ Grammatical before ∧ IsLine line ∧
      ∀ value, modeValue? (sectionAfter before) line = some value →
        ∃ mode, Requests value mode := by
  constructor
  · rintro ⟨hline, hmode⟩
    refine ⟨⟨?_, ?_⟩, hline line (by simp), ?_⟩
    · exact fun line' hline' => hline line' (List.mem_append_left _ hline')
    · exact fun i value h => hmode i value (assignsAt_concat.mpr (.inl h))
    · exact fun value h => hmode _ value (assignsAt_length.mpr h)
  · rintro ⟨⟨hbefore, hmode⟩, hline, hvalue⟩
    constructor
    · intro line' hline'
      rcases List.mem_append.mp hline' with h | h
      · exact hbefore line' h
      · rwa [List.mem_singleton.mp h]
    · intro i value h
      -- an assignment of the longer text is one of the shorter, or the new line
      rcases assignsAt_concat.mp h with h | ⟨-, h⟩
      · exact hmode i value h
      · exact hvalue value h

/-- A line that assigns nothing leaves the assignments as they are. -/
theorem assignsAt_pass (h : modeValue? (sectionAfter before) line = none) :
    AssignsAt (before ++ [line]) = AssignsAt before := by
  funext i value
  rw [assignsAt_concat, h, eq_iff_iff]
  exact or_iff_left fun hnone => nomatch hnone.2

/-- A line that assigns nothing decides nothing. -/
theorem decides_pass {mode : Mode} (h : modeValue? (sectionAfter before) line = none) :
    Decides (before ++ [line]) mode ↔ Decides before mode := by
  simp only [Decides, LastAssignment, assignsAt_pass h]

/-- An assignment decides, as the last line. -/
theorem decides_assign {mode : Mode} {value : String}
    (h : modeValue? (sectionAfter before) line = some value) (hmode : Requests value mode) :
    Decides (before ++ [line]) mode := by
  refine .inl ⟨before.length, value, ⟨assignsAt_length.mpr h, ?_⟩, hmode⟩
  -- no line stands behind the last one
  intro j value' hj hassign
  have hlt := hassign.lt
  rw [List.length_append, List.length_singleton] at hlt
  omega

/-! ### The loop -/

/-- What the loop has found out when it has passed over `before`. -/
structure Parsed (before : List (List Char)) (state : ParseState) : Prop where
  sectionName : state.sectionName = sectionAfter before
  grammatical : Grammatical before
  mode : Decides before state.config.mode
  retired : state.config.retiredForcePqRequested = true ↔
    ∃ i, AssignsAt before i retiredValue

/-- Nothing is known before the first line. -/
theorem parsed_nil : Parsed [] {} where
  sectionName := rfl
  grammatical := by
    constructor
    · intro line hline
      cases hline
    · intro i value h
      exact absurd h.lt (Nat.not_lt_zero i)
  mode := .inr ⟨fun i _ h => Nat.not_lt_zero i h.lt, rfl⟩
  retired := by
    constructor
    · intro h
      cases h
    · rintro ⟨i, h⟩
      exact absurd h.lt (Nat.not_lt_zero i)

variable {state : ParseState}

/-- A line that assigns nothing changes at most the section. -/
theorem Parsed.pass (h : Parsed before state) (hline : IsLine line)
    (hnone : modeValue? (sectionAfter before) line = none) :
    Parsed (before ++ [line])
      { state with sectionName := sectionAfter (before ++ [line]) } where
  sectionName := rfl
  grammatical := by
    refine grammatical_concat.mpr ⟨h.grammatical, hline, ?_⟩
    intro value hvalue
    rw [hnone] at hvalue
    cases hvalue
  mode := (decides_pass hnone).mpr h.mode
  retired := by
    rw [assignsAt_pass hnone]
    exact h.retired

/-- An assignment of a known value sets the mode, and notes the retired value. -/
theorem Parsed.assign {value : String} {config : Config} (h : Parsed before state)
    (hheader : isHeader line = false) (hline : IsLine line)
    (hvalue : modeValue? (sectionAfter before) line = some value)
    (hmode : Requests value config.mode)
    (hretired : config.retiredForcePqRequested = true ↔
      state.config.retiredForcePqRequested = true ∨ value = retiredValue) :
    Parsed (before ++ [line]) { state with config } where
  sectionName := by
    rw [sectionAfter_concat, hheader, if_neg Bool.false_ne_true]
    exact h.sectionName
  grammatical := by
    refine grammatical_concat.mpr ⟨h.grammatical, hline, ?_⟩
    intro value' hvalue'
    obtain rfl := Option.some.inj (hvalue.symm.trans hvalue')
    exact ⟨config.mode, hmode⟩
  mode := decides_assign hvalue hmode
  retired := by
    -- an assignment of the retired value stands in `before`, or is this line
    rw [hretired, h.retired]
    constructor
    · rintro (⟨i, hi⟩ | rfl)
      · exact ⟨i, assignsAt_concat.mpr (.inl hi)⟩
      · exact ⟨before.length, assignsAt_length.mpr hvalue⟩
    · rintro ⟨i, hi⟩
      rcases assignsAt_concat.mp hi with hi | ⟨-, hi⟩
      · exact .inl ⟨i, hi⟩
      · exact .inr (Option.some.inj (hvalue.symm.trans hi))

/-- **One line.** The loop goes on and knows what the line says, or stops with the error of
the line. -/
theorem parseLine_parsed (h : Parsed before state) (originalLine : List Char) :
    (∃ state', parseLine state (before.length + 1) originalLine = .ok state' ∧
      Parsed (before ++ [content originalLine]) state') ∨
    ∃ message, parseLine state (before.length + 1) originalLine = .error (.error message) ∧
      OffendsAt (before ++ [content originalLine]) before.length message := by
  have hsection : { state with sectionName := sectionAfter before } = state := by
    rw [← h.sectionName]
  by_cases hblank : content originalLine = []
  · have hpass : Parsed (before ++ [[]])
        { state with sectionName := sectionAfter (before ++ [[]]) } := h.pass (.inl rfl) rfl
    rw [sectionAfter_concat, if_neg (by decide), hsection] at hpass
    exact .inl ⟨state, parseLine_blank _ hblank, by rwa [hblank]⟩
  cases hheader : isHeader (content originalLine) with
  | true =>
    have hnone : modeValue? (sectionAfter before) (content originalLine) = none := by
      rw [modeValue?]
      split
      · rfl
      · exact if_neg fun hcond => Bool.false_ne_true (hcond.1.symm.trans hheader)
    -- the section that the loop stores is the one this header names
    have hpass := h.pass (.inr (.inl hheader)) hnone
    rw [sectionAfter_concat, if_pos hheader] at hpass
    exact .inl ⟨_, parseLine_header _ hheader, hpass⟩
  | false =>
    have hvalues : modeValue? state.sectionName (content originalLine) =
        modeValue? (sectionAfter before) (content originalLine) := by rw [h.sectionName]
    rw [parseLine_of_not_isHeader _ hblank hheader, hvalues]
    by_cases hassign : '=' ∈ content originalLine
    · have hline : IsLine (content originalLine) := .inr (.inr hassign)
      rw [if_pos hassign]
      cases hvalue : modeValue? (sectionAfter before) (content originalLine) with
      | none =>
        have hpass := h.pass hline hvalue
        rw [sectionAfter_concat, hheader, if_neg Bool.false_ne_true, hsection] at hpass
        exact .inl ⟨state, rfl, hpass⟩
      | some value =>
        -- one of the modes by its name, the retired one, or none
        obtain ⟨mode, hmode, heq⟩ | ⟨hretired, heq⟩ | ⟨hunknown, heq⟩ :=
          assignMode_cases state.config value
        · have hparsed : Parsed (before ++ [content originalLine])
              { state with config := { state.config with mode } } := by
            refine h.assign hheader hline hvalue (.inl hmode) ?_
            rw [hmode]
            exact (or_iff_left (asStr_ne_retiredValue mode)).symm
          exact .inl ⟨_, by simp only [heq], hparsed⟩
        · have hparsed : Parsed (before ++ [content originalLine])
              { state with config := ⟨.observe, true⟩ } :=
            h.assign hheader hline hvalue (.inr ⟨hretired, rfl⟩) (iff_of_true rfl (.inr hretired))
          exact .inl ⟨_, by simp only [heq], hparsed⟩
        · refine .inr ⟨modeError (before.length + 1), by simp only [heq]; rfl, .inr ?_⟩
          exact ⟨value, assignsAt_length.mpr hvalue, hunknown, rfl⟩
    · -- neither blank nor a header nor an assignment
      rw [if_neg hassign]
      refine .inr ⟨_, rfl, .inl ⟨content originalLine, List.getElem?_concat_length, ?_, rfl⟩⟩
      rintro (hline | hline | hline)
      · exact hblank hline
      · exact Bool.false_ne_true (hheader.symm.trans hline)
      · exact hassign hline

/-- **The loop.** It ends behind the last line and knows what all of them say, or at the
first line that offends. -/
theorem parseLines_cases (originalLines : List (List Char)) (h : Parsed before state) :
    (∃ state', parseLines state (before.length + 1) originalLines = .ok state' ∧
      Parsed (before ++ originalLines.map content) state') ∨
    ∃ i message, parseLines state (before.length + 1) originalLines = .error (.error message) ∧
      FirstOffence (before ++ originalLines.map content) i message := by
  -- on the lines that are left, with what is known of those before them
  induction originalLines generalizing before state with
  | nil =>
    rw [List.map_nil, List.append_nil]
    exact .inl ⟨state, rfl, h⟩
  | cons originalLine originalLines ih =>
    rw [List.map_cons, List.append_cons, parseLines]
    obtain ⟨state', hok, hparsed⟩ | ⟨message, herror, hoffends⟩ := parseLine_parsed h originalLine
    -- the loop goes on behind this line
    · have hrest := ih hparsed
      rw [List.length_append, List.length_singleton] at hrest
      rw [hok]
      exact hrest
    · -- no line before this one offends, since the loop has passed over them
      have hfirst : FirstOffence (before ++ [content originalLine]) before.length message := by
        refine ⟨hoffends, ?_⟩
        intro j message' hj hoffends'
        exact grammatical_iff.mp h.grammatical j message'
          ((offendsAt_append_of_lt hj).mp hoffends')
      refine .inr ⟨before.length, message, ?_, hfirst.append _⟩
      rw [herror]
      rfl

/-- What `parse` returns. -/
theorem parse_cases (text : String) :
    (∃ state, parse text = .ok state.config ∧ Parsed (contents text) state) ∨
    ∃ i message, parse text = .error (.error message) ∧
      FirstOffence (contents text) i message := by
  rw [parse]
  obtain ⟨state, hok, hparsed⟩ | ⟨i, message, herror, hfirst⟩ :=
    parseLines_cases (lines text.toList) parsed_nil
  · refine .inl ⟨state, ?_, hparsed⟩
    rw [List.length_nil, Nat.zero_add] at hok
    rw [hok]
    rfl
  · refine .inr ⟨i, message, ?_, hfirst⟩
    rw [List.length_nil, Nat.zero_add] at herror
    rw [herror]
    rfl

/-! ### Lines that say nothing -/

/-- A line that does not count in the section `sectionName`: an empty one, or an assignment
when the section is not `hdr`. -/
def IsIgnored (sectionName line : List Char) : Prop :=
  line = [] ∨ isHeader line = false ∧ '=' ∈ line ∧ sectionName ≠ "hdr".toList

/-- Lines that do not count are put in somewhere. -/
def InsertsIgnored (lines lines' : List (List Char)) : Prop :=
  ∃ before inserted after, lines = before ++ after ∧ lines' = before ++ inserted ++ after ∧
    ∀ line ∈ inserted, IsIgnored (sectionAfter before) line

/-- A line that does not count leaves the state. -/
theorem parseLine_ignored {originalLine : List Char} (n : Nat)
    (h : IsIgnored state.sectionName (content originalLine)) :
    parseLine state n originalLine = .ok state := by
  rcases h with hblank | ⟨hheader, hassign, hsection⟩
  · exact parseLine_blank n hblank
  · have hne : content originalLine ≠ [] := List.ne_nil_of_mem hassign
    have hnone : modeValue? state.sectionName (content originalLine) = none := by
      rw [modeValue?]
      split
      · rfl
      · exact if_neg fun hcond => hsection hcond.2.1
    rw [parseLine_of_not_isHeader n hne hheader, if_pos hassign, hnone]

/-- So do any number of them. -/
theorem parseLines_ignored (n : Nat) {originalLines : List (List Char)}
    (h : ∀ line ∈ originalLines.map content, IsIgnored state.sectionName line) :
    parseLines state n originalLines = .ok state := by
  induction originalLines generalizing n with
  | nil => rfl
  | cons originalLine originalLines ih =>
    rw [List.map_cons, List.forall_mem_cons] at h
    rw [parseLines, parseLine_ignored n h.1]
    exact ih (n + 1) h.2

/-- A line is read through its content. -/
theorem parseLine_congr {a b : List Char} (n : Nat) (h : content a = content b) :
    parseLine state n a = parseLine state n b := by
  rw [parseLine, parseLine, h]

/-- Lines are read through their contents. -/
theorem parseLines_congr (n : Nat) {a b : List (List Char)}
    (h : a.map content = b.map content) : parseLines state n a = parseLines state n b := by
  induction a generalizing b n state with
  | nil => rw [List.map_eq_nil_iff.mp h.symm]
  | cons line a ih =>
    obtain ⟨line', b, rfl, hline, hrest⟩ := List.map_eq_cons_iff.mp h.symm
    rw [parseLines, parseLines, parseLine_congr n hline.symm]
    refine bind_congr fun state' => ih (n + 1) hrest.symm

/-- The number of a line is only seen in errors. -/
theorem parseLine_eq_ok (n m : Nat) {originalLine : List Char} {state' : ParseState} :
    parseLine state n originalLine = .ok state' ↔ parseLine state m originalLine = .ok state' := by
  by_cases hblank : content originalLine = []
  · rw [parseLine_blank n hblank, parseLine_blank m hblank]
  cases hheader : isHeader (content originalLine) with
  | true => rw [parseLine_header n hheader, parseLine_header m hheader]
  | false =>
    rw [parseLine_of_not_isHeader n hblank hheader, parseLine_of_not_isHeader m hblank hheader]
    -- an assignment, or a line of none of the forms
    split
    · split
      · exact Iff.rfl
      · split
        · exact Iff.rfl
        · exact iff_of_false (fun h => nomatch h) (fun h => nomatch h)
    · exact iff_of_false (fun h => nomatch h) (fun h => nomatch h)

/-- The numbers of lines are only seen in errors. -/
theorem parseLines_eq_ok (n m : Nat) {originalLines : List (List Char)} {state' : ParseState} :
    parseLines state n originalLines = .ok state' ↔
      parseLines state m originalLines = .ok state' := by
  induction originalLines generalizing n m state with
  | nil => exact Iff.rfl
  | cons originalLine originalLines ih =>
    rw [parseLines, parseLines, Except.bind_eq_ok, Except.bind_eq_ok]
    exact exists_congr fun state'' =>
      and_congr (parseLine_eq_ok n m) (ih (n + 1) (m + 1))

/-- The loop may stop between two lines and go on from its state. -/
theorem parseLines_append (n : Nat) (a b : List (List Char)) :
    parseLines state n (a ++ b) =
      parseLines state n a >>= fun state' => parseLines state' (n + a.length) b := by
  induction a generalizing n state with
  | nil => rfl
  | cons line a ih =>
    rw [List.cons_append, parseLines, parseLines, bind_assoc]
    refine bind_congr fun state' => ?_
    -- the numbers go on where the first part ended
    rw [ih, List.length_cons, Nat.add_assoc, Nat.add_comm 1]

/-- **Insertion.** Lines that do not count change neither whether a text is accepted nor the
configuration it is accepted with. -/
theorem parse_eq_ok_of_insertsIgnored {text text' : String}
    (h : InsertsIgnored (contents text) (contents text')) {config : Config} :
    parse text' = .ok config ↔ parse text = .ok config := by
  obtain ⟨before, inserted, after, hlines, hlines', hignored⟩ := h
  obtain ⟨front, back, hlines, hfront, hback⟩ := List.map_eq_append_iff.mp hlines
  obtain ⟨front', back', hlines', hfront', hback'⟩ := List.map_eq_append_iff.mp hlines'
  obtain ⟨front', middle, rfl, hfront', hmiddle⟩ := List.map_eq_append_iff.mp hfront'
  rw [parse, parse, hlines, hlines', Except.bind_eq_ok, Except.bind_eq_ok]
  refine exists_congr fun final => and_congr_left fun _ => ?_
  -- both texts begin with the same contents, so the loop comes to the same state
  rw [List.append_assoc, parseLines_append, parseLines_append,
    parseLines_congr 1 (hfront'.trans hfront.symm), Except.bind_eq_ok, Except.bind_eq_ok]
  refine exists_congr fun state => and_congr_right fun hstate => ?_
  -- the section in force where the lines are inserted is the one the loop has there
  have hsection : state.sectionName = sectionAfter before := by
    obtain ⟨state', hok, hparsed⟩ | ⟨i, message, herror, -⟩ := parseLines_cases front parsed_nil
    · obtain rfl := Except.ok.inj (hstate.symm.trans hok)
      rw [hparsed.sectionName, List.nil_append, hfront]
    · cases hstate.symm.trans herror
  have hmiddle' : ∀ line ∈ middle.map content, IsIgnored state.sectionName line := by
    rw [hmiddle, hsection]
    exact hignored
  rw [parseLines_append, parseLines_ignored _ hmiddle']
  -- the lines behind the insertion have other numbers now
  refine (parseLines_eq_ok _ (1 + front.length)).trans ?_
  rw [parseLines_congr _ (hback'.trans hback.symm)]

/-- A text behind a line feed adds its own lines. -/
theorem contents_append (front back : String) :
    contents (front ++ "\n" ++ back) = contents (front ++ "\n") ++ contents back := by
  have hfeed : "\n".toList = [lineFeed] := rfl
  rw [contents, contents, contents, String.toList_append, String.toList_append, hfeed,
    List.append_assoc, List.singleton_append, lines_append, List.map_append]

/-- Text put in between two lines inserts its lines. -/
theorem insertsIgnored_text (front inserted back : String)
    (h : ∀ line ∈ contents (inserted ++ "\n"),
      IsIgnored (sectionAfter (contents (front ++ "\n"))) line) :
    InsertsIgnored (contents (front ++ "\n" ++ back))
      (contents (front ++ "\n" ++ inserted ++ "\n" ++ back)) := by
  have hassoc : front ++ "\n" ++ inserted ++ "\n" = front ++ "\n" ++ (inserted ++ "\n") :=
    String.append_assoc
  refine ⟨contents (front ++ "\n"), contents (inserted ++ "\n"), contents back,
    contents_append front back, ?_, h⟩
  rw [contents_append, hassoc, contents_append]

/-! ### What is accepted -/

/-- A value requests one mode. -/
theorem Requests.unique {value : String} {mode mode' : Mode} (h : Requests value mode)
    (h' : Requests value mode') : mode = mode' := by
  -- by its name, or as the retired value
  rcases h with rfl | ⟨rfl, rfl⟩
  · rcases h' with heq | ⟨heq, -⟩
    · revert heq
      cases mode <;> cases mode' <;> decide
    · exact absurd heq (asStr_ne_retiredValue mode)
  · rcases h' with heq | ⟨-, rfl⟩
    · exact absurd heq.symm (asStr_ne_retiredValue mode')
    · rfl

/-- There is one last assignment. -/
theorem LastAssignment.unique {lines : List (List Char)} {i j : Nat} {value value' : String}
    (h : LastAssignment lines i value) (h' : LastAssignment lines j value') : value = value' := by
  -- of two last assignments neither is before the other
  rcases Nat.lt_trichotomy i j with hij | rfl | hji
  · exact absurd h'.1 (h.2 j value' hij)
  · obtain ⟨line, hline, hvalue⟩ := h.1
    obtain ⟨line', hline', hvalue'⟩ := h'.1
    obtain rfl := Option.some.inj (hline.symm.trans hline')
    exact Option.some.inj (hvalue.symm.trans hvalue')
  · exact absurd h.1 (h'.2 i value hji)

/-- The lines decide one mode. -/
theorem Decides.unique {lines : List (List Char)} {mode mode' : Mode} (h : Decides lines mode)
    (h' : Decides lines mode') : mode = mode' := by
  obtain ⟨i, value, hlast, hmode⟩ | ⟨hnone, rfl⟩ := h
  · obtain ⟨j, value', hlast', hmode'⟩ | ⟨hnone, -⟩ := h'
    · obtain rfl := hlast.unique hlast'
      exact hmode.unique hmode'
    · exact absurd hlast.1 (hnone i value)
  · obtain ⟨i, value, hlast, -⟩ | ⟨-, rfl⟩ := h'
    · exact absurd hlast.1 (hnone i value)
    · rfl

/-- **`parse` accepts exactly the grammar, and the last assignment wins.** It never faults;
it accepts the grammatical texts, with the mode that their lines decide; of any other text
it reports the first line that breaks the grammar; and lines that do not count can be put in
anywhere. -/
theorem parse_accepts_grammar (text : String) :
    parse text ≠ .error .fault ∧
    ((∃ config, parse text = .ok config) ↔ Grammatical (contents text)) ∧
    (∀ config, parse text = .ok config →
      ∀ mode, Decides (contents text) mode ↔ mode = config.mode) ∧
    (∀ message, parse text = .error (.error message) →
      ∃ i, FirstOffence (contents text) i message) ∧
    ∀ text', InsertsIgnored (contents text) (contents text') →
      ∀ config, parse text' = .ok config ↔ parse text = .ok config := by
  have hinsert : ∀ text', InsertsIgnored (contents text) (contents text') →
      ∀ config, parse text' = .ok config ↔ parse text = .ok config :=
    fun text' h config => parse_eq_ok_of_insertsIgnored h
  -- `Parsed` holds of all lines at once, so each part can be read off it
  obtain ⟨state, hok, hparsed⟩ | ⟨i, message, herror, hfirst⟩ := parse_cases text
  · rw [hok] at hinsert ⊢
    refine ⟨fun h => (nomatch h), iff_of_true ⟨_, rfl⟩ hparsed.grammatical, ?_,
      fun message h => (nomatch h), hinsert⟩
    intro config hconfig mode
    obtain rfl := Except.ok.inj hconfig
    constructor
    · exact fun h => h.unique hparsed.mode
    · rintro rfl
      exact hparsed.mode
  · rw [herror] at hinsert ⊢
    refine ⟨fun h => (nomatch h), iff_of_false ?_ ?_, fun config h => (nomatch h), ?_, hinsert⟩
    · rintro ⟨config, h⟩
      cases h
    · intro hgrammatical
      exact grammatical_iff.mp hgrammatical i message hfirst.1
    · intro message' hmessage
      obtain rfl := Stop.error.inj (Except.error.inj hmessage)
      exact ⟨i, hfirst⟩

/-! ### The retired value -/

/-- When the retired value is assigned at all, the last assignment is to it. -/
def RetiredLast (lines : List (List Char)) : Prop :=
  ∀ i, AssignsAt lines i retiredValue → ∃ j, LastAssignment lines j retiredValue

/-- **When the flag describes the mode.** The flag remembers every assignment of the retired
value, so it says what the last one says exactly when the retired value is not superseded. -/
theorem retired_flag_describes_mode_iff {text : String} {config : Config}
    (h : parse text = .ok config) :
    ((config.retiredForcePqRequested = true ↔
        ∃ i, LastAssignment (contents text) i retiredValue) ∧
      (config.retiredForcePqRequested = true → config.mode = .observe)) ↔
    RetiredLast (contents text) := by
  obtain ⟨state, hok, hparsed⟩ | ⟨i, message, herror, -⟩ := parse_cases text
  · obtain rfl := Except.ok.inj (h.symm.trans hok)
    constructor
    · -- one such assignment is enough to set the flag
      rintro ⟨hflag, -⟩ i hi
      exact hflag.mp (hparsed.retired.mpr ⟨i, hi⟩)
    · intro hlast
      have hflag : state.config.retiredForcePqRequested = true ↔
          ∃ i, LastAssignment (contents text) i retiredValue := by
        rw [hparsed.retired]
        constructor
        · rintro ⟨i, hi⟩
          exact hlast i hi
        · rintro ⟨i, hi⟩
          exact ⟨i, hi.1⟩
      refine ⟨hflag, fun hretired => ?_⟩
      -- the last assignment is the one that decides the mode
      obtain ⟨i, hi⟩ := hflag.mp hretired
      have hdecides : Decides (contents text) .observe :=
        .inl ⟨i, retiredValue, hi, .inr ⟨rfl, rfl⟩⟩
      exact hparsed.mode.unique hdecides
  · cases h.symm.trans herror

/-- A text whose one assignment is the retired value. -/
theorem retired_flag_describes_mode_iff_retired :
    parse "[HDR]\nmode=force_pq_if_hdr10" = .ok ⟨.observe, true⟩ ∧
      ((((⟨.observe, true⟩ : Config).retiredForcePqRequested = true ↔
          ∃ i, LastAssignment (contents "[HDR]\nmode=force_pq_if_hdr10") i retiredValue) ∧
        ((⟨.observe, true⟩ : Config).retiredForcePqRequested = true →
          (⟨.observe, true⟩ : Config).mode = .observe)) ↔
      RetiredLast (contents "[HDR]\nmode=force_pq_if_hdr10")) :=
  ⟨by decide +kernel, retired_flag_describes_mode_iff (by decide +kernel)⟩

/-- The flag outlives the assignment it stands for. -/
theorem retired_flag_outlives_mode :
    parse "[hdr]\nmode=force_pq_if_hdr10\nmode=windowed_hdr" = .ok ⟨.windowedHdr, true⟩ ∧
    ¬ ∀ text config, parse text = .ok config →
      (config.retiredForcePqRequested = true ↔
        ∃ i, LastAssignment (contents text) i retiredValue) ∧
      (config.retiredForcePqRequested = true → config.mode = .observe) := by
  have hparse : parse "[hdr]\nmode=force_pq_if_hdr10\nmode=windowed_hdr" =
      .ok ⟨.windowedHdr, true⟩ := by decide +kernel
  refine ⟨hparse, fun h => ?_⟩
  have hmode := (h _ _ hparse).2 rfl
  cases hmode

end Config
end WindowedHdr
