import WindowedHdr.Library.Faults
import WindowedHdr.Library.Str

/-!
# Reading the configuration

`Config.parse` passes once over the lines of a text. Its state is the configuration so far
and the section in force: a header changes the section, a `mode` assignment in the section
`hdr` changes the configuration, and every other assignment is passed over.

What the code takes of a line is its content: the line without byte-order marks in front,
cut at the first comment mark and trimmed. A header is cut out of its brackets by byte
offsets, so that step may fault; the other lemmas of this file are the outcomes of
`Config.parseLine`, by what the content is.

The functions keep the order of the source: the content is taken first, then the three forms are
tried, and only an assignment in the section `hdr` can be an error. `parseLine_blank`,
`parseLine_header` and `parseLine_of_not_isHeader` are these three forms; they are all that the
module on the grammar uses of a line.
-/

namespace WindowedHdr

inductive Mode where
  | observe
  | unlockHdrMenu
  | emulateHdrFullscreenState
  | emulateHdrAndSetPq
  | windowedHdr
  deriving DecidableEq

/-- `as_str`. -/
def Mode.asStr : Mode → String
  | .observe => "observe"
  | .unlockHdrMenu => "unlock_hdr_menu"
  | .emulateHdrFullscreenState => "emulate_hdr_fullscreen_state"
  | .emulateHdrAndSetPq => "emulate_hdr_and_set_pq"
  | .windowedHdr => "windowed_hdr"

structure Config where
  mode : Mode := .windowedHdr
  retiredForcePqRequested : Bool := false
  deriving DecidableEq

namespace Config

open Str

/-- The byte-order mark. -/
def byteOrderMark : Char := Char.ofNat 0xFEFF

/-- The characters that start a comment. -/
def isCommentMark (c : Char) : Bool := c == ';' || c == '#'

/-- What is read of a line. -/
def content (originalLine : List Char) : List Char :=
  trim (((originalLine.dropWhile (· == byteOrderMark)).splitOnP isCommentMark).head?.getD [])

/-- A section header. -/
def isHeader (line : List Char) : Bool :=
  line.head? == some '[' && line.getLast? == some ']'

/-- The name between the brackets of a header. -/
def headerName (line : List Char) : Except (Stop String) (List Char) := do
  -- `line[1..line.len() - 1]`
  let finish ← Except.expect (Usize.checkedSub (len line) 1)
  let name ← Except.expect (slice line 1 finish)
  return toAsciiLowercase (trim name)

/-- What the loop carries from line to line. -/
structure ParseState where
  config : Config := {}
  sectionName : List Char := []
  deriving DecidableEq

/-- The value that still stands for a mode that is gone. -/
def retiredValue : String := "force_pq_if_hdr10"

/-- The configuration after a `mode` assignment; `none` for an unknown value. -/
def assignMode (config : Config) (requestedMode : String) : Option Config :=
  match requestedMode with
  | "observe" => some { config with mode := .observe }
  | "unlock_hdr_menu" => some { config with mode := .unlockHdrMenu }
  | "emulate_hdr_fullscreen_state" => some { config with mode := .emulateHdrFullscreenState }
  | "emulate_hdr_and_set_pq" => some { config with mode := .emulateHdrAndSetPq }
  | "windowed_hdr" => some { config with mode := .windowedHdr }
  | "force_pq_if_hdr10" => some { config with mode := .observe, retiredForcePqRequested := true }
  | _ => none

def syntaxError (lineNumber : Nat) : String := s!"invalid INI syntax on line {lineNumber}"

def modeError (lineNumber : Nat) : String :=
  "mode must be observe, unlock_hdr_menu, emulate_hdr_fullscreen_state, " ++
    s!"emulate_hdr_and_set_pq, or windowed_hdr (line {lineNumber})"

/-- The body of the loop over the lines. -/
def parseLine (state : ParseState) (lineNumber : Nat) (originalLine : List Char) :
    Except (Stop String) ParseState := do
  let line := content originalLine
  if line.isEmpty then
    return state
  if isHeader line then
    let name ← headerName line
    return { state with sectionName := name }
  match splitOnce '=' line with
  | none => Except.fail (syntaxError lineNumber)
  | some (key, value) =>
    -- other sections and other keys are passed over
    if state.sectionName ≠ "hdr".toList ∨ ¬ eqIgnoreAsciiCase (trim key) "mode".toList then
      return state
    let requestedMode := String.ofList (toAsciiLowercase (trim value))
    match assignMode state.config requestedMode with
    | some config => return { state with config }
    | none => Except.fail (modeError lineNumber)

/-- The loop over the lines, which are counted from `lineNumber` on. -/
def parseLines (state : ParseState) (lineNumber : Nat) :
    List (List Char) → Except (Stop String) ParseState
  | [] => .ok state
  | line :: lines => do
    let state ← parseLine state lineNumber line
    parseLines state (lineNumber + 1) lines

/-- `parse`. -/
def parse (text : String) : Except (Stop String) Config := do
  let state ← parseLines {} 1 (lines text.toList)
  return state.config

/-! ### One line -/

/-- The text between the brackets of a header. -/
def bracketed (line : List Char) : List Char := line.tail.dropLast

/-- A header is a text between two brackets. -/
theorem isHeader_iff {line : List Char} :
    isHeader line = true ↔ ∃ name, line = '[' :: name ++ [']'] := by
  rw [isHeader, Bool.and_eq_true, beq_iff_eq, beq_iff_eq]
  constructor
  · rintro ⟨hhead, hlast⟩
    cases line with
    | nil => cases hhead
    | cons c rest =>
      obtain rfl := Option.some.inj hhead
      obtain ⟨front, hfront⟩ := List.getLast?_eq_some_iff.mp hlast
      -- one bracket alone does not open and close
      cases front with
      | nil => cases hfront
      | cons c front =>
        obtain ⟨rfl, rfl⟩ := List.cons.inj hfront
        exact ⟨front, rfl⟩
  · rintro ⟨name, rfl⟩
    exact ⟨rfl, List.getLast?_concat⟩

/-- What stands between the brackets. -/
theorem bracketed_eq (name : List Char) : bracketed ('[' :: name ++ [']']) = name := by
  rw [bracketed, List.cons_append, List.tail_cons, List.dropLast_concat]

/-- The bytes of a header between its first and its last are the text in brackets. -/
theorem headerName_of_isHeader {line : List Char} (h : isHeader line = true) :
    headerName line = .ok (toAsciiLowercase (trim (bracketed line))) := by
  obtain ⟨name, rfl⟩ := isHeader_iff.mp h
  have hlen : len ('[' :: name ++ [']']) = 1 + len name + 1 := by
    rw [len_append]
    rfl
  -- both brackets are one byte long
  have hsub : Usize.checkedSub (1 + len name + 1) 1 = some (1 + len name) := by
    rw [Usize.checkedSub, if_pos (by omega), Nat.add_sub_cancel]
  have hslice : slice ('[' :: name ++ [']']) 1 (1 + len name) = some name :=
    slice_append ['['] name [']']
  rw [headerName, hlen, hsub, bracketed_eq]
  change (Except.expect (slice ('[' :: name ++ [']']) 1 (1 + len name)) >>= fun name =>
    pure (toAsciiLowercase (trim name))) = _
  rw [hslice]
  rfl

/-- The value of an assignment to `mode` in the section `sectionName`. -/
def modeValue? (sectionName line : List Char) : Option String :=
  match splitOnce '=' line with
  | none => none
  | some (key, value) =>
    if isHeader line = false ∧ sectionName = "hdr".toList ∧
        eqIgnoreAsciiCase (trim key) "mode".toList = true then
      some (String.ofList (toAsciiLowercase (trim value)))
    else none

variable {state : ParseState} {originalLine : List Char}

/-- A blank line is passed over. -/
theorem parseLine_blank (n : Nat) (h : content originalLine = []) :
    parseLine state n originalLine = .ok state := by
  rw [parseLine, h]
  rfl

/-- A header sets the section. -/
theorem parseLine_header (n : Nat) (h : isHeader (content originalLine) = true) :
    parseLine state n originalLine = .ok { state with
      sectionName := toAsciiLowercase (trim (bracketed (content originalLine))) } := by
  -- a header is not empty
  have hne : (content originalLine).isEmpty = false := by
    obtain ⟨name, hname⟩ := isHeader_iff.mp h
    rw [hname]
    rfl
  simp only [parseLine, hne, h, headerName_of_isHeader h, Bool.false_eq_true, if_false, if_true]
  rfl

/-- A line with something in it that is no header is cut at its first `=`. -/
theorem parseLine_of_not_isHeader (n : Nat) (hne : content originalLine ≠ [])
    (hheader : isHeader (content originalLine) = false) :
    parseLine state n originalLine =
      if '=' ∈ content originalLine then
        match modeValue? state.sectionName (content originalLine) with
        | none => .ok state
        | some value =>
          match assignMode state.config value with
          | some config => .ok { state with config }
          | none => Except.fail (modeError n)
      else Except.fail (syntaxError n) := by
  have hempty : (content originalLine).isEmpty = false := by
    rw [← Bool.not_eq_true, List.isEmpty_iff]
    exact hne
  simp only [parseLine, hempty, hheader, Bool.false_eq_true, if_false, modeValue?, splitOnce]
  by_cases hassign : '=' ∈ content originalLine
  · simp only [if_pos hassign, true_and]
    by_cases hmode : state.sectionName = "hdr".toList ∧ eqIgnoreAsciiCase
        (trim ((content originalLine).takeWhile (· != '='))) "mode".toList = true
    · -- the test of the source is the negation of that of `modeValue?`
      have hskip : ¬ (state.sectionName ≠ "hdr".toList ∨ ¬ eqIgnoreAsciiCase
          (trim ((content originalLine).takeWhile (· != '='))) "mode".toList = true) := by
        rintro (h | h)
        · exact h hmode.1
        · exact h hmode.2
      rw [if_neg hskip, if_pos hmode]
      dsimp only
      cases assignMode state.config _ <;> rfl
    · have hskip : state.sectionName ≠ "hdr".toList ∨ ¬ eqIgnoreAsciiCase
          (trim ((content originalLine).takeWhile (· != '='))) "mode".toList = true :=
        not_and_or.mp hmode
      rw [if_pos hskip, if_neg hmode]
      rfl
  · simp only [if_neg hassign]

/-- The mode that a recognised value stands for. -/
def Requests (value : String) (mode : Mode) : Prop :=
  value = mode.asStr ∨ value = retiredValue ∧ mode = .observe

/-- No mode has the retired value for its name. -/
theorem asStr_ne_retiredValue (mode : Mode) : mode.asStr ≠ retiredValue := by
  cases mode <;> decide

/-- A value requests one of the modes, is the retired one, or is unknown. -/
theorem assignMode_cases (config : Config) (value : String) :
    (∃ mode, value = mode.asStr ∧ assignMode config value = some { config with mode }) ∨
    (value = retiredValue ∧
      assignMode config value = some ⟨.observe, true⟩) ∨
    ((∀ mode, ¬ Requests value mode) ∧ assignMode config value = none) := by
  -- one case for each arm of the source
  unfold assignMode
  split
  · exact .inl ⟨.observe, rfl, rfl⟩
  · exact .inl ⟨.unlockHdrMenu, rfl, rfl⟩
  · exact .inl ⟨.emulateHdrFullscreenState, rfl, rfl⟩
  · exact .inl ⟨.emulateHdrAndSetPq, rfl, rfl⟩
  · exact .inl ⟨.windowedHdr, rfl, rfl⟩
  · exact .inr (.inl ⟨rfl, rfl⟩)
  · next hobserve hunlock hfullscreen hpq hwindowed hretired =>
    -- the last arm is reached by values that none of the others takes
    refine .inr (.inr ⟨?_, rfl⟩)
    rintro mode (hvalue | ⟨hvalue, -⟩)
    · cases mode with
      | observe => exact hobserve hvalue
      | unlockHdrMenu => exact hunlock hvalue
      | emulateHdrFullscreenState => exact hfullscreen hvalue
      | emulateHdrAndSetPq => exact hpq hvalue
      | windowedHdr => exact hwindowed hvalue
    · exact hretired hvalue

end Config
end WindowedHdr
