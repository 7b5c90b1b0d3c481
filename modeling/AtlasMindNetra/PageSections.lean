import AtlasMindNetra.HtmlExtractor
import Mathlib.Algebra.GroupWithZero.Nat
import Mathlib.Data.List.Induction

/-!
# Sections of a page of headings

A page is written as headings with text between them. The patterns of the
extractor end a tag at its first `>`, also at one in an attribute value or a
comment, and a heading at the first closing tag behind that; so a heading
element can be read as another one, or as several. Sections under one heading
overwrite each other, so what a target heading gets is the last of them.
-/

namespace AtlasMindNetra.HtmlExtractor

open AtlasMindNetra.PythonValues AtlasMindNetra.ScanRules

set_option autoImplicit false

theorem after_bracket_left
    (text rest : List Char)
    (found : afterBracket text = some rest) : '>' :: rest <:+ text := by
  unfold afterBracket at found
  have kept := List.dropWhile_suffix (· ≠ '>') (l := text)
  have stopped := List.head?_dropWhile_not (· ≠ '>') text
  cases dropped : text.dropWhile (· ≠ '>') with
  | nil =>
      rw [dropped] at found
      cases found
  | cons bracket later =>
      rw [dropped] at found kept stopped
      cases found
      have isBracket : bracket = '>' := by simpa using stopped
      rw [← isBracket]
      exact kept

theorem after_bracket_written
    (text rest : List Char)
    (closed : '>' ∉ text) : afterBracket (text ++ '>' :: rest) = some rest := by
  unfold afterBracket
  rw [List.dropWhile_append_of_pos]
  · rfl
  · intro char member
    rw [decide_eq_true_eq]
    exact fun same => closed (same ▸ member)

theorem after_bracket_append
    (text more : List Char)
    (shown : '>' ∈ text) :
    ∃ rest, afterBracket text = some rest ∧ afterBracket (text ++ more) = some (rest ++ more) := by
  obtain ⟨before, after, parts, closed⟩ := List.eq_append_cons_of_mem shown
  rw [parts]
  refine ⟨after, after_bracket_written before after closed, ?_⟩
  rw [List.append_assoc]
  exact after_bracket_written before (after ++ more) closed

theorem heading_open_left
    (text rest : List Char)
    (found : headingOpen text = some rest) : '>' :: rest <:+ text := by
  unfold headingOpen at found
  split at found
  · rename_i letter level later
    split_ifs at found
    exact (after_bracket_left later rest found).trans ⟨['<', letter, level], rfl⟩
  · cases found

theorem heading_close_left
    (text rest : List Char)
    (found : headingClose text = some rest) : '>' :: rest <:+ text := by
  unfold headingClose at found
  split at found
  · rename_i letter level later
    split_ifs at found
    cases found
    exact ⟨['<', '/', letter, level], rfl⟩
  · cases found

theorem until_close_left
    (text inner rest : List Char)
    (found : untilClose text = some (inner, rest)) : '>' :: rest <:+ text := by
  induction text generalizing inner with
  | nil => cases found
  | cons char later ih =>
      unfold untilClose at found
      split at found
      · rename_i after closed
        cases found
        exact heading_close_left _ _ closed
      · obtain ⟨⟨before, after⟩, inLater, same⟩ := Option.map_eq_some_iff.mp found
        cases same
        exact (ih before inLater).trans (List.suffix_cons char later)

theorem heading_here_left
    (text inner rest : List Char)
    (found : headingHere text = some (inner, rest)) : '>' :: rest <:+ text := by
  unfold headingHere at found
  obtain ⟨opened, start, closed⟩ := Option.bind_eq_some_iff.mp found
  exact (until_close_left opened inner rest closed).trans
    ((List.suffix_cons '>' opened).trans (heading_open_left text opened start))

theorem heading_here_shorter
    (text inner rest : List Char)
    (found : headingHere text = some (inner, rest)) : rest.length < text.length :=
  (heading_here_left text inner rest found).length_le

theorem heading_here_leaves
    (text inner rest : List Char)
    (found : headingHere text = some (inner, rest)) : rest <:+ text :=
  (List.suffix_cons '>' rest).trans (heading_here_left text inner rest found)

theorem tag_here_shorter
    (text : List Char)
    (found : Unit)
    (rest : List Char)
    (matched : tagHere text = some (found, rest)) : rest.length < text.length := by
  unfold tagHere at matched
  split at matched
  · split_ifs at matched
    obtain ⟨after, inText, same⟩ := Option.map_eq_some_iff.mp matched
    cases same
    have shorter := (after_bracket_left _ _ inText).length_le
    rw [List.length_cons] at shorter ⊢
    omega
  · cases matched

theorem tag_here_other
    (symbol : Char)
    (rest : List Char)
    (other : symbol ≠ '<') : tagHere (symbol :: rest) = none := by
  unfold tagHere
  split
  · rename_i same
    exact absurd (List.cons.inj same).1 other
  · rfl

/-- Text or markup inside a heading: a tag, with what its attribute values may
hold, or a comment. -/
inductive HeadingPiece where
  | text (chars : List Char) (plain : '<' ∉ chars)
  | markup (chars : List Char)

namespace HeadingPiece

def written : HeadingPiece → List Char
  | text chars _ => chars
  | markup chars => '<' :: (chars ++ ['>'])

def shown : HeadingPiece → List Char
  | text chars _ => chars
  | markup _ => []

/-- A tag that ends at its first bracket. -/
def Quiet : HeadingPiece → Prop
  | text _ _ => True
  | markup chars => chars ≠ [] ∧ '>' ∉ chars

end HeadingPiece

def closingTag (letter level : Char) : List Char := ['<', '/', letter, level, '>']

def ClosesNothing (text : List Char) : Prop :=
  ∀ letter level, isHeadingLetter letter = true → isHeadingLevel level = true →
    ¬ closingTag letter level <:+: text

def OpensNothing (text : List Char) : Prop :=
  ∀ letter level, isHeadingLetter letter = true → isHeadingLevel level = true →
    ¬ ['<', letter, level] <:+: text

/-- A heading element. -/
structure PageHeading where
  openLetter : Char
  closeLetter : Char
  level : Char
  attributes : List Char
  pieces : List HeadingPiece
  opens : isHeadingLetter openLetter = true
  closes : isHeadingLetter closeLetter = true
  leveled : isHeadingLevel level = true

namespace PageHeading

def inner (heading : PageHeading) : List Char := heading.pieces.flatMap HeadingPiece.written

def beforeClose (heading : PageHeading) : List Char :=
  ['<', heading.openLetter, heading.level] ++ heading.attributes ++ ['>'] ++ heading.inner

def written (heading : PageHeading) : List Char :=
  heading.beforeClose ++ closingTag heading.closeLetter heading.level

def text (tables : HtmlTables) (heading : PageHeading) : String :=
  tables.strip (String.ofList (heading.pieces.flatMap HeadingPiece.shown))

/-- The element as it is read without regard to attribute values and comments:
what each heading contains and what is left behind it. -/
def readings (heading : PageHeading) : List (List Char × List Char) :=
  (split headingHere heading.written).2

/-- No tag holds a bracket, and only the last one closes a heading. -/
structure Quiet (heading : PageHeading) : Prop where
  attributes : '>' ∉ heading.attributes
  pieces : ∀ piece ∈ heading.pieces, piece.Quiet
  inside : ClosesNothing heading.inner

end PageHeading

theorem tags_removed
    (pieces : List HeadingPiece)
    (quiet : ∀ piece ∈ pieces, piece.Quiet) :
    remove tagHere (pieces.flatMap HeadingPiece.written) =
      pieces.flatMap HeadingPiece.shown := by
  induction pieces with
  | nil => rfl
  | cons piece rest ih =>
      rw [List.forall_mem_cons] at quiet
      have later := ih quiet.2
      rw [List.flatMap_cons, List.flatMap_cons]
      cases piece with
      | text chars plain =>
          have passes (following : List Char) : Passes tagHere chars following := by
            intro before symbol after same
            have notOpen : symbol ≠ '<' := by
              rintro rfl
              exact plain (same ▸ List.mem_append_right _ List.mem_cons_self)
            exact tag_here_other symbol _ notOpen
          rw [HeadingPiece.written, HeadingPiece.shown, remove_plain tagHere chars _ (passes _),
            later]
      | markup chars =>
          obtain ⟨nonempty, closed⟩ := quiet.1
          have matched : tagHere (HeadingPiece.written (.markup chars) ++
              rest.flatMap HeadingPiece.written) =
                some ((), rest.flatMap HeadingPiece.written) := by
            cases chars with
            | nil => exact absurd rfl nonempty
            | cons first others =>
                have notClosed : first ≠ '>' := fun same => closed (same ▸ List.mem_cons_self)
                have after := after_bracket_written (first :: others)
                  (rest.flatMap HeadingPiece.written) closed
                change (if first = '>' then none else (afterBracket (first ::
                  (others ++ ['>'] ++ rest.flatMap HeadingPiece.written))).map _) = _
                rw [if_neg notClosed, List.append_assoc]
                exact congrArg (Option.map _) after
          rw [remove_found tagHere tag_here_shorter _ () _ matched, later]
          rfl

theorem letter_not_bracket
    (letter : Char)
    (isLetter : isHeadingLetter letter = true) : '<' ≠ letter := by
  rintro rfl
  cases isLetter

theorem level_not_bracket
    (level : Char)
    (isLevel : isHeadingLevel level = true) : '<' ≠ level := by
  rintro rfl
  cases isLevel

theorem heading_close_some
    (text rest : List Char)
    (found : headingClose text = some rest) :
    ∃ letter level, isHeadingLetter letter = true ∧ isHeadingLevel level = true ∧
      text = closingTag letter level ++ rest := by
  unfold headingClose at found
  split at found
  · rename_i letter level later
    split_ifs at found with both
    cases found
    rw [Bool.and_eq_true] at both
    exact ⟨letter, level, both.1, both.2, rfl⟩
  · cases found

theorem heading_open_some
    (text rest : List Char)
    (found : headingOpen text = some rest) :
    ∃ letter level later, isHeadingLetter letter = true ∧ isHeadingLevel level = true ∧
      text = ['<', letter, level] ++ later := by
  unfold headingOpen at found
  split at found
  · rename_i letter level later
    split_ifs at found with both
    rw [Bool.and_eq_true] at both
    exact ⟨letter, level, later, both.1, both.2, rfl⟩
  · cases found

theorem heading_open_other
    (symbol : Char)
    (rest : List Char)
    (other : symbol ≠ '<') : headingOpen (symbol :: rest) = none := by
  unfold headingOpen
  split
  · rename_i same
    exact absurd (List.cons.inj same).1 other
  · rfl

theorem heading_open_append
    (text more : List Char)
    (shown : '>' ∈ text) :
    headingOpen (text ++ more) = (headingOpen text).map (· ++ more) := by
  cases text with
  | nil => cases shown
  | cons first later =>
      by_cases opens : first = '<'
      · subst opens
        cases later with
        | nil => cases List.mem_singleton.mp shown
        | cons letter later =>
            cases later with
            | nil =>
                cases List.mem_cons.mp (List.mem_of_ne_of_mem (by decide) shown) with
                | inl same =>
                    rw [← same]
                    cases more with
                    | nil => rfl
                    | cons level rest => rfl
                | inr none => cases none
            | cons level rest =>
                change (if isHeadingLetter letter && isHeadingLevel level then
                    afterBracket (rest ++ more) else none) =
                  (if isHeadingLetter letter && isHeadingLevel level then
                    afterBracket rest else none).map (· ++ more)
                split_ifs with both
                · rw [Bool.and_eq_true] at both
                  have notLetter : '>' ≠ letter := by
                    rintro rfl
                    cases both.1
                  have notLevel : '>' ≠ level := by
                    rintro rfl
                    cases both.2
                  have inRest : '>' ∈ rest := List.mem_of_ne_of_mem notLevel
                    (List.mem_of_ne_of_mem notLetter (List.mem_of_ne_of_mem (by decide) shown))
                  obtain ⟨left, found, foundMore⟩ := after_bracket_append rest more inRest
                  rw [found, foundMore, Option.map_some]
                · rfl
      · rw [List.cons_append, heading_open_other first _ opens, heading_open_other first _ opens,
          Option.map_none]

section Closing

variable (letter level : Char)
variable (isLetter : isHeadingLetter letter = true) (isLevel : isHeadingLevel level = true)

include isLetter isLevel

theorem heading_close_closing
    (rest : List Char) : headingClose (closingTag letter level ++ rest) = some rest := by
  change (if isHeadingLetter letter && isHeadingLevel level then some rest else none) = _
  rw [isLetter, isLevel]
  rfl

theorem until_close_written
    (inner rest : List Char)
    (inside : ClosesNothing inner) :
    untilClose (inner ++ (closingTag letter level ++ rest)) = some (inner, rest) := by
  induction inner with
  | nil =>
      have closed := heading_close_closing letter level isLetter isLevel rest
      have opened : closingTag letter level ++ rest =
          '<' :: '/' :: letter :: level :: '>' :: rest := rfl
      rw [opened] at closed
      rw [List.nil_append, opened, untilClose, closed]
  | cons char later ih =>
      have insideLater : ClosesNothing later := fun letter level isLetter isLevel inLater =>
        inside letter level isLetter isLevel (inLater.trans (List.suffix_cons char later).isInfix)
      have open_ : headingClose (char :: later ++ (closingTag letter level ++ rest)) = none := by
        cases closed : headingClose (char :: later ++ (closingTag letter level ++ rest)) with
        | none => rfl
        | some after =>
            rcases heading_close_some _ after closed with ⟨other, step, isOther, isStep, same⟩
            have quiet : '<' ∉ ['/', other, step, '>'] := by
              simp [letter_not_bracket other isOther, level_not_bracket step isStep]
            have within := word_ends_within '<' ['/', other, step, '>'] (char :: later) _ after
              quiet (Or.inr ⟨_, rfl⟩) (List.cons_ne_nil _ _) same
            exact absurd within.isInfix (inside other step isOther isStep)
      rw [List.cons_append] at open_ ⊢
      unfold untilClose
      rw [open_, ih insideLater]
      rfl

end Closing

theorem heading_close_append
    (text more : List Char)
    (long : 5 ≤ text.length) :
    headingClose (text ++ more) = (headingClose text).map (· ++ more) := by
  cases closed : headingClose text with
  | some left =>
      obtain ⟨letter, level, isLetter, isLevel, same⟩ := heading_close_some text left closed
      rw [same, List.append_assoc]
      exact heading_close_closing letter level isLetter isLevel (left ++ more)
  | none =>
      cases spilled : headingClose (text ++ more) with
      | none => rfl
      | some left =>
          obtain ⟨letter, level, isLetter, isLevel, same⟩ := heading_close_some _ left spilled
          have starts : closingTag letter level <+: text :=
            List.prefix_of_prefix_length_le ⟨left, same.symm⟩ (List.prefix_append text more) long
          obtain ⟨rest, within⟩ := starts
          rw [← within, heading_close_closing letter level isLetter isLevel] at closed
          cases closed

theorem until_close_here
    (char : Char)
    (rest after : List Char)
    (closed : headingClose (char :: rest) = some after) :
    untilClose (char :: rest) = some ([], after) := by
  rw [untilClose, closed]

theorem until_close_later
    (char : Char)
    (rest : List Char)
    (none : headingClose (char :: rest) = none) :
    untilClose (char :: rest) = (untilClose rest).map fun found => (char :: found.1, found.2) := by
  rw [untilClose, none]

theorem until_close_append
    (letter level : Char)
    (isLetter : isHeadingLetter letter = true)
    (isLevel : isHeadingLevel level = true)
    (text rest : List Char) :
    ∃ inner left, untilClose (text ++ closingTag letter level) = some (inner, left) ∧
      untilClose (text ++ (closingTag letter level ++ rest)) = some (inner, left ++ rest) := by
  induction text with
  | nil =>
      have none : ClosesNothing [] := by
        intro other step _ _ within
        have long := within.length_le
        simp [closingTag] at long
      have alone := until_close_written letter level isLetter isLevel [] [] none
      have followed := until_close_written letter level isLetter isLevel [] rest none
      rw [List.append_nil] at alone
      exact ⟨[], [], alone, followed⟩
  | cons char later ih =>
      obtain ⟨inner, left, inLater, followed⟩ := ih
      have extended := heading_close_append (char :: (later ++ closingTag letter level)) rest
        (by simp [closingTag])
      rw [List.cons_append, List.append_assoc] at extended
      cases closed : headingClose (char :: (later ++ closingTag letter level)) with
      | none =>
          rw [closed, Option.map_none] at extended
          refine ⟨char :: inner, left, ?_, ?_⟩
          · rw [List.cons_append, until_close_later char _ closed, inLater, Option.map_some]
          · rw [List.cons_append, until_close_later char _ extended, followed, Option.map_some]
      | some after =>
          rw [closed, Option.map_some] at extended
          exact ⟨[], after, until_close_here char _ _ closed, until_close_here char _ _ extended⟩

def ClosesEach (text : List Char) : Prop :=
  ∀ rest, '<' :: rest <:+ text → '>' ∈ rest

theorem closes_each_append
    (first second : List Char)
    (ends : '<' ∉ first ∨ first.getLast? = some '>')
    (closes : ClosesEach second) : ClosesEach (first ++ second) := by
  intro rest suffix
  cases List.suffix_or_suffix_of_suffix suffix (List.suffix_append first second) with
  | inl inSecond => exact closes rest inSecond
  | inr within =>
      obtain ⟨start, parts⟩ := within
      cases start with
      | nil => exact closes rest ⟨[], parts.symm⟩
      | cons symbol start =>
          have same := (List.cons.inj parts).1
          subst same
          have inFirst : '<' :: start <:+ first := by
            obtain ⟨before, whole⟩ := suffix
            rw [← parts, ← List.append_assoc, List.append_cancel_right_eq] at whole
            exact ⟨before, whole⟩
          cases ends with
          | inl plain => exact absurd (inFirst.subset List.mem_cons_self) plain
          | inr last =>
              rw [← (List.cons.inj parts).2]
              apply List.mem_append_left
              obtain ⟨before, whole⟩ := inFirst
              rw [← whole, List.getLast?_append_of_ne_nil _ (List.cons_ne_nil _ _)] at last
              cases start with
              | nil => cases last
              | cons next start =>
                  rw [List.getLast?_cons_cons] at last
                  exact List.mem_of_getLast? last

theorem before_close_closes_each
    (heading : PageHeading) : ClosesEach heading.beforeClose := by
  have inner : ClosesEach heading.inner := by
    unfold PageHeading.inner
    induction heading.pieces with
    | nil => exact fun rest suffix => absurd suffix.length_le (by simp)
    | cons piece rest ih =>
        rw [List.flatMap_cons]
        apply closes_each_append _ _ _ ih
        cases piece with
        | text chars plain => exact .inl plain
        | markup chars =>
            right
            rw [HeadingPiece.written, ← List.cons_append, List.getLast?_append_of_ne_nil _
              (List.cons_ne_nil _ _)]
            rfl
  apply closes_each_append _ _ _ inner
  right
  rw [List.getLast?_append_of_ne_nil _ (List.cons_ne_nil _ _)]
  rfl

theorem closing_suffix_opens_nothing
    (heading : PageHeading)
    (symbol : Char)
    (start rest : List Char)
    (suffix : symbol :: start <:+ closingTag heading.closeLetter heading.level) :
    headingOpen (symbol :: start ++ rest) = none := by
  rw [closingTag, List.suffix_cons_iff] at suffix
  cases suffix with
  | inl whole =>
      rw [whole]
      rfl
  | inr inTail =>
      apply heading_open_other
      rintro rfl
      have shown := inTail.subset List.mem_cons_self
      simp [letter_not_bracket _ heading.closes, level_not_bracket _ heading.leveled] at shown

theorem heading_contained
    (heading : PageHeading) : Contained headingHere heading.written := by
  intro start suffix nonempty rest
  obtain ⟨symbol, later, rfl⟩ := List.exists_cons_of_ne_nil nonempty
  have missed (none : ∀ more, headingOpen (symbol :: later ++ more) = none) :
      headingHere (symbol :: later ++ rest) =
        (headingHere (symbol :: later)).map fun matched => (matched.1, matched.2 ++ rest) := by
    have alone := none []
    rw [List.append_nil] at alone
    rw [headingHere, headingHere, none rest, alone]
    rfl
  cases List.suffix_or_suffix_of_suffix suffix
      (List.suffix_append heading.beforeClose (closingTag heading.closeLetter heading.level)) with
  | inl inClosing =>
      exact missed fun more => closing_suffix_opens_nothing heading symbol later more inClosing
  | inr around =>
      obtain ⟨before, parts⟩ := around
      cases before with
      | nil =>
          exact missed fun more => closing_suffix_opens_nothing heading symbol later more
            ⟨[], parts.symm⟩
      | cons head before =>
          by_cases opens : symbol = '<'
          · have same := (List.cons.inj parts).1
            subst same opens
            have inBefore : '<' :: before <:+ heading.beforeClose := by
              obtain ⟨passed, whole⟩ := suffix
              rw [← parts, PageHeading.written, ← List.append_assoc,
                List.append_cancel_right_eq] at whole
              exact ⟨passed, whole⟩
            have shown : '>' ∈ '<' :: before :=
              List.mem_cons_of_mem _ (before_close_closes_each heading before inBefore)
            rw [← parts, List.append_assoc, headingHere, headingHere,
              heading_open_append _ _ shown, heading_open_append _ _ shown]
            cases headingOpen ('<' :: before) with
            | none => rfl
            | some opened =>
                obtain ⟨inner, left, alone, followed⟩ := until_close_append heading.closeLetter
                  heading.level heading.closes heading.leveled opened rest
                simp only [Option.map_some, Option.bind_some, alone, followed]
          · exact missed fun more => heading_open_other symbol _ opens

theorem heading_open_before_close
    (heading : PageHeading)
    (more : List Char) :
    ∃ opened, headingOpen (heading.beforeClose ++ more) = some (opened ++ more) := by
  have written : heading.beforeClose ++ more = '<' :: heading.openLetter :: heading.level ::
      (heading.attributes ++ '>' :: heading.inner ++ more) := by
    simp [PageHeading.beforeClose]
  obtain ⟨opened, _, found⟩ := after_bracket_append (heading.attributes ++ '>' :: heading.inner)
    more (List.mem_append_right _ List.mem_cons_self)
  refine ⟨opened, ?_⟩
  rw [written]
  change (if isHeadingLetter heading.openLetter && isHeadingLevel heading.level then
    afterBracket _ else none) = _
  rw [heading.opens, heading.leveled]
  exact found

theorem readings_split
    (heading : PageHeading) :
    split headingHere heading.written = ([], heading.readings) ∧ heading.readings ≠ [] := by
  obtain ⟨opened, found⟩ := heading_open_before_close heading
    (closingTag heading.closeLetter heading.level)
  obtain ⟨inner, left, closed, _⟩ := until_close_append heading.closeLetter heading.level
    heading.closes heading.leveled opened []
  have matched : headingHere heading.written = some (inner, left) := by
    rw [headingHere, PageHeading.written, found]
    exact closed
  have parts := split_found headingHere heading_here_shorter heading.written inner left matched
  unfold PageHeading.readings
  rw [parts]
  exact ⟨rfl, List.cons_ne_nil _ _⟩

theorem quiet_readings
    (heading : PageHeading)
    (quiet : heading.Quiet) : heading.readings = [(heading.inner, [])] := by
  have written : heading.written = '<' :: heading.openLetter :: heading.level ::
      (heading.attributes ++ '>' :: (heading.inner ++
        closingTag heading.closeLetter heading.level)) := by
    simp [PageHeading.written, PageHeading.beforeClose]
  have opened : headingOpen heading.written =
      some (heading.inner ++ closingTag heading.closeLetter heading.level) := by
    rw [written]
    change (if isHeadingLetter heading.openLetter && isHeadingLevel heading.level then
      afterBracket _ else none) = _
    rw [heading.opens, heading.leveled]
    exact after_bracket_written _ _ quiet.attributes
  have closed := until_close_written heading.closeLetter heading.level heading.closes
    heading.leveled heading.inner [] quiet.inside
  rw [List.append_nil] at closed
  have matched : headingHere heading.written = some (heading.inner, []) := by
    rw [headingHere, opened]
    exact closed
  unfold PageHeading.readings
  rw [split_found headingHere heading_here_shorter heading.written _ _ matched]
  rfl

theorem plain_text_passes
    (text following : List Char)
    (plain : OpensNothing text)
    (startsAnew : following = [] ∨ ∃ more, following = '<' :: more) :
    Passes headingHere text following := by
  intro before symbol after same
  cases opened : headingOpen (symbol :: (after ++ following)) with
  | none => rw [headingHere, opened, Option.bind_none]
  | some later =>
      rcases heading_open_some _ later opened with ⟨letter, level, rest, isLetter, isLevel, starts⟩
      have quiet : '<' ∉ [letter, level] := by
        simp [letter_not_bracket letter isLetter, level_not_bracket level isLevel]
      have within := word_ends_within '<' [letter, level] (symbol :: after) following rest quiet
        startsAnew (List.cons_ne_nil _ _) starts
      have inText : ['<', letter, level] <:+: text :=
        within.isInfix.trans ⟨before, [], by rw [same, List.append_nil]⟩
      exact absurd inText (plain letter level isLetter isLevel)

/-- A page as text without headings, and sections of a heading with such a text. -/
structure Page where
  preamble : List Char
  sections : List (PageHeading × List Char)
  preamblePlain : OpensNothing preamble
  bodiesPlain : ∀ part ∈ sections, OpensNothing part.2

def Page.html (page : Page) : String :=
  String.ofList (page.preamble ++ page.sections.flatMap fun part => part.1.written ++ part.2)

/-- A section as it is read: what is left of its heading belongs to its body. -/
def sectionsRead (part : PageHeading × List Char) : List (List Char × List Char) :=
  behind part.2 part.1.readings

theorem page_split
    (page : Page) :
    headingSections page.html = page.sections.flatMap sectionsRead := by
  have startsAnew (parts : List (PageHeading × List Char)) :
      (parts.flatMap fun part => part.1.written ++ part.2) = [] ∨
        ∃ more, (parts.flatMap fun part => part.1.written ++ part.2) = '<' :: more := by
    cases parts with
    | nil => exact Or.inl rfl
    | cons part rest => exact Or.inr ⟨_, rfl⟩
  have sections (parts : List (PageHeading × List Char))
      (plain : ∀ part ∈ parts, OpensNothing part.2) :
      split headingHere (parts.flatMap fun part => part.1.written ++ part.2) =
        ([], parts.flatMap sectionsRead) := by
    induction parts with
    | nil => rfl
    | cons part rest ih =>
        rw [List.forall_mem_cons] at plain
        obtain ⟨alone, some⟩ := readings_split part.1
        rw [List.flatMap_cons, List.append_assoc, split_contained headingHere heading_here_shorter
          heading_here_leaves _ _ (heading_contained part.1), alone, split_plain headingHere part.2 _
          (plain_text_passes part.2 _ plain.1 (startsAnew rest)), ih plain.2, joined,
          List.append_nil, List.flatMap_cons, sectionsRead]
        simp [some]
  unfold headingSections Page.html
  rw [String.toList_ofList, split_plain headingHere page.preamble _
    (plain_text_passes page.preamble _ page.preamblePlain (startsAnew page.sections)),
    sections page.sections page.bodiesPlain]

section Targets

variable (tables : HtmlTables) (page : Page) (targetHeadings : List String)

/-- The texts under the headings that equal the target ignoring case, in page order. -/
def textsUnder (target : String) : List String :=
  page.sections.filterMap fun part =>
    if tables.lower (part.1.text tables) = tables.lower target then
      some (stripHtml tables (String.ofList part.2))
    else none

def textsRead (target : String) : List String :=
  (page.sections.flatMap sectionsRead).filterMap fun reading =>
    if tables.lower (headingText tables reading.1) = tables.lower target then
      some (stripHtml tables (String.ofList reading.2))
    else none

theorem texts_read_quiet
    (quiet : ∀ part ∈ page.sections, part.1.Quiet)
    (target : String) : textsRead tables page target = textsUnder tables page target := by
  unfold textsRead textsUnder
  generalize page.sections = sections at quiet
  induction sections with
  | nil => rfl
  | cons part rest ih =>
      rw [List.forall_mem_cons] at quiet
      have reading : sectionsRead part = [(part.1.inner, part.2)] := by
        rw [sectionsRead, quiet_readings part.1 quiet.1]
        rfl
      have heading : headingText tables part.1.inner = part.1.text tables := by
        rw [headingText, PageHeading.inner, tags_removed _ quiet.1.pieces, PageHeading.text]
      rw [List.flatMap_cons, reading, List.singleton_append, List.filterMap_cons,
        List.filterMap_cons, ih quiet.2, heading]

variable (distinct : (targetHeadings.map tables.lower).Nodup)

include distinct

theorem target_lower_found
    (target : String)
    (member : target ∈ targetHeadings)
    (lowered : String) :
    (targetLower tables targetHeadings).get? lowered = some target ↔
      lowered = tables.lower target := by
  have filed : (targetLower tables targetHeadings).entries =
      targetHeadings.map fun heading => (tables.lower heading, heading) :=
    OrderedDict.entries_filed tables.lower id targetHeadings distinct
  rw [← OrderedDict.mem_entries_iff, filed, List.mem_map]
  constructor
  · rintro ⟨other, _, same⟩
    cases same
    rfl
  · rintro rfl
    exact ⟨target, member, rfl⟩

theorem found_under
    (target : String)
    (member : target ∈ targetHeadings) :
    ((foundSections tables page.html targetHeadings).filter fun found =>
      found.1 = target).map Prod.snd = textsRead tables page target := by
  unfold foundSections textsRead
  rw [page_split, List.filter_filterMap, List.map_filterMap]
  apply List.filterMap_congr
  intro reading _
  have found := target_lower_found tables targetHeadings distinct target member
    (tables.lower (headingText tables reading.1))
  cases filed : (targetLower tables targetHeadings).get?
      (tables.lower (headingText tables reading.1)) with
  | none =>
      rw [filed] at found
      have other : ¬ tables.lower (headingText tables reading.1) = tables.lower target := by
        intro same
        cases found.mpr same
      rw [if_neg other]
      rfl
  | some original =>
      rw [filed, Option.some_inj] at found
      by_cases isTarget : original = target
      · rw [if_pos (found.mp isTarget)]
        simp [isTarget]
      · rw [if_neg fun same => isTarget (found.mpr same)]
        simp [isTarget]

/-- The last of the texts read under a target heading is what it gets. -/
theorem extracted_last
    (maxChars : Int)
    (target : String)
    (member : target ∈ targetHeadings) :
    (extractSections tables page.html targetHeadings maxChars).get? target =
      (textsRead tables page target).getLast?.map (cutText maxChars) := by
  unfold extractSections
  rw [OrderedDict.get?_filed Prod.fst (fun found => cutText maxChars found.2),
    ← found_under tables page targetHeadings distinct target member, List.getLast?_map,
    Option.map_map]
  rfl

omit distinct in
theorem texts_under_nonempty_iff
    (target : String) :
    textsUnder tables page target ≠ [] ↔
      ∃ part ∈ page.sections, tables.lower (part.1.text tables) = tables.lower target := by
  unfold textsUnder
  rw [ne_eq, List.filterMap_eq_nil_iff]
  constructor
  · intro some
    by_contra none
    apply some
    intro part member
    exact if_neg fun same => none ⟨part, member, same⟩
  · rintro ⟨part, member, same⟩ none
    have missing := none part member
    rw [if_pos same] at missing
    cases missing

end Targets

def joinTexts (texts : List String) : String :=
  String.ofList (List.intercalate [' '] ((texts.filter fun text => text ≠ "").map String.toList))

section Kept

variable (tables : HtmlTables) (page : Page) (targetHeadings : List String)

/-- Each target has an entry when a heading equals it, and the entry shows the
texts of all sections under such a heading, as far as the limit allows. -/
structure SectionsKept (maxChars : Int) : Prop where
  entries : ∀ target ∈ targetHeadings,
    ((extractSections tables page.html targetHeadings maxChars).get? target).isSome = true ↔
      ∃ part ∈ page.sections, tables.lower (part.1.text tables) = tables.lower target
  texts : ∀ target ∈ targetHeadings, ∀ entry,
    (extractSections tables page.html targetHeadings maxChars).get? target = some entry →
      entry = cutText maxChars (joinTexts (textsUnder tables page target))

/-- Some section is read under a target when there is one, and the last of them
and all texts under the heading begin alike. -/
def ReadsShowAll (maxChars : Int) : Prop :=
  ∀ target ∈ targetHeadings,
    (textsRead tables page target ≠ [] ↔ textsUnder tables page target ≠ []) ∧
      ∀ last, (textsRead tables page target).getLast? = some last →
        cutText maxChars last = cutText maxChars (joinTexts (textsUnder tables page target))

/-- All texts under a heading and the last of them begin alike. -/
def LastShowsAll (maxChars : Int) : Prop :=
  ∀ target ∈ targetHeadings, ∀ last, (textsUnder tables page target).getLast? = some last →
    cutText maxChars last = cutText maxChars (joinTexts (textsUnder tables page target))

/-- No section with text is followed by another one under the same heading. -/
def OnlyLastHasText : Prop :=
  ∀ target ∈ targetHeadings, ∀ text ∈ (textsUnder tables page target).dropLast, text = ""

theorem flatten_sublist_intercalate
    (separator : List Char)
    (texts : List (List Char)) : texts.flatten.Sublist (List.intercalate separator texts) := by
  induction texts with
  | nil => exact List.Sublist.refl []
  | cons first rest ih =>
      cases rest with
      | nil => simp
      | cons second others =>
          rw [List.flatten_cons, List.intercalate_cons_cons, List.append_assoc]
          exact (ih.trans (List.sublist_append_right separator _)).append_left first

theorem join_length
    (texts : List String) : (texts.map String.length).sum ≤ (joinTexts texts).length := by
  have kept := (flatten_sublist_intercalate [' ']
    ((texts.filter fun text => text ≠ "").map String.toList)).length_le
  rw [List.length_flatten, List.map_map] at kept
  have filtered : ((texts.filter fun text => text ≠ "").map
      (List.length ∘ String.toList)).sum = (texts.map String.length).sum := by
    clear kept
    induction texts with
    | nil => rfl
    | cons text rest ih =>
        by_cases blank : text = ""
        · subst blank
          simpa using ih
        · rw [List.filter_cons_of_pos (by simpa using blank), List.map_cons, List.map_cons,
            List.sum_cons, List.sum_cons, ih]
          rfl
  rw [filtered] at kept
  unfold joinTexts
  rw [String.length_ofList]
  exact kept

theorem last_is_join_iff
    (earlier : List String)
    (last : String) :
    last = joinTexts (earlier ++ [last]) ↔ ∀ text ∈ earlier, text = "" := by
  constructor
  · intro same text member
    have length := join_length (earlier ++ [last])
    rw [← same, List.map_append, List.sum_append, List.map_singleton, List.sum_singleton] at length
    have none : (earlier.map String.length).sum = 0 := by omega
    rw [List.sum_eq_zero_iff_forall_eq_nat] at none
    exact String.length_eq_zero_iff.mp (none _ (List.mem_map_of_mem member))
  · intro blank
    have none : earlier.filter (fun text => text ≠ "") = [] := by
      rw [List.filter_eq_nil_iff]
      intro text member
      simp [blank text member]
    unfold joinTexts
    rw [List.filter_append, none, List.nil_append]
    by_cases empty : last = ""
    · subst empty
      rfl
    · rw [List.filter_cons_of_pos (by simpa using empty), List.filter_nil, List.map_singleton,
        List.intercalate_singleton, String.ofList_toList]

theorem texts_split
    (target last : String)
    (isLast : (textsUnder tables page target).getLast? = some last) :
    textsUnder tables page target = (textsUnder tables page target).dropLast ++ [last] := by
  rw [List.dropLast_append_getLast? last isLast]

/-- With every limit the last texts show all exactly when they are all there is. -/
theorem last_shows_all_iff :
    (∀ maxChars, LastShowsAll tables page targetHeadings maxChars) ↔
      OnlyLastHasText tables page targetHeadings := by
  constructor
  · intro shows target member
    cases isLast : (textsUnder tables page target).getLast? with
    | none =>
        rw [List.getLast?_eq_none_iff.mp isLast]
        exact fun text member => nomatch member
    | some last =>
        have parts := texts_split tables page target last isLast
        have same := shows (last.length + (joinTexts (textsUnder tables page target)).length) target
          member last isLast
        unfold cutText at same
        rw [slice_to_all _ _ (by rw [String.length_toList]; omega),
          slice_to_all _ _ (by rw [String.length_toList]; omega), String.ofList_toList,
          String.ofList_toList, parts] at same
        exact (last_is_join_iff _ last).mp same
  · intro only maxChars target member last isLast
    have same := (last_is_join_iff _ last).mpr (only target member)
    rw [← texts_split tables page target last isLast] at same
    rw [← same]

theorem quiet_reads_show_all_iff
    (quiet : ∀ part ∈ page.sections, part.1.Quiet)
    (maxChars : Int) :
    ReadsShowAll tables page targetHeadings maxChars ↔
      LastShowsAll tables page targetHeadings maxChars := by
  unfold ReadsShowAll LastShowsAll
  simp only [texts_read_quiet tables page quiet, true_and]

end Kept

def plainTables : HtmlTables where
  toTextTables := asciiTables
  strip := id
  dataPieces := fun text => if text = "" then [] else [text]

/-- `Risk` in an element with the attributes. -/
def riskHeading (attributes : List Char) : PageHeading where
  openLetter := 'h'
  closeLetter := 'h'
  level := '2'
  attributes := attributes
  pieces := [.text ['R', 'i', 's', 'k'] (by decide)]
  opens := rfl
  closes := rfl
  leveled := rfl

def riskPage (heading : PageHeading) (bodies : List Char) : Page where
  preamble := []
  sections := bodies.map fun body => (heading, [body])
  preamblePlain := fun _ _ _ _ within => absurd within.length_le (show ¬ 3 ≤ 0 by decide)
  bodiesPlain := by
    intro part member letter level _ _ within
    obtain ⟨body, _, rfl⟩ := List.mem_map.mp member
    exact absurd within.length_le (show ¬ 3 ≤ 1 by decide)

end AtlasMindNetra.HtmlExtractor
