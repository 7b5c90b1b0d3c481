import Mathlib.Data.List.Basic

/-!
# Quoted values in a text

A reader takes a literal to run from a quote to the next quote that no escape
precedes, and leaves the content as it stands. A writer that puts quotes around
values between fixed texts is read as it meant exactly when every value
encloses itself: each of its quotes follows an escape, and no escape is last.
-/

namespace AtlasMindNetra.QuotingRules

set_option autoImplicit false

universe u

variable {Symbol : Type u}

inductive Token (Symbol : Type u) where
  | symbol (symbol : Symbol)
  | literal (content : List Symbol)

/-- The text outside the literals, with a gap where each of them stands. -/
def outside (tokens : List (Token Symbol)) : List (Option Symbol) :=
  tokens.map fun token =>
    match token with
    | .symbol symbol => some symbol
    | .literal _ => none

def contents (tokens : List (Token Symbol)) : List (List Symbol) :=
  tokens.filterMap fun token =>
    match token with
    | .symbol _ => none
    | .literal content => some content

theorem tokens_ext
    (first second : List (Token Symbol))
    (sameOutside : outside first = outside second)
    (sameContents : contents first = contents second) : first = second := by
  induction first generalizing second with
  | nil =>
      cases second with
      | nil => rfl
      | cons token rest => cases sameOutside
  | cons token rest ih =>
      cases second with
      | nil => cases sameOutside
      | cons other others =>
          rw [outside, outside, List.map_cons, List.map_cons] at sameOutside
          have tail := (List.cons.inj sameOutside).2
          cases token with
          | symbol symbol =>
              cases other with
              | symbol different =>
                  cases (List.cons.inj sameOutside).1
                  rw [ih others tail sameContents]
              | literal content => cases (List.cons.inj sameOutside).1
          | literal content =>
              cases other with
              | symbol different => cases (List.cons.inj sameOutside).1
              | literal different =>
                  have pair := List.cons.inj sameContents
                  rw [pair.1, ih others tail pair.2]

/-- What a writer means: fixed text, or a value in quotes. -/
inductive Piece (Symbol : Type u) where
  | text (symbols : List Symbol)
  | value (symbols : List Symbol)

def meant (pieces : List (Piece Symbol)) : List (Token Symbol) :=
  pieces.flatMap fun piece =>
    match piece with
    | .text symbols => symbols.map Token.symbol
    | .value symbols => [.literal symbols]

def listed (separator : List Symbol) : List (List Symbol) → List (Piece Symbol)
  | [] => []
  | [value] => [.value value]
  | value :: next :: rest => .value value :: .text separator :: listed separator (next :: rest)

theorem meant_append (first second : List (Piece Symbol)) :
    meant (first ++ second) = meant first ++ meant second :=
  List.flatMap_append

theorem outside_append (first second : List (Token Symbol)) :
    outside (first ++ second) = outside first ++ outside second :=
  List.map_append

theorem contents_append (first second : List (Token Symbol)) :
    contents (first ++ second) = contents first ++ contents second :=
  List.filterMap_append

theorem contents_symbols (symbols : List Symbol) : contents (symbols.map Token.symbol) = [] := by
  induction symbols with
  | nil => rfl
  | cons symbol rest ih => exact ih

theorem first_literal
    (before other : List (Token Symbol))
    (content otherContent : List Symbol)
    (behind otherBehind : List (Token Symbol))
    (none : contents before = [])
    (noOther : contents other = [])
    (same : before ++ .literal content :: behind = other ++ .literal otherContent :: otherBehind) :
    before = other ∧ content = otherContent ∧ behind = otherBehind := by
  induction before generalizing other with
  | nil =>
      cases other with
      | nil =>
          cases same
          exact ⟨rfl, rfl, rfl⟩
      | cons token rest =>
          cases (List.cons.inj same).1
          cases noOther
  | cons token rest ih =>
      cases token with
      | literal inBefore => cases none
      | symbol symbol =>
          cases other with
          | nil => cases (List.cons.inj same).1
          | cons otherToken otherRest =>
              cases (List.cons.inj same).1
              have tail := ih otherRest none noOther (List.cons.inj same).2
              exact ⟨congrArg _ tail.1, tail.2⟩

/-- What holds its first literal behind a fixed text has both in the first part,
or the literal in the second. -/
theorem literal_in_part
    (first second before behind : List (Token Symbol))
    (content : List Symbol)
    (same : before ++ .literal content :: behind = first ++ second) :
    (∃ rest, first = before ++ rest) ∨ content ∈ contents second := by
  cases List.append_eq_append_iff.mp same with
  | inl inFirst =>
      obtain ⟨rest, parts, _⟩ := inFirst
      exact .inl ⟨rest, parts⟩
  | inr inSecond =>
      obtain ⟨rest, _, parts⟩ := inSecond
      right
      rw [parts, contents_append]
      exact List.mem_append_right _ List.mem_cons_self

theorem split_at_literal
    (tokens : List (Token Symbol))
    (content : List Symbol)
    (only : contents tokens = [content]) :
    ∃ before behind, tokens = before ++ .literal content :: behind ∧
      contents before = [] ∧ contents behind = [] := by
  induction tokens with
  | nil => cases only
  | cons token rest ih =>
      cases token with
      | symbol symbol =>
          obtain ⟨before, behind, parts, none⟩ := ih only
          exact ⟨.symbol symbol :: before, behind, congrArg _ parts, none⟩
      | literal other =>
          have pair := List.cons.inj only
          exact ⟨[], rest, by rw [pair.1, List.nil_append], rfl, pair.2⟩

/-- A literal with no more literals behind it than the second of a reading has,
and with more fixed text before it than stands there, is the first. -/
theorem is_first_literal
    (opening between later front fixed behind : List (Token Symbol))
    (first second content : List Symbol)
    (noOpening : contents opening = [])
    (noBetween : contents between = [])
    (noFixed : contents fixed = [])
    (longer : between.length < fixed.length)
    (fewer : (contents later).length ≤ (contents behind).length)
    (same : front ++ fixed ++ .literal content :: behind =
      opening ++ .literal first :: (between ++ .literal second :: later)) : content = first := by
  have counted : (contents front).length + ((contents behind).length + 1) =
      (contents later).length + 1 + 1 := by
    have sizes := congrArg (fun tokens => (contents tokens).length) same
    simp only [contents_append, noOpening, noFixed, List.append_nil, List.nil_append,
      List.length_append] at sizes
    change _ + ((contents behind).length + 1) =
      (contents (between ++ .literal second :: later)).length + 1 at sizes
    rw [contents_append, noBetween, List.nil_append] at sizes
    exact sizes
  cases inFront : contents front with
  | nil =>
      have none : contents (front ++ fixed) = [] := by
        rw [contents_append, inFront, noFixed, List.append_nil]
      exact (first_literal _ _ _ _ _ _ none noOpening same).2.1
  | cons only others =>
      have alone : others = [] := by
        rw [inFront, List.length_cons] at counted
        exact List.length_eq_zero_iff.mp (by omega)
      rw [alone] at inFront
      obtain ⟨before, after, parts, noBefore, noAfter⟩ := split_at_literal front only inFront
      rw [parts, List.append_assoc, List.append_assoc, List.cons_append] at same
      have tail := (first_literal _ _ _ _ _ _ noBefore noOpening same).2.2
      rw [← List.append_assoc] at tail
      have none : contents (after ++ fixed) = [] := by
        rw [contents_append, noAfter, noFixed, List.append_nil]
      have fits := congrArg List.length (first_literal _ _ _ _ _ _ none noBetween tail).1
      rw [List.length_append] at fits
      omega

theorem mem_listed
    (separator : List Symbol)
    (values : List (List Symbol))
    (piece : Piece Symbol)
    (member : piece ∈ listed separator values) :
    piece = .text separator ∨ ∃ value ∈ values, piece = .value value := by
  induction values with
  | nil => cases member
  | cons value rest ih =>
      cases rest with
      | nil =>
          rw [listed, List.mem_singleton] at member
          exact Or.inr ⟨value, List.mem_cons_self, member⟩
      | cons next later =>
          rw [listed, List.mem_cons, List.mem_cons] at member
          rcases member with here | between | inRest
          · exact Or.inr ⟨value, List.mem_cons_self, here⟩
          · exact Or.inl between
          · rcases ih inRest with between | ⟨other, listed, same⟩
            · exact Or.inl between
            · exact Or.inr ⟨other, List.mem_cons_of_mem value listed, same⟩

theorem value_mem_listed
    (separator : List Symbol)
    (values : List (List Symbol))
    (value : List Symbol)
    (member : value ∈ values) : Piece.value value ∈ listed separator values := by
  induction values with
  | nil => cases member
  | cons head rest ih =>
      cases rest with
      | nil =>
          cases List.mem_singleton.mp member
          exact List.mem_singleton_self _
      | cons next later =>
          rw [listed, List.mem_cons, List.mem_cons]
          rcases List.mem_cons.mp member with rfl | inRest
          · exact Or.inl rfl
          · exact Or.inr (Or.inr (ih inRest))

theorem contents_listed (separator : List Symbol) (values : List (List Symbol)) :
    contents (meant (listed separator values)) = values := by
  induction values with
  | nil => rfl
  | cons first rest ih =>
      cases rest with
      | nil => rfl
      | cons next later =>
          change first :: contents (separator.map Token.symbol ++ meant _) = _
          rw [contents_append, contents_symbols, List.nil_append, ih]

theorem meant_listed_head
    (separator value : List Symbol)
    (values : List (List Symbol)) :
    ∃ later, meant (listed separator (value :: values)) = .literal value :: later ∧
      contents later = values := by
  have read := contents_listed separator (value :: values)
  cases values with
  | nil => exact ⟨[], rfl, rfl⟩
  | cons next others => exact ⟨_, rfl, (List.cons.inj read).2⟩

theorem outside_listed
    (separator : List Symbol)
    (first second : List (List Symbol))
    (sameLength : first.length = second.length) :
    outside (meant (listed separator first)) = outside (meant (listed separator second)) := by
  induction first generalizing second with
  | nil => rw [List.length_eq_zero_iff.mp sameLength.symm]
  | cons value rest ih =>
      cases second with
      | nil => cases sameLength
      | cons other others =>
          have shorter : rest.length = others.length := Nat.succ.inj sameLength
          cases rest with
          | nil =>
              rw [List.length_eq_zero_iff.mp shorter.symm]
              rfl
          | cons next later =>
              cases others with
              | nil => cases shorter
              | cons otherNext otherLater =>
                  have tail := ih (otherNext :: otherLater) shorter
                  change none :: outside (separator.map Token.symbol ++ _) =
                    none :: outside (separator.map Token.symbol ++ _)
                  rw [outside_append, outside_append]
                  exact congrArg (fun later => none :: (_ ++ later)) tail

section Enclosing

variable (quote escape : Symbol)

/-- Each quote of the value follows an escape, and no escape is last, where
another symbol stands before the value. -/
def EnclosedAfter : Symbol → List Symbol → Prop
  | before, [] => before ≠ escape
  | before, symbol :: rest => (symbol = quote → before = escape) ∧ EnclosedAfter symbol rest

def Enclosed (value : List Symbol) : Prop := EnclosedAfter quote escape quote value

theorem enclosed_after_of_plain
    (before : Symbol)
    (value : List Symbol)
    (start : before ≠ escape)
    (noQuote : quote ∉ value)
    (noEscape : escape ∉ value) : EnclosedAfter quote escape before value := by
  induction value generalizing before with
  | nil => exact start
  | cons symbol rest ih =>
      rw [List.mem_cons, not_or] at noQuote noEscape
      exact ⟨fun same => absurd same.symm noQuote.1,
        ih symbol (Ne.symm noEscape.1) noQuote.2 noEscape.2⟩

def Piece.Quoteless : Piece Symbol → Prop
  | .text symbols => quote ∉ symbols
  | .value _ => True

def Piece.Encloses : Piece Symbol → Prop
  | .text _ => True
  | .value symbols => Enclosed quote escape symbols

theorem listed_quoteless
    (separator : List Symbol)
    (values : List (List Symbol))
    (quoteless : quote ∉ separator) :
    ∀ piece ∈ listed separator values, piece.Quoteless quote := by
  intro piece member
  rcases mem_listed separator values piece member with rfl | ⟨value, -, rfl⟩
  · exact quoteless
  · trivial

theorem listed_enclosed_iff
    (separator : List Symbol)
    (values : List (List Symbol)) :
    (∀ piece ∈ listed separator values, piece.Encloses quote escape) ↔
      ∀ value ∈ values, Enclosed quote escape value := by
  constructor
  · intro all value member
    exact all (.value value) (value_mem_listed separator values value member)
  · intro all piece member
    rcases mem_listed separator values piece member with rfl | ⟨value, inValues, rfl⟩
    · trivial
    · exact all value inValues

end Enclosing

section Reading

variable (quote escape : Symbol)

def written (pieces : List (Piece Symbol)) : List Symbol :=
  pieces.flatMap fun piece =>
    match piece with
    | .text symbols => symbols
    | .value symbols => quote :: symbols ++ [quote]

theorem written_append (first second : List (Piece Symbol)) :
    written quote (first ++ second) = written quote first ++ written quote second :=
  List.flatMap_append

theorem written_listed
    (separator : List Symbol)
    (values : List (List Symbol)) :
    written quote (listed separator values) =
      separator.intercalate (values.map fun value => quote :: value ++ [quote]) := by
  induction values with
  | nil => rfl
  | cons value rest ih =>
      cases rest with
      | nil => simp [listed, written]
      | cons next later =>
          rw [List.map_cons] at ih
          rw [List.map_cons, List.map_cons, List.intercalate_cons_cons, ← ih]
          simp [listed, written]

variable [DecidableEq Symbol]

inductive Place (Symbol : Type u) where
  | between
  /-- In a literal, after its content so far and directly after a symbol. -/
  | within (content : List Symbol) (before : Symbol)

/-- A quote without a counterpart is text like everything after it. -/
def readFrom : Place Symbol → List Symbol → List (Token Symbol)
  | .between, [] => []
  | .between, symbol :: rest =>
      if symbol = quote then readFrom (.within [] quote) rest
      else .symbol symbol :: readFrom .between rest
  | .within content _, [] => .symbol quote :: content.map Token.symbol
  | .within content before, symbol :: rest =>
      if symbol = quote ∧ before ≠ escape then .literal content :: readFrom .between rest
      else readFrom (.within (content ++ [symbol]) symbol) rest

def read (text : List Symbol) : List (Token Symbol) := readFrom quote escape .between text

instance decidableEnclosedAfter :
    ∀ (before : Symbol) (value : List Symbol), Decidable (EnclosedAfter quote escape before value)
  | _, [] => inferInstanceAs (Decidable (_ ≠ _))
  | _, symbol :: rest =>
      have := decidableEnclosedAfter symbol rest
      inferInstanceAs (Decidable (_ ∧ _))

instance (value : List Symbol) : Decidable (Enclosed quote escape value) :=
  decidableEnclosedAfter quote escape quote value

theorem read_between_text
    (text rest : List Symbol)
    (noQuote : quote ∉ text) :
    readFrom quote escape .between (text ++ rest) =
      text.map Token.symbol ++ readFrom quote escape .between rest := by
  induction text with
  | nil => rfl
  | cons symbol later ih =>
      rw [List.mem_cons, not_or] at noQuote
      rw [List.cons_append, readFrom, if_neg (Ne.symm noQuote.1), ih noQuote.2]
      rfl

theorem read_within_head
    (content : List Symbol)
    (before : Symbol)
    (text : List Symbol) :
    (∃ more tail, readFrom quote escape (.within content before) text =
      .literal (content ++ more) :: tail) ∨
    ∃ tail, readFrom quote escape (.within content before) text = .symbol quote :: tail := by
  induction text generalizing content before with
  | nil => exact Or.inr ⟨_, rfl⟩
  | cons symbol rest ih =>
      rw [readFrom]
      split_ifs
      · exact Or.inl ⟨[], _, by rw [List.append_nil]⟩
      · rcases ih (content ++ [symbol]) symbol with ⟨more, tail, head⟩ | loose
        · exact Or.inl ⟨symbol :: more, tail, by rw [head, List.append_assoc]; rfl⟩
        · exact Or.inr loose

theorem read_value_iff
    (content : List Symbol)
    (before : Symbol)
    (value rest : List Symbol)
    (tail : List (Token Symbol)) :
    readFrom quote escape (.within content before) (value ++ quote :: rest) =
        .literal (content ++ value) :: tail ↔
      EnclosedAfter quote escape before value ∧ readFrom quote escape .between rest = tail := by
  induction value generalizing content before with
  | nil =>
      rw [List.nil_append, List.append_nil, readFrom, EnclosedAfter]
      by_cases closes : before ≠ escape
      · rw [if_pos ⟨rfl, closes⟩]
        simp [closes]
      · rw [if_neg fun both => closes both.2]
        constructor
        · intro same
          rcases read_within_head quote escape (content ++ [quote]) quote rest with
            ⟨more, other, head⟩ | ⟨other, head⟩
          · rw [head] at same
            have lengths := congrArg List.length (Token.literal.inj (List.cons.inj same).1)
            simp at lengths
          · rw [head] at same
            cases (List.cons.inj same).1
        · intro both
          exact absurd both.1 closes
  | cons symbol later ih =>
      rw [List.cons_append, readFrom, EnclosedAfter]
      by_cases closes : symbol = quote ∧ before ≠ escape
      · rw [if_pos closes]
        constructor
        · intro same
          have lengths := congrArg List.length (Token.literal.inj (List.cons.inj same).1)
          simp at lengths
        · intro both
          exact absurd (both.1.1 closes.1) closes.2
      · have escaped : symbol = quote → before = escape := fun same =>
          Classical.not_not.mp fun apart => closes ⟨same, apart⟩
        have shifted := ih (content ++ [symbol]) symbol
        rw [List.append_assoc, List.singleton_append] at shifted
        rw [if_neg closes, shifted]
        exact ⟨fun both => ⟨⟨escaped, both.1⟩, both.2⟩, fun both => ⟨both.1.2, both.2⟩⟩

/-- A text is read as it was meant exactly if every value in it encloses itself. -/
theorem read_written_iff
    (pieces : List (Piece Symbol))
    (quoteless : ∀ piece ∈ pieces, piece.Quoteless quote) :
    read quote escape (written quote pieces) = meant pieces ↔
      ∀ piece ∈ pieces, piece.Encloses quote escape := by
  unfold read
  induction pieces with
  | nil => simp [written, meant, readFrom]
  | cons piece rest ih =>
      rw [List.forall_mem_cons] at quoteless ⊢
      have later := ih quoteless.2
      cases piece with
      | text symbols =>
          have step := read_between_text quote escape symbols (written quote rest) quoteless.1
          change readFrom quote escape .between (symbols ++ written quote rest) =
            symbols.map Token.symbol ++ meant rest ↔ True ∧ _
          rw [step, List.append_cancel_left_eq, later, true_and]
      | value symbols =>
          have step := read_value_iff quote escape [] quote symbols (written quote rest) (meant rest)
          change readFrom quote escape .between
            (quote :: symbols ++ [quote] ++ written quote rest) =
              .literal symbols :: meant rest ↔ Enclosed quote escape symbols ∧ _
          rw [List.cons_append, List.cons_append, readFrom, if_pos rfl, List.append_assoc,
            List.singleton_append]
          rw [List.nil_append] at step
          rw [step, later, Enclosed]

end Reading

section RunningOn

variable (quote escape : Symbol)

def Piece.Plain : Piece Symbol → Prop
  | .text symbols => quote ∉ symbols ∧ escape ∉ symbols
  | .value symbols => quote ∉ symbols

theorem listed_plain
    (separator : List Symbol)
    (values : List (List Symbol))
    (plainSeparator : quote ∉ separator ∧ escape ∉ separator)
    (plainValues : ∀ value ∈ values, quote ∉ value) :
    ∀ piece ∈ listed separator values, piece.Plain quote escape := by
  intro piece member
  rcases mem_listed separator values piece member with rfl | ⟨value, inValues, rfl⟩
  · exact plainSeparator
  · exact plainValues value inValues

theorem plain_quoteless
    (piece : Piece Symbol)
    (plain : piece.Plain quote escape) : piece.Quoteless quote := by
  cases piece with
  | text symbols => exact plain.1
  | value symbols => trivial

theorem first_running_on
    (pieces : List (Piece Symbol))
    (runsOn : ¬ ∀ piece ∈ pieces, piece.Encloses quote escape) :
    ∃ before value rest, pieces = before ++ .value value :: rest ∧
      (∀ piece ∈ before, piece.Encloses quote escape) ∧ ¬ Enclosed quote escape value := by
  induction pieces with
  | nil => exact absurd (List.forall_mem_nil _) runsOn
  | cons piece rest ih =>
      by_cases here : piece.Encloses quote escape
      · have later : ¬ ∀ other ∈ rest, other.Encloses quote escape := fun all =>
          runsOn (List.forall_mem_cons.mpr ⟨here, all⟩)
        obtain ⟨before, value, behind, parts, safe, last⟩ := ih later
        exact ⟨piece :: before, value, behind, by rw [parts]; rfl,
          List.forall_mem_cons.mpr ⟨here, safe⟩, last⟩
      · cases piece with
        | text symbols => exact absurd trivial here
        | value symbols =>
            exact ⟨[], symbols, rest, rfl, List.forall_mem_nil _, here⟩

theorem enclosed_after_iff_last
    (before : Symbol)
    (value : List Symbol)
    (noQuote : quote ∉ value) :
    EnclosedAfter quote escape before value ↔ value.getLastD before ≠ escape := by
  induction value generalizing before with
  | nil => rfl
  | cons symbol rest ih =>
      rw [List.mem_cons, not_or] at noQuote
      rw [EnclosedAfter, ih symbol noQuote.2, List.getLastD_cons]
      exact and_iff_right fun same => absurd same.symm noQuote.1

/-- What is read of pieces from within a literal: a text goes on with it, the
quote before a value ends it, and the quote behind the value begins another. -/
def swapped : List Symbol → List (Piece Symbol) → List (Token Symbol)
  | content, [] => .symbol quote :: content.map Token.symbol
  | content, .text symbols :: rest => swapped (content ++ symbols) rest
  | content, .value symbols :: rest =>
      .literal content :: (symbols.map Token.symbol ++ swapped [] rest)

theorem contents_swapped_value
    (start symbols : List Symbol)
    (rest : List (Piece Symbol)) :
    contents (swapped quote start (.value symbols :: rest)) =
      start :: contents (swapped quote [] rest) := by
  change start :: contents (symbols.map Token.symbol ++ swapped quote [] rest) = _
  rw [contents_append, contents_symbols, List.nil_append]

/-- A literal of the exchanged reading is made of fixed texts, behind what was
open if it goes on with that. -/
theorem swapped_content
    (holds : Symbol → Prop)
    (start : List Symbol)
    (pieces : List (Piece Symbol))
    (texts : ∀ symbols, .text symbols ∈ pieces → ∀ symbol ∈ symbols, holds symbol)
    (content : List Symbol)
    (member : content ∈ contents (swapped quote start pieces)) :
    ∃ front more, content = front ++ more ∧ (front = start ∨ front = []) ∧
      ∀ symbol ∈ more, holds symbol := by
  induction pieces generalizing start with
  | nil =>
      change content ∈ contents ([Token.symbol quote] ++ start.map Token.symbol) at member
      rw [contents_append, contents_symbols] at member
      cases member
  | cons piece rest ih =>
      have later := fun symbols listed => texts symbols (List.mem_cons_of_mem piece listed)
      cases piece with
      | text symbols =>
          obtain ⟨front, more, parts, goesOn, made⟩ := ih (start ++ symbols) later member
          cases goesOn with
          | inl behind =>
              refine ⟨start, symbols ++ more, ?_, .inl rfl, ?_⟩
              · rw [parts, behind, List.append_assoc]
              · intro symbol listed
                cases List.mem_append.mp listed with
                | inl own => exact texts symbols List.mem_cons_self symbol own
                | inr inMore => exact made symbol inMore
          | inr none => exact ⟨front, more, parts, .inr none, made⟩
      | value symbols =>
          rw [contents_swapped_value] at member
          cases List.mem_cons.mp member with
          | inl same =>
              exact ⟨start, [], by rw [same, List.append_nil], .inl rfl, fun _ absent => by
                cases absent⟩
          | inr inRest =>
              obtain ⟨front, more, parts, goesOn, made⟩ := ih [] later inRest
              exact ⟨front, more, parts, .inr (goesOn.elim id id), made⟩

theorem contents_listed_swapped
    (start separator : List Symbol)
    (values : List (List Symbol))
    (rest : List (Piece Symbol)) :
    (contents (swapped quote start (listed separator values ++ rest))).length =
      values.length + (contents (swapped quote (if values = [] then start else []) rest)).length := by
  induction values generalizing start with
  | nil => simp [listed]
  | cons value others ih =>
      cases others with
      | nil =>
          change (contents (swapped quote start (.value value :: rest))).length = _
          rw [contents_swapped_value, List.length_cons]
          simp [Nat.add_comm]
      | cons next later =>
          change (contents (swapped quote start
            (.value value :: .text separator :: (listed separator (next :: later) ++ rest)))).length = _
          rw [contents_swapped_value, List.length_cons]
          change (contents (swapped quote separator
            (listed separator (next :: later) ++ rest))).length + 1 = _
          rw [ih]
          simp
          omega

theorem swapped_listed_head
    (start separator value : List Symbol)
    (values : List (List Symbol))
    (rest : List (Piece Symbol)) :
    ∃ later, swapped quote start (listed separator (value :: values) ++ rest) =
        .literal start :: later ∧
      (contents later).length = values.length + (contents (swapped quote [] rest)).length := by
  have counted := contents_listed_swapped quote start separator (value :: values) rest
  rw [if_neg (List.cons_ne_nil _ _), List.length_cons] at counted
  cases values with
  | nil =>
      refine ⟨_, rfl, ?_⟩
      change (contents _).length + 1 = _ at counted
      omega
  | cons next others =>
      refine ⟨_, rfl, ?_⟩
      change (contents _).length + 1 = _ at counted
      omega

/-- Behind a literal with a quote in it and a short text, a list of values that
was swapped holds no such list behind a longer text. -/
theorem listed_not_run_on
    (opening first word start separator closing fixed ending : List Symbol)
    (values : List (List Symbol))
    (longer : word.length < fixed.length)
    (some : values ≠ [])
    (plain : ∀ value ∈ values, quote ∉ value)
    (shown : quote ∈ first) :
    ¬ fixed.map Token.symbol ++ (meant (listed separator values) ++ ending.map Token.symbol) <:+:
      opening.map Token.symbol ++ .literal first ::
        (word.map Token.symbol ++ swapped quote start (listed separator values ++ [.text closing])) := by
  intro carried
  obtain ⟨front, behind, parts⟩ := carried
  cases values with
  | nil => exact some rfl
  | cons value others =>
      obtain ⟨clauseRest, clauseHead, clauseContents⟩ := meant_listed_head separator value others
      obtain ⟨later, head, counted⟩ :=
        swapped_listed_head quote start separator value others [.text closing]
      rw [clauseHead, head, List.cons_append, List.append_assoc, List.append_assoc,
        List.cons_append, ← List.append_assoc front] at parts
      have fewer : (contents later).length ≤
          (contents (clauseRest ++ ending.map Token.symbol ++ behind)).length := by
        rw [counted, contents_append, contents_append, contents_symbols, clauseContents]
        simp [swapped, contents]
      have same := is_first_literal _ _ later front _ _ first start value (contents_symbols opening)
        (contents_symbols word) (contents_symbols fixed) (by simpa using longer) fewer parts
      exact plain value List.mem_cons_self (same ▸ shown)

variable [DecidableEq Symbol]

theorem read_within_symbols
    (content : List Symbol)
    (before : Symbol)
    (symbols rest : List Symbol)
    (noQuote : quote ∉ symbols) :
    readFrom quote escape (.within content before) (symbols ++ rest) =
      readFrom quote escape (.within (content ++ symbols) (symbols.getLastD before)) rest := by
  induction symbols generalizing content before with
  | nil => rw [List.append_nil]; rfl
  | cons symbol later ih =>
      rw [List.mem_cons, not_or] at noQuote
      rw [List.cons_append, readFrom, if_neg fun closes => noQuote.1 closes.1.symm,
        ih _ _ noQuote.2, List.append_assoc, List.getLastD_cons]
      rfl

theorem read_swapped
    (apart : quote ≠ escape)
    (content : List Symbol)
    (before : Symbol)
    (isOpen : before ≠ escape)
    (pieces : List (Piece Symbol))
    (plain : ∀ piece ∈ pieces, piece.Plain quote escape) :
    readFrom quote escape (.within content before) (written quote pieces) =
      swapped quote content pieces := by
  induction pieces generalizing content before with
  | nil => rfl
  | cons piece rest ih =>
      rw [List.forall_mem_cons] at plain
      cases piece with
      | text symbols =>
          change readFrom quote escape (.within content before) (symbols ++ written quote rest) = _
          rw [read_within_symbols quote escape content before symbols _ plain.1.1]
          apply ih _ _ _ plain.2
          cases symbols with
          | nil => exact isOpen
          | cons symbol later =>
              intro same
              apply plain.1.2
              rw [← same, List.getLastD_cons, ← List.getLast_eq_getLastD]
              exact List.getLast_mem (List.cons_ne_nil symbol later)
      | value symbols =>
          change readFrom quote escape (.within content before)
            (quote :: symbols ++ [quote] ++ written quote rest) = _
          rw [List.cons_append, List.cons_append, readFrom, if_pos ⟨rfl, isOpen⟩, List.append_assoc,
            read_between_text quote escape symbols _ plain.1, List.singleton_append, readFrom,
            if_pos rfl, ih [] quote apart plain.2]
          rfl

/-- Enclosed values are read as meant up to the first value that runs on, and
from there on texts and values have changed places. -/
theorem read_running_on
    (apart : quote ≠ escape)
    (before : List (Piece Symbol))
    (value : List Symbol)
    (rest : List (Piece Symbol))
    (plain : ∀ piece ∈ before ++ .value value :: rest, piece.Plain quote escape)
    (encloses : ∀ piece ∈ before, piece.Encloses quote escape)
    (runsOn : ¬ Enclosed quote escape value) :
    read quote escape (written quote (before ++ .value value :: rest)) =
      meant before ++ swapped quote (value ++ [quote]) rest := by
  unfold read
  induction before with
  | nil =>
      rw [List.nil_append, List.forall_mem_cons] at plain
      rw [Enclosed, enclosed_after_iff_last quote escape quote value plain.1,
        Classical.not_not] at runsOn
      change readFrom quote escape .between
        (quote :: value ++ [quote] ++ written quote rest) = _
      rw [List.cons_append, List.cons_append, readFrom, if_pos rfl, List.append_assoc,
        read_within_symbols quote escape [] quote value _ plain.1, List.singleton_append, readFrom,
        if_neg fun closes => closes.2 runsOn,
        read_swapped quote escape apart _ _ apart rest plain.2]
      rfl
  | cons piece later ih =>
      rw [List.cons_append, List.forall_mem_cons] at plain
      rw [List.forall_mem_cons] at encloses
      have tail := ih plain.2 encloses.2
      cases piece with
      | text symbols =>
          change readFrom quote escape .between
              (symbols ++ written quote (later ++ .value value :: rest)) =
            (symbols.map Token.symbol ++ meant later) ++ _
          rw [read_between_text quote escape symbols _ plain.1.1, tail, List.append_assoc]
      | value symbols =>
          have step := (read_value_iff quote escape [] quote symbols
            (written quote (later ++ .value value :: rest)) _).mpr ⟨encloses.1, tail⟩
          change readFrom quote escape .between
            (quote :: symbols ++ [quote] ++ written quote _) = .literal symbols :: _
          rw [List.cons_append, List.cons_append, readFrom, if_pos rfl, List.append_assoc,
            List.singleton_append]
          exact step

theorem literals_enclosed
    (text content : List Symbol)
    (member : content ∈ contents (read quote escape text)) :
    content.getLastD quote ≠ escape := by
  suffices general : ∀ (text : List Symbol) (place : Place Symbol),
      (∀ soFar before, place = .within soFar before → soFar.getLastD quote = before) →
        content ∈ contents (readFrom quote escape place text) →
          content.getLastD quote ≠ escape from
    general text .between (fun _ _ same => by cases same) member
  intro text
  induction text with
  | nil =>
      intro place _ listed
      cases place with
      | between => cases listed
      | within soFar before =>
          rw [readFrom, contents, List.mem_filterMap] at listed
          obtain ⟨token, inTokens, isLiteral⟩ := listed
          cases token with
          | symbol symbol => cases isLiteral
          | literal other =>
              cases List.mem_cons.mp inTokens with
              | inl same => cases same
              | inr mapped =>
                  obtain ⟨symbol, _, same⟩ := List.mem_map.mp mapped
                  cases same
  | cons symbol rest ih =>
      intro place follows listed
      cases place with
      | between =>
          rw [readFrom] at listed
          split_ifs at listed
          · refine ih (.within [] quote) ?_ listed
            intro soFar before same
            cases same
            rfl
          · exact ih .between (fun _ _ same => by cases same) listed
      | within soFar before =>
          rw [readFrom] at listed
          split_ifs at listed with closes
          · cases List.mem_cons.mp listed with
            | inl same =>
                rw [same, follows soFar before rfl]
                exact closes.2
            | inr later => exact ih .between (fun _ _ same => by cases same) later
          · refine ih (.within (soFar ++ [symbol]) symbol) ?_ listed
            intro other last same
            cases same
            simp

end RunningOn

end AtlasMindNetra.QuotingRules
