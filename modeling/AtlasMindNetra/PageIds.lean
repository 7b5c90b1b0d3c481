import AtlasMindNetra.ScanRules
import AtlasMindNetra.SearchContext

/-!
# Page ids of URLs

`extract_page_id` of `confluence/client/url_parser.py`. An id from the path is
digits by its pattern. What the query gives for `pageId` is returned as it is,
whatever it is, and for some texts `urlparse` raises.
-/

namespace AtlasMindNetra.SearchContext

open AtlasMindNetra.PythonValues AtlasMindNetra.ScanRules

set_option autoImplicit false

section Ids

variable (tables : UrlTables)

def IsPageId (pageId : String) : Prop :=
  pageId ≠ "" ∧ ∀ char ∈ pageId.toList, tables.isDecimal char = true

/-- The text has a segment `/pages/<digits>` that ends as the pattern asks. -/
def HasSegment (text : List Char) : Prop :=
  ∃ before digits after, text = before ++ "/pages/".toList ++ digits ++ after ∧ digits ≠ [] ∧
    (∀ char ∈ digits, tables.isDecimal char = true) ∧ endsSegment after = true

def FollowsId (following : List Char) : Prop :=
  following = [] ∨ ∃ char rest, following = char :: rest ∧ char ∈ ['/', '?', '#']

/-- Whatever is returned for the URL is numeric, the id of its only segment is
returned, and without a segment the first `pageId` of its query. The segment
follows the base, so that one at the end of the base ends there. -/
structure ReadsPageId (url : String) : Prop where
  numeric : ∃ result, extractPageId tables url = .ok result ∧
    ∀ pageId, result = some pageId → IsPageId tables pageId
  path : ∀ base pageId following,
    url.toList = base ++ "/pages/".toList ++ pageId.toList ++ following →
    IsPageId tables pageId → FollowsId following → ¬ HasSegment tables (base ++ ['/']) →
      extractPageId tables url = .ok (some pageId)
  query : ∀ pageId, ¬ HasSegment tables url.toList → tables.queryPageId url = .ok (some pageId) →
    IsPageId tables pageId → extractPageId tables url = .ok (some pageId)

def AsciiDecimals : Prop := ∀ char : Char, char.toNat < 128 → tables.isDecimal char = char.isDigit

variable {tables} (decimals : AsciiDecimals tables)

theorem path_id_here_sound
    (text : List Char)
    (pageId : String)
    (found : pathIdHere tables text = some pageId) :
    IsPageId tables pageId ∧ ∃ after, text = "/pages/".toList ++ pageId.toList ++ after ∧
      endsSegment after = true := by
  simp only [pathIdHere] at found
  split_ifs at found with starts matched
  rw [Bool.and_eq_true, Bool.not_eq_true', List.isEmpty_eq_false_iff] at matched
  rcases List.isPrefixOf_iff_prefix.mp starts with ⟨rest, rfl⟩
  have seven : ("/pages/".toList ++ rest).drop 7 = rest := rfl
  rw [seven] at found matched
  cases found
  rw [IsPageId, String.toList_ofList]
  refine ⟨⟨?_, ?_⟩, rest.dropWhile tables.isDecimal, ?_, matched.2⟩
  · intro empty
    rw [← String.toList_inj, String.toList_ofList] at empty
    exact matched.1 empty
  · exact fun char member => List.all_eq_true.mp List.all_takeWhile char member
  · rw [List.append_assoc, List.takeWhile_append_dropWhile]

include decimals

theorem ends_segment_stops
    (after : List Char)
    (ends : endsSegment after = true) : after.head?.any tables.isDecimal = false := by
  cases after with
  | nil => rfl
  | cons char rest =>
      have stops : char = '\n' ∨ char = '/' ∨ char = '?' ∨ char = '#' := by
        unfold endsSegment at ends
        split at ends
        · contradiction
        · rename_i same
          cases same
          exact Or.inl rfl
        · rename_i same
          cases same
          simp only [Bool.or_eq_true, beq_iff_eq, or_assoc] at ends
          exact Or.inr ends
      rcases stops with rfl | rfl | rfl | rfl
      · exact decimals '\n' (by decide)
      · exact decimals '/' (by decide)
      · exact decimals '?' (by decide)
      · exact decimals '#' (by decide)

theorem path_id_here_complete
    (digits after : List Char)
    (nonempty : digits ≠ [])
    (areDigits : ∀ char ∈ digits, tables.isDecimal char = true)
    (ends : endsSegment after = true) :
    pathIdHere tables ("/pages/".toList ++ (digits ++ after)) = some (String.ofList digits) := by
  have stops := ends_segment_stops decimals after ends
  have starts : "/pages/".toList.isPrefixOf ("/pages/".toList ++ (digits ++ after)) = true :=
    List.isPrefixOf_iff_prefix.mpr (List.prefix_append _ _)
  have seven : ("/pages/".toList ++ (digits ++ after)).drop 7 = digits ++ after := rfl
  have left : after.takeWhile tables.isDecimal = [] ∧ after.dropWhile tables.isDecimal = after := by
    cases after with
    | nil => exact ⟨rfl, rfl⟩
    | cons char rest =>
        have refused : ¬ tables.isDecimal char = true := Bool.eq_false_iff.mp stops
        exact ⟨List.takeWhile_cons_of_neg refused, List.dropWhile_cons_of_neg refused⟩
  have some : (!digits.isEmpty) = true := by
    rw [Bool.not_eq_true', List.isEmpty_eq_false_iff]
    exact nonempty
  simp only [pathIdHere, starts, if_true, seven, List.takeWhile_append_of_pos areDigits,
    List.dropWhile_append_of_pos areDigits, left, List.append_nil, some, ends, Bool.and_self]

omit decimals in
theorem found_is_page_id
    (text : List Char)
    (pageId : String)
    (found : text.tails.findSome? (pathIdHere tables) = some pageId) :
    IsPageId tables pageId ∧ HasSegment tables text := by
  rcases List.exists_of_findSome?_eq_some found with ⟨tail, member, here⟩
  rcases (List.mem_tails _ _).mp member with ⟨before, rfl⟩
  rcases path_id_here_sound tail pageId here with ⟨isPageId, after, rfl, ends⟩
  refine ⟨isPageId, before, pageId.toList, after, ?_, ?_, isPageId.2, ends⟩
  · simp only [List.append_assoc]
  · exact fun empty => isPageId.1 (String.toList_eq_nil_iff.mp empty)

theorem segment_found_iff
    (text : List Char) :
    text.tails.findSome? (pathIdHere tables) = none ↔ ¬ HasSegment tables text := by
  constructor
  · rintro none ⟨before, digits, after, rfl, nonempty, areDigits, ends⟩
    have within : "/pages/".toList ++ (digits ++ after) ∈
        (before ++ "/pages/".toList ++ digits ++ after).tails := by
      rw [List.mem_tails]
      exact ⟨before, by simp only [List.append_assoc]⟩
    have here := List.findSome?_eq_none_iff.mp none _ within
    rw [path_id_here_complete decimals digits after nonempty areDigits ends] at here
    cases here
  · intro noSegment
    cases found : text.tails.findSome? (pathIdHere tables) with
    | none => rfl
    | some pageId => exact absurd (found_is_page_id text pageId found).2 noSegment

omit decimals in
theorem find_behind
    (before rest : List Char)
    (none : ∀ left passed, before = left ++ passed → passed ≠ [] →
      pathIdHere tables (passed ++ rest) = none) :
    (before ++ rest).tails.findSome? (pathIdHere tables) =
      rest.tails.findSome? (pathIdHere tables) := by
  induction before with
  | nil => rfl
  | cons char before ih =>
      rw [List.cons_append, List.tails_cons, List.findSome?_cons,
        ← List.cons_append, none [] (char :: before) rfl (List.cons_ne_nil _ _)]
      apply ih
      intro left passed same nonempty
      exact none (char :: left) passed (by rw [same, List.cons_append]) nonempty

omit decimals in
theorem ends_segment_cut
    (rest following : List Char)
    (ends : endsSegment (rest ++ '/' :: following) = true) :
    endsSegment (rest ++ ['/']) = true := by
  cases rest with
  | nil => rfl
  | cons first rest =>
      cases rest <;> simpa [endsSegment] using ends

theorem base_passed
    (base following left passed : List Char)
    (noOther : ¬ HasSegment tables (base ++ ['/']))
    (split : base = left ++ passed)
    (nonempty : passed ≠ []) :
    pathIdHere tables (passed ++ ("/pages/".toList ++ following)) = none := by
  cases found : pathIdHere tables (passed ++ ("/pages/".toList ++ following)) with
  | none => rfl
  | some pageId =>
      exfalso
      rcases path_id_here_sound _ pageId found with ⟨isPageId, after, same, ends⟩
      have slash : '/' ∉ pageId.toList := by
        intro member
        have isDigit := (decimals '/' (by decide)).symm.trans (isPageId.2 '/' member)
        exact absurd isDigit (by decide)
      have begun : '/' :: "pages".toList <+: passed := by
        apply word_ends_within '/' "pages".toList passed ('/' :: ("pages/".toList ++ following))
          ('/' :: (pageId.toList ++ after)) (by decide) (Or.inr ⟨_, rfl⟩) nonempty
        rw [List.append_assoc] at same
        exact same
      rcases begun with ⟨more, rfl⟩
      rw [List.append_assoc, List.append_assoc] at same
      have behind : more ++ '/' :: ("pages/".toList ++ following) =
          '/' :: (pageId.toList ++ after) :=
        (List.append_right_inj ('/' :: "pages".toList)).mp same
      cases more with
      | nil =>
          rw [List.nil_append, List.cons.injEq] at behind
          cases chars : pageId.toList with
          | nil => exact isPageId.1 (String.toList_eq_nil_iff.mp chars)
          | cons first rest =>
              rw [chars] at behind
              have isP : 'p' = first := (List.cons.inj behind.2).1
              have isDigit := isPageId.2 first (by rw [chars]; exact List.mem_cons_self)
              rw [← isP, decimals 'p' (by decide)] at isDigit
              exact absurd isDigit (by decide)
      | cons char more =>
          rw [List.cons_append, List.cons.injEq] at behind
          rcases behind with ⟨rfl, behind⟩
          rcases word_ends_before '/' more pageId.toList _ after slash behind with ⟨rest, rfl, rfl⟩
          apply noOther
          refine ⟨left, pageId.toList, rest ++ ['/'], ?_, ?_, isPageId.2,
            ends_segment_cut rest _ ends⟩
          · rw [split]
            have word : "/pages/".toList = '/' :: "pages".toList ++ ['/'] := rfl
            rw [word]
            simp only [List.append_assoc, List.cons_append, List.nil_append]
          · exact fun empty => isPageId.1 (String.toList_eq_nil_iff.mp empty)

theorem segment_behind_base
    (url : String)
    (base : List Char)
    (pageId : String)
    (following : List Char)
    (split : url.toList = base ++ "/pages/".toList ++ pageId.toList ++ following)
    (isPageId : IsPageId tables pageId)
    (follows : FollowsId following)
    (noOther : ¬ HasSegment tables (base ++ ['/'])) :
    extractPageId tables url = .ok (some pageId) := by
  have ends : endsSegment following = true := by
    rcases follows with rfl | ⟨char, rest, rfl, listed⟩
    · rfl
    · simp only [List.mem_cons, List.not_mem_nil, or_false] at listed
      rcases listed with rfl | rfl | rfl <;> rfl
  have nonempty : pageId.toList ≠ [] :=
    fun empty => isPageId.1 (String.toList_eq_nil_iff.mp empty)
  have here := path_id_here_complete decimals pageId.toList following nonempty isPageId.2 ends
  have found : url.toList.tails.findSome? (pathIdHere tables) = some pageId := by
    rw [split, List.append_assoc, List.append_assoc, find_behind]
    · rw [String.ofList_toList] at here
      cases rest : "/pages/".toList ++ (pageId.toList ++ following) with
      | nil => cases rest
      | cons char more => rw [List.tails_cons, List.findSome?_cons, ← rest, here]
    · intro left passed same some
      exact base_passed decimals base (pageId.toList ++ following) left passed noOther same some
  rw [extractPageId, found]

/-- The id of a URL is read as it should be exactly if the URL has a segment, or
its query is read without an error and does not begin with another `pageId`
than digits. -/
theorem reads_page_id_iff
    (url : String) :
    ReadsPageId tables url ↔ HasSegment tables url.toList ∨ ∃ result,
      tables.queryPageId url = .ok result ∧
        ∀ pageId, result = some pageId → IsPageId tables pageId := by
  have bySegment := segment_found_iff decimals url.toList
  constructor
  · intro reads
    by_cases segment : HasSegment tables url.toList
    · exact Or.inl segment
    · have numeric := reads.numeric
      rw [extractPageId, bySegment.mpr segment] at numeric
      exact Or.inr numeric
  · intro condition
    constructor
    · cases found : url.toList.tails.findSome? (pathIdHere tables) with
      | some pageId =>
          refine ⟨some pageId, by rw [extractPageId, found], ?_⟩
          rintro other same
          cases same
          exact (found_is_page_id url.toList pageId found).1
      | none =>
          have byQuery := condition.resolve_left (bySegment.mp found)
          rw [extractPageId, found]
          exact byQuery
    · exact segment_behind_base decimals url
    · intro pageId noSegment queried _
      rw [extractPageId, bySegment.mpr noSegment]
      exact queried

end Ids

def viewpageUrl : String := "https://wiki.example.com/pages/viewpage.action?pageId=abc"

def viewpageTables : UrlTables where
  isDecimal := Char.isDigit
  queryPageId url := if url = viewpageUrl then .ok (some "abc") else .ok none

theorem plan_url_read :
    ReadsPageId viewpageTables "https://wiki.example.com/spaces/ABC/pages/123456/Plan" := by
  apply (reads_page_id_iff (fun _ _ => rfl) _).mpr
  exact Or.inl ⟨"https://wiki.example.com/spaces/ABC".toList, "123456".toList, "/Plan".toList,
    by decide +kernel, by decide, List.all_eq_true.mp (by decide), rfl⟩

/-- The text after `pageId=` is taken for an id without a look at it. -/
theorem viewpage_text_returned :
    extractPageId viewpageTables viewpageUrl = .ok (some "abc") ∧
      ¬ IsPageId viewpageTables "abc" := by
  constructor
  · rfl
  · intro isPageId
    exact absurd (isPageId.2 'a' (by decide)) (by decide)

end AtlasMindNetra.SearchContext
