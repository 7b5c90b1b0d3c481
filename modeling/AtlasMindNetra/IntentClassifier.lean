import AtlasMindNetra.ResponseModels

/-!
# Vocabulary lookup and ambiguous-term detection

`core/vocab_lookup.py` and `core/intent_classifier.py`. The pattern of a term
is `\b<term>(?:e?s)?\b`; whether it occurs is decided position by position,
trying every way to take the optional ending, as backtracking search does.
-/

namespace AtlasMindNetra.IntentClassifier

open AtlasMindNetra.PythonValues AtlasMindNetra.ResponseModels

set_option autoImplicit false

variable (tables : TextTables)

/-- The disambiguation vocabulary, keyed by lower-cased term. -/
structure VocabLookup where
  entries : OrderedDict String VocabEntry := ∅

namespace VocabLookup

/-- `_load` on the validated entries of the vocabulary file. -/
def load (raw : List (String × VocabEntry)) : VocabLookup where
  entries := raw.foldl (fun entries item => entries.set (tables.lower item.1) item.2) ∅

def terms (vocab : VocabLookup) : List String := vocab.entries.keys

def get (vocab : VocabLookup) (term : String) : Option VocabEntry :=
  vocab.entries.get? (tables.lower term)

def entriesFor (vocab : VocabLookup) (terms : List String) : OrderedDict String VocabEntry :=
  terms.foldl (fun result term =>
    match vocab.get tables term with
    | some entry => result.set (tables.lower term) entry
    | none => result) ∅

end VocabLookup

/-- Whether a word character stands at `index`. -/
def wordAt (text : List Char) (index : Nat) : Bool :=
  match text[index]? with
  | some char => tables.isWord char
  | none => false

/-- The assertion `\b` between positions `index - 1` and `index`. -/
def boundaryAt (text : List Char) : Nat → Bool
  | 0 => wordAt tables text 0
  | index + 1 => wordAt tables text index != wordAt tables text (index + 1)

/-- Whether `literal` stands at the front of `rest`, ignoring case. -/
def literalAt : List Char → List Char → Bool
  | [], _ => true
  | _ :: _, [] => false
  | expected :: literal, char :: rest =>
      tables.sameIgnoringCase expected char && literalAt literal rest

/-- The endings `(?:e?s)?` can take: `es`, `s` or nothing. -/
def pluralEndings : List (List Char) := [['e', 's'], ['s'], []]

/-- Whether the pattern of `term` matches `text` from position `index` on. -/
def patternAt (term text : List Char) (index : Nat) : Bool :=
  boundaryAt tables text index &&
    literalAt tables term (text.drop index) &&
      pluralEndings.any fun ending =>
        literalAt tables ending (text.drop (index + term.length)) &&
          boundaryAt tables text (index + term.length + ending.length)

/-- `pattern.search(text)` -/
def patternSearch (term text : List Char) : Bool :=
  (List.range (text.length + 1)).any (patternAt tables term text)

/-- The ambiguous terms present in `text`, in vocabulary order. -/
def detect (vocab : VocabLookup) (text : String) : List String :=
  vocab.terms.filter fun term => patternSearch tables term.toList text.toList

theorem detect_empty (vocab : VocabLookup) : detect tables vocab "" = [] := by
  apply List.filter_eq_nil_iff.mpr
  intro term _
  simp [patternSearch, patternAt, boundaryAt, wordAt]

end AtlasMindNetra.IntentClassifier
