import AtlasMindNetra.PythonValues

/-!
# CQL queries

`confluence/client/cql_builder.py`, the reverse-lookup query of
`confluence/client/client.py` and what they read of `QueryIntent`. Every value
is put between double quotes as it is.
-/

namespace AtlasMindNetra.CqlBuilder

open AtlasMindNetra.PythonValues

set_option autoImplicit false

inductive IntentType where
  | releaseRisk
  | blockerAnalysis
  | domainImpact
  | workingGroupStatus
  | general
  deriving DecidableEq

structure QueryIntent where
  versionRefs : List String := []
  confluenceKeywords : List String := []
  intentType : IntentType := .general
  deriving DecidableEq

structure CqlVariants where
  titleReview : String
  titleVersion : String
  textVersion : String
  deriving DecidableEq

def CqlVariants.asList (variants : CqlVariants) : List String :=
  [variants.titleReview, variants.titleVersion, variants.textVersion]

/-- `text.split(separator)[-1]` -/
def afterLast (separator : Char) (text : String) : String :=
  String.ofList (text.toList.reverse.takeWhile (· ≠ separator)).reverse

/-- `text.split(separator)[0]` -/
def beforeFirst (separator : Char) (text : String) : String :=
  String.ofList (text.toList.takeWhile (· ≠ separator))

def quoted (value : String) : String := "\"" ++ value ++ "\""

/-- A `space IN (...)` clause, or nothing when there are no spaces. -/
def spaceFilter (spaces : List String) : String :=
  if spaces.isEmpty then ""
  else "space IN (" ++ String.intercalate ", " (spaces.map quoted) ++ ")"

def versionShort (versionRef : String) : String := afterLast '_' versionRef

/-- `version_short` of the intent: of its first version, else its first keyword. -/
def searchVersion (intent : QueryIntent) : String :=
  match intent.versionRefs with
  | versionRef :: _ => versionShort versionRef
  | [] => intent.confluenceKeywords.head?.getD ""

/-- `version_abbrev` of the intent -/
def searchAbbrev (intent : QueryIntent) : String :=
  match intent.versionRefs with
  | versionRef :: _ => beforeFirst '.' (versionShort versionRef)
  | [] => intent.confluenceKeywords.head?.getD ""

def recencyFilter (recencyDays : Int) : String :=
  "lastModified > now(" ++ quoted ("-" ++ toString recencyDays ++ "d") ++ ")"

def titleReviewCql (spaces : List String) (recencyDays : Int) : String :=
  if spaceFilter spaces ≠ "" then
    "title ~ \"Review\" AND " ++ spaceFilter spaces ++ " AND " ++ recencyFilter recencyDays
  else "title ~ \"Review\" AND " ++ recencyFilter recencyDays

def titleVersionCql (intent : QueryIntent) (spaces : List String) : String :=
  if searchAbbrev intent ≠ "" then
    if spaceFilter spaces ≠ "" then
      "title ~ " ++ quoted (searchAbbrev intent) ++ " AND text ~ \"blocker\" AND " ++
        spaceFilter spaces
    else "title ~ " ++ quoted (searchAbbrev intent) ++ " AND text ~ \"blocker\""
  else
    if spaceFilter spaces ≠ "" then "text ~ \"blocker\" AND " ++ spaceFilter spaces
    else "text ~ \"blocker\""

def textVersionCql (intent : QueryIntent) (spaces : List String) (recencyDays : Int) : String :=
  if searchVersion intent ≠ "" then
    if spaceFilter spaces ≠ "" then
      "text ~ " ++ quoted (searchVersion intent) ++ " AND " ++ spaceFilter spaces ++ " AND " ++
        recencyFilter recencyDays
    else "text ~ " ++ quoted (searchVersion intent) ++ " AND " ++ recencyFilter recencyDays
  else
    let keywords := String.intercalate " OR " ((intent.confluenceKeywords.take 3).map quoted)
    if keywords ≠ "" ∧ spaceFilter spaces ≠ "" then
      "text ~ (" ++ keywords ++ ") AND " ++ spaceFilter spaces
    else if keywords ≠ "" then "text ~ (" ++ keywords ++ ")"
    else titleReviewCql spaces recencyDays

def buildCqlVariants (intent : QueryIntent) (spaces : List String) (recencyDays : Int) :
    CqlVariants where
  titleReview := titleReviewCql spaces recencyDays
  titleVersion := titleVersionCql intent spaces
  textVersion := textVersionCql intent spaces recencyDays

def spaceClause (spaces : List String) : String :=
  if spaces.isEmpty then ""
  else " AND space IN (" ++ String.intercalate ", " (spaces.map quoted) ++ ")"

/-- The query of `find_pages_mentioning_keys` for one key. -/
def reverseLookupCql (key : String) (spaces : List String) : String :=
  "text ~ " ++ quoted key ++ spaceClause spaces

end AtlasMindNetra.CqlBuilder
