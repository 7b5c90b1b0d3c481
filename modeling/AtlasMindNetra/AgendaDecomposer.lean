import AtlasMindNetra.BriefingOrchestrator

/-!
# The agenda decomposer

`core/agenda_decomposer.py`: the topics the LLM returns are cut to the allowed
number, and a topic without an id is numbered by its position. The numbers and
the ids the LLM chose are not compared with each other or among themselves, and
the briefing keys its results and its sub-sessions by these ids.
-/

namespace AtlasMindNetra.AgendaDecomposer

open AtlasMindNetra.PythonValues AtlasMindNetra.ResponseModels
open AtlasMindNetra.BriefingOrchestrator

set_option autoImplicit false

-- `str.strip`, and the LLM behind the agent.
variable (strip : String → String) (agent : String → Except AgentError (List AgendaTopic))

def buildPrompt (agendaText : String) (projects : List String) : String :=
  let scope :=
    if projects.isEmpty then []
    else ["", "PROJECT SCOPE OVERRIDE: " ++ String.intercalate ", " projects]
  String.intercalate "\n" (["AGENDA TEXT:", strip agendaText] ++ scope ++
    ["", "-> Decompose the agenda into data questions per the system prompt."])

def numberedId (index : Nat) : String := s!"topic_{index + 1}"

def assign (index : Nat) (topic : AgendaTopic) : AgendaTopic :=
  if topic.topicId = "" then { topic with topicId := numberedId index } else topic

def decompose (maxTopics : Int) (agendaText : String) (projects : List String) :
    Except PyError (List AgendaTopic) :=
  match agent (buildPrompt strip agendaText projects) with
  | .error (.agentRun message) | .error (.user message) =>
      .error (.decomposition s!"agenda decomposition LLM call failed: {message}")
  | .error (.other message) => .error (.other message)
  | .ok topics => .ok ((sliceTo maxTopics topics).mapIdx assign)

theorem numbered_id_injective
    (first second : Nat)
    (same : numberedId first = numberedId second) : first = second := by
  have letters := congrArg String.toList same
  simp only [numberedId, String.toList_append, List.append_cancel_left_eq] at letters
  have digits : Nat.toDigits 10 (first + 1) = Nat.toDigits 10 (second + 1) := by
    rw [← Nat.toList_repr, ← Nat.toList_repr]
    exact letters
  have numbers := congrArg (fun digits => Nat.ofDigitChars 10 digits 0) digits
  rw [Nat.ofDigitChars_ten_toDigits, Nat.ofDigitChars_ten_toDigits] at numbers
  exact Nat.succ.inj numbers

theorem numbered_id_ne_empty (index : Nat) : numberedId index ≠ "" := by
  intro empty
  have letters := congrArg String.toList empty
  rw [numberedId, String.toList_append] at letters
  exact absurd (List.append_eq_nil_iff.mp letters).1 (by decide)

/-- No two of the given ids are equal, and none is the number of a topic without id. -/
def IdsApart (topics : List AgendaTopic) : Prop :=
  ∀ (index later : Nat) (first second : AgendaTopic), index < later →
    topics[index]? = some first → topics[later]? = some second →
      (first.topicId ≠ "" → first.topicId ≠ second.topicId) ∧
      (first.topicId = "" → second.topicId ≠ numberedId index) ∧
      (second.topicId = "" → first.topicId ≠ numberedId later)

theorem assign_id (index : Nat) (topic : AgendaTopic) :
    (assign index topic).topicId =
      if topic.topicId = "" then numberedId index else topic.topicId := by
  unfold assign
  split_ifs <;> rfl

theorem assigned_differ_iff
    (index later : Nat)
    (before : index < later)
    (first second : AgendaTopic) :
    (assign index first).topicId ≠ (assign later second).topicId ↔
      (first.topicId ≠ "" → first.topicId ≠ second.topicId) ∧
      (first.topicId = "" → second.topicId ≠ numberedId index) ∧
      (second.topicId = "" → first.topicId ≠ numberedId later) := by
  rw [assign_id, assign_id]
  by_cases firstEmpty : first.topicId = ""
  · by_cases secondEmpty : second.topicId = ""
    · rw [if_pos firstEmpty, if_pos secondEmpty]
      constructor
      · intro _
        refine ⟨fun given => absurd firstEmpty given, fun _ => ?_, fun _ => ?_⟩
        · rw [secondEmpty]
          exact (numbered_id_ne_empty index).symm
        · rw [firstEmpty]
          exact (numbered_id_ne_empty later).symm
      · intro _ same
        exact absurd (numbered_id_injective index later same) (Nat.ne_of_lt before)
    · rw [if_pos firstEmpty, if_neg secondEmpty]
      constructor
      · intro apart
        exact ⟨fun given => absurd firstEmpty given, fun _ => apart.symm,
          fun empty => absurd empty secondEmpty⟩
      · intro apart
        exact (apart.2.1 firstEmpty).symm
  · by_cases secondEmpty : second.topicId = ""
    · rw [if_neg firstEmpty, if_pos secondEmpty]
      constructor
      · intro apart
        refine ⟨fun _ => ?_, fun empty => absurd empty firstEmpty, fun _ => apart⟩
        rw [secondEmpty]
        exact firstEmpty
      · intro apart
        exact apart.2.2 secondEmpty
    · rw [if_neg firstEmpty, if_neg secondEmpty]
      constructor
      · intro apart
        exact ⟨fun _ => apart, fun empty => absurd empty firstEmpty,
          fun empty => absurd empty secondEmpty⟩
      · intro apart
        exact apart.1 firstEmpty

theorem assigned_nodup_iff (topics : List AgendaTopic) :
    ((topics.mapIdx assign).map AgendaTopic.topicId).Nodup ↔ IdsApart topics := by
  rw [List.Nodup, List.pairwise_iff_getElem]
  constructor
  · intro apart index later first second before here there
    rcases List.getElem?_eq_some_iff.mp here with ⟨bound, rfl⟩
    rcases List.getElem?_eq_some_iff.mp there with ⟨laterBound, rfl⟩
    apply (assigned_differ_iff index later before _ _).mp
    have differ := apart index later (by simpa using bound) (by simpa using laterBound) before
    simpa using differ
  · intro apart index later bound laterBound before
    have inside : index < topics.length := by simpa using bound
    have laterInside : later < topics.length := by simpa using laterBound
    have differ := (assigned_differ_iff index later before topics[index] topics[later]).mpr
      (apart index later _ _ before (List.getElem?_eq_getElem inside)
        (List.getElem?_eq_getElem laterInside))
    simpa using differ

/-- Of the topics the LLM returned, the first ones come back in order, each with
its own id or a number. Their ids, and the sub-sessions of any briefing named
after them, are distinct exactly if the given ids do not clash. -/
theorem topic_ids_unique_iff
    (maxTopics : Int)
    (agendaText : String)
    (projects : List String)
    (topics : List AgendaTopic)
    (wanted : 0 ≤ maxTopics)
    (replied : agent (buildPrompt strip agendaText projects) = .ok topics) :
    ∃ result, decompose strip agent maxTopics agendaText projects = .ok result ∧
      result.length = min maxTopics.toNat topics.length ∧
      (∀ (index : Nat) (topic : AgendaTopic), (topics.take maxTopics.toNat)[index]? = some topic →
        ∃ topicId, result[index]? = some { topic with topicId } ∧
          (topic.topicId ≠ "" → topicId = topic.topicId)) ∧
      (∀ topic ∈ result, topic.topicId ≠ "") ∧
      ((result.map AgendaTopic.topicId).Nodup ↔ IdsApart (topics.take maxTopics.toNat)) ∧
      ∀ sessionId, (result.map fun topic => topicSessionId sessionId topic.topicId).Nodup ↔
        IdsApart (topics.take maxTopics.toNat) := by
  have cut : sliceTo maxTopics topics = topics.take maxTopics.toNat := by
    rw [sliceTo, if_neg (by omega)]
  refine ⟨(topics.take maxTopics.toNat).mapIdx assign, ?_, ?_, ?_, ?_, assigned_nodup_iff _, ?_⟩
  · rw [decompose, replied, ← cut]
  · rw [List.length_mapIdx, List.length_take]
  · intro index topic here
    refine ⟨(assign index topic).topicId, ?_, ?_⟩
    · rw [List.getElem?_mapIdx, here, Option.map_some, assign]
      split_ifs <;> rfl
    · intro given
      rw [assign_id, if_neg given]
  · intro topic member
    rcases List.mem_mapIdx.mp member with ⟨index, bound, rfl⟩
    rw [assign_id]
    split_ifs with empty
    · exact numbered_id_ne_empty index
    · exact empty
  · intro sessionId
    have sessions := List.nodup_map_iff (topic_session_id_inj sessionId)
      (l := ((topics.take maxTopics.toNat).mapIdx assign).map AgendaTopic.topicId)
    rw [List.map_map] at sessions
    exact sessions.trans (assigned_nodup_iff _)

def topicNamed (topicId description : String) : AgendaTopic where
  topicId := topicId
  description := description
  suggestedQuery := description

def clashingTopics : List AgendaTopic :=
  [topicNamed "topic_2" "Open bugs", topicNamed "" "Late releases"]

def apartTopics : List AgendaTopic :=
  [topicNamed "topic_1" "Open bugs", topicNamed "" "Late releases"]

def topicIds (outcome : Except PyError (List AgendaTopic)) : List String :=
  (outcome.toOption.getD []).map AgendaTopic.topicId

theorem given_number_clashes :
    topicIds (decompose id (fun _ => .ok clashingTopics) 10 "Weekly review" []) =
      ["topic_2", "topic_2"] ∧
    topicIds (decompose id (fun _ => .ok (List.replicate 2 (topicNamed "bugs" "Open bugs"))) 10
      "Weekly review" []) = ["bugs", "bugs"] := by
  decide +kernel

theorem numbers_apart :
    (topicIds (decompose id (fun _ => .ok apartTopics) 10 "Weekly review" [])).Nodup := by
  rcases topic_ids_unique_iff id (fun _ => .ok apartTopics) 10 "Weekly review" [] apartTopics
    (by decide) rfl with ⟨result, outcome, -, -, -, distinct, -⟩
  rw [topicIds, outcome]
  apply distinct.mpr
  intro index later first second before here there
  match index, later with
  | 0, 1 =>
      cases here
      cases there
      decide +kernel
  | 0, _ + 2 => cases there
  | 1, _ + 2 => cases there
  | _ + 2, _ => cases here

end AtlasMindNetra.AgendaDecomposer
