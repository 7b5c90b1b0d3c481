import AtlasMindNetra.OrchestratorRuns

/-!
# Learned once, never asked again

A term that some answer names is filed at the instance level before the call
goes on, in memory and in the file. From then on every lookup of the term finds
its convention, in every session and after every restart, until the convention
is deleted. Two spellings are one term if they lower to the same text.
-/

namespace AtlasMindNetra.Orchestrator

open AtlasMindNetra.PythonValues AtlasMindNetra.ResponseModels
open AtlasMindNetra.SessionStore AtlasMindNetra.ConventionsStore
open AtlasMindNetra.IntentClassifier AtlasMindNetra.EffectRules AtlasMindNetra.RunRules
open AtlasMindNetra.ConventionsStore.JsonFileConventionsStore

set_option autoImplicit false

/-- What happens to a server: calls and expiries, restarts, and deletions of a
convention by the maintainer. -/
inductive TeamInput where
  | serves (input : OrchestratorInput)
  | restarts
  | deletes (project term : String)

/-- A restart reads the file again; the sessions of the in-memory store are gone. -/
def teamStep (orch : OrchestratorConfig) (store : SessionBackend) (world : World) :
    TeamInput → World × Option CallRecord
  | .serves input => worldStep orch store world input
  | .restarts =>
      ({ sessions := match store with
          | .inMemory => ∅
          | .valkey => world.sessions
         conventions := openFile orch.tables world.conventions.file }, none)
  | .deletes project term =>
      ({ world with conventions := (world.conventions.delete orch.tables project term).2 }, none)

def TeamInput.WritesSucceed : TeamInput → Prop
  | .serves (.call _ env) => ∀ path index, env.clarification.conventionsSet path index = none
  | _ => True

/-- The input does not delete the convention of `term` at the instance level. -/
def TeamInput.Keeps (tables : TextTables) (term : String) : TeamInput → Prop
  | .deletes project other => defaultKey tables term ≠ key tables project other
  | _ => True

section Memory

variable (orch : OrchestratorConfig)

/-- The call handles an answer, and a resolution of the answer names `term`. -/
def Teaches (env : QueryEnvironment) (record : CallRecord) (term : String) : Prop :=
  ∃ path request resolved item, .resolveRequested path request ∈ record.events ∧
    env.clarification.resolveAnswer path request = .ok resolved ∧
    item ∈ resolved.resolutions ∧ orch.tables.lower item.term = orch.tables.lower term

/-- The clarifier is asked to formulate a question about `term`. -/
def AsksAbout (events : List OrchestratorEvent) (term : String) : Prop :=
  ∃ request named, .formulateRequested request ∈ events ∧ named ∈ request.terms ∧
    orch.tables.lower named = orch.tables.lower term

/-- The team has a convention for `term`. -/
def TeamKnows (conventions : JsonFileConventionsStore) (term : String) : Prop :=
  conventions.items.get? (defaultKey orch.tables term) ≠ none

theorem team_knows_remember
    (conventions : JsonFileConventionsStore)
    (learnedAt : String)
    (item : TermResolutionOutput)
    (term : String)
    (known : TeamKnows orch conventions term) :
    TeamKnows orch (conventions.remember orch.tables (learnedConvention orch learnedAt item))
      term := by
  unfold TeamKnows
  rw [remember, OrderedDict.get?_set]
  split_ifs
  · simp
  · exact known

theorem team_knows_item
    (lowerTwice : ∀ text, orch.tables.lower (orch.tables.lower text) = orch.tables.lower text)
    (conventions : JsonFileConventionsStore)
    (learnedAt : String)
    (item : TermResolutionOutput) :
    TeamKnows orch (conventions.remember orch.tables (learnedConvention orch learnedAt item))
      item.term := by
  have same : key orch.tables instanceDefaultProject (orch.tables.lower item.term) =
      defaultKey orch.tables item.term := by
    rw [key, lowerTwice]
    rfl
  unfold TeamKnows
  rw [remember, learnedConvention, same, OrderedDict.get?_set_self]
  simp

variable (env : QueryEnvironment)

theorem learned_team_knows
    (path : AnswerPath)
    (index : Nat)
    (items : List TermResolutionOutput)
    (start : CallState)
    (term : String)
    (known : TeamKnows orch start.conventions term) :
    TeamKnows orch (learned orch env.clarification path index items start).conventions term := by
  apply @learned_carries orch (fun st => TeamKnows orch st.conventions term) env.clarification _ _
    path index items start known
  · exact fun st learnedAt item known =>
      team_knows_remember orch st.conventions learnedAt item term known
  · exact fun st known => known

theorem learned_knows_items
    (lowerTwice : ∀ text, orch.tables.lower (orch.tables.lower text) = orch.tables.lower text)
    (writes : ∀ path index, env.clarification.conventionsSet path index = none)
    (path : AnswerPath)
    (index : Nat)
    (items : List TermResolutionOutput)
    (start : CallState) :
    ∀ item ∈ items,
      TeamKnows orch (learned orch env.clarification path index items start).conventions
        item.term := by
  induction items generalizing index start with
  | nil => exact fun _ absent => absurd absent List.not_mem_nil
  | cons first rest ih =>
      rw [learned, writes path index]
      intro item member
      rcases List.mem_cons.mp member with rfl | later
      · apply learned_team_knows
        exact team_knows_item orch lowerTwice start.conventions _ item
      · exact ih _ _ item later

theorem learned_filed
    (writes : ∀ path index, env.clarification.conventionsSet path index = none)
    (path : AnswerPath)
    (index : Nat)
    (items : List TermResolutionOutput)
    (start : CallState)
    (filed : Filed orch.tables start.conventions) :
    Filed orch.tables (learned orch env.clarification path index items start).conventions := by
  induction items generalizing index start with
  | nil => exact filed
  | cons item rest ih =>
      rw [learned, writes path index]
      exact ih _ _ (filed_remember start.conventions _ filed)

/-- The file is complete, and every answer of the call so far is known. -/
structure TeachingCall (st : CallState) : Prop where
  filed : Filed orch.tables st.conventions
  taught : ∀ path request resolved, .resolveRequested path request ∈ st.events →
    env.clarification.resolveAnswer path request = .ok resolved →
    ∀ item ∈ resolved.resolutions, TeamKnows orch st.conventions item.term

variable {orch env} in
theorem teaching_log
    (st : CallState)
    (event : OrchestratorEvent)
    (plain : ∀ path request, event ≠ .resolveRequested path request)
    (teaching : TeachingCall orch env st) : TeachingCall orch env (st.log event) := by
  constructor
  · exact teaching.filed
  · intro path request resolved member
    rw [log_events, List.mem_append, List.mem_singleton] at member
    rcases member with earlier | new
    · exact teaching.taught path request resolved earlier
    · exact absurd new.symm (plain path request)

theorem teaching_preserves
    (lowerTwice : ∀ text, orch.tables.lower (orch.tables.lower text) = orch.tables.lower text)
    (writes : ∀ path index, env.clarification.conventionsSet path index = none)
    (sessionId : String) : Preserves orch env sessionId (TeachingCall orch env) where
  logged st event plain teaching := by
    apply teaching_log st event _ teaching
    rintro path request rfl
    cases plain
  formulates _ st _ _ teaching := teaching_log st _ (by simp) teaching
  unresolved path request error st failed teaching := by
    constructor
    · exact teaching.filed
    · intro place other resolved member returned
      rw [log_events, List.mem_append, List.mem_singleton] at member
      rcases member with earlier | new
      · exact teaching.taught place other resolved earlier returned
      · cases new
        rw [failed] at returned
        cases returned
  resolves path request resolved st returned teaching := by
    constructor
    · exact learned_filed orch env writes path 0 resolved.resolutions _ teaching.filed
    · intro place other more member again item named
      rw [(learned_frame 0 resolved.resolutions _).2.2, log_events, List.mem_append,
        List.mem_singleton] at member
      rcases member with earlier | new
      · apply learned_team_knows
        exact teaching.taught place other more earlier again item named
      · cases new
        rw [returned] at again
        cases again
        exact learned_knows_items orch env lowerTwice writes path 0 resolved.resolutions _ item named
  moved st newState _ teaching := by
    have recorded := teaching_log st (.transition st.session.state newState) (by simp) teaching
    exact ⟨recorded.filed, recorded.taught⟩
  counted st teaching := ⟨teaching.filed, teaching.taught⟩
  dispatches st teaching := ⟨teaching.filed, teaching.taught⟩
  awaits query start question _ _ teaching := by
    have recorded := teaching_log (repliedState orch env query start question)
      (.transition (repliedState orch env query start question).session.state
        .awaitingClarification) (by simp) teaching
    exact ⟨recorded.filed, recorded.taught⟩
  opened st teaching := by
    unfold CallState.opened
    cases st.sessions.get? sessionId <;> exact ⟨teaching.filed, teaching.taught⟩
  replaced st teaching := ⟨teaching.filed, teaching.taught⟩
  reissues st _ teaching := by
    unfold CallState.opened
    cases st.sessions.get? sessionId <;> exact ⟨teaching.filed, teaching.taught⟩

/-- The team knows `term` and this call has not asked about it. -/
structure SettledTerm (term : String) (st : CallState) : Prop where
  known : TeamKnows orch st.conventions term
  unasked : ¬AsksAbout orch st.events term

variable {orch} in
theorem settled_log
    (term : String)
    (st : CallState)
    (event : OrchestratorEvent)
    (other : ∀ request, event = .formulateRequested request →
      ∀ named ∈ request.terms, orch.tables.lower named ≠ orch.tables.lower term)
    (settled : SettledTerm orch term st) : SettledTerm orch term (st.log event) := by
  constructor
  · exact settled.known
  · rintro ⟨request, named, member, asked, same⟩
    rw [log_events, List.mem_append, List.mem_singleton] at member
    rcases member with earlier | new
    · exact settled.unasked ⟨request, named, earlier, asked, same⟩
    · exact other request new.symm named asked same

theorem unresolved_not_known
    (query : String)
    (st : CallState)
    (named : String)
    (opened : named ∈ unresolvedTerms orch query st) : ¬TeamKnows orch st.conventions named := by
  have unknown := (List.mem_filter.mp opened).2
  rw [interpretation] at unknown
  intro known
  cases held : st.session.resolutions.get? named with
  | some resolution =>
      rw [held] at unknown
      cases unknown
  | none =>
      rw [held, get_default] at unknown
      cases found : st.conventions.items.get? (defaultKey orch.tables named) with
      | none => exact known found
      | some convention =>
          rw [defaultKey] at found
          rw [found] at unknown
          cases unknown

theorem settled_preserves
    (term sessionId : String) : Preserves orch env sessionId (SettledTerm orch term) where
  logged st event plain settled := by
    apply settled_log term st event _ settled
    rintro request rfl
    cases plain
  formulates query st request asked settled := by
    apply settled_log term st _ _ settled
    rintro other same named member spelled
    cases same
    have terms : request.terms = unresolvedTerms orch query st := by
      unfold formulateRequest at asked
      cases list : env.clarification.conventionsList with
      | some error =>
          rw [list] at asked
          cases asked
      | none =>
          rw [list] at asked
          cases fields : env.clarification.loadFields with
          | error error =>
              rw [fields] at asked
              cases asked
          | ok fields' =>
              rw [fields] at asked
              cases asked
              rfl
    rw [terms] at member
    apply unresolved_not_known orch query st named member
    rw [TeamKnows, defaultKey, key, spelled]
    exact settled.known
  unresolved _ _ _ st _ settled := settled_log term st _ (by simp) settled
  resolves path request resolved st _ settled := by
    have asked := settled_log term st (.resolveRequested path request) (by simp) settled
    constructor
    · exact learned_team_knows orch env path 0 resolved.resolutions _ term asked.known
    · rw [(learned_frame 0 resolved.resolutions _).2.2]
      exact asked.unasked
  moved st newState _ settled := by
    have recorded := settled_log term st (.transition st.session.state newState) (by simp) settled
    exact ⟨recorded.known, recorded.unasked⟩
  counted st settled := ⟨settled.known, settled.unasked⟩
  dispatches st settled := ⟨settled.known, settled.unasked⟩
  awaits query start question _ _ settled := by
    have recorded := settled_log term (repliedState orch env query start question)
      (.transition (repliedState orch env query start question).session.state
        .awaitingClarification) (by simp) settled
    exact ⟨recorded.known, recorded.unasked⟩
  opened st settled := by
    unfold CallState.opened
    cases st.sessions.get? sessionId <;> exact ⟨settled.known, settled.unasked⟩
  replaced st settled := ⟨settled.known, settled.unasked⟩
  reissues st _ settled := by
    unfold CallState.opened
    cases st.sessions.get? sessionId <;> exact ⟨settled.known, settled.unasked⟩

end Memory

section Runs

variable (orch : OrchestratorConfig) (store : SessionBackend)

theorem teaching_call
    (lowerTwice : ∀ text, orch.tables.lower (orch.tables.lower text) = orch.tables.lower text)
    (world : World)
    (call : QueryCall)
    (env : QueryEnvironment)
    (writes : ∀ path index, env.clarification.conventionsSet path index = none)
    (filed : Filed orch.tables world.conventions) :
    Filed orch.tables (queryStep orch store world call env).1.conventions ∧
      ∀ term, Teaches orch env (queryStep orch store world call env).2 term →
        TeamKnows orch (queryStep orch store world call env).1.conventions term := by
  have start : TeachingCall orch env (CallState.start world call.sessionId) :=
    ⟨filed, fun _ _ _ absent => absurd absent List.not_mem_nil⟩
  apply (query_step_iff orch store world call env fun next record =>
    Filed orch.tables next.conventions ∧
      ∀ term, Teaches orch env record term → TeamKnows orch next.conventions term).mpr
  have concludes : ∀ final outcome, TeachingCall orch env final →
      Filed orch.tables (final.close store).conventions ∧
        ∀ term, Teaches orch env ⟨outcome, final.events⟩ term →
          TeamKnows orch (final.close store).conventions term := by
    intro final outcome teaching
    rw [close_conventions store]
    constructor
    · exact teaching.filed
    · rintro term ⟨path, request, resolved, item, member, returned, named, same⟩
      have known := teaching.taught path request resolved member returned item named
      rw [TeamKnows, defaultKey, key, same] at known
      exact known
  apply ensures_mono ((teaching_preserves orch env lowerTwice writes call.sessionId).handle_query
    call _ start)
  · exact fun response final teaching => concludes final (.ok response) teaching
  · exact fun error final teaching => concludes final (.error error) teaching

theorem settled_call
    (world : World)
    (call : QueryCall)
    (env : QueryEnvironment)
    (term : String)
    (known : TeamKnows orch world.conventions term) :
    TeamKnows orch (queryStep orch store world call env).1.conventions term ∧
      ¬AsksAbout orch (queryStep orch store world call env).2.events term := by
  have start : SettledTerm orch term (CallState.start world call.sessionId) := by
    constructor
    · exact known
    · rintro ⟨_, _, absent, _⟩
      exact absurd absent List.not_mem_nil
  apply (query_step_iff orch store world call env fun next record =>
    TeamKnows orch next.conventions term ∧ ¬AsksAbout orch record.events term).mpr
  have concludes : ∀ final, SettledTerm orch term final →
      TeamKnows orch (final.close store).conventions term ∧ ¬AsksAbout orch final.events term := by
    intro final settled
    rw [close_conventions store]
    exact ⟨settled.known, settled.unasked⟩
  apply ensures_mono ((settled_preserves orch env term call.sessionId).handle_query call _ start)
  · exact fun _ final settled => concludes final settled
  · exact fun _ final settled => concludes final settled

theorem team_step_filed
    (lowerTwice : ∀ text, orch.tables.lower (orch.tables.lower text) = orch.tables.lower text)
    (world : World)
    (input : TeamInput)
    (filed : Filed orch.tables world.conventions)
    (writes : input.WritesSucceed) :
    Filed orch.tables (teamStep orch store world input).1.conventions := by
  cases input with
  | serves served =>
      cases served with
      | call call env => exact (teaching_call orch store lowerTwice world call env writes filed).1
      | expire sessionId => exact filed
  | restarts => exact filed_open world.conventions.file
  | deletes project term => exact filed_delete world.conventions project term filed

/-- Nothing but its deletion makes the team forget a term. -/
theorem team_step_knows
    (world : World)
    (input : TeamInput)
    (term : String)
    (filed : Filed orch.tables world.conventions)
    (known : TeamKnows orch world.conventions term)
    (keeps : input.Keeps orch.tables term) :
    TeamKnows orch (teamStep orch store world input).1.conventions term := by
  cases input with
  | serves served =>
      cases served with
      | call call env => exact (settled_call orch store world call env term known).1
      | expire sessionId => exact known
  | restarts =>
      change (openFile orch.tables world.conventions.file).items.get? _ ≠ none
      rw [filed.saved]
      exact known
  | deletes project other =>
      change (world.conventions.delete orch.tables project other).2.items.get? _ ≠ none
      rw [get?_delete_other world.conventions project other _ keeps]
      exact known

/-- Once an answer has named a term no later call asks about it, in any session
and after any restart, while nobody deletes its convention. -/
theorem learned_never_asked_again
    (lowerTwice : ∀ text, orch.tables.lower (orch.tables.lower text) = orch.tables.lower text)
    (sessions : SessionTable)
    (file : Option (List Convention))
    (world : World)
    (reached : Reachable (teamStep orch store) (fun _ input => input.WritesSucceed)
      { sessions := sessions, conventions := openFile orch.tables file } world)
    (call : QueryCall)
    (env : QueryEnvironment)
    (writes : ∀ path index, env.clarification.conventionsSet path index = none)
    (term : String)
    (teaches : Teaches orch env (queryStep orch store world call env).2 term)
    (later : List TeamInput)
    (kept : EveryStep (teamStep orch store)
      (fun _ input => input.WritesSucceed ∧ input.Keeps orch.tables term)
      (queryStep orch store world call env).1 later)
    (next : QueryCall)
    (nextEnv : QueryEnvironment) :
    ¬AsksAbout orch
      (queryStep orch store
        (run (teamStep orch store) (queryStep orch store world call env).1 later).1
        next nextEnv).2.events term := by
  have filed : Filed orch.tables world.conventions := by
    apply reachable_invariant (fun world : World => Filed orch.tables world.conventions) _ _ reached
    · exact fun state input held written => team_step_filed orch store lowerTwice state input held
        written
    · exact filed_open file
  rcases teaching_call orch store lowerTwice world call env writes filed with ⟨filedNow, taught⟩
  have knows := run_invariant
    (fun world : World => Filed orch.tables world.conventions ∧
      TeamKnows orch world.conventions term)
    (fun state input held allowed =>
      ⟨team_step_filed orch store lowerTwice state input held.1 allowed.1,
        team_step_knows orch store state input term held.1 held.2 allowed.2⟩)
    (queryStep orch store world call env).1 later ⟨filedNow, taught term teaches⟩ kept
  exact (settled_call orch store _ next nextEnv term knows.2).2

end Runs

theorem to_lower_twice (char : Char) : char.toLower.toLower = char.toLower := by
  unfold Char.toLower
  split
  · next upper =>
      rw [dif_neg]
      intro lowered
      have first := UInt32.le_iff_toNat_le.mp upper.1
      have second := UInt32.le_iff_toNat_le.mp upper.2
      have third := UInt32.le_iff_toNat_le.mp lowered.2
      simp only [UInt32.toNat_add] at third
      simp at first second third
      omega
  · rfl

theorem ascii_lower_twice (text : String) :
    asciiTables.lower (asciiTables.lower text) = asciiTables.lower text := by
  simp only [asciiTables, String.toList_ofList, List.map_map]
  congr 1
  apply List.map_congr_left
  intro char _
  exact to_lower_twice char

/-- The answer taught `open`; after a restart a colleague asks in capitals. -/
theorem colleague_not_asked :
    ¬AsksAbout sampleOrchestrator
      (queryStep sampleOrchestrator .inMemory
        (run (teamStep sampleOrchestrator .inMemory)
          (queryStep sampleOrchestrator .inMemory
            (teamStep sampleOrchestrator .inMemory {}
              (.serves (.call { query := "open", sessionId := "s" } sampleEnvironment))).1
            answerOpen sampleEnvironment).1 [.restarts]).1
        { query := "OPEN", sessionId := "t" } sampleEnvironment).2.events "Open" := by
  have writes : ∀ path index, sampleEnvironment.clarification.conventionsSet path index = none :=
    fun _ _ => rfl
  apply learned_never_asked_again sampleOrchestrator .inMemory ascii_lower_twice ∅ none _
    ⟨[.serves (.call { query := "open", sessionId := "s" } sampleEnvironment)], ⟨writes, trivial⟩,
      rfl⟩ answerOpen sampleEnvironment writes "Open" _ [.restarts] ⟨⟨trivial, trivial⟩, trivial⟩
  have asked : OrchestratorEvent.resolveRequested .roundTrip
      (resolveRequest sampleOrchestrator "open" ["open"] "yes") ∈
      (queryStep sampleOrchestrator .inMemory
        (teamStep sampleOrchestrator .inMemory {}
          (.serves (.call { query := "open", sessionId := "s" } sampleEnvironment))).1
        answerOpen sampleEnvironment).2.events := by decide +kernel
  exact ⟨_, _, _, _, asked, rfl, List.mem_cons_self, by decide +kernel⟩

end AtlasMindNetra.Orchestrator
