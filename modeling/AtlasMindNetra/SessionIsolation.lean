import AtlasMindNetra.QueryThreads

/-!
# Sessions do not influence each other

A call reaches, from its session id, the entry of that session and the objects
that were created for it, and it shares the conventions and the fields cache
with all calls. The cache holds what the file holds, if anything, so a call
cannot tell whether it is filled. Only the conventions are left.
-/

namespace AtlasMindNetra.QueryThreads

open AtlasMindNetra.PythonValues AtlasMindNetra.ResponseModels
open AtlasMindNetra.SessionStore AtlasMindNetra.ConventionsStore
open AtlasMindNetra.IntentClassifier AtlasMindNetra.RunRules AtlasMindNetra.ThreadRules
open AtlasMindNetra.ThreadRules.Resumption
open AtlasMindNetra.Orchestrator (OrchestratorConfig QueryCall QueryEnvironment ClarificationSide
  BackendSide AnswerPath ActiveTerms recordResolution clearPending repeatsQuestion)

set_option autoImplicit false

@[ext]
structure SessionView where
  entry : Option StoredSession
  objects : Nat → SessionState
  created : Nat
  conventions : JsonFileConventionsStore

def sessionView (sessionId : String) (memory : Memory) : SessionView where
  entry := memory.entries.get? sessionId
  objects number := memory.objects { owner := sessionId, number := number }
  created := memory.created sessionId
  conventions := memory.conventions

def StoredSession.ownedBy (sessionId : String) : StoredSession → Prop
  | .object ref => ref.owner = sessionId
  | .copy session => session.sessionId = sessionId

/-- Entries and objects belong to the sessions that they are named by, and the
cache holds nothing but what is in the file. -/
structure SoundMemory (fieldsFile : Except PyError (List JiraField)) (memory : Memory) : Prop where
  entries : ∀ sessionId stored, memory.entries.get? sessionId = some stored →
    stored.ownedBy sessionId
  objects : ∀ ref, (memory.objects ref).sessionId = ref.owner
  fields : ∀ fields, memory.fields = some fields → fieldsFile = .ok fields

section Isolation

variable (fieldsFile : Except PyError (List JiraField)) (sessionId : String)

/-- A program of the session that returns nothing but `returns`. -/
abbrev Isolated {Value : Type} (returns : Value → Prop) (program : Program Value) : Prop :=
  Confined (SoundMemory fieldsFile) sessionView Memory.conventions sessionId returns program

variable {fieldsFile sessionId}

theorem transition_session_id
    (session next : SessionState)
    (newState : ClarificationState)
    (moved : session.transition newState = .ok next) : next.sessionId = session.sessionId := by
  unfold SessionState.transition at moved
  split_ifs at moved
  cases moved
  rfl

theorem view_fields
    (memory other : Memory)
    (same : sessionView sessionId memory = sessionView sessionId other) :
    memory.entries.get? sessionId = other.entries.get? sessionId ∧
      memory.created sessionId = other.created sessionId ∧
      memory.conventions = other.conventions :=
  ⟨congrArg SessionView.entry same, congrArg SessionView.created same,
    congrArg SessionView.conventions same⟩

theorem view_object
    (memory other : Memory)
    (ref : SessionRef)
    (own : ref.owner = sessionId)
    (same : sessionView sessionId memory = sessionView sessionId other) :
    memory.objects ref = other.objects ref := by
  rcases ref with ⟨owner, number⟩
  cases own
  exact congrFun (congrArg SessionView.objects same) number

theorem sound_write
    (memory : Memory)
    (ref : SessionRef)
    (session : SessionState)
    (sound : SoundMemory fieldsFile memory)
    (own : session.sessionId = ref.owner) : SoundMemory fieldsFile (memory.write ref session) := by
  constructor
  · exact sound.entries
  · intro other
    rw [objects_write]
    split_ifs with same
    · rw [same]
      exact own
    · exact sound.objects other
  · exact sound.fields

theorem view_write_own
    (memory other : Memory)
    (ref : SessionRef)
    (session : SessionState)
    (same : sessionView sessionId memory = sessionView sessionId other) :
    sessionView sessionId (memory.write ref session) =
      sessionView sessionId (other.write ref session) := by
  have fields := view_fields memory other same
  apply SessionView.ext
  · exact fields.1
  · funext number
    have object := view_object memory other ⟨sessionId, number⟩ rfl same
    simp only [sessionView, objects_write, object]
  · exact fields.2.1
  · exact fields.2.2

theorem view_write_other
    (memory : Memory)
    (ref : SessionRef)
    (session : SessionState)
    (apart : sessionId ≠ ref.owner) :
    sessionView sessionId (memory.write ref session) = sessionView sessionId memory := by
  apply SessionView.ext
  · rfl
  · funext number
    have different : (⟨sessionId, number⟩ : SessionRef) ≠ ref := fun same =>
      apart (congrArg SessionRef.owner same)
    simp only [sessionView, objects_write, if_neg different]
  · rfl
  · rfl

theorem sound_create
    (memory : Memory)
    (session : SessionState)
    (sound : SoundMemory fieldsFile memory)
    (own : session.sessionId = sessionId) :
    SoundMemory fieldsFile (memory.create sessionId session).1 := by
  constructor
  · exact sound.entries
  · intro other
    rw [objects_create]
    split_ifs with same
    · rw [same]
      exact own
    · exact sound.objects other
  · exact sound.fields

theorem view_create_own
    (memory other : Memory)
    (session : SessionState)
    (same : sessionView sessionId memory = sessionView sessionId other) :
    sessionView sessionId (memory.create sessionId session).1 =
        sessionView sessionId (other.create sessionId session).1 ∧
      (memory.create sessionId session).2 = (other.create sessionId session).2 := by
  rcases view_fields memory other same with ⟨entry, created, conventions⟩
  constructor
  · apply SessionView.ext
    · exact entry
    · funext number
      have object := view_object memory other ⟨sessionId, number⟩ rfl same
      simp only [sessionView, objects_create, object, created]
    · simp only [sessionView, created_create, created]
    · exact conventions
  · simp only [Memory.create, created]

theorem view_create_other
    (memory : Memory)
    (watcher : String)
    (session : SessionState)
    (apart : watcher ≠ sessionId) :
    sessionView watcher (memory.create sessionId session).1 = sessionView watcher memory := by
  apply SessionView.ext
  · rfl
  · funext number
    have different : (⟨watcher, number⟩ : SessionRef) ≠
        ⟨sessionId, memory.created sessionId⟩ := fun same => apart (congrArg SessionRef.owner same)
    simp only [sessionView, objects_create, if_neg different]
  · simp only [sessionView, created_create, if_neg apart]
  · rfl

theorem isolated_read
    {Value : Type}
    (read : Memory → Except PyError Value)
    (returns : Value → Prop)
    (seen : ∀ memory other, SoundMemory fieldsFile memory → SoundMemory fieldsFile other →
      sessionView sessionId memory = sessionView sessionId other → read memory = read other)
    (ends : ∀ memory value, SoundMemory fieldsFile memory → read memory = .ok value →
      returns value) :
    Isolated fieldsFile sessionId returns (atomic fun memory => (memory, read memory)) := by
  apply confined_atomic
  · constructor
    · exact fun memory sound => sound
    · exact fun memory other sound sound' same => ⟨same, seen memory other sound sound' same⟩
    · exact fun memory watcher sound apart silent => rfl
  · exact ends

theorem isolated_outside
    {Value : Type}
    (outcome : Except PyError Value) :
    Isolated fieldsFile sessionId (fun _ => True) (outside outcome) :=
  isolated_read (fun _ => outcome) _ (fun _ _ _ _ _ => rfl) fun _ _ _ _ => trivial

theorem isolated_readOr
    {Value : Type}
    (fault : Option PyError)
    (read : Memory → Value)
    (seen : ∀ memory other, sessionView sessionId memory = sessionView sessionId other →
      read memory = read other) :
    Isolated fieldsFile sessionId (fun _ => True) (readOr fault read) := by
  unfold readOr
  cases fault with
  | some error =>
      exact isolated_read (fun _ => .error error) _ (fun _ _ _ _ _ => rfl) fun _ _ _ _ => trivial
  | none =>
      exact isolated_read (fun memory => .ok (read memory)) _
        (fun memory other _ _ same => congrArg Except.ok (seen memory other same))
        fun _ _ _ _ => trivial

theorem isolated_update
    (change : Memory → Memory)
    (keeps : ∀ memory, SoundMemory fieldsFile memory → SoundMemory fieldsFile (change memory))
    (sees : ∀ memory other, SoundMemory fieldsFile memory → SoundMemory fieldsFile other →
      sessionView sessionId memory = sessionView sessionId other →
        sessionView sessionId (change memory) = sessionView sessionId (change other))
    (hides : ∀ memory watcher, SoundMemory fieldsFile memory → watcher ≠ sessionId →
      (change memory).conventions = memory.conventions →
        sessionView watcher (change memory) = sessionView watcher memory) :
    Isolated fieldsFile sessionId (fun _ => True) (update change) := by
  apply confined_atomic
  · constructor
    · exact keeps
    · exact fun memory other sound sound' same => ⟨sees memory other sound sound' same, rfl⟩
    · exact hides
  · exact fun _ _ _ _ => trivial

theorem isolated_conventions
    (change : JsonFileConventionsStore → JsonFileConventionsStore) :
    Isolated fieldsFile sessionId (fun _ => True) (update fun memory =>
      { memory with conventions := change memory.conventions }) := by
  apply isolated_update
  · exact fun memory sound => ⟨sound.entries, sound.objects, sound.fields⟩
  · intro memory other sound sound' same
    rcases view_fields memory other same with ⟨entry, created, conventions⟩
    apply SessionView.ext
    · exact entry
    · funext number
      exact view_object memory other ⟨sessionId, number⟩ rfl same
    · exact created
    · exact congrArg change conventions
  · intro memory watcher sound apart silent
    apply SessionView.ext
    · rfl
    · rfl
    · rfl
    · exact silent

variable (ref : SessionRef) (own : ref.owner = sessionId)

include own in
theorem isolated_read_session :
    Isolated fieldsFile sessionId (fun _ => True) (readSession ref) :=
  isolated_read (fun memory => .ok (memory.objects ref)) _
    (fun memory other _ _ same => congrArg Except.ok (view_object memory other ref own same))
    fun _ _ _ _ => trivial

include own in
theorem isolated_edit_session
    (change : SessionState → SessionState)
    (named : ∀ session, (change session).sessionId = session.sessionId) :
    Isolated fieldsFile sessionId (fun _ => True) (editSession ref change) := by
  apply isolated_update
  · intro memory sound
    apply sound_write memory ref _ sound
    rw [named, sound.objects]
  · intro memory other sound sound' same
    rw [view_object memory other ref own same]
    exact view_write_own memory other ref _ same
  · intro memory watcher sound apart silent
    apply view_write_other
    rw [own]
    exact apart

include own in
theorem isolated_transition
    (newState : ClarificationState) :
    Isolated fieldsFile sessionId (fun _ => True) (transition ref newState) := by
  apply confined_atomic
  · constructor
    · intro memory sound
      cases moved : (memory.objects ref).transition newState with
      | error error => exact sound
      | ok session =>
          apply sound_write memory ref session sound
          rw [transition_session_id _ _ _ moved, sound.objects]
    · intro memory other sound sound' same
      rw [view_object memory other ref own same]
      cases (other.objects ref).transition newState with
      | error error => exact ⟨same, rfl⟩
      | ok session => exact ⟨view_write_own memory other ref session same, rfl⟩
    · intro memory watcher sound apart silent
      rw [← own] at apart
      cases moved : (memory.objects ref).transition newState with
      | error error => rfl
      | ok session => exact view_write_other memory ref session apart
  · exact fun _ _ _ _ => trivial

include own in
theorem isolated_save_session
    (store : SessionBackend) :
    Isolated fieldsFile sessionId (fun _ => True) (saveSession store ref) := by
  apply isolated_update
  · intro memory sound
    have named := sound.objects ref
    constructor
    · intro key stored found
      rw [OrderedDict.get?_set] at found
      split_ifs at found with same
      · cases found
        rw [same]
        cases store with
        | inMemory => exact named.symm
        | valkey => rfl
      · exact sound.entries key stored found
    · exact sound.objects
    · exact sound.fields
  · intro memory other sound sound' same
    rcases view_fields memory other same with ⟨entry, created, conventions⟩
    have object := view_object memory other ref own same
    apply SessionView.ext
    · have keeps : kept store memory ref = kept store other ref := by
        cases store with
        | inMemory => rfl
        | valkey => exact congrArg StoredSession.copy object
      simp only [sessionView, OrderedDict.get?_set, object, keeps, entry]
    · funext number
      exact view_object memory other ⟨sessionId, number⟩ rfl same
    · exact created
    · exact conventions
  · intro memory watcher sound apart silent
    apply SessionView.ext
    · have different : watcher ≠ (memory.objects ref).sessionId := by
        rw [sound.objects, own]
        exact apart
      simp only [sessionView, OrderedDict.get?_set, if_neg different]
    · rfl
    · rfl
    · rfl

variable (sessionId) in
theorem isolated_new_session :
    Isolated fieldsFile sessionId (fun ref => ref.owner = sessionId) (newSession sessionId) := by
  apply confined_atomic
  · constructor
    · exact fun memory sound => sound_create memory _ sound rfl
    · intro memory other sound sound' same
      have created := view_create_own memory other { sessionId := sessionId } same
      exact ⟨created.1, congrArg Except.ok created.2⟩
    · exact fun memory watcher sound apart silent => view_create_other memory watcher _ apart
  · intro memory ref sound found
    cases found
    rfl

variable (sessionId) in
theorem isolated_open_session :
    Isolated fieldsFile sessionId (fun ref => ref.owner = sessionId) (openSession sessionId) := by
  apply confined_atomic
  · constructor
    · intro memory sound
      cases found : memory.entries.get? sessionId with
      | none => exact sound_create memory _ sound rfl
      | some stored =>
          cases stored with
          | object ref => exact sound
          | copy session =>
              exact sound_create memory session sound (sound.entries sessionId _ found)
    · intro memory other sound sound' same
      rw [(view_fields memory other same).1]
      cases other.entries.get? sessionId with
      | none =>
          have created := view_create_own memory other { sessionId := sessionId } same
          exact ⟨created.1, congrArg Except.ok created.2⟩
      | some stored =>
          cases stored with
          | object ref => exact ⟨same, rfl⟩
          | copy session =>
              have created := view_create_own memory other session same
              exact ⟨created.1, congrArg Except.ok created.2⟩
    · intro memory watcher sound apart silent
      cases found : memory.entries.get? sessionId with
      | none => exact view_create_other memory watcher _ apart
      | some stored =>
          cases stored with
          | object ref => rfl
          | copy session => exact view_create_other memory watcher _ apart
  · intro memory ref sound ended
    cases found : memory.entries.get? sessionId with
    | none =>
        simp only [found] at ended
        cases ended
        rfl
    | some stored =>
        cases stored with
        | object ref =>
            simp only [found] at ended
            cases ended
            exact sound.entries sessionId _ found
        | copy session =>
            simp only [found] at ended
            cases ended
            rfl

theorem loaded_fields_sound
    (memory : Memory)
    (sound : SoundMemory fieldsFile memory) :
    SoundMemory fieldsFile (loadedFields fieldsFile memory).1 ∧
      (loadedFields fieldsFile memory).2 = fieldsFile ∧
      ∀ watcher, sessionView watcher (loadedFields fieldsFile memory).1 =
        sessionView watcher memory := by
  unfold loadedFields
  cases cached : memory.fields with
  | some fields => exact ⟨sound, (sound.fields fields cached).symm, fun _ => rfl⟩
  | none =>
      cases fieldsFile with
      | error error => exact ⟨sound, rfl, fun _ => rfl⟩
      | ok fields =>
          refine ⟨⟨sound.entries, sound.objects, ?_⟩, rfl, fun _ => rfl⟩
          intro other same
          rw [Option.some.inj same]

theorem isolated_load_fields :
    Isolated fieldsFile sessionId (fun _ => True) (loadFields fieldsFile) := by
  apply confined_atomic
  · constructor
    · exact fun memory sound => (loaded_fields_sound memory sound).1
    · intro memory other sound sound' same
      rcases loaded_fields_sound memory sound with ⟨_, result, view⟩
      rcases loaded_fields_sound other sound' with ⟨_, result', view'⟩
      constructor
      · rw [view, view', same]
      · rw [result, result']
    · exact fun memory watcher sound apart silent => (loaded_fields_sound memory sound).2.2 watcher
  · exact fun _ _ _ _ => trivial

theorem isolated_expire :
    ConfinedStep (SoundMemory fieldsFile) sessionView Memory.conventions sessionId
      (Memory.expire sessionId) fun _ => () := by
  constructor
  · intro memory sound
    refine ⟨?_, sound.objects, sound.fields⟩
    intro key stored found
    rw [Memory.expire, OrderedDict.get?_erase] at found
    split_ifs at found
    exact sound.entries key stored found
  · intro memory other sound sound' same
    rcases view_fields memory other same with ⟨entry, created, conventions⟩
    refine ⟨SessionView.ext ?_ ?_ created conventions, rfl⟩
    · simp only [sessionView, Memory.expire, OrderedDict.get?_erase, if_true]
    · funext number
      exact view_object memory other ⟨sessionId, number⟩ rfl same
  · intro memory watcher sound apart silent
    apply SessionView.ext
    · simp only [sessionView, Memory.expire, OrderedDict.get?_erase, if_neg apart]
    · rfl
    · rfl
    · rfl

theorem isolated_then
    {Value Next : Type}
    (returns : Next → Prop)
    (first : Program Value)
    (next : Value → Program Next)
    (isolated : Isolated fieldsFile sessionId (fun _ => True) first)
    (onwards : ∀ value, Isolated fieldsFile sessionId returns (next value)) :
    Isolated fieldsFile sessionId returns (first >>= next) :=
  confined_bind sessionId _ returns first next isolated fun value _ => onwards value

section Parts

variable (orch : OrchestratorConfig) (env : ClarificationSide)

theorem isolated_get_convention
    (term : String) :
    Isolated fieldsFile sessionId (fun _ => True) (getConvention orch env term) := by
  apply isolated_readOr
  intro memory other same
  rw [(view_fields memory other same).2.2]

theorem isolated_set_convention
    (fault : Option PyError)
    (convention : Convention) :
    Isolated fieldsFile sessionId (fun _ => True) (setConvention orch fault convention) := by
  apply isolated_then _ _ _ (isolated_conventions fun conventions =>
    conventions.remember orch.tables convention)
  intro _
  apply isolated_then _ _ _ (isolated_outside _)
  intro _
  exact isolated_conventions JsonFileConventionsStore.persist

include own in
theorem isolated_learn_items
    (path : AnswerPath)
    (index : Nat)
    (items : List TermResolutionOutput) :
    Isolated fieldsFile sessionId (fun _ => True) (learnItems orch env ref path index items) := by
  induction items generalizing index with
  | nil => trivial
  | cons item rest ih =>
      apply isolated_then _ _ _ (isolated_edit_session ref own (recordResolution orch item)
        fun _ => rfl)
      intro _
      apply isolated_then _ _ _ (isolated_set_convention orch _ _)
      intro _
      exact ih (index + 1)

include own in
theorem isolated_resolve_and_learn
    (path : AnswerPath)
    (query : String)
    (terms : List String)
    (answer : String) :
    Isolated fieldsFile sessionId (fun _ => True)
      (resolveAndLearn orch env ref path query terms answer) := by
  apply isolated_then _ _ _ (isolated_outside _)
  intro resolved
  exact isolated_learn_items ref own orch env path 0 resolved.resolutions

include own in
theorem isolated_split_resolved_from
    (active : ActiveTerms)
    (unresolved terms : List String) :
    Isolated fieldsFile sessionId (fun _ => True)
      (splitResolvedFrom orch env ref active unresolved terms) := by
  induction terms generalizing active unresolved with
  | nil => trivial
  | cons term rest ih =>
      apply isolated_then _ _ _ (isolated_read_session ref own)
      intro session
      cases session.resolutions.get? term with
      | some resolution => exact ih (active.set term resolution) unresolved
      | none =>
          apply isolated_then _ _ _ (isolated_get_convention orch env term)
          intro found
          cases found with
          | some convention => exact ih _ unresolved
          | none => exact ih active (unresolved ++ [term])

end Parts

section Dispatch

variable (orch : OrchestratorConfig) (store : SessionBackend) (backend : BackendSide)

theorem isolated_with_report
    (query : String)
    (response : QueryResponse) :
    Isolated fieldsFile sessionId (fun _ => True) (withReport orch backend query response) := by
  unfold withReport
  split_ifs
  · dsimp only
    split
    · exact isolated_outside _
    · split_ifs
      · exact isolated_outside _
      · exact isolated_outside _
  · trivial

theorem isolated_show_result
    (showInUi : Bool)
    (jql : Option String)
    (errors : List String) :
    Isolated fieldsFile sessionId (fun _ => True) (showResult backend showInUi jql errors) := by
  unfold showResult
  split_ifs
  · split
    · apply isolated_then _ _ _ (isolated_outside _)
      intro ack
      split_ifs <;> trivial
    · trivial
  · trivial

theorem isolated_respond
    (call : QueryCall)
    (query : String)
    (active : ActiveTerms)
    (errors : List String)
    (own : String)
    (answer : Except PyError LiteQueryResult) :
    Isolated fieldsFile sessionId (fun _ => True)
      (respond orch backend call query active errors own answer) := by
  cases answer with
  | ok result =>
      simp only [respond]
      split_ifs
      · exact isolated_with_report orch backend query _
      · apply isolated_then _ _ _ (isolated_show_result backend call.showInUi result.jql errors)
        intro shown
        exact isolated_with_report orch backend query _
  | error error =>
      cases error with
      | liteBackend message => exact isolated_with_report orch backend query _
      | _ => trivial

include own in
theorem isolated_dispatch
    (call : QueryCall)
    (query : String)
    (active : ActiveTerms)
    (errors : List String) :
    Isolated fieldsFile sessionId (fun _ => True)
      (dispatch orch store backend ref call query active errors) := by
  apply isolated_then _ _ _ (isolated_transition ref own _)
  intro _
  apply isolated_then _ _ _ (isolated_edit_session ref own clearPending fun _ => rfl)
  intro _
  apply isolated_then _ _ _ (isolated_save_session ref own store)
  intro _
  apply isolated_then _ _ _ (isolated_outside _)
  intro answer
  apply isolated_then _ _ _ (isolated_read_session ref own)
  intro session
  exact isolated_respond orch backend call query active errors session.sessionId answer

end Dispatch

section HandleQuery

variable (orch : OrchestratorConfig) (store : SessionBackend)
variable (call : QueryCall) (env : QueryEnvironment)

theorem isolated_attempt_question
    (query : String)
    (unresolved : List String) :
    Isolated fieldsFile sessionId (fun _ => True)
      (attemptQuestion orch fieldsFile env query unresolved) := by
  apply confined_mono sessionId _ _ _ (confined_catching sessionId _ (fun _ => True) _ _)
    fun _ _ => trivial
  apply isolated_then
  · apply isolated_readOr
    intro memory other same
    rw [(view_fields memory other same).2.2]
  · intro conventions
    apply isolated_then _ _ _ isolated_load_fields
    intro fields
    exact isolated_outside _

theorem isolated_elicit_answer
    (question : String) :
    Isolated fieldsFile sessionId (fun _ => True) (elicitAnswer env question) := by
  unfold elicitAnswer
  cases env.clarification.elicit with
  | none => trivial
  | some elicit =>
      apply isolated_then _ _ _ (isolated_outside _)
      intro reply
      trivial

include own in
theorem isolated_use_elicited
    (query : String)
    (active : ActiveTerms)
    (unresolved : List String)
    (answer : String) :
    Isolated fieldsFile sessionId (fun _ => True)
      (useElicited orch store call env ref query active unresolved answer) := by
  apply isolated_then _ _ _ (isolated_resolve_and_learn ref own orch env.clarification _ _ _ _)
  intro _
  apply isolated_then _ _ _ (isolated_read_session ref own)
  intro session
  apply isolated_then _ _ _ (isolated_transition ref own _)
  intro _
  exact isolated_dispatch ref own orch store env.backend call query _ _

include own in
theorem isolated_return_question
    (query : String)
    (unresolved : List String)
    (question : String) :
    Isolated fieldsFile sessionId (fun _ => True)
      (returnQuestion store call ref query unresolved question) := by
  apply isolated_then _ _ _ (isolated_transition ref own _)
  intro _
  apply isolated_then
  · apply isolated_edit_session ref own
    exact fun _ => rfl
  · intro _
    apply isolated_then _ _ _ (isolated_save_session ref own store)
    intro _
    trivial

include own in
theorem isolated_clarify
    (query : String)
    (active : ActiveTerms)
    (unresolved : List String) :
    Isolated fieldsFile sessionId (fun _ => True)
      (clarify orch store fieldsFile call env ref query active unresolved) := by
  apply isolated_then _ _ _ (isolated_attempt_question orch env query unresolved)
  intro attempt
  cases attempt with
  | error message => exact isolated_dispatch ref own orch store env.backend call query _ _
  | ok needed =>
      apply isolated_then
      · apply isolated_edit_session ref own
        exact fun _ => rfl
      · intro _
        apply isolated_then _ _ _ (isolated_elicit_answer env needed.question)
        intro reply
        cases reply with
        | some answer =>
            exact isolated_use_elicited ref own orch store call env query active unresolved answer
        | none =>
            exact isolated_return_question ref own store call query unresolved needed.question

include own in
theorem isolated_detect_and_dispatch
    (query : String) :
    Isolated fieldsFile sessionId (fun _ => True)
      (detectAndDispatch orch store fieldsFile call env ref query) := by
  apply isolated_then _ _ _ (isolated_split_resolved_from ref own orch env.clarification _ _ _)
  intro split
  apply isolated_then _ _ _ (isolated_read_session ref own)
  intro session
  split_ifs
  · exact isolated_dispatch ref own orch store env.backend call query _ _
  · exact isolated_dispatch ref own orch store env.backend call query _ _
  · exact isolated_clarify ref own orch store call env query _ _

/-- A call reaches nothing but its own session, the conventions and the fields. -/
theorem isolated_handle_query :
    Isolated fieldsFile call.sessionId (fun _ => True)
      (handleQuery orch store fieldsFile call env) := by
  apply confined_bind _ _ _ _ _ (isolated_open_session call.sessionId)
  intro ref own
  apply isolated_then _ _ _ (isolated_read_session ref own)
  intro session
  split_ifs
  · cases truthyText call.clarificationAnswer with
    | some answer =>
        apply isolated_then _ _ _
          (isolated_resolve_and_learn ref own orch env.clarification _ _ _ _)
        intro _
        apply isolated_then _ _ _ (isolated_transition ref own _)
        intro _
        exact isolated_detect_and_dispatch ref own orch store call env _
    | none =>
        cases repeatsQuestion call session with
        | some question =>
            apply isolated_then _ _ _ (isolated_save_session ref own store)
            intro _
            trivial
        | none =>
            apply confined_bind _ _ _ _ _ (isolated_new_session call.sessionId)
            intro fresh own
            exact isolated_detect_and_dispatch fresh own orch store call env call.query
  · exact isolated_detect_and_dispatch ref own orch store call env call.query

end HandleQuery

end Isolation

end AtlasMindNetra.QueryThreads
