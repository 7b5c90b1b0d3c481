import AtlasMindNetra.AnalysisBatch

/-!
# Concurrent analyses on one analyser

The calls of `IssueAnalyser.analyse` share the cache and the semaphore of their
analyser, and `gather` lets their coroutines take their parts in every order
that the semaphore admits. A result is put at the position of its key, whoever
computed it, since no coroutine files or reads an analysis of another issue.
With distinct keys and nothing cached, no coroutine of a call finds what another
one filed, so each result depends on its own LLM call alone.
-/

namespace AtlasMindNetra.IssueAnalyser

open AtlasMindNetra.PythonValues AtlasMindNetra.ResponseModels AtlasMindNetra.RunRules
open AtlasMindNetra.CacheRules AtlasMindNetra.ListRules

set_option autoImplicit false

/-- One call of `analyse` and the coroutines it gathers. -/
structure ActiveCall where
  call : AnalyseCall
  slots : List Slot

structure SharedAnalyser where
  cache : AnalysisCache
  calls : List ActiveCall

def idleAnalyser : SharedAnalyser where
  cache := ∅
  calls := []

inductive SharedInput where
  | analyse (call : AnalyseCall) (keys : List String)
  | start (caller position : Nat) (today : Int)
  | answer (caller position : Nat) (reply : AgentReply)

def SharedInput.turn? : SharedInput → Option (Nat × Int × BatchInput)
  | .analyse _ _ => none
  | .start caller position today => some (caller, today, .start position)
  | .answer caller position reply => some (caller, 0, .answer position reply)

def ActiveCall.Returns (active : ActiveCall) (results : List BlockerAnalysis) : Prop :=
  active.slots.map Slot.result? = results.map some

/-- A coroutine holds the semaphore while it waits for the LLM. -/
def Slot.held (slot : Slot) : Nat :=
  match slot.phase with
  | .asking _ => 1
  | .waiting | .returned _ | .failed _ => 0

def ActiveCall.held (active : ActiveCall) : Nat := (active.slots.map Slot.held).sum

def SharedAnalyser.held (state : SharedAnalyser) : Nat := (state.calls.map ActiveCall.held).sum

section Shared

variable (tables : AnalyserTables) (config : AnalyserConfig) (limit : Nat)

def callStep (state : SharedAnalyser) (caller : Nat) (today : Int) (input : BatchInput) :
    SharedAnalyser × AnalyserOutput :=
  match state.calls[caller]? with
  | none => (state, .idle)
  | some active =>
      let (batch, output) :=
        batchStep tables config active.call today ⟨state.cache, active.slots⟩ input
      ({ cache := batch.cache
         calls := state.calls.set caller { active with slots := batch.slots } }, output)

/-- The semaphore admits `limit` coroutines at a time. -/
def sharedStep (state : SharedAnalyser) : SharedInput → SharedAnalyser × AnalyserOutput
  | .analyse call keys =>
      ({ state with calls := state.calls ++ [⟨call, (freshBatch keys).slots⟩] }, .idle)
  | .start caller position today =>
      if limit ≤ state.held then (state, .idle)
      else callStep tables config state caller today (.start position)
  | .answer caller position reply =>
      callStep tables config state caller 0 (.answer position reply)

theorem batch_step_at
    (call : AnalyseCall)
    (today : Int)
    (batch : AnalysisBatch)
    (input : BatchInput)
    (slot : Slot)
    (here : batch.slots[input.position]? = some slot) :
    batchStep tables config call today batch input =
      ({ cache := (slotStep tables config call today batch.cache slot input).1.cache
         slots := batch.slots.set input.position
          { slot with
            phase := slot.phase.after
              (slotStep tables config call today batch.cache slot input).2 } },
        (slotStep tables config call today batch.cache slot input).2) := by
  unfold batchStep
  rw [here]

theorem batch_step_nowhere
    (call : AnalyseCall)
    (today : Int)
    (batch : AnalysisBatch)
    (input : BatchInput)
    (nowhere : batch.slots[input.position]? = none) :
    batchStep tables config call today batch input = (batch, .idle) := by
  unfold batchStep
  rw [nowhere]

theorem call_step_at
    (state : SharedAnalyser)
    (caller : Nat)
    (today : Int)
    (input : BatchInput)
    (active : ActiveCall)
    (here : state.calls[caller]? = some active) :
    callStep tables config state caller today input =
      ({ cache :=
          (batchStep tables config active.call today ⟨state.cache, active.slots⟩ input).1.cache
         calls := state.calls.set caller
          { active with
            slots :=
              (batchStep tables config active.call today ⟨state.cache, active.slots⟩ input).1.slots
          } },
        (batchStep tables config active.call today ⟨state.cache, active.slots⟩ input).2) := by
  unfold callStep
  rw [here]

/-- A step of the analyser begins a call, lets one coroutine take a part, or does nothing. -/
theorem shared_step_cases
    (state : SharedAnalyser)
    (input : SharedInput) :
    (∃ call keys, input = .analyse call keys) ∨
      sharedStep tables config limit state input = (state, .idle) ∨
      ∃ caller active today part slot,
        input.turn? = some (caller, today, part) ∧
        state.calls[caller]? = some active ∧ active.slots[part.position]? = some slot ∧
        sharedStep tables config limit state input =
          ({ cache := (slotStep tables config active.call today state.cache slot part).1.cache
             calls := state.calls.set caller
              { active with
                slots := active.slots.set part.position
                  { slot with
                    phase := slot.phase.after
                      (slotStep tables config active.call today state.cache slot part).2 } } },
            (slotStep tables config active.call today state.cache slot part).2) := by
  have parts : ∀ caller today part,
      callStep tables config state caller today part = (state, .idle) ∨
      ∃ active slot, state.calls[caller]? = some active ∧
        active.slots[part.position]? = some slot ∧
        callStep tables config state caller today part =
          ({ cache := (slotStep tables config active.call today state.cache slot part).1.cache
             calls := state.calls.set caller
              { active with
                slots := active.slots.set part.position
                  { slot with
                    phase := slot.phase.after
                      (slotStep tables config active.call today state.cache slot part).2 } } },
            (slotStep tables config active.call today state.cache slot part).2) := by
    intro caller today part
    cases there : state.calls[caller]? with
    | none =>
        left
        rw [callStep, there]
    | some active =>
        rw [call_step_at tables config state caller today part active there]
        cases here : active.slots[part.position]? with
        | none =>
            left
            rw [batch_step_nowhere tables config active.call today _ part here]
            rcases List.getElem?_eq_some_iff.mp there with ⟨bound, itself⟩
            rw [← itself, List.set_getElem_self]
        | some slot =>
            right
            refine ⟨active, slot, rfl, here, ?_⟩
            rw [batch_step_at tables config active.call today ⟨state.cache, active.slots⟩ part slot
              here]
  cases input with
  | analyse call keys => exact Or.inl ⟨call, keys, rfl⟩
  | start caller position today =>
      right
      rw [sharedStep]
      split_ifs with full
      · exact Or.inl rfl
      · rcases parts caller today (.start position) with idle | ⟨active, slot, there, here, step⟩
        · exact Or.inl idle
        · exact Or.inr ⟨caller, active, today, .start position, slot, rfl, there, here, step⟩
  | answer caller position reply =>
      right
      rcases parts caller 0 (.answer position reply) with idle | ⟨active, slot, there, here, step⟩
      · exact Or.inl idle
      · exact Or.inr ⟨caller, active, 0, .answer position reply, slot, rfl, there, here, step⟩

def SlotKeyed (slot : Slot) : Prop :=
  match slot.phase with
  | .waiting => True
  | .asking work => work.key = slot.key ∧ work.issue.key = slot.key
  | .returned result | .failed result => result.issueKey = slot.key

/-- Whatever is cached or returned names the issue it is cached or returned for. -/
structure Keyed (state : SharedAnalyser) : Prop where
  cache : Sound (fun key cached => cached.issueKey = key.1) state.cache
  slots : ∀ active ∈ state.calls, ∀ slot ∈ active.slots, SlotKeyed slot

theorem reattached_key
    (refs : List ConfluenceReference)
    (cached : BlockerAnalysis) : (reattached refs cached).issueKey = cached.issueKey := by
  unfold reattached
  split_ifs <;> rfl

theorem slot_step_keyed
    (call : AnalyseCall)
    (today : Int)
    (cache : AnalysisCache)
    (slot : Slot)
    (part : BatchInput)
    (sound : Sound (fun key cached => cached.issueKey = key.1) cache)
    (here : SlotKeyed slot) :
    Sound (fun key cached => cached.issueKey = key.1)
        (slotStep tables config call today cache slot part).1.cache ∧
      SlotKeyed
        { slot with
          phase := slot.phase.after (slotStep tables config call today cache slot part).2 } := by
  rcases slot with ⟨key, phase⟩
  cases part with
  | start position =>
      cases phase with
      | waiting =>
          simp only [slotStep, startKey]
          cases found : (issueMap call.issueDetails).get? key with
          | none => exact ⟨sound, rfl⟩
          | some issue =>
              dsimp only
              cases hit : cachedFor { cache, running := [] } call (workFor call key today issue) with
              | none => exact ⟨sound, rfl, issue_map_key call.issueDetails key issue found⟩
              | some cached =>
                  have named := sound _ cached (cached_for_some _ call _ cached hit)
                  exact ⟨sound, (reattached_key _ cached).trans named⟩
      | asking work => exact ⟨sound, here⟩
      | returned result => exact ⟨sound, here⟩
      | failed result => exact ⟨sound, here⟩
  | answer position reply =>
      cases phase with
      | waiting => exact ⟨sound, here⟩
      | asking work =>
          simp only [slotStep, answerKey, List.getElem?_cons_zero]
          cases outcome : analyseOne tables config (fun _ => reply) work with
          | error error => exact ⟨sound, here.1⟩
          | ok result =>
              have named := analyse_one_key tables config _ work result outcome
              constructor
              · apply write_back_sound config cache (cacheKey work) result sound (fun _ => sound)
                · exact fun _ => (named.trans here.2).trans here.1.symm
                · exact fun _ _ _ _ kept => kept
              · exact named.trans here.2
      | returned result => exact ⟨sound, here⟩
      | failed result => exact ⟨sound, here⟩

theorem shared_step_keyed
    (state : SharedAnalyser)
    (input : SharedInput)
    (keyed : Keyed state) : Keyed (sharedStep tables config limit state input).1 := by
  rcases shared_step_cases tables config limit state input with
    ⟨call, keys, rfl⟩ | idle | ⟨caller, active, today, part, slot, -, there, here, step⟩
  · constructor
    · exact keyed.cache
    · intro active member
      rcases List.mem_append.mp member with old | new
      · exact keyed.slots active old
      · rw [List.mem_singleton.mp new]
        intro slot inSlots
        rcases List.mem_map.mp inSlots with ⟨key, -, rfl⟩
        trivial
  · rw [idle]
    exact keyed
  · have inCalls := List.mem_of_getElem? there
    have kept := slot_step_keyed tables config active.call today state.cache slot part keyed.cache
      (keyed.slots active inCalls slot (List.mem_of_getElem? here))
    rw [step]
    constructor
    · exact kept.1
    · intro other member
      rcases List.mem_or_eq_of_mem_set member with old | rfl
      · exact keyed.slots other old
      · intro another inSlots
        rcases List.mem_or_eq_of_mem_set inSlots with before | rfl
        · exact keyed.slots active inCalls another before
        · exact kept.2

theorem run_keyed (inputs : List SharedInput) :
    Keyed (run (sharedStep tables config limit) idleAnalyser inputs).1 := by
  apply run_invariant Keyed _ _ inputs
  · exact ⟨sound_empty _, fun active none => absurd none List.not_mem_nil⟩
  · exact every_step_always (fun _ _ => trivial) _ inputs
  · exact fun state input keyed _ => shared_step_keyed tables config limit state input keyed

def CallAt (caller : Nat) (call : AnalyseCall) (keys : List String) (state : SharedAnalyser) :
    Prop :=
  ∃ active, state.calls[caller]? = some active ∧ active.call = call ∧
    active.slots.map Slot.key = keys

theorem shared_step_call
    (caller : Nat)
    (call : AnalyseCall)
    (keys : List String)
    (state : SharedAnalyser)
    (input : SharedInput)
    (kept : CallAt caller call keys state) :
    CallAt caller call keys (sharedStep tables config limit state input).1 := by
  rcases kept with ⟨active, known, sameCall, sameKeys⟩
  rcases shared_step_cases tables config limit state input with
    ⟨other, otherKeys, rfl⟩ | idle | ⟨turn, moved, today, part, slot, -, there, here, step⟩
  · refine ⟨active, ?_, sameCall, sameKeys⟩
    exact get_before_concat state.calls _ active caller known
  · rw [idle]
    exact ⟨active, known, sameCall, sameKeys⟩
  · rw [step]
    unfold CallAt
    dsimp only
    rw [List.getElem?_set]
    by_cases same : turn = caller
    · subst same
      rw [there] at known
      cases known
      rw [if_pos rfl, if_pos (List.getElem?_eq_some_iff.mp there).1]
      refine ⟨_, rfl, sameCall, ?_⟩
      rw [← sameKeys]
      exact labels_of_set Slot.key _ _ slot _ here rfl
    · rw [if_neg same]
      exact ⟨active, known, sameCall, sameKeys⟩

theorem keyed_result
    (slot : Slot)
    (result : BlockerAnalysis)
    (keyed : SlotKeyed slot)
    (answered : slot.result? = some result) : result.issueKey = slot.key := by
  rcases slot with ⟨key, phase⟩
  cases phase with
  | waiting => cases answered
  | asking work => cases answered
  | returned other =>
      cases answered
      exact keyed
  | failed other =>
      cases answered
      exact keyed

theorem results_of_slots
    (slots : List Slot)
    (results : List BlockerAnalysis)
    (keyed : ∀ slot ∈ slots, SlotKeyed slot)
    (returns : slots.map Slot.result? = results.map some) :
    results.map BlockerAnalysis.issueKey = slots.map Slot.key := by
  induction slots generalizing results with
  | nil => rw [List.map_eq_nil_iff.mp returns.symm, List.map_nil, List.map_nil]
  | cons slot rest ih =>
      rw [List.forall_mem_cons] at keyed
      cases results with
      | nil => cases returns
      | cons result others =>
          rw [List.map_cons, List.map_cons, List.cons.injEq] at returns
          rw [List.map_cons, List.map_cons, ih others keyed.2 returns.2,
            keyed_result slot result keyed.1 returns.1]

def Slot.parts (slot : Slot) : Nat :=
  match slot.phase with
  | .waiting => 2
  | .asking _ => 1
  | .returned _ | .failed _ => 0

def ActiveCall.parts (active : ActiveCall) : Nat := (active.slots.map Slot.parts).sum

def SharedAnalyser.parts (state : SharedAnalyser) : Nat := (state.calls.map ActiveCall.parts).sum

def Works (state : SharedAnalyser) (input : SharedInput) : Prop :=
  (sharedStep tables config limit state input).2 ≠ .idle

theorem slot_step_parts
    (call : AnalyseCall)
    (today : Int)
    (cache : AnalysisCache)
    (slot : Slot)
    (part : BatchInput)
    (works : (slotStep tables config call today cache slot part).2 ≠ .idle) :
    Slot.parts
        { slot with
          phase := slot.phase.after (slotStep tables config call today cache slot part).2 } <
      slot.parts := by
  rcases slot with ⟨key, phase⟩
  cases part with
  | start position =>
      cases phase with
      | waiting =>
          simp only [slotStep, startKey]
          cases (issueMap call.issueDetails).get? key with
          | none => simp [SlotPhase.after, Slot.parts]
          | some issue =>
              dsimp only
              cases cachedFor { cache, running := [] } call (workFor call key today issue) <;>
                simp [SlotPhase.after, Slot.parts]
      | asking work => exact absurd rfl works
      | returned result => exact absurd rfl works
      | failed result => exact absurd rfl works
  | answer position reply =>
      cases phase with
      | waiting => exact absurd rfl works
      | asking work =>
          simp only [slotStep, answerKey, List.getElem?_cons_zero]
          cases analyseOne tables config (fun _ => reply) work <;>
            simp [SlotPhase.after, Slot.parts]
      | returned result => exact absurd rfl works
      | failed result => exact absurd rfl works

theorem shared_step_parts
    (state : SharedAnalyser)
    (input : SharedInput)
    (works : Works tables config limit state input) :
    (sharedStep tables config limit state input).1.parts < state.parts := by
  unfold Works at works
  rcases shared_step_cases tables config limit state input with
    ⟨call, keys, rfl⟩ | idle | ⟨caller, active, today, part, slot, -, there, here, step⟩
  · exact absurd rfl works
  · rw [idle] at works
    exact absurd rfl works
  · rw [step] at works ⊢
    have fewer := slot_step_parts tables config active.call today state.cache slot part works
    have inCall := sum_of_set Slot.parts active.slots part.position slot
      { slot with
        phase := slot.phase.after
          (slotStep tables config active.call today state.cache slot part).2 } here
    have inState := sum_of_set ActiveCall.parts state.calls caller active
      { active with
        slots := active.slots.set part.position
          { slot with
            phase := slot.phase.after
              (slotStep tables config active.call today state.cache slot part).2 } } there
    dsimp only [SharedAnalyser.parts, ActiveCall.parts] at inState ⊢
    omega

theorem working_run_bounded
    (state : SharedAnalyser)
    (more : List SharedInput)
    (works : EveryStep (sharedStep tables config limit) (Works tables config limit) state more) :
    more.length ≤ state.parts := by
  induction more generalizing state with
  | nil => exact Nat.zero_le _
  | cons input rest ih =>
      have fewer := shared_step_parts tables config limit state input works.1
      have later := ih _ works.2
      rw [List.length_cons]
      omega

theorem answered_returns
    (slots : List Slot)
    (answered : ∀ slot ∈ slots, slot.parts = 0) :
    ∃ results : List BlockerAnalysis, slots.map Slot.result? = results.map some := by
  induction slots with
  | nil => exact ⟨[], rfl⟩
  | cons slot rest ih =>
      rw [List.forall_mem_cons] at answered
      rcases ih answered.2 with ⟨results, returns⟩
      have own : ∃ result, slot.result? = some result := by
        rcases slot with ⟨key, phase⟩
        cases phase with
        | waiting => cases answered.1
        | asking work => cases answered.1
        | returned result => exact ⟨result, rfl⟩
        | failed result => exact ⟨result, rfl⟩
      rcases own with ⟨result, shown⟩
      exact ⟨result :: results, by rw [List.map_cons, List.map_cons, shown, returns]⟩

theorem call_step_works
    (state : SharedAnalyser)
    (caller : Nat)
    (today : Int)
    (part : BatchInput)
    (active : ActiveCall)
    (slot : Slot)
    (there : state.calls[caller]? = some active)
    (here : active.slots[part.position]? = some slot) :
    (callStep tables config state caller today part).2 =
      (slotStep tables config active.call today state.cache slot part).2 := by
  rw [call_step_at tables config state caller today part active there,
    batch_step_at tables config active.call today _ part slot here]

theorem asking_slot_works
    (state : SharedAnalyser)
    (caller position : Nat)
    (active : ActiveCall)
    (slot : Slot)
    (there : state.calls[caller]? = some active)
    (here : active.slots[position]? = some slot)
    (asks : slot.held ≠ 0) :
    Works tables config limit state (.answer caller position (.error (.agentRun ""))) := by
  unfold Works
  rw [sharedStep, call_step_works tables config state caller 0 (.answer position _) active slot
    there here]
  rcases slot with ⟨key, phase⟩
  cases phase with
  | waiting => exact absurd rfl asks
  | asking work => simp [slotStep, answerKey, analyseOne]
  | returned result => exact absurd rfl asks
  | failed result => exact absurd rfl asks

theorem waiting_slot_works
    (state : SharedAnalyser)
    (caller position : Nat)
    (active : ActiveCall)
    (slot : Slot)
    (there : state.calls[caller]? = some active)
    (here : active.slots[position]? = some slot)
    (free : state.held < limit)
    (idle : slot.held = 0)
    (pending : slot.parts ≠ 0) : Works tables config limit state (.start caller position 0) := by
  unfold Works
  rw [sharedStep, if_neg (Nat.not_le.mpr free), call_step_works tables config state caller 0
    (.start position) active slot there here]
  rcases slot with ⟨key, phase⟩
  cases phase with
  | waiting =>
      simp only [slotStep, startKey]
      cases (issueMap active.call.issueDetails).get? key with
      | none => simp
      | some issue =>
          dsimp only
          cases cachedFor ⟨state.cache, []⟩ active.call (workFor active.call key 0 issue) <;> simp
  | asking work => cases idle
  | returned result => exact absurd rfl pending
  | failed result => exact absurd rfl pending

theorem nobody_holds
    (state : SharedAnalyser)
    (idle : ∀ active ∈ state.calls, ∀ slot ∈ active.slots, slot.held = 0) : state.held = 0 := by
  apply List.sum_eq_zero_iff_forall_eq_nat.mpr
  intro count inCounts
  rcases List.mem_map.mp inCounts with ⟨active, inCalls, rfl⟩
  apply List.sum_eq_zero_iff_forall_eq_nat.mpr
  intro own inOwn
  rcases List.mem_map.mp inOwn with ⟨slot, inSlots, rfl⟩
  exact idle active inCalls slot inSlots

/-- As long as a call has not returned, some coroutine can take a part: one that
waits for the LLM, or else any other, since then the semaphore is free. -/
theorem unfinished_moves
    (positive : 0 < limit)
    (state : SharedAnalyser)
    (active : ActiveCall)
    (inCalls : active ∈ state.calls)
    (unfinished : ¬ ∃ results, active.Returns results) :
    ∃ input, Works tables config limit state input := by
  by_cases asking : ∃ caller ∈ state.calls, ∃ slot ∈ caller.slots, slot.held ≠ 0
  · rcases asking with ⟨other, inOthers, slot, inSlots, held⟩
    rcases List.getElem?_of_mem inOthers with ⟨caller, there⟩
    rcases List.getElem?_of_mem inSlots with ⟨position, here⟩
    exact ⟨_, asking_slot_works tables config limit state caller position other slot there here
      held⟩
  · push Not at asking
    have free : state.held < limit := by
      rw [nobody_holds state asking]
      exact positive
    have pending : ∃ slot ∈ active.slots, slot.parts ≠ 0 := by
      by_contra none
      push Not at none
      exact unfinished (answered_returns active.slots none)
    rcases pending with ⟨slot, inSlots, parts⟩
    rcases List.getElem?_of_mem inCalls with ⟨caller, there⟩
    rcases List.getElem?_of_mem inSlots with ⟨position, here⟩
    exact ⟨_, waiting_slot_works tables config limit state caller position active slot there here
      free (asking active inCalls slot inSlots) parts⟩

end Shared

section Alone

variable (tables : AnalyserTables) (config : AnalyserConfig) (limit : Nat) (call : AnalyseCall)
variable (day : Nat → Int) (agent : String → AgentReply) (fails : String → Option AgentError)

def replyTo (work : KeyAnalysis) : AgentReply :=
  match fails work.key with
  | some error => .error error
  | none => agent (promptFor work)

/-- What `analyse` returns for a key, if its coroutine finds nothing cached. -/
def resultAlone (position : Nat) (key : String) : BlockerAnalysis :=
  match (issueMap call.issueDetails).get? key with
  | none => degraded key "issue not found in /issue_details response"
  | some issue =>
      let work := workFor call key (day position) issue
      match analyseOne tables config (fun _ => replyTo agent fails work) work with
      | .ok result => result
      | .error error =>
          let reason := error.text
          degraded key s!"analysis failed: {reason}"

/-- The coroutine takes its turn on its day, and is answered by the LLM or by
the failure of its own call. -/
def OwnPart (today : Int) (slot : Slot) : BatchInput → Prop
  | .start position => today = day position
  | .answer _ reply => ∀ work, slot.phase = .asking work → reply = replyTo agent fails work

def Slot.asked? (slot : Slot) : Option KeyAnalysis :=
  match slot.phase with
  | .asking work => some work
  | .waiting | .returned _ | .failed _ => none

/-- Nobody else calls `analyse`, and every part is of this kind. -/
def OneCall (state : SharedAnalyser) : SharedInput → Prop
  | .analyse _ _ => False
  | .start _ position today => today = day position
  | .answer caller position reply =>
      ∀ work ∈ (state.calls[caller]?.bind fun active => active.slots[position]?).bind Slot.asked?,
        reply = replyTo agent fails work

instance (state : SharedAnalyser) :
    ∀ input : SharedInput, Decidable (OneCall day agent fails state input)
  | .analyse _ _ => isFalse id
  | .start _ _ _ => inferInstanceAs (Decidable (_ = _))
  | .answer _ _ _ => inferInstanceAs (Decidable (∀ _ ∈ _, _ = _))

theorem one_call_part
    (state : SharedAnalyser)
    (input : SharedInput)
    (own : OneCall day agent fails state input)
    (caller : Nat)
    (today : Int)
    (part : BatchInput)
    (active : ActiveCall)
    (slot : Slot)
    (turn : input.turn? = some (caller, today, part))
    (there : state.calls[caller]? = some active)
    (here : active.slots[part.position]? = some slot) :
    OwnPart day agent fails today slot part := by
  cases input with
  | analyse call keys => cases turn
  | start turned position sameDay =>
      cases turn
      exact own
  | answer turned position reply =>
      cases turn
      intro work asking
      apply own work
      dsimp only [BatchInput.position] at here
      rw [there, Option.bind_some, here, Option.bind_some, Slot.asked?, asking]
      rfl

/-- Nothing is cached for a coroutine that has yet to look, and a result is that of its own call. -/
def SlotAlone (cache : AnalysisCache) (position : Nat) (slot : Slot) : Prop :=
  match slot.phase with
  | .waiting => ∀ timestamp, cache.get? (slot.key, timestamp) = none
  | .asking work =>
      ∃ issue, (issueMap call.issueDetails).get? slot.key = some issue ∧
        work = workFor call slot.key (day position) issue
  | .returned result | .failed result =>
      result = resultAlone tables config call day agent fails position slot.key

structure CallAlone (keys : List String) (state : SharedAnalyser) (slots : List Slot) : Prop where
  single : state.calls = [⟨call, slots⟩]
  keys : slots.map Slot.key = keys
  slots : ∀ position slot, slots[position]? = some slot →
    SlotAlone tables config call day agent fails state.cache position slot

theorem write_back_other
    (cache : AnalysisCache)
    (key other : String × String)
    (result : BlockerAnalysis)
    (apart : other ≠ key)
    (absent : cache.get? other = none) : (writeBack config cache key result).get? other = none := by
  unfold writeBack
  split_ifs with without full
  · exact absent
  · rw [OrderedDict.get?_set_other _ _ apart, Option.eq_none_iff_forall_ne_some]
    intro value found
    rw [get?_of_pop_first cache other value found] at absent
    cases absent
  · rw [OrderedDict.get?_set_other _ _ apart, absent]

theorem slot_step_alone
    (cache : AnalysisCache)
    (today : Int)
    (slot : Slot)
    (part : BatchInput)
    (own : OwnPart day agent fails today slot part)
    (here : SlotAlone tables config call day agent fails cache part.position slot) :
    SlotAlone tables config call day agent fails
        (slotStep tables config call today cache slot part).1.cache part.position
        { slot with
          phase := slot.phase.after (slotStep tables config call today cache slot part).2 } ∧
      ∀ other timestamp, other ≠ slot.key → cache.get? (other, timestamp) = none →
        (slotStep tables config call today cache slot part).1.cache.get? (other, timestamp) =
          none := by
  rcases slot with ⟨key, phase⟩
  cases part with
  | start position =>
      cases phase with
      | waiting =>
          have sameDay : today = day position := own
          subst sameDay
          simp only [slotStep, startKey]
          cases found : (issueMap call.issueDetails).get? key with
          | none =>
              refine ⟨?_, fun _ _ _ absent => absent⟩
              change degraded key _ = resultAlone tables config call day agent fails position key
              rw [resultAlone, found]
          | some issue =>
              have missed : cachedFor { cache, running := [] } call
                  (workFor call key (day position) issue) = none := by
                unfold cachedFor
                split_ifs
                · rfl
                · exact here _
              dsimp only
              rw [missed]
              exact ⟨⟨issue, found, rfl⟩, fun _ _ _ absent => absent⟩
      | asking work => exact ⟨here, fun _ _ _ absent => absent⟩
      | returned result => exact ⟨here, fun _ _ _ absent => absent⟩
      | failed result => exact ⟨here, fun _ _ _ absent => absent⟩
  | answer position reply =>
      cases phase with
      | waiting => exact ⟨here, fun _ _ _ absent => absent⟩
      | asking work =>
          have answered : reply = replyTo agent fails work := own work rfl
          rcases here with ⟨issue, found, same⟩
          dsimp only at found same
          simp only [slotStep, answerKey, List.getElem?_cons_zero]
          have alone : resultAlone tables config call day agent fails position key =
              match analyseOne tables config (fun _ => reply) work with
              | .ok result => result
              | .error error =>
                  let reason := error.text
                  degraded key s!"analysis failed: {reason}" := by
            rw [resultAlone, found, answered, same]
            rfl
          cases outcome : analyseOne tables config (fun _ => reply) work with
          | error error =>
              rw [outcome] at alone
              refine ⟨?_, fun _ _ _ absent => absent⟩
              change degraded work.key _ = _
              rw [BatchInput.position, alone, same]
              rfl
          | ok result =>
              rw [outcome] at alone
              refine ⟨alone.symm, ?_⟩
              intro other timestamp apart absent
              apply write_back_other config cache _ _ result _ absent
              intro sameEntry
              apply apart
              rw [(Prod.mk.inj sameEntry).1, same]
              rfl
      | returned result => exact ⟨here, fun _ _ _ absent => absent⟩
      | failed result => exact ⟨here, fun _ _ _ absent => absent⟩

theorem shared_step_alone
    (keys : List String)
    (distinct : keys.Nodup)
    (state : SharedAnalyser)
    (input : SharedInput)
    (alone : ∃ slots, CallAlone tables config call day agent fails keys state slots)
    (own : OneCall day agent fails state input) :
    ∃ slots, CallAlone tables config call day agent fails keys
      (sharedStep tables config limit state input).1 slots := by
  rcases alone with ⟨slots, alone⟩
  rcases shared_step_cases tables config limit state input with
    ⟨other, otherKeys, rfl⟩ | idle | ⟨caller, active, today, part, slot, turn, there, here, step⟩
  · exact absurd own id
  · rw [idle]
    exact ⟨slots, alone⟩
  · have ownPart := one_call_part day agent fails state input own caller today part active slot
      turn there here
    have only : caller = 0 ∧ active = ⟨call, slots⟩ := by
      rw [alone.single] at there
      have bound := (List.getElem?_eq_some_iff.mp there).1
      have first : caller = 0 := by simpa using bound
      subst first
      exact ⟨rfl, (Option.some.inj there).symm⟩
    rcases only with ⟨rfl, rfl⟩
    have kept := slot_step_alone tables config call day agent fails state.cache today slot part
      ownPart (alone.slots part.position slot here)
    rw [step]
    refine ⟨slots.set part.position
      { slot with
        phase := slot.phase.after (slotStep tables config call today state.cache slot part).2 },
      ?_, ?_, ?_⟩
    · rw [alone.single]
      rfl
    · rw [← alone.keys]
      exact labels_of_set Slot.key slots part.position slot _ here rfl
    · intro position other found
      rw [List.getElem?_set] at found
      by_cases same : part.position = position
      · subst same
        rw [if_pos rfl, if_pos (List.getElem?_eq_some_iff.mp here).1] at found
        cases found
        exact kept.1
      · rw [if_neg same] at found
        have before := alone.slots position other found
        have apart : other.key ≠ slot.key := by
          rw [← alone.keys] at distinct
          exact fun sameKey => same (position_of_name Slot.key slots distinct part.position position
            slot other here found sameKey.symm)
        rcases other with ⟨key, phase⟩
        cases phase with
        | waiting => exact fun timestamp => kept.2 key timestamp apart (before timestamp)
        | asking work => exact before
        | returned result => exact before
        | failed result => exact before

def opened (keys : List String) : SharedAnalyser where
  cache := ∅
  calls := [⟨call, (freshBatch keys).slots⟩]

theorem results_alone
    (keys : List String)
    (distinct : keys.Nodup)
    (inputs : List SharedInput)
    (own : EveryStep (sharedStep tables config limit) (OneCall day agent fails)
      (opened call keys) inputs)
    (active : ActiveCall)
    (here : (run (sharedStep tables config limit) (opened call keys) inputs).1.calls[0]? =
      some active)
    (results : List BlockerAnalysis)
    (returns : active.Returns results)
    (position : Nat)
    (key : String)
    (asked : keys[position]? = some key) :
    results[position]? = some (resultAlone tables config call day agent fails position key) := by
  have fresh : ∃ slots, CallAlone tables config call day agent fails keys (opened call keys)
      slots := by
    refine ⟨(freshBatch keys).slots, rfl, by simp [freshBatch, Function.comp_def], ?_⟩
    intro position slot found
    rw [freshBatch, List.getElem?_map, Option.map_eq_some_iff] at found
    rcases found with ⟨key, -, rfl⟩
    exact fun timestamp => rfl
  have reached := run_invariant
    (fun state => ∃ slots, CallAlone tables config call day agent fails keys state slots)
    (shared_step_alone tables config limit call day agent fails keys distinct)
    (opened call keys) inputs fresh own
  rcases reached with ⟨slots, alone⟩
  rw [alone.single] at here
  cases here
  rw [← alone.keys, List.getElem?_map, Option.map_eq_some_iff] at asked
  rcases asked with ⟨slot, found, rfl⟩
  have own := alone.slots position slot found
  have shown := congrArg (fun listed => listed[position]?) returns
  simp only [List.getElem?_map, found, Option.map_some] at shown
  rcases Option.map_eq_some_iff.mp shown.symm with ⟨result, given, answered⟩
  rw [given]
  rcases slot with ⟨key, phase⟩
  cases phase with
  | waiting => cases answered
  | asking work => cases answered
  | returned other =>
      cases answered
      exact congrArg some own
  | failed other =>
      cases answered
      exact congrArg some own

theorem result_alone_congr
    (other : String → Option AgentError)
    (position : Nat)
    (key : String)
    (same : fails key = other key) :
    resultAlone tables config call day agent fails position key =
      resultAlone tables config call day agent other position key := by
  unfold resultAlone
  cases (issueMap call.issueDetails).get? key with
  | none => rfl
  | some issue =>
      have reply : replyTo agent fails (workFor call key (day position) issue) =
          replyTo agent other (workFor call key (day position) issue) := by
        unfold replyTo
        rw [workFor, same]
      simp only [reply]

end Alone

section Isolation

variable (tables : AnalyserTables) (config : AnalyserConfig) (limit : Nat)

/-- Behind a semaphore that admits anybody, every call returns, with the results
of its keys in order. Two runs of one call on an empty cache agree on each key
whose own LLM call fails in both of them or in neither. -/
theorem analyses_keyed_and_isolated
    (positive : 0 < limit) :
    (∀ (before after : List SharedInput) (call : AnalyseCall) (keys : List String),
      let caller := (run (sharedStep tables config limit) idleAnalyser before).1.calls.length
      let final :=
        (run (sharedStep tables config limit) idleAnalyser
          (before ++ .analyse call keys :: after)).1
      ∃ active, final.calls[caller]? = some active ∧
        (∀ results, active.Returns results →
          results.length = keys.length ∧
          ∀ position : Nat, results[position]?.map BlockerAnalysis.issueKey = keys[position]?) ∧
        ((∃ results, active.Returns results) ∨
          ∃ input, Works tables config limit final input) ∧
        ∀ more, EveryStep (sharedStep tables config limit) (Works tables config limit) final more →
          more.length ≤ final.parts) ∧
    ∀ (call : AnalyseCall) (keys : List String) (day : Nat → Int) (agent : String → AgentReply)
      (first second : String → Option AgentError) (firstInputs secondInputs : List SharedInput)
      (firstCall secondCall : ActiveCall) (firstResults secondResults : List BlockerAnalysis),
      keys.Nodup →
      EveryStep (sharedStep tables config limit) (OneCall day agent first) (opened call keys)
        firstInputs →
      EveryStep (sharedStep tables config limit) (OneCall day agent second) (opened call keys)
        secondInputs →
      (run (sharedStep tables config limit) (opened call keys) firstInputs).1.calls[0]? =
        some firstCall →
      (run (sharedStep tables config limit) (opened call keys) secondInputs).1.calls[0]? =
        some secondCall →
      firstCall.Returns firstResults → secondCall.Returns secondResults →
      ∀ (position : Nat) (key : String), keys[position]? = some key → first key = second key →
        firstResults[position]? = secondResults[position]? := by
  constructor
  · intro before after call keys caller final
    have keyed : Keyed final := run_keyed tables config limit _
    have kept : CallAt caller call keys final := by
      change CallAt caller call keys (run (sharedStep tables config limit) idleAnalyser
        (before ++ .analyse call keys :: after)).1
      rw [run_append, run_cons]
      apply run_invariant (CallAt caller call keys) _ _ after
      · refine ⟨⟨call, (freshBatch keys).slots⟩, ?_, rfl, by simp [freshBatch, Function.comp_def]⟩
        exact List.getElem?_concat_length
      · exact every_step_always (fun _ _ => trivial) _ after
      · exact fun state input kept _ =>
          shared_step_call tables config limit caller call keys state input kept
    rcases kept with ⟨active, here, -, named⟩
    have inCalls := List.mem_of_getElem? here
    refine ⟨active, here, ?_, ?_, working_run_bounded tables config limit final⟩
    · intro results returns
      have same := results_of_slots active.slots results (keyed.slots active inCalls) returns
      rw [named] at same
      constructor
      · rw [← same, List.length_map]
      · intro position
        rw [← same, List.getElem?_map]
    · by_cases finished : ∃ results, active.Returns results
      · exact Or.inl finished
      · exact Or.inr (unfinished_moves tables config limit positive final active inCalls finished)
  · intro call keys day agent first second firstInputs secondInputs firstCall secondCall
      firstResults secondResults distinct firstOwn secondOwn firstHere secondHere firstReturns
      secondReturns position key asked same
    rw [results_alone tables config limit call day agent first keys distinct firstInputs firstOwn
        firstCall firstHere firstResults firstReturns position key asked,
      results_alone tables config limit call day agent second keys distinct secondInputs secondOwn
        secondCall secondHere secondResults secondReturns position key asked,
      result_alone_congr tables config call day agent first second position key same]

end Isolation

def pairCall : AnalyseCall where
  issueDetails := { issues := [blockedIssue, linkedIssue] }

def oneByOne (first second : AgentReply) : List SharedInput :=
  [.start 0 0 739801, .answer 0 0 first, .start 0 1 739801, .answer 0 1 second]

def secondFails (key : String) : Option AgentError :=
  if key = "CAR-102" then some (.agentRun "timeout") else none

def pairAfter (inputs : List SharedInput) : SharedAnalyser :=
  (run (sharedStep sampleTables sampleConfig 1) (opened pairCall pairKeys) inputs).1

def SharedAnalyser.results? (state : SharedAnalyser) : List (List (Option BlockerAnalysis)) :=
  state.calls.map fun active => active.slots.map Slot.result?

def SharedAnalyser.results (state : SharedAnalyser) : List BlockerAnalysis :=
  state.calls.flatMap fun active => active.slots.filterMap Slot.result?

theorem results_of_only_call
    (state : SharedAnalyser)
    (results : List BlockerAnalysis)
    (shown : state.results? = [results.map some]) :
    ∃ active, state.calls[0]? = some active ∧ active.Returns results := by
  rcases List.map_eq_singleton_iff.mp shown with ⟨active, only, returns⟩
  exact ⟨active, by rw [only]; rfl, returns⟩

def bothSucceed : List SharedInput := oneByOne (.ok sampleSuggestions) (.ok sampleSuggestions)

def secondTimesOut : List SharedInput :=
  oneByOne (.ok sampleSuggestions) (.error (.agentRun "timeout"))

/-- With one permit the second call of the LLM fails, and the first result stays what it is. -/
theorem second_failure_isolated :
    (pairAfter bothSucceed).results? = [(pairAfter bothSucceed).results.map some] ∧
      (pairAfter secondTimesOut).results? = [(pairAfter secondTimesOut).results.map some] ∧
      (pairAfter bothSucceed).results[0]? = (pairAfter secondTimesOut).results[0]? := by
  have firstReturned : (pairAfter bothSucceed).results? =
      [(pairAfter bothSucceed).results.map some] := by decide +kernel
  have secondReturned : (pairAfter secondTimesOut).results? =
      [(pairAfter secondTimesOut).results.map some] := by decide +kernel
  rcases results_of_only_call _ _ firstReturned with ⟨firstCall, firstHere, firstReturns⟩
  rcases results_of_only_call _ _ secondReturned with ⟨secondCall, secondHere, secondReturns⟩
  refine ⟨firstReturned, secondReturned, ?_⟩
  apply (analyses_keyed_and_isolated sampleTables sampleConfig 1 (by decide)).2 pairCall pairKeys
    (fun _ => 739801) (fun _ => .ok sampleSuggestions) (fun _ => none) secondFails bothSucceed
    secondTimesOut firstCall secondCall _ _ (by decide) (by decide +kernel) (by decide +kernel)
    firstHere secondHere firstReturns secondReturns 0 "CAR-101" rfl (by decide)

def AllWait (state : SharedAnalyser) : Prop :=
  ∀ active ∈ state.calls, ∀ slot ∈ active.slots, slot.phase = .waiting

/-- A semaphore without a permit admits no coroutine, so there is none that the LLM could answer. -/
theorem closed_step_waits
    (tables : AnalyserTables)
    (config : AnalyserConfig)
    (state : SharedAnalyser)
    (input : SharedInput)
    (waiting : AllWait state) : AllWait (sharedStep tables config 0 state input).1 := by
  rcases shared_step_cases tables config 0 state input with
    ⟨call, keys, rfl⟩ | idle | ⟨caller, active, today, part, slot, turn, there, here, step⟩
  · intro active member
    rcases List.mem_append.mp member with old | new
    · exact waiting active old
    · rw [List.mem_singleton.mp new]
      intro slot inSlots
      rcases List.mem_map.mp inSlots with ⟨key, -, rfl⟩
      rfl
  · rw [idle]
    exact waiting
  · cases input with
    | analyse call keys => cases turn
    | start turned position sameDay =>
        rw [sharedStep, if_pos (Nat.zero_le _)]
        exact waiting
    | answer turned position reply =>
        cases turn
        have inCalls := List.mem_of_getElem? there
        have idle := waiting active inCalls slot (List.mem_of_getElem? here)
        rw [step]
        intro other member
        rcases List.mem_or_eq_of_mem_set member with old | rfl
        · exact waiting other old
        · intro another inSlots
          rcases List.mem_or_eq_of_mem_set inSlots with before | rfl
          · exact waiting active inCalls another before
          · simp only [slotStep, idle, SlotPhase.after]

/-- Whatever happens next, the call that waits for such a semaphore has no results. -/
theorem closed_semaphore_never_returns :
    ¬ ∃ (inputs : List SharedInput) (active : ActiveCall) (results : List BlockerAnalysis),
      (run (sharedStep sampleTables sampleConfig 0) (opened pairCall pairKeys) inputs).1.calls[0]? =
        some active ∧ active.Returns results := by
  rintro ⟨inputs, active, results, here, returns⟩
  have waiting : AllWait
      (run (sharedStep sampleTables sampleConfig 0) (opened pairCall pairKeys) inputs).1 := by
    apply run_invariant AllWait _ _ inputs
    · intro other member slot inSlots
      rw [List.mem_singleton.mp member] at inSlots
      rcases List.mem_map.mp inSlots with ⟨key, -, rfl⟩
      rfl
    · exact every_step_always (fun _ _ => trivial) _ inputs
    · exact fun state input kept _ =>
        closed_step_waits sampleTables sampleConfig state input kept
  have kept : CallAt 0 pairCall pairKeys
      (run (sharedStep sampleTables sampleConfig 0) (opened pairCall pairKeys) inputs).1 := by
    apply run_invariant (CallAt 0 pairCall pairKeys) _ _ inputs
    · exact ⟨⟨pairCall, (freshBatch pairKeys).slots⟩, rfl, rfl, rfl⟩
    · exact every_step_always (fun _ _ => trivial) _ inputs
    · exact fun state input kept _ =>
        shared_step_call sampleTables sampleConfig 0 0 pairCall pairKeys state input kept
  rcases kept with ⟨same, there, -, named⟩
  rw [here] at there
  cases there
  rcases active with ⟨call, slots⟩
  cases slots with
  | nil => cases named
  | cons slot rest =>
      have idle := waiting _ (List.mem_of_getElem? here) slot List.mem_cons_self
      cases results with
      | nil => cases returns
      | cons result others =>
          have shown := (List.cons.inj returns).1
          rw [Slot.result?, idle] at shown
          cases shown

end AtlasMindNetra.IssueAnalyser
