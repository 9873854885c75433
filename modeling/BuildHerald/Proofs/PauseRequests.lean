import BuildHerald.Proofs.JobRequests

/-!
Which requests are sent to pause a job or its pipeline, or to let it go on.

First the server is asked for the flag of the place. Only if that is known, and is not what it should be,
the server is told to change it.
-/

namespace BuildHerald.Proofs.PauseRequests

open BuildHerald.Http
open BuildHerald.Herald
open BuildHerald.Server
open BuildHerald.Text
open BuildHerald.Proofs.Conversation
open BuildHerald.Proofs.JobRequests
open BuildHerald.Proofs.Listening (Sent)
open BuildHerald.Proofs.ResolvedPaths (IsPlain)
open BuildHerald.Proofs.Sending (runs_send_of_ok runs_send_of_error)
open BuildHerald.Proofs.ServerAddresses (IsBare)

/-! ### Places -/

/-- The place of a job, or that of its pipeline. -/
def placeOf (job : Job) : Scope → List String
  | .job => jobPlace job
  | .pipeline => pipelinePlace job.team job.pipeline

/-- What is asked for below a place to set its flag. -/
def action (paused : Bool) : String :=
  if paused then "pause" else "unpause"

theorem placeOf_ne_nil (job : Job) (scope : Scope) : placeOf job scope ≠ [] := by
  cases scope <;> exact List.cons_ne_nil _ _

theorem action_own (paused : Bool) : action paused ∈ ownNames := by
  cases paused <;> decide

theorem action_injective {paused other : Bool} (haction : action paused = action other) :
    paused = other := by
  cases paused <;> cases other <;> revert haction <;> decide

theorem pipelineEndpoint_eq (job : Job) :
    Client.pipelineEndpoint job = endpointTo (pipelinePlace job.team job.pipeline) := by
  have hteams : "/api/v1/teams/" = "/" ++ "api" ++ "/" ++ "v1" ++ "/" ++ "teams" ++ "/" := rfl
  have hpipelines : "/pipelines/" = "/" ++ "pipelines" ++ "/" := rfl
  rw [Client.pipelineEndpoint]
  simp only [hteams, hpipelines, pipelinePlace, endpointTo_cons, endpointTo_nil, String.append_assoc,
    String.append_empty]

theorem endpointOf_eq (job : Job) (scope : Scope) :
    Client.endpointOf job scope = endpointTo (placeOf job scope) := by
  cases scope with
  | job => exact jobEndpoint_eq job
  | pipeline => exact pipelineEndpoint_eq job

theorem endpointOf_pauseAction (job : Job) (scope : Scope) (paused : Bool) :
    Client.endpointOf job scope ++ Client.pauseAction paused =
      endpointTo (placeOf job scope ++ [action paused]) := by
  have haction : Client.pauseAction paused = "/" ++ action paused := by cases paused <;> rfl
  rw [endpointTo_concat, endpointOf_eq, haction]

/-- The names of a place are taken as they are. A control character or a blank at the end of the last one
would be lost in a request that ends with it. -/
structure IsAddressed (place : List String) : Prop where
  plain : ∀ name ∈ place, IsPlain name.toList
  ending : ∀ name, place.getLast? = some name → ∀ c, name.toList.getLast? = some c → ' ' < c

section Client

variable {client : Client} {method : Method} {accept endpoint : String} {place : List String}
  {request : Request}

theorem isFor_iff_isAddressed (hbare : IsBare client.base.toList) (hne : place ≠ [])
    (hclean : ∀ name ∈ place, IsClean name)
    (hrequest : (client.draft method accept (endpointTo place)).request = .ok request) :
    IsFor request place ↔ IsAddressed place := by
  obtain rfl | ⟨before, name, rfl⟩ := List.eq_nil_or_concat place
  · exact absurd rfl hne
  · rw [List.concat_eq_append] at hclean hrequest ⊢
    rw [isFor_iff hbare hclean hrequest]
    have hlast : (before ++ [name]).getLast? = some name := List.getLast?_concat
    constructor
    · rintro ⟨hplain, hending⟩
      refine ⟨hplain, fun last heq => ?_⟩
      obtain rfl := Option.some.inj (hlast.symm.trans heq)
      exact hending
    · rintro ⟨hplain, hending⟩
      exact ⟨hplain, hending name hlast⟩

/-- Nothing comes after the action, so the end of the place's last name is not lost. -/
theorem isFor_action_iff {paused : Bool} (hbare : IsBare client.base.toList)
    (hclean : ∀ name ∈ place, IsClean name)
    (hrequest : (client.draft method accept (endpointTo (place ++ [action paused]))).request =
      .ok request) :
    IsFor request (place ++ [action paused]) ↔ ∀ name ∈ place, IsPlain name.toList := by
  have haction := action_own paused
  rw [isFor_iff hbare (List.forall_mem_append.mpr
    ⟨hclean, List.forall_mem_singleton.mpr (isClean_own _ haction)⟩) hrequest]
  constructor
  · rintro ⟨hplain, -⟩
    exact (List.forall_mem_append.mp hplain).1
  · intro hplain
    exact ⟨List.forall_mem_append.mpr ⟨hplain, List.forall_mem_singleton.mpr (isPlain_own _ haction)⟩,
      getLast_own _ haction⟩

/-! ### What is sent -/

/-- What comes of a call. -/
inductive CallSent (draft : Draft) : List Sent → Except ServerFault Response → Prop
  | unsent {fault : ServerFault} : CallSent draft [] (.error fault)
  | failed {request : Request} {outcome : Outcome} {fault : ServerFault} :
      draft.request = .ok request →
        (∀ response, outcome = some response → response.isSuccess = false) →
          CallSent draft [⟨request, outcome⟩] (.error fault)
  | answered {request : Request} {response : Response} :
      draft.request = .ok request → response.isSuccess = true →
        CallSent draft [⟨request, some response⟩] (.ok response)

theorem callSent_of_runs {trace : List Sent} {result : Except ServerFault Response}
    (hruns : Runs (client.call method accept endpoint) trace result) :
    CallSent (client.draft method accept endpoint) trace result := by
  unfold Client.call at hruns
  rw [runs_bind_iff] at hruns
  obtain ⟨early, answer, late, rfl, hsend, hlate⟩ := hruns
  cases hrequest : (client.draft method accept endpoint).request with
  | error fault =>
      obtain ⟨rfl, rfl⟩ := (runs_send_of_error hrequest).mp hsend
      obtain ⟨rfl, rfl⟩ := runs_pure_iff.mp hlate
      exact .unsent
  | ok request =>
      obtain ⟨rfl, rfl⟩ | ⟨response, rfl, rfl⟩ := (runs_send_of_ok hrequest).mp hsend
      · obtain ⟨rfl, rfl⟩ := runs_pure_iff.mp hlate
        exact .failed hrequest fun response hnone => absurd hnone (Option.some_ne_none response).symm
      · have hfailed (hstatus : response.isSuccess = false) (fault : ServerFault) :
            CallSent (client.draft method accept endpoint) [⟨request, some response⟩]
              (.error fault) :=
          .failed hrequest fun found hfound => Option.some.inj hfound ▸ hstatus
        simp only at hlate
        split at hlate
        · next hmissing =>
            obtain ⟨rfl, rfl⟩ := runs_pure_iff.mp hlate
            refine hfailed ?_ _
            rw [Response.isSuccess, hmissing]
            rfl
        · split at hlate
          · next hsuccess =>
              obtain ⟨rfl, rfl⟩ := runs_pure_iff.mp hlate
              exact .answered hrequest hsuccess
          · next hstatus =>
              obtain ⟨rfl, rfl⟩ := runs_pure_iff.mp hlate
              exact hfailed (Bool.not_eq_true _ ▸ hstatus) _

/-- What comes of a question of some shape. -/
inductive AskSent {α : Type} (draft : Draft) (shape : Json.Shape α) :
    List Sent → Except ServerFault (α × Response) → Prop
  | unsent {fault : ServerFault} : AskSent draft shape [] (.error fault)
  | failed {request : Request} {outcome : Outcome} {fault : ServerFault} :
      draft.request = .ok request →
        (∀ response, outcome = some response → response.isSuccess = true →
          response.read? shape = none) →
            AskSent draft shape [⟨request, outcome⟩] (.error fault)
  | answered {request : Request} {response : Response} {value : α} :
      draft.request = .ok request → response.isSuccess = true →
        response.read? shape = some value →
          AskSent draft shape [⟨request, some response⟩] (.ok (value, response))

theorem askSent_of_runs {α : Type} {shape : Json.Shape α} {trace : List Sent}
    {result : Except ServerFault (α × Response)}
    (hruns : Runs (client.ask method endpoint shape) trace result) :
    AskSent (client.draft method acceptsAnything endpoint) shape trace result := by
  unfold Client.ask at hruns
  rw [runs_bind_iff] at hruns
  obtain ⟨early, answer, late, rfl, hcall, hlate⟩ := hruns
  cases callSent_of_runs hcall with
  | unsent =>
      obtain ⟨rfl, rfl⟩ := runs_pure_iff.mp hlate
      exact .unsent
  | failed hrequest hstatus =>
      obtain ⟨rfl, rfl⟩ := runs_pure_iff.mp hlate
      refine .failed hrequest fun response hresponse hsuccess => ?_
      rw [hstatus response hresponse] at hsuccess
      cases hsuccess
  | @answered request response hrequest hsuccess =>
      simp only at hlate
      split at hlate
      · next value hvalue =>
          obtain ⟨rfl, rfl⟩ := runs_pure_iff.mp hlate
          exact .answered hrequest hsuccess hvalue
      · next hunread =>
          obtain ⟨rfl, rfl⟩ := runs_pure_iff.mp hlate
          exact .failed hrequest fun found hfound _ => Option.some.inj hfound ▸ hunread

theorem runs_call_answered {response : Response}
    (hrequest : (client.draft method accept endpoint).request = .ok request)
    (hsuccess : response.isSuccess = true) :
    Runs (client.call method accept endpoint) [⟨request, some response⟩] (.ok response) := by
  refine runs_bind_iff.mpr
    ⟨_, _, [], rfl, (runs_send_of_ok hrequest).mpr (.inr ⟨response, rfl, rfl⟩), ?_⟩
  have hfound : response.status ≠ 404 := by
    intro hmissing
    rw [Response.isSuccess, hmissing] at hsuccess
    cases hsuccess
  simp only [hfound, hsuccess, if_true, if_false]
  exact runs_pure_iff.mpr ⟨rfl, rfl⟩

theorem runs_ask_answered {α : Type} {shape : Json.Shape α} {response : Response} {value : α}
    (hrequest : (client.draft method acceptsAnything endpoint).request = .ok request)
    (hsuccess : response.isSuccess = true) (hread : response.read? shape = some value) :
    Runs (client.ask method endpoint shape) [⟨request, some response⟩] (.ok (value, response)) := by
  refine runs_bind_iff.mpr ⟨_, _, [], rfl, runs_call_answered hrequest hsuccess, ?_⟩
  simp only [hread]
  exact runs_pure_iff.mpr ⟨rfl, rfl⟩

end Client

/-! ### Switches -/

/-- What is to be paused, or to go on. -/
structure Switch where
  scope : Scope
  job : Job
  paused : Bool

namespace Switch

/-- The place whose flag is to be set. -/
def place (switch : Switch) : List String :=
  placeOf switch.job switch.scope

/-- Asks a server for the flag, and has it changed if need be. -/
def course (client : Client) (switch : Switch) : Exchange (Except ServerFault Bool) :=
  client.setPaused switch.scope switch.job switch.paused

/-- The request for the flag. -/
def Asks (client : Client) (switch : Switch) (request : Request) : Prop :=
  (client.draft .get acceptsAnything (endpointTo switch.place)).request = .ok request

/-- The request to change the flag. -/
def Changes (client : Client) (switch : Switch) (request : Request) : Prop :=
  (client.draft .put acceptsAnything (endpointTo (switch.place ++ [action switch.paused]))).request =
    .ok request

end Switch

/-- The request has failed: it has no response, or one that tells of no success, or the response was
to tell a flag and cannot be read. -/
def Failed (sent : Sent) : Prop :=
  ∀ response, sent.answer = some response → response.isSuccess = true →
    sent.question.method = .get ∧ response.read? Client.pausedShape = none

/-- The response tells the flag of a place. -/
structure Tells (response : Response) (paused : Bool) : Prop where
  success : response.isSuccess = true
  read : response.read? Client.pausedShape = some paused

/-- What is sent for a switch, and what comes of it. -/
inductive SwitchSent (client : Client) (switch : Switch) :
    List Sent → Except ServerFault Bool → Prop
  | unsent {fault : ServerFault} : SwitchSent client switch [] (.error fault)
  | unknown {get : Request} {outcome : Outcome} {fault : ServerFault} :
      switch.Asks client get → Failed ⟨get, outcome⟩ →
        SwitchSent client switch [⟨get, outcome⟩] (.error fault)
  | already {get : Request} {response : Response} :
      switch.Asks client get → Tells response switch.paused →
        SwitchSent client switch [⟨get, some response⟩] (.ok false)
  | unsendable {get : Request} {response : Response} {fault : ServerFault} :
      switch.Asks client get → Tells response (!switch.paused) →
        SwitchSent client switch [⟨get, some response⟩] (.error fault)
  | refused {get put : Request} {response : Response} {outcome : Outcome} {fault : ServerFault} :
      switch.Asks client get → Tells response (!switch.paused) → switch.Changes client put →
        Failed ⟨put, outcome⟩ →
          SwitchSent client switch [⟨get, some response⟩, ⟨put, outcome⟩] (.error fault)
  | changed {get put : Request} {response done : Response} :
      switch.Asks client get → Tells response (!switch.paused) → switch.Changes client put →
        done.isSuccess = true →
          SwitchSent client switch [⟨get, some response⟩, ⟨put, some done⟩] (.ok true)

section Switch

variable {client : Client} {switch : Switch} {trace : List Sent} {request get put : Request}
  {result : Except ServerFault Bool}

theorem Switch.Asks.method_eq (hasks : switch.Asks client request) : request.method = .get :=
  (path_of_request hasks).1

theorem Switch.Changes.method_eq (hchanges : switch.Changes client request) : request.method = .put :=
  (path_of_request hchanges).1

theorem switchSent_of_runs (hruns : Runs (switch.course client) trace result) :
    SwitchSent client switch trace result := by
  unfold Switch.course Client.setPaused at hruns
  rw [runs_bind_iff] at hruns
  obtain ⟨early, answer, late, rfl, hask, hlate⟩ := hruns
  rw [endpointOf_eq] at hask
  have hsent := askSent_of_runs hask
  cases hsent with
  | unsent =>
      obtain ⟨rfl, rfl⟩ := runs_pure_iff.mp hlate
      exact .unsent
  | failed hrequest hunread =>
      obtain ⟨rfl, rfl⟩ := runs_pure_iff.mp hlate
      have hasks : switch.Asks client _ := hrequest
      exact .unknown hasks fun response hresponse hsuccess =>
        ⟨hasks.method_eq, hunread response hresponse hsuccess⟩
  | @answered get response told hrequest hsuccess hread =>
      have hasks : switch.Asks client get := hrequest
      simp only at hlate
      split at hlate
      · next hsame =>
          obtain ⟨rfl, rfl⟩ := runs_pure_iff.mp hlate
          exact .already hasks ⟨hsuccess, hsame ▸ hread⟩
      · next hother =>
          have htells : Tells response (!switch.paused) :=
            ⟨hsuccess, Bool.eq_not_of_ne hother ▸ hread⟩
          rw [endpointOf_pauseAction, runs_bind_iff] at hlate
          obtain ⟨early, done, late, rfl, hcall, hfinal⟩ := hlate
          obtain ⟨rfl, rfl⟩ := runs_pure_iff.mp hfinal
          cases callSent_of_runs hcall with
          | unsent => exact .unsendable hasks htells
          | failed hrequest hstatus =>
              refine .refused hasks htells hrequest fun response hresponse hsuccess => ?_
              rw [hstatus response hresponse] at hsuccess
              cases hsuccess
          | answered hrequest hsuccess => exact .changed hasks htells hrequest hsuccess

theorem runs_ask_told {response : Response} {told : Bool} (hasks : switch.Asks client get)
    (htells : Tells response told) :
    Runs (client.ask .get (Client.endpointOf switch.job switch.scope) Client.pausedShape)
      [⟨get, some response⟩] (.ok (told, response)) := by
  rw [endpointOf_eq]
  exact runs_ask_answered hasks htells.success htells.read

/-- A switch succeeds if its requests do, whatever they are for. -/
theorem runs_changed {response done : Response} (hasks : switch.Asks client get)
    (htells : Tells response (!switch.paused)) (hchanges : switch.Changes client put)
    (hdone : done.isSuccess = true) :
    Runs (switch.course client) [⟨get, some response⟩, ⟨put, some done⟩] (.ok true) := by
  refine runs_bind_iff.mpr ⟨_, _, [⟨put, some done⟩], rfl, runs_ask_told hasks htells, ?_⟩
  simp only [Bool.not_eq_self, if_false]
  rw [endpointOf_pauseAction]
  exact runs_bind_iff.mpr
    ⟨_, _, [], rfl, runs_call_answered hchanges hdone, runs_pure_iff.mpr ⟨rfl, rfl⟩⟩

theorem runs_already {response : Response} (hasks : switch.Asks client get)
    (htells : Tells response switch.paused) :
    Runs (switch.course client) [⟨get, some response⟩] (.ok false) := by
  refine runs_bind_iff.mpr ⟨_, _, [], rfl, runs_ask_told hasks htells, ?_⟩
  simp only [if_true]
  exact runs_pure_iff.mpr ⟨rfl, rfl⟩

end Switch

end BuildHerald.Proofs.PauseRequests
