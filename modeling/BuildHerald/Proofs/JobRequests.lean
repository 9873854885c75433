import BuildHerald.Proofs.JobTargets
import BuildHerald.Proofs.Sending
import BuildHerald.Proofs.ServerAddresses
import BuildHerald.Server.Client
import BuildHerald.Text.Blank

/-!
Which places on the server the requests for a job are for.

The names of a job stand in the addresses of its requests as they are. A request is therefore for the
job exactly if an address understands each of the names as no more than a name.
-/

namespace BuildHerald.Proofs.JobRequests

open BuildHerald.Http
open BuildHerald.Server
open BuildHerald.Text
open BuildHerald.Proofs.Conversation
open BuildHerald.Proofs.EncodedText
open BuildHerald.Proofs.Escaping
open BuildHerald.Proofs.JobTargets (HasParts hasParts_pieces mem_of_hasParts
  ofTarget?_eq_some_iff_parts)
open BuildHerald.Proofs.Listening (Sent request_of_send)
open BuildHerald.Proofs.ResolvedPaths
open BuildHerald.Proofs.Sending (runs_send_of_ok)
open BuildHerald.Proofs.ServerAddresses

/-! ### Places -/

/-- The endpoint of the place with these names, one below the other. -/
def endpointTo (place : List String) : String :=
  String.ofList (joined (place.map String.toList))

theorem toList_endpointTo (place : List String) :
    (endpointTo place).toList = joined (place.map String.toList) :=
  String.toList_ofList

theorem endpointTo_nil : endpointTo [] = "" :=
  rfl

theorem endpointTo_cons (name : String) (place : List String) :
    endpointTo (name :: place) = "/" ++ (name ++ endpointTo place) := by
  rw [← String.toList_inj, toList_endpointTo, List.map_cons, joined_cons, String.toList_append,
    String.toList_append, toList_endpointTo]
  rfl

theorem endpointTo_concat (place : List String) (name : String) :
    endpointTo (place ++ [name]) = endpointTo place ++ ("/" ++ name) := by
  rw [← String.toList_inj, String.toList_append, toList_endpointTo, toList_endpointTo, joined, joined,
    List.map_append, List.flatMap_append, List.map_singleton, List.flatMap_singleton,
    String.toList_append]
  rfl

/-- The request is for this place. -/
def IsFor (request : Request) (place : List String) : Prop :=
  ∃ segments, request.url.path = .segments segments ∧
    segments.map meant = place.map fun name => Utf8.encode name.toList

/-- A request is for one place only. -/
theorem place_unique {request : Request} {place other : List String} (hplace : IsFor request place)
    (hother : IsFor request other) : place = other := by
  obtain ⟨segments, hsegments, hplace⟩ := hplace
  obtain ⟨others, hothers, hother⟩ := hother
  rw [hothers, Path.segments.injEq] at hsegments
  rw [← hsegments, hother] at hplace
  refine (List.map_injective_iff.mpr ?_ hplace).symm
  exact fun _ _ heq => String.toList_injective (encode_injective heq)

/-- No slash is in the name, and no character that is left out wherever it stands. -/
structure IsClean (name : String) : Prop where
  slash : '/' ∉ name.toList
  kept : ∀ c ∈ name.toList, isKept c = true

theorem getLast_joined_concat (names : List (List Char)) (name : List Char) :
    (∀ c, (joined (names ++ [name])).getLast? = some c → ' ' < c) ↔
      ∀ c, name.getLast? = some c → ' ' < c := by
  rw [joined, List.flatMap_append, List.flatMap_singleton, List.getLast?_append, List.getLast?_cons]
  cases hlast : name.getLast? with
  | none => simp
  | some last => simp

/-! ### Requests -/

theorem path_of_request {draft : Draft} {request : Request} (hrequest : draft.request = .ok request) :
    request.method = draft.method ∧ ∃ given, Url.ofText? draft.address = some given ∧
      given.isWeb = true ∧ request.url.path = given.path := by
  unfold Draft.request at hrequest
  split at hrequest
  · cases hrequest
  · next given hgiven =>
      split at hrequest
      · cases hrequest
      · extract_lets url at hrequest
        have hurl : url.isWeb = given.isWeb ∧ url.path = given.path := by
          unfold url
          split
          · exact ⟨rfl, rfl⟩
          · exact ⟨rfl, rfl⟩
        split at hrequest
        · cases hrequest
        · split at hrequest
          · cases hrequest
          · next hsendable =>
              cases hrequest
              rw [Bool.not_eq_true, Bool.not_eq_false', Bool.and_eq_true] at hsendable
              exact ⟨rfl, given, hgiven, hurl.1 ▸ hsendable.1, hurl.2⟩

section Client

variable {client : Client} {method : Method} {accept endpoint : String} {trace : List Sent}

theorem request_of_call {result : Except ServerFault Response}
    (hruns : Runs (client.call method accept endpoint) trace result) :
    ∀ sent ∈ trace, (client.draft method accept endpoint).request = .ok sent.question := by
  obtain ⟨answer, hsend⟩ :
      ∃ answer, Runs (client.draft method accept endpoint).send trace answer := by
    refine exists_runs_of_bind_pure ?_ hruns
    rintro (fault | response)
    · exact ⟨_, rfl⟩
    · simp only
      split_ifs
      · exact ⟨_, rfl⟩
      · exact ⟨_, rfl⟩
      · exact ⟨_, rfl⟩
  exact request_of_send hsend

theorem request_of_ask {α : Type} {shape : Json.Shape α} {result : Except ServerFault (α × Response)}
    (hruns : Runs (client.ask method endpoint shape) trace result) :
    ∀ sent ∈ trace, (client.draft method acceptsAnything endpoint).request = .ok sent.question := by
  obtain ⟨answer, hcall⟩ :
      ∃ answer, Runs (client.call method acceptsAnything endpoint) trace answer := by
    refine exists_runs_of_bind_pure ?_ hruns
    rintro (fault | response)
    · exact ⟨_, rfl⟩
    · simp only
      split
      · exact ⟨_, rfl⟩
      · exact ⟨_, rfl⟩
  exact request_of_call hcall

theorem path_of_endpointTo {place : List String} {request : Request}
    (hbare : IsBare client.base.toList) (hne : place ≠ []) (hclean : ∀ name ∈ place, IsClean name)
    (hrequest : (client.draft method accept (endpointTo place)).request = .ok request) :
    request.url.path =
      .segments (Path.segmentsOf true (pathOf (joined (place.map String.toList)))) := by
  obtain ⟨-, given, hgiven, hweb, hpath⟩ := path_of_request hrequest
  obtain ⟨first, others, rfl⟩ := List.exists_cons_of_ne_nil hne
  have hendpoint : (endpointTo (first :: others)).toList =
      '/' :: (first.toList ++ joined (others.map String.toList)) := by
    rw [toList_endpointTo, List.map_cons, joined_cons]
  have hkept : ∀ c ∈ first.toList ++ joined (others.map String.toList), isKept c = true := by
    intro c hc
    have hmem : c ∈ joined ((first :: others).map String.toList) := by
      rw [List.map_cons, joined_cons]
      exact List.mem_cons_of_mem _ hc
    obtain ⟨text, htext, rfl | hc⟩ := mem_joined_iff.mp hmem
    · decide
    · obtain ⟨name, hname, rfl⟩ := List.mem_map.mp htext
      exact (hclean name hname).kept c hc
  rw [hpath, path_of_bare hbare hendpoint hkept hgiven hweb, toList_endpointTo]

/-- A request with the endpoint of a place is for the place exactly if every name is taken as it is and
no control is lost at the end. -/
theorem isFor_iff {place : List String} {name : String} {request : Request}
    (hbare : IsBare client.base.toList) (hclean : ∀ part ∈ place ++ [name], IsClean part)
    (hrequest : (client.draft method accept (endpointTo (place ++ [name]))).request = .ok request) :
    IsFor request (place ++ [name]) ↔ (∀ part ∈ place ++ [name], IsPlain part.toList) ∧
      ∀ c, name.toList.getLast? = some c → ' ' < c := by
  have hpath := path_of_endpointTo hbare (List.concat_ne_nil name place) hclean hrequest
  have hne : (place ++ [name]).map String.toList ≠ [] := by simp
  have hresolved := resolved_eq_iff hne
    (List.forall_mem_map.mpr fun part hpart => (hclean part hpart).slash)
  rw [List.forall_mem_map, List.map_map, List.map_append, List.map_singleton,
    getLast_joined_concat, ← List.map_singleton, ← List.map_append] at hresolved
  refine Iff.trans ⟨?_, ?_⟩ hresolved
  · rintro ⟨segments, hsegments, hmeant⟩
    rw [hpath, Path.segments.injEq] at hsegments
    rw [hsegments]
    exact hmeant
  · exact fun hmeant => ⟨_, hpath, hmeant⟩

end Client

/-! ### Jobs -/

/-- The text is a word of a line. -/
structure IsWord (text : String) : Prop where
  ne_empty : text.toList ≠ []
  blanks : ∀ c ∈ text.toList, isBlank c = false

theorem isKept_of_not_isBlank {c : Char} (hc : isBlank c = false) : isKept c = true := by
  have htab : c ≠ '\t' := by rintro rfl; revert hc; decide
  have hfeed : c ≠ '\n' := by rintro rfl; revert hc; decide
  have hreturn : c ≠ '\r' := by rintro rfl; revert hc; decide
  simp [isKept, htab, hfeed, hreturn]

/-- The place of a pipeline. -/
def pipelinePlace (team pipeline : String) : List String :=
  ["api", "v1", "teams", team, "pipelines", pipeline]

/-- The place of a job. -/
def jobPlace (job : Job) : List String :=
  pipelinePlace job.team job.pipeline ++ ["jobs", job.name]

theorem jobPlace_append_inj {job other : Job} {tail rest : List String}
    (hplace : jobPlace job ++ tail = jobPlace other ++ rest) : job = other ∧ tail = rest := by
  obtain ⟨team, pipeline, name⟩ := job
  obtain ⟨otherTeam, otherPipeline, otherName⟩ := other
  simpa [jobPlace, pipelinePlace, and_assoc] using hplace

theorem jobPlace_append_ne_pipelinePlace {job : Job} {team pipeline : String}
    {tail action : List String} (haction : action.length ≤ 1) :
    jobPlace job ++ tail ≠ pipelinePlace team pipeline ++ action := by
  intro hplace
  have hlength := congrArg List.length hplace
  simp only [jobPlace, pipelinePlace, List.length_append, List.length_cons, List.length_nil] at hlength
  omega

/-- What can be done to a job. -/
inductive Operation
  | start
  | setPaused (paused : Bool)

/-- How something is asked for, and at which place below that of the job. -/
structure Call where
  method : Method
  below : List String

namespace Operation

/-- What is asked for to do it, in order. -/
def calls : Operation → List Call
  | start => [⟨.post, ["builds"]⟩]
  | setPaused paused => [⟨.get, []⟩, ⟨.put, [if paused then "pause" else "unpause"]⟩]

/-- The requests that are sent to do it, and what comes of them. -/
def Sends (operation : Operation) (client : Client) (job : Job) (trace : List Sent) : Prop :=
  match operation with
  | start => ∃ result, Runs (client.start job) trace result
  | setPaused paused => ∃ result, Runs (client.setPaused .job job paused) trace result

end Operation

theorem jobEndpoint_eq (job : Job) : Client.jobEndpoint job = endpointTo (jobPlace job) := by
  have hteams : "/api/v1/teams/" = "/" ++ "api" ++ "/" ++ "v1" ++ "/" ++ "teams" ++ "/" := rfl
  have hpipelines : "/pipelines/" = "/" ++ "pipelines" ++ "/" := rfl
  have hjobs : "/jobs/" = "/" ++ "jobs" ++ "/" := rfl
  have hwritten : Client.jobEndpoint job =
      "/api/v1/teams/" ++ job.team ++ "/pipelines/" ++ job.pipeline ++ "/jobs/" ++ job.name := rfl
  rw [hwritten]
  simp only [hteams, hpipelines, hjobs, jobPlace, pipelinePlace, List.cons_append, List.nil_append,
    endpointTo_cons, endpointTo_nil, String.append_assoc, String.append_empty]

section Sends

variable {client : Client} {job : Job} {trace : List Sent}

theorem request_of_start {result : Except ServerFault Build}
    (hruns : Runs (client.start job) trace result) :
    ∀ sent ∈ trace, (client.draft .post acceptsAnything
      (endpointTo (jobPlace job ++ ["builds"]))).request = .ok sent.question := by
  obtain ⟨answer, hask⟩ := exists_runs_of_bind_pure (fun _ => ⟨_, rfl⟩) hruns
  rw [endpointTo_concat, ← jobEndpoint_eq]
  exact request_of_ask hask

theorem request_of_setPaused {paused : Bool} {result : Except ServerFault Bool}
    (hruns : Runs (client.setPaused .job job paused) trace result) :
    ∀ sent ∈ trace,
      (client.draft .get acceptsAnything (endpointTo (jobPlace job))).request = .ok sent.question ∨
        (client.draft .put acceptsAnything
          (endpointTo (jobPlace job ++ [if paused then "pause" else "unpause"]))).request =
            .ok sent.question := by
  have haction : Client.pauseAction paused = "/" ++ (if paused then "pause" else "unpause") := by
    cases paused <;> rfl
  unfold Client.setPaused at hruns
  rw [runs_bind_iff] at hruns
  obtain ⟨early, answer, late, rfl, hask, hlate⟩ := hruns
  rw [endpointTo_concat, ← jobEndpoint_eq, ← haction]
  intro sent hsent
  obtain hsent | hsent := List.mem_append.mp hsent
  · exact .inl (request_of_ask hask sent hsent)
  · right
    cases answer with
    | error fault =>
        rw [(runs_pure_iff.mp hlate).1] at hsent
        cases hsent
    | ok told =>
        simp only at hlate
        split at hlate
        · rw [(runs_pure_iff.mp hlate).1] at hsent
          cases hsent
        · obtain ⟨done, hcall⟩ := exists_runs_of_bind_pure (fun _ => ⟨_, rfl⟩) hlate
          exact request_of_call hcall sent hsent

end Sends

theorem request_of_sends {operation : Operation} {client : Client} {job : Job} {trace : List Sent}
    (hsends : operation.Sends client job trace) :
    ∀ sent ∈ trace, ∃ call ∈ operation.calls,
      (client.draft call.method acceptsAnything (endpointTo (jobPlace job ++ call.below))).request =
        .ok sent.question := by
  intro sent hsent
  cases operation with
  | start =>
      obtain ⟨result, hruns⟩ := hsends
      exact ⟨_, List.mem_cons_self, request_of_start hruns sent hsent⟩
  | setPaused paused =>
      obtain ⟨result, hruns⟩ := hsends
      obtain hget | hput := request_of_setPaused hruns sent hsent
      · exact ⟨_, List.mem_cons_self, by rwa [List.append_nil]⟩
      · exact ⟨_, List.mem_cons_of_mem _ List.mem_cons_self, hput⟩

/-! ### Names -/

/-- The names in an endpoint that are not a job's. -/
def ownNames : List String :=
  ["api", "v1", "teams", "pipelines", "jobs", "builds", "pause", "unpause"]

-- What holds of all characters of a text is decided with `List.all`: the instance for a bounded
-- quantifier may go through all characters there are.
theorem isWord_of_all {text : String} (hne : text.toList ≠ [])
    (hblanks : text.toList.all fun c => isBlank c = false) : IsWord text :=
  ⟨hne, List.all_iff_forall_prop.mp hblanks⟩

theorem isClean_of_all {name : String} (hslash : '/' ∉ name.toList)
    (hkept : name.toList.all isKept = true) : IsClean name :=
  ⟨hslash, List.all_eq_true.mp hkept⟩

theorem isPlain_of_all {name : List Char} (hmarks : name.all fun c => c ∉ ['?', '#', '\\', '%'])
    (hplace : Path.isRelative name = false) : IsPlain name := by
  rw [List.all_iff_forall_prop] at hmarks
  refine ⟨?_, hplace, ?_⟩
  · intro c hc
    have hmark := hmarks c hc
    simp only [List.mem_cons, not_or] at hmark
    exact ⟨hmark.1, hmark.2.1, hmark.2.2.1⟩
  · rintro before after rfl
    exact absurd (hmarks '%' (by simp)) (by decide)

theorem isPlain_own : ∀ name ∈ ownNames, IsPlain name.toList := by
  have hnames : ∀ name ∈ ownNames, (name.toList.all fun c => c ∉ ['?', '#', '\\', '%']) = true ∧
      Path.isRelative name.toList = false := by
    decide
  exact fun name hname => isPlain_of_all (hnames name hname).1 (hnames name hname).2

theorem isClean_own : ∀ name ∈ ownNames, IsClean name := by
  have hnames : ∀ name ∈ ownNames, '/' ∉ name.toList ∧ name.toList.all isKept = true := by
    decide
  exact fun name hname => isClean_of_all (hnames name hname).1 (hnames name hname).2

theorem getLast_own : ∀ name ∈ ownNames, ∀ c, name.toList.getLast? = some c → ' ' < c := by
  have hnames : ∀ name ∈ ownNames, ∀ c ∈ name.toList, ' ' < c := by
    simp only [← List.all_iff_forall_prop]
    decide
  exact fun name hname c hc => hnames name hname c (List.mem_of_getLast? hc)

theorem below_own {operation : Operation} :
    ∀ call ∈ operation.calls, call.below = [] ∨ ∃ name ∈ ownNames, call.below = [name] := by
  cases operation with
  | start =>
      rw [Operation.calls, List.forall_mem_singleton]
      exact .inr ⟨"builds", by decide, rfl⟩
  | setPaused paused =>
      rw [Operation.calls, List.forall_mem_cons, List.forall_mem_singleton]
      refine ⟨.inl rfl, .inr ⟨_, ?_, rfl⟩⟩
      cases paused <;> decide

section Names

variable {P : String → Prop} (hown : ∀ name ∈ ownNames, P name)

include hown

theorem forall_mem_pipelinePlace (team pipeline : String) :
    (∀ name ∈ pipelinePlace team pipeline, P name) ↔ P team ∧ P pipeline := by
  simp only [ownNames, List.forall_mem_cons] at hown
  simp [pipelinePlace, hown]

theorem forall_mem_jobPlace (job : Job) :
    (∀ name ∈ jobPlace job, P name) ↔ P job.team ∧ P job.pipeline ∧ P job.name := by
  rw [jobPlace, List.forall_mem_append, forall_mem_pipelinePlace hown, List.forall_mem_cons,
    List.forall_mem_singleton, and_assoc, and_iff_right (hown "jobs" (by decide))]

end Names

theorem isClean_of_target {team word : String} {job : Job} (hteam : IsWord team)
    (hslash : '/' ∉ team.toList) (hword : IsWord word) (hjob : Job.ofTarget? team word = some job) :
    IsClean job.team ∧ IsClean job.pipeline ∧ IsClean job.name := by
  obtain ⟨parts, hparts⟩ : ∃ parts, HasParts word parts := ⟨_, hasParts_pieces word⟩
  have hclean : ∀ part ∈ parts, IsClean part := by
    intro part hpart
    refine ⟨hparts.slashless part hpart, fun c hc => isKept_of_not_isBlank ?_⟩
    exact hword.blanks c (mem_of_hasParts hparts hpart hc)
  obtain ⟨-, ⟨rfl, rfl⟩ | rfl⟩ := (ofTarget?_eq_some_iff_parts hparts).mp hjob
  · simp only [List.forall_mem_cons] at hclean
    have hown : IsClean job.team := ⟨hslash, fun c hc => isKept_of_not_isBlank (hteam.blanks c hc)⟩
    exact ⟨hown, hclean.1, hclean.2.1⟩
  · simp only [List.forall_mem_cons] at hclean
    exact ⟨hclean.1, hclean.2.1, hclean.2.2.1⟩

/-! ### What is asked for -/

/-- The names of the job are understood as no more than names where this is asked for. -/
structure IsAddressable (job : Job) (call : Call) : Prop where
  team : IsPlain job.team.toList
  pipeline : IsPlain job.pipeline.toList
  name : IsPlain job.name.toList
  ending : call.below = [] → ∀ c, job.name.toList.getLast? = some c → ' ' < c

theorem isFor_job_iff {client : Client} {job : Job} {operation : Operation} {call : Call}
    {request : Request} (hbare : IsBare client.base.toList)
    (hclean : IsClean job.team ∧ IsClean job.pipeline ∧ IsClean job.name)
    (hcall : call ∈ operation.calls)
    (hrequest : (client.draft call.method acceptsAnything
      (endpointTo (jobPlace job ++ call.below))).request = .ok request) :
    IsFor request (jobPlace job ++ call.below) ↔ IsAddressable job call := by
  have hjob := (forall_mem_jobPlace isClean_own job).mpr hclean
  have hplain := forall_mem_jobPlace isPlain_own job
  obtain hbelow | ⟨action, haction, hbelow⟩ := below_own call hcall
  · have hconcat : jobPlace job ++ call.below =
        pipelinePlace job.team job.pipeline ++ ["jobs"] ++ [job.name] := by
      rw [hbelow, List.append_nil]
      rfl
    rw [hconcat] at hrequest ⊢
    rw [isFor_iff hbare hjob hrequest]
    refine (and_congr_left' hplain).trans ⟨?_, ?_⟩
    · rintro ⟨⟨hteam, hpipeline, hname⟩, hending⟩
      exact ⟨hteam, hpipeline, hname, fun _ => hending⟩
    · rintro ⟨hteam, hpipeline, hname, hending⟩
      exact ⟨⟨hteam, hpipeline, hname⟩, hending hbelow⟩
  · rw [hbelow] at hrequest ⊢
    have hclean : ∀ part ∈ jobPlace job ++ [action], IsClean part :=
      List.forall_mem_append.mpr ⟨hjob, List.forall_mem_singleton.mpr (isClean_own action haction)⟩
    rw [isFor_iff hbare hclean hrequest, List.forall_mem_append, List.forall_mem_singleton, hplain]
    constructor
    · rintro ⟨⟨⟨hteam, hpipeline, hname⟩, -⟩, -⟩
      exact ⟨hteam, hpipeline, hname, fun hnil => by simp [hbelow] at hnil⟩
    · rintro ⟨hteam, hpipeline, hname, -⟩
      exact ⟨⟨⟨hteam, hpipeline, hname⟩, isPlain_own action haction⟩, getLast_own action haction⟩

/-- What a request of an operation on a job is for. -/
structure Asks (job : Job) (call : Call) (request : Request) : Prop where
  method_eq : request.method = call.method
  isFor_iff : IsFor request (jobPlace job ++ call.below) ↔ IsAddressable job call
  /-- No request for another job has the same path. -/
  other_job : IsAddressable job call → ∀ (another : Request) (other : Job) (below : List String),
    another.url.path = request.url.path → IsFor another (jobPlace other ++ below) → other = job
  /-- The request is not for a pipeline, and not for what can be done to one. -/
  no_pipeline : IsAddressable job call → ∀ (team pipeline : String) (action : List String),
    action.length ≤ 1 → ¬ IsFor request (pipelinePlace team pipeline ++ action)

/-- A request for a job is for its place exactly if its names are understood as no more than names. -/
theorem asks_for_named_job_iff {client : Client} {team word : String} {job : Job}
    {operation : Operation} {trace : List Sent} (hbare : IsBare client.base.toList)
    (hteam : IsWord team) (hslash : '/' ∉ team.toList) (hword : IsWord word)
    (hjob : Job.ofTarget? team word = some job) (hsends : operation.Sends client job trace) :
    ∀ sent ∈ trace, ∃ call ∈ operation.calls, Asks job call sent.question := by
  intro sent hsent
  obtain ⟨call, hcall, hrequest⟩ := request_of_sends hsends sent hsent
  have hiff := isFor_job_iff hbare (isClean_of_target hteam hslash hword hjob) hcall hrequest
  refine ⟨call, hcall, (path_of_request hrequest).1, hiff, ?_, ?_⟩
  · rintro haddressable another other below hpath ⟨segments, hsegments, hmeant⟩
    have hother : IsFor sent.question (jobPlace other ++ below) :=
      ⟨segments, hpath ▸ hsegments, hmeant⟩
    exact (jobPlace_append_inj (place_unique hother (hiff.mpr haddressable))).1
  · intro haddressable team pipeline action haction hpipeline
    exact jobPlace_append_ne_pipelinePlace haction
      (place_unique (hiff.mpr haddressable) hpipeline)

def localClient : Client :=
  ⟨"http://[::1]", none⟩

theorem isBare_localClient : IsBare localClient.base.toList :=
  ⟨"http".toList, "//".toList, "[::1]".toList, by decide, by decide,
    List.all_iff_forall_prop.mp (by decide), by decide, List.all_iff_forall_prop.mp (by decide)⟩

theorem exists_request {draft : Draft} {path : Path}
    (hpath : draft.request.toOption.map (·.url.path) = some path) :
    ∃ request, draft.request = .ok request ∧ request.url.path = path := by
  cases hrequest : draft.request with
  | error fault =>
      rw [hrequest] at hpath
      cases hpath
  | ok request =>
      rw [hrequest] at hpath
      exact ⟨request, rfl, Option.some.inj hpath⟩

theorem runs_call_lost {client : Client} {method : Method} {accept endpoint : String}
    {request : Request}
    (hrequest : (client.draft method accept endpoint).request = .ok request) :
    ∃ fault, Runs (client.call method accept endpoint) [⟨request, none⟩] (.error fault) :=
  ⟨_, runs_bind_iff.mpr ⟨_, _, [], rfl, (runs_send_of_ok hrequest).mpr (.inl ⟨rfl, rfl⟩),
    runs_pure_iff.mpr ⟨rfl, rfl⟩⟩⟩

theorem sends_start {client : Client} {job : Job} {request : Request}
    (hrequest : (client.draft .post acceptsAnything (Client.jobEndpoint job ++ "/builds")).request =
      .ok request) :
    Operation.start.Sends client job [⟨request, none⟩] := by
  obtain ⟨fault, hcall⟩ := runs_call_lost hrequest
  have hask : Runs (client.ask .post (Client.jobEndpoint job ++ "/builds") Build.shape)
      [⟨request, none⟩] (.error fault) :=
    runs_bind_iff.mpr ⟨_, _, [], rfl, hcall, runs_pure_iff.mpr ⟨rfl, rfl⟩⟩
  exact ⟨_, runs_bind_iff.mpr ⟨_, _, [], rfl, hask, runs_pure_iff.mpr ⟨rfl, rfl⟩⟩⟩

/-- A build of a job whose name is taken as it is. -/
theorem start_named_job :
    ∃ request, Operation.start.Sends localClient ⟨"main", "pip", "unit"⟩ [⟨request, none⟩] ∧
      IsFor request ["api", "v1", "teams", "main", "pipelines", "pip", "jobs", "unit", "builds"] := by
  have hpath : (localClient.draft .post acceptsAnything
      (Client.jobEndpoint ⟨"main", "pip", "unit"⟩ ++ "/builds")).request.toOption.map
        (·.url.path) = some (.segments ["api".toList, "v1".toList, "teams".toList, "main".toList,
          "pipelines".toList, "pip".toList, "jobs".toList, "unit".toList, "builds".toList]) := by
    decide +kernel
  obtain ⟨request, hrequest, -⟩ := exists_request hpath
  have hsends := sends_start hrequest
  obtain ⟨call, hcall, hasks⟩ := asks_for_named_job_iff isBare_localClient
    (isWord_of_all (by decide) (by decide)) (by decide) (isWord_of_all (by decide) (by decide))
    (show Job.ofTarget? "main" "pip/unit" = some ⟨"main", "pip", "unit"⟩ by decide) hsends
    ⟨request, none⟩ List.mem_cons_self
  obtain rfl := List.mem_singleton.mp hcall
  refine ⟨request, hsends, hasks.isFor_iff.mpr ⟨?_, ?_, ?_, ?_⟩⟩
  · exact isPlain_of_all (by decide) (by decide)
  · exact isPlain_of_all (by decide) (by decide)
  · exact isPlain_of_all (by decide) (by decide)
  · exact fun hnil => absurd hnil (List.cons_ne_nil _ _)

/-- The request to start a job is for another one, whose name is the part in front of a number sign. -/
theorem start_other_job :
    IsBare localClient.base.toList ∧ IsWord "main" ∧ '/' ∉ "main".toList ∧ IsWord "pip/unit#2" ∧
      Job.ofTarget? "main" "pip/unit#2" = some ⟨"main", "pip", "unit#2"⟩ ∧ ∃ request,
        Operation.start.Sends localClient ⟨"main", "pip", "unit#2"⟩ [⟨request, none⟩] ∧
          IsFor request (jobPlace ⟨"main", "pip", "unit"⟩) ∧
            ¬ IsFor request (jobPlace ⟨"main", "pip", "unit#2"⟩ ++ ["builds"]) := by
  have hpath : (localClient.draft .post acceptsAnything
      (Client.jobEndpoint ⟨"main", "pip", "unit#2"⟩ ++ "/builds")).request.toOption.map
        (·.url.path) = some (.segments ["api".toList, "v1".toList, "teams".toList, "main".toList,
          "pipelines".toList, "pip".toList, "jobs".toList, "unit".toList]) := by
    decide +kernel
  obtain ⟨request, hrequest, hsegments⟩ := exists_request hpath
  have hother : IsFor request (jobPlace ⟨"main", "pip", "unit"⟩) := ⟨_, hsegments, by decide⟩
  refine ⟨isBare_localClient, isWord_of_all (by decide) (by decide), by decide,
    isWord_of_all (by decide) (by decide), by decide, request, sends_start hrequest, hother, ?_⟩
  intro hnamed
  exact absurd (place_unique hother hnamed) (by decide)

/-! ### The place above -/

section Parent

variable {team pipeline action : String}

theorem forall_mem_parent {P : String → Prop} (hown : ∀ name ∈ ownNames, P name)
    (haction : action ∈ ownNames) (hteam : P team) (hpipeline : P pipeline) (hparent : P "..") :
    ∀ name ∈ jobPlace ⟨team, pipeline, ".."⟩ ++ [action], P name :=
  List.forall_mem_append.mpr ⟨(forall_mem_jobPlace hown _).mpr ⟨hteam, hpipeline, hparent⟩,
    List.forall_mem_singleton.mpr (hown action haction)⟩

theorem segmentsOf_parent (haction : action ∈ ownNames) (hteam : IsClean team)
    (hpipeline : IsClean pipeline) (hteam' : IsPlain team.toList)
    (hpipeline' : IsPlain pipeline.toList) :
    Path.segmentsOf true
        (pathOf (joined ((jobPlace ⟨team, pipeline, ".."⟩ ++ [action]).map String.toList))) =
      Path.resolve [] ((pipelinePlace team pipeline ++ [action]).map String.toList) := by
  have hslash := forall_mem_parent (P := fun name => '/' ∉ name.toList)
    (fun name hname => (isClean_own name hname).slash) haction hteam.slash hpipeline.slash (by decide)
  have hmarks := forall_mem_parent
    (P := fun name => ∀ c ∈ name.toList, c ≠ '?' ∧ c ≠ '#' ∧ c ≠ '\\')
    (fun name hname => (isPlain_own name hname).marks) haction hteam'.marks hpipeline'.marks
    (List.all_iff_forall_prop.mp (by decide))
  have hlast : ∀ c, (joined ((jobPlace ⟨team, pipeline, ".."⟩ ++ [action]).map
      String.toList)).getLast? = some c → ' ' < c := by
    rw [List.map_append, List.map_singleton, getLast_joined_concat]
    exact getLast_own action haction
  have hplaces : ∀ part ∈ (pipelinePlace team pipeline).map String.toList ++ ["jobs".toList],
      Path.isRelative part = false := by
    have hplain := (forall_mem_pipelinePlace isPlain_own team pipeline).mpr ⟨hteam', hpipeline'⟩
    rw [List.forall_mem_append, List.forall_mem_map, List.forall_mem_singleton]
    exact ⟨fun name hname => (hplain name hname).place, by decide⟩
  rw [segmentsOf_joined (by simp) (List.forall_mem_map.mpr hslash) (List.forall_mem_map.mpr hmarks)
    hlast]
  exact resolve_parent hplaces (by decide) (List.cons_ne_nil _ _)

/-- Pausing what is named as the place above the jobs pauses the whole pipeline. -/
theorem isFor_pipeline_of_parent {client : Client} {paused : Bool} {trace : List Sent}
    {result : Except ServerFault Bool} (hbare : IsBare client.base.toList) (hteam : IsClean team)
    (hpipeline : IsClean pipeline) (hteam' : IsPlain team.toList)
    (hpipeline' : IsPlain pipeline.toList)
    (hruns : Runs (client.setPaused .job ⟨team, pipeline, ".."⟩ paused) trace result) :
    ∀ sent ∈ trace, sent.question.method = .put →
      IsFor sent.question
        (pipelinePlace team pipeline ++ [if paused then "pause" else "unpause"]) := by
  have haction : (if paused then "pause" else "unpause") ∈ ownNames := by
    cases paused <;> decide
  intro sent hsent hput
  obtain hget | hrequest := request_of_setPaused hruns sent hsent
  · rw [(path_of_request hget).1] at hput
    cases hput
  · have hpath := path_of_endpointTo hbare (List.concat_ne_nil _ _)
      (forall_mem_parent isClean_own haction hteam hpipeline
        (isClean_of_all (by decide) (by decide))) hrequest
    rw [segmentsOf_parent haction hteam hpipeline hteam' hpipeline'] at hpath
    have hplain := List.forall_mem_append.mpr
      ⟨(forall_mem_pipelinePlace isPlain_own team pipeline).mpr ⟨hteam', hpipeline'⟩,
        List.forall_mem_singleton.mpr (isPlain_own _ haction)⟩
    refine ⟨_, hpath, ?_⟩
    rw [map_meant_resolve (List.forall_mem_map.mpr fun name hname => (hplain name hname).place)
      (List.forall_mem_map.mpr fun name hname => (hplain name hname).escapes), List.map_map]
    rfl

end Parent

/-- The server tells that a job is not paused. -/
def running : Response where
  status := 200
  headers := []
  body := [Utf8.ofString "\x7b\"paused\": false\x7d"]
  complete := true

theorem runs_ask_running {client : Client} {endpoint : String} {request : Request}
    (hrequest : (client.draft .get acceptsAnything endpoint).request = .ok request) :
    Runs (client.ask .get endpoint Client.pausedShape) [⟨request, some running⟩]
      (.ok (false, running)) := by
  have htold : running.read? Client.pausedShape = some false := by decide +kernel
  have hcall : Runs (client.call .get acceptsAnything endpoint) [⟨request, some running⟩]
      (.ok running) :=
    runs_bind_iff.mpr ⟨_, _, [], rfl,
      (runs_send_of_ok hrequest).mpr (.inr ⟨running, rfl, rfl⟩), runs_pure_iff.mpr ⟨rfl, rfl⟩⟩
  refine runs_bind_iff.mpr ⟨_, _, [], rfl, hcall, ?_⟩
  simp only [htold]
  exact runs_pure_iff.mpr ⟨rfl, rfl⟩

theorem sends_setPaused {client : Client} {job : Job} {get put : Request}
    (hget : (client.draft .get acceptsAnything (Client.jobEndpoint job)).request = .ok get)
    (hput : (client.draft .put acceptsAnything (Client.jobEndpoint job ++ "/pause")).request =
      .ok put) :
    (Operation.setPaused true).Sends client job [⟨get, some running⟩, ⟨put, none⟩] := by
  obtain ⟨fault, hcall⟩ := runs_call_lost hput
  refine ⟨.error fault, runs_bind_iff.mpr ⟨_, _, [⟨put, none⟩], rfl, runs_ask_running hget, ?_⟩⟩
  exact runs_bind_iff.mpr ⟨_, _, [], rfl, hcall, runs_pure_iff.mpr ⟨rfl, rfl⟩⟩

/-- A job that is named so is not paused, and the second request of a pause is for the pipeline. -/
theorem pause_parent : ∃ get put,
    (Operation.setPaused true).Sends localClient ⟨"main", "pip", ".."⟩
        [⟨get, some running⟩, ⟨put, none⟩] ∧
      IsFor put (pipelinePlace "main" "pip" ++ ["pause"]) := by
  have hget : (localClient.draft .get acceptsAnything
      (Client.jobEndpoint ⟨"main", "pip", ".."⟩)).request.toOption.map (·.url.path) =
        some (.segments ["api".toList, "v1".toList, "teams".toList, "main".toList,
          "pipelines".toList, "pip".toList, []]) := by
    decide +kernel
  have hput : (localClient.draft .put acceptsAnything
      (Client.jobEndpoint ⟨"main", "pip", ".."⟩ ++ "/pause")).request.toOption.map (·.url.path) =
        some (.segments ["api".toList, "v1".toList, "teams".toList, "main".toList,
          "pipelines".toList, "pip".toList, "pause".toList]) := by
    decide +kernel
  obtain ⟨get, hget, -⟩ := exists_request hget
  obtain ⟨put, hput, -⟩ := exists_request hput
  obtain ⟨result, hruns⟩ := sends_setPaused hget hput
  refine ⟨get, put, ⟨result, hruns⟩, isFor_pipeline_of_parent isBare_localClient
    (isClean_of_all (by decide) (by decide)) (isClean_of_all (by decide) (by decide))
    (isPlain_of_all (by decide) (by decide))
    (isPlain_of_all (by decide) (by decide)) hruns _
    (List.mem_cons_of_mem _ List.mem_cons_self) (path_of_request hput).1⟩

end BuildHerald.Proofs.JobRequests
