import BuildHerald.Proofs.PauseRequests
import BuildHerald.Proofs.SpokenCommands
import Mathlib.Logic.Function.Basic

/-!
What becomes of the flags on a server when jobs and pipelines are paused and let go on.

The server keeps a flag for each place, tells it, and sets it. What comes of a switch is true of the
flags if the requests are for the place that is meant, and need not be true if they are not.
-/

namespace BuildHerald.Proofs.PausedFlags

open BuildHerald.Http
open BuildHerald.Herald
open BuildHerald.Chat
open BuildHerald.Time
open BuildHerald.Server
open BuildHerald.Text
open BuildHerald.Proofs.Conversation
open BuildHerald.Proofs.JobRequests
open BuildHerald.Proofs.Listening (Sent)
open BuildHerald.Proofs.PauseRequests
open BuildHerald.Proofs.ResolvedPaths (IsPlain)
open BuildHerald.Proofs.ServerAddresses (IsBare)
open BuildHerald.Proofs.SpokenCommands (toList_display)

/-! ### The server -/

/-- Which places are paused. -/
abbrev Flags := List String → Bool

/-- The place is that of a job or of a pipeline. -/
def HasFlag (place : List String) : Prop :=
  ∃ job scope, place = placeOf job scope

/-- The request is for a flag. -/
inductive ForFlag (request : Request) : Prop
  | told {place : List String} :
      HasFlag place → request.method = .get → IsFor request place → ForFlag request
  | set {place : List String} {paused : Bool} :
      HasFlag place → request.method = .put → IsFor request (place ++ [action paused]) →
        ForFlag request

/-- What a request does to the flags of a server, and what comes of it. -/
inductive Serves (flags : Flags) : Sent → Flags → Prop
  /-- A request can fail, and changes nothing then. -/
  | failed {sent : Sent} : Failed sent → Serves flags sent flags
  | told {place : List String} {request : Request} {response : Response} :
      HasFlag place → request.method = .get → IsFor request place → Tells response (flags place) →
        Serves flags ⟨request, some response⟩ flags
  | set {place : List String} {paused : Bool} {request : Request} {response : Response} :
      HasFlag place → request.method = .put → IsFor request (place ++ [action paused]) →
        response.isSuccess = true →
          Serves flags ⟨request, some response⟩ (Function.update flags place paused)
  | other {sent : Sent} : ¬ ForFlag sent.question → Serves flags sent flags

/-- What requests in a row do to the flags. -/
inductive ServesAll : Flags → List Sent → Flags → Prop
  | nil (flags : Flags) : ServesAll flags [] flags
  | cons {flags next last : Flags} {sent : Sent} {rest : List Sent} :
      Serves flags sent next → ServesAll next rest last → ServesAll flags (sent :: rest) last

section Serves

variable {flags next : Flags} {place : List String} {request : Request} {outcome : Outcome}
  {paused : Bool}

/-- A request for a flag tells it if it does not fail, and changes nothing. -/
theorem serves_get (hflag : HasFlag place) (hget : request.method = .get) (hfor : IsFor request place)
    (hserves : Serves flags ⟨request, outcome⟩ next) :
    next = flags ∧ ∀ response told, outcome = some response → Tells response told →
      told = flags place := by
  cases hserves with
  | failed hfailed =>
      refine ⟨rfl, fun response told hresponse htells => ?_⟩
      have hunread := (hfailed response hresponse htells.success).2
      rw [htells.read] at hunread
      cases hunread
  | told _ _ hother htold =>
      obtain rfl := place_unique hother hfor
      refine ⟨rfl, fun response told hresponse htells => ?_⟩
      obtain rfl := Option.some.inj hresponse
      exact Option.some.inj (htells.read.symm.trans htold.read)
  | set _ hput =>
      rw [hget] at hput
      cases hput
  | other hother => exact absurd (.told hflag hget hfor) hother

/-- A request to set a flag does so unless it fails. -/
theorem serves_put (hflag : HasFlag place) (hput : request.method = .put)
    (hfor : IsFor request (place ++ [action paused]))
    (hserves : Serves flags ⟨request, outcome⟩ next) :
    (Failed ⟨request, outcome⟩ → next = flags) ∧
      (¬ Failed ⟨request, outcome⟩ → next = Function.update flags place paused) := by
  cases hserves with
  | failed hfailed => exact ⟨fun _ => rfl, fun hnot => absurd hfailed hnot⟩
  | told _ hget =>
      rw [hput] at hget
      cases hget
  | set _ _ hother hsuccess =>
      obtain ⟨rfl, haction⟩ := List.append_inj' (place_unique hother hfor) rfl
      obtain rfl := action_injective (List.singleton_inj.mp haction)
      refine ⟨fun hfailed => ?_, fun _ => rfl⟩
      have hget := (hfailed _ rfl hsuccess).1
      rw [hput] at hget
      cases hget
  | other hother => exact absurd (.set hflag hput hfor) hother

end Serves

/-! ### Switches -/

/-- A switch, what is sent for it and what comes of it, and the flags before and after. -/
structure Attempt where
  switch : Switch
  sent : List Sent
  result : Except ServerFault Bool
  before : Flags
  after : Flags

namespace Attempt

variable (attempt : Attempt)

/-- The flag that is meant, before. -/
def flagBefore : Bool :=
  attempt.before attempt.switch.place

/-- The flag that is meant, after. -/
def flagAfter : Bool :=
  attempt.after attempt.switch.place

/-- The first request is sent and does not fail. -/
def IsAnswered : Prop :=
  ∃ first, attempt.sent.head? = some first ∧ ¬ Failed first

/-- The second request is never sent. -/
def ChangesNothing : Prop :=
  attempt.after = attempt.before ∧ ∀ sent ∈ attempt.sent, sent.question.method ≠ .put

/-- What is meant, in words. -/
def target : String :=
  attempt.switch.scope.describe attempt.switch.job

end Attempt

/-- What is said of a switch is true of the flag that is meant. -/
inductive Reports (attempt : Attempt) : String → Prop
  | now :
      attempt.result = .ok true → attempt.flagBefore ≠ attempt.switch.paused →
        attempt.flagAfter = attempt.switch.paused →
          Reports attempt (attempt.target ++ " is now " ++
            (if attempt.switch.paused then "paused." else "unpaused."))
  | already :
      attempt.result = .ok false → attempt.flagBefore = attempt.switch.paused →
        attempt.after = attempt.before →
          Reports attempt (attempt.target ++ " is already " ++
            (if attempt.switch.paused then "paused." else "unpaused."))
  | couldNot {fault : ServerFault} :
      attempt.result = .error fault → attempt.after = attempt.before →
        Reports attempt ("Could not " ++ (if attempt.switch.paused then "pause " else "unpause ") ++
          attempt.target ++ ": " ++ fault.message)

/-- What comes of a switch is true of the flags. -/
structure Truthful (attempt : Attempt) : Prop where
  changed : attempt.result = .ok true ↔ attempt.flagAfter ≠ attempt.flagBefore
  already : attempt.IsAnswered →
    (attempt.result = .ok false ↔ attempt.flagBefore = attempt.switch.paused)
  untouched : attempt.result = .ok false → attempt.ChangesNothing
  reached : ∀ changed, attempt.result = .ok changed → attempt.flagAfter = attempt.switch.paused
  unanswered : ¬ attempt.IsAnswered →
    (∃ fault, attempt.result = .error fault) ∧ attempt.ChangesNothing
  others : ∀ place, place ≠ attempt.switch.place → attempt.after place = attempt.before place
  /-- Whoever gives a command for which the switch is made is told so, and what it is about. -/
  told : ∀ {settings : Herald.Settings} {now : Instant} {herald after : Herald} {ticket : Ticket}
    {command : Command} {trace : List Done},
    Runs (herald.handleCommand settings now ticket command) trace after →
      switched attempt.switch.scope attempt.switch.job attempt.switch.paused
        attempt.result ∈ trace →
          command.job = some attempt.switch.job ∧ scopeOf command.args = attempt.switch.scope ∧
            ∃ line, (∀ other, said ticket other ∈ trace ↔ other = line) ∧ Reports attempt line

section Effect

variable {attempt : Attempt}

/-- The ways in which a switch whose requests are for the right place can go. -/
inductive Effect (attempt : Attempt) : Prop
  | unanswered {fault : ServerFault} :
      ¬ attempt.IsAnswered → attempt.result = .error fault → attempt.ChangesNothing →
        Effect attempt
  | already :
      attempt.IsAnswered → attempt.result = .ok false →
        attempt.flagBefore = attempt.switch.paused → attempt.ChangesNothing → Effect attempt
  | refused {fault : ServerFault} :
      attempt.IsAnswered → attempt.result = .error fault →
        attempt.flagBefore ≠ attempt.switch.paused → attempt.after = attempt.before →
          Effect attempt
  | changed :
      attempt.IsAnswered → attempt.result = .ok true →
        attempt.flagBefore ≠ attempt.switch.paused →
          attempt.after =
            Function.update attempt.before attempt.switch.place attempt.switch.paused →
              Effect attempt

theorem flagAfter_of_same (hsame : attempt.after = attempt.before) :
    attempt.flagAfter = attempt.flagBefore := by
  rw [Attempt.flagAfter, hsame, Attempt.flagBefore]

theorem flagAfter_of_update
    (hupdate : attempt.after =
      Function.update attempt.before attempt.switch.place attempt.switch.paused) :
    attempt.flagAfter = attempt.switch.paused := by
  rw [Attempt.flagAfter, hupdate, Function.update_self]

theorem reports_of_effect (heffect : Effect attempt) :
    Reports attempt (pauseReport attempt.target attempt.switch.paused attempt.result) := by
  cases heffect with
  | unanswered _ hresult hnothing =>
      rw [hresult]
      exact .couldNot hresult hnothing.1
  | already _ hresult hflag hnothing =>
      rw [hresult]
      exact .already hresult hflag hnothing.1
  | refused _ hresult _ hsame =>
      rw [hresult]
      exact .couldNot hresult hsame
  | changed _ hresult hflag hupdate =>
      rw [hresult]
      exact .now hresult hflag (flagAfter_of_update hupdate)

/-- A command that leads to a switch tells what came of it, and nothing else. -/
theorem told_of_runs {settings : Herald.Settings} {now : Instant} {herald after : Herald}
    {ticket : Ticket} {command : Command} {trace : List Done} {scope : Scope} {job : Job}
    {paused : Bool} {result : Except ServerFault Bool}
    (hruns : Runs (herald.handleCommand settings now ticket command) trace after)
    (hmade : switched scope job paused result ∈ trace) :
    command.job = some job ∧ scopeOf command.args = scope ∧
      ∀ line, said ticket line ∈ trace ↔ line = pauseReport (scope.describe job) paused result := by
  cases commandHandled_of_runs hruns with
  | unknown => simp [switched, said, closed] at hmade
  | untargeted => simp [switched, said, closed] at hmade
  | rerun => simp [switched, said, begun, closed] at hmade
  | rerunFailed => simp [switched, said, begun, closed] at hmade
  | muteRefused => simp [switched, said, closed] at hmade
  | muted => simp [switched, said, closed] at hmade
  | paused _ _ hjob =>
      simp only [switched, said, closed, List.mem_cons, List.not_mem_nil, or_false,
        Turn.mk.injEq, Errand.setPaused.injEq, reduceCtorEq, false_and] at hmade
      obtain ⟨⟨rfl, rfl, rfl⟩, hanswer⟩ := hmade
      obtain rfl := eq_of_heq hanswer
      refine ⟨hjob, rfl, fun line => ?_⟩
      simp [switched, said, closed]

theorem truthful_of_effect (heffect : Effect attempt) : Truthful attempt where
  changed := by
    cases heffect with
    | unanswered _ hresult hnothing => simp [hresult, flagAfter_of_same hnothing.1]
    | already _ hresult _ hnothing => simp [hresult, flagAfter_of_same hnothing.1]
    | refused _ hresult _ hsame => simp [hresult, flagAfter_of_same hsame]
    | changed _ hresult hflag hupdate =>
        rw [hresult, flagAfter_of_update hupdate]
        exact iff_of_true rfl hflag.symm
  already hanswered := by
    cases heffect with
    | unanswered hnot => exact absurd hanswered hnot
    | already _ hresult hflag => exact iff_of_true hresult hflag
    | refused _ hresult hflag => simp [hresult, hflag]
    | changed _ hresult hflag => simp [hresult, hflag]
  untouched hfalse := by
    cases heffect with
    | unanswered _ _ hnothing => exact hnothing
    | already _ _ _ hnothing => exact hnothing
    | refused _ hresult => simp [hresult] at hfalse
    | changed _ hresult => simp [hresult] at hfalse
  reached changed hok := by
    cases heffect with
    | unanswered _ hresult => simp [hresult] at hok
    | already _ _ hflag hnothing => rw [flagAfter_of_same hnothing.1, hflag]
    | refused _ hresult => simp [hresult] at hok
    | changed _ _ _ hupdate => exact flagAfter_of_update hupdate
  unanswered hnot := by
    cases heffect with
    | unanswered _ hresult hnothing => exact ⟨⟨_, hresult⟩, hnothing⟩
    | already hanswered => exact absurd hanswered hnot
    | refused hanswered => exact absurd hanswered hnot
    | changed hanswered => exact absurd hanswered hnot
  others place hplace := by
    cases heffect with
    | unanswered _ _ hnothing => rw [hnothing.1]
    | already _ _ _ hnothing => rw [hnothing.1]
    | refused _ _ _ hsame => rw [hsame]
    | changed _ _ _ hupdate => rw [hupdate, Function.update_of_ne hplace]
  told hruns hmade := by
    obtain ⟨hjob, hscope, hlines⟩ := told_of_runs hruns hmade
    exact ⟨hjob, hscope, _, hlines, reports_of_effect heffect⟩

end Effect

section Step

variable {client : Client} {attempt : Attempt}

/-- The names of what is meant have no slash, and no tab, line feed or carriage return. -/
def HasCleanNames (switch : Switch) : Prop :=
  ∀ name ∈ switch.place, IsClean name

theorem hasFlag_place (switch : Switch) : HasFlag switch.place :=
  ⟨switch.job, switch.scope, rfl⟩

theorem isFor_of_asks {switch : Switch} {request : Request} (hbare : IsBare client.base.toList)
    (hclean : HasCleanNames switch) (hasks : switch.Asks client request) :
    IsFor request switch.place ↔ IsAddressed switch.place :=
  isFor_iff_isAddressed hbare (placeOf_ne_nil _ _) hclean hasks

theorem isFor_of_changes {switch : Switch} {request : Request} (hbare : IsBare client.base.toList)
    (hclean : HasCleanNames switch) (hchanges : switch.Changes client request) :
    IsFor request (switch.place ++ [action switch.paused]) ↔
      ∀ name ∈ switch.place, IsPlain name.toList :=
  isFor_action_iff hbare hclean hchanges

theorem isAnswered_of_tells {attempt : Attempt} {get : Request} {response : Response} {told : Bool}
    {rest : List Sent} (hsent : attempt.sent = ⟨get, some response⟩ :: rest)
    (htells : Tells response told) : attempt.IsAnswered := by
  refine ⟨_, by rw [hsent]; rfl, fun hfailed => ?_⟩
  have hunread := (hfailed response rfl htells.success).2
  rw [htells.read] at hunread
  cases hunread

/-- What one switch does to the flags. -/
theorem effect_of_sent (hbare : IsBare client.base.toList) (hclean : HasCleanNames attempt.switch)
    (haddressed : IsAddressed attempt.switch.place)
    (hsent : SwitchSent client attempt.switch attempt.sent attempt.result)
    (hserves : ServesAll attempt.before attempt.sent attempt.after) : Effect attempt := by
  obtain ⟨switch, sent, result, before, after⟩ := attempt
  dsimp only at hclean haddressed hsent hserves
  have hflag := hasFlag_place switch
  have hget {get : Request} {outcome : Outcome} {next : Flags} (hasks : switch.Asks client get)
      (hserved : Serves before ⟨get, outcome⟩ next) :=
    serves_get hflag hasks.method_eq ((isFor_of_asks hbare hclean hasks).mpr haddressed) hserved
  have hother {response : Response} {outcome : Outcome}
      (htold : ∀ found told, outcome = some found → Tells found told → told = before switch.place)
      (hresponse : outcome = some response) (htells : Tells response (!switch.paused)) :
      before switch.place ≠ switch.paused := by
    rw [← htold response _ hresponse htells]
    exact (Bool.not_eq_self _).mp
  have hnoput {get : Request} {outcome : Outcome} (hasks : switch.Asks client get) :
      ∀ sent ∈ ([⟨get, outcome⟩] : List Sent), sent.question.method ≠ .put := by
    rw [List.forall_mem_singleton, hasks.method_eq]
    decide
  cases hsent with
  | unsent =>
      cases hserves
      refine .unanswered ?_ rfl ⟨rfl, fun sent hmem => absurd hmem List.not_mem_nil⟩
      rintro ⟨first, hnone, -⟩
      cases hnone
  | unknown hasks hfailed =>
      obtain _ | ⟨hfirst, ⟨⟩⟩ := hserves
      obtain rfl := (hget hasks hfirst).1
      refine .unanswered ?_ rfl ⟨rfl, hnoput hasks⟩
      rintro ⟨first, hhead, hnot⟩
      exact hnot (Option.some.inj hhead ▸ hfailed)
  | already hasks htells =>
      obtain _ | ⟨hfirst, ⟨⟩⟩ := hserves
      obtain ⟨rfl, htold⟩ := hget hasks hfirst
      exact .already (isAnswered_of_tells rfl htells) rfl (htold _ _ rfl htells).symm
        ⟨rfl, hnoput hasks⟩
  | unsendable hasks htells =>
      obtain _ | ⟨hfirst, ⟨⟩⟩ := hserves
      obtain ⟨rfl, htold⟩ := hget hasks hfirst
      exact .refused (isAnswered_of_tells rfl htells) rfl (hother htold rfl htells) rfl
  | refused hasks htells hchanges hfailed =>
      obtain _ | ⟨hfirst, _ | ⟨hsecond, ⟨⟩⟩⟩ := hserves
      obtain ⟨rfl, htold⟩ := hget hasks hfirst
      have hput := serves_put hflag hchanges.method_eq
        ((isFor_of_changes hbare hclean hchanges).mpr haddressed.plain) hsecond
      exact .refused (isAnswered_of_tells rfl htells) rfl (hother htold rfl htells) (hput.1 hfailed)
  | changed hasks htells hchanges hdone =>
      obtain _ | ⟨hfirst, _ | ⟨hsecond, ⟨⟩⟩⟩ := hserves
      obtain ⟨rfl, htold⟩ := hget hasks hfirst
      have hput := serves_put hflag hchanges.method_eq
        ((isFor_of_changes hbare hclean hchanges).mpr haddressed.plain) hsecond
      refine .changed (isAnswered_of_tells rfl htells) rfl (hother htold rfl htells)
        (hput.2 fun hfailed => ?_)
      have hmethod := (hfailed _ rfl hdone).1
      rw [hchanges.method_eq] at hmethod
      cases hmethod

theorem truthful_of_runs (hbare : IsBare client.base.toList) (hclean : HasCleanNames attempt.switch)
    (haddressed : IsAddressed attempt.switch.place)
    (hruns : Runs (attempt.switch.course client) attempt.sent attempt.result)
    (hserves : ServesAll attempt.before attempt.sent attempt.after) : Truthful attempt :=
  truthful_of_effect (effect_of_sent hbare hclean haddressed (switchSent_of_runs hruns) hserves)

end Step

/-! ### Switches in a row -/

/-- Switches that are made one after the other, and the flags before and after them. -/
inductive Makes (client : Client) : Flags → List Attempt → Flags → Prop
  | nil (flags : Flags) : Makes client flags [] flags
  | cons {attempt : Attempt} {rest : List Attempt} {last : Flags} :
      Runs (attempt.switch.course client) attempt.sent attempt.result →
        ServesAll attempt.before attempt.sent attempt.after → Makes client attempt.after rest last →
          Makes client attempt.before (attempt :: rest) last

/-- What a flag is set to by switches, one after the other: what the last one asks for that is for the
place and succeeds. -/
def settled (place : List String) (flag : Bool) (attempts : List Attempt) : Bool :=
  attempts.foldl
    (fun flag attempt =>
      if attempt.switch.place = place ∧ attempt.result.isOk then attempt.switch.paused else flag)
    flag

theorem after_eq_of_truthful {attempt : Attempt} (htruthful : Truthful attempt)
    (place : List String) :
    attempt.after place = settled place (attempt.before place) [attempt] := by
  rw [settled, List.foldl_cons, List.foldl_nil]
  by_cases hplace : attempt.switch.place = place
  · subst hplace
    cases hresult : attempt.result with
    | error fault =>
        have hsame : ¬ attempt.flagAfter ≠ attempt.flagBefore := fun hchanged => by
          rw [htruthful.changed.mpr hchanged] at hresult
          cases hresult
        rw [if_neg fun h => Bool.false_ne_true h.2]
        exact not_ne_iff.mp hsame
    | ok changed =>
        rw [if_pos ⟨rfl, rfl⟩]
        exact htruthful.reached changed hresult
  · rw [if_neg fun h => hplace h.1]
    exact htruthful.others place (Ne.symm hplace)

theorem makes_truthful {client : Client} {flags last : Flags} {attempts : List Attempt}
    (hbare : IsBare client.base.toList)
    (hnames : ∀ attempt ∈ attempts, HasCleanNames attempt.switch ∧ IsAddressed attempt.switch.place)
    (hmakes : Makes client flags attempts last) :
    (∀ attempt ∈ attempts, Truthful attempt) ∧
      ∀ place, last place = settled place (flags place) attempts := by
  induction hmakes with
  | nil flags => exact ⟨by simp, fun _ => rfl⟩
  | @cons attempt rest last hruns hserves _ ih =>
      obtain ⟨⟨hclean, haddressed⟩, hrest⟩ := List.forall_mem_cons.mp hnames
      have htruthful := truthful_of_runs hbare hclean haddressed hruns hserves
      obtain ⟨hothers, hlast⟩ := ih hrest
      refine ⟨List.forall_mem_cons.mpr ⟨htruthful, hothers⟩, fun place => ?_⟩
      rw [hlast, after_eq_of_truthful htruthful]
      rfl

/-! ### Requests for other places -/

section Elsewhere

variable {client : Client} {switch : Switch} {get put : Request}

/-- A response that tells a flag. -/
def telling (paused : Bool) : Response where
  status := 200
  headers := []
  body := [Utf8.ofString (if paused then "\x7b\"paused\": true\x7d" else "\x7b\x7d")]
  complete := true

theorem tells_telling (paused : Bool) : Tells (telling paused) paused := by
  cases paused <;> exact ⟨by decide, by decide +kernel⟩

/-- A server tells the flag of whatever place the request is for. -/
theorem serves_telling {flags : Flags} {told : Bool} (hget : get.method = .get)
    (hflags : ∀ place, IsFor get place → flags place = told) :
    Serves flags ⟨get, some (telling told)⟩ flags := by
  by_cases hfor : ∃ place, HasFlag place ∧ IsFor get place
  · obtain ⟨place, hflag, hplace⟩ := hfor
    exact .told hflag hget hplace (hflags place hplace ▸ tells_telling told)
  · refine .other ?_
    rintro (⟨hflag, -, hplace⟩ | ⟨-, hput, -⟩)
    · exact hfor ⟨_, hflag, hplace⟩
    · have hboth := hget.symm.trans hput
      cases hboth

/-- A server does what whatever request asks for. -/
theorem exists_serves_put {done : Response} (flags : Flags) (hput : put.method = .put)
    (hdone : done.isSuccess = true) : ∃ next, Serves flags ⟨put, some done⟩ next ∧
      (next = flags ∨ ∃ place paused, IsFor put (place ++ [action paused]) ∧
        next = Function.update flags place paused) := by
  by_cases hfor : ForFlag put
  · obtain ⟨-, hget, -⟩ | ⟨hflag, -, hplace⟩ := hfor
    · have hboth := hput.symm.trans hget
      cases hboth
    · exact ⟨_, .set hflag hput hplace hdone, .inr ⟨_, _, hplace, rfl⟩⟩
  · exact ⟨flags, .other hfor, .inl rfl⟩

theorem servesAll_pair {flags middle last : Flags} {first second : Sent}
    (hfirst : Serves flags first middle) (hsecond : Serves middle second last) :
    ServesAll flags [first, second] last :=
  .cons hfirst (.cons hsecond (.nil _))

/-- If a request for a switch is for another place, a server can have what comes of it be untrue. -/
theorem exists_untruthful (hbare : IsBare client.base.toList) (hclean : HasCleanNames switch)
    (hasks : switch.Asks client get) (hchanges : switch.Changes client put)
    (hnot : ¬ IsAddressed switch.place) :
    ∃ attempt : Attempt, attempt.switch = switch ∧
      Runs (switch.course client) attempt.sent attempt.result ∧
        ServesAll attempt.before attempt.sent attempt.after ∧ ¬ Truthful attempt := by
  have hdone := (tells_telling switch.paused).success
  have hruns := runs_changed hasks (tells_telling (!switch.paused)) hchanges hdone
  have hfor := isFor_of_changes hbare hclean hchanges
  by_cases hplain : ∀ name ∈ switch.place, IsPlain name.toList
  · -- The flag is asked of another place, and set where it is already as it should be.
    let flags : Flags := Function.update (fun _ => !switch.paused) switch.place switch.paused
    have hget : Serves flags ⟨get, some (telling !switch.paused)⟩ flags := by
      refine serves_telling hasks.method_eq fun place hplace => Function.update_of_ne ?_ _ _
      rintro rfl
      exact hnot ((isFor_of_asks hbare hclean hasks).mp hplace)
    have hput : Serves flags ⟨put, some (telling switch.paused)⟩
        (Function.update flags switch.place switch.paused) :=
      .set (hasFlag_place switch) hchanges.method_eq (hfor.mpr hplain) hdone
    have hsame : Function.update flags switch.place switch.paused switch.place = flags switch.place := by
      simp only [flags, Function.update_self]
    exact ⟨⟨switch, _, _, flags, Function.update flags switch.place switch.paused⟩, rfl, hruns,
      servesAll_pair hget hput, fun htruthful => htruthful.changed.mp rfl hsame⟩
  · -- The flag is not set where it should be.
    let flags : Flags := fun _ => !switch.paused
    have hget : Serves flags ⟨get, some (telling !switch.paused)⟩ flags :=
      serves_telling hasks.method_eq fun _ _ => rfl
    obtain ⟨next, hput, hnext⟩ := exists_serves_put flags hchanges.method_eq hdone
    have hunset : next switch.place = !switch.paused := by
      obtain rfl | ⟨place, paused, hplace, rfl⟩ := hnext
      · rfl
      · by_cases hsame : switch.place = place
        · subst hsame
          rw [Function.update_self]
          refine Bool.eq_not_of_ne ?_
          rintro rfl
          exact hplain (hfor.mp hplace)
        · exact Function.update_of_ne hsame _ _
    refine ⟨⟨switch, _, _, flags, next⟩, rfl, hruns, servesAll_pair hget hput, fun htruthful => ?_⟩
    exact (Bool.not_eq_self _).mp (hunset.symm.trans (htruthful.reached true rfl))

end Elsewhere

/-! ### What is said -/

/-- The names by which something is described. -/
def namesOf (job : Job) : Scope → List String
  | .job => [job.team, job.pipeline, job.name]
  | .pipeline => [job.team, job.pipeline]

/-- What is described, as a word. -/
def kindOf : Scope → String
  | .job => "Job "
  | .pipeline => "Pipeline "

theorem toList_describe (job : Job) (scope : Scope) :
    (scope.describe job).toList =
      (kindOf scope).toList ++ ['/'].intercalate ((namesOf job scope).map String.toList) := by
  cases scope with
  | job =>
      simp [Scope.describe, kindOf, namesOf, toList_display, String.toList_append,
        List.intercalate_cons_cons, List.intercalate_singleton]
  | pipeline =>
      simp [Scope.describe, kindOf, namesOf, String.toList_append, List.intercalate_cons_cons,
        List.intercalate_singleton]

theorem isClean_namesOf {switch : Switch} (hclean : HasCleanNames switch) :
    ∀ name ∈ namesOf switch.job switch.scope, IsClean name := by
  obtain ⟨scope, job, paused⟩ := switch
  cases scope with
  | job =>
      obtain ⟨hteam, hpipeline, hname⟩ := (forall_mem_jobPlace isClean_own job).mp hclean
      simp [namesOf, hteam, hpipeline, hname]
  | pipeline =>
      obtain ⟨hteam, hpipeline⟩ := (forall_mem_pipelinePlace isClean_own _ _).mp hclean
      simp [namesOf, hteam, hpipeline]

/-- Two places are not described in the same words. -/
theorem place_of_describe {switch other : Switch} (hclean : HasCleanNames switch)
    (hother : HasCleanNames other)
    (hwords : switch.scope.describe switch.job = other.scope.describe other.job) :
    switch.place = other.place := by
  have hslash {switch : Switch} (hclean : HasCleanNames switch) :
      ∀ part ∈ (namesOf switch.job switch.scope).map String.toList, '/' ∉ part :=
    List.forall_mem_map.mpr fun name hname => (isClean_namesOf hclean name hname).slash
  have hne (switch : Switch) : (namesOf switch.job switch.scope).map String.toList ≠ [] := by
    cases hscope : switch.scope <;> simp [namesOf]
  have hlists := congrArg String.toList hwords
  rw [toList_describe, toList_describe] at hlists
  obtain ⟨scope, job, paused⟩ := switch
  obtain ⟨otherScope, otherJob, otherPaused⟩ := other
  obtain rfl : scope = otherScope := by
    have hhead := congrArg List.head? hlists
    revert hhead
    cases scope <;> cases otherScope <;> simp [kindOf]
  have hparts := congrArg (pieces (· == '/')) (List.append_cancel_left hlists)
  rw [pieces_intercalate (hne ⟨scope, job, paused⟩) (hslash hclean),
    pieces_intercalate (hne ⟨scope, otherJob, otherPaused⟩) (hslash hother)] at hparts
  have hnames := List.map_injective_iff.mpr (fun _ _ heq => String.toList_injective heq) hparts
  cases scope with
  | job => simpa [Switch.place, placeOf, namesOf, jobPlace, pipelinePlace] using hnames
  | pipeline => simpa [Switch.place, placeOf, namesOf, pipelinePlace] using hnames

/-! ### Truth -/

/-- What comes of switches in a row is true of the flags of the server if the names of each place are
taken as they are. If they are not, a server can have it be untrue. Names with a tab, a line feed or a
carriage return, which an address leaves out, and names with a slash lie outside of this: it speaks of
`HasCleanNames` only. -/
theorem truthful_iff_addressed {client : Client} (hbare : IsBare client.base.toList) :
    (∀ flags attempts last, Makes client flags attempts last →
      (∀ attempt ∈ attempts, HasCleanNames attempt.switch ∧ IsAddressed attempt.switch.place) →
        (∀ attempt ∈ attempts, Truthful attempt) ∧
          ∀ place, last place = settled place (flags place) attempts) ∧
    (∀ switch other, HasCleanNames switch → HasCleanNames other →
      switch.scope.describe switch.job = other.scope.describe other.job →
        switch.place = other.place) ∧
    ∀ (switch : Switch) (get put : Request), HasCleanNames switch →
      switch.Asks client get → switch.Changes client put →
        ((∀ attempt : Attempt, attempt.switch = switch →
            Runs (switch.course client) attempt.sent attempt.result →
              ServesAll attempt.before attempt.sent attempt.after → Truthful attempt) ↔
          IsAddressed switch.place) := by
  refine ⟨fun flags attempts last hmakes hnames => makes_truthful hbare hnames hmakes,
    fun _ _ hclean hother => place_of_describe hclean hother, ?_⟩
  intro switch get put hclean hasks hchanges
  constructor
  · intro htruthful
    by_contra hnot
    obtain ⟨attempt, hswitch, hruns, hserves, huntrue⟩ :=
      exists_untruthful hbare hclean hasks hchanges hnot
    exact huntrue (htruthful attempt hswitch hruns hserves)
  · rintro haddressed attempt rfl hruns hserves
    exact truthful_of_runs hbare hclean haddressed hruns hserves

/-! ### A job that is paused twice, and one that is named as the way to another -/

/-- Nothing is paused. -/
def allRunning : Flags :=
  fun _ => false

/-- A job is to be paused. -/
def unitSwitch : Switch :=
  ⟨.job, ⟨"main", "pip", "unit"⟩, true⟩

/-- Only that job is paused. -/
def unitPaused : Flags :=
  Function.update allRunning unitSwitch.place true

theorem unitPaused_unit : unitPaused unitSwitch.place = true :=
  Function.update_self ..

/-- The job is paused. -/
def firstPause (get put : Request) : Attempt :=
  ⟨unitSwitch, [⟨get, some (telling false)⟩, ⟨put, some (telling true)⟩], .ok true, allRunning,
    unitPaused⟩

/-- The job is paused again. -/
def secondPause (get : Request) : Attempt :=
  ⟨unitSwitch, [⟨get, some (telling true)⟩], .ok false, unitPaused, unitPaused⟩

theorem unitSwitch_addressed :
    HasCleanNames unitSwitch ∧ IsAddressed unitSwitch.place := by
  refine ⟨(forall_mem_jobPlace isClean_own _).mpr ⟨?_, ?_, ?_⟩,
    (forall_mem_jobPlace isPlain_own _).mpr ⟨?_, ?_, ?_⟩, ?_⟩
  · exact isClean_of_all (by decide) (by decide)
  · exact isClean_of_all (by decide) (by decide)
  · exact isClean_of_all (by decide) (by decide)
  · exact isPlain_of_all (by decide) (by decide)
  · exact isPlain_of_all (by decide) (by decide)
  · exact isPlain_of_all (by decide) (by decide)
  · intro name hname c hc
    obtain rfl : "unit" = name := Option.some.inj hname
    obtain rfl : 't' = c := Option.some.inj hc
    decide

/-- The path of that job. -/
def unitSegments : List (List Char) :=
  unitSwitch.place.map String.toList

theorem pause_twice_truthful : ∃ get put,
    Makes localClient allRunning [firstPause get put, secondPause get] unitPaused ∧
      Truthful (firstPause get put) ∧ Truthful (secondPause get) ∧
        unitPaused unitSwitch.place = true := by
  have hget : (localClient.draft .get acceptsAnything
      (endpointTo unitSwitch.place)).request.toOption.map (·.url.path) =
        some (.segments unitSegments) := by
    decide +kernel
  have hput : (localClient.draft .put acceptsAnything
      (endpointTo (unitSwitch.place ++ [action true]))).request.toOption.map (·.url.path) =
        some (.segments (unitSegments ++ ["pause".toList])) := by
    decide +kernel
  obtain ⟨get, hasks, -⟩ := exists_request hget
  obtain ⟨put, hchanges, -⟩ := exists_request hput
  obtain ⟨hclean, haddressed⟩ := unitSwitch_addressed
  have hasks : unitSwitch.Asks localClient get := hasks
  have hchanges : unitSwitch.Changes localClient put := hchanges
  have htold (flags : Flags) (told : Bool) (hflag : flags unitSwitch.place = told) :
      Serves flags ⟨get, some (telling told)⟩ flags := by
    refine .told (hasFlag_place unitSwitch) hasks.method_eq ?_ (hflag ▸ tells_telling told)
    exact (isFor_of_asks isBare_localClient hclean hasks).mpr haddressed
  have hset : Serves allRunning ⟨put, some (telling true)⟩ unitPaused :=
    .set (hasFlag_place unitSwitch) hchanges.method_eq
      ((isFor_of_changes isBare_localClient hclean hchanges).mpr haddressed.plain)
      (tells_telling true).success
  have hsecond : Makes localClient unitPaused [secondPause get] unitPaused :=
    @Makes.cons _ (secondPause get) _ _ (runs_already hasks (tells_telling true))
      (.cons (htold unitPaused true unitPaused_unit) (.nil _)) (.nil _)
  have hmakes : Makes localClient allRunning [firstPause get put, secondPause get] unitPaused :=
    @Makes.cons _ (firstPause get put) _ _
      (runs_changed hasks (tells_telling false) hchanges (tells_telling true).success)
      (servesAll_pair (htold allRunning false rfl) hset) hsecond
  have hnames : ∀ attempt ∈ [firstPause get put, secondPause get],
      HasCleanNames attempt.switch ∧ IsAddressed attempt.switch.place := by
    simp only [List.forall_mem_cons, List.not_mem_nil, false_imp_iff, implies_true, and_true]
    exact ⟨unitSwitch_addressed, unitSwitch_addressed⟩
  have htruthful := ((truthful_iff_addressed isBare_localClient).1 _ _ _ hmakes hnames).1
  exact ⟨get, put, hmakes, htruthful _ List.mem_cons_self,
    htruthful _ (List.mem_cons_of_mem _ List.mem_cons_self), unitPaused_unit⟩

/-- A job is to be paused whose name leads to another job. -/
def crookedSwitch : Switch :=
  ⟨.job, ⟨"main", "pip", "x\\..\\unit"⟩, true⟩

/-- The other job is paused, and this is told as a success. -/
theorem pause_other_job : '/' ∉ crookedSwitch.job.name.toList ∧ ∃ attempt : Attempt,
    attempt.switch = crookedSwitch ∧
      Runs (crookedSwitch.course localClient) attempt.sent attempt.result ∧
      ServesAll attempt.before attempt.sent attempt.after ∧ attempt.result = .ok true ∧
      attempt.flagAfter = attempt.flagBefore ∧
      attempt.before unitSwitch.place = false ∧ attempt.after unitSwitch.place = true := by
  have hget : (localClient.draft .get acceptsAnything
      (endpointTo crookedSwitch.place)).request.toOption.map (·.url.path) =
        some (.segments unitSegments) := by
    decide +kernel
  have hput : (localClient.draft .put acceptsAnything
      (endpointTo (crookedSwitch.place ++ [action true]))).request.toOption.map (·.url.path) =
        some (.segments (unitSegments ++ ["pause".toList])) := by
    decide +kernel
  obtain ⟨get, hasks, hgetPath⟩ := exists_request hget
  obtain ⟨put, hchanges, hputPath⟩ := exists_request hput
  have hasks : crookedSwitch.Asks localClient get := hasks
  have hchanges : crookedSwitch.Changes localClient put := hchanges
  have htold : Serves allRunning ⟨get, some (telling false)⟩ allRunning :=
    .told (hasFlag_place unitSwitch) hasks.method_eq ⟨_, hgetPath, by decide⟩ (tells_telling false)
  have hset : Serves allRunning ⟨put, some (telling true)⟩ unitPaused :=
    .set (hasFlag_place unitSwitch) hchanges.method_eq ⟨_, hputPath, by decide⟩
      (tells_telling true).success
  have hother : crookedSwitch.place ≠ unitSwitch.place := by decide
  exact ⟨by decide, ⟨crookedSwitch, _, _, allRunning, unitPaused⟩, rfl,
    runs_changed hasks (tells_telling false) hchanges (tells_telling true).success,
    servesAll_pair htold hset, rfl, Function.update_of_ne hother true allRunning, rfl, unitPaused_unit⟩

end BuildHerald.Proofs.PausedFlags
