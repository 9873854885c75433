import BuildHerald.Chat.Command
import BuildHerald.Proofs.JobTargets
import BuildHerald.Proofs.SpacedWords
import Mathlib.Data.List.TakeWhile

/-!
How a line of chat is understood.

Only the words of the line count, and not how they are spaced out. The first one calls the command, the
first of the others that names a job is its target, and all the rest are its arguments. So a command that
is written down as words is understood as it was meant.
-/

namespace BuildHerald.Proofs.SpokenCommands

open BuildHerald.Text
open BuildHerald.Chat
open BuildHerald.Proofs.SpacedWords

/-! ### What words mean -/

/-- The name by which the first word of a line calls a command: no slashes before it, and nothing from an
at sign on. -/
def calledName (word : List Char) : List Char :=
  (word.dropWhile (· == '/')).takeWhile (· != '@')

/-- The line begins with the two words of `try again`. -/
def SaysAgain (first : List Char) (rest : List (List Char)) : Prop :=
  lower (calledName first) = "try".toList ∧
    ∃ word others, rest = word :: others ∧ asciiLower word = "again".toList

/-- The target and the arguments in these words. -/
inductive Targets (team : String) : List String → Option Job → List String → Prop
  | none {words : List String} :
      (∀ word ∈ words, Job.ofTarget? team word = none) → Targets team words none words
  | some {before after : List String} {word : String} {job : Job} :
      (∀ other ∈ before, Job.ofTarget? team other = none) → Job.ofTarget? team word = some job →
        Targets team (before ++ word :: after) (some job) (before ++ after)

/-- The command that these words give. -/
inductive Spoken (team : String) : List (List Char) → Option Command → Prop
  | silent : Spoken team [] none
  | nameless {first : List Char} {rest : List (List Char)} :
      calledName first = [] → Spoken team (first :: rest) none
  | again {first word : List Char} {rest : List (List Char)} {job : Option Job}
      {args : List String} :
      lower (calledName first) = "try".toList → asciiLower word = "again".toList →
        Targets team (rest.map String.ofList) job args →
          Spoken team (first :: word :: rest) (some ⟨"try again", args, job⟩)
  | named {first : List Char} {rest : List (List Char)} {job : Option Job} {args : List String} :
      calledName first ≠ [] → ¬ SaysAgain first rest →
        Targets team (rest.map String.ofList) job args →
          Spoken team (first :: rest)
            (some ⟨String.ofList (lower (calledName first)), args, job⟩)

/-! ### The parts of a line -/

theorem nameIn_eq (word : List Char) : Command.nameIn word = calledName word := by
  rw [calledName, takeWhile_eq_splitOnce, Command.nameIn]
  generalize word.dropWhile (· == '/') = bare
  cases splitOnce '@' bare <;> rfl

theorem joinName_again {word : List Char} (hword : asciiLower word = "again".toList)
    (rest : List (List Char)) :
    Command.joinName "try".toList (word :: rest) = ("try again", rest) :=
  if_pos ⟨rfl, hword⟩

theorem joinName_of_not_saysAgain {first : List Char} {rest : List (List Char)}
    (hplain : ¬ SaysAgain first rest) :
    Command.joinName (lower (calledName first)) rest =
      (String.ofList (lower (calledName first)), rest) := by
  cases rest with
  | nil => rfl
  | cons word rest =>
      refine if_neg ?_
      rintro ⟨htry, hword⟩
      exact hplain ⟨htry, word, rest, rfl, hword⟩

variable {team : String}

theorem takeJob_of_targets {words args : List String} {job : Option Job}
    (htargets : Targets team words job args) : Command.takeJob team words = (job, args) := by
  cases htargets with
  | none hwords =>
      induction words with
      | nil => rfl
      | cons word words ih =>
          rw [List.forall_mem_cons] at hwords
          rw [Command.takeJob, hwords.1, ih hwords.2]
  | @some before after word job hbefore hword =>
      induction before with
      | nil => rw [List.nil_append, Command.takeJob, hword]; rfl
      | cons other before ih =>
          rw [List.forall_mem_cons] at hbefore
          rw [List.cons_append, Command.takeJob, hbefore.1, ih hbefore.2]
          rfl

theorem exists_targets (team : String) (words : List String) :
    ∃ job args, Targets team words job args := by
  induction words with
  | nil => exact ⟨none, [], .none (List.forall_mem_nil _)⟩
  | cons word words ih =>
      cases hword : Job.ofTarget? team word with
      | some job => exact ⟨some job, words, .some (List.forall_mem_nil _) hword⟩
      | none =>
          obtain ⟨_, _, htargets⟩ := ih
          cases htargets with
          | none hwords =>
              exact ⟨none, _, .none (List.forall_mem_cons.mpr ⟨hword, hwords⟩)⟩
          | @some before after target job hbefore htarget =>
              have hlonger : Targets team ((word :: before) ++ target :: after) (some job) _ :=
                .some (List.forall_mem_cons.mpr ⟨hword, hbefore⟩) htarget
              exact ⟨some job, _, hlonger⟩

theorem exists_spoken (team : String) (words : List (List Char)) :
    ∃ result, Spoken team words result := by
  cases words with
  | nil => exact ⟨none, .silent⟩
  | cons first rest =>
      by_cases hname : calledName first = []
      · exact ⟨none, .nameless hname⟩
      · by_cases hagain : SaysAgain first rest
        · obtain ⟨htry, word, others, rfl, hword⟩ := hagain
          obtain ⟨job, args, htargets⟩ := exists_targets team (others.map String.ofList)
          exact ⟨_, .again htry hword htargets⟩
        · obtain ⟨job, args, htargets⟩ := exists_targets team (rest.map String.ofList)
          exact ⟨_, .named hname hagain htargets⟩

theorem ofLine?_of_spoken {line : String} {words : List (List Char)} {result : Option Command}
    (hspaced : Spaced line.toList words) (hspoken : Spoken team words result) :
    Command.ofLine? team line = result := by
  unfold Command.ofLine?
  rw [words_of_spaced hspaced]
  cases hspoken with
  | silent => rfl
  | nameless hname => simp only [nameIn_eq, hname, List.isEmpty_nil, if_true]
  | @again first word rest job args htry hword htargets =>
      have hname : calledName first ≠ [] := by
        intro hnone
        rw [hnone] at htry
        cases htry
      simp only [nameIn_eq, List.isEmpty_iff, if_neg hname, htry, joinName_again hword,
        takeJob_of_targets htargets]
  | named hname hagain htargets =>
      simp only [nameIn_eq, List.isEmpty_iff, if_neg hname, joinName_of_not_saysAgain hagain,
        takeJob_of_targets htargets]

theorem ofLine?_eq_iff {line : String} {words : List (List Char)} {result : Option Command}
    (hspaced : Spaced line.toList words) :
    Command.ofLine? team line = result ↔ Spoken team words result := by
  constructor
  · rintro rfl
    obtain ⟨result, hspoken⟩ := exists_spoken team words
    rw [ofLine?_of_spoken hspaced hspoken]
    exact hspoken
  · exact ofLine?_of_spoken hspaced

theorem spoken_none_iff {words : List (List Char)} :
    Spoken team words none ↔
      words = [] ∨ ∃ first rest, words = first :: rest ∧ calledName first = [] := by
  constructor
  · intro hspoken
    cases hspoken with
    | silent => exact .inl rfl
    | nameless hname => exact .inr ⟨_, _, rfl, hname⟩
  · rintro (rfl | ⟨first, rest, rfl, hname⟩)
    · exact .silent
    · exact .nameless hname

/-! ### Writing a command down -/

/-- A name by which a command can be called: one word in lower case, in which no slash and no at sign get
lost, and that is not the first half of `try again`. -/
structure IsName (name : List Char) : Prop where
  solid : IsSolid name
  slashless : '/' ∉ name
  signless : '@' ∉ name
  lowered : lower name = name
  ne_try : name ≠ "try".toList

/-- The word calls a command by its name, maybe after slashes, and maybe for one of several bots. -/
inductive Calls (name : List Char) : List Char → Prop
  | bare (slashes : Nat) : Calls name (List.replicate slashes '/' ++ name)
  | addressed (slashes : Nat) {bot : List Char} : (∀ c ∈ bot, isBlank c = false) →
      Calls name (List.replicate slashes '/' ++ (name ++ '@' :: bot))

/-- The part of a job can be written in a target. -/
structure IsPart (part : String) : Prop where
  solid : IsSolid part.toList
  slashless : '/' ∉ part.toList

/-- The job can be written as a target. -/
structure IsWritable (job : Job) : Prop where
  team : IsPart job.team
  pipeline : IsPart job.pipeline
  name : IsPart job.name

theorem dropWhile_slashes {text : List Char} (htext : ∀ c, text.head? = some c → c ≠ '/')
    (slashes : Nat) : (List.replicate slashes '/' ++ text).dropWhile (· == '/') = text := by
  rw [List.dropWhile_append_of_pos fun c hc => by simp [List.eq_of_mem_replicate hc]]
  cases text with
  | nil => rfl
  | cons c text => exact List.dropWhile_cons_of_neg (by simpa using htext c rfl)

section Written

variable {name word : List Char} {job : Job}

theorem calledName_of_calls (hname : IsName name) (hcalls : Calls name word) :
    calledName word = name := by
  obtain ⟨c, rest, rfl⟩ := List.exists_cons_of_ne_nil hname.solid.ne_nil
  have hhead (text : List Char) : ∀ d, (c :: rest ++ text).head? = some d → d ≠ '/' := by
    rintro _ ⟨⟩ rfl
    exact hname.slashless List.mem_cons_self
  have hplain : ∀ d ∈ c :: rest, (d != '@') = true := by
    intro d hd
    rw [bne_iff_ne]
    rintro rfl
    exact hname.signless hd
  unfold calledName
  cases hcalls with
  | bare slashes =>
      rw [dropWhile_slashes (by simpa using hhead []) slashes,
        List.takeWhile_eq_self_iff.mpr hplain]
  | addressed slashes =>
      rw [dropWhile_slashes (hhead _) slashes, List.takeWhile_append_of_pos hplain]
      exact List.append_nil _

theorem isSolid_of_calls (hname : IsName name) (hcalls : Calls name word) : IsSolid word := by
  have hslash (slashes : Nat) : ∀ c ∈ List.replicate slashes '/', isBlank c = false := by
    intro c hc
    rw [List.eq_of_mem_replicate hc]
    rfl
  cases hcalls with
  | bare slashes =>
      refine ⟨by simp [hname.solid.ne_nil], List.forall_mem_append.mpr ⟨hslash slashes, ?_⟩⟩
      exact hname.solid.solid
  | addressed slashes hbot =>
      refine ⟨by simp, List.forall_mem_append.mpr ⟨hslash slashes, ?_⟩⟩
      exact List.forall_mem_append.mpr
        ⟨hname.solid.solid, List.forall_mem_cons.mpr ⟨rfl, hbot⟩⟩

theorem toList_display (job : Job) :
    job.display.toList =
      job.team.toList ++ '/' :: (job.pipeline.toList ++ '/' :: job.name.toList) := by
  simp [Job.display, String.toList_append]

theorem isSolid_display (hjob : IsWritable job) : IsSolid job.display.toList := by
  rw [toList_display]
  refine ⟨by simp, ?_⟩
  simp only [List.forall_mem_append, List.forall_mem_cons]
  exact ⟨hjob.team.solid.solid, rfl, hjob.pipeline.solid.solid, rfl, hjob.name.solid.solid⟩

/-- A job in writing names that job, in any default team. -/
theorem ofTarget?_display (hjob : IsWritable job) : Job.ofTarget? team job.display = some job := by
  have hnamed {part : String} (hpart : IsPart part) : JobTargets.IsPart part :=
    ⟨fun hempty => hpart.solid.ne_nil (String.toList_eq_nil_iff.mpr hempty), hpart.slashless⟩
  exact JobTargets.ofTarget?_eq_some_iff.mpr
    (.full ⟨hnamed hjob.team, hnamed hjob.pipeline, hnamed hjob.name⟩)

/-- The words of a command that is written down. -/
def writtenWords (word : List Char) (before : List String) (job : Job) (after : List String) :
    List (List Char) :=
  word :: (before ++ job.display :: after).map String.toList

theorem spoken_of_written {before after : List String} (hname : IsName name)
    (hcalls : Calls name word) (hjob : IsWritable job)
    (hargs : ∀ arg ∈ before ++ after, Job.ofTarget? team arg = none) :
    Spoken team (writtenWords word before job after)
      (some ⟨String.ofList name, before ++ after, some job⟩) := by
  have hcalled := calledName_of_calls hname hcalls
  have hplain : ¬ SaysAgain word ((before ++ job.display :: after).map String.toList) := by
    rintro ⟨htry, -⟩
    rw [hcalled, hname.lowered] at htry
    exact hname.ne_try htry
  have htargets : Targets team
      (((before ++ job.display :: after).map String.toList).map String.ofList) (some job)
      (before ++ after) := by
    have hsame : String.ofList ∘ String.toList = id := funext fun _ => String.ofList_toList
    rw [List.map_map, hsame, List.map_id]
    exact .some (fun arg harg => hargs arg (List.mem_append_left _ harg)) (ofTarget?_display hjob)
  have hspoken := Spoken.named (by rw [hcalled]; exact hname.solid.ne_nil) hplain htargets
  rwa [hcalled, hname.lowered] at hspoken

end Written

/-- A line is understood by its words. A command written down as words, with any blank characters between
them, is understood as that command. -/
theorem spoken_commands_understood (team : String) :
    (∀ line : String, ∃ words, Spaced line.toList words) ∧
    (∀ (line : String) words, Spaced line.toList words →
      (∀ result, Command.ofLine? team line = result ↔ Spoken team words result) ∧
      (Command.ofLine? team line = none ↔
        words = [] ∨ ∃ first rest, words = first :: rest ∧ calledName first = [])) ∧
    ∀ name word before after job, IsName name → Calls name word → IsWritable job →
      (∀ arg ∈ before ++ after, IsSolid arg.toList ∧ Job.ofTarget? team arg = none) →
        (∃ text, Spaced text (writtenWords word before job after)) ∧
        ∀ line : String, Spaced line.toList (writtenWords word before job after) →
          Command.ofLine? team line =
            some ⟨String.ofList name, before ++ after, some job⟩ := by
  refine ⟨fun line => exists_spaced line.toList, ?_, ?_⟩
  · intro line words hspaced
    exact ⟨fun result => ofLine?_eq_iff hspaced, (ofLine?_eq_iff hspaced).trans spoken_none_iff⟩
  · intro name word before after job hname hcalls hjob hargs
    refine ⟨exists_spaced_of_solid ?_, ?_⟩
    · refine List.forall_mem_cons.mpr ⟨isSolid_of_calls hname hcalls, ?_⟩
      rw [List.forall_mem_map, List.forall_mem_append, List.forall_mem_cons]
      rw [List.forall_mem_append] at hargs
      exact ⟨fun arg harg => (hargs.1 arg harg).1, isSolid_display hjob,
        fun arg harg => (hargs.2 arg harg).1⟩
    · intro line hspaced
      exact ofLine?_of_spoken hspaced
        (spoken_of_written hname hcalls hjob fun arg harg => (hargs arg harg).2)

theorem muteUnit_understood :
    Spaced "\u2003//mute@ci_bot 1h main/web/unit\tagain/ ".toList
        (writtenWords "//mute@ci_bot".toList ["1h"] ⟨"main", "web", "unit"⟩ ["again/"]) ∧
      Command.ofLine? "ops" "\u2003//mute@ci_bot 1h main/web/unit\tagain/ " =
        some ⟨"mute", ["1h", "again/"], some ⟨"main", "web", "unit"⟩⟩ := by
  have hspaced : Spaced "\u2003//mute@ci_bot 1h main/web/unit\tagain/ ".toList
      (writtenWords "//mute@ci_bot".toList ["1h"] ⟨"main", "web", "unit"⟩ ["again/"]) :=
    spaced_iff.mpr (by decide)
  have hname : IsName "mute".toList :=
    ⟨isSolid_of_all (by decide) (by decide), by decide, by decide, by decide +kernel, by decide⟩
  have hcalls : Calls "mute".toList "//mute@ci_bot".toList :=
    .addressed 2 (List.all_iff_forall_prop.mp (by decide))
  have hjob : IsWritable ⟨"main", "web", "unit"⟩ :=
    ⟨⟨isSolid_of_all (by decide) (by decide), by decide⟩,
      ⟨isSolid_of_all (by decide) (by decide), by decide⟩,
      ⟨isSolid_of_all (by decide) (by decide), by decide⟩⟩
  have hargs : ∀ arg ∈ ["1h"] ++ ["again/"],
      IsSolid arg.toList ∧ Job.ofTarget? "ops" arg = none := by
    rw [List.singleton_append, List.forall_mem_cons, List.forall_mem_singleton]
    exact ⟨⟨isSolid_of_all (by decide) (by decide), by decide⟩,
      isSolid_of_all (by decide) (by decide), by decide⟩
  exact ⟨hspaced, ((spoken_commands_understood "ops").2.2 _ _ _ _ _ hname hcalls hjob hargs).2 _
    hspaced⟩

end BuildHerald.Proofs.SpokenCommands
