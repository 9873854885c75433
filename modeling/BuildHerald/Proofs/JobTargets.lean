import BuildHerald.Job
import Mathlib.Data.List.Basic

/-!
How jobs are named in writing.

A target is the parts of a job with slashes between them, and the team may be left out where it is the
default one. A job is read back from what is written of it, and two texts that name one job differ by
no more than that team.
-/

namespace BuildHerald.Proofs.JobTargets

open BuildHerald.Text

/-- Can stand for a part of a job in a target. -/
structure IsPart (part : String) : Prop where
  ne_empty : part ≠ ""
  slashless : '/' ∉ part.toList

structure IsNamed (job : Job) : Prop where
  team : IsPart job.team
  pipeline : IsPart job.pipeline
  name : IsPart job.name

/-- The text is these parts with slashes between them, and there is no other slash in it. -/
structure HasParts (text : String) (parts : List String) : Prop where
  -- The empty text has one part, which is empty, and not none.
  ne_nil : parts ≠ []
  slashless : ∀ part ∈ parts, '/' ∉ part.toList
  joined : "/".intercalate parts = text

/-- The text names the job, in full or without the default team. -/
inductive Names (team : String) : String → Job → Prop
  | full {job : Job} : IsNamed job → Names team job.display job
  | short {pipeline name : String} : IsPart pipeline → IsPart name →
      Names team (pipeline ++ "/" ++ name) ⟨team, pipeline, name⟩

/-! ### The parts of a text -/

theorem hasParts_pieces (text : String) :
    HasParts text ((pieces (· == '/') text.toList).map String.ofList) := by
  refine ⟨by simp [pieces_ne_nil], ?_, ?_⟩
  · rw [List.forall_mem_map]
    intro piece hpiece hslash
    rw [String.toList_ofList] at hslash
    exact absurd (of_mem_pieces hpiece '/' hslash).2 (by decide)
  · have hsame : String.toList ∘ String.ofList = id := funext fun _ => String.toList_ofList
    rw [← String.toList_inj, String.toList_intercalate, List.map_map, hsame, List.map_id]
    exact intercalate_pieces '/' text.toList

section Parts

variable {text : String} {parts : List String}

theorem pieces_of_hasParts (hparts : HasParts text parts) :
    pieces (· == '/') text.toList = parts.map String.toList := by
  have hslashless : ∀ part ∈ parts.map String.toList, '/' ∉ part :=
    List.forall_mem_map.mpr hparts.slashless
  rw [← hparts.joined, String.toList_intercalate]
  exact pieces_intercalate (by simp [hparts.ne_nil]) hslashless

theorem length_of_hasParts (hparts : HasParts text parts) :
    parts.length = text.toList.count '/' + 1 := by
  rw [List.count, ← length_pieces, pieces_of_hasParts hparts, List.length_map]

theorem mem_of_hasParts {part : String} {c : Char} (hparts : HasParts text parts)
    (hpart : part ∈ parts) (hc : c ∈ part.toList) : c ∈ text.toList := by
  have hpiece : part.toList ∈ pieces (· == '/') text.toList := by
    rw [pieces_of_hasParts hparts]
    exact List.mem_map_of_mem hpart
  exact (of_mem_pieces hpiece c hc).1

theorem isPart_of_mem (hparts : HasParts text parts) (hfull : "" ∉ parts) :
    ∀ part ∈ parts, IsPart part := by
  intro part hpart
  exact ⟨fun hempty => hfull (hempty ▸ hpart), hparts.slashless part hpart⟩

end Parts

section Written

variable {pipeline name : String} {job : Job}

theorem hasParts_short (hpipeline : IsPart pipeline) (hname : IsPart name) :
    HasParts (pipeline ++ "/" ++ name) [pipeline, name] := by
  refine ⟨List.cons_ne_nil _ _, ?_, ?_⟩
  · rw [List.forall_mem_cons, List.forall_mem_singleton]
    exact ⟨hpipeline.slashless, hname.slashless⟩
  · rw [String.intercalate_cons_cons, String.intercalate_singleton]

/-- With the team written before it, the short name is the full one. -/
theorem display_eq (job : Job) :
    job.display = job.team ++ "/" ++ (job.pipeline ++ "/" ++ job.name) := by
  simp only [Job.display, String.append_assoc]

theorem hasParts_display (hjob : IsNamed job) :
    HasParts job.display [job.team, job.pipeline, job.name] := by
  have hshort := hasParts_short hjob.pipeline hjob.name
  refine ⟨List.cons_ne_nil _ _, ?_, ?_⟩
  · exact List.forall_mem_cons.mpr ⟨hjob.team.slashless, hshort.slashless⟩
  · rw [String.intercalate_cons_cons, hshort.joined, display_eq]

end Written

/-! ### What a text names -/

section Reading

variable {team text other : String} {parts : List String} {job : Job}

/-- What a text names, told by its parts. -/
theorem ofTarget?_eq_some_iff_parts (hparts : HasParts text parts) :
    Job.ofTarget? team text = some job ↔ "" ∉ parts ∧
      (parts = [job.pipeline, job.name] ∧ job.team = team ∨
        parts = [job.team, job.pipeline, job.name]) := by
  have hempty : (parts.map String.toList).any (·.isEmpty) = true ↔ "" ∈ parts := by
    simp
  have hsame : String.ofList ∘ String.toList = id := funext fun _ => String.ofList_toList
  simp only [Job.ofTarget?, pieces_of_hasParts hparts, hempty, List.map_map, hsame, List.map_id]
  split
  · next hmem => exact iff_of_false nofun fun hforms => hforms.1 hmem
  · next hfull =>
      rw [and_iff_right hfull]
      -- Two parts, three parts, and any other number of them.
      split
      · constructor
        · rintro ⟨⟩
          exact .inl ⟨rfl, rfl⟩
        · rintro (⟨⟨⟩, rfl⟩ | ⟨⟨⟩⟩)
          rfl
      · constructor
        · rintro ⟨⟩
          exact .inr rfl
        · rintro (⟨⟨⟩, -⟩ | ⟨⟨⟩⟩)
          rfl
      · next hshort hlong =>
          refine iff_of_false nofun ?_
          rintro (⟨rfl, -⟩ | rfl)
          · exact hshort _ _ rfl
          · exact hlong _ _ _ rfl

theorem names_of_ofTarget? (hjob : Job.ofTarget? team text = some job) : Names team text job := by
  obtain ⟨parts, hparts⟩ : ∃ parts, HasParts text parts := ⟨_, hasParts_pieces text⟩
  obtain ⟨hfull, hforms⟩ := (ofTarget?_eq_some_iff_parts hparts).mp hjob
  have hpart := isPart_of_mem hparts hfull
  obtain ⟨rfl, rfl⟩ | rfl := hforms
  · simp only [List.forall_mem_cons] at hpart
    have htext := hparts.joined.symm.trans (hasParts_short hpart.1 hpart.2.1).joined
    rw [htext]
    exact .short hpart.1 hpart.2.1
  · simp only [List.forall_mem_cons] at hpart
    have hnamed : IsNamed job := ⟨hpart.1, hpart.2.1, hpart.2.2.1⟩
    have htext := hparts.joined.symm.trans (hasParts_display hnamed).joined
    rw [htext]
    exact .full hnamed

theorem ofTarget?_of_names (hnames : Names team text job) :
    Job.ofTarget? team text = some job := by
  cases hnames with
  | full hjob =>
      refine (ofTarget?_eq_some_iff_parts (hasParts_display hjob)).mpr ⟨?_, .inr rfl⟩
      simp [hjob.team.ne_empty.symm, hjob.pipeline.ne_empty.symm, hjob.name.ne_empty.symm]
  | short hpipeline hname =>
      refine (ofTarget?_eq_some_iff_parts (hasParts_short hpipeline hname)).mpr
        ⟨?_, .inl ⟨rfl, rfl⟩⟩
      simp [hpipeline.ne_empty.symm, hname.ne_empty.symm]

theorem ofTarget?_eq_some_iff : Job.ofTarget? team text = some job ↔ Names team text job :=
  ⟨names_of_ofTarget?, ofTarget?_of_names⟩

theorem exists_ofTarget?_iff (hparts : HasParts text parts) :
    (∃ job, Job.ofTarget? team text = some job) ↔
      (text.toList.count '/' = 1 ∨ text.toList.count '/' = 2) ∧ "" ∉ parts := by
  have hlength := length_of_hasParts hparts
  constructor
  · rintro ⟨job, hjob⟩
    obtain ⟨hfull, ⟨rfl, -⟩ | rfl⟩ := (ofTarget?_eq_some_iff_parts hparts).mp hjob
    · exact ⟨.inl (Nat.succ.inj hlength).symm, hfull⟩
    · exact ⟨.inr (Nat.succ.inj hlength).symm, hfull⟩
  · rintro ⟨hcount | hcount, hfull⟩
    · obtain ⟨pipeline, name, rfl⟩ := List.length_eq_two.mp (hcount ▸ hlength)
      exact ⟨⟨team, pipeline, name⟩,
        (ofTarget?_eq_some_iff_parts hparts).mpr ⟨hfull, .inl ⟨rfl, rfl⟩⟩⟩
    · obtain ⟨own, pipeline, name, rfl⟩ := List.length_eq_three.mp (hcount ▸ hlength)
      exact ⟨⟨own, pipeline, name⟩, (ofTarget?_eq_some_iff_parts hparts).mpr ⟨hfull, .inr rfl⟩⟩

/-- No job is named with too few or too many slashes, or with an empty part. -/
theorem ofTarget?_eq_none_iff_parts (hparts : HasParts text parts) :
    Job.ofTarget? team text = none ↔
      (text.toList.count '/' ≠ 1 ∧ text.toList.count '/' ≠ 2) ∨ "" ∈ parts := by
  rw [Option.eq_none_iff_forall_ne_some, ← not_exists, exists_ofTarget?_iff hparts, not_and_or,
    not_or, not_not]

theorem written_of_names (hnames : Names team text job) :
    (text.toList.count '/' = 2 ∧ job.display = text ∧ IsNamed job) ∨
      (text.toList.count '/' = 1 ∧ job.display = team ++ "/" ++ text ∧ job.team = team ∧
        IsPart job.pipeline ∧ IsPart job.name) := by
  cases hnames with
  | full hjob =>
      have hlength := length_of_hasParts (hasParts_display hjob)
      exact .inl ⟨(Nat.succ.inj hlength).symm, rfl, hjob⟩
  | short hpipeline hname =>
      have hlength := length_of_hasParts (hasParts_short hpipeline hname)
      exact .inr ⟨(Nat.succ.inj hlength).symm, display_eq _, rfl, hpipeline, hname⟩

theorem eq_or_prefixed_of_names (htext : Names team text job) (hother : Names team other job) :
    text = other ∨ other = team ++ "/" ++ text ∨ text = team ++ "/" ++ other := by
  -- A job has one full and one short form, and it can have the short one only if its team is the default.
  cases htext with
  | full =>
      cases hother with
      | full => exact .inl rfl
      | short => exact .inr (.inr (display_eq _))
  | short =>
      cases hother with
      | full => exact .inr (.inl (display_eq _))
      | short => exact .inl rfl

end Reading

/-- Targets are read back as they are written, and no two of them name one job, but for the default team
that may be left out. -/
theorem targets_name_jobs (team : String) :
    (∀ job : Job, IsNamed job → Job.ofTarget? team job.display = some job) ∧
    (∀ pipeline name : String, IsPart pipeline → IsPart name →
      Job.ofTarget? team (pipeline ++ "/" ++ name) = some ⟨team, pipeline, name⟩) ∧
    (∀ (text : String) (job : Job), Job.ofTarget? team text = some job →
      (text.toList.count '/' = 2 ∧ job.display = text ∧ IsNamed job) ∨
        (text.toList.count '/' = 1 ∧ job.display = team ++ "/" ++ text ∧ job.team = team ∧
          IsPart job.pipeline ∧ IsPart job.name)) ∧
    (∀ text : String, Job.ofTarget? team text = none ↔
      (text.toList.count '/' ≠ 1 ∧ text.toList.count '/' ≠ 2) ∨
        ∃ parts, HasParts text parts ∧ "" ∈ parts) ∧
    ∀ (text other : String) (job : Job), text ≠ other → Job.ofTarget? team text = some job →
      Job.ofTarget? team other = some job →
        other = team ++ "/" ++ text ∨ text = team ++ "/" ++ other := by
  refine ⟨?_, ?_, ?_, ?_, ?_⟩
  · intro job hjob
    exact ofTarget?_eq_some_iff.mpr (.full hjob)
  · intro pipeline name hpipeline hname
    exact ofTarget?_eq_some_iff.mpr (.short hpipeline hname)
  · intro text job hjob
    exact written_of_names (ofTarget?_eq_some_iff.mp hjob)
  · intro text
    have htext := hasParts_pieces text
    constructor
    · intro hnone
      exact ((ofTarget?_eq_none_iff_parts htext).mp hnone).imp_right fun hempty =>
        ⟨_, htext, hempty⟩
    · rintro (hcount | ⟨parts, hparts, hempty⟩)
      · exact (ofTarget?_eq_none_iff_parts htext).mpr (.inl hcount)
      · exact (ofTarget?_eq_none_iff_parts hparts).mpr (.inr hempty)
  · intro text other job hne htext hother
    rw [ofTarget?_eq_some_iff] at htext hother
    exact (eq_or_prefixed_of_names htext hother).resolve_left hne

theorem unit_named_either_way :
    IsNamed ⟨"main", "wéb", "unit #2"⟩ ∧
      Job.ofTarget? "main" "main/wéb/unit #2" = some ⟨"main", "wéb", "unit #2"⟩ ∧
      Job.ofTarget? "main" "wéb/unit #2" = some ⟨"main", "wéb", "unit #2"⟩ ∧
      Job.ofTarget? "main" "wéb//unit #2" = none ∧
      "wéb/unit #2".toList.count '/' = 1 ∧
      Job.display ⟨"main", "wéb", "unit #2"⟩ = "main" ++ "/" ++ "wéb/unit #2" ∧
      "main/wéb/unit #2" ≠ "wéb/unit #2" ∧
      ("wéb/unit #2" = "main" ++ "/" ++ "main/wéb/unit #2" ∨
        "main/wéb/unit #2" = "main" ++ "/" ++ "wéb/unit #2") := by
  have hteam : IsPart "main" := ⟨by decide, by decide⟩
  have hpipeline : IsPart "wéb" := ⟨by decide, by decide⟩
  have hname : IsPart "unit #2" := ⟨by decide, by decide⟩
  obtain ⟨hfull, hshort, hwritten, hnone, hsame⟩ := targets_name_jobs "main"
  have hlong := hfull ⟨"main", "wéb", "unit #2"⟩ ⟨hteam, hpipeline, hname⟩
  have hbrief := hshort "wéb" "unit #2" hpipeline hname
  have hne : "main/wéb/unit #2" ≠ "wéb/unit #2" := by decide
  have hempty : HasParts "wéb//unit #2" ["wéb", "", "unit #2"] :=
    ⟨List.cons_ne_nil _ _, by decide, by decide⟩
  obtain ⟨hcount, -⟩ | ⟨hcount, hdisplay, -⟩ := hwritten _ _ hbrief
  · exact absurd hcount (by decide)
  · exact ⟨⟨hteam, hpipeline, hname⟩, hlong, hbrief,
      (hnone _).mpr (.inr ⟨_, hempty, by decide⟩), hcount, hdisplay, hne,
      hsame _ _ _ hne hlong hbrief⟩

end BuildHerald.Proofs.JobTargets
