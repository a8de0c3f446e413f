/-
# Scans that take turns

Scans on one engine start one after another, and each one waits: a file for its digest and its
assessment, which come in any order, code for its digest only.  While one waits, the others may
start, wait or end.  `Stage.Step` is one step of any of them, so a `Run` is one of all the ways in
which they can take turns.

No order matters, because of what a step reads and writes.  Only a start moves the sampler, and the
starts have their order; any other step works on one scan alone, and what it brings is a function of
the draft that the start has left.  So what is to become of every scan is known from the start
(`fates`): one step does not change it (`fates_of_step`), a run does not (`fates_of_run`), and in
the end it is what the session gives.  Every step is one of the few that a scan has to take
(`toGo_of_step`), so a run ends, and it ends with all results (`run_eq_session`).
-/
import ThreatScan.Proofs.Engine.Session

namespace ThreatScan
namespace Engine

/-! ## 1. Steps -/

/-- A scan that has started: what it waits for has come or has not. -/
inductive Progress where
  | file (draft : FileDraft) (contentHash : Option (Except Failure Text))
    (assessment : Option (Except Failure (Option MalwareAssessment)))
  | code (draft : CodeDraft) (contentHash : Option (Except Failure Text))
  | ended (outcome : Except Failure ScanReport)

/-- Some scans on one engine: those to be started, those that have started, both in the order of
their starts, and the sampler that they share. -/
structure Stage where
  waiting : List ScanJob
  started : List Progress
  sampler : Sampler

variable (e : Engine)

/-- The result for a file when all that it waited for is there.  If both failed, the digest
counts, unless the assessment is one that never comes: then neither does the result. -/
def concludeFile (d : FileDraft) (contentHash : Except Failure Text)
    (assessment : Except Failure (Option MalwareAssessment)) : Except Failure ScanReport :=
  (both contentHash assessment).bind fun (contentHash, assessment) =>
    ((fileFacts d contentHash assessment).report e.clock).map .file

/-- The result for code when its digest is there. -/
def concludeCode (d : CodeDraft) (contentHash : Except Failure Text) : Except Failure ScanReport :=
  contentHash.bind fun contentHash =>
    (Matching.ofContent d.code e.catalog.obfuscation).complete.bind fun obfuscation =>
      (Indication.performance d.code e.catalog.performance).bind fun performance =>
        ((e.codeFacts d contentHash obfuscation performance).report e.clock).map .code

/-- A scan whose first part is done: it waits, unless it has failed. -/
def Progress.ofDraft : Except Failure ScanDraft → Progress
  | .ok (.file d) => .file d none none
  | .ok (.code d) => .code d none
  | .error cause => .ended (.error cause)

/-- Something comes that the scan waits for, or the scan ends because everything is there. -/
inductive Progress.Step : Progress → Progress → Prop
  | digestFile (d : FileDraft) (assessment : Option (Except Failure (Option MalwareAssessment))) :
    Step (.file d none assessment) (.file d (some (e.digest d.file.content)) assessment)
  | assessFile (d : FileDraft) (contentHash : Option (Except Failure Text)) :
    Step (.file d contentHash none) (.file d contentHash (some (e.assessment d.file).outcome))
  | endFile (d : FileDraft) (contentHash : Except Failure Text)
    (assessment : Except Failure (Option MalwareAssessment)) :
    Step (.file d (some contentHash) (some assessment))
      (.ended (e.concludeFile d contentHash assessment))
  | digestCode (d : CodeDraft) : Step (.code d none) (.code d (some (e.digest d.code)))
  | endCode (d : CodeDraft) (contentHash : Except Failure Text) :
    Step (.code d (some contentHash)) (.ended (e.concludeCode d contentHash))

/-- The next scan starts, or one that has started goes on. -/
inductive Stage.Step : Stage → Stage → Prop
  | start (job : ScanJob) (jobs : List ScanJob) (started : List Progress) (sampler : Sampler) :
    Step ⟨job :: jobs, started, sampler⟩
      ⟨jobs, started ++ [.ofDraft (e.begin job sampler).1.outcome], (e.begin job sampler).2⟩
  | goOn (jobs : List ScanJob) (before after : List Progress) (sampler : Sampler)
    {p p' : Progress} : p.Step e p' →
    Step ⟨jobs, before ++ p :: after, sampler⟩ ⟨jobs, before ++ p' :: after, sampler⟩

/-- The second stage is reached from the first one in so many steps. -/
inductive Run : ℕ → Stage → Stage → Prop
  | refl (s : Stage) : Run 0 s s
  | step {n : ℕ} {s s' s'' : Stage} : s.Step e s' → Run n s' s'' → Run (n + 1) s s''

/-! ## 2. What is to become of a scan -/

/-- The result that a scan is to have. -/
def Progress.fate : Progress → Except Failure ScanReport
  | .file d contentHash assessment =>
    e.concludeFile d (contentHash.getD (e.digest d.file.content))
      (assessment.getD (e.assessment d.file).outcome)
  | .code d contentHash => e.concludeCode d (contentHash.getD (e.digest d.code))
  | .ended outcome => outcome

/-- The results that all scans are to have: those that have started, and the others if they run one
after another from here on. -/
def Stage.fates (s : Stage) : List (Except Failure ScanReport) :=
  s.started.map (Progress.fate e) ++ (e.session s.waiting s.sampler).map (·.outcome)

variable {e} {p p' : Progress} {s s' : Stage} {n : ℕ}

/-- The second part of a file scan is its conclusion from what it waits for. -/
theorem outcome_finish_file (d : FileDraft) :
    (e.finish (.file d)).outcome =
      e.concludeFile d (e.digest d.file.content) (e.assessment d.file).outcome := by
  rw [finish, Traced.outcome_map]
  simp only [finishFile, concludeFile, Traced.outcome_bind, Traced.ofOutcome, Traced.outcome_say,
    Traced.outcome_pure, Except.map_bind]
  rfl

/-- The second part of a code scan is its conclusion from the digest. -/
theorem outcome_finish_code (d : CodeDraft) :
    (e.finish (.code d)).outcome = e.concludeCode d (e.digest d.code) := by
  rw [finish, Traced.outcome_map]
  simp only [finishCode, concludeCode, Traced.outcome_bind, Traced.ofOutcome, Traced.outcome_say,
    Traced.outcome_pure, Except.map_bind]
  rfl

/-- Nothing that a scan waits for changes what is to become of it. -/
theorem fate_of_step (h : p.Step e p') : p'.fate e = p.fate e := by
  cases h <;> rfl

/-- What is to become of a scan that starts is what the whole scan gives. -/
theorem fate_ofDraft (job : ScanJob) (sampler : Sampler) :
    (Progress.ofDraft (e.begin job sampler).1.outcome).fate e =
      (e.scan job sampler).1.outcome := by
  rw [scan, Traced.outcome_bind]
  cases (e.begin job sampler).1.outcome with
  | error cause => rfl
  | ok draft =>
    cases draft with
    | file d => exact (outcome_finish_file d).symm
    | code d => exact (outcome_finish_code d).symm

/-- **One step does not change what is to become of the scans.** -/
theorem fates_of_step (h : s.Step e s') : s'.fates e = s.fates e := by
  cases h with
  | start job jobs started sampler =>
    simp only [Stage.fates, List.map_append, List.append_assoc]
    exact congrArg (_ ++ ·) (congrArg (· :: _) (fate_ofDraft job sampler))
  | goOn jobs before after sampler h =>
    simp only [Stage.fates, List.map_append, List.map_cons, fate_of_step h]

/-- **Nor does a run.** -/
theorem fates_of_run (h : Run e n s s') : s'.fates e = s.fates e := by
  induction h with
  | refl => rfl
  | step hstep _ ih => exact ih.trans (fates_of_step hstep)

/-! ## 3. How long it takes -/

/-- The number of steps that a scan has still to take. -/
def Progress.toGo : Progress → ℕ
  | .file _ contentHash assessment =>
    (if contentHash.isSome then 0 else 1) + (if assessment.isSome then 0 else 1) + 1
  | .code _ contentHash => (if contentHash.isSome then 0 else 1) + 1
  | .ended _ => 0

/-- A bound for the number of steps that all scans have still to take: a file has four, if its start
is counted. -/
def Stage.toGo (s : Stage) : ℕ := 4 * s.waiting.length + (s.started.map Progress.toGo).sum

theorem toGo_of_progress (h : p.Step e p') : p'.toGo + 1 = p.toGo := by
  cases h <;> (simp [Progress.toGo]; try omega)

theorem toGo_ofDraft_le (draft : Except Failure ScanDraft) :
    (Progress.ofDraft draft).toGo ≤ 3 := by
  rcases draft with cause | (d | d) <;> simp [Progress.ofDraft, Progress.toGo]

theorem toGo_of_step (h : s.Step e s') : s'.toGo + 1 ≤ s.toGo := by
  cases h with
  | start job jobs started sampler =>
    have hle := toGo_ofDraft_le (e.begin job sampler).1.outcome
    simp only [Stage.toGo, List.length_cons, List.map_append, List.map_cons, List.map_nil,
      List.sum_append, List.sum_cons, List.sum_nil]
    omega
  | goOn jobs before after sampler h =>
    have heq := toGo_of_progress h
    simp only [Stage.toGo, List.map_append, List.map_cons, List.sum_append, List.sum_cons]
    omega

theorem toGo_of_run (h : Run e n s s') : s'.toGo + n ≤ s.toGo := by
  induction h with
  | refl => exact le_rfl
  | step hstep _ ih =>
    have hle := toGo_of_step hstep
    omega

/-- A scan that has not ended can go on. -/
theorem exists_step_or_ended (e : Engine) (p : Progress) :
    (∃ p', p.Step e p') ∨ ∃ outcome, p = .ended outcome := by
  cases p with
  | file d contentHash assessment =>
    cases contentHash with
    | none => exact .inl ⟨_, .digestFile d assessment⟩
    | some contentHash =>
      cases assessment with
      | none => exact .inl ⟨_, .assessFile d (some contentHash)⟩
      | some assessment => exact .inl ⟨_, .endFile d contentHash assessment⟩
  | code d contentHash =>
    cases contentHash with
    | none => exact .inl ⟨_, .digestCode d⟩
    | some contentHash => exact .inl ⟨_, .endCode d contentHash⟩
  | ended outcome => exact .inr ⟨outcome, rfl⟩

/-- All scans have started and ended. -/
def Stage.IsDone (s : Stage) : Prop :=
  s.waiting = [] ∧ ∀ p ∈ s.started, ∃ outcome, p = .ended outcome

/-- **No scan gets stuck.** -/
theorem exists_step_or_isDone (e : Engine) (s : Stage) : (∃ s', s.Step e s') ∨ s.IsDone := by
  obtain ⟨waiting, started, sampler⟩ := s
  cases waiting with
  | cons job jobs => exact .inl ⟨_, .start job jobs started sampler⟩
  | nil =>
    by_cases hended : ∀ p ∈ started, ∃ outcome, p = .ended outcome
    · exact .inr ⟨rfl, hended⟩
    · push Not at hended
      obtain ⟨p, hp, hne⟩ := hended
      obtain ⟨before, after, rfl⟩ := List.append_of_mem hp
      rcases exists_step_or_ended e p with ⟨p', hstep⟩ | ⟨outcome, rfl⟩
      · exact .inl ⟨_, .goOn [] before after sampler hstep⟩
      · exact absurd rfl (hne outcome)

/-! ## 4. A file and code -/

theorem outcome_begin_file (h : e.catalog.NoNegativeWeight) {file : FileInput}
    (hsize : ¬ e.maxBytes < (Text.encode file.content).length) (sampler : Sampler) :
    (e.begin (.file file) sampler).1.outcome = .ok (.file (e.draftOf file)) := by
  rw [begin, Traced.outcome_map, outcome_beginFile, checkSize_eq_ok_iff.mpr hsize, fileTables_eq h]
  rfl

theorem outcome_begin_code (h : e.catalog.NoNegativeWeight) {code : Text}
    (hsize : ¬ e.maxBytes < (Text.encode code).length) (sampler : Sampler) :
    (e.begin (.code code) sampler).1.outcome = .ok (.code (e.codeDraftOf code sampler)) := by
  have hcomplete : (e.vulnerabilitiesOf code).complete = .ok _ :=
    Matching.complete_ofLines (h .vulnerabilities)
  rw [begin, Traced.outcome_map, outcome_beginCode, checkSize_eq_ok_iff.mpr hsize, hcomplete]
  rfl

/-- A file and code can take turns: the code gets its digest and ends between the assessment of the
file and its digest. -/
theorem exists_run_of_two (h : e.catalog.NoNegativeWeight) (file : FileInput) (code : Text)
    (sampler : Sampler) (hfile : ¬ e.maxBytes < (Text.encode file.content).length)
    (hcode : ¬ e.maxBytes < (Text.encode code).length) :
    ∃ s outcome outcome', Run e 7 ⟨[.file file, .code code], [], sampler⟩ s ∧
      s.started = [.ended outcome, .ended outcome'] := by
  have hstart := Stage.Step.start (e := e) (.file file) [.code code] [] sampler
  have hstart' := Stage.Step.start (e := e) (.code code) []
    [.file (e.draftOf file) none none] sampler
  rw [outcome_begin_file h hfile] at hstart
  rw [outcome_begin_code h hcode] at hstart'
  exact ⟨_, _, _, .step hstart <| .step hstart' <|
    .step (.goOn [] [_] [] _ (.digestCode _)) <|
    .step (.goOn [] [] [_] _ (.assessFile (e.draftOf file) none)) <|
    .step (.goOn [] [_] [] _ (.endCode _ _)) <|
    .step (.goOn [] [] [_] _ (.digestFile _ _)) <|
    .step (.goOn [] [] [_] _ (.endFile _ _ _)) <| .refl _, rfl⟩

/-! ## 5. Together and one after another -/

/-- How a scan ends when it has an engine of its own, whatever the state of its sampler: the same
but for the score of code. -/
def EndsAlone (e : Engine) : ScanJob → Except Failure ScanReport → Prop
  | .file file, outcome => outcome = (e.scanFile file).outcome.map .file
  | .code code, outcome => ∀ fresh : Sampler, outcome.map ScanReport.unscored =
      ((e.scanCode code fresh).1.outcome.map .code).map ScanReport.unscored

theorem endsAlone_scan (job : ScanJob) (sampler : Sampler) :
    e.EndsAlone job (e.scan job sampler).1.outcome := by
  cases job with
  | file file =>
    rw [EndsAlone, scan_file, Traced.outcome_map]
  | code code =>
    intro fresh
    rw [e.unscored_scan (.code code) sampler fresh, scan_code, Traced.outcome_map]

/-- **Scans that share an engine are independent of each other.**  However they take turns, they
take a limited number of steps, and none gets stuck before all have ended.  A scan that ends has the
result that it has when the same scans run one after another in the order of their starts, and but
for the score of code it is the result that the scan has alone on an engine of its own. -/
theorem run_eq_session (e : Engine) (jobs : List ScanJob) (sampler : Sampler) {n : ℕ} {s : Stage}
    (h : Run e n ⟨jobs, [], sampler⟩ s) :
    n ≤ 4 * jobs.length ∧
      ((∃ s', s.Step e s') ∨ s.IsDone ∧ s.started.length = jobs.length) ∧
      ∀ (i : ℕ) (outcome : Except Failure ScanReport), s.started[i]? = some (.ended outcome) →
        (e.session jobs sampler)[i]?.map (·.outcome) = some outcome ∧
          ∃ job, jobs[i]? = some job ∧ e.EndsAlone job outcome := by
  have hfates : s.started.map (Progress.fate e) ++ (e.session s.waiting s.sampler).map (·.outcome) =
      (e.session jobs sampler).map (·.outcome) := fates_of_run h
  refine ⟨?_, ?_, ?_⟩
  · have hle : s.toGo + n ≤ 4 * jobs.length + 0 := toGo_of_run h
    omega
  · refine (exists_step_or_isDone e s).imp_right ?_
    intro hdone
    have hlength := congrArg List.length hfates
    rw [hdone.1] at hlength
    exact ⟨hdone, by simpa [session] using hlength⟩
  · intro i outcome hi
    have hi' : i < s.started.length := (List.getElem?_eq_some_iff.mp hi).1
    have houtcome : (e.session jobs sampler)[i]?.map (·.outcome) = some outcome := by
      rw [← List.getElem?_map, ← hfates, List.getElem?_append_left (by rwa [List.length_map]),
        List.getElem?_map, hi]
      rfl
    refine ⟨houtcome, ?_⟩
    obtain ⟨result, hresult, rfl⟩ := Option.map_eq_some_iff.mp houtcome
    obtain ⟨before, job, after, rfl, rfl, rfl⟩ := e.exists_of_getElem?_session hresult
    exact ⟨job, by simp, endsAlone_scan job _⟩

/-- Two scans with assessments, one of a file and one of code. -/
theorem run_eq_session_of_two :
    ∃ s outcome outcome',
      Run (ofSettings {} Catalog.default (fun _ => .late) none default) 7
        ⟨[.file ⟨"a.exe", "a virus", none, none⟩, .code "x = 1"], [], .ofSeed 7⟩ s ∧
      s.started = [.ended outcome, .ended outcome'] ∧
      EndsAlone (ofSettings {} Catalog.default (fun _ => .late) none default)
        (.file ⟨"a.exe", "a virus", none, none⟩) outcome ∧
      EndsAlone (ofSettings {} Catalog.default (fun _ => .late) none default)
        (.code "x = 1") outcome' := by
  obtain ⟨s, outcome, outcome', hrun, hstarted⟩ := exists_run_of_two
    (e := ofSettings {} Catalog.default (fun _ => .late) none default)
    Catalog.noNegativeWeight_default ⟨"a.exe", "a virus", none, none⟩ "x = 1" (.ofSeed 7)
    (by decide +kernel) (by decide +kernel)
  obtain ⟨-, -, hresults⟩ := run_eq_session _ _ _ hrun
  obtain ⟨-, job, hjob, halone⟩ := hresults 0 outcome (by rw [hstarted]; rfl)
  obtain ⟨-, job', hjob', halone'⟩ := hresults 1 outcome' (by rw [hstarted]; rfl)
  obtain rfl := Option.some.inj hjob
  obtain rfl := Option.some.inj hjob'
  exact ⟨s, outcome, outcome', hrun, hstarted, halone, halone'⟩

end Engine
end ThreatScan
