/-
# Scans one after another

A session hands the sampler on from scan to scan and nothing else, so what comes before a scan can
show in its result only as the score of code (`unscored_scan`).  The sampler of a fixed number does
not move, a scan of a file does not use it, and a scan of code that is too large does not get so far
as to use it (`sampler_scan_of_tooLarge`): to drop such a scan changes nothing.  A scan of code that
cannot be digested has moved the sampler by the time it fails, so to drop it changes the scores of
the code behind it, and nothing else (`session_eraseIdx`).
-/
import ThreatScan.Engine.Session
import ThreatScan.Proofs.Engine.Outcome
import ThreatScan.Proofs.Scan.Findings

namespace ThreatScan

/-- What comes of a computation with its value changed. -/
theorem Traced.outcome_map {α β : Type} (f : α → β) (x : Traced α) :
    (f <$> x).outcome = x.outcome.map f := by
  rw [map_eq_pure_bind, Traced.outcome_bind]
  cases x.outcome <;> rfl

theorem Except.map_bind {ε α β γ : Type} (x : Except ε α) (f : α → Except ε β) (g : β → γ) :
    (x.bind f).map g = x.bind fun a => (f a).map g := by
  cases x <;> rfl

theorem Except.bind_ne_error {ε α β : Type} {x : Except ε α} {f : α → Except ε β} {cause : ε}
    (hx : x ≠ .error cause) (hf : ∀ a, f a ≠ .error cause) : x.bind f ≠ .error cause := by
  cases x with
  | error other => simpa [Except.bind] using hx
  | ok a => exact hf a

/-- The report without its score. -/
def CodeReport.unscored (r : CodeReport) : CodeReport := { r with securityScore := 0 }

/-- The report without the score of code. -/
def ScanReport.unscored : ScanReport → ScanReport
  | .file r => .file r
  | .code r => .code r.unscored

namespace Engine

variable (e : Engine)

/-! ## 1. One scan -/

theorem scan_file (file : FileInput) (sampler : Sampler) :
    e.scan (.file file) sampler = (ScanReport.file <$> e.scanFile file, sampler) := by
  simp [scan, begin, scanFile, finish, map_bind, bind_map_left]

theorem scan_code (code : Text) (sampler : Sampler) :
    e.scan (.code code) sampler =
      (ScanReport.code <$> (e.scanCode code sampler).1, (e.scanCode code sampler).2) := by
  simp [scan, begin, scanCode, finish, map_bind, bind_map_left]

/-- **The sampler shows only in the score.** -/
theorem unscored_scanCode (code : Text) (sampler sampler' : Sampler) :
    (e.scanCode code sampler).1.outcome.map CodeReport.unscored =
      (e.scanCode code sampler').1.outcome.map CodeReport.unscored := by
  simp only [scanCode_outcome, Except.map_bind]
  rfl

theorem unscored_scan (job : ScanJob) (sampler sampler' : Sampler) :
    (e.scan job sampler).1.outcome.map ScanReport.unscored =
      (e.scan job sampler').1.outcome.map ScanReport.unscored := by
  cases job with
  | file file => rw [scan_file, scan_file]
  | code code =>
    have hcomm (x : Except Failure CodeReport) :
        (x.map ScanReport.code).map ScanReport.unscored =
          (x.map CodeReport.unscored).map ScanReport.code := by
      cases x <;> rfl
    rw [scan_code, scan_code, Traced.outcome_map, Traced.outcome_map, hcomm, hcomm,
      e.unscored_scanCode code sampler sampler']

/-! ## 2. What moves the sampler -/

theorem sampler_scanCode (code : Text) (sampler : Sampler) :
    (e.scanCode code sampler).2 = (e.beginCode code sampler).2 := rfl

theorem sampler_scan_file (file : FileInput) (sampler : Sampler) :
    (e.scan (.file file) sampler).2 = sampler := by
  rw [scan_file]

theorem sampler_scan_fixed (job : ScanJob) (value : ℤ) :
    (e.scan job (.fixed value)).2 = .fixed value := by
  cases job with
  | file file => exact e.sampler_scan_file file _
  | code code =>
    rw [scan_code, sampler_scanCode, beginCode]
    split <;> rfl

/-- **Code whose findings are known has moved the sampler**, whatever becomes of its scan. -/
theorem sampler_scan_code {code : Text} {findings : Matching} (sampler : Sampler)
    (h : (e.matchCode code).outcome = .ok findings) :
    (e.scan (.code code) sampler).2 = (sampler.score (basicLevel findings)).2 := by
  simp only [scan_code, sampler_scanCode, beginCode, h]

/-- The score in a report on code is the one that the sampler gives for the basic level. -/
theorem securityScore_eq {code : Text} {sampler : Sampler} {r : CodeReport}
    (h : (e.scanCode code sampler).1.outcome = .ok r) :
    r.securityScore = (sampler.score (basicLevel (e.vulnerabilitiesOf code))).1 := by
  obtain ⟨-, -, contentHash, -, -, performance, -, rfl⟩ := (e.scanCode_eq_ok_iff code sampler).mp h
  rfl

/-- Code with a surrogate has no digest, and the scan moves the sampler before it finds out. -/
theorem scan_of_surrogate (s : Settings) (scorer : Scorer) (usesSecondary : Option Bool)
    (clock : Timestamp) (sampler : Sampler) {code : Text}
    (hsize : ¬ s.scanMaxContentBytes < (Text.encode code).length)
    (hsurrogate : ∃ c ∈ code, Text.isSurrogate c) :
    let e := ofSettings s Catalog.default scorer usesSecondary clock
    (e.scan (.code code) sampler).1.outcome = .error .unhashable ∧
      (e.scan (.code code) sampler).2 =
        (sampler.score (basicLevel (e.vulnerabilitiesOf code))).2 := by
  intro e
  obtain ⟨-, hunhashable, -⟩ := ends_scanCode s scorer usesSecondary clock code sampler
    Catalog.noNegativeWeight_default
  have hcode : (e.scanCode code sampler).1.outcome = .error .unhashable :=
    hunhashable.mpr ⟨hsize, hsurrogate⟩
  have hmatch : (e.matchCode code).outcome = .ok (e.vulnerabilitiesOf code) := by
    rw [outcome_matchCode, checkSize_eq_ok_iff.mpr hsize]
    exact Matching.complete_ofLines (Catalog.noNegativeWeight_default .vulnerabilities)
  refine ⟨?_, e.sampler_scan_code sampler hmatch⟩
  rw [scan_code, Traced.outcome_map, hcode]
  rfl

/-- Nothing but the check of its size calls code too large. -/
theorem checkSize_ne_ok_of_tooLarge {code label : Text} {size : ℕ} {limit : ℤ} {sampler : Sampler}
    (h : (e.scanCode code sampler).1.outcome = .error (.tooLarge label size limit)) :
    e.checkSize "code" code ≠ .ok () := by
  intro hsize
  have hcomplete (m : Matching) : m.complete ≠ .error (.tooLarge label size limit) := by
    rw [Matching.complete]
    split <;> simp
  have hdigest : e.digest code ≠ .error (.tooLarge label size limit) := by
    rw [digest, Digest.ofText]
    split <;> simp
  have hscore (score : Binary64) :
      Indication.wholeScore score ≠ .error (.tooLarge label size limit) := by
    rw [Indication.wholeScore]
    split <;> simp
  have hperformance : Indication.performance code e.catalog.performance ≠
      .error (.tooLarge label size limit) := by
    refine Except.bind_ne_error (hscore _) ?_
    intro score
    split <;> simp
  rw [scanCode_outcome, hsize] at h
  revert h
  refine Except.bind_ne_error (by simp) fun _ => ?_
  refine Except.bind_ne_error (hcomplete _) fun _ => ?_
  refine Except.bind_ne_error hdigest fun _ => ?_
  refine Except.bind_ne_error (hcomplete _) fun _ => ?_
  exact Except.bind_ne_error hperformance fun _ => by simp

/-- **A scan that is too large leaves the sampler alone.** -/
theorem sampler_scan_of_tooLarge {job : ScanJob} {label : Text} {size : ℕ} {limit : ℤ}
    {sampler : Sampler}
    (h : (e.scan job sampler).1.outcome = .error (.tooLarge label size limit)) :
    (e.scan job sampler).2 = sampler := by
  cases job with
  | file file => exact e.sampler_scan_file file sampler
  | code code =>
    rw [scan_code, Traced.outcome_map] at h
    have hcode : (e.scanCode code sampler).1.outcome = .error (.tooLarge label size limit) := by
      cases hcause : (e.scanCode code sampler).1.outcome <;> rw [hcause] at h <;> cases h
      rfl
    have hmatch : ∀ m, (e.matchCode code).outcome ≠ .ok m := by
      intro m hm
      rw [outcome_matchCode, Except.bind_eq_ok_iff] at hm
      obtain ⟨_, hsize, -⟩ := hm
      exact e.checkSize_ne_ok_of_tooLarge hcode hsize
    rw [scan_code, sampler_scanCode, beginCode]
    split
    case h_1 => rfl
    case h_2 m hm => exact absurd hm (hmatch m)

/-! ## 3. Sessions -/

/-- The sampler after some scans. -/
def samplerAfter : List ScanJob → Sampler → Sampler
  | [], sampler => sampler
  | job :: jobs, sampler => samplerAfter jobs (e.scan job sampler).2

@[simp] theorem length_session (jobs : List ScanJob) (sampler : Sampler) :
    (e.session jobs sampler).length = jobs.length := by
  induction jobs generalizing sampler with
  | nil => rfl
  | cons job jobs ih => exact congrArg (· + 1) (ih _)

theorem session_append (jobs jobs' : List ScanJob) (sampler : Sampler) :
    e.session (jobs ++ jobs') sampler =
      e.session jobs sampler ++ e.session jobs' (e.samplerAfter jobs sampler) := by
  induction jobs generalizing sampler with
  | nil => rfl
  | cons job jobs ih => exact congrArg (_ :: ·) (ih _)

/-- A result in a session is that of a scan with the sampler that the scans before it leave. -/
theorem exists_of_getElem?_session {jobs : List ScanJob} {sampler : Sampler} {i : ℕ}
    {result : Traced ScanReport} (h : (e.session jobs sampler)[i]? = some result) :
    ∃ before job after, jobs = before ++ job :: after ∧ i = before.length ∧
      result = (e.scan job (e.samplerAfter before sampler)).1 := by
  induction jobs generalizing sampler i with
  | nil => cases h
  | cons job jobs ih =>
    cases i with
    | zero => exact ⟨[], job, jobs, rfl, rfl, (Option.some.inj h).symm⟩
    | succ i =>
      obtain ⟨before, job', after, rfl, rfl, rfl⟩ := ih h
      exact ⟨job :: before, job', after, rfl, rfl, rfl⟩

/-- But for the scores of code, a session does not depend on the sampler. -/
theorem unscored_session (jobs : List ScanJob) (sampler sampler' : Sampler) :
    (e.session jobs sampler).map (·.outcome.map ScanReport.unscored) =
      (e.session jobs sampler').map (·.outcome.map ScanReport.unscored) := by
  induction jobs generalizing sampler sampler' with
  | nil => rfl
  | cons job jobs ih => exact congrArg₂ List.cons (e.unscored_scan job sampler sampler') (ih _ _)

theorem samplerAfter_fixed (jobs : List ScanJob) (value : ℤ) :
    e.samplerAfter jobs (.fixed value) = .fixed value := by
  induction jobs with
  | nil => rfl
  | cons job jobs ih => rw [samplerAfter, sampler_scan_fixed, ih]

/-- What is left of a session when one of its scans is left out of the results. -/
theorem eraseIdx_session (before : List ScanJob) (job : ScanJob) (after : List ScanJob)
    (sampler : Sampler) :
    (e.session (before ++ job :: after) sampler).eraseIdx before.length =
      e.session before sampler ++
        e.session after (e.scan job (e.samplerAfter before sampler)).2 := by
  rw [session_append, List.eraseIdx_append_of_length_le (e.length_session before sampler).le,
    length_session, Nat.sub_self]
  rfl

/-- Of two codes that are scanned one after the other, the first one cannot be digested.  The second
one gets the second score of the sampler; without the scan that failed it gets the first score. -/
theorem session_surrogate (s : Settings) (scorer : Scorer) (usesSecondary : Option Bool)
    (clock : Timestamp) (sampler : Sampler) (bad good : Text)
    (hbad : ¬ s.scanMaxContentBytes < (Text.encode bad).length ∧ ∃ c ∈ bad, Text.isSurrogate c)
    (hgood : ¬ s.scanMaxContentBytes < (Text.encode good).length ∧
      ¬ ∃ c ∈ good, Text.isSurrogate c) :
    let e := ofSettings s Catalog.default scorer usesSecondary clock
    let next := (sampler.score (basicLevel (e.vulnerabilitiesOf bad))).2
    ∃ r r', (e.session [.code bad, .code good] sampler).map (·.outcome) =
        [.error .unhashable, .ok (.code r)] ∧
      (e.session [.code good] sampler).map (·.outcome) = [.ok (.code r')] ∧
      r.securityScore = (next.score (basicLevel (e.vulnerabilitiesOf good))).1 ∧
      r'.securityScore = (sampler.score (basicLevel (e.vulnerabilitiesOf good))).1 := by
  intro e next
  obtain ⟨hfail, hmoved⟩ : (e.scan (.code bad) sampler).1.outcome = .error .unhashable ∧
      (e.scan (.code bad) sampler).2 = next :=
    scan_of_surrogate s scorer usesSecondary clock sampler hbad.1 hbad.2
  have hscan (sampler : Sampler) : ∃ r, (e.scan (.code good) sampler).1.outcome = .ok (.code r) ∧
      r.securityScore = (sampler.score (basicLevel (e.vulnerabilitiesOf good))).1 := by
    obtain ⟨r, hr, -⟩ :=
      exists_scanCode_eq_ok s scorer usesSecondary clock good sampler hgood.1 hgood.2
    refine ⟨r, ?_, securityScore_eq _ hr⟩
    rw [scan_code, Traced.outcome_map, hr]
    rfl
  obtain ⟨r, hr, hscore⟩ := hscan next
  obtain ⟨r', hr', hscore'⟩ := hscan sampler
  refine ⟨r, r', ?_, ?_, hscore, hscore'⟩
  · simp only [session, List.map_cons, List.map_nil, hfail, hmoved, hr]
  · simp only [session, List.map_cons, List.map_nil, hr']

/-- **A failed scan can be dropped, but for the scores behind it.**  The results before it stay as
they are, and so do all others but for the scores of code.  The scores stay as well if the sampler
is fixed, if the scan was one of a file, or if it failed because it was too large. -/
theorem session_eraseIdx (jobs : List ScanJob) (sampler : Sampler) (i : ℕ) (cause : Failure)
    (hfail : (e.session jobs sampler)[i]?.map (·.outcome) = some (.error cause)) :
    let kept := (e.session jobs sampler).eraseIdx i
    let others := e.session (jobs.eraseIdx i) sampler
    (∀ j < i, kept[j]? = others[j]?) ∧
      ((∃ value, sampler = .fixed value) ∨ (∃ file, jobs[i]? = some (.file file)) ∨
          (∃ label size limit, cause = .tooLarge label size limit) →
        kept = others) ∧
      kept.map (·.outcome.map ScanReport.unscored) =
        others.map (·.outcome.map ScanReport.unscored) := by
  intro kept others
  obtain ⟨result, hresult, hscan⟩ := Option.map_eq_some_iff.mp hfail
  obtain ⟨before, job, after, rfl, rfl, rfl⟩ := e.exists_of_getElem?_session hresult
  have hkept : kept = _ := e.eraseIdx_session before job after sampler
  have hothers : others =
      e.session before sampler ++ e.session after (e.samplerAfter before sampler) := by
    have herase : (before ++ job :: after).eraseIdx before.length = before ++ after := by
      rw [List.eraseIdx_append_of_length_le le_rfl, Nat.sub_self]
      rfl
    rw [← session_append, ← herase]
  -- Behind the failed scan, the two sessions go on with the same jobs, but maybe not with the same
  -- sampler.
  rw [hkept, hothers]
  refine ⟨?_, ?_, ?_⟩
  · intro j hj
    have hj : j < (e.session before sampler).length := by rwa [length_session]
    rw [List.getElem?_append_left hj, List.getElem?_append_left hj]
  · intro hcause
    have hsampler : (e.scan job (e.samplerAfter before sampler)).2 =
        e.samplerAfter before sampler := by
      rcases hcause with ⟨value, rfl⟩ | ⟨file, hfile⟩ | ⟨label, size, limit, rfl⟩
      · rw [samplerAfter_fixed, sampler_scan_fixed]
      · obtain rfl : job = .file file := by simpa using hfile
        exact e.sampler_scan_file file _
      · exact e.sampler_scan_of_tooLarge hscan
    rw [hsampler]
  · rw [List.map_append, List.map_append,
      e.unscored_session after _ (e.samplerAfter before sampler)]

/-- What is left when a lone surrogate is dropped in front of harmless code. -/
theorem session_eraseIdx_of_surrogate :
    ((ofSettings {} Catalog.default (fun _ => .late) none default).session
        [.code [0xD800], .code "x = 1"] (.ofSeed 7))[0]?.map (·.outcome) =
      some (.error .unhashable) ∧
    (((ofSettings {} Catalog.default (fun _ => .late) none default).session
        [.code [0xD800], .code "x = 1"] (.ofSeed 7)).eraseIdx 0).map
        (·.outcome.map ScanReport.unscored) =
      ((ofSettings {} Catalog.default (fun _ => .late) none default).session
        ([ScanJob.code [0xD800], .code "x = 1"].eraseIdx 0) (.ofSeed 7)).map
        (·.outcome.map ScanReport.unscored) := by
  obtain ⟨r, -, hboth, -, -, -⟩ := session_surrogate {} (fun _ => .late) none default (.ofSeed 7)
    [0xD800] "x = 1" (by decide +kernel) (by decide +kernel)
  have hfail : ((ofSettings {} Catalog.default (fun _ => .late) none default).session
      [.code [0xD800], .code "x = 1"] (.ofSeed 7))[0]?.map (·.outcome) =
      some (.error .unhashable) := by
    rw [← List.getElem?_map, hboth]
    rfl
  exact ⟨hfail, (session_eraseIdx _ _ _ 0 .unhashable hfail).2.2⟩

/-- The first two scores of this generator are 97 and 80, so a lone surrogate in front of harmless
code takes 17 points from it. -/
theorem session_eraseIdx_ne :
    ((ofSettings {} Catalog.default (fun _ => .late) (some false) default).session
        [.code [0xD800], .code "x = 1"]
        (.random ⟨(Array.replicate 624 0).setIfInBounds 0 0x80000000, 0⟩))[0]?.map (·.outcome) =
      some (.error .unhashable) ∧
    (((ofSettings {} Catalog.default (fun _ => .late) (some false) default).session
        [.code [0xD800], .code "x = 1"]
        (.random ⟨(Array.replicate 624 0).setIfInBounds 0 0x80000000, 0⟩)).eraseIdx 0).map
        (·.outcome) ≠
      ((ofSettings {} Catalog.default (fun _ => .late) (some false) default).session
        [.code "x = 1"] (.random ⟨(Array.replicate 624 0).setIfInBounds 0 0x80000000, 0⟩)).map
        (·.outcome) := by
  have hlevel (code : Text) (h : code = [0xD800] ∨ code = "x = 1") :
      basicLevel (Matching.ofLines code Catalog.default.vulnerabilities) = .high := by
    rw [Matching.ofLines, Matching.inLines_eq_scanLines]
    rcases h with rfl | rfl <;> decide +kernel
  obtain ⟨r, r', hboth, halone, hscore, hscore'⟩ := session_surrogate {} (fun _ => .late)
    (some false) default (.random ⟨(Array.replicate 624 0).setIfInBounds 0 0x80000000, 0⟩)
    [0xD800] "x = 1" (by decide +kernel) (by decide +kernel)
  simp only [vulnerabilitiesOf, ofSettings, hlevel _ (.inl rfl), hlevel _ (.inr rfl)]
    at hscore hscore'
  rw [← List.getElem?_map, ← List.eraseIdx_map, hboth, halone]
  refine ⟨rfl, ?_⟩
  intro heq
  obtain rfl := ScanReport.code.inj (Except.ok.inj (List.cons.inj heq).1)
  exact absurd (hscore.symm.trans hscore') (by decide +kernel)

end Engine
end ThreatScan
