/-
# Sessions

Several scans on one engine.  In a session they run one after another and each one ends for
itself, or is given up if it never ends; together they all start first and wait afterwards, and the
first failure ends them all.
-/
import ThreatScan.Engine.Basic

namespace ThreatScan

/-- What a scan is asked for. -/
inductive ScanJob where
  | file (input : FileInput)
  | code (content : Text)
deriving DecidableEq, Repr

/-- A scan that waits for its digest and its assessment. -/
inductive ScanDraft where
  | file (draft : Engine.FileDraft)
  | code (draft : Engine.CodeDraft)

namespace Engine

/-! ## 1. One scan -/

/-- The first part of a scan. -/
def begin (e : Engine) (job : ScanJob) (sampler : Sampler) : Traced ScanDraft × Sampler :=
  match job with
  | .file input => (ScanDraft.file <$> e.beginFile input, sampler)
  | .code content =>
    let (draft, next) := e.beginCode content sampler
    (ScanDraft.code <$> draft, next)

/-- The second part of a scan. -/
def finish (e : Engine) : ScanDraft → Traced ScanReport
  | .file draft => ScanReport.file <$> e.finishFile draft
  | .code draft => ScanReport.code <$> e.finishCode draft

/-- A whole scan. -/
def scan (e : Engine) (job : ScanJob) (sampler : Sampler) : Traced ScanReport × Sampler :=
  let (draft, next) := e.begin job sampler
  (draft >>= e.finish, next)

/-! ## 2. One after another -/

/-- The results of scans that run one after another. -/
def session (e : Engine) : List ScanJob → Sampler → List (Traced ScanReport)
  | [], _ => []
  | job :: jobs, sampler =>
    let (result, next) := e.scan job sampler
    result :: e.session jobs next

/-! ## 3. Together -/

/-- The first parts of all scans in their order. -/
def beginAll (e : Engine) : List ScanJob → Sampler → List (Traced ScanDraft)
  | [], _ => []
  | job :: jobs, sampler =>
    let (draft, next) := e.begin job sampler
    draft :: e.beginAll jobs next

/-- The values of results that are waited for at once, or the first failure among them.  A pending
result only counts if there is no failure. -/
def gather {α : Type} (results : List (Except Failure α)) : Except Failure (List α) :=
  match (results.filter fun r => !isPending r).mapM id with
  | .error cause => .error cause
  | .ok _ => results.mapM id

/-- The results of scans that run together: the reports in the order of the jobs, or the failure
that comes first.  A scan that fails in its first part fails before any that fails later. -/
def together (e : Engine) (jobs : List ScanJob) (sampler : Sampler) : Traced (List ScanReport) :=
  let drafts := e.beginAll jobs sampler
  (⟨drafts.flatMap (·.events), drafts.mapM (·.outcome)⟩ : Traced (List ScanDraft)) >>= fun ds =>
    let results := ds.map e.finish
    ⟨results.flatMap (·.events), gather (results.map (·.outcome))⟩

end Engine
end ThreatScan
