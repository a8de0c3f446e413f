/-
# The routes of the same bytes

Bytes reach a scan by themselves, from a file, or through the standard input.  The routes check the
size at different places and in a different order with the decoding, and one of them knows the
number of bytes while another one counts them again.  It makes no difference to the report
(`routes_agree`): what is decoded encodes to the same bytes, so both sizes are the same, and a call
that fails by one route fails by the others, with a failure of the same kind.  The only exception
are bytes with two flaws, too many and ill formed, of which each route finds the one that it looks
for first.
-/
import ThreatScan.Command.Run
import ThreatScan.Proofs.Engine.Code
import ThreatScan.Proofs.Engine.Session
import ThreatScan.Proofs.Text.Decoding

namespace ThreatScan

/-! ## 1. Agreement -/

/-- What a caller can tell of a failure without reading its message. -/
inductive Failure.Kind where
  | configuration
  | tooLarge
  | unhashable
  | unreadable
  | refusedPath (cause : FileError)
  | unreadableSettings
  | invalid
  | breakdown
  | outOfDomain
  | mismatch
  | unknownName
  | overflow
  | unserializable
  | cancelled
  | unending
deriving DecidableEq, Repr

/-- The kind of a failure.  Bytes that are no text are as unreadable as a file that is not there. -/
def Failure.kind : Failure → Failure.Kind
  | .negativeShare _ | .shareSum _ => .configuration
  | .tooLarge _ _ _ => .tooLarge
  | .unhashable => .unhashable
  | .undecodable _ _ | .unreadable _ _ => .unreadable
  | .refusedPath _ cause => .refusedPath cause
  | .unreadableSettings => .unreadableSettings
  | .refusedWeight _ | .invalid _ => .invalid
  | .breakdown _ => .breakdown
  | .outOfDomain => .outOfDomain
  | .mismatch => .mismatch
  | .unknownName => .unknownName
  | .overflow => .overflow
  | .unserializable => .unserializable
  | .cancelled => .cancelled
  | .unending => .unending

/-- Two outcomes agree: both are the same result, or both are failures, of the same kind unless
there is an excuse. -/
def Agree {α : Type} (excuse : Prop) (x y : Except Failure α) : Prop :=
  (∃ a, x = .ok a ∧ y = .ok a) ∨
    ∃ f g, x = .error f ∧ y = .error g ∧ (f.kind = g.kind ∨ excuse)

namespace Agree

variable {α β : Type} {excuse : Prop}

theorem refl (x : Except Failure α) : Agree excuse x x := by
  cases x with
  | ok a => exact .inl ⟨a, rfl, rfl⟩
  | error f => exact .inr ⟨f, f, rfl, rfl, .inl rfl⟩

theorem of_error {f g : Failure} (h : f.kind = g.kind ∨ excuse) :
    Agree excuse (.error f : Except Failure α) (.error g) :=
  .inr ⟨f, g, rfl, rfl, h⟩

theorem map (f : α → β) {x y : Except Failure α} (h : Agree excuse x y) :
    Agree excuse (x.map f) (y.map f) := by
  rcases h with ⟨a, rfl, rfl⟩ | ⟨f, g, rfl, rfl, hkind⟩
  · exact refl _
  · exact of_error hkind

end Agree

/-! ## 2. The two orders of the checks -/

/-- Bytes are decoded, or they are ill formed. -/
theorem decodeContent_cases (bytes : List Nat) :
    (Text.WellFormed bytes ∧ ∃ content, Text.encode content = bytes ∧
      ∀ source, decodeContent source bytes = .ok content) ∨
    (¬ Text.WellFormed bytes ∧ ∃ offset, ∀ source,
      decodeContent source bytes = .error (.undecodable source offset)) := by
  rw [← Text.exists_decode_iff]
  cases h : Text.decode bytes with
  | ok content =>
    refine .inl ⟨⟨content, rfl⟩, content, (Text.decode_eq_ok_iff.mp h).2, fun source => ?_⟩
    rw [decodeContent, h]
  | error offset =>
    refine .inr ⟨by simp, offset, fun source => ?_⟩
    rw [decodeContent, h]

/-- A route that checks the size before it decodes agrees with one that decodes and leaves the
check to the scan. -/
theorem agree_sizeFirst {α : Type} {limit : Int} {early : Failure} (hearly : early.kind = .tooLarge)
    {scan : Text → Except Failure α}
    (hscan : ∀ content, limit < (Text.encode content).length →
      ∃ label size, scan content = .error (.tooLarge label size limit))
    (bytes : List Nat) (source source' : Text) :
    Agree (limit < bytes.length ∧ ¬ Text.WellFormed bytes)
      (if limit < bytes.length then .error early else (decodeContent source bytes).bind scan)
      ((decodeContent source' bytes).bind scan) := by
  rcases decodeContent_cases bytes with ⟨-, content, rfl, hok⟩ | ⟨hill, offset, herror⟩
  · rw [hok, hok]
    split
    case isTrue hlarge =>
      obtain ⟨label, size, hrefused⟩ := hscan content hlarge
      show Agree _ _ (scan content)
      rw [hrefused]
      exact .of_error (.inl hearly)
    case isFalse => exact .refl _
  · rw [herror, herror]
    split
    case isTrue hlarge => exact .of_error (.inr ⟨hlarge, hill⟩)
    case isFalse => exact .of_error (.inl rfl)

/-- A file that is to be read has the size that is told of it. -/
theorem Workspace.size_of_read {w : Workspace} {path : FilePath} {bytes : List Nat}
    (h : w.read path = .ok bytes) : w.size path = .ok bytes.length := by
  unfold Workspace.read at h
  unfold Workspace.size
  cases hplace : w.locate path with
  | error cause =>
    rw [hplace] at h
    cases h
  | ok place =>
    rw [hplace] at h
    cases place with
    | directory steps => cases h
    | file steps =>
      obtain rfl := Except.ok.inj h
      rfl

/-! ## 3. Two sizes of one file -/

namespace Engine

variable (e : Engine)

/-- What a draft of a file with a counted size becomes. -/
theorem finishFile_sized (name content : Text) (mimeType : Option Text) (findings : List Finding)
    (threatCount warningCount : Int) (metrics : AdvancedMetrics) :
    e.finishFile ⟨⟨name, content, some (Text.encodedLength content), mimeType⟩, findings,
        threatCount, warningCount, metrics⟩ =
      e.finishFile ⟨⟨name, content, none, mimeType⟩, findings, threatCount, warningCount,
        metrics⟩ := by
  have hreport : ∀ contentHash assessment,
      (fileFacts ⟨⟨name, content, some (Text.encodedLength content), mimeType⟩, findings,
          threatCount, warningCount, metrics⟩ contentHash assessment).report e.clock =
        (fileFacts ⟨⟨name, content, none, mimeType⟩, findings, threatCount, warningCount,
          metrics⟩ contentHash assessment).report e.clock := by
    intro contentHash assessment
    unfold FileFacts.report
    rfl
  simp only [finishFile, hreport]
  rfl

/-- A size that was counted makes no difference. -/
theorem scanFile_sized (name content : Text) (mimeType : Option Text) :
    e.scanFile ⟨name, content, some (Text.encodedLength content), mimeType⟩ =
      e.scanFile ⟨name, content, none, mimeType⟩ := by
  simp only [scanFile, beginFile, bind_assoc, pure_bind, finishFile_sized]

end Engine

/-! ## 4. The routes -/

namespace Service

variable {w : Workspace} {s : Settings} {bytes : List Nat}

theorem ofBytes_eq (name : Text) (bytes : List Nat) (mimeType : Option Text) :
    FileInput.ofBytes name bytes mimeType =
      (decodeContent name bytes).bind fun content =>
        .ok ⟨name, content, some bytes.length, mimeType⟩ := by
  unfold FileInput.ofBytes
  cases decodeContent name bytes <;> rfl

theorem ofBytes_eq_ok_iff {name : Text} {mimeType : Option Text} {file : FileInput} :
    FileInput.ofBytes name bytes mimeType = .ok file ↔
      ∃ content, Text.decode bytes = .ok content ∧
        file = ⟨name, content, some bytes.length, mimeType⟩ := by
  rw [ofBytes_eq, decodeContent]
  cases Text.decode bytes <;> simp [Except.bind, eq_comm]

theorem fileAt_eq {path : FilePath} (hread : w.read path = .ok bytes) (mimeType : Option Text) :
    fileAt s w path mimeType =
      if s.scanMaxContentBytes < bytes.length then
        .error (.tooLarge path.text bytes.length s.scanMaxContentBytes)
      else FileInput.ofBytes path.name bytes mimeType := by
  simp only [fileAt, bytesAt, Workspace.size_of_read hread, hread]
  show (if s.scanMaxContentBytes < bytes.length then _ else _) >>= _ = _
  split <;> rfl

/-- A file of bytes with its number of bytes is the one of its text without. -/
theorem scanBytes_eq (w : Workspace) (o : ScanOptions) {name content : Text}
    {mimeType : Option Text} (h : Text.decode bytes = .ok content) :
    scanBytes w o name bytes mimeType = scanFile w o ⟨name, content, none, mimeType⟩ := by
  obtain rfl := (Text.decode_eq_ok_iff.mp h).2
  have hfile : FileInput.ofBytes name (Text.encode content) mimeType =
      .ok ⟨name, content, some (Text.encodedLength content), mimeType⟩ := by
    rw [Text.encodedLength_eq]
    exact ofBytes_eq_ok_iff.mpr ⟨content, h, rfl⟩
  show Traced.ofOutcome _ >>= _ = _
  rw [hfile]
  show scanFile w o _ = _
  simp only [scanFile, Engine.scanFile_sized]

theorem outcome_scanPath (hs : Settings.load [] w = .ok s) (o : ScanOptions) (path : FilePath)
    (mimeType : Option Text) :
    (scanPath w o path mimeType).outcome =
      (fileAt s w path mimeType).bind fun file => (scanFile w o file).outcome := by
  simp only [scanPath, hs, Traced.outcome_bind]
  rfl

theorem outcome_scanBytes (w : Workspace) (o : ScanOptions) (name : Text) (bytes : List Nat)
    (mimeType : Option Text) :
    (scanBytes w o name bytes mimeType).outcome =
      (decodeContent name bytes).bind fun content =>
        (scanFile w o ⟨name, content, some bytes.length, mimeType⟩).outcome := by
  simp only [scanBytes, Traced.outcome_bind, ofBytes_eq]
  cases decodeContent name bytes <;> rfl

theorem outcome_scanFile (hs : Settings.load [] w = .ok s) (o : ScanOptions) (file : FileInput) :
    (scanFile w o file).outcome = ((engine s o).scanFile file).outcome := by
  simp only [scanFile, hs, Traced.outcome_bind]
  rfl

theorem outcome_scanFile_of_tooLarge (hs : Settings.load [] w = .ok s) (o : ScanOptions)
    {file : FileInput} (hlarge : s.scanMaxContentBytes < (Text.encode file.content).length) :
    (scanFile w o file).outcome =
      .error (.tooLarge file.name (Text.encode file.content).length s.scanMaxContentBytes) := by
  rw [outcome_scanFile hs]
  exact (engine s o).outcome_scanFile_of_tooLarge hlarge

theorem outcome_scanCode_of_tooLarge (hs : Settings.load [] w = .ok s) (o : ScanOptions)
    (seed : Option Int) {code : Text} (hlarge : s.scanMaxContentBytes < (Text.encode code).length) :
    (scanCode w o code seed).outcome =
      .error (.tooLarge "code" (Text.encode code).length s.scanMaxContentBytes) := by
  simp only [scanCode, hs, Traced.outcome_bind]
  exact (engine s o).outcome_scanCode_of_tooLarge _ hlarge

/-- The file at a path is scanned as its bytes are. -/
theorem agree_scanPath (hs : Settings.load [] w = .ok s) (o : ScanOptions) {path : FilePath}
    (hread : w.read path = .ok bytes) (mimeType : Option Text) :
    Agree (s.scanMaxContentBytes < bytes.length ∧ ¬ Text.WellFormed bytes)
      (scanPath w o path mimeType).outcome (scanBytes w o path.name bytes mimeType).outcome := by
  have hpath : (scanPath w o path mimeType).outcome =
      if s.scanMaxContentBytes < bytes.length then
        .error (.tooLarge path.text bytes.length s.scanMaxContentBytes)
      else (decodeContent path.name bytes).bind fun content =>
        (scanFile w o ⟨path.name, content, some bytes.length, mimeType⟩).outcome := by
    rw [outcome_scanPath hs, fileAt_eq hread, ofBytes_eq]
    split
    · rfl
    · cases decodeContent path.name bytes <;> rfl
  rw [hpath, outcome_scanBytes]
  exact agree_sizeFirst rfl (fun _ hlarge => ⟨_, _, outcome_scanFile_of_tooLarge hs o hlarge⟩)
    bytes path.name path.name

/-- The code at a path is scanned as the one of its bytes is. -/
theorem agree_scanCode (hs : Settings.load [] w = .ok s) (o : ScanOptions) (seed : Option Int)
    {path : FilePath} (hread : w.read path = .ok bytes) (mimeType : Option Text) (source : Text) :
    Agree (s.scanMaxContentBytes < bytes.length ∧ ¬ Text.WellFormed bytes)
      ((fileAt s w path mimeType).bind fun file => (scanCode w o file.content seed).outcome)
      ((decodeContent source bytes).bind fun code => (scanCode w o code seed).outcome) := by
  have hpath : ((fileAt s w path mimeType).bind fun file =>
      (scanCode w o file.content seed).outcome) =
      if s.scanMaxContentBytes < bytes.length then
        .error (.tooLarge path.text bytes.length s.scanMaxContentBytes)
      else (decodeContent path.name bytes).bind fun code => (scanCode w o code seed).outcome := by
    rw [fileAt_eq hread, ofBytes_eq]
    split
    · rfl
    · cases decodeContent path.name bytes <;> rfl
  rw [hpath]
  exact agree_sizeFirst rfl
    (fun _ hlarge => ⟨_, _, outcome_scanCode_of_tooLarge hs o seed hlarge⟩) bytes path.name source

end Service

namespace Command

variable {a : Surroundings} {s : Settings}

theorem outcome_scanSource (o : Options) (source : Text) (seed : Option Int) :
    (scanSource a o source seed s).outcome =
      ((codeOf a s source).bind fun code =>
        (Service.scanCode a.workspace (scanOptions a o) code seed).outcome).map .code := by
  simp only [scanSource, Traced.outcome_bind, Traced.outcome_map]
  cases codeOf a s source <;> rfl

/-- The command line scans code from a path as it scans code from the standard input. -/
theorem agree_scanSource (hs : Settings.load [] a.workspace = .ok s) (o : Options)
    (seed : Option Int) {source : Text} (hsource : source ≠ "-")
    (hread : a.workspace.read (.ofText source) = .ok a.stdin) :
    Agree (s.scanMaxContentBytes < a.stdin.length ∧ ¬ Text.WellFormed a.stdin)
      (scanSource a o source seed s).outcome (scanSource a o "-" seed s).outcome := by
  have hpath : codeOf a s source =
      (Service.fileAt s a.workspace (.ofText source) none).map (·.content) := if_neg hsource
  have hstdin : codeOf a s "-" = decodeContent "<stdin>" a.stdin := if_pos rfl
  rw [outcome_scanSource, outcome_scanSource, hpath, hstdin]
  refine .map _ ?_
  have hagree := Service.agree_scanCode hs (scanOptions a o) seed hread none "<stdin>"
  cases hfile : Service.fileAt s a.workspace (.ofText source) none with
  | error f => rwa [hfile] at hagree
  | ok file => rwa [hfile] at hagree

end Command

/-! ## 5. All of them -/

/-- **Every route of the same bytes gives the same report.**  Exactly the well-formed bytes become a
file, whose size is the number of bytes, whether it was counted before or after the decoding.  The
bytes by themselves, at a path, and as code from a path or from elsewhere are scanned with the same
result, or fail alike. -/
theorem Service.routes_agree {w : Workspace} {s : Settings} (hs : Settings.load [] w = .ok s)
    (o : ScanOptions) (bytes : List Nat) (name : Text) (mimeType : Option Text)
    (seed : Option Int) :
    ((∃ file, FileInput.ofBytes name bytes mimeType = .ok file) ↔ Text.WellFormed bytes) ∧
    (∀ file, FileInput.ofBytes name bytes mimeType = .ok file →
      file.size = some (bytes.length : Int) ∧ Text.encodedLength file.content = bytes.length ∧
        Text.encode file.content = bytes ∧
        scanBytes w o name bytes mimeType = scanFile w o ⟨name, file.content, none, mimeType⟩) ∧
    (∀ path, w.read path = .ok bytes → path.name = name →
      Agree (s.scanMaxContentBytes < bytes.length ∧ ¬ Text.WellFormed bytes)
        (scanPath w o path mimeType).outcome (scanBytes w o name bytes mimeType).outcome) ∧
    (∀ path, w.read path = .ok bytes → ∀ source,
      (∀ file, fileAt s w path mimeType = .ok file →
        decodeContent source bytes = .ok file.content) ∧
      Agree (s.scanMaxContentBytes < bytes.length ∧ ¬ Text.WellFormed bytes)
        ((fileAt s w path mimeType).bind fun file => (scanCode w o file.content seed).outcome)
        ((decodeContent source bytes).bind fun code => (scanCode w o code seed).outcome)) ∧
    ∀ a : Command.Surroundings, a.workspace = w → a.stdin = bytes → ∀ options (source : Text),
      source ≠ "-" → w.read (.ofText source) = .ok bytes →
        Agree (s.scanMaxContentBytes < bytes.length ∧ ¬ Text.WellFormed bytes)
          (Command.scanSource a options source seed s).outcome
          (Command.scanSource a options "-" seed s).outcome := by
  refine ⟨?_, ?_, ?_, ?_, ?_⟩
  · rw [← Text.exists_decode_iff]
    simp only [ofBytes_eq_ok_iff]
    exact ⟨fun ⟨_, content, h, _⟩ => ⟨content, h⟩, fun ⟨content, h⟩ => ⟨_, content, h, rfl⟩⟩
  · intro file hfile
    obtain ⟨content, hcontent, rfl⟩ := ofBytes_eq_ok_iff.mp hfile
    have hencode : Text.encode content = bytes := (Text.decode_eq_ok_iff.mp hcontent).2
    refine ⟨rfl, ?_, hencode, scanBytes_eq w o hcontent⟩
    rw [Text.encodedLength_eq, hencode]
  · rintro path hread rfl
    exact agree_scanPath hs o hread mimeType
  · intro path hread source
    refine ⟨fun file hfile => ?_, agree_scanCode hs o seed hread mimeType source⟩
    rw [fileAt_eq hread] at hfile
    split at hfile
    · cases hfile
    · obtain ⟨content, hcontent, rfl⟩ := ofBytes_eq_ok_iff.mp hfile
      rw [decodeContent, hcontent]
  · rintro a rfl rfl options source hsource hread
    exact Command.agree_scanSource hs options seed hsource hread

/-- A workspace with one file of two letters. -/
def Workspace.ofNote : Workspace := { files := [(["note.txt"], [104, 105])] }

/-- The file is scanned at its path as its bytes are. -/
theorem Service.routes_agree_of_note :
    ∃ r, (scanPath .ofNote { clock := default } (.ofText "note.txt") none).outcome = .ok r ∧
      (scanBytes .ofNote { clock := default } "note.txt" [104, 105] none).outcome = .ok r := by
  have hs : Settings.load [] .ofNote = .ok {} := by decide +kernel
  have hread : Workspace.ofNote.read (.ofText "note.txt") = .ok [104, 105] := by decide +kernel
  have hfile : FileInput.ofBytes "note.txt" [104, 105] none =
      .ok ⟨"note.txt", "hi", some 2, none⟩ := by
    decide +kernel
  obtain ⟨-, hbytes, hpath, -⟩ :=
    routes_agree hs { clock := default } [104, 105] "note.txt" none none
  obtain ⟨-, -, -, hscan⟩ := hbytes _ hfile
  have hengine : engine {} { clock := default } =
      .ofSettings {} Catalog.default Scorer.default (some true) default := rfl
  obtain ⟨r, hr, -⟩ := Engine.exists_scanFile_eq_ok {} Scorer.default (some true) default
    ⟨"note.txt", "hi", none, none⟩ Catalog.noNegativeWeight_default
    (Scorer.comesBack_default _ _) (Scorer.isSound_default _) (by decide +kernel)
    (by decide +kernel)
  rw [← hengine] at hr
  have hreport : (scanBytes .ofNote { clock := default } "note.txt" [104, 105] none).outcome =
      .ok r := by
    rw [hscan, outcome_scanFile hs, hr]
  refine ⟨r, ?_, hreport⟩
  rcases hpath (.ofText "note.txt") hread (by decide +kernel) with ⟨r', hr', h⟩ | ⟨_, _, -, h, -⟩
  · rw [hr', ← h, hreport]
  · rw [hreport] at h
    cases h

end ThreatScan
