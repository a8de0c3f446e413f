/-
# Occurrences without the table

A search looks up every code point in a table before it tries the pattern there, and it hands on
what it has found.  `scan` does neither and finds the same (`occurrencesFrom_eq`), so it is what
proofs and evaluations open.  A pattern occurs in a text exactly if it has an end from one of the
places of the text (`count_pos_iff`).
-/
import ThreatScan.Pattern.Occurrence
import ThreatScan.Proofs.Pattern.Ends

namespace ThreatScan
namespace Pattern

/-- The occurrences in the text that follows an offset, of which the first `skip` code points
belong to the last occurrence. -/
def scan (p : Pattern) : ℕ → Text → ℕ → List Occurrence
  | offset, [], skip => if skip = 0 then p.startingAt ⟨offset, []⟩ else []
  | offset, _ :: t, skip + 1 => p.scan (offset + 1) t skip
  | offset, x :: t, 0 =>
    match p.startingAt ⟨offset, x :: t⟩ with
    | [] => p.scan (offset + 1) t 0
    | o :: os => o :: os ++ p.scan (offset + 1) t ((os.getLast?.getD o).stop - offset - 1)

/-- **The table and the accumulator of a search change nothing.** -/
theorem occurrencesFrom_eq (s : Search) (offset : ℕ) (t : Text) (skip : ℕ)
    (found : List Occurrence) :
    s.occurrencesFrom offset t skip found = found.reverse ++ s.pattern.scan offset t skip := by
  induction t generalizing offset skip found with
  | nil =>
    rw [Search.occurrencesFrom, scan]
    split <;> simp
  | cons x t ih =>
    cases skip with
    | succ skip => exact ih (offset + 1) skip found
    | zero =>
      rw [Search.occurrencesFrom_cons, scan]
      cases s.pattern.startingAt ⟨offset, x :: t⟩ with
      | nil => exact ih (offset + 1) 0 found
      | cons o os => simp [ih]

theorem occurrences_eq_scan (p : Pattern) (t : Text) : p.occurrences t = p.scan 0 t 0 :=
  occurrencesFrom_eq p.search 0 t 0 []

theorem count_eq_length_scan (p : Pattern) (t : Text) : p.count t = (p.scan 0 t 0).length :=
  congrArg List.length (p.occurrences_eq_scan t)

theorem startingAt_eq_nil_iff {p : Pattern} {c : Cursor} : p.startingAt c = [] ↔ p.ends c = [] := by
  have hrun : p.run c some = none ↔ p.ends c = [] := by rw [run_some, List.head?_eq_none_iff]
  rw [← hrun, startingAt]
  split
  · simp_all
  · split
    · simp_all
    · split <;> simp_all

theorem scan_eq_nil_iff {p : Pattern} {offset : ℕ} {t : Text} :
    p.scan offset t 0 = [] ↔
      ∀ n ≤ t.length, p.ends ((⟨offset, t⟩ : Cursor).advance n) = [] := by
  induction t generalizing offset with
  | nil =>
    simp [scan, startingAt_eq_nil_iff]
  | cons x t ih =>
    have hplaces : (∀ n ≤ (x :: t).length, p.ends ((⟨offset, x :: t⟩ : Cursor).advance n) = []) ↔
        p.ends ⟨offset, x :: t⟩ = [] ∧
          ∀ n ≤ t.length, p.ends ((⟨offset + 1, t⟩ : Cursor).advance n) = [] := by
      constructor
      · intro h
        refine ⟨h 0 (Nat.zero_le _), ?_⟩
        intro n hn
        rw [← Cursor.advance_succ]
        exact h (n + 1) (Nat.succ_le_succ hn)
      · rintro ⟨hhere, hlater⟩ n hn
        cases n with
        | zero => exact hhere
        | succ n =>
          rw [Cursor.advance_succ]
          exact hlater n (Nat.le_of_succ_le_succ hn)
    rw [hplaces, ← startingAt_eq_nil_iff, scan]
    split
    case h_1 h => simp [h, ih]
    case h_2 h => simp [h]

theorem head?_startingAt (p : Pattern) (c : Cursor) :
    (p.startingAt c).head? = (p.ends c).head?.map fun d => ⟨c, d.offset⟩ := by
  rw [startingAt, run_some]
  cases (p.ends c).head? with
  | none => rfl
  | some d =>
    simp only [Option.map_some]
    split
    · rfl
    · split <;> rfl

/-- **The first occurrence starts at the first place where the pattern has an end**, and it is the
preferred one there. -/
theorem exists_of_scan_eq_cons {p : Pattern} {offset : ℕ} {t : Text} {o : Occurrence}
    {os : List Occurrence} (h : p.scan offset t 0 = o :: os) :
    ∃ n ≤ t.length, ∃ d ∈ (p.ends ((⟨offset, t⟩ : Cursor).advance n)).head?,
      o = ⟨(⟨offset, t⟩ : Cursor).advance n, d.offset⟩ ∧
        ∀ m < n, p.ends ((⟨offset, t⟩ : Cursor).advance m) = [] := by
  -- The occurrence starts here, and so no place comes before it.
  have hhere {t : Text} {offset : ℕ} (hhead : (p.startingAt ⟨offset, t⟩).head? = some o) :
      ∃ n ≤ t.length, ∃ d ∈ (p.ends ((⟨offset, t⟩ : Cursor).advance n)).head?,
        o = ⟨(⟨offset, t⟩ : Cursor).advance n, d.offset⟩ ∧
          ∀ m < n, p.ends ((⟨offset, t⟩ : Cursor).advance m) = [] := by
    rw [head?_startingAt] at hhead
    obtain ⟨d, hd, rfl⟩ := Option.map_eq_some_iff.mp hhead
    exact ⟨0, Nat.zero_le _, d, hd, rfl, by simp⟩
  induction t generalizing offset with
  | nil =>
    rw [scan, if_pos rfl] at h
    exact hhere (by rw [h]; rfl)
  | cons x t ih =>
    rw [scan] at h
    split at h
    case h_1 hnone =>
      obtain ⟨n, hn, d, hd, ho, hbefore⟩ := ih h
      refine ⟨n + 1, Nat.succ_le_succ hn, d, ?_, ?_, ?_⟩
      · rwa [Cursor.advance_succ]
      · rwa [Cursor.advance_succ]
      · intro m hm
        cases m with
        | zero => exact startingAt_eq_nil_iff.mp hnone
        | succ m =>
          rw [Cursor.advance_succ]
          exact hbefore m (Nat.lt_of_succ_lt_succ hm)
    case h_2 o' os' hsome =>
      obtain ⟨rfl, -⟩ := List.cons.inj h
      exact hhere (by rw [hsome]; rfl)

/-- **A pattern occurs in a text if it has an end from one of its places.** -/
theorem count_pos_iff {p : Pattern} {t : Text} :
    0 < p.count t ↔ ∃ n ≤ t.length, p.ends ((⟨0, t⟩ : Cursor).advance n) ≠ [] := by
  rw [count_eq_length_scan, List.length_pos_iff, ne_eq, scan_eq_nil_iff]
  push Not
  rfl

/-- A pattern is found in a text exactly if it occurs there. -/
theorem foundIn_iff {p : Pattern} {t : Text} : p.foundIn t = true ↔ 0 < p.count t := by
  have hfound (offset : ℕ) : p.search.foundFrom offset t = true ↔ p.scan offset t 0 ≠ [] := by
    induction t generalizing offset with
    | nil =>
      rw [Search.foundFrom, scan, if_pos rfl, ne_eq, startingAt_eq_nil_iff]
      show (p.run ⟨offset, []⟩ some).isSome ↔ _
      rw [run_some, List.isSome_head?]
    | cons x t ih =>
      rw [Search.foundFrom_cons, Bool.or_eq_true, ih, scan]
      show (p.run ⟨offset, x :: t⟩ some).isSome ∨ _ ↔ _
      rw [run_some]
      split
      case h_1 h => simp [startingAt_eq_nil_iff.mp h]
      case h_2 h =>
        have hends : p.ends ⟨offset, x :: t⟩ ≠ [] := by
          rw [ne_eq, ← startingAt_eq_nil_iff, h]
          simp
        simp [hends]
  rw [count_eq_length_scan, List.length_pos_iff]
  exact hfound 0

/-- A pattern is found in a text exactly if a scan finds something. -/
theorem foundIn_eq_scan (p : Pattern) (t : Text) :
    p.foundIn t = decide (0 < (p.scan 0 t 0).length) := by
  rw [Bool.eq_iff_iff, foundIn_iff, count_eq_length_scan, decide_eq_true_iff]

/-- A pattern occurs where one occurs that refines it. -/
theorem Refines.count_pos {p q : Pattern} (h : p.Refines q) {t : Text} (hp : 0 < p.count t) :
    0 < q.count t := by
  obtain ⟨n, hn, hends⟩ := count_pos_iff.mp hp
  obtain ⟨d, hd⟩ := List.exists_mem_of_ne_nil _ hends
  exact count_pos_iff.mpr ⟨n, hn, List.ne_nil_of_mem (h _ hd)⟩

end Pattern
end ThreatScan
