/-
LintMend.Proofs.Fixing.Locality — the work on a file touches the tree at one spot.

Where nobody else changes the tree, all attempts at a file together leave the tree as it was or set
a file at the spot of its path. Paths apart from it read as they did, so it does not matter to them
whether that work came before.

  `Present`, `Present.step`         — a file that can be read, and what an attempt at it leaves
  `Present.row_touched`             — a row of attempts
  `FixedFile`, `FixedFile.touched`  — the work on a file, and what it leaves
  `fixFiles_returns`, `run_returns` — rows of files, and runs
-/
import LintMend.Proofs.Fixing.Content
import LintMend.Proofs.SourceFiles.Separation

namespace LintMend

variable {σ : Type}

namespace Fixer

variable {f : Fixer σ} {w w' : World σ} {s s' : Session} {d : Diagnostic}

/-! ## 1. Attempts -/

/-- Nobody interferes, and the session's path can be read. -/
structure Present (f : Fixer σ) (w : World σ) (s : Session) : Prop where
  alone : f.Alone w
  there : ∃ text, f.files.read w.tree s.path = .ok text

theorem Present.isThere (h : f.Present w s) : f.files.isThere w.tree s.path = .ok true := by
  obtain ⟨text, htext⟩ := h.there
  exact SourceFiles.isThere_of_read htext

/-- A write touches the tree at the spot of its path, and the path can be read afterwards. -/
theorem Present.wrote (h : f.Present w s) {content : Text} {result : Except Failure Unit}
    (hwrote : Wrote f w s.path content w' result) :
    f.Present w' s ∧ f.files.Touched w.tree s.path w'.tree := by
  obtain ⟨text, htext⟩ := h.there
  have halone := h.alone.wrote hwrote
  cases hwrote with
  | spoiled => exact ⟨⟨halone, text, htext⟩, .same⟩
  | failed _ hwrite hlogs =>
    rw [World.othersAct_of_alone h.alone.others] at hwrite
    have htree := hlogs.tree.trans (SourceFiles.write_error hwrite)
    rw [htree]
    exact ⟨⟨halone, text, htree ▸ htext⟩, .same⟩
  | made _ hwrite hlogs =>
    rw [World.othersAct_of_alone h.alone.others] at hwrite
    have hend := SourceFiles.writeEnd_of_read htext content
    rw [hwrite] at hend
    refine ⟨⟨halone, content, ?_⟩, hlogs.tree ▸ hend.touched⟩
    rw [hlogs.tree]
    exact SourceFiles.read_of_write htext hwrite

/-- An attempt touches the tree at the spot of its path, and the path can be read afterwards. -/
theorem Present.step (h : f.Present w s) {r : World σ × Session × Outcome}
    (hr : Attempted f w s d r) :
    f.Present r.1 r.2.1 ∧ f.files.Touched w.tree s.path r.1.tree := by
  have hact := World.othersAct_of_alone h.alone.others
  have hpath := hr.recorded.path
  -- the session after the attempt differs from `s`, but not in its path
  suffices hgoal : f.Present r.1 s ∧ f.files.Touched w.tree s.path r.1.tree by
    refine ⟨⟨hgoal.1.alone, ?_⟩, hgoal.2⟩
    rw [hpath]
    exact hgoal.1.there
  have hlogged : ∀ {v v' : World σ}, v.Logs v' →
      f.Present v s ∧ f.files.Touched w.tree s.path v.tree →
        f.Present v' s ∧ f.files.Touched w.tree s.path v'.tree := by
    rintro v v' hlogs ⟨hv, htouched⟩
    rw [hlogs.tree]
    exact ⟨⟨hv.alone.logs hlogs, by rw [hlogs.tree]; exact hv.there⟩, htouched⟩
  -- every way but the missing file asks the service, and asking leaves the files as they are
  have hask : ∀ {asked : World σ} {result : Except Failure Text},
      f.request w s d = (asked, result) → f.Present asked s ∧ asked.tree = w.tree := by
    intro asked result hasked
    obtain ⟨halone, htree⟩ := h.alone.asked (asked_of_request hasked)
    exact ⟨⟨halone, by rw [htree]; exact h.there⟩, htree⟩
  cases hr with
  | missing hmissing =>
    rw [hact] at hmissing
    exact absurd (h.isThere.symm.trans hmissing) (by simp)
  | refused _ hasked =>
    rw [hact] at hasked
    obtain ⟨hasked', htree⟩ := hask hasked
    exact hlogged (logs_failAnswer ..) ⟨hasked', htree ▸ .same⟩
  | simulated _ hasked =>
    rw [hact] at hasked
    obtain ⟨hasked', htree⟩ := hask hasked
    exact hlogged (World.logs_emit ..) ⟨hasked', htree ▸ .same⟩
  | unwritten _ hasked _ hleft =>
    rw [hact] at hasked
    obtain ⟨hasked', htree⟩ := hask hasked
    have hwrote := hasked'.wrote (wrote_of_writeContent hleft)
    rw [htree] at hwrote
    exact hlogged (logs_failWrite ..) hwrote
  | written _ hasked _ hleft =>
    rw [hact] at hasked
    obtain ⟨hasked', htree⟩ := hask hasked
    have hwrote := hasked'.wrote (wrote_of_writeContent hleft)
    rw [htree] at hwrote
    exact hlogged (World.logs_emit ..) hwrote

/-- An attempt at a file that can be read has an outcome unless it is stopped. -/
theorem Present.attempt (h : f.Present w s) (hgo : f.Uninterrupted w) (d : Diagnostic) :
    ∃ r, Attempted f w s d r :=
  exists_attempted hgo h.alone h.isThere d

/-! ## 2. Rows of attempts -/

theorem Present.row_touched {ds : List Diagnostic} {os : List Outcome} (h : f.Present w s)
    (hrow : AttemptedAll f w s ds os w' s') :
    f.Present w' s' ∧ f.files.Touched w.tree s.path w'.tree := by
  induction hrow with
  | done => exact ⟨h, .same⟩
  | next hd _ ih =>
    obtain ⟨h₁, htouched⟩ := h.step hd
    obtain ⟨h', htouched'⟩ := ih h₁
    rw [hd.recorded.path] at htouched'
    exact ⟨h', htouched.trans htouched'⟩

/-- A row of attempts at a file that can be read comes to its end unless it is stopped. -/
theorem Present.row (h : f.Present w s) (hgo : f.Uninterrupted w) (ds : List Diagnostic) :
    ∃ os w' s', AttemptedAll f w s ds os w' s' ∧ f.Uninterrupted w' := by
  induction ds generalizing w s with
  | nil => exact ⟨[], w, s, .done w s, hgo⟩
  | cons d rest ih =>
    obtain ⟨⟨w₁, s₁, o⟩, hd⟩ := h.attempt hgo d
    obtain ⟨os, w', s', hrow, hgo'⟩ := ih (h.step hd).1 (hgo.attempted hd)
    exact ⟨o :: os, w', s', .next hd hrow, hgo'⟩

/-! ## 3. Files -/

/-- What the work on a file comes to: it cannot be read, or its diagnostics are attempted. -/
inductive FixedFile (f : Fixer σ) (w : World σ) (path : Text) (ds : List Diagnostic)
    (w' : World σ) : FileSummary → Prop
  | unread {failure : Failure} : f.files.read w.tree path = .error failure → w.Logs w' →
      FixedFile f w path ds w'
        (.allFailed path ds (unreadStatus failure) (failure.text f.wording))
  | attempted {content : Text} {os : List Outcome} {left : World σ} {s : Session} :
      f.files.read w.tree path = .ok content →
      AttemptedAll f (f.opened w path ds) (.start path content) ds os left s → left.Logs w' →
      FixedFile f w path ds w' s.summary

theorem present_opened {path content : Text} (halone : f.Alone w)
    (hread : f.files.read w.tree path = .ok content) (ds : List Diagnostic) :
    f.Present (f.opened w path ds) (.start path content) := by
  have hlogs := logs_opened (f := f) halone.others path ds
  exact ⟨halone.logs hlogs, content, by rw [hlogs.tree]; exact hread⟩

/-- The work on a file that can be read is the attempts at it, whatever they come to. -/
theorem fixFile_attempts {path content : Text} (h : w.others = [])
    (hread : f.files.read w.tree path = .ok content) (ds : List Diagnostic) :
    (f.fixAll (f.opened w path ds) (.start path content) ds).1.Logs (f.fixFile w path ds).1 ∧
    (f.fixFile w path ds).2 =
      (f.fixAll (f.opened w path ds) (.start path content) ds).2.map Session.summary := by
  have hbound : (w.bind "file" (.text path)).others = [] := h
  have hopened := readFile_of_alone (f := f) hbound path
  rw [opened, hopened, fixFile, fixGroup_of_read (hopened.trans (congrArg _ hread))]
  generalize f.fixAll _ _ ds = r
  obtain ⟨left, failure | s⟩ := r <;> exact ⟨⟨rfl, rfl, rfl, rfl, rfl, rfl⟩, rfl⟩

/-- The work on a file that comes to a summary. -/
theorem fixFile_fixed {path : Text} {ds : List Diagnostic} {summary : FileSummary}
    (halone : f.Alone w) (h : f.fixFile w path ds = (w', .ok summary)) :
    FixedFile f w path ds w' summary := by
  cases hread : f.files.read w.tree path with
  | error failure =>
    obtain ⟨left, hfile, hlogs⟩ := fixFile_of_unread halone.others hread ds
    obtain ⟨rfl, hsummary⟩ := Prod.mk.inj (h.symm.trans hfile)
    obtain rfl := Except.ok.inj hsummary
    exact .unread hread hlogs
  | ok content =>
    obtain ⟨hlogs, hresult⟩ := fixFile_attempts (f := f) halone.others hread ds
    rcases hall : f.fixAll (f.opened w path ds) (.start path content) ds with ⟨left, failure | s⟩
    · rw [hall, h] at hresult
      exact absurd hresult (by simp [Except.map])
    · rw [hall, h] at hlogs hresult
      obtain rfl := Except.ok.inj hresult
      obtain ⟨os, hrow⟩ := fixAll_eq_ok_iff.mp hall
      exact .attempted hread hrow hlogs

/-- **The work on a file touches the tree at the spot of its path.** -/
theorem FixedFile.touched {path : Text} {ds : List Diagnostic} {summary : FileSummary}
    (h : FixedFile f w path ds w' summary) (halone : f.Alone w) :
    f.Alone w' ∧ f.files.Touched w.tree path w'.tree := by
  cases h with
  | unread _ hlogs => exact ⟨halone.logs hlogs, hlogs.tree ▸ .same⟩
  | attempted hread hrow hend =>
    obtain ⟨hleft, htouched⟩ := (present_opened halone hread ds).row_touched hrow
    rw [(logs_opened (f := f) halone.others path ds).tree] at htouched
    exact ⟨hleft.alone.logs hend, hend.tree ▸ htouched⟩

/-- The work on a file comes to a summary unless it is stopped. -/
theorem fixFile_returns (hgo : f.Uninterrupted w) (halone : f.Alone w) (path : Text)
    (ds : List Diagnostic) : ∃ w' summary, f.fixFile w path ds = (w', .ok summary) ∧
      f.Uninterrupted w' := by
  cases hread : f.files.read w.tree path with
  | error failure =>
    obtain ⟨w', hfile, hlogs⟩ := fixFile_of_unread halone.others hread ds
    exact ⟨w', _, hfile, hgo.logs hlogs⟩
  | ok content =>
    have hlogs := logs_opened (f := f) halone.others path ds
    obtain ⟨os, left, s, hrow, hgo'⟩ :=
      (present_opened halone hread ds).row (hgo.logs hlogs) ds
    obtain ⟨w', hfile, hend⟩ :=
      fixFile_of_read halone.others hread (fixAll_eq_ok_iff.mpr ⟨os, hrow⟩)
    exact ⟨w', s.summary, hfile, hgo'.logs hend⟩

/-! ## 4. Rows of files -/

/-- A row of files comes to summaries unless it is stopped. -/
theorem fixFiles_returns (groups : List (Text × List Diagnostic)) (hgo : f.Uninterrupted w)
    (halone : f.Alone w) :
    ∃ w' summaries, f.fixFiles w groups = (w', .ok summaries) := by
  induction groups generalizing w with
  | nil => exact ⟨w, [], rfl⟩
  | cons group rest ih =>
    obtain ⟨w₁, summary, hfile, hgo₁⟩ := fixFile_returns hgo halone group.1 group.2
    have halone₁ := ((fixFile_fixed halone hfile).touched halone).1
    obtain ⟨w', summaries, hrest⟩ := ih hgo₁ halone₁
    exact ⟨w', summary :: summaries, by simp only [fixFiles, hfile, hrest]⟩

theorem logs_started (f : Fixer σ) (w : World σ) (ds : List Diagnostic) :
    w.Logs (f.started w ds) :=
  World.logs_emit w _

/-- **A run where nobody interferes returns** unless it is stopped. -/
theorem run_returns (hgo : f.Uninterrupted w) (halone : f.Alone w) (ds : List Diagnostic) :
    ∃ w' r, f.run w ds = (w', .ok r) := by
  have hstarted := logs_started f w ds
  obtain ⟨left, files, hfiles⟩ := fixFiles_returns (Diagnostic.groupByFile ds)
    (hgo.logs hstarted) (halone.logs hstarted)
  obtain ⟨-, hresult⟩ := run_eq f w ds
  rw [hfiles] at hresult
  exact ⟨(f.run w ds).1, ⟨files⟩, Prod.ext rfl hresult⟩

/-! ## 5. Paths apart -/

variable {t t' : FileTree} {groups groups' : List (Text × List Diagnostic)}

/-- The paths of different files are apart. -/
def AllApart (f : Fixer σ) (t : FileTree) (groups : List (Text × List Diagnostic)) : Prop :=
  groups.Pairwise fun g g' => t.Apart (f.files.resolve g.1) (f.files.resolve g'.1)

/-- The paths of the other files are still apart when a file has been worked on. -/
theorem AllApart.tail {group : Text × List Diagnostic} (h : f.AllApart t (group :: groups))
    (htouched : f.files.Touched t group.1 t') : f.AllApart t' groups := by
  obtain ⟨hhead, hrest⟩ := List.pairwise_cons.mp h
  exact hrest.imp_of_mem fun hg hg' => htouched.apart (.inr (hhead _ hg)) (.inr (hhead _ hg'))

theorem AllApart.perm (h : f.AllApart t groups) (hperm : groups.Perm groups') :
    f.AllApart t groups' :=
  (hperm.pairwise_iff fun hapart => hapart.symm).mp h

theorem allApart_groupByFile {ds : List Diagnostic}
    (h : ∀ p ∈ Diagnostic.files ds, ∀ q ∈ Diagnostic.files ds, p ≠ q →
      t.Apart (f.files.resolve p) (f.files.resolve q)) :
    f.AllApart t (Diagnostic.groupByFile ds) := by
  rw [AllApart, Diagnostic.groupByFile_eq, List.pairwise_map]
  exact (Diagnostic.files_nodup ds).imp_of_mem fun hp hq hne => h _ hp _ hq hne

end Fixer

end LintMend
