/-
LintMend.Proofs.CommandLine.Logging — what keeping a log does to the files.

A journal is started once the settings are known. Until then no log file is written; from then on
only that file is, and the way to it is made when the journal is started, whether or not the file
can then be opened. Work is modest as long as this is all that it did, and as long as it only asked
the service questions.

  `LoggedTo`             — a tree after lines were written to the log file, if there is one
  `loggedTo_opened`      — a log file that is opened
  `Work.Modest`          — work that logged and asked, and did nothing else
  `Modest.tell`, `relay`, `relink` — each way of logging keeps work modest
  `modest_reopenLog`     — the start of the journal that the settings ask for
  `reopenLog_of_refused` — and when its file cannot be opened
-/
import LintMend.CommandLine.Invocation
import LintMend.Proofs.FileTree.Growth
import LintMend.Proofs.Service.Questions

namespace LintMend

open FileTree

/-- The log file that settings ask for, if they ask for one. -/
def LogFileSettings.wanted (f : LogFileSettings) : Option FilePath :=
  if f.enabled then some f.path else none

/-- A tree once a log file is opened, if one is wanted. -/
def LogFileSettings.opened (f : LogFileSettings) (t : FileTree) : FileTree :=
  match f.wanted with
  | some path => (Log.Journal.openFile t path).1
  | none => t

/-- A tree after logging: as it was, or grown by the log file, if there is one. -/
def LoggedTo (file : Option FilePath) (t t' : FileTree) : Prop :=
  t' = t ∨ ∃ path, file = some path ∧ GrownBy path t t'

namespace LoggedTo

variable {file : Option FilePath} {t t' t'' : FileTree}

theorem refl (file : Option FilePath) (t : FileTree) : LoggedTo file t t :=
  .inl rfl

theorem current (h : LoggedTo file t t') : t'.current = t.current := by
  rcases h with rfl | ⟨path, -, hgrown⟩
  · rfl
  · exact hgrown.current

theorem grown {path : FilePath} (h : LoggedTo file t t') (hfile : file = some path)
    (hgrown : GrownBy path t' t'') : LoggedTo file t t'' := by
  rcases h with rfl | ⟨path', hfile', hgrown'⟩
  · exact .inr ⟨path, hfile, hgrown⟩
  · obtain rfl := Option.some.inj (hfile'.symm.trans hfile)
    exact .inr ⟨path', hfile, hgrown'.trans hgrown⟩

end LoggedTo

namespace Log

variable {o : LogOutput} {j j' : Journal} {file : Option FilePath}

/-! ## 1. The journal -/

/-- A log file is opened by growth alone, also if it cannot be opened. -/
theorem Journal.grownBy_openFile (t : FileTree) (path : FilePath) :
    GrownBy path t (openFile t path).1 := by
  have hway := grownBy_makeDirectories path t
  unfold openFile
  split
  · next h =>
    rw [h] at hway
    exact hway
  · next made h =>
    rw [h] at hway
    split
    · exact hway
    · next opened hopened => exact hway.trans (grownBy_appendBytes hopened)

/-- The start of a journal opens its file, if one is wanted, and does nothing else to the tree. -/
theorem Journal.start_tree (o : LogOutput) (j : Journal) (f : LogFileSettings) :
    (j.start o f.wanted).1.tree = f.opened o.tree := by
  unfold start LogFileSettings.opened
  cases f.wanted with
  | none => rfl
  | some path =>
    simp only
    split <;> next hopen => exact (congrArg (·.1) hopen).symm

theorem loggedTo_opened (f : LogFileSettings) (t : FileTree) :
    LoggedTo f.wanted t (f.opened t) := by
  unfold LogFileSettings.opened
  cases hwanted : f.wanted with
  | none => exact .refl none t
  | some path => exact .inr ⟨path, rfl, Journal.grownBy_openFile t path⟩

/-- A journal writes to a log file at its absolute path, or to none. -/
def Journal.WritesTo (j : Journal) (file : Option FilePath) (t : FileTree) : Prop :=
  ∀ absolute, j.file = some absolute → ∃ path, file = some path ∧ absolute = t.absolutePath path

theorem Journal.writesTo_start (h : (j.start o file).2 = .ok j') : j'.WritesTo file o.tree := by
  intro absolute habsolute
  unfold start at h
  split at h
  · obtain rfl := Except.ok.inj h
    exact absurd habsolute (by simp)
  · next path =>
    split at h
    · next opened hopen =>
      have hcurrent : opened.current = o.tree.current := by
        have hgrown := grownBy_openFile o.tree path
        rw [hopen] at hgrown
        exact hgrown.current
      obtain rfl := Except.ok.inj h
      refine ⟨path, rfl, ?_⟩
      rw [← absolutePath_of_current hcurrent]
      exact (Option.some.inj habsolute).symm
    · obtain rfl := Except.ok.inj h
      exact absurd habsolute (by simp)
    · exact absurd h (by simp)

/-- A line is written to the log file and nowhere else. -/
theorem LogOutput.loggedTo_write {t : FileTree} {absolute : Option FilePath}
    (h : LoggedTo file t o.tree)
    (hpath : ∀ p, absolute = some p → ∃ path, file = some path ∧ p = t.absolutePath path)
    (line : Text) : LoggedTo file t (o.write absolute line).tree := by
  cases absolute with
  | none => exact h
  | some p =>
    obtain ⟨path, hfile, rfl⟩ := hpath p rfl
    unfold write writeLine
    simp only
    split
    · next written hwritten =>
      rw [← absolutePath_of_current h.current] at hwritten
      exact h.grown hfile (grownBy_appendBytes hwritten)
    · exact h

theorem Journal.loggedTo_record {t : FileTree} (h : LoggedTo file t o.tree)
    (hpath : j.WritesTo file t) (r : Record) : LoggedTo file t (j.record o r).tree := by
  unfold record
  split
  · exact LogOutput.loggedTo_write h hpath _
  · exact h

theorem Journal.loggedTo_recordAll {t : FileTree} (hpath : j.WritesTo file t)
    (records : List Record) :
    ∀ {o : LogOutput}, LoggedTo file t o.tree → LoggedTo file t (j.recordAll o records).tree := by
  induction records with
  | nil => exact fun h => h
  | cons r rest ih => exact fun h => ih (loggedTo_record h hpath r)

end Log

/-! ## 2. Work -/

namespace Work

/-- Work that came from a tree and a link by logging and by asking questions, and by nothing
else. -/
structure Modest (file : Option FilePath) (t : FileTree) (l : Link) (w : Work) : Prop where
  journal : w.journal.WritesTo file t
  tree : LoggedTo file t w.log.tree
  link : l.AsksOnly w.link

namespace Modest

variable {file : Option FilePath} {t : FileTree} {l : Link} {w : Work}

/-- The program's own events are written by a journal in another form, to the same file. -/
theorem tell (h : Modest file t l w) (e : Log.Event) : Modest file t l (w.tell e) := by
  have hjournal : Log.Journal.WritesTo { w.journal with format := w.ownFormat } file t :=
    h.journal
  exact ⟨h.journal, Log.Journal.loggedTo_record h.tree hjournal ⟨e, []⟩, h.link⟩

theorem relay (h : Modest file t l w) (records : List Log.Record) :
    Modest file t l (w.relay records) where
  journal := h.journal
  tree := Log.Journal.loggedTo_recordAll h.journal records h.tree
  link := h.link

theorem relayEvents (h : Modest file t l w) (events : List Log.Event) :
    Modest file t l (w.relayEvents events) :=
  h.relay _

/-- Work may go on with a link that has only been asked through. -/
theorem relink (h : Modest file t l w) {l' : Link} (hlink : w.link.AsksOnly l') :
    Modest file t l (w.relink l') where
  journal := h.journal
  tree := (h.relayEvents l'.log).tree
  link := h.link.trans (hlink.trans (.of_eq rfl))

/-- What is written to standard output, and what was run, do not matter. -/
theorem of_same {w' : Work} (h : Modest file t l w) (hjournal : w'.journal = w.journal)
    (hlog : w'.log = w.log) (hlink : w'.link = w.link) : Modest file t l w' where
  journal := hjournal ▸ h.journal
  tree := hlog ▸ h.tree
  link := hlink ▸ h.link

end Modest

/-- Work without a log file, before the log is opened. -/
theorem modest_of_unlogged {w : Work} (hfile : w.journal.file = none) (file : Option FilePath) :
    Modest file w.log.tree w.link w where
  journal := fun absolute habsolute => absurd (hfile.symm.trans habsolute) (by simp)
  tree := .refl file _
  link := .refl _

/-- Without a log file, logging does nothing to the tree. -/
theorem tree_tell {w : Work} (hfile : w.journal.file = none) (e : Log.Event) :
    (w.tell e).log.tree = w.log.tree := by
  rcases ((modest_of_unlogged hfile none).tell e).tree with h | ⟨path, hnone, -⟩
  · exact h
  · exact absurd hnone (by simp)

/-- **The log is opened as the settings ask**: the work is modest afterwards, and its tree is the
one with the log file opened. -/
theorem modest_reopenLog (w : Work) (s : LogSettings) (a : Arguments) {w' : Work}
    {result : Except Failure Unit} (hfile : w.journal.file = none)
    (h : w.reopenLog s a = (w', result)) :
    Modest s.file.wanted w.log.tree w.link w' ∧ w'.log.tree = s.file.opened w.log.tree ∧
      w'.link = w.link := by
  unfold reopenLog at h
  simp only at h
  let journal := { w.journal with
    level := levelFor a.debug s.level, format := a.format.getD s.format }
  have htree : ∀ {log : Log.LogOutput} {started}, journal.start w.log s.file.wanted = (log, started) →
      log.tree = s.file.opened w.log.tree := by
    intro log started hstart
    rw [← Log.Journal.start_tree w.log journal s.file, hstart]
  have hlogged := Log.loggedTo_opened s.file w.log.tree
  split at h
  · next log started hstart =>
    obtain ⟨rfl, -⟩ := Prod.mk.inj h
    have hopened := htree hstart
    have hjournal := Log.Journal.writesTo_start (congrArg (·.2) hstart)
    exact ⟨⟨hjournal, hopened ▸ hlogged, .refl _⟩, hopened, rfl⟩
  · next log failure hstart =>
    obtain ⟨rfl, -⟩ := Prod.mk.inj h
    have hopened := htree hstart
    have hjournal := (modest_of_unlogged hfile s.file.wanted).journal
    exact ⟨⟨hjournal, hopened ▸ hlogged, .refl _⟩, hopened, rfl⟩

/-- **A log file that cannot be opened is done without**, but the directories that were made on its
way stay. -/
theorem reopenLog_of_refused {w : Work} {s : LogSettings} {path : FilePath} {t : FileTree}
    {errno : Errno} (a : Arguments) (hwanted : s.file.wanted = some path)
    (hopen : Log.Journal.openFile w.log.tree path = (t, .error (.system errno))) :
    ∃ w', w.reopenLog s a = (w', .ok ()) ∧ w'.journal.file = none ∧ w'.log.tree = t := by
  have hfile : (if s.file.enabled then some s.file.path else none) = some path := hwanted
  unfold reopenLog
  simp only [hfile, Log.Journal.start, hopen]
  exact ⟨_, rfl, rfl, rfl⟩

end Work

end LintMend
