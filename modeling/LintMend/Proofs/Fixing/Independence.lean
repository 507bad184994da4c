/-
LintMend.Proofs.Fixing.Independence — files are fixed independently of one another.

The service answers by the prompt alone, nobody else is at work, and the paths are apart. Then the
order of the files does not matter: what becomes of each is the same, and so is the tree in the end,
whatever is drawn for the names of temporary files.

  `Sees`             — a world with a given tree, but for a change that a path does not notice
  `Beside.row`       — attempts go alike in two such worlds
  `FixedFile.beside` — and so does the work on a file
  `fixFiles_perm`    — files in another order
  `run_independent`  — findings in another order

One thing may differ, the error of an atomic write that the file system refuses. It names the
temporary file, so what was drawn for that stands in it. And where no temporary file can be made,
because the names of its directory go on after a file, the error says that this is no directory or
that there are too many links before it. `draws_noticed` and `order_noticed` are such cases.
-/
import LintMend.Proofs.Failure
import LintMend.Proofs.Fixing.Locality
import Mathlib.Data.List.Perm.Basic

namespace LintMend

variable {σ : Type}

/-! ## 1. Services -/

/-- An answer that is a reply and nothing besides. -/
structure Answer.Gives (a : Answer σ) (reply : Except Failure Json) : Prop where
  result : a.result = reply
  change : ∀ t, a.change t = t
  writeFault : a.writeFault = none

/-- A service whose answers are given by the prompt alone. -/
def Service.AnswersBy (svc : Service σ) (reply : Text → Except Failure Json) : Prop :=
  ∀ state prompt, (svc.answer state prompt).Gives (reply prompt)

theorem Service.answersBy_ofPrompt (model : Text) (reply : Text → Except Failure Json) :
    (ofPrompt model reply).AnswersBy reply :=
  fun _ _ => ⟨rfl, fun _ => rfl, rfl⟩

/-! ## 2. Results that agree -/

open FileTree (SameErrno)

theorem forall₂_trans {α : Type} {R : α → α → Prop} (hR : ∀ {a b c}, R a b → R b c → R a c)
    {as bs cs : List α} (h : List.Forall₂ R as bs) (h' : List.Forall₂ R bs cs) :
    List.Forall₂ R as cs := by
  induction h generalizing cs with
  | nil => exact h'
  | cons hab _ ih =>
    cases h' with
    | cons hbc hrest => exact .cons (hR hab hbc) (ih hrest)

namespace Fixer

variable {f : Fixer σ} {reply : Text → Except Failure Json} {v v' w w' : World σ}
  {s s' u : Session} {d : Diagnostic} {o o' o'' : Outcome} {t t₁ t' : FileTree} {path : Text}
  {here : Location} {change change' : FileTree → FileTree}

/-- The error that is recorded where the file system refuses an atomic write to a path, with the part
that was drawn for the name of its temporary file. -/
def writeError (f : Fixer σ) (here : Location) (path : Text) (e : Errno) (part : Text) : Text :=
  ((f.files.writeRefusal here path e).drawn part).text f.wording

/-- The refusal can be told from the error, whatever was drawn. -/
theorem errno_of_writeError {e e' : Errno} {part part' : Text}
    (h : f.writeError here path e part = f.writeError here path e' part') : e = e' :=
  Failure.errno_of_text h

/-- Outcomes that agree up to the error of an atomic write that the file system refuses: the random
part in the name of its temporary file, and why names go on after a file. -/
inductive SameOutcome (f : Fixer σ) (here : Location) (path : Text) : Outcome → Outcome → Prop
  | same (o : Outcome) : SameOutcome f here path o o
  | refused {d : Diagnostic} {e e' : Errno} (part part' : Text) : f.dryRun = false →
      f.files.atomic = true → SameErrno e e' →
      SameOutcome f here path ⟨d, .writeFailed, some (f.writeError here path e part)⟩
        ⟨d, .writeFailed, some (f.writeError here path e' part')⟩

theorem SameOutcome.trans (h : f.SameOutcome here path o o')
    (h' : f.SameOutcome here path o' o'') : f.SameOutcome here path o o'' := by
  cases h with
  | same => exact h'
  | @refused d e e' part part' hreal hatomic herrno =>
    generalize hmiddle :
      Outcome.mk d .writeFailed (some (f.writeError here path e' part')) = middle at h'
    cases h' with
    | same => exact hmiddle ▸ .refused part part' hreal hatomic herrno
    | refused _ part'' _ _ herrno' =>
      obtain ⟨rfl, -, herror⟩ := Outcome.mk.inj hmiddle
      obtain rfl := errno_of_writeError (Option.some.inj herror)
      exact .refused part part'' hreal hatomic (herrno.trans herrno')

/-- In a dry run and where files are written plainly, outcomes that agree are the same. -/
theorem SameOutcome.eq (h : f.SameOutcome here path o o')
    (hplain : f.dryRun = true ∨ f.files.atomic = false) : o = o' := by
  cases h with
  | same => rfl
  | refused _ _ hreal hatomic => simp [hreal, hatomic] at hplain

/-- Sessions that agree. -/
structure SameSession (f : Fixer σ) (here : Location) (s u : Session) : Prop where
  path : u.path = s.path
  current : u.current = s.current
  applied : u.applied = s.applied
  failed : u.failed = s.failed
  wouldApply : u.wouldApply = s.wouldApply
  outcomes : List.Forall₂ (f.SameOutcome here s.path) s.outcomes u.outcomes

/-- Summaries of a file that agree. -/
structure SameSummary (f : Fixer σ) (here : Location) (summary summary' : FileSummary) : Prop where
  path : summary'.path = summary.path
  total : summary'.total = summary.total
  applied : summary'.applied = summary.applied
  failed : summary'.failed = summary.failed
  wouldApply : summary'.wouldApply = summary.wouldApply
  outcomes : List.Forall₂ (f.SameOutcome here summary.path) summary.outcomes summary'.outcomes

theorem forall₂_same (os : List Outcome) : List.Forall₂ (f.SameOutcome here path) os os :=
  List.forall₂_same.mpr fun o _ => .same o

theorem SameSession.refl (s : Session) : f.SameSession here s s :=
  ⟨rfl, rfl, rfl, rfl, rfl, forall₂_same s.outcomes⟩

theorem SameSession.recordFailure (h : f.SameSession here s u)
    (ho : f.SameOutcome here s.path o o') :
    f.SameSession here (s.recordFailure o) (u.recordFailure o') :=
  ⟨h.path, h.current, h.applied, congrArg (· + 1) h.failed, h.wouldApply,
    List.rel_append h.outcomes (.cons ho .nil)⟩

theorem SameSession.recordSuccess (h : f.SameSession here s u) (o : Outcome) (content : Text) :
    f.SameSession here (s.recordSuccess o content) (u.recordSuccess o content) := by
  have ho : f.SameOutcome here s.path o o := .same o
  have houtcomes := List.rel_append h.outcomes (.cons ho .nil)
  unfold Session.recordSuccess
  split
  · exact ⟨h.path, rfl, h.applied, h.failed, congrArg (· + 1) h.wouldApply, houtcomes⟩
  · exact ⟨h.path, rfl, congrArg (· + 1) h.applied, h.failed, h.wouldApply, houtcomes⟩

theorem SameSession.summary (h : f.SameSession here s u) :
    f.SameSummary here s.summary u.summary :=
  ⟨h.path, h.outcomes.length_eq.symm, h.applied, h.failed, h.wouldApply, h.outcomes⟩

theorem SameSummary.refl (summary : FileSummary) : f.SameSummary here summary summary :=
  ⟨rfl, rfl, rfl, rfl, rfl, forall₂_same summary.outcomes⟩

theorem SameSummary.trans {a b c : FileSummary} (h : f.SameSummary here a b)
    (h' : f.SameSummary here b c) : f.SameSummary here a c := by
  have houtcomes := h'.outcomes
  rw [h.path] at houtcomes
  exact ⟨h'.path.trans h.path, h'.total.trans h.total, h'.applied.trans h.applied,
    h'.failed.trans h.failed, h'.wouldApply.trans h.wouldApply,
    forall₂_trans (fun hab hbc => hab.trans hbc) h.outcomes houtcomes⟩

theorem SameSummary.eq {summary summary' : FileSummary} (h : f.SameSummary here summary summary')
    (hplain : f.dryRun = true ∨ f.files.atomic = false) : summary = summary' := by
  obtain ⟨hpath, htotal, happlied, hfailed, hwould, houtcomes⟩ := h
  have hos : summary.outcomes = summary'.outcomes :=
    List.forall₂_eq_eq_eq ▸ houtcomes.imp fun _ _ ho => ho.eq hplain
  cases summary
  cases summary'
  simp_all

/-- Summaries that agree, in another order. -/
def Matched (f : Fixer σ) (here : Location) (summaries summaries' : List FileSummary) : Prop :=
  ∃ between, summaries.Perm between ∧ List.Forall₂ (f.SameSummary here) between summaries'

namespace Matched

variable {as bs cs : List FileSummary} {a a' b b' : FileSummary}

theorem cons (h : f.SameSummary here a a') (hrest : f.Matched here as bs) :
    f.Matched here (a :: as) (a' :: bs) := by
  obtain ⟨between, hperm, hsame⟩ := hrest
  exact ⟨a :: between, hperm.cons a, .cons h hsame⟩

theorem swap (ha : f.SameSummary here a a') (hb : f.SameSummary here b b')
    (hrest : f.Matched here as bs) : f.Matched here (a :: b :: as) (b' :: a' :: bs) := by
  obtain ⟨between, hperm, hsame⟩ := hrest
  exact ⟨b :: a :: between, (List.Perm.swap b a as).trans ((hperm.cons a).cons b),
    .cons hb (.cons ha hsame)⟩

theorem trans (h : f.Matched here as bs) (h' : f.Matched here bs cs) :
    f.Matched here as cs := by
  obtain ⟨between, hperm, hsame⟩ := h
  obtain ⟨between', hperm', hsame'⟩ := h'
  have hcomp : Relation.Comp (List.Forall₂ (f.SameSummary here)) List.Perm between between' :=
    ⟨bs, hsame, hperm'⟩
  rw [List.forall₂_comp_perm_eq_perm_comp_forall₂] at hcomp
  obtain ⟨middle, hmiddle, hsames⟩ := hcomp
  exact ⟨middle, hperm.trans hmiddle, forall₂_trans (fun hab hbc => hab.trans hbc) hsames hsame'⟩

theorem perm (h : f.Matched here as bs) (hplain : f.dryRun = true ∨ f.files.atomic = false) :
    as.Perm bs := by
  obtain ⟨between, hperm, hsame⟩ := h
  obtain rfl : between = bs :=
    List.forall₂_eq_eq_eq ▸ hsame.imp fun _ _ hsummary => hsummary.eq hplain
  exact hperm

end Matched

/-! ## 3. Worlds side by side -/

/-- The service answers by the prompt alone, nobody else is at work, and no write is made to
fail. -/
structure Quiet (f : Fixer σ) (reply : Text → Except Failure Json) (w : World σ) : Prop where
  service : f.service.AnswersBy reply
  others : w.others = []
  writeFault : w.writeFault = none

theorem Quiet.alone (h : f.Quiet reply w) : f.Alone w :=
  ⟨h.others, fun _ prompt t => (h.service _ prompt).change t⟩

theorem Quiet.logs (h : f.Quiet reply w) (hlogs : w.Logs w') : f.Quiet reply w' :=
  ⟨h.service, hlogs.others.trans h.others, hlogs.writeFault.trans h.writeFault⟩

theorem Quiet.redrawn (h : f.Quiet reply w) (draws : Nat → Text) :
    f.Quiet reply { w with draws } :=
  ⟨h.service, h.others, h.writeFault⟩

/-- A world whose tree is a given one but for a change that a path does not notice. -/
structure Sees (f : Fixer σ) (reply : Text → Except Failure Json) (t : FileTree) (path : Text)
    (change : FileTree → FileTree) (w : World σ) : Prop where
  quiet : f.Quiet reply w
  tree : w.tree = change t
  unnoticed : f.files.Unnoticed t path change

namespace Sees

theorem refl (h : f.Quiet reply w) (path : Text) : f.Sees reply w.tree path id w :=
  ⟨h, rfl, .nothing⟩

theorem logs (h : f.Sees reply t path change w) (hlogs : w.Logs w') :
    f.Sees reply t path change w' :=
  ⟨h.quiet.logs hlogs, hlogs.tree.trans h.tree, h.unnoticed⟩

theorem read (h : f.Sees reply t path change w) :
    f.files.read w.tree path = f.files.read t path := by
  rw [h.tree]
  exact h.unnoticed.read

theorem isThere (h : f.Sees reply t s.path change w)
    (hread : ∃ text, f.files.read t s.path = .ok text) :
    f.files.isThere w.othersAct.tree s.path = .ok true := by
  obtain ⟨text, htext⟩ := hread
  rw [World.othersAct_of_alone h.quiet.others]
  exact SourceFiles.isThere_of_read (h.read.trans htext)

/-- The answer to a request is given by its prompt. -/
theorem request (h : f.Sees reply t path change w) (s : Session) (d : Diagnostic) :
    ∃ asked, f.request w.othersAct s d =
        (asked, (usableContent (reply (Prompt.text d s.current))).2) ∧
      f.Sees reply t path change asked := by
  rw [World.othersAct_of_alone h.quiet.others]
  obtain ⟨hresult, hchange, hfault⟩ := h.quiet.service w.service (Prompt.text d s.current)
  rcases hrequest : f.request w s d with ⟨asked, result⟩
  have hasked := asked_of_request hrequest
  refine ⟨asked, Prod.ext rfl (hresult ▸ hasked.result), ?_, ?_, h.unnoticed⟩
  · refine ⟨h.quiet.service, hasked.others.trans h.quiet.others, ?_⟩
    rw [hasked.writeFault, hfault]
    exact h.quiet.writeFault
  · rw [hasked.tree, hchange]
    exact h.tree

/-- A write can be told from the given tree. -/
theorem write (h : f.Sees reply t path change w) {old content : Text} {events : List Log.Event}
    {result : Except Failure Unit} (hread : f.files.read t path = .ok old)
    (hwrite : f.files.write t path content = (t', events, result)) :
    ∃ left result', f.writeContent w path content = (left, result') ∧
      f.Sees reply t' path change left ∧
      ∀ part, f.files.SameResult t.current path (result.mapError (·.drawn part)) result' := by
  have htouched := (SourceFiles.writeEnd_of_read hread content).touched
  rw [hwrite] at htouched
  obtain ⟨result', hwritten, hsame⟩ := h.unnoticed.write hread hwrite
  have hact := World.othersAct_of_alone h.quiet.others
  refine ⟨(w.afterWrite (change t')).emitAll events, result'.mapError (·.drawn (w.draws 0)), ?_,
    ⟨⟨h.quiet.service, h.quiet.others, h.quiet.writeFault⟩, rfl, h.unnoticed.touched htouched⟩,
    fun part => hsame part _⟩
  simp only [writeContent, h.quiet.writeFault, hact, h.tree, hwritten]

end Sees

/-- What two worlds have in common after the same attempts: they see one tree, in which the path can
still be read and was touched at its spot alone since the first of them. -/
structure Beside (f : Fixer σ) (reply : Text → Except Failure Json) (t : FileTree) (path : Text)
    (change change' : FileTree → FileTree) (v w : World σ) (t' : FileTree) : Prop where
  there : ∃ text, f.files.read t' path = .ok text
  touched : f.files.Touched t path t'
  left : f.Sees reply t' path change v
  right : f.Sees reply t' path change' w

theorem Beside.logs (h : f.Beside reply t path change change' v w t') (hv : v.Logs v')
    (hw : w.Logs w') : f.Beside reply t path change change' v' w' t' :=
  ⟨h.there, h.touched, h.left.logs hv, h.right.logs hw⟩

/-- The same content is written in both worlds with results that agree. -/
theorem Beside.write (h : f.Beside reply t path change change' v w t₁) {content : Text}
    {result : Except Failure Unit}
    (hv : f.writeContent v path content = (v', result)) : ∃ t' w' result',
      f.writeContent w path content = (w', result') ∧
      f.Beside reply t path change change' v' w' t' ∧
      f.files.SameResult t.current path result result' := by
  obtain ⟨text, htext⟩ := h.there
  rcases hwrite : f.files.write t₁ path content with ⟨t', events, told⟩
  obtain ⟨v'', result₁, hv', hleft, hsame⟩ := h.left.write htext hwrite
  obtain ⟨w', result₂, hw, hright, hsame'⟩ := h.right.write htext hwrite
  obtain ⟨rfl, rfl⟩ := Prod.mk.inj (hv'.symm.trans hv)
  have htouched := (SourceFiles.writeEnd_of_read htext content).touched
  rw [hwrite] at htouched
  refine ⟨t', w', result₂, hw, ⟨?_, h.touched.trans htouched, hleft, hright⟩,
    h.touched.current ▸ (hsame []).symm.trans (hsame' [])⟩
  cases told with
  | error failure => exact ⟨text, SourceFiles.write_error hwrite ▸ htext⟩
  | ok done => exact ⟨content, SourceFiles.read_of_write htext hwrite⟩

/-- The same request has the same answer in both worlds. -/
theorem Beside.request (h : f.Beside reply t s.path change change' v w t₁)
    (hsame : f.SameSession here s u) {asked : World σ} {result : Except Failure Text}
    (hv : f.request v.othersAct s d = (asked, result)) : ∃ asked',
      f.request w.othersAct u d = (asked', result) ∧
      f.Beside reply t s.path change change' asked asked' t₁ := by
  obtain ⟨asked₁, hasked, hleft⟩ := h.left.request s d
  obtain ⟨asked', hasked', hright⟩ := h.right.request u d
  obtain ⟨rfl, hresult⟩ := Prod.mk.inj (hasked.symm.trans hv)
  rw [hsame.current, hresult] at hasked'
  exact ⟨asked', hasked', h.there, h.touched, hleft, hright⟩

/-- **An attempt goes alike in both worlds.** -/
theorem Beside.attempt (h : f.Beside reply t s.path change change' v w t₁)
    (hsame : f.SameSession t.current s u) (hv : Attempted f v s d (v', s', o)) : ∃ t' w' u' o',
      Attempted f w u d (w', u', o') ∧ f.Beside reply t s.path change change' v' w' t' ∧
      f.SameSession t.current s' u' := by
  have hthere : f.files.isThere w.othersAct.tree u.path = .ok true := by
    rw [hsame.path]
    exact h.right.isThere h.there
  generalize hr : (v', s', o) = r at hv
  -- each end of the attempt on the left is had on the right by the same constructor
  cases hv with
  | missing hmissing => exact absurd ((h.left.isThere h.there).symm.trans hmissing) (by simp)
  | @refused _ failure _ hrequest hgo =>
    obtain ⟨rfl, rfl, rfl⟩ := hr
    obtain ⟨asked', hasked', hboth⟩ := h.request hsame hrequest
    exact ⟨t₁, _, _, _, .refused hthere hasked' hgo,
      hboth.logs (logs_failAnswer f _ s d failure) (logs_failAnswer f _ u d failure),
      hsame.recordFailure (.same _)⟩
  | simulated _ hrequest hdry =>
    obtain ⟨rfl, rfl, rfl⟩ := hr
    obtain ⟨asked', hasked', hboth⟩ := h.request hsame hrequest
    exact ⟨t₁, _, _, _, .simulated hthere hasked' hdry,
      hboth.logs (World.logs_emit _ _) (World.logs_emit _ _), hsame.recordSuccess _ _⟩
  | @unwritten _ left content failure _ hrequest hreal hleft hgo =>
    obtain ⟨rfl, rfl, rfl⟩ := hr
    obtain ⟨asked', hasked', hboth⟩ := h.request hsame hrequest
    obtain ⟨t', w', result, hright, hboth', hresults⟩ := hboth.write hleft
    rw [← hsame.path] at hright
    cases hresults with
    | same =>
      exact ⟨t', _, _, _, .unwritten hthere hasked' hreal hright hgo,
        hboth'.logs (logs_failWrite f _ s d failure) (logs_failWrite f _ u d failure),
        hsame.recordFailure (.same _)⟩
    | refused part part' hatomic herrno =>
      exact ⟨t', _, _, _, .unwritten hthere hasked' hreal hright Failure.noConfusion,
        hboth'.logs (logs_failWrite f _ s d _) (logs_failWrite f _ u d _),
        hsame.recordFailure (.refused part part' hreal hatomic herrno)⟩
  | written _ hrequest hreal hleft =>
    obtain ⟨rfl, rfl, rfl⟩ := hr
    obtain ⟨asked', hasked', hboth⟩ := h.request hsame hrequest
    obtain ⟨t', w', result, hright, hboth', hresults⟩ := hboth.write hleft
    rw [← hsame.path] at hright
    cases hresults with
    | same =>
      exact ⟨t', _, _, _, .written hthere hasked' hreal hright,
        hboth'.logs (World.logs_emit _ _) (World.logs_emit _ _), hsame.recordSuccess _ _⟩

/-- **A row of attempts goes alike in both worlds.** -/
theorem Beside.row {ds : List Diagnostic} {os : List Outcome}
    (h : f.Beside reply t s.path change change' v w t₁) (hsame : f.SameSession t.current s u)
    (hv : AttemptedAll f v s ds os v' s') : ∃ t' w' u' os',
      AttemptedAll f w u ds os' w' u' ∧ f.Beside reply t s.path change change' v' w' t' ∧
      f.SameSession t.current s' u' := by
  induction hv generalizing t₁ w u with
  | done => exact ⟨t₁, w, u, [], .done w u, h, hsame⟩
  | next hd _ ih =>
    obtain ⟨t₂, w₂, u₂, o', hd', h₂, hsame₂⟩ := h.attempt hsame hd
    rw [← hd.recorded.path] at h₂ ⊢
    obtain ⟨t', w', u', os', hrow, h', hsame'⟩ := ih h₂ hsame₂
    exact ⟨t', w', u', o' :: os', .next hd' hrow, h', hsame'⟩

/-! ## 4. Files -/

variable {ds es : List Diagnostic} {summary : FileSummary}

/-- **The work on a file goes alike in both worlds.** -/
theorem FixedFile.beside (h : FixedFile f v path ds v' summary)
    (hleft : f.Sees reply t path change v) (hright : f.Sees reply t path change' w) :
    ∃ t' w' summary', f.fixFile w path ds = (w', .ok summary') ∧
      f.SameSummary t.current summary summary' ∧ f.files.Touched t path t' ∧
      f.Sees reply t' path change v' ∧ f.Sees reply t' path change' w' := by
  cases h with
  | unread hread hlogs =>
    rw [hleft.read] at hread
    obtain ⟨w', hfile, hlogs'⟩ :=
      fixFile_of_unread hright.quiet.others (hright.read.trans hread) ds
    exact ⟨t, w', _, hfile, .refl _, .same, hleft.logs hlogs, hright.logs hlogs'⟩
  | @attempted content os left s hread hrow hend =>
    rw [hleft.read] at hread
    have hboth : f.Beside reply t path change change' (f.opened v path ds) (f.opened w path ds) t :=
      ⟨⟨content, hread⟩, .same, hleft.logs (logs_opened hleft.quiet.others path ds),
        hright.logs (logs_opened hright.quiet.others path ds)⟩
    obtain ⟨t', left', u, os', hrow', hboth', hsame⟩ := hboth.row (.refl _) hrow
    obtain ⟨w', hfile, hend'⟩ := fixFile_of_read hright.quiet.others (hright.read.trans hread)
      (fixAll_eq_ok_iff.mpr ⟨os', hrow'⟩)
    exact ⟨t', w', u.summary, hfile, hsame.summary, hboth'.touched, hboth'.left.logs hend,
      hboth'.right.logs hend'⟩

theorem Quiet.fixFile (h : f.Quiet reply w) (hfile : f.fixFile w path ds = (w', .ok summary)) :
    f.Quiet reply w' := by
  obtain ⟨_, _, _, -, -, -, hleft, -⟩ :=
    (fixFile_fixed h.alone hfile).beside (.refl h path) (.refl h path)
  exact hleft.quiet

/-- **The order of two files does not matter.** -/
theorem fixFile_swap {v₁ : World σ} {p q : Text} {summary' : FileSummary} (hv : f.Quiet reply v)
    (hw : f.Quiet reply w) (htree : w.tree = v.tree)
    (hapart : v.tree.Apart (f.files.resolve p) (f.files.resolve q))
    (hp : f.fixFile v p ds = (v₁, .ok summary)) (hq : f.fixFile v₁ q es = (v', .ok summary')) :
    ∃ w₁ w' there there', f.fixFile w q es = (w₁, .ok there') ∧
      f.fixFile w₁ p ds = (w', .ok there) ∧ w'.tree = v'.tree ∧ f.Quiet reply w' ∧
      f.SameSummary v.tree.current summary there ∧
      f.SameSummary v.tree.current summary' there' := by
  have hv₁ := hv.fixFile hp
  have hfirst := fixFile_fixed hv.alone hp
  obtain ⟨change, hchange, hunnoticed, hcommutes⟩ := (hfirst.touched hv.alone).2.commutes hapart
  -- The second file first, in the tree as it was and in the one that the first file left.
  obtain ⟨tq, w₁, there', hw₁, hsame', htouched, hleft, hright⟩ :=
    (fixFile_fixed hv₁.alone hq).beside ⟨hv₁, hchange, hunnoticed⟩ ⟨hw, htree, .nothing⟩
  obtain ⟨change', hchange', hunnoticed', hcomm⟩ := hcommutes tq htouched
  -- The first file after it.
  obtain ⟨tp, w', there, hw', hsame, -, hleft', hright'⟩ :=
    hfirst.beside (.refl hv p) ⟨hright.quiet, hright.tree.trans hchange', hunnoticed'⟩
  refine ⟨w₁, w', there, there', hw₁, hw', ?_, hright'.quiet, hsame, hsame'⟩
  calc
    w'.tree = change' tp := hright'.tree
    _ = change' v₁.tree := congrArg change' hleft'.tree.symm
    _ = change tq := hcomm.symm
    _ = v'.tree := hleft.tree.symm

/-! ## 5. Rows of files -/

variable {groups groups' : List (Text × List Diagnostic)} {summaries : List FileSummary}

/-- **The order of files does not matter.** -/
theorem fixFiles_perm (hperm : groups.Perm groups') (hv : f.Quiet reply v) (hw : f.Quiet reply w)
    (htree : w.tree = v.tree) (hhere : v.tree.current = here) (hapart : f.AllApart v.tree groups)
    (h : FixedFiles f v groups v' summaries) : ∃ w' summaries',
      FixedFiles f w groups' w' summaries' ∧ w'.tree = v'.tree ∧
      f.Matched here summaries summaries' := by
  -- the rows start from two worlds with the same files: after a swap logs and draws differ
  induction hperm using List.Perm.recOnSwap' generalizing v w v' summaries with
  | nil =>
    cases h
    exact ⟨w, [], .done w, htree, [], .refl _, .nil⟩
  | cons group _ ih =>
    cases h with
    | @next _ v₁ _ _ _ summary rest hfile hrest =>
    have hfixed := fixFile_fixed hv.alone hfile
    have htouched := (hfixed.touched hv.alone).2
    obtain ⟨t', w₁, summary', hfile', hsame, -, hleft, hright⟩ :=
      hfixed.beside (.refl hv group.1) ⟨hw, htree, .nothing⟩
    obtain ⟨w', rest', hrest', htree', hmatched⟩ :=
      ih hleft.quiet hright.quiet (hright.tree.trans hleft.tree.symm)
        (htouched.current.trans hhere) (hapart.tail htouched) hrest
    exact ⟨w', _, .next hfile' hrest', htree', hmatched.cons (hhere ▸ hsame)⟩
  | swap' first second _ ih =>
    cases h with
    | @next _ v₁ _ _ _ summary _ hfile hmore =>
    cases hmore with
    | @next _ v₂ _ _ _ summary' rest hfile' hrest =>
    have hv₁ := hv.fixFile hfile
    have htouched := ((fixFile_fixed hv.alone hfile).touched hv.alone).2
    have htouched' := ((fixFile_fixed hv₁.alone hfile').touched hv₁.alone).2
    obtain ⟨w₁, w₂, there, there', hw₁, hw₂, htree₂, hquiet, hsame, hsame'⟩ := fixFile_swap hv hw
      htree ((List.pairwise_cons.mp hapart).1 _ (by simp)) hfile hfile'
    obtain ⟨w', rest', hrest', htree', hmatched⟩ :=
      ih (hv₁.fixFile hfile') hquiet htree₂
        (htouched'.current.trans (htouched.current.trans hhere))
        ((hapart.tail htouched).tail htouched') hrest
    exact ⟨w', _, .next hw₁ (.next hw₂ hrest'), htree',
      hmatched.swap (hhere ▸ hsame) (hhere ▸ hsame')⟩
  | trans hfirst _ ih ih' =>
    obtain ⟨u, between, hbetween, htree', hmatched⟩ := ih hv hw htree hhere hapart h
    obtain ⟨w', summaries', hlast, htree'', hmatched'⟩ :=
      ih' hw hw rfl (htree ▸ hhere) (htree ▸ hapart.perm hfirst) hbetween
    exact ⟨w', summaries', hlast, htree''.trans htree', hmatched.trans hmatched'⟩

/-! ## 6. Runs -/

/-- Findings with the same findings for each file have the same groups, in another order. -/
theorem groupByFile_perm_of_filter
    (h : ∀ file, ds.filter (·.file = file) = es.filter (·.file = file)) :
    (Diagnostic.groupByFile ds).Perm (Diagnostic.groupByFile es) := by
  have hmem : ∀ {ds : List Diagnostic} {file : Text},
      file ∈ Diagnostic.files ds ↔ ds.filter (·.file = file) ≠ [] := by
    intro ds file
    simp [Diagnostic.mem_files, List.filter_eq_nil_iff]
  have hfiles : (Diagnostic.files ds).Perm (Diagnostic.files es) := by
    refine (List.perm_ext_iff_of_nodup (Diagnostic.files_nodup ds)
      (Diagnostic.files_nodup es)).mpr fun file => ?_
    rw [hmem, hmem, h file]
  rw [Diagnostic.groupByFile_eq, Diagnostic.groupByFile_eq]
  simp only [h]
  exact hfiles.map _

/-- **Files are fixed independently of one another.** Let findings be put in another order that
keeps the order for each file, and let the paths of different files be apart. If the run on the ones
returns, and it does if no reply is the operator's stop, then so does the run on the others, whatever
is drawn in it, it leaves the same tree, and each file has the same summary, up to the error of an
atomic write that the file system refuses. -/
theorem run_independent (hw : f.Quiet reply w)
    (hfiles : ∀ file, ds.filter (·.file = file) = es.filter (·.file = file))
    (hapart : ∀ p ∈ Diagnostic.files ds, ∀ q ∈ Diagnostic.files ds, p ≠ q →
      w.tree.Apart (f.files.resolve p) (f.files.resolve q)) :
    ((∀ prompt, reply prompt ≠ .error .interrupted) → ∃ w₁ r₁, f.run w ds = (w₁, .ok r₁)) ∧
    ∀ w₁ r₁, f.run w ds = (w₁, .ok r₁) → ∀ draws, ∃ w₂ r₂,
      f.run { w with draws } es = (w₂, .ok r₂) ∧ w₂.tree = w₁.tree ∧
      f.Matched w.tree.current r₁.files r₂.files ∧
      (f.dryRun = true ∨ f.files.atomic = false → r₁.files.Perm r₂.files) := by
  refine ⟨fun hgo => ?_, fun w₁ r₁ hrun draws => ?_⟩
  · refine run_returns ⟨fun prompts prompt => ?_, by simp [hw.writeFault]⟩ hw.alone ds
    obtain ⟨hresult, -, hfault⟩ := hw.service (f.service.after w.service prompts) prompt
    exact ⟨hresult ▸ hgo prompt, by simp [hfault]⟩
  · obtain ⟨left, hleft, hlogs⟩ := fixFiles_of_run hrun
    obtain ⟨w', files, hfixed, htree, hmatched⟩ := fixFiles_perm
      (groupByFile_perm_of_filter hfiles) (hw.logs (logs_started f w ds))
      ((hw.redrawn draws).logs (logs_started f _ es)) rfl rfl (allApart_groupByFile hapart)
      (fixFiles_eq_ok_iff.mp hleft)
    obtain ⟨hlogs', hresult⟩ := run_eq f { w with draws } es
    rw [fixFiles_eq_ok_iff.mpr hfixed] at hlogs' hresult
    refine ⟨_, ⟨files⟩, Prod.ext rfl hresult, ?_, hmatched, hmatched.perm⟩
    rw [hlogs'.tree, htree, hlogs.tree]

/-! ## 7. What is noticed -/

/-- What asks a service that replies to all prompts alike. -/
def sameFixer : Fixer Unit :=
  { service := .ofPrompt "m" fun _ => .ok (.object [("response", .string "b")]), files := {}
    wording := .full }

/-- A finding in a file. -/
def findingIn (file : Text) : Diagnostic :=
  { sampleFinding with file }

/-- A path to a file: the points lead back from where the link `S` leads. -/
def strayPath : Text :=
  "S/../L/P"

/-- The world with that file. Whoever takes the points of the path as the way back from `S` comes to
no directory at all. -/
def strayWorld (part : Text) : World Unit :=
  { tree :=
      { current := []
        entries :=
          [(["S"], .link "D/E"), (["D"], .directory 0o755), (["D", "E"], .directory 0o755),
            (["D", "L"], .directory 0o755), (["D", "L", "P"], .file [0x61] 0o644)] }
    service := ()
    draws := fun _ => part }

/-- The summary: the file cannot be written, as the error says. -/
def straySummary (error : Text) : RunSummary :=
  ⟨[⟨strayPath, 1, 0, 1, 0, [⟨findingIn strayPath, .writeFailed, some error⟩]⟩]⟩

set_option maxRecDepth 8000 in
/-- **Draws can be noticed**, in the error of a write. -/
theorem draws_noticed : ¬ ∀ (f : Fixer Unit) (w : World Unit) (ds : List Diagnostic)
    (draws : Nat → Text) w₁ r₁ w₂ r₂, f.run w ds = (w₁, .ok r₁) →
      f.run { w with draws } ds = (w₂, .ok r₂) → r₁ = r₂ := by
  have hrun : (sameFixer.run (strayWorld "k3_x0q9z") [findingIn strayPath]).2 =
      .ok (straySummary "[Errno 2] No such file or directory: '/L/.P.k3_x0q9z.tmp'") := by cbv
  have hrun' : (sameFixer.run (strayWorld "a7m2_l_e") [findingIn strayPath]).2 =
      .ok (straySummary "[Errno 2] No such file or directory: '/L/.P.a7m2_l_e.tmp'") := by cbv
  intro h
  have hsame := h sameFixer (strayWorld "k3_x0q9z") _ (fun _ => "a7m2_l_e") _ _ _ _
    (Prod.ext rfl hrun) (Prod.ext rfl hrun')
  simp [straySummary, Text.ofString, CodePoint.ofChar] at hsame

/-- A path to another file, with points as before. -/
def mazePath : Text :=
  "S/../L/Q/P"

/-- A tree with that file and another one, to which the link `Q` leads. Whoever takes the points of
the path as the way back from `S` comes to `Q`, over 21 links to which `Q` adds 22. -/
def mazeTree : FileTree :=
  { current := []
    entries :=
      [(["S"], .link "D/E"), (["D"], .directory 0o755), (["D", "E"], .directory 0o755),
        (["D", "L"], .directory 0o755), (["D", "L", "Q"], .directory 0o755),
        (["D", "L", "Q", "P"], .file [0x61] 0o644), (["H"], .link "."),
        (["I"], .link "H/H/H/H"), (["L"], .link "I/I/I/I"), (["F"], .file [0x61] 0o644),
        (["Q"], .link "L/F")] }

/-- The world with that tree. All draws are alike, so it is not by them that orders are told
apart. -/
def mazeWorld : World Unit :=
  { tree := mazeTree, service := (), draws := fun _ => "k3_x0q9z" }

/-- The two summaries: the file at the path cannot be written for the given reason. -/
def mazeSummaries (error : Text) : List FileSummary :=
  [⟨mazePath, 1, 0, 1, 0, [⟨findingIn mazePath, .writeFailed, some error⟩]⟩,
    ⟨"Q", 1, 1, 0, 0, [⟨findingIn "Q", .applied, none⟩]⟩]

/-- There are too many links on the way to the directory of the temporary file. -/
def mazeLinks : Text :=
  "[Errno 40] Too many levels of symbolic links: '/L/Q/.P.k3_x0q9z.tmp'"

/-- The way to the directory of the temporary file goes on after a file. -/
def mazeStop : Text :=
  "[Errno 20] Not a directory: '/L/Q/.P.k3_x0q9z.tmp'"

set_option maxRecDepth 8000 in
/-- Before the link is replaced by a file there are too many links on the way. -/
theorem maze_run : (sameFixer.run mazeWorld [findingIn mazePath, findingIn "Q"]).2 =
    .ok ⟨mazeSummaries mazeLinks⟩ := by
  cbv

set_option maxRecDepth 8000 in
/-- Afterwards the way goes on after a file. -/
theorem maze_run_later : (sameFixer.run mazeWorld [findingIn "Q", findingIn mazePath]).2 =
    .ok ⟨(mazeSummaries mazeStop).reverse⟩ := by
  cbv

theorem quiet_maze :
    sameFixer.Quiet (fun _ => .ok (.object [("response", .string "b")])) mazeWorld :=
  ⟨Service.answersBy_ofPrompt _ _, rfl, rfl⟩

theorem filter_maze (file : Text) :
    [findingIn mazePath, findingIn "Q"].filter (·.file = file) =
      [findingIn "Q", findingIn mazePath].filter (·.file = file) := by
  have hne : mazePath ≠ "Q" := by decide
  by_cases hpath : mazePath = file
  · subst hpath
    simp [findingIn, hne.symm]
  · simp [findingIn, hpath, List.filter_cons]

set_option maxRecDepth 8000 in
/-- The paths lead to different files. -/
theorem apart_maze : ∀ p ∈ Diagnostic.files [findingIn mazePath, findingIn "Q"],
    ∀ q ∈ Diagnostic.files [findingIn mazePath, findingIn "Q"], p ≠ q →
      mazeTree.Apart (sameFixer.files.resolve p) (sameFixer.files.resolve q) := by
  have hpath : mazeTree.lookup true (sameFixer.files.resolve mazePath) =
      .ok (.found ["D", "L", "Q", "P"] (.file [0x61] 0o644)) := by cbv
  have hlink : mazeTree.lookup true (sameFixer.files.resolve "Q") =
      .ok (.found ["F"] (.file [0x61] 0o644)) := by cbv
  have hapart := FileTree.apart_of_found hpath hlink (by decide)
  intro p hp q hq hne
  simp only [Diagnostic.mem_files, List.mem_cons, List.not_mem_nil, or_false, exists_eq_or_imp,
    exists_eq_left, findingIn] at hp hq
  rcases hp with rfl | rfl <;> rcases hq with rfl | rfl
  · exact absurd rfl hne
  · exact hapart
  · exact hapart.symm
  · exact absurd rfl hne

/-- The two findings in either order leave one tree, with summaries that agree, also where the
second run draws otherwise. -/
theorem run_independent_maze : ∃ w₁ w₂ r,
    sameFixer.run mazeWorld [findingIn mazePath, findingIn "Q"] =
      (w₁, .ok ⟨mazeSummaries mazeLinks⟩) ∧
    sameFixer.run { mazeWorld with draws := fun _ => "a7m2_l_e" }
      [findingIn "Q", findingIn mazePath] = (w₂, .ok r) ∧
    w₂.tree = w₁.tree ∧ sameFixer.Matched [] (mazeSummaries mazeLinks) r.files := by
  have hrun : sameFixer.run mazeWorld [findingIn mazePath, findingIn "Q"] =
      (_, .ok ⟨mazeSummaries mazeLinks⟩) := Prod.ext rfl maze_run
  obtain ⟨w₂, r, hother, htree, hmatched, -⟩ :=
    (run_independent quiet_maze filter_maze apart_maze).2 _ _ hrun _
  exact ⟨_, w₂, r, hrun, hother, htree, hmatched⟩

/-- **The order of files can be noticed**, in the error of a write. -/
theorem order_noticed : ¬ ∀ (f : Fixer Unit) (reply : Text → Except Failure Json) (w : World Unit)
    (ds es : List Diagnostic), f.Quiet reply w → (∀ prompt, reply prompt ≠ .error .interrupted) →
    (∀ file, ds.filter (·.file = file) = es.filter (·.file = file)) →
    (∀ p ∈ Diagnostic.files ds, ∀ q ∈ Diagnostic.files ds, p ≠ q →
      w.tree.Apart (f.files.resolve p) (f.files.resolve q)) →
    ∀ w₁ r₁ w₂ r₂, f.run w ds = (w₁, .ok r₁) → f.run w es = (w₂, .ok r₂) →
      r₁.files.Perm r₂.files := by
  intro h
  have hperm := h sameFixer _ mazeWorld _ _ quiet_maze (by simp) filter_maze apart_maze _ _ _ _
    (Prod.ext rfl maze_run) (Prod.ext rfl maze_run_later)
  have hmem := hperm.subset (List.mem_cons_self ..)
  revert hmem
  decide

end Fixer

end LintMend
