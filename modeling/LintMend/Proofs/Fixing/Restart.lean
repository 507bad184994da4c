/-
LintMend.Proofs.Fixing.Restart — stopping between two attempts and starting afresh changes nothing.

A run that is cut in two reads the file anew where the whole one has its content in memory. Since
the path reads as just that content after every attempt, the two see the same from there on: the
second part sends the same prompts, comes to the same outcomes and leaves the same tree. That an
attempt sees no more of world and session than `World.Alike` and `Session.Alike` compare is shown
for one attempt and from there for a row.

What is drawn for the names of temporary files need not be the same in both. It shows in one place,
the error of an atomic write that failed, and there in nothing but the name.

  `Redrawn`                               — outcomes that agree up to what was drawn
  `Attempted.alike`, `AttemptedAll.alike` — what an attempt, and a row of them, depends on
  `AttemptedAll.append`                   — a row in two parts
  `fixFile_restart`                       — a file in two parts
-/
import LintMend.Proofs.Fixing.Content

namespace LintMend

variable {σ : Type} {agree : Prop}

/-! ## 1. Worlds and sessions that look alike -/

/-- Two worlds that differ in nothing but their logs, the prompts that were sent and, unless they are
to agree in that, what they draw. -/
structure World.Alike (agree : Prop) (w v : World σ) : Prop where
  tree : v.tree = w.tree
  service : v.service = w.service
  others : v.others = w.others
  writeFault : v.writeFault = w.writeFault
  draws : agree → v.draws = w.draws

/-- Two sessions of one file that have come to one content. -/
structure Session.Alike (s u : Session) : Prop where
  path : u.path = s.path
  current : u.current = s.current

theorem Session.Alike.symm {s u : Session} (h : s.Alike u) : u.Alike s :=
  ⟨h.path.symm, h.current.symm⟩

theorem Session.Alike.trans {s u x : Session} (h : s.Alike u) (h' : u.Alike x) : s.Alike x :=
  ⟨h'.path.trans h.path, h'.current.trans h.current⟩

namespace World

variable {w w' v v' : World σ}

theorem Alike.symm (h : w.Alike agree v) : v.Alike agree w :=
  ⟨h.tree.symm, h.service.symm, h.others.symm, h.writeFault.symm, fun ha => (h.draws ha).symm⟩

theorem Alike.trans (h : w.Alike agree v) (h' : v.Alike agree v') : w.Alike agree v' :=
  ⟨h'.tree.trans h.tree, h'.service.trans h.service, h'.others.trans h.others,
    h'.writeFault.trans h.writeFault, fun ha => (h'.draws ha).trans (h.draws ha)⟩

theorem Logs.alike (h : w.Logs w') : w.Alike agree w' :=
  ⟨h.tree, h.service, h.others, h.writeFault, fun _ => h.draws⟩

theorem Alike.logs (h : w.Alike agree v) (hw : w.Logs w') (hv : v.Logs v') :
    w'.Alike agree v' :=
  hw.alike.symm.trans (h.trans hv.alike)

theorem Alike.othersAct (h : w.Alike agree v) : w.othersAct.Alike agree v.othersAct := by
  unfold World.othersAct
  rw [h.others]
  split
  · exact h
  · next change rest _ => exact ⟨congrArg change h.tree, h.service, rfl, h.writeFault, h.draws⟩

end World

/-! ## 2. Results and outcomes up to what was drawn -/

namespace SourceFiles

variable {s : SourceFiles} {t t' : FileTree} {path content : Text}

/-- Results of a write that agree up to what was drawn, and are the same if `agree` holds. -/
inductive Redrawn (s : SourceFiles) (agree : Prop) :
    Except Failure Unit → Except Failure Unit → Prop
  | same (r : Except Failure Unit) : Redrawn s agree r r
  | refused (failure : Failure) (part part' : Text) : ¬ agree → s.atomic = true →
      Redrawn s agree (.error (failure.drawn part)) (.error (failure.drawn part'))

theorem redrawn_of_write {events : List Log.Event} {result : Except Failure Unit}
    {part part' : Text} (h : s.write t path content = (t', events, result))
    (hparts : agree → part' = part) :
    s.Redrawn agree (result.mapError (·.drawn part)) (result.mapError (·.drawn part')) := by
  cases result with
  | ok done => exact .same _
  | error failure =>
    by_cases ha : agree
    · rw [hparts ha]
      exact .same _
    cases hatomic : s.atomic with
    | true => exact .refused failure part part' ha hatomic
    | false =>
      simp only [Except.mapError, drawn_of_plain hatomic h]
      exact .same _

end SourceFiles

namespace Fixer

variable {f : Fixer σ} {w w' v v' : World σ} {s s' u u' : Session} {d : Diagnostic}
  {o o' : Outcome}

/-- Outcomes that agree up to what was drawn, the name of a temporary file in the error of an atomic
write, and are the same if `agree` holds. -/
inductive Redrawn (f : Fixer σ) (agree : Prop) : Outcome → Outcome → Prop
  | same (o : Outcome) : Redrawn f agree o o
  | refused (d : Diagnostic) (failure : Failure) (part part' : Text) : ¬ agree →
      f.files.atomic = true →
      Redrawn f agree ⟨d, .writeFailed, some ((failure.drawn part).text f.wording)⟩
        ⟨d, .writeFailed, some ((failure.drawn part').text f.wording)⟩

theorem Redrawn.status (h : f.Redrawn agree o o') : o'.status = o.status := by
  cases h <;> rfl

/-- With the same draws and where files are written plainly, outcomes that agree are the same. -/
theorem Redrawn.eq (h : f.Redrawn agree o o') (ha : agree ∨ f.files.atomic = false) : o = o' := by
  cases h with
  | same => rfl
  | refused _ _ _ _ hdiffer hatomic => simp [hdiffer, hatomic] at ha

theorem eq_of_forall₂_redrawn {os os' : List Outcome} (h : List.Forall₂ (f.Redrawn agree) os os')
    (ha : agree ∨ f.files.atomic = false) : os = os' :=
  List.forall₂_eq_eq_eq ▸ h.imp fun _ _ ho => ho.eq ha

/-! ## 3. What an attempt depends on -/

theorem request_alike {result : Except Failure Text} (h : w.Alike agree v) (hs : s.Alike u)
    (hasked : f.request w s d = (w', result)) :
    ∃ v', f.request v u d = (v', result) ∧ w'.Alike agree v' := by
  have ask := asked_of_request hasked
  rcases hasked' : f.request v u d with ⟨v', result'⟩
  obtain ⟨-, hothers, hservice, htree, hwrite, hdraws, hresult⟩ := asked_of_request hasked'
  rw [h.service, hs.current] at hservice htree hwrite hresult
  rw [h.tree] at htree
  rw [h.writeFault] at hwrite
  refine ⟨v', by rw [hresult, ask.result], htree.trans ask.tree.symm,
    hservice.trans ask.service.symm, hothers.trans (h.others.trans ask.others.symm),
    hwrite.trans ask.writeFault.symm, fun ha => ?_⟩
  rw [hdraws, ask.draws, h.draws ha]

theorem writeContent_alike {path content : Text} {result : Except Failure Unit}
    (h : w.Alike agree v) (hleft : f.writeContent w path content = (w', result)) :
    ∃ v' result', f.writeContent v path content = (v', result') ∧ w'.Alike agree v' ∧
      f.files.Redrawn agree result result' := by
  unfold writeContent at hleft ⊢
  rw [h.writeFault]
  split at hleft
  · obtain ⟨rfl, rfl⟩ := Prod.mk.inj hleft
    exact ⟨_, _, rfl, ⟨h.tree, h.service, h.others, rfl, h.draws⟩, .same _⟩
  · have hact := h.othersAct
    rcases hwrite : f.files.write w.othersAct.tree path content with ⟨tree, events, told⟩
    simp only [hwrite] at hleft
    obtain ⟨rfl, rfl⟩ := Prod.mk.inj hleft
    simp only [hact.tree, hwrite]
    refine ⟨_, _, rfl, ⟨rfl, hact.service, hact.others, hact.writeFault, fun ha => ?_⟩,
      SourceFiles.redrawn_of_write hwrite fun ha => congrFun (hact.draws ha) 0⟩
    exact funext fun n => congrFun (hact.draws ha) (n + 1)

/-- An attempt in another world that looks alike has the same outcome, up to what is drawn. -/
theorem Attempted.alike {r : World σ × Session × Outcome} (h : w.Alike agree v) (hs : s.Alike u)
    (hr : Attempted f w s d r) : ∃ q, Attempted f v u d q ∧ f.Redrawn agree r.2.2 q.2.2 ∧
      r.1.Alike agree q.1 ∧ r.2.1.Alike q.2.1 := by
  have hact := h.othersAct
  have hlook : f.files.isThere v.othersAct.tree u.path =
      f.files.isThere w.othersAct.tree s.path := by rw [hact.tree, hs.path]
  cases hr with
  | missing hthere =>
    refine ⟨_, .missing (hlook.trans hthere), ?_, hact.logs (World.logs_emit ..)
      (World.logs_emit ..), hs.path, hs.current⟩
    rw [hs.path]
    exact .same _
  | refused hthere hasked hgo =>
    obtain ⟨asked', hasked', halike⟩ := request_alike hact hs hasked
    exact ⟨_, .refused (hlook.trans hthere) hasked' hgo, .same _,
      halike.logs (logs_failAnswer ..) (logs_failAnswer ..), hs.path, hs.current⟩
  | simulated hthere hasked hdry =>
    obtain ⟨asked', hasked', halike⟩ := request_alike hact hs hasked
    exact ⟨_, .simulated (hlook.trans hthere) hasked' hdry, .same _,
      halike.logs (World.logs_emit ..) (World.logs_emit ..), by simp [simulate, hs.path], rfl⟩
  | unwritten hthere hasked hreal hleft hgo =>
    obtain ⟨asked', hasked', halike⟩ := request_alike hact hs hasked
    rw [← hs.path] at hleft
    obtain ⟨left', result', hleft', halike', hresult⟩ := writeContent_alike halike hleft
    cases hresult with
    | same =>
      exact ⟨_, .unwritten (hlook.trans hthere) hasked' hreal hleft' hgo, .same _,
        halike'.logs (logs_failWrite ..) (logs_failWrite ..), hs.path, hs.current⟩
    | refused failure part part' hdiffer hatomic =>
      rw [ne_eq, Failure.drawn_eq_interrupted_iff] at hgo
      have hgo' : failure.drawn part' ≠ .interrupted :=
        mt Failure.drawn_eq_interrupted_iff.mp hgo
      exact ⟨_, .unwritten (hlook.trans hthere) hasked' hreal hleft' hgo',
        .refused d failure part part' hdiffer hatomic,
        halike'.logs (logs_failWrite ..) (logs_failWrite ..), hs.path, hs.current⟩
  | written hthere hasked hreal hleft =>
    obtain ⟨asked', hasked', halike⟩ := request_alike hact hs hasked
    rw [← hs.path] at hleft
    obtain ⟨left', result', hleft', halike', hresult⟩ := writeContent_alike halike hleft
    cases hresult with
    | same =>
      exact ⟨_, .written (hlook.trans hthere) hasked' hreal hleft', .same _,
        halike'.logs (World.logs_emit ..) (World.logs_emit ..), by simp [apply, hs.path], rfl⟩

/-- It sends the same prompts, too. -/
theorem prompts_of_alike {r q : World σ × Session × Outcome} (hs : s.Alike u)
    (hr : Attempted f w s d r) (hq : Attempted f v u d q) (ho : q.2.2.status = r.2.2.status) :
    ∃ ps, r.1.prompts = w.prompts ++ ps ∧ q.1.prompts = v.prompts ++ ps := by
  rcases hr.sent with ⟨hr', hsent⟩ | ⟨hr', -, hsent⟩
  · rcases hq.sent with ⟨-, hsent'⟩ | ⟨hq', -⟩
    · exact ⟨[], by simp [hsent], by simp [hsent']⟩
    · exact absurd (ho.trans hr') hq'
  · rcases hq.sent with ⟨hq', -⟩ | ⟨-, -, hsent'⟩
    · exact absurd (ho.symm.trans hq') hr'
    · exact ⟨_, hsent, by rw [hsent', hs.current]⟩

/-- A row of attempts, likewise. -/
theorem AttemptedAll.alike {ds : List Diagnostic} {os : List Outcome} (h : w.Alike agree v)
    (hs : s.Alike u) (hr : AttemptedAll f w s ds os w' s') :
    ∃ v' u' os' ps, AttemptedAll f v u ds os' v' u' ∧ List.Forall₂ (f.Redrawn agree) os os' ∧
      w'.Alike agree v' ∧ s'.Alike u' ∧ w'.prompts = w.prompts ++ ps ∧
      v'.prompts = v.prompts ++ ps := by
  induction hr generalizing v u with
  | done w s => exact ⟨v, u, [], [], .done v u, .nil, h, hs, by simp, by simp⟩
  | next hd _ ih =>
    obtain ⟨⟨v₁, u₁, o'⟩, hd', ho, h₁, hs₁⟩ := hd.alike h hs
    obtain ⟨ps, hps, hps'⟩ := prompts_of_alike hs hd hd' ho.status
    obtain ⟨v', u', os', qs, hrest, hos, h', hs', hqs, hqs'⟩ := ih h₁ hs₁
    refine ⟨v', u', o' :: os', ps ++ qs, .next hd' hrest, .cons ho hos, h', hs', ?_, ?_⟩
    · rw [hqs, ← List.append_assoc, ← hps]
    · rw [hqs', ← List.append_assoc, ← hps']

theorem AttemptedAll.append {ds es : List Diagnostic} {os us : List Outcome} {w'' : World σ}
    {s'' : Session} (h : AttemptedAll f w s ds os w' s')
    (h' : AttemptedAll f w' s' es us w'' s'') :
    AttemptedAll f w s (ds ++ es) (os ++ us) w'' s'' := by
  induction h with
  | done => exact h'
  | next hd _ ih => exact .next hd (ih h')

/-! ## 4. A file in two parts -/

/-- Counters that agree with outcomes add up as the outcomes do. -/
theorem counts_append {whole first second : FileSummary} (hwhole : whole.Tallied)
    (hfirst : first.Tallied) (hsecond : second.Tallied)
    (h : List.Forall₂ (f.Redrawn agree) (first.outcomes ++ second.outcomes) whole.outcomes) :
    whole.total = first.total + second.total ∧
    whole.applied = first.applied + second.applied ∧
    whole.wouldApply = first.wouldApply + second.wouldApply ∧
    whole.failed = first.failed + second.failed := by
  have hcount : ∀ p : Status → Bool, whole.outcomes.countP (p ·.status) =
      first.outcomes.countP (p ·.status) + second.outcomes.countP (p ·.status) := by
    intro p
    have hstatus : whole.outcomes.map (·.status) =
        (first.outcomes ++ second.outcomes).map (·.status) := by
      rw [← List.forall₂_eq_eq_eq, List.forall₂_map_left_iff, List.forall₂_map_right_iff]
      exact (h.imp fun _ _ ho => ho.status).flip
    have hcounts := congrArg (List.countP p) hstatus
    rwa [List.countP_map, List.countP_map, List.countP_append] at hcounts
  refine ⟨?_, ?_, ?_, ?_⟩
  · rw [hwhole.total, hfirst.total, hsecond.total, ← h.length_eq, List.length_append]
  · rw [hwhole.applied, hfirst.applied, hsecond.applied]
    exact hcount (· = .applied)
  · rw [hwhole.wouldApply, hfirst.wouldApply, hsecond.wouldApply]
    exact hcount (· = .wouldApply)
  · rw [hwhole.failed, hfirst.failed, hsecond.failed]
    exact hcount (!·.succeeded)

/-- A fresh start on the tree that is there, with what is left of the service and with draws of its
own. -/
def fresh (w : World σ) (draws : Nat → Text) : World σ :=
  { tree := w.tree, service := w.service, writeFault := w.writeFault, draws }

/-- Two parts of the work on a file against the whole of it. The whole has draws of its own, and so has
the second part, which goes on from where the first one left the world. -/
structure Parts (f : Fixer σ) (w w₁ : World σ) (path : Text) (g₁ g₂ : List Diagnostic)
    (draws draws₂ : Nat → Text) (w' w₂ : World σ) (whole first second : FileSummary) : Prop where
  run : f.fixFile { w with draws } path (g₁ ++ g₂) = (w', .ok whole)
  run₂ : f.fixFile (fresh w₁ draws₂) path g₂ = (w₂, .ok second)
  prompts : ∃ ps qs, w₁.prompts = w.prompts ++ ps ∧ w₂.prompts = qs ∧
    w'.prompts = w.prompts ++ (ps ++ qs)
  outcomes : List.Forall₂ (f.Redrawn (draws = w.draws ∧ draws₂ = w₁.draws))
    (first.outcomes ++ second.outcomes) whole.outcomes
  tree : w'.tree = w₂.tree

/-- A file that cannot be read cannot be read the second time either. -/
theorem parts_of_unread {path : Text} {failure : Failure} (h : w.others = [])
    (hread : f.files.read w.tree path = .error failure) (g₁ g₂ : List Diagnostic) :
    ∃ w₁ first, f.fixFile w path g₁ = (w₁, .ok first) ∧ ∀ draws draws₂, ∃ w' w₂ whole second,
      Parts f w w₁ path g₁ g₂ draws draws₂ w' w₂ whole first second := by
  obtain ⟨w₁, hfirst, hlogs₁⟩ := fixFile_of_unread h hread g₁
  refine ⟨w₁, _, hfirst, fun draws draws₂ => ?_⟩
  obtain ⟨w', hwhole, hlogs⟩ :=
    fixFile_of_unread (f := f) (w := { w with draws }) h hread (g₁ ++ g₂)
  have hread₁ : f.files.read (fresh w₁ draws₂).tree path = .error failure := by
    rw [← hread, ← hlogs₁.tree]
    rfl
  obtain ⟨w₂, hsecond, hlogs₂⟩ := fixFile_of_unread rfl hread₁ g₂
  refine ⟨w', w₂, _, _, hwhole, hsecond, ?_, ?_, ?_⟩
  · exact ⟨[], [], by simp [hlogs₁.prompts], hlogs₂.prompts, by simp [hlogs.prompts]⟩
  · rw [FileSummary.allFailed, FileSummary.allFailed, FileSummary.allFailed, List.map_append]
    exact List.forall₂_same.mpr fun o _ => .same o
  · exact hlogs.tree.trans (hlogs₁.tree.symm.trans hlogs₂.tree.symm)

/-- The work on a file that can be read, with the world and the session that its attempts leave. -/
theorem fixFile_steady {path content : Text} (hgo : f.Uninterrupted w) (halone : f.Alone w)
    (hreal : f.dryRun = false) (hread : f.files.read w.tree path = .ok content)
    (g : List Diagnostic) : ∃ w' left s os, f.fixFile w path g = (w', .ok s.summary) ∧
      AttemptedAll f (f.opened w path g) (.start path content) g os left s ∧
      s.path = path ∧ s.outcomes = os ∧ f.Steady left s ∧ left.Logs w' := by
  have hlogs := logs_opened (f := f) halone.others path g
  have hsteady : f.Steady (f.opened w path g) (.start path content) :=
    ⟨hgo.logs hlogs, halone.logs hlogs, by rw [hlogs.tree]; exact hread⟩
  obtain ⟨left, s, -, os, -, hall, hsteady', -, hrow, -, -⟩ := hsteady.follows g hreal
  obtain ⟨w', hfile, hend⟩ := fixFile_of_read halone.others hread hall
  obtain ⟨hpath, houtcomes, -⟩ := hrow.recorded
  exact ⟨w', left, s, os, hfile, hrow, hpath, houtcomes, hsteady', hend⟩

/-- The second part finds on disk what the first one had come to. -/
theorem Steady.read_fresh {w₁ : World σ} (h : f.Steady w s) (hend : w.Logs w₁)
    (draws : Nat → Text) : f.files.read (fresh w₁ draws).tree s.path = .ok s.current := by
  have hdisk := h.disk
  rw [← hend.tree] at hdisk
  exact hdisk

/-- It starts in a world that looks like the one that the first part left. -/
theorem Alone.alike_fresh {w₁ : World σ} {draws : Nat → Text} (h : f.Alone w) (hend : w.Logs w₁)
    (hdraws : agree → draws = w₁.draws) (path : Text) (g : List Diagnostic) :
    w.Alike agree (f.opened (fresh w₁ draws) path g) := by
  have hlogs := logs_opened (f := f) (w := fresh w₁ draws) rfl path g
  exact ⟨hlogs.tree.trans hend.tree, hlogs.service.trans hend.service,
    hlogs.others.trans h.others.symm, hlogs.writeFault.trans hend.writeFault,
    fun ha => hlogs.draws.trans ((hdraws ha).trans hend.draws)⟩

/-- The second part finds on disk what the whole has in memory, and goes on alike. -/
theorem parts_of_read {path content : Text} (hgo : f.Uninterrupted w) (halone : f.Alone w)
    (hreal : f.dryRun = false) (hread : f.files.read w.tree path = .ok content)
    (g₁ g₂ : List Diagnostic) :
    ∃ w₁ first, f.fixFile w path g₁ = (w₁, .ok first) ∧ ∀ draws draws₂, ∃ w' w₂ whole second,
      Parts f w w₁ path g₁ g₂ draws draws₂ w' w₂ whole first second := by
  -- The first part, and where it leaves the session and the file.
  have hlogs₁ := logs_opened (f := f) halone.others path g₁
  obtain ⟨w₁, left₁, s₁, os₁, hfirst, hrow₁, hpath, houtcomes₁, hsteady, hend₁⟩ :=
    fixFile_steady hgo halone hreal hread g₁
  refine ⟨w₁, _, hfirst, fun draws draws₂ => ?_⟩
  -- The second part reads what the session had.
  have hread₁ := hsteady.read_fresh hend₁ draws₂
  rw [hpath] at hread₁
  have hlogs₂ := logs_opened (f := f) (w := fresh w₁ draws₂) rfl path g₂
  obtain ⟨w₂, left₂, s₂, os₂, hsecond, hrow₂, -, houtcomes₂, -, hend₂⟩ := fixFile_steady
    (w := fresh w₁ draws₂) (hsteady.uninterrupted.congr hend₁.service hend₁.writeFault)
    (hsteady.alone.congr hsteady.alone.others.symm hend₁.service) hreal hread₁ g₂
  -- The whole goes as the first part went and then as the second.
  have hlogs := logs_opened (f := f) (w := { w with draws }) halone.others path (g₁ ++ g₂)
  have hstart : w.Alike (draws = w.draws ∧ draws₂ = w₁.draws) { w with draws } :=
    ⟨rfl, rfl, rfl, rfl, fun hagree => hagree.1⟩
  have hbetween : left₁.Alike (draws = w.draws ∧ draws₂ = w₁.draws)
      (f.opened (fresh w₁ draws₂) path g₂) :=
    hsteady.alone.alike_fresh hend₁ (fun hagree => hagree.2) path g₂
  obtain ⟨v₁, u₁, us₁, ps, hrow₁', hos₁, hv₁, hu₁, hps, hps'⟩ :=
    hrow₁.alike (hstart.logs hlogs₁ hlogs) ⟨rfl, rfl⟩
  have hsession : Session.Alike (.start path s₁.current) u₁ := ⟨hu₁.path.trans hpath, hu₁.current⟩
  obtain ⟨v₂, u₂, us₂, qs, hrow₂', hos₂, hv₂, -, hqs, hqs'⟩ :=
    hrow₂.alike (hbetween.symm.trans hv₁) hsession
  have hrow := hrow₁'.append hrow₂'
  obtain ⟨w', hwhole, hend⟩ := fixFile_of_read (w := { w with draws }) halone.others hread
    (fixAll_eq_ok_iff.mpr ⟨_, hrow⟩)
  obtain ⟨-, houtcomes, -⟩ := hrow.recorded
  refine ⟨w', w₂, _, _, hwhole, hsecond, ⟨ps, qs, ?_, ?_, ?_⟩, ?_, ?_⟩
  · rw [hend₁.prompts, hps, hlogs₁.prompts]
  · rw [hend₂.prompts, hqs, hlogs₂.prompts]
    rfl
  · rw [hend.prompts, hqs', hps', hlogs.prompts, List.append_assoc]
  · change List.Forall₂ _ (s₁.outcomes ++ s₂.outcomes) u₂.outcomes
    rw [houtcomes, houtcomes₁, houtcomes₂]
    exact List.rel_append hos₁ hos₂
  · exact hend.tree.trans (hv₂.tree.trans hend₂.tree.symm)

/-- **Stopping between two attempts and starting afresh changes nothing**: prompts, outcomes,
counts and tree are those of the uninterrupted work. Whatever is drawn in either, the outcomes are
the same up to that, and where the same is drawn or files are written plainly they are equal. -/
theorem fixFile_restart (hgo : f.Uninterrupted w) (halone : f.Alone w) (hreal : f.dryRun = false)
    (path : Text) (g₁ g₂ : List Diagnostic) :
    ∃ w₁ first, f.fixFile w path g₁ = (w₁, .ok first) ∧ ∀ draws draws₂, ∃ w' w₂ whole second,
      Parts f w w₁ path g₁ g₂ draws draws₂ w' w₂ whole first second ∧
      (draws = w.draws ∧ draws₂ = w₁.draws ∨ f.files.atomic = false →
        whole.outcomes = first.outcomes ++ second.outcomes) ∧
      whole.total = first.total + second.total ∧
      whole.applied = first.applied + second.applied ∧
      whole.wouldApply = first.wouldApply + second.wouldApply ∧
      whole.failed = first.failed + second.failed := by
  obtain ⟨w₁, first, hfirst, hparts⟩ : ∃ w₁ first, f.fixFile w path g₁ = (w₁, .ok first) ∧
      ∀ draws draws₂, ∃ w' w₂ whole second,
        Parts f w w₁ path g₁ g₂ draws draws₂ w' w₂ whole first second := by
    cases hread : f.files.read w.tree path with
    | error failure => exact parts_of_unread halone.others hread g₁ g₂
    | ok content => exact parts_of_read hgo halone hreal hread g₁ g₂
  refine ⟨w₁, first, hfirst, fun draws draws₂ => ?_⟩
  obtain ⟨w', w₂, whole, second, h⟩ := hparts draws draws₂
  have hcounts := counts_append (fixFile_accounted h.run).tallied
    (fixFile_accounted hfirst).tallied (fixFile_accounted h.run₂).tallied h.outcomes
  exact ⟨w', w₂, whole, second, h,
    fun ha => (eq_of_forall₂_redrawn h.outcomes ha).symm, hcounts⟩

/-- The second part goes on with the draws that the first one has left. -/
theorem fixFile_restart_sample : ∃ w' w₁ w₂ whole first second,
    Parts sampleFixer sampleWorld w₁ "A" [sampleFinding] [sampleFinding] sampleWorld.draws w₁.draws
      w' w₂ whole first second ∧
    whole.outcomes = first.outcomes ++ second.outcomes := by
  obtain ⟨w₁, first, -, hparts⟩ :=
    fixFile_restart uninterrupted_sample alone_sample rfl "A" [sampleFinding] [sampleFinding]
  obtain ⟨w', w₂, whole, second, h, hsame, -⟩ := hparts sampleWorld.draws w₁.draws
  exact ⟨w', w₁, w₂, whole, first, second, h, hsame (.inl ⟨rfl, rfl⟩)⟩

end Fixer

end LintMend
