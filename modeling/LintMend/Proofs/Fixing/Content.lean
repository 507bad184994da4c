/-
LintMend.Proofs.Fixing.Content — prompt, memory and disk stay in step.

Where nobody else changes the tree, a file that could be read is fixed on from content to content:
each prompt holds the content that the last applied reply left, the session has it as its current
content, and the path reads as exactly that. The invariant of this is `Steady`; that it survives a
write, whatever becomes of the write, is what the modules on writing and on UTF-8 prove.

  `contentAfter`          — the next content, from outcome and reply alone
  `Steady`, `Steady.step` — what holds before and after each attempt
  `Follows`               — a row of attempts that goes from content to content
  `fixFile_follows`       — the attempts at one file
-/
import LintMend.Proofs.Fixing.Containment

namespace LintMend

variable {σ : Type}

/-! ## 1. Nobody else -/

namespace Fixer

variable {f : Fixer σ} {w w' : World σ} {s s' : Session} {d : Diagnostic}

/-- From a world on, nobody but the run changes the tree. -/
structure Alone (f : Fixer σ) (w : World σ) : Prop where
  others : w.others = []
  service : f.service.Always (fun a => ∀ t, a.change t = t) w.service

namespace Alone

theorem congr (h : f.Alone w) (hothers : w'.others = w.others)
    (hservice : w'.service = w.service) : f.Alone w' :=
  ⟨hothers.trans h.others, hservice ▸ h.service⟩

theorem logs (h : f.Alone w) (hlogs : w.Logs w') : f.Alone w' :=
  h.congr hlogs.others hlogs.service

theorem asked (h : f.Alone w) {result : Except Failure Text}
    (hasked : Asked f w s d w' result) : f.Alone w' ∧ w'.tree = w.tree := by
  refine ⟨⟨hasked.others.trans h.others, ?_⟩, ?_⟩
  · rw [hasked.service]
    exact h.service.next _
  · rw [hasked.tree]
    exact h.service.answer _ _

theorem wrote (h : f.Alone w) {path content : Text} {result : Except Failure Unit}
    (hwrote : Wrote f w path content w' result) : f.Alone w' := by
  cases hwrote with
  | spoiled => exact h.congr rfl rfl
  | failed _ _ hlogs | made _ _ hlogs =>
    rw [World.othersAct_of_alone h.others] at hlogs
    exact h.congr hlogs.others hlogs.service

/-- A write that fails leaves what was on disk. -/
theorem tree_of_failed (h : f.Alone w) {path content : Text} {failure : Failure}
    (hwrote : Wrote f w path content w' (.error failure)) : w'.tree = w.tree := by
  cases hwrote with
  | spoiled => rfl
  | failed _ hwrite hlogs =>
    rw [World.othersAct_of_alone h.others] at hwrite
    exact hlogs.tree.trans (SourceFiles.write_error hwrite)

/-- A write that succeeds leaves its content on disk. -/
theorem read_of_wrote (h : f.Alone w) {path content old : Text}
    (hread : f.files.read w.tree path = .ok old) (hwrote : Wrote f w path content w' (.ok ())) :
    f.files.read w'.tree path = .ok content := by
  cases hwrote with
  | made _ hwrite hlogs =>
    rw [World.othersAct_of_alone h.others] at hwrite
    rw [hlogs.tree]
    exact SourceFiles.read_of_write hread hwrite

end Alone

end Fixer

/-! ## 2. The contents -/

/-- The results of a service that is sent some prompts. -/
def Service.replies (svc : Service σ) : σ → List Text → List (Except Failure Json)
  | _, [] => []
  | state, prompt :: rest =>
    (svc.answer state prompt).result :: svc.replies (svc.answer state prompt).next rest

/-- The content after an attempt: what its reply brought if it was applied, else the one before. -/
def contentAfter (before : Text) (o : Outcome) (reply : Except Failure Json) : Text :=
  match o.status, (Fixer.usableContent reply).2 with
  | .applied, .ok content => content
  | _, _ => before

namespace Fixer

variable {f : Fixer σ} {w w' : World σ} {s s' : Session} {d : Diagnostic}

/-! ## 3. One attempt -/

/-- What holds between the attempts of a real run: nobody interferes, and the path reads as the
session's current content. -/
structure Steady (f : Fixer σ) (w : World σ) (s : Session) : Prop where
  uninterrupted : f.Uninterrupted w
  alone : f.Alone w
  disk : f.files.read w.tree s.path = .ok s.current

/-- What an attempt does to prompt, reply and content. -/
structure InStep (f : Fixer σ) (w : World σ) (s : Session) (d : Diagnostic) (w' : World σ)
    (s' : Session) (o : Outcome) : Prop where
  prompts : w'.prompts = w.prompts ++ [Prompt.text d s.current]
  service : w'.service = (f.service.answer w.service (Prompt.text d s.current)).next
  memory : s'.current =
    contentAfter s.current o (f.service.answer w.service (Prompt.text d s.current)).result
  applied : o.status = .applied ↔ ∃ content,
    (usableContent (f.service.answer w.service (Prompt.text d s.current)).result).2 =
        .ok content ∧
      (f.writeContent (f.request w s d).1 s.path content).2 = .ok ()

theorem contentAfter_of_ne {before : Text} {o : Outcome} (h : o.status ≠ .applied)
    (reply : Except Failure Json) : contentAfter before o reply = before := by
  unfold contentAfter
  split
  · next hstatus _ => exact absurd hstatus h
  · rfl

theorem contentAfter_of_applied {before content : Text} {o : Outcome}
    {reply : Except Failure Json} (h : o.status = .applied)
    (hreply : (usableContent reply).2 = .ok content) : contentAfter before o reply = content := by
  rw [contentAfter, h, hreply]

/-- An attempt whose reply is not applied leaves the session its content. -/
theorem InStep.of_kept {asked : World σ} {result : Except Failure Text} {o : Outcome}
    (ask : Asked f w s d asked result) (hprompts : w'.prompts = asked.prompts)
    (hservice : w'.service = asked.service) (hcurrent : s'.current = s.current)
    (hstatus : o.status ≠ .applied)
    (hunwritten : ∀ content, result = .ok content →
      (f.writeContent (f.request w s d).1 s.path content).2 ≠ .ok ()) :
    InStep f w s d w' s' o := by
  refine ⟨hprompts.trans ask.prompts, hservice.trans ask.service, ?_, ?_⟩
  · exact hcurrent.trans (contentAfter_of_ne hstatus _).symm
  · rw [← ask.result]
    constructor
    · intro happlied
      exact absurd happlied hstatus
    · rintro ⟨content, hcontent, hwritten⟩
      exact absurd hwritten (hunwritten content hcontent)

theorem Steady.step (h : f.Steady w s) (hreal : f.dryRun = false)
    {r : World σ × Session × Outcome} (hr : Attempted f w s d r) :
    InStep f w s d r.1 r.2.1 r.2.2 ∧ f.Steady r.1 r.2.1 := by
  have hgo := h.uninterrupted.attempted hr
  have hthere := SourceFiles.isThere_of_read h.disk
  have hact := World.othersAct_of_alone h.alone.others
  -- of the five ends of an attempt, two need a missing file or a dry run
  cases hr with
  | missing hmissing =>
    rw [hact] at hmissing
    exact absurd (hthere.symm.trans hmissing) (by simp)
  | simulated _ _ hdry => exact absurd (hreal.symm.trans hdry) (by simp)
  | @refused asked failure _ hasked _ =>
    rw [hact] at hasked
    have ask := asked_of_request hasked
    have hlogs := logs_failAnswer f asked s d failure
    have hstatus : statusOf failure ≠ .applied := by cases failure <;> simp [statusOf]
    obtain ⟨halone, htree⟩ := h.alone.asked ask
    refine ⟨.of_kept ask hlogs.prompts hlogs.service rfl hstatus (by simp),
      hgo, halone.logs hlogs, ?_⟩
    rw [hlogs.tree, htree]
    exact h.disk
  | @unwritten asked left content failure _ hasked _ hleft _ =>
    rw [hact] at hasked
    have ask := asked_of_request hasked
    have wrote := wrote_of_writeContent hleft
    have hlogs := logs_failWrite f left s d failure
    obtain ⟨halone, htree⟩ := h.alone.asked ask
    refine ⟨.of_kept ask (hlogs.prompts.trans wrote.prompts) (hlogs.service.trans wrote.service)
      rfl (by simp [failWrite, fail]) ?_, hgo, (halone.wrote wrote).logs hlogs, ?_⟩
    · rintro content' hcontent hwritten
      obtain rfl := Except.ok.inj hcontent
      rw [hasked, hleft] at hwritten
      exact absurd hwritten (by simp)
    · rw [hlogs.tree, halone.tree_of_failed wrote, htree]
      exact h.disk
  | @written asked left content _ hasked _ hleft =>
    rw [hact] at hasked
    have ask := asked_of_request hasked
    have wrote := wrote_of_writeContent hleft
    obtain ⟨halone, htree⟩ := h.alone.asked ask
    refine ⟨⟨wrote.prompts.trans ask.prompts, wrote.service.trans ask.service, ?_, ?_⟩,
      hgo, (halone.wrote wrote).logs (World.logs_emit _ _), ?_⟩
    · exact (contentAfter_of_applied rfl ask.result.symm).symm
    · rw [← ask.result, hasked]
      exact ⟨fun _ => ⟨content, rfl, by rw [hleft]⟩, fun _ => rfl⟩
    · have hdisk : f.files.read asked.tree s.path = .ok s.current := htree ▸ h.disk
      have hpath : (apply left s d content).2.1.path = s.path := Session.recordSuccess_path ..
      rw [hpath]
      change f.files.read left.tree s.path = .ok content
      exact halone.read_of_wrote hdisk wrote

/-- Where nobody interferes and the file is there, an attempt has an outcome. -/
theorem exists_attempted (hgo : f.Uninterrupted w) (halone : f.Alone w)
    (hthere : f.files.isThere w.tree s.path = .ok true) (d : Diagnostic) :
    ∃ r, Attempted f w s d r := by
  rw [← World.othersAct_of_alone halone.others] at hthere
  rcases fixDiagnostic_cases f w s d with ⟨e, hlook, -⟩ | ⟨w', hstop, -⟩ | hr
  · exact absurd (hthere.symm.trans hlook) (by simp)
  · exact absurd hstop hgo.not_stopped
  · exact hr

theorem Steady.attempt (h : f.Steady w s) (d : Diagnostic) : ∃ r, Attempted f w s d r :=
  exists_attempted h.uninterrupted h.alone (SourceFiles.isThere_of_read h.disk) d

/-! ## 4. A row of attempts -/

/-- A row of attempts goes from content to content. Before the attempt at position `k` the session
has content number `k`, of which the prompt is made; after it the session has content number
`k + 1`, and so has the file. -/
structure Follows (f : Fixer σ) (w : World σ) (s : Session) (ds : List Diagnostic)
    (prompts : List Text) (os : List Outcome) (content : Nat → Text) : Prop where
  prompts_length : prompts.length = ds.length
  outcomes_length : os.length = ds.length
  start : content 0 = s.current
  attempt : ∀ k d, ds[k]? = some d → ∃ before after s₁ s₂ o reply,
    f.fixAll w s (ds.take k) = (before, .ok s₁) ∧
    f.fixAll w s (ds.take (k + 1)) = (after, .ok s₂) ∧
    prompts[k]? = some (Prompt.text d (content k)) ∧
    (f.service.replies w.service prompts)[k]? = some reply ∧
    os[k]? = some o ∧ o.diagnostic = d ∧
    content (k + 1) = contentAfter (content k) o reply ∧
    s₂.current = content (k + 1) ∧
    f.files.read after.tree s.path = .ok (content (k + 1)) ∧
    (o.status = .applied ↔ ∃ value envelope, reply = .ok value ∧
      (Envelope.check value).2 = .ok envelope ∧
      Fence.stripFences envelope.response ≠ [] ∧
      (f.writeContent (f.request before s₁ d).1 s.path
        (Fence.stripFences envelope.response)).2 = .ok ()) ∧
    (o.status = .applied → (content (k + 1)).isBlank = false)

/-- The content after an applied fix is more than whitespace. -/
theorem isBlank_contentAfter {before : Text} {o : Outcome} {reply : Except Failure Json}
    (h : ∃ fixed, (usableContent reply).2 = .ok fixed) (ho : o.status = .applied) :
    (contentAfter before o reply).isBlank = false := by
  obtain ⟨fixed, hfixed⟩ := h
  rw [contentAfter_of_applied ho hfixed]
  exact isBlank_of_usable hfixed

/-- An attempt, and a row that goes on from it. -/
theorem Follows.cons {w₁ : World σ} {s₁ : Session} {o : Outcome} {rest : List Diagnostic}
    {prompts : List Text} {os : List Outcome} {content : Nat → Text} (h : f.Steady w s)
    (hreal : f.dryRun = false) (hd : Attempted f w s d (w₁, s₁, o))
    (hrest : Follows f w₁ s₁ rest prompts os content) :
    Follows f w s (d :: rest) (Prompt.text d s.current :: prompts) (o :: os)
      (fun | 0 => s.current | k + 1 => content k) := by
  obtain ⟨hstep, hsteady⟩ := h.step hreal hd
  have hfix := fixDiagnostic_eq_ok_iff.mpr hd
  have hservice := hstep.service
  have hmemory := hstep.memory
  dsimp only at hservice hmemory
  have hpath : s₁.path = s.path := hd.recorded.path
  refine ⟨by simp [hrest.prompts_length], by simp [hrest.outcomes_length], rfl,
    fun k d' hk => ?_⟩
  -- the first attempt starts from what the session has, the others are those of the rest
  cases k with
  | zero =>
    obtain rfl : d = d' := by simpa using hk
    refine ⟨w, w₁, s, s₁, o, _, rfl, by simp [fixAll, hfix], rfl, rfl, rfl,
      hd.recorded.diagnostic, ?_, hrest.start.symm, ?_, ?_, ?_⟩
    · dsimp only
      rw [hrest.start, hmemory]
    · dsimp only
      rw [hrest.start, ← hpath]
      exact hsteady.disk
    · rw [hstep.applied, exists_usableContent_iff]
    · intro ho
      obtain ⟨fixed, hfixed, -⟩ := hstep.applied.mp ho
      dsimp only
      rw [hrest.start, hmemory]
      exact isBlank_contentAfter ⟨fixed, hfixed⟩ ho
  | succ k =>
    obtain ⟨before, after, s₂, s₃, o', reply, hbefore, hafter, hrow⟩ :=
      hrest.attempt k d' (by simpa using hk)
    rw [hpath, hservice] at hrow
    refine ⟨before, after, s₂, s₃, o', reply, ?_, ?_, hrow⟩
    · rw [List.take_succ_cons, fixAll, hfix]
      exact hbefore
    · rw [List.take_succ_cons, fixAll, hfix]
      exact hafter

/-- From a steady world a row of attempts ends in one, and goes from content to content. -/
theorem Steady.follows (ds : List Diagnostic) (h : f.Steady w s) (hreal : f.dryRun = false) :
    ∃ w' s' prompts os content, f.fixAll w s ds = (w', .ok s') ∧ f.Steady w' s' ∧
      w'.prompts = w.prompts ++ prompts ∧ AttemptedAll f w s ds os w' s' ∧
      Follows f w s ds prompts os content ∧ s'.current = content ds.length := by
  induction ds generalizing w s with
  | nil =>
    exact ⟨w, s, [], [], fun _ => s.current, rfl, h, by simp, .done w s, ⟨rfl, rfl, rfl, by simp⟩,
      rfl⟩
  | cons d rest ih =>
    obtain ⟨⟨w₁, s₁, o⟩, hd⟩ := h.attempt d
    obtain ⟨hstep, hsteady⟩ := h.step hreal hd
    obtain ⟨w', s', prompts, os, content, hall, hsteady', hprompts, hrow, hfollows, hcurrent⟩ :=
      ih hsteady
    refine ⟨w', s', _, _, _, ?_, hsteady', ?_, .next hd hrow, hfollows.cons h hreal hd, hcurrent⟩
    · rw [fixAll, fixDiagnostic_eq_ok_iff.mpr hd]
      exact hall
    · rw [hprompts, hstep.prompts, List.append_assoc, List.singleton_append]

/-! ## 5. A file -/

/-- The world in which the attempts at a file start. -/
def opened (f : Fixer σ) (w : World σ) (path : Text) (ds : List Diagnostic) : World σ :=
  (f.readFile (w.bind "file" (.text path)) path).1.emit (.sessionStarted ds.length)

theorem readFile_of_alone (h : w.others = []) (path : Text) :
    f.readFile w path = (w, f.files.read w.tree path) := by
  simp only [readFile, World.othersAct_of_alone h, SourceFiles.read]

theorem logs_opened (h : w.others = []) (path : Text) (ds : List Diagnostic) :
    w.Logs (f.opened w path ds) := by
  have hbound : (w.bind "file" (.text path)).others = [] := h
  rw [opened, readFile_of_alone hbound]
  exact ⟨rfl, rfl, rfl, rfl, rfl, rfl⟩

/-- A file that could be read has the summary of its attempts. -/
theorem fixFile_of_read {path content : Text} {ds : List Diagnostic} {left : World σ}
    (h : w.others = []) (hread : f.files.read w.tree path = .ok content)
    (hall : f.fixAll (f.opened w path ds) (.start path content) ds = (left, .ok s)) :
    ∃ w', f.fixFile w path ds = (w', .ok s.summary) ∧ left.Logs w' := by
  have hbound : (w.bind "file" (.text path)).others = [] := h
  have hopened := readFile_of_alone (f := f) hbound path
  rw [opened, hopened] at hall
  rw [fixFile, fixGroup_of_read (hopened.trans (congrArg _ hread)), hall]
  exact ⟨_, rfl, rfl, rfl, rfl, rfl, rfl, rfl⟩

/-- A file that cannot be read fails all its diagnostics and stays as it is. -/
theorem fixFile_of_unread {path : Text} {failure : Failure} (h : w.others = [])
    (hread : f.files.read w.tree path = .error failure) (ds : List Diagnostic) :
    ∃ w', f.fixFile w path ds =
      (w', .ok (.allFailed path ds (unreadStatus failure) (failure.text f.wording))) ∧
        w.Logs w' := by
  have hbound : (w.bind "file" (.text path)).others = [] := h
  have hopened := (readFile_of_alone (f := f) hbound path).trans (congrArg _ hread)
  obtain ⟨left, hlogs, hall⟩ := fixGroup_of_unread hopened ds
  rw [fixFile, hall]
  exact ⟨_, rfl, hlogs.tree, hlogs.service, hlogs.others, hlogs.writeFault, hlogs.draws,
    hlogs.prompts⟩

/-- **Prompt, memory and disk stay in step** while the diagnostics of a file are fixed. -/
theorem fixFile_follows {path c₀ : Text} (hgo : f.Uninterrupted w) (halone : f.Alone w)
    (hreal : f.dryRun = false) (hread : f.files.read w.tree path = .ok c₀)
    (ds : List Diagnostic) : ∃ w' summary prompts content,
      f.fixFile w path ds = (w', .ok summary) ∧ w'.prompts = w.prompts ++ prompts ∧
      f.files.read w'.tree path = .ok (content ds.length) ∧
      Follows f (f.opened w path ds) (.start path c₀) ds prompts summary.outcomes content := by
  have hlogs := logs_opened (f := f) halone.others path ds
  have hsteady : f.Steady (f.opened w path ds) (.start path c₀) :=
    ⟨hgo.logs hlogs, halone.logs hlogs, by rw [hlogs.tree]; exact hread⟩
  obtain ⟨left, s', prompts, os, content, hall, hsteady', hprompts, hrow, hfollows, hcurrent⟩ :=
    hsteady.follows ds hreal
  obtain ⟨w', hfile, hlogs'⟩ := fixFile_of_read halone.others hread hall
  obtain ⟨hpath, houtcomes, -⟩ := hrow.recorded
  have hos : s'.summary.outcomes = os := houtcomes
  refine ⟨w', s'.summary, prompts, content, hfile, ?_, ?_, hos ▸ hfollows⟩
  · rw [hlogs'.prompts, hprompts, hlogs.prompts]
  · have hdisk := hsteady'.disk
    rw [hpath, hcurrent, ← hlogs'.tree] at hdisk
    exact hdisk

/-! ## 6. The small world -/

theorem suffix_sample {rest : List Reply} (h : rest <:+ sampleWorld.service) :
    rest = sampleWorld.service ∨ rest = [] := by
  rcases List.suffix_cons_iff.mp h with rfl | hnil
  · exact .inl rfl
  · exact .inr (List.suffix_nil.mp hnil)

theorem uninterrupted_sample : sampleFixer.Uninterrupted sampleWorld := by
  refine ⟨Service.always_ofScript fun rest hrest prompt => ?_, by simp [sampleWorld]⟩
  rcases suffix_sample hrest with rfl | rfl
  · exact ⟨by simp [sampleWorld, Service.ofScript], by simp [sampleWorld, Service.ofScript]⟩
  · exact ⟨by simp [Service.ofScript], by simp [Service.ofScript]⟩

theorem alone_sample : sampleFixer.Alone sampleWorld := by
  refine ⟨rfl, Service.always_ofScript fun rest hrest prompt t => ?_⟩
  rcases suffix_sample hrest with rfl | rfl <;> rfl

theorem read_sample : sampleFixer.files.read sampleWorld.tree "A" = .ok "a" := by
  cbv

/-- The letter is read back as it is after the one fix and the failure that follows it. -/
theorem fixFile_follows_sample : ∃ w' summary prompts content,
    sampleFixer.fixFile sampleWorld "A" [sampleFinding, sampleFinding] = (w', .ok summary) ∧
    w'.prompts = [] ++ prompts ∧ sampleFixer.files.read w'.tree "A" = .ok (content 2) ∧
    Follows sampleFixer (sampleFixer.opened sampleWorld "A" [sampleFinding, sampleFinding])
      (.start "A" "a") [sampleFinding, sampleFinding] prompts summary.outcomes content :=
  fixFile_follows uninterrupted_sample alone_sample rfl read_sample _

end Fixer

end LintMend
